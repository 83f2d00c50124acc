import CosmosRl.Worker.SFTPolicyWorker

/-!
Resuming a supervised run.

The epoch, the position in it and the one-shot skip put a resumed run before the batch
that an uninterrupted run trains on next.  Both loops test for the last step only after a
batch, so that a run resumed from its last checkpoint trains on one batch more where the
epochs hold more batches than `max_num_steps`.
-/

namespace CosmosRl.Worker

open CosmosRl.Foundation CosmosRl.Dispatcher List

section Rounds

variable {config : SftTrainConfig} (runner : SftRunner config)

@[simp]
theorem saveCheckpoint_trained (run : SftRun) :
    (saveCheckpoint config run).trained = run.trained := by
  unfold saveCheckpoint
  split <;> rfl

@[simp]
theorem saveCheckpoint_trainStep (run : SftRun) :
    (saveCheckpoint config run).trainStep = run.trainStep := by
  unfold saveCheckpoint
  split <;> rfl

@[simp]
theorem saveCheckpoint_stopTraining (run : SftRun) :
    (saveCheckpoint config run).stopTraining = run.stopTraining := by
  unfold saveCheckpoint
  split <;> rfl

@[simp]
theorem saveCheckpoint_error (run : SftRun) : (saveCheckpoint config run).error = run.error := by
  unfold saveCheckpoint
  split <;> rfl

@[simp]
theorem finalCheckpointing_trained (run : SftRun) :
    (finalCheckpointing config run).trained = run.trained := by
  unfold finalCheckpointing
  split
  · rfl
  · exact saveCheckpoint_trained run

@[simp]
theorem finalCheckpointing_error (run : SftRun) :
    (finalCheckpointing config run).error = run.error := by
  unfold finalCheckpointing
  split
  · rfl
  · exact saveCheckpoint_error run

structure Trained (batch : List Nat) (run next : SftRun) : Prop where
  trained : next.trained = run.trained ++ [batch]
  trainStep : next.trainStep = run.trainStep + 1
  stopTraining : next.stopTraining = decide (runner.totalSteps ≤ run.trainStep + 1)
  error : next.error ≠ none ↔ run.trainStep + 1 < runner.totalSteps ∧ runner.saveFreq = 0

variable {run : SftRun}

theorem trainBatch_trained (batch : List Nat) (running : ¬run.Halted) :
    Trained runner batch run (trainBatch runner batch run) := by
  obtain ⟨notStopped, noError⟩ := not_or.mp running
  rw [Bool.not_eq_true] at notStopped
  rw [not_not] at noError
  unfold trainBatch
  by_cases last : runner.totalSteps ≤ run.trainStep + 1
  · rw [if_pos last]
    refine ⟨rfl, rfl, (decide_eq_true last).symm, ?_⟩
    exact iff_of_false (fun failed => failed noError) fun both => Nat.not_le.mpr both.1 last
  · have goesOn : run.stopTraining = decide (runner.totalSteps ≤ run.trainStep + 1) :=
      notStopped.trans (decide_eq_false last).symm
    rw [if_neg last, checkpointing]
    split
    case isTrue zero =>
      exact ⟨rfl, rfl, goesOn, iff_of_true (by simp) ⟨Nat.not_le.mp last, zero⟩⟩
    case isFalse positive =>
      split
      · refine ⟨by simp, by simp, by simpa using goesOn, ?_⟩
        exact iff_of_false (by simpa using noError) fun both => positive both.2
      · refine ⟨rfl, rfl, goesOn, ?_⟩
        exact iff_of_false (fun failed => failed noError) fun both => positive both.2

theorem Trained.halted_iff {batch : List Nat} {next : SftRun}
    (step : Trained runner batch run next) :
    next.Halted ↔ runner.totalSteps ≤ run.trainStep + 1 ∨ runner.saveFreq = 0 := by
  rw [SftRun.Halted, step.stopTraining, step.error, decide_eq_true_eq]
  omega

theorem trainBatches_append (first second : List (List Nat)) (running : ¬run.Halted) :
    trainBatches runner (first ++ second) run =
      if (trainBatches runner first run).Halted then trainBatches runner first run
      else trainBatches runner second (trainBatches runner first run) := by
  induction first generalizing run with
  | nil => rw [nil_append, trainBatches, if_neg running]
  | cons batch rest ih =>
    rw [cons_append, trainBatches, trainBatches]
    by_cases halted : (trainBatch runner batch run).Halted
    · simp [halted]
    · simp only [halted, if_false]
      exact ih halted

def roundsLeft (trainStep : Nat) : Nat :=
  if runner.saveFreq = 0 then 1 else max 1 (runner.totalSteps - trainStep)

theorem trained_trainBatches (batches : List (List Nat)) (running : ¬run.Halted) :
    (trainBatches runner batches run).trained =
      run.trained ++ batches.take (roundsLeft runner run.trainStep) := by
  induction batches generalizing run with
  | nil => simp [trainBatches]
  | cons batch rest ih =>
    have step := trainBatch_trained runner batch running
    rw [trainBatches]
    by_cases halted : (trainBatch runner batch run).Halted
    · have lastRound : roundsLeft runner run.trainStep = 1 := by
        rcases (Trained.halted_iff runner step).mp halted with last | zero
        · unfold roundsLeft
          split
          · rfl
          · omega
        · exact if_pos zero
      rw [if_pos halted, step.trained, lastRound, take_one, head?_cons, Option.toList_some]
    · have further : roundsLeft runner run.trainStep =
          roundsLeft runner (run.trainStep + 1) + 1 := by
        obtain ⟨more, positive⟩ := not_or.mp fun ends =>
          halted ((Trained.halted_iff runner step).mpr ends)
        rw [roundsLeft, roundsLeft, if_neg positive, if_neg positive]
        omega
      rw [if_neg halted, ih halted, step.trained, step.trainStep, further,
        take_succ_cons, append_assoc, singleton_append]

theorem trainBatches_error_eq_none_iff (batches : List (List Nat)) (running : ¬run.Halted) :
    (trainBatches runner batches run).error = none ↔
      batches = [] ∨ runner.saveFreq ≠ 0 ∨ runner.totalSteps ≤ run.trainStep + 1 := by
  induction batches generalizing run with
  | nil => simpa [trainBatches] using (not_or.mp running).2
  | cons batch rest ih =>
    have step := trainBatch_trained runner batch running
    have halts := Trained.halted_iff runner step
    rw [trainBatches, or_iff_right (cons_ne_nil _ _)]
    by_cases halted : (trainBatch runner batch run).Halted
    · rw [if_pos halted, ← not_iff_not, ← ne_eq, step.error]
      omega
    · obtain ⟨more, positive⟩ := not_or.mp fun ends => halted (halts.mpr ends)
      rw [if_neg halted, ih halted]
      exact iff_of_true (.inr (.inl positive)) (.inl positive)

variable (config)

def stepsPerEpoch : Nat :=
  batchCount config.trainBatchPerReplica config.dataloaderDropLast config.numSamples

variable {config} (sampler : SizedSampler config.numSamples)

def epochBatches (epoch : Nat) : List (List Nat) :=
  trainDataLoaderBatches config (sampler.order epoch)

@[simp]
theorem length_epochBatches (epoch : Nat) :
    (epochBatches sampler epoch).length = stepsPerEpoch config := by
  rw [epochBatches, trainDataLoaderBatches, length_inBatches, sampler.length_order, stepsPerEpoch]

def batchesOfEpochs (first count : Nat) : List (List Nat) :=
  (List.range' first count).flatMap (epochBatches sampler)

@[simp]
theorem length_batchesOfEpochs (first count : Nat) :
    (batchesOfEpochs sampler first count).length = stepsPerEpoch config * count := by
  simp [batchesOfEpochs, length_flatMap, Nat.mul_comm]

theorem batchesOfEpochs_succ (first count : Nat) :
    batchesOfEpochs sampler first (count + 1) =
      epochBatches sampler first ++ batchesOfEpochs sampler (first + 1) count := by
  rw [batchesOfEpochs, range'_succ, flatMap_cons, batchesOfEpochs]

theorem drop_batchesOfEpochs (first : Nat) {past offset count : Nat} (early : past < count)
    (within : offset ≤ stepsPerEpoch config) :
    (batchesOfEpochs sampler first count).drop (stepsPerEpoch config * past + offset) =
      (epochBatches sampler (first + past)).drop offset ++
        batchesOfEpochs sampler (first + past + 1) (count - past - 1) := by
  induction past generalizing first count with
  | zero =>
    obtain ⟨later, rfl⟩ := Nat.exists_eq_add_of_lt early
    rw [Nat.zero_add, batchesOfEpochs_succ, Nat.mul_zero, Nat.zero_add,
      drop_append_of_le_length (by rwa [length_epochBatches])]
    rfl
  | succ past ih =>
    obtain ⟨later, rfl⟩ := Nat.exists_eq_add_of_lt early
    have skipped : stepsPerEpoch config * (past + 1) + offset =
        (epochBatches sampler first).length + (stepsPerEpoch config * past + offset) := by
      rw [length_epochBatches, Nat.mul_succ]
      omega
    have next : first + (past + 1) = first + 1 + past := by omega
    have rest : past + 1 + later + 1 - (past + 1) - 1 = past + 1 + later - past - 1 := by
      omega
    rw [batchesOfEpochs_succ, skipped, drop_length_add_append, next, rest]
    exact ih (first + 1) (by omega)

def YieldsEpochs (trainSampler : TrainSampler) : Prop :=
  ∀ epoch, trainSampler.iter epoch = (sampler.order epoch, trainSampler)

theorem trainEpochs_eq {trainSampler : TrainSampler}
    (whole : YieldsEpochs sampler trainSampler) (left curEpoch : Nat) (running : ¬run.Halted) :
    trainEpochs runner left curEpoch trainSampler run =
      trainBatches runner (batchesOfEpochs sampler curEpoch left) run := by
  induction left generalizing curEpoch run with
  | zero => rfl
  | succ left ih =>
    rw [batchesOfEpochs_succ, trainBatches_append runner _ _ running, trainEpochs, whole]
    show (if (trainBatches runner (epochBatches sampler curEpoch) run).Halted then
      trainBatches runner (epochBatches sampler curEpoch) run else _) = _
    split
    case isTrue => rfl
    case isFalse going => exact ih (curEpoch + 1) going

theorem trainEpochs_skipping_eq (left curEpoch skipped : Nat) (running : ¬run.Halted) :
    trainEpochs runner (left + 1) curEpoch
        (.skipping
          { base := sampler, initialSkip := skipped * config.trainBatchPerReplica }) run =
      trainBatches runner ((epochBatches sampler curEpoch).drop skipped ++
        batchesOfEpochs sampler (curEpoch + 1) left) run := by
  have first : trainDataLoaderBatches config
      ((sampler.order curEpoch).drop (skipped * config.trainBatchPerReplica)) =
      (epochBatches sampler curEpoch).drop skipped :=
    inBatches_drop_mul config.trainBatchPerReplica_pos _ _ _
  rw [trainBatches_append runner _ _ running, ← first]
  show (if (trainBatches runner (trainDataLoaderBatches config
      ((sampler.order curEpoch).drop (skipped * config.trainBatchPerReplica))) run).Halted then
    trainBatches runner (trainDataLoaderBatches config
      ((sampler.order curEpoch).drop (skipped * config.trainBatchPerReplica))) run else _) = _
  split
  case isTrue => rfl
  case isFalse going =>
    exact trainEpochs_eq runner sampler (fun _ => rfl) left (curEpoch + 1) going

end Rounds

section Resumed

variable {config : SftTrainConfig} {sampler : SizedSampler config.numSamples}
  {ckptTotalSteps trainStep : Nat}

def allBatches (sampler : SizedSampler config.numSamples) : List (List Nat) :=
  batchesOfEpochs sampler 0 config.epoch

variable (sampler ckptTotalSteps trainStep) in
/-- The runner goes on with the batches after the first ones.  The dataloader had the
batches that are left of the epoch when its length was taken. -/
structure RunnerAt (runner : SftRunner config) : Prop where
  built : buildRunner config sampler ckptTotalSteps trainStep = .ok runner
  startsAt : runner.trainStep = trainStep
  totalSteps : runner.totalSteps = sftTotalSteps config ckptTotalSteps
    (stepsPerEpoch config - trainStep % stepsPerEpoch config)
  saveFreq : runner.saveFreq =
    sftSaveFreq config (stepsPerEpoch config - trainStep % stepsPerEpoch config)
  goesOn : mainLoop runner = finalCheckpointing config
    (trainBatches runner ((allBatches sampler).drop trainStep) { trainStep := trainStep })

theorem notHalted_start : ¬SftRun.Halted { trainStep := trainStep } := by
  simp [SftRun.Halted]

variable (sampler ckptTotalSteps) in
theorem runnerAt_fresh : ∃ runner, RunnerAt sampler ckptTotalSteps 0 runner := by
  have position : resumePosition config sampler 0 = .ok (.plain sampler, 0) :=
    if_neg fun both => Nat.lt_irrefl 0 both.2
  refine ⟨_, ⟨by rw [buildRunner, position]; rfl, rfl, ?_, ?_, ?_⟩⟩
  · rw [Nat.zero_mod]
    rfl
  · rw [Nat.zero_mod]
    rfl
  · rw [mainLoop, trainEpochs_eq _ sampler (fun _ => rfl) _ _ notHalted_start]
    rfl

variable (sampler ckptTotalSteps) in
theorem runnerAt_resumed (resumes : config.resume = true) (later : 0 < trainStep)
    (someSteps : 0 < stepsPerEpoch config) :
    ∃ runner, RunnerAt sampler ckptTotalSteps trainStep runner := by
  have position : resumePosition config sampler trainStep =
      .ok (.skipping
          { base := sampler
            initialSkip := trainStep % stepsPerEpoch config * config.trainBatchPerReplica },
        trainStep / stepsPerEpoch config) := by
    rw [resumePosition, if_pos ⟨resumes, later⟩]
    exact if_neg (Nat.ne_of_gt someSteps)
  have loaderLen : trainDataLoaderLen config (.skipping
      { base := sampler
        initialSkip := trainStep % stepsPerEpoch config * config.trainBatchPerReplica }) =
      stepsPerEpoch config - trainStep % stepsPerEpoch config :=
    batchCount_sub_mul config.trainBatchPerReplica_pos _ _ _
  refine ⟨_, ⟨by rw [buildRunner, position]; rfl, rfl,
    congrArg (sftTotalSteps config ckptTotalSteps) loaderLen,
    congrArg (sftSaveFreq config) loaderLen, ?_⟩⟩
  have whole := Nat.div_add_mod trainStep (stepsPerEpoch config)
  rw [mainLoop]
  show finalCheckpointing config (trainEpochs _
    (config.epoch - trainStep / stepsPerEpoch config)
    (trainStep / stepsPerEpoch config) _ _) = _
  rcases Nat.lt_or_ge (trainStep / stepsPerEpoch config) config.epoch with early | beyond
  · obtain ⟨left, isLeft⟩ : ∃ left, config.epoch - trainStep / stepsPerEpoch config = left + 1 :=
      ⟨_, (Nat.succ_pred (Nat.sub_ne_zero_of_lt early)).symm⟩
    have remaining := drop_batchesOfEpochs sampler 0 early
      (Nat.le_of_lt (Nat.mod_lt trainStep someSteps))
    rw [whole, isLeft, Nat.zero_add, Nat.add_sub_cancel] at remaining
    rw [isLeft, trainEpochs_skipping_eq _ sampler _ _ _ notHalted_start, ← remaining]
    rfl
  · have done : (allBatches sampler).drop trainStep = [] := by
      rw [drop_eq_nil_iff, allBatches, length_batchesOfEpochs]
      exact Nat.le_trans (Nat.mul_le_mul_left _ beyond) (by omega)
    rw [Nat.sub_eq_zero_of_le beyond, done]
    rfl

variable {runner : SftRunner config}

theorem RunnerAt.trained (ready : RunnerAt sampler ckptTotalSteps trainStep runner) :
    (mainLoop runner).trained =
      ((allBatches sampler).drop trainStep).take (roundsLeft runner trainStep) := by
  rw [ready.goesOn, finalCheckpointing_trained, trained_trainBatches _ _ notHalted_start,
    nil_append]

theorem RunnerAt.error_eq_none_iff (ready : RunnerAt sampler ckptTotalSteps trainStep runner) :
    (mainLoop runner).error = none ↔ (allBatches sampler).drop trainStep = [] ∨
      runner.saveFreq ≠ 0 ∨ runner.totalSteps ≤ trainStep + 1 := by
  rw [ready.goesOn, finalCheckpointing_error, trainBatches_error_eq_none_iff _ _ notHalted_start]

theorem sftTotalSteps_le (loaderLen : Nat) :
    sftTotalSteps config 0 loaderLen ≤ loaderLen * config.epoch := by
  unfold sftTotalSteps
  cases config.maxNumSteps with
  | none => exact Nat.le_refl _
  | some maxNumSteps => exact Nat.min_le_left _ _

theorem lt_sftTotalSteps_iff {loaderLen step : Nat} :
    step < sftTotalSteps config 0 loaderLen ↔ step < loaderLen * config.epoch ∧
      ∀ maxNumSteps, config.maxNumSteps = some maxNumSteps → step < maxNumSteps := by
  unfold sftTotalSteps
  cases config.maxNumSteps with
  | none => simp
  | some maxNumSteps => simp

theorem sftTotalSteps_of_checkpoint {loaderLen : Nat}
    (positive : 0 < sftTotalSteps config 0 loaderLen) (laterLen : Nat) :
    sftTotalSteps config (sftTotalSteps config 0 loaderLen) laterLen =
      sftTotalSteps config 0 loaderLen := by
  rw [sftTotalSteps, if_pos positive]
  unfold sftTotalSteps
  cases config.maxNumSteps with
  | none => rfl
  | some maxNumSteps => exact Nat.min_eq_left (Nat.min_le_right _ _)

theorem sftSaveFreq_ne_zero_iff {loaderLen : Nat} :
    sftSaveFreq config loaderLen ≠ 0 ↔ config.saveFreqInEpoch = 0 ∨
      config.dpWorldSize ≤ config.saveFreqInEpoch * loaderLen := by
  unfold sftSaveFreq
  split
  case isTrue inEpochs =>
    rw [or_iff_right (Nat.ne_of_gt inEpochs), ← Nat.pos_iff_ne_zero, Nat.div_pos_iff]
    exact and_iff_right config.dpWorldSize_pos
  case isFalse inSteps =>
    have disabled : config.saveFreqInEpoch = 0 := by omega
    exact iff_of_true (Nat.ne_of_gt (config.saveFreq_pos disabled)) (.inl disabled)

def ResumesStream (sampler : SizedSampler config.numSamples) (fresh : SftRunner config)
    (trainStep : Nat) : Prop :=
  ∃ resumed, buildRunner config sampler fresh.totalSteps trainStep = .ok resumed ∧
    (mainLoop resumed).trained = (mainLoop fresh).trained.drop trainStep

def ResumesInTime (config : SftTrainConfig) (trainStep : Nat) : Prop :=
  stepsPerEpoch config * config.epoch ≤ trainStep ∨
    (∀ maxNumSteps, config.maxNumSteps = some maxNumSteps → trainStep < maxNumSteps) ∧
      (config.saveFreqInEpoch = 0 ∨
        config.dpWorldSize ≤ config.saveFreqInEpoch *
          (stepsPerEpoch config - trainStep % stepsPerEpoch config) ∨
        trainStep + 1 = sftTotalSteps config 0 (stepsPerEpoch config))

theorem length_allBatches : (allBatches sampler).length = stepsPerEpoch config * config.epoch :=
  length_batchesOfEpochs sampler 0 config.epoch

theorem RunnerAt.unique {other : SftRunner config}
    (ready : RunnerAt sampler ckptTotalSteps trainStep runner)
    (built : buildRunner config sampler ckptTotalSteps trainStep = .ok other) :
    runner = other :=
  Except.ok.inj (ready.built.symm.trans built)

theorem RunnerAt.roundsLeft_fresh (ready : RunnerAt sampler 0 0 runner)
    (completes : (mainLoop runner).error = none)
    (someBatches : 0 < stepsPerEpoch config * config.epoch) :
    0 < runner.totalSteps ∧ runner.totalSteps ≤ stepsPerEpoch config * config.epoch ∧
      roundsLeft runner 0 = runner.totalSteps := by
  have total := ready.totalSteps
  rw [Nat.zero_mod, Nat.sub_zero] at total
  have positive : 0 < runner.totalSteps := by
    rw [total]
    exact lt_sftTotalSteps_iff.mpr ⟨someBatches, config.maxNumSteps_pos⟩
  have within : runner.totalSteps ≤ stepsPerEpoch config * config.epoch := by
    rw [total]
    exact sftTotalSteps_le _
  refine ⟨positive, within, ?_⟩
  have some : ¬(allBatches sampler).drop 0 = [] := by
    rw [drop_zero, ← length_eq_zero_iff, length_allBatches]
    omega
  have unbroken := ready.error_eq_none_iff.mp completes
  rw [or_iff_right some] at unbroken
  unfold roundsLeft
  split <;> omega

/-- The stream of a resumed run is the rest of the uninterrupted run's exactly if the
checkpoint is not that of the last step by `max_num_steps`, and no interval of zero ends
the resumed run. -/
theorem resumesStream_iff (rank : DistributedSampler config) (resumes : config.resume = true)
    {fresh : SftRunner config} (starts : buildRunner config rank.indexSampler 0 0 = .ok fresh)
    (completes : (mainLoop fresh).error = none)
    (checkpointed : trainStep ≤ (mainLoop fresh).trained.length) :
    ResumesStream rank.indexSampler fresh trainStep ↔ ResumesInTime config trainStep := by
  obtain ⟨runner, ready⟩ := runnerAt_fresh rank.indexSampler 0
  obtain rfl := ready.unique starts
  have all := @length_allBatches config rank.indexSampler
  rw [ready.trained, drop_zero, length_take, all] at checkpointed
  obtain ⟨resumed, resumedReady⟩ :
      ∃ resumed, RunnerAt rank.indexSampler runner.totalSteps trainStep resumed := by
    rcases Nat.eq_zero_or_pos trainStep with rfl | later
    · exact runnerAt_fresh rank.indexSampler runner.totalSteps
    · refine runnerAt_resumed rank.indexSampler _ resumes later (Nat.pos_of_ne_zero ?_)
      intro none
      rw [none, Nat.zero_mul, Nat.min_zero] at checkpointed
      omega
  have streams : ResumesStream rank.indexSampler runner trainStep ↔
      (mainLoop resumed).trained = (mainLoop runner).trained.drop trainStep :=
    ⟨fun ⟨other, built, same⟩ => resumedReady.unique built ▸ same,
      fun same => ⟨resumed, resumedReady.built, same⟩⟩
  rw [streams, resumedReady.trained, ready.trained, drop_zero, drop_take,
    take_eq_take_iff, length_drop, all]
  rcases Nat.eq_zero_or_pos (stepsPerEpoch config * config.epoch) with none | someBatches
  · refine iff_of_true (by omega) (.inl (by omega))
  · obtain ⟨positive, within, rounds⟩ := ready.roundsLeft_fresh completes someBatches
    have total := ready.totalSteps
    rw [Nat.zero_mod, Nat.sub_zero] at total
    have sameTotal : resumed.totalSteps = runner.totalSteps := by
      rw [resumedReady.totalSteps, total]
      rw [total] at positive
      exact sftTotalSteps_of_checkpoint positive _
    have unbroken := @sftSaveFreq_ne_zero_iff config
      (stepsPerEpoch config - trainStep % stepsPerEpoch config)
    rw [← resumedReady.saveFreq] at unbroken
    have early := @lt_sftTotalSteps_iff config (stepsPerEpoch config) trainStep
    rw [← total] at early
    rw [rounds] at checkpointed ⊢
    rw [ResumesInTime, ← or_assoc, ← unbroken, ← total, roundsLeft, sameTotal]
    by_cases limited : ∀ maxNumSteps, config.maxNumSteps = some maxNumSteps →
        trainStep < maxNumSteps
    · rw [and_iff_left limited] at early
      rw [and_iff_right limited]
      split <;> omega
    · have past : runner.totalSteps ≤ trainStep :=
        Nat.not_lt.mp fun earlier => limited (early.mp earlier).2
      rw [or_iff_left fun both => limited both.1]
      split <;> omega

end Resumed

def onlyRank (config : SftTrainConfig) : DistributedSampler config where
  rank := 0
  epochOrder := fun _ => List.range config.datasetLength
  rank_lt := config.dpWorldSize_pos
  epochOrder_perm := fun _ => List.Perm.refl _

def twoShortEpochs : SftTrainConfig where
  datasetLength := 5
  dpWorldSize := 1
  trainBatchPerReplica := 2
  epoch := 2
  dpWorldSize_pos := Nat.one_pos
  trainBatchPerReplica_pos := Nat.two_pos
  maxNumSteps_pos := unsetMaxNumSteps_pos
  saveFreq_pos := defaultSaveFreq_pos

/-- Resumed in the second epoch, after its first batch. -/
theorem resumesStream_twoShortEpochs :
    ∃ fresh, buildRunner twoShortEpochs (onlyRank twoShortEpochs).indexSampler 0 0 =
        .ok fresh ∧
      ResumesStream (onlyRank twoShortEpochs).indexSampler fresh 4 :=
  ⟨_, rfl, (resumesStream_iff (onlyRank twoShortEpochs) rfl rfl (by decide)
    (by decide)).mpr (.inr ⟨by decide, .inl rfl⟩)⟩

theorem twoSteps_pos : ∀ steps, some 2 = some steps → 0 < steps := by
  intro steps two
  cases two
  exact Nat.two_pos

def twoOfFour : SftTrainConfig where
  datasetLength := 4
  dpWorldSize := 1
  trainBatchPerReplica := 1
  maxNumSteps := some 2
  dpWorldSize_pos := Nat.one_pos
  trainBatchPerReplica_pos := Nat.one_pos
  maxNumSteps_pos := twoSteps_pos
  saveFreq_pos := defaultSaveFreq_pos

/-- The last checkpoint of the run is that of step two; resumed from it, the run trains on
the third batch, which no uninterrupted run gets to. -/
theorem not_resumesStream_twoOfFour :
    ∃ fresh, buildRunner twoOfFour (onlyRank twoOfFour).indexSampler 0 0 = .ok fresh ∧
      (mainLoop fresh).error = none ∧ (mainLoop fresh).saved = [2] ∧
      (mainLoop fresh).trained = [[0], [1]] ∧
      ¬ResumesStream (onlyRank twoOfFour).indexSampler fresh 2 := by
  refine ⟨_, rfl, by decide, by decide, by decide, ?_⟩
  rintro ⟨resumed, built, same⟩
  cases built
  revert same
  decide

end CosmosRl.Worker
