import CosmosRl.Worker.SftResume

/-!
The interval of checkpoints that is given in epochs.

`_save_freq` divides the length of the dataloader by the number of data-parallel ranks,
although the dataloader holds the batches of one rank, and takes the length after the
skip of a resumed run.
-/

namespace CosmosRl.Worker

open CosmosRl.Foundation CosmosRl.Dispatcher

section Saved

variable {config : SftTrainConfig} {runner : SftRunner config}

variable {run : SftRun} {step : Nat}

theorem mem_saved_saveCheckpoint :
    step ∈ (saveCheckpoint config run).saved ↔
      step ∈ run.saved ∨ config.enableCheckpoint = true ∧ step = run.trainStep := by
  unfold saveCheckpoint
  split
  case isTrue enabled => simp [enabled]
  case isFalse disabled => simp [disabled]

theorem mem_saved_trainBatch (positive : runner.saveFreq ≠ 0) (batch : List Nat)
    {run : SftRun} {step : Nat} :
    step ∈ (trainBatch runner batch run).saved ↔ step ∈ run.saved ∨
      config.enableCheckpoint = true ∧ step = run.trainStep + 1 ∧
        step < runner.totalSteps ∧ runner.saveFreq ∣ step := by
  unfold trainBatch checkpointing
  dsimp only
  split
  case isTrue last =>
    exact (or_iff_left fun saved => by omega).symm
  case isFalse further =>
    split
    case isTrue due =>
      rw [mem_saved_saveCheckpoint]
      refine or_congr_right (and_congr_right fun _ => ⟨?_, And.left⟩)
      rintro rfl
      exact ⟨rfl, Nat.not_le.mp further, Nat.dvd_of_mod_eq_zero due.1⟩
    case isFalse notDue =>
      refine (or_iff_left ?_).symm
      rintro ⟨_, rfl, _, divides⟩
      exact notDue ⟨Nat.mod_eq_zero_of_dvd divides, Nat.succ_pos _⟩

theorem trainStep_le_trainBatches (batches : List (List Nat)) {run : SftRun}
    (running : ¬run.Halted) :
    run.trainStep ≤ (trainBatches runner batches run).trainStep := by
  induction batches generalizing run with
  | nil => exact Nat.le_refl _
  | cons batch rest ih =>
    have step := (trainBatch_trained runner batch running).trainStep
    rw [trainBatches]
    split
    case isTrue => omega
    case isFalse further => exact Nat.le_trans (by omega) (ih further)

theorem mem_saved_trainBatches (positive : runner.saveFreq ≠ 0) (batches : List (List Nat))
    (running : ¬run.Halted) :
    step ∈ (trainBatches runner batches run).saved ↔ step ∈ run.saved ∨
      config.enableCheckpoint = true ∧ run.trainStep < step ∧
        step ≤ (trainBatches runner batches run).trainStep ∧
        step < runner.totalSteps ∧ runner.saveFreq ∣ step := by
  induction batches generalizing run with
  | nil => exact (or_iff_left fun saved => by rw [trainBatches] at saved; omega).symm
  | cons batch rest ih =>
    have next := (trainBatch_trained runner batch running).trainStep
    have first := @mem_saved_trainBatch config runner positive batch run step
    rw [trainBatches]
    split
    case isTrue =>
      rw [first, next]
      by_cases divides : runner.saveFreq ∣ step
      · simp only [divides, and_true]
        refine or_congr_right (and_congr_right fun _ => ?_)
        omega
      · simp [divides]
    case isFalse further =>
      have later := @trainStep_le_trainBatches config runner rest _ further
      rw [ih further, first]
      by_cases divides : runner.saveFreq ∣ step
      · simp only [divides, and_true]
        rw [or_assoc, ← and_or_left]
        refine or_congr_right (and_congr_right fun _ => ?_)
        omega
      · simp [divides]

theorem trainBatches_trainStep_le (batches : List (List Nat)) {run : SftRun}
    (running : ¬run.Halted) :
    (trainBatches runner batches run).trainStep ≤
      max (run.trainStep + 1) runner.totalSteps := by
  induction batches generalizing run with
  | nil =>
    rw [trainBatches]
    omega
  | cons batch rest ih =>
    have step := trainBatch_trained runner batch running
    rw [trainBatches]
    split
    case isTrue =>
      rw [step.trainStep]
      exact Nat.le_max_left _ _
    case isFalse further =>
      have more := (not_or.mp fun ends =>
        further ((Trained.halted_iff runner step).mpr ends)).1
      have bounded := ih further
      rw [step.trainStep] at bounded
      omega

theorem finalCheckpointing_trainStep (run : SftRun) :
    (finalCheckpointing config run).trainStep = run.trainStep := by
  unfold finalCheckpointing
  split
  · rfl
  · exact saveCheckpoint_trainStep run

theorem mem_saved_finalCheckpointing (early : step < run.trainStep) :
    step ∈ (finalCheckpointing config run).saved ↔ step ∈ run.saved := by
  unfold finalCheckpointing
  split
  · rfl
  · rw [mem_saved_saveCheckpoint, or_iff_left fun last => Nat.ne_of_lt early last.2]

variable {sampler : SizedSampler config.numSamples} {ckptTotalSteps trainStep : Nat}

theorem RunnerAt.mem_saved_iff (ready : RunnerAt sampler ckptTotalSteps trainStep runner)
    (positive : runner.saveFreq ≠ 0) (afterStart : runner.trainStep < step)
    (beforeEnd : step < (mainLoop runner).trainStep) :
    step ∈ (mainLoop runner).saved ↔
      config.enableCheckpoint = true ∧ runner.saveFreq ∣ step := by
  rw [ready.startsAt] at afterStart
  rw [ready.goesOn, finalCheckpointing_trainStep] at beforeEnd
  rw [ready.goesOn, mem_saved_finalCheckpointing beforeEnd,
    mem_saved_trainBatches positive _ notHalted_start]
  have limited := @trainBatches_trainStep_le config runner
    ((allBatches sampler).drop trainStep) _ (@notHalted_start trainStep)
  have notLast : step < runner.totalSteps := by
    simp only at limited
    omega
  simp [afterStart, beforeEnd.le, notLast]

end Saved

section Cadence

variable {config : SftTrainConfig}

/-- The interval is that many epochs of a rank, and on its way the run saves at the end of
these epochs and nowhere else. -/
structure SavesInEpochs (sampler : SizedSampler config.numSamples)
    (runner : SftRunner config) : Prop where
  positive : 0 < runner.saveFreq
  interval : ∀ epoch, runner.saveFreq =
    config.saveFreqInEpoch * (epochBatches sampler epoch).length
  atEpochEnds : ∀ step, runner.trainStep < step → step < (mainLoop runner).trainStep →
    (step ∈ (mainLoop runner).saved ↔ config.enableCheckpoint = true ∧
      config.saveFreqInEpoch * stepsPerEpoch config ∣ step)

/-- The interval before the division is some steps that are left of an epoch, so that it
is the whole epochs only if nothing was skipped and nothing is divided. -/
theorem sftSaveFreq_eq_iff (inEpochs : 0 < config.saveFreqInEpoch) (trainStep : Nat) :
    sftSaveFreq config (stepsPerEpoch config - trainStep % stepsPerEpoch config) =
        config.saveFreqInEpoch * stepsPerEpoch config ∧ 0 < stepsPerEpoch config ↔
      config.dpWorldSize = 1 ∧ 0 < stepsPerEpoch config ∧
        stepsPerEpoch config ∣ trainStep := by
  rw [sftSaveFreq, if_pos inEpochs]
  constructor
  · rintro ⟨same, someSteps⟩
    obtain ⟨left, isLeft⟩ : ∃ left,
      left = stepsPerEpoch config - trainStep % stepsPerEpoch config := ⟨_, rfl⟩
    rw [← isLeft] at same
    have interval : 0 < config.saveFreqInEpoch * stepsPerEpoch config :=
      Nat.mul_pos inEpochs someSteps
    have fewer : config.saveFreqInEpoch * left ≤
        config.saveFreqInEpoch * stepsPerEpoch config :=
      Nat.mul_le_mul_left _ (by omega)
    have undivided : config.saveFreqInEpoch * left = config.saveFreqInEpoch *
        stepsPerEpoch config :=
      Nat.le_antisymm fewer (same ▸ Nat.div_le_self _ _)
    refine ⟨?_, someSteps, ?_⟩
    · by_contra several
      have divided := Nat.div_lt_self interval
        (Nat.lt_of_le_of_ne config.dpWorldSize_pos (Ne.symm several))
      rw [← undivided, same] at divided
      omega
    · have whole := Nat.eq_of_mul_eq_mul_left inEpochs undivided
      have position := Nat.mod_lt trainStep someSteps
      exact Nat.dvd_of_mod_eq_zero (by omega)
  · rintro ⟨single, someSteps, atEnd⟩
    rw [single, Nat.div_one, Nat.mod_eq_zero_of_dvd atEnd, Nat.sub_zero]
    exact ⟨rfl, someSteps⟩

/-- A fresh or resumed run saves in the interval that the configuration names exactly if
there is one rank, an epoch has a step and the run starts with an epoch. -/
theorem savesInEpochs_iff (rank : DistributedSampler config)
    (inEpochs : 0 < config.saveFreqInEpoch) (ckptTotalSteps : Nat) {trainStep : Nat}
    (resumes : 0 < trainStep → config.resume = true) :
    (∃ runner, buildRunner config rank.indexSampler ckptTotalSteps trainStep = .ok runner ∧
        SavesInEpochs rank.indexSampler runner) ↔
      config.dpWorldSize = 1 ∧ 0 < stepsPerEpoch config ∧
        stepsPerEpoch config ∣ trainStep := by
  rw [← sftSaveFreq_eq_iff inEpochs]
  have ready : trainStep = 0 ∨ 0 < stepsPerEpoch config →
      ∃ runner, RunnerAt rank.indexSampler ckptTotalSteps trainStep runner := by
    intro runs
    rcases Nat.eq_zero_or_pos trainStep with rfl | later
    · exact runnerAt_fresh _ _
    · exact runnerAt_resumed _ _ (resumes later) later (runs.resolve_left (Nat.ne_of_gt later))
  constructor
  · rintro ⟨runner, built, saves⟩
    have interval := saves.interval 0
    rw [length_epochBatches] at interval
    have someSteps : 0 < stepsPerEpoch config := Nat.pos_of_mul_pos_left (interval ▸ saves.positive)
    obtain ⟨same, runs⟩ := ready (.inr someSteps)
    obtain rfl := runs.unique built
    exact ⟨runs.saveFreq ▸ interval, someSteps⟩
  · rintro ⟨same, someSteps⟩
    obtain ⟨runner, runs⟩ := ready (.inr someSteps)
    have interval := runs.saveFreq.trans same
    have positive : 0 < runner.saveFreq := by
      rw [interval]
      exact Nat.mul_pos inEpochs someSteps
    refine ⟨runner, runs.built, positive, fun epoch => ?_, ?_⟩
    · rw [length_epochBatches, interval]
    · intro step afterStart beforeEnd
      rw [runs.mem_saved_iff (Nat.ne_of_gt positive) afterStart beforeEnd, interval]

end Cadence

theorem every_saveFreq_pos : 1 = 0 → 0 < 20 := fun _ => Nat.succ_pos 19

theorem everySecond_saveFreq_pos : 2 = 0 → 0 < 20 := fun _ => Nat.succ_pos 19

def everySecondEpoch : SftTrainConfig where
  datasetLength := 3
  dpWorldSize := 1
  trainBatchPerReplica := 1
  epoch := 3
  saveFreqInEpoch := 2
  dpWorldSize_pos := Nat.one_pos
  trainBatchPerReplica_pos := Nat.one_pos
  maxNumSteps_pos := unsetMaxNumSteps_pos
  saveFreq_pos := everySecond_saveFreq_pos

/-- Resumed at the end of the first epoch. -/
theorem savesInEpochs_everySecondEpoch :
    ∃ runner, buildRunner everySecondEpoch (onlyRank everySecondEpoch).indexSampler 9 3 =
        .ok runner ∧
      SavesInEpochs (onlyRank everySecondEpoch).indexSampler runner :=
  (savesInEpochs_iff (onlyRank everySecondEpoch) (by decide) 9 (fun _ => rfl)).mpr
    (by decide)

def twoRanks : SftTrainConfig where
  datasetLength := 2
  dpWorldSize := 2
  trainBatchPerReplica := 1
  epoch := 2
  saveFreqInEpoch := 1
  dpWorldSize_pos := Nat.two_pos
  trainBatchPerReplica_pos := Nat.one_pos
  maxNumSteps_pos := unsetMaxNumSteps_pos
  saveFreq_pos := every_saveFreq_pos

/-- One step, divided by two ranks, leaves an interval of zero and no run. -/
theorem not_savesInEpochs_twoRanks :
    ∃ runner, buildRunner twoRanks (onlyRank twoRanks).indexSampler 0 0 = .ok runner ∧
      stepsPerEpoch twoRanks = 1 ∧ runner.saveFreq = 0 ∧
      (mainLoop runner).error = some .zeroDivisionError ∧
      ¬SavesInEpochs (onlyRank twoRanks).indexSampler runner := by
  refine ⟨_, rfl, by decide, by decide, by decide, fun saves => ?_⟩
  have positive := saves.positive
  revert positive
  decide

end CosmosRl.Worker
