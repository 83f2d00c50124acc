import CosmosRl.Data.LoadBalancing

/-!
Resuming load-balanced SFT training at a step.

The step count is taken where the dataloader hands batches to the trainer, but the
batches to be skipped are counted in every worker's copy of the dataset.  The
resumed stream is the rest of the uninterrupted one as long as at most one worker
of the rank has samples.
-/

namespace CosmosRl.Data

open CosmosRl.Foundation List

variable (shuffling : SeededShuffle) (dataset : BaseDataset)

def workerIteration (config : LoadBalancedConfig) :
    Generator (WorkerInfo × SamplePool) (List (List Draw)) where
  next := fun (worker, self) =>
    match (SamplePool.iteration shuffling dataset config worker).next self with
    | (answer, next) => (answer, (worker, next))

/-- `SFTPolicyWorker.build_runner` and the start of `main_loop`: the dataset object
with the epoch set and, on a resumed run, the batches to be skipped. -/
def sftTrainDataset (trainStep maxNumSteps : Nat) : LoadBalancedDataset :=
  if 0 < trainStep then
    (((LoadBalancedDataset.new.setEpoch 0).setSkipBatches (trainStep % maxNumSteps)).setEpoch 0)
  else LoadBalancedDataset.new.setEpoch 0

/-- The worker leaves `infinite_loop` at its default. -/
def sftConfig (config : LoadBalancedConfig) : LoadBalancedConfig :=
  { config with infiniteLoop := true }

def loaderQueue (config : LoadBalancedConfig) (dpRank numWorkers : Nat)
    (object : LoadBalancedDataset) : List (WorkerInfo × SamplePool) :=
  (loaderWorkers dpRank numWorkers).map fun worker =>
    (worker, (object.startIteration shuffling dataset config worker).toSamplePool)

/-- The accumulated batches at one position of the stream that a run which has done
`trainStep` steps obtains from its dataloader. -/
def sftStream (config : LoadBalancedConfig) (dpRank numWorkers maxNumSteps trainStep : Nat)
    (position : Nat) : Option (List (List Draw)) :=
  (workerIteration shuffling dataset (sftConfig config)).roundRobin.output position
    (loaderQueue shuffling dataset (sftConfig config) dpRank numWorkers
      (sftTrainDataset trainStep maxNumSteps))

section WorkerIteration

variable {shuffling dataset} {config : LoadBalancedConfig} {worker : WorkerInfo}

theorem workerIteration_next {self next : SamplePool} {answer : Option (List (List Draw))}
    (asked : (SamplePool.iteration shuffling dataset config worker).next self = (answer, next)) :
    (workerIteration shuffling dataset config).next (worker, self) =
      (answer, (worker, next)) := by
  simp [workerIteration, asked]

theorem workerIteration_output (position : Nat) (self : SamplePool) :
    (workerIteration shuffling dataset config).output position (worker, self) =
      (SamplePool.iteration shuffling dataset config worker).output position self := by
  induction position generalizing self with
  | zero => rfl
  | succ position ih =>
    rcases asked : (SamplePool.iteration shuffling dataset config worker).next self with
      ⟨answer, next⟩
    have tagged := workerIteration_next asked
    cases answer with
    | none => simp [Generator.output, asked, tagged]
    | some batches =>
      simp only [Generator.output, asked, tagged]
      exact ih next

theorem workerIteration_skip (requests : Nat) (self : SamplePool) :
    (workerIteration shuffling dataset config).skip requests (worker, self) =
      (worker, self.afterRequests shuffling dataset config worker requests) := by
  induction requests generalizing self with
  | zero => rfl
  | succ requests ih =>
    rcases asked : (SamplePool.iteration shuffling dataset config worker).next self with
      ⟨answer, next⟩
    have tagged := workerIteration_next asked
    cases answer with
    | none => simp [Generator.skip, SamplePool.afterRequests, asked, tagged]
    | some batches =>
      have later := ih next
      simp only [Generator.skip, SamplePool.afterRequests, asked, tagged] at later ⊢
      exact later

variable (shuffling dataset config) in
theorem workerIteration_settles : (workerIteration shuffling dataset config).Settles := by
  rintro ⟨worker, self⟩ stopped
  exact SamplePool.iteration_settles shuffling dataset config worker self stopped

def HasSamples (dataset : BaseDataset) (config : LoadBalancedConfig) (worker : WorkerInfo) :
    Prop :=
  0 < config.poolSize ∧ shardId worker < dataset.size

instance (dataset : BaseDataset) (config : LoadBalancedConfig) (worker : WorkerInfo) :
    Decidable (HasSamples dataset config worker) :=
  inferInstanceAs (Decidable (_ ∧ _))

theorem shardedIter_ne_nil_iff (positive : 0 < totalShards config worker) (epoch : Nat) :
    shardedIter shuffling dataset config worker epoch ≠ [] ↔
      shardId worker < dataset.size := by
  have size := (map_index_shardedIter shuffling dataset config worker epoch).length_eq
  rw [length_map] at size
  rw [ne_eq, ← length_eq_zero_iff, size, length_eq_zero_iff, stridedRange_eq_nil_iff positive]
  omega

theorem endless_of_hasSamples (positive : 0 < totalShards config worker)
    (infinite : config.infiniteLoop = true) (samples : HasSamples dataset config worker)
    (self : SamplePool) :
    (workerIteration shuffling dataset config).Endless (worker, self) := by
  intro position
  rw [workerIteration_output]
  have shard := (@shardedIter_ne_nil_iff shuffling _ _ _ positive 0).mpr samples.2
  induction position generalizing self with
  | zero =>
    obtain ⟨batches, next, asked, _⟩ := SamplePool.next_of_infinite samples.1 infinite shard self
    simp [Generator.output, SamplePool.iteration, asked]
  | succ position ih =>
    obtain ⟨batches, next, asked, _⟩ := SamplePool.next_of_infinite samples.1 infinite shard self
    have later := ih next
    simpa [Generator.output, SamplePool.iteration, asked] using later

theorem stopped_of_noSamples (positive : 0 < totalShards config worker)
    (noSamples : ¬ HasSamples dataset config worker) (object : LoadBalancedDataset) :
    ((workerIteration shuffling dataset config).next
      (worker, object.restarted shuffling dataset config worker)).1 = none := by
  have dry : SamplePool.Dry shuffling dataset config worker
      (object.restarted shuffling dataset config worker) := by
    refine ⟨rfl, ?_⟩
    by_cases noSpace : config.poolSize = 0
    · exact .inl noSpace
    · have noShard : ∀ epoch, shardedIter shuffling dataset config worker epoch = [] := by
        intro epoch
        by_contra shard
        exact noSamples ⟨Nat.pos_of_ne_zero noSpace,
          (shardedIter_ne_nil_iff positive epoch).mp shard⟩
      exact .inr ⟨noShard _, fun _ => noShard⟩
  obtain ⟨next, asked, _⟩ := dry.nextAccumulatedBatches
  simp [workerIteration, SamplePool.iteration, asked]

variable {self : SamplePool} {batches : List (List Draw)}

theorem flatten_ne_nil_of_output {position : Nat}
    (served : (SamplePool.iteration shuffling dataset config worker).output position self =
      some batches) : batches.flatten ≠ [] := by
  induction position generalizing self with
  | zero =>
    rcases SamplePool.nextAccumulatedBatches_cases shuffling dataset config worker self with
      ⟨_, asked, _⟩ | ⟨others, next, asked, nonempty, allNonempty, _⟩
    · simp [Generator.output, SamplePool.iteration, asked] at served
    · simp only [Generator.output, SamplePool.iteration, asked, Option.some.injEq] at served
      subst served
      obtain ⟨batch, rest, rfl⟩ := exists_cons_of_ne_nil nonempty
      have batchNonempty := allNonempty batch (by simp)
      simp [batchNonempty]
  | succ position ih =>
    rcases asked : (SamplePool.iteration shuffling dataset config worker).next self with
      ⟨_ | _, next⟩
    · simp [Generator.output, asked] at served
    · simp only [Generator.output, asked] at served
      exact ih served

theorem mem_emittedSamples_of_output {position : Nat}
    (served : (SamplePool.iteration shuffling dataset config worker).output position self =
      some batches) {draw : Draw} (member : draw ∈ batches.flatten) :
    draw ∈ self.emittedSamples shuffling dataset config worker (position + 1) := by
  rw [← Generator.getElem?_outputs (Nat.lt_succ_self position)] at served
  obtain ⟨batch, inBatches, inBatch⟩ := mem_flatten.mp member
  exact mem_flatten.mpr ⟨batch, mem_flatten.mpr
    ⟨batches, mem_of_getElem? served, inBatches⟩, inBatch⟩

theorem disjoint_of_outputs {early late : Nat} (before : early < late)
    (distinct : (self.emittedSamples shuffling dataset config worker (late + 1)).Nodup)
    {first second : List (List Draw)}
    (firstServed : (SamplePool.iteration shuffling dataset config worker).output early self =
      some first)
    (secondServed : (SamplePool.iteration shuffling dataset config worker).output late self =
      some second) :
    first.flatten.Disjoint second.flatten := by
  rw [← Generator.getElem?_outputs (by omega : early < late + 1)] at firstServed
  rw [← Generator.getElem?_outputs (Nat.lt_succ_self late)] at secondServed
  rw [SamplePool.emittedSamples, flatten_flatten, nodup_flatten] at distinct
  obtain ⟨earlyInside, rfl⟩ := List.getElem?_eq_some_iff.mp firstServed
  obtain ⟨lateInside, rfl⟩ := List.getElem?_eq_some_iff.mp secondServed
  have apart := (pairwise_iff_getElem.mp distinct.2) early late (by simpa using earlyInside)
    (by simpa using lateInside) before
  simpa using apart

end WorkerIteration

section Loader

variable {shuffling dataset} {config : LoadBalancedConfig} {dpRank numWorkers : Nat}
  {worker : WorkerInfo}

theorem shard_of_output (space : 0 < config.poolSize)
    (shardInside : shardId worker < totalShards config worker) {position : Nat}
    {batches : List (List Draw)}
    (served : (SamplePool.iteration shuffling dataset config worker).output position
      (LoadBalancedDataset.new.restarted shuffling dataset config worker) = some batches)
    {draw : Draw} (member : draw ∈ batches.flatten) :
    draw.index % totalShards config worker = shardId worker := by
  have emitted := mem_emittedSamples_of_output served member
  have ledger := (@workerEmitted_ledger shuffling dataset config .new worker space rfl
    (position + 1)).2
  rw [workerEmitted, startIteration_of_noSkip rfl] at ledger
  have drawn := ledger.mem_iff.mp (mem_append_left _ emitted)
  obtain ⟨epoch, _, inShard⟩ := mem_flatMap.mp drawn
  have index := (map_index_shardedIter shuffling dataset config worker epoch).mem_iff.mp
    (mem_map_of_mem inShard)
  exact mod_of_mem_stridedRange shardInside index

variable (shuffling dataset config dpRank numWorkers) in
def activeWorkers : List WorkerInfo :=
  (loaderWorkers dpRank numWorkers).filter fun worker => HasSamples dataset config worker

theorem mem_loaderWorkers (member : worker ∈ loaderWorkers dpRank numWorkers) :
    worker.dpRank = dpRank ∧ worker.numWorkers = max 1 numWorkers ∧
      worker.workerId < worker.numWorkers := by
  by_cases none : numWorkers = 0
  · simp only [loaderWorkers, none, if_true, mem_singleton] at member
    subst member
    simp [none]
  · simp only [loaderWorkers, none, if_false, mem_map, mem_range] at member
    obtain ⟨workerId, below, rfl⟩ := member
    exact ⟨rfl, by simp only; omega, below⟩

theorem shardId_lt {worker : WorkerInfo} (rank : dpRank < config.dpWorldSize)
    (member : worker ∈ loaderWorkers dpRank numWorkers) :
    shardId worker < totalShards config worker := by
  obtain ⟨isRank, _, below⟩ := mem_loaderWorkers member
  rw [shardId, totalShards, isRank]
  calc dpRank * worker.numWorkers + worker.workerId
      < dpRank * worker.numWorkers + worker.numWorkers := by omega
    _ = (dpRank + 1) * worker.numWorkers := by rw [Nat.succ_mul]
    _ ≤ config.dpWorldSize * worker.numWorkers := Nat.mul_le_mul_right _ rank

/-- At most one worker of the rank has samples. -/
theorem length_activeWorkers_le_one_iff :
    (activeWorkers dataset config dpRank numWorkers).length ≤ 1 ↔
      numWorkers ≤ 1 ∨ dataset.size ≤ dpRank * numWorkers + 1 ∨ config.poolSize = 0 := by
  by_cases few : numWorkers ≤ 1
  · have single : (loaderWorkers dpRank numWorkers).length = 1 := by
      rcases Nat.le_one_iff_eq_zero_or_eq_one.mp few with rfl | rfl <;> rfl
    have bounded := length_filter_le
      (fun worker => decide (HasSamples dataset config worker))
      (loaderWorkers dpRank numWorkers)
    rw [single] at bounded
    simpa [few, activeWorkers] using bounded
  · obtain ⟨others, rfl⟩ : ∃ others, numWorkers = others + 2 := ⟨numWorkers - 2, by omega⟩
    have workers : loaderWorkers dpRank (others + 2) =
        ⟨dpRank, 0, others + 2⟩ :: ⟨dpRank, 1, others + 2⟩ ::
          (List.range others).map fun workerId => ⟨dpRank, workerId + 2, others + 2⟩ := by
      simp [loaderWorkers, range_succ_eq_map, Function.comp_def]
    constructor
    · intro alone
      by_contra several
      have first : HasSamples dataset config ⟨dpRank, 0, others + 2⟩ :=
        ⟨by omega, by simp only [shardId]; omega⟩
      have second : HasSamples dataset config ⟨dpRank, 1, others + 2⟩ :=
        ⟨by omega, by simp only [shardId]; omega⟩
      simp [activeWorkers, workers, first, second] at alone
    · intro condition
      have noOther : ∀ workerId, ¬ HasSamples dataset config
          ⟨dpRank, workerId + 1, others + 2⟩ := by
        rintro workerId ⟨space, samples⟩
        simp only [shardId] at samples
        omega
      have rest : ((List.range others).map fun workerId =>
          (⟨dpRank, workerId + 2, others + 2⟩ : WorkerInfo)).filter
            (fun worker => HasSamples dataset config worker) = [] := by
        rw [filter_eq_nil_iff]
        intro worker member
        obtain ⟨workerId, _, rfl⟩ := mem_map.mp member
        simpa using noOther (workerId + 1)
      rw [activeWorkers, workers, filter_cons, filter_cons, rest]
      have second := noOther 0
      simp only [Nat.zero_add] at second
      simp only [second]
      split <;> simp

end Loader

section Resume

variable (config : LoadBalancedConfig) {dpRank numWorkers maxNumSteps trainStep : Nat}

/-- The stream of a run is that of its active workers' copies, each of which has
skipped as many batches as the run had done steps. -/
theorem sftStream_eq (rank : dpRank < config.dpWorldSize) (resumable : trainStep < maxNumSteps)
    (position : Nat) :
    sftStream shuffling dataset config dpRank numWorkers maxNumSteps trainStep position =
      (workerIteration shuffling dataset (sftConfig config)).roundRobin.output position
        ((activeWorkers dataset (sftConfig config) dpRank numWorkers).map fun worker =>
          (workerIteration shuffling dataset (sftConfig config)).skip trainStep
            (worker, LoadBalancedDataset.new.restarted shuffling dataset (sftConfig config)
              worker)) := by
  have queue : loaderQueue shuffling dataset (sftConfig config) dpRank numWorkers
      (sftTrainDataset trainStep maxNumSteps) =
      (loaderWorkers dpRank numWorkers).map fun worker =>
        (workerIteration shuffling dataset (sftConfig config)).skip trainStep
          (worker, LoadBalancedDataset.new.restarted shuffling dataset (sftConfig config)
            worker) := by
    rw [loaderQueue]
    congr 1
    funext worker
    rw [workerIteration_skip]
    cases trainStep with
    | zero => rfl
    | succ trainStep =>
      simp only [sftTrainDataset, Nat.zero_lt_succ, if_true, Nat.mod_eq_of_lt resumable]
      rfl
  rw [sftStream, queue]
  apply Generator.output_roundRobin_congr
  rw [filter_map, filter_map, activeWorkers, filter_filter]
  congr 1
  apply filter_congr
  intro worker member
  have positive : 0 < totalShards (sftConfig config) worker := by
    have inside := @shardId_lt (sftConfig config) dpRank numWorkers _ rank member
    omega
  by_cases samples : HasSamples dataset (sftConfig config) worker
  · simp [samples]
  · have stopped := Generator.skip_of_stopped
      (workerIteration_settles shuffling dataset (sftConfig config))
      (stopped_of_noSamples positive samples .new) trainStep
    simp [Generator.alive, stopped, samples]

theorem eq_of_shardId_eq {first second : WorkerInfo}
    (isFirst : first ∈ loaderWorkers dpRank numWorkers)
    (isSecond : second ∈ loaderWorkers dpRank numWorkers)
    (same : shardId first = shardId second) : first = second := by
  obtain ⟨firstRank, firstNumber, _⟩ := mem_loaderWorkers isFirst
  obtain ⟨secondRank, secondNumber, _⟩ := mem_loaderWorkers isSecond
  rcases first with ⟨_, firstId, _⟩
  rcases second with ⟨_, secondId, _⟩
  simp only at firstRank firstNumber secondRank secondNumber
  subst firstRank firstNumber secondRank secondNumber
  simpa [shardId] using same

/-- With several active workers, the first element of the resumed stream is not the
next one of the uninterrupted stream: the first worker has skipped all the steps,
though it had done only its share of them. -/
theorem sftStream_diverges (rank : dpRank < config.dpWorldSize)
    (resumable : trainStep < maxNumSteps) (begun : 0 < trainStep)
    (several : 1 < (activeWorkers dataset (sftConfig config) dpRank numWorkers).length) :
    sftStream shuffling dataset config dpRank numWorkers maxNumSteps trainStep 0 ≠
      sftStream shuffling dataset config dpRank numWorkers maxNumSteps 0 trainStep := by
  intro continues
  obtain ⟨active, isActive⟩ : ∃ active,
    active = activeWorkers dataset (sftConfig config) dpRank numWorkers := ⟨_, rfl⟩
  have settles := workerIteration_settles shuffling dataset (sftConfig config)
  have started : ∀ worker ∈ active, worker ∈ loaderWorkers dpRank numWorkers ∧
      HasSamples dataset (sftConfig config) worker := by
    intro worker member
    rw [isActive, activeWorkers, mem_filter] at member
    exact ⟨member.1, by simpa using member.2⟩
  have inside : ∀ worker ∈ active,
      shardId worker < totalShards (sftConfig config) worker :=
    fun worker member =>
      @shardId_lt (sftConfig config) dpRank numWorkers _ rank (started worker member).1
  have served : ∀ steps position, (workerIteration shuffling dataset
      (sftConfig config)).roundRobin.output position (active.map fun worker =>
        (workerIteration shuffling dataset (sftConfig config)).skip steps
          (worker, LoadBalancedDataset.new.restarted shuffling dataset (sftConfig config) worker)) =
      (active[position % active.length]?).bind fun worker =>
        (SamplePool.iteration shuffling dataset (sftConfig config) worker).output
          (steps + position / active.length)
          (LoadBalancedDataset.new.restarted shuffling dataset (sftConfig config) worker) := by
    intro steps position
    rw [Generator.output_roundRobin]
    · rw [length_map, getElem?_map, Option.bind_map]
      congr 1
      funext worker
      rw [Function.comp_apply, Generator.output_skip settles, workerIteration_output]
    · intro state member
      obtain ⟨worker, isWorker, rfl⟩ := mem_map.mp member
      have positive := inside worker isWorker
      exact (endless_of_hasSamples (by omega) rfl (started worker isWorker).2 _).skip settles steps
    · intro empty
      rw [map_eq_nil_iff] at empty
      rw [← isActive, empty] at several
      simp at several
  rw [sftStream_eq shuffling dataset config rank resumable,
    sftStream_eq shuffling dataset config rank (by omega), ← isActive, served, served] at continues
  rw [← isActive] at several
  have turn := Nat.mod_lt trainStep (by omega : 0 < active.length)
  obtain ⟨first, isFirst⟩ : ∃ first, active[0]? = some first :=
    ⟨_, getElem?_eq_getElem (by omega)⟩
  obtain ⟨next, isNext⟩ : ∃ next, active[trainStep % active.length]? = some next :=
    ⟨_, getElem?_eq_getElem turn⟩
  rw [Nat.zero_mod, isFirst, isNext, Nat.zero_div, Nat.zero_add, Nat.add_zero,
    Option.bind_some, Option.bind_some] at continues
  have firstMember := mem_of_getElem? isFirst
  have nextMember := mem_of_getElem? isNext
  have space := (started first firstMember).2.1
  have firstInside := inside first firstMember
  have answered := @endless_of_hasSamples shuffling _ _ _ (by omega) rfl
    (started first firstMember).2
    (LoadBalancedDataset.new.restarted shuffling dataset (sftConfig config) first) trainStep
  rw [workerIteration_output] at answered
  obtain ⟨batches, isBatches⟩ := Option.isSome_iff_exists.mp answered
  have again := continues.symm.trans isBatches
  obtain ⟨draw, member⟩ := exists_mem_of_ne_nil _ (flatten_ne_nil_of_output isBatches)
  have firstShard := shard_of_output space firstInside isBatches member
  have nextShard := shard_of_output space (inside next nextMember) again member
  have sameTotal : totalShards (sftConfig config) first =
      totalShards (sftConfig config) next := by
    rw [totalShards, totalShards, (mem_loaderWorkers (started first firstMember).1).2.1,
      (mem_loaderWorkers (started next nextMember).1).2.1]
  have sameWorker : first = next :=
    eq_of_shardId_eq (started first firstMember).1 (started next nextMember).1
      (by rw [← firstShard, ← nextShard, sameTotal])
  subst sameWorker
  -- the same worker's turn again: it would have handed out one element twice
  have fewer : trainStep / active.length < trainStep := Nat.div_lt_self begun several
  have ledger := (@workerEmitted_ledger shuffling dataset (sftConfig config) .new first
    space rfl (trainStep + 1)).2
  rw [workerEmitted, startIteration_of_noSkip rfl] at ledger
  have distinct := (ledger.nodup_iff.mpr (nodup_epochDraws shuffling dataset
    (sftConfig config) first (by omega) _ _)).of_append_left
  exact disjoint_of_outputs fewer distinct again isBatches member member

/-- Load-balanced resume: the resumed stream is the uninterrupted one without its
first `trainStep` elements exactly when no step had been done or at most one worker
of the rank has samples to hand out.  Elements are compared as draws: the dataset
may return something else for every access. -/
theorem sftStream_resumed_iff (rank : dpRank < config.dpWorldSize)
    (resumable : trainStep < maxNumSteps) :
    (∀ position,
      sftStream shuffling dataset config dpRank numWorkers maxNumSteps trainStep position =
        sftStream shuffling dataset config dpRank numWorkers maxNumSteps 0
          (trainStep + position)) ↔
      trainStep = 0 ∨ numWorkers ≤ 1 ∨ dataset.size ≤ dpRank * numWorkers + 1 ∨
        config.poolSize = 0 := by
  have few := @length_activeWorkers_le_one_iff dataset (sftConfig config) dpRank numWorkers
  have settles := workerIteration_settles shuffling dataset (sftConfig config)
  simp only [show (sftConfig config).poolSize = config.poolSize from rfl] at few
  rw [← few]
  constructor
  · intro continues
    by_contra several
    obtain ⟨begun, many⟩ := not_or.mp several
    exact sftStream_diverges shuffling dataset config rank resumable
      (Nat.pos_of_ne_zero begun) (by omega) (continues 0)
  · rintro (rfl | alone) position
    · rw [Nat.zero_add]
    · rw [sftStream_eq shuffling dataset config rank resumable,
        sftStream_eq shuffling dataset config rank (by omega)]
      match active : activeWorkers dataset (sftConfig config) dpRank numWorkers, alone with
      | [], _ =>
        rw [map_nil, map_nil,
          Generator.output_of_stopped (by rfl), Generator.output_of_stopped (by rfl)]
      | [worker], _ =>
        rw [map_singleton, map_singleton, Generator.output_roundRobin_singleton,
          Generator.output_roundRobin_singleton, Generator.output_skip settles,
          Generator.output_skip settles, Nat.zero_add]

end Resume

/-- One worker: resuming after three steps continues the stream. -/
theorem sftStream_resumed_oneWorker :
    (1 < (smallConfig true).dpWorldSize ∧ 3 < 10) ∧
      ∀ position,
        sftStream reversingShuffle fiveSamples (smallConfig true) 1 1 10 3 position =
          sftStream reversingShuffle fiveSamples (smallConfig true) 1 1 10 0
            (3 + position) :=
  ⟨by decide, (sftStream_resumed_iff reversingShuffle fiveSamples (smallConfig true)
    (by decide) (by decide)).mpr (.inr (.inl (by decide)))⟩

def indicesOf (element : Option (List (List Draw))) : Option (List (List Nat)) :=
  element.map fun batches => batches.map fun batch => batch.map Draw.index

/-- Two workers: after one step the resumed run goes on with the first worker's second
element, while it is the other worker's turn. -/
theorem not_sftStream_resumed_twoWorkers :
    ¬ ∀ position,
      indicesOf (sftStream reversingShuffle fiveSamples (smallConfig true) 0 2 10 1 position) =
        indicesOf (sftStream reversingShuffle fiveSamples (smallConfig true) 0 2 10 0
          (1 + position)) := by
  intro continues
  have first := continues 0
  revert first
  decide

end CosmosRl.Data
