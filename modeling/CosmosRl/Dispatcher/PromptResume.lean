import CosmosRl.Dispatcher.PromptConservation

/-!
Resuming RL training from the number of remaining samples.

`load_dataset` computes the epoch and the position in it by two ceilings.  They
agree at every epoch boundary, and the one-shot skip leaves the later epochs alone,
so that the resumed prompt stream is a suffix of the uninterrupted one.
-/

namespace CosmosRl.Dispatcher

open CosmosRl.Foundation List

/-- An index-level sampler: the order of every epoch that `set_epoch` may set. -/
structure IndexSampler where
  order : Nat → List Nat

/-- A sampler that yields this many indices in every epoch. -/
structure SizedSampler (samples : Nat) extends IndexSampler where
  length_order : ∀ epoch, (order epoch).length = samples

instance {samples : Nat} : CoeOut (SizedSampler samples) IndexSampler :=
  ⟨SizedSampler.toIndexSampler⟩

/-- `SkippingSampler` around an index-level sampler. -/
structure SkippingSampler where
  base : IndexSampler
  initialSkip : Nat
  usedOnce : Bool := false

/-- `train_sampler`: as configured, or wrapped on a resumed run. -/
inductive TrainSampler where
  | plain (sampler : IndexSampler)
  | skipping (sampler : SkippingSampler)

/-- `SkippingSampler.__iter__` after `set_epoch`.  The generator runs when the first
index is asked for, before which no other epoch is set. -/
def SkippingSampler.iter (epoch : Nat) (self : SkippingSampler) : List Nat × SkippingSampler :=
  if self.usedOnce then (self.base.order epoch, self)
  else ((self.base.order epoch).drop self.initialSkip, { self with usedOnce := true })

def TrainSampler.iter (epoch : Nat) : TrainSampler → List Nat × TrainSampler
  | .plain sampler => (sampler.order epoch, .plain sampler)
  | .skipping sampler =>
    match sampler.iter epoch with
    | (order, next) => (order, .skipping next)

/-- The batching of `torch.utils.data.DataLoader` without `drop_last`. -/
structure PromptDataLoader (batchSize : Nat) where
  batches : List Nat → List (List Nat)
  flatten_batches : ∀ indices, (batches indices).flatten = indices
  withinBatch : ∀ indices, ∀ batch ∈ batches indices, batch.length ≤ batchSize

/-- `math.ceil(dividend / divisor)`.  True division is correctly rounded, so that the
ceiling is exact for the numbers of samples below `2 ^ 53`. -/
def mathCeil (dividend divisor : Nat) : Nat := (dividend + divisor - 1) / divisor

section LoadDataset

variable (config : Config) (datasetLength : Nat) (sampler : IndexSampler)
  (loader : PromptDataLoader config.rolloutBatchSize)

def totalSamples : Nat :=
  datasetLength * config.nGeneration * config.epoch

/-- `remain_samples_num` after looking at the checkpoint. -/
def resumedSamples (remainInCheckpoint : Option Nat) : Nat :=
  remainInCheckpoint.getD (totalSamples config datasetLength)

def resumedEpoch (remainSamplesNum : Nat) : Nat :=
  config.epoch - mathCeil remainSamplesNum (datasetLength * config.nGeneration) + 1

/-- `train_dataloader_bias`: the samples of that epoch to be skipped. -/
def trainDataloaderBias (remainSamplesNum : Nat) : Nat :=
  max 0 (datasetLength - mathCeil remainSamplesNum config.nGeneration % datasetLength) %
    datasetLength

/-- What `load_dataset` sets up for the training prompts: the epoch, the sampler and
`remain_samples_num`. -/
structure LoadedDataset where
  epoch : Nat
  trainSampler : TrainSampler
  remainSamplesNum : Nat

/-- `load_dataset`, on a resumed run with `remain_samples_num` of the checkpoint. -/
def loadDataset (remainInCheckpoint : Option Nat) : LoadedDataset :=
  if config.resume then
    -- Where the sampler has no index in this epoch the source keeps it unwrapped, after an
    -- `IndexError`.  The wrapped one skips nothing then, and nothing later.
    let remainSamplesNum := resumedSamples config datasetLength remainInCheckpoint
    { epoch := resumedEpoch config datasetLength remainSamplesNum
      trainSampler := .skipping
        { base := sampler
          initialSkip := trainDataloaderBias config datasetLength remainSamplesNum }
      remainSamplesNum := remainSamplesNum }
  else
    { epoch := 1
      trainSampler := .plain sampler
      remainSamplesNum := totalSamples config datasetLength }

def LoadedDataset.runConfig (loaded : LoadedDataset) : Config :=
  { config with
    dataset.trainDataloader := fun epoch =>
      loader.batches ((loaded.trainSampler.iter loaded.epoch).2.iter epoch).1 }

def LoadedDataset.fetcher (rolloutSize policySize : Nat)
    (loaded : LoadedDataset) : ControllerDataFetcher :=
  { epoch := loaded.epoch
    trainDataloaderIter := loader.batches (loaded.trainSampler.iter loaded.epoch).1
    rolloutGlobalMeshSize := some rolloutSize
    policyGlobalMeshSize := some policySize }

end LoadDataset

section Ceilings

theorem mathCeil_le_iff {dividend divisor bound : Nat} (positive : 0 < divisor) :
    mathCeil dividend divisor ≤ bound ↔ dividend ≤ bound * divisor := by
  rw [mathCeil, ← Nat.lt_succ_iff, Nat.div_lt_iff_lt_mul positive, Nat.succ_mul]
  omega

theorem mathCeil_mul {dividend first second : Nat} (firstPos : 0 < first) (secondPos : 0 < second) :
    mathCeil dividend (first * second) = mathCeil (mathCeil dividend second) first := by
  refine Nat.le_antisymm ?_ ?_
  · rw [mathCeil_le_iff (Nat.mul_pos firstPos secondPos), ← Nat.mul_assoc,
      ← mathCeil_le_iff secondPos, ← mathCeil_le_iff firstPos]
  · rw [mathCeil_le_iff firstPos, mathCeil_le_iff secondPos, Nat.mul_assoc,
      ← mathCeil_le_iff (Nat.mul_pos firstPos secondPos)]

theorem mathCeil_pos {dividend divisor : Nat} (dividendPos : 0 < dividend)
    (positive : 0 < divisor) : 0 < mathCeil dividend divisor := by
  by_contra zero
  have below := (@mathCeil_le_iff dividend divisor 0 positive).mp (by omega)
  omega

/-- The epoch and the position in it are those of the first prompt that remains. -/
theorem resumed_position {config : Config} {datasetLength remainSamplesNum : Nat}
    (lengthPos : 1 ≤ datasetLength) (some : 0 < remainSamplesNum)
    (within : remainSamplesNum ≤ datasetLength * config.nGeneration * config.epoch) :
    ∃ past, past < config.epoch ∧
      resumedEpoch config datasetLength remainSamplesNum = past + 1 ∧
      trainDataloaderBias config datasetLength remainSamplesNum < datasetLength ∧
      datasetLength * config.epoch - mathCeil remainSamplesNum config.nGeneration =
        datasetLength * past + trainDataloaderBias config datasetLength remainSamplesNum := by
  have generations := config.nGeneration_pos
  obtain ⟨prompts, isPrompts⟩ : ∃ prompts,
    prompts = mathCeil remainSamplesNum config.nGeneration := ⟨_, rfl⟩
  obtain ⟨epochs, isEpochs⟩ : ∃ epochs, epochs = mathCeil prompts datasetLength := ⟨_, rfl⟩
  have promptsPos : 0 < prompts := by
    rw [isPrompts]
    exact mathCeil_pos some generations
  have epochsPos : 0 < epochs := by
    rw [isEpochs]
    exact mathCeil_pos promptsPos lengthPos
  have epochsWithin : epochs ≤ config.epoch := by
    rw [isEpochs, mathCeil_le_iff lengthPos, isPrompts, mathCeil_le_iff generations]
    calc remainSamplesNum ≤ datasetLength * config.nGeneration * config.epoch := within
      _ = config.epoch * datasetLength * config.nGeneration := by
          rw [Nat.mul_comm, Nat.mul_assoc]
  -- the remaining prompts fill all but the first of these epochs
  have upper : prompts ≤ epochs * datasetLength := by
    rw [← mathCeil_le_iff lengthPos, isEpochs]
  have lower : (epochs - 1) * datasetLength < prompts := by
    by_contra fewer
    have := (mathCeil_le_iff lengthPos).mpr (Nat.not_lt.mp fewer)
    omega
  obtain ⟨last, isLast⟩ : ∃ last, epochs = last + 1 := ⟨epochs - 1, by omega⟩
  subst isLast
  rw [Nat.add_sub_cancel] at lower
  rw [Nat.succ_mul] at upper
  have bias : trainDataloaderBias config datasetLength remainSamplesNum =
      last * datasetLength + datasetLength - prompts := by
    rw [trainDataloaderBias, ← isPrompts, Nat.zero_max]
    by_cases full : prompts = last * datasetLength + datasetLength
    · rw [full, Nat.mul_add_mod_self_right, Nat.mod_self]
      simp
    · have rest : prompts % datasetLength = prompts - last * datasetLength := by
        calc prompts % datasetLength
            = (prompts - last * datasetLength + last * datasetLength) % datasetLength := by
              rw [Nat.sub_add_cancel lower.le]
          _ = (prompts - last * datasetLength) % datasetLength := Nat.add_mul_mod_self_right ..
          _ = prompts - last * datasetLength := Nat.mod_eq_of_lt (by omega)
      rw [rest, Nat.mod_eq_of_lt (by omega)]
      omega
  refine ⟨config.epoch - (last + 1), by omega, ?_, ?_, ?_⟩
  · rw [resumedEpoch, mathCeil_mul lengthPos generations, ← isPrompts, ← isEpochs]
  · rw [bias]
    omega
  · rw [bias, ← isPrompts, Nat.mul_comm datasetLength (config.epoch - (last + 1))]
    have split : datasetLength * config.epoch =
        (config.epoch - (last + 1)) * datasetLength +
          (last * datasetLength + datasetLength) := by
      rw [← Nat.succ_mul, ← Nat.add_mul, Nat.mul_comm]
      congr 1
      omega
    omega

end Ceilings

section Delivery

variable {config : Config}

/-- The run that these calls make, when one of them is told the end. -/
structure CalledToEnd (config : Config) (start : ControllerDataFetcher)
    (calls : List PromptCall) (run : FetcherRun) : Prop where
  isRun : (fetcherSystem config).IsRun ⟨start, []⟩ calls
  after_eq : (fetcherSystem config).after ⟨start, []⟩ calls = run
  ended : ∃ answer ∈ run.returned, answer.isEnd = true

/-- Without rank-specific dispatch: every run of calls delivers a beginning of the
stream and leaves the rest to be drawn, all of it when the end is reported, and some
run gets there. -/
structure DeliversInOrder (config : Config) (stream : List Nat)
    (start : ControllerDataFetcher) : Prop where
  inOrder : ∀ calls, (fetcherSystem config).IsRun ⟨start, []⟩ calls →
    ((fetcherSystem config).after ⟨start, []⟩ calls).delivered ++
      undrawnPrompts config ((fetcherSystem config).after ⟨start, []⟩ calls).fetcher = stream
  complete : ∀ calls, (fetcherSystem config).IsRun ⟨start, []⟩ calls →
    ∀ answer ∈ ((fetcherSystem config).after ⟨start, []⟩ calls).returned,
      answer.isEnd = true →
        ((fetcherSystem config).after ⟨start, []⟩ calls).delivered = stream
  ends : ∃ calls, (fetcherSystem config).IsRun ⟨start, []⟩ calls ∧
    ∃ answer ∈ ((fetcherSystem config).after ⟨start, []⟩ calls).returned,
      answer.isEnd = true

theorem DeliversInOrder.delivered {stream : List Nat} {start : ControllerDataFetcher}
    (inOrder : DeliversInOrder config stream start) {calls : List PromptCall} {run : FetcherRun}
    (ends : CalledToEnd config start calls run) : run.delivered = stream := by
  obtain ⟨isRun, rfl, answer, listed, isEnd⟩ := ends
  exact inOrder.complete calls isRun answer listed isEnd

/-- With rank-specific dispatch the order depends on the ranks that ask, but the
prompts are those of the stream, and all of them when the end is reported. -/
structure DeliversByRank (config : Config) (stream : List Nat)
    (start : ControllerDataFetcher) : Prop where
  conserved : ∀ calls, (fetcherSystem config).IsRun ⟨start, []⟩ calls →
    (((fetcherSystem config).after ⟨start, []⟩ calls).delivered ++
      (((fetcherSystem config).after ⟨start, []⟩ calls).fetcher.fetchedDataBuffer ++
        undrawnPrompts config
          ((fetcherSystem config).after ⟨start, []⟩ calls).fetcher)).Perm stream
  complete : ∀ calls, (fetcherSystem config).IsRun ⟨start, []⟩ calls →
    ∀ answer ∈ ((fetcherSystem config).after ⟨start, []⟩ calls).returned,
      answer.isEnd = true →
        ((fetcherSystem config).after ⟨start, []⟩ calls).delivered.Perm stream

structure InOrder (config : Config) (stream : List Nat) (run : FetcherRun) : Prop where
  inOrder : run.delivered ++ undrawnPrompts config run.fetcher = stream
  ended : ∀ answer ∈ run.returned, answer.isEnd = true →
    undrawnPrompts config run.fetcher = []
  within : IteratorWithin config run.fetcher

section

variable (loads : LoadsEpochs config) {run : FetcherRun} {start : ControllerDataFetcher}

include loads

theorem InOrder.handle
    (notByRank : config.dataDispatchAsRankInMesh = false) {stream : List Nat}
    (ordered : InOrder config stream run) (call : PromptCall) :
    InOrder config stream ((fetcherSystem config).handle run call) := by
  obtain ⟨next, handled, upcoming, _, within⟩ := handle_inOrder loads notByRank ordered.within call
  have split : undrawnPrompts config run.fetcher =
      ((upcomingBatches config run.fetcher).take
        (fetchRoundsFor config call.n none)).flatten ++ undrawnPrompts config next := by
    rw [undrawnPrompts, undrawnPrompts, upcoming, ← flatten_append, take_append_drop]
  rw [handled]
  refine ⟨?_, ?_, within⟩
  · rw [delivered_append, append_assoc, ← split]
    exact ordered.inOrder
  · intro answer member isEnd
    rcases mem_append.mp member with earlier | new
    · have delivered := ordered.ended answer earlier isEnd
      rw [split, append_eq_nil_iff] at delivered
      exact delivered.2
    · rw [mem_singleton.mp new, decide_eq_true_eq] at isEnd
      rw [undrawnPrompts, upcoming, drop_eq_nil_of_le isEnd.le, flatten_nil]

theorem exists_ended (notByRank : config.dataDispatchAsRankInMesh = false) {left : Nat}
    (within : IteratorWithin config run.fetcher)
    (isLeft : (upcomingBatches config run.fetcher).length = left) :
    ∃ calls, (fetcherSystem config).IsRun run calls ∧
      ∃ answer ∈ ((fetcherSystem config).after run calls).returned,
        answer.isEnd = true := by
  have oneRound : fetchRoundsFor config 1 none = 1 := by
    have positive := config.rolloutBatch_pos
    simp [fetchRoundsFor, Nat.div_self positive]
  have allowed : ∀ other, (fetcherSystem config).Allowed other ⟨1, none, none⟩ := by
    intro other byRank
    simp [notByRank] at byRank
  induction left generalizing run with
  | zero =>
    obtain ⟨next, handled, _⟩ := handle_inOrder loads notByRank within ⟨1, none, none⟩
    refine ⟨[⟨1, none, none⟩], ⟨allowed run, trivial⟩, ?_⟩
    rw [EventSystem.after_cons, EventSystem.after_nil, handled]
    exact ⟨_, mem_append_right _ (mem_singleton_self _), by simp [isLeft, oneRound]⟩
  | succ left ih =>
    obtain ⟨next, handled, upcoming, _, nextWithin⟩ :=
      handle_inOrder loads notByRank within ⟨1, none, none⟩
    rw [oneRound] at upcoming
    obtain ⟨calls, isRun, answered⟩ := @ih
      ((fetcherSystem config).handle run ⟨1, none, none⟩) (by rw [handled]; exact nextWithin)
      (by rw [handled, upcoming, length_drop]; omega)
    exact ⟨⟨1, none, none⟩ :: calls, ⟨allowed run, isRun⟩, answered⟩

theorem deliversInOrder (notByRank : config.dataDispatchAsRankInMesh = false)
    (within : IteratorWithin config start) :
    DeliversInOrder config (undrawnPrompts config start) start := by
  have kept : ∀ calls, (fetcherSystem config).IsRun ⟨start, []⟩ calls →
      InOrder config (undrawnPrompts config start)
        ((fetcherSystem config).after ⟨start, []⟩ calls) := by
    intro calls isRun
    have started : InOrder config (undrawnPrompts config start) ⟨start, []⟩ :=
      ⟨by simp [FetcherRun.delivered], by simp, within⟩
    have preserved : ∀ run call, InOrder config (undrawnPrompts config start) run →
        (fetcherSystem config).Allowed run call →
        InOrder config (undrawnPrompts config start) ((fetcherSystem config).handle run call) :=
      fun _ call ordered _ => ordered.handle loads notByRank call
    exact (EventSystem.throughout_of_preserved preserved started isRun).finish
  refine ⟨fun calls isRun => (kept calls isRun).inOrder, ?_,
    exists_ended loads notByRank within rfl⟩
  intro calls isRun answer member isEnd
  have whole := (kept calls isRun).inOrder
  rwa [(kept calls isRun).ended answer member isEnd, append_nil] at whole

theorem deliversByRank
    (byRank : config.dataDispatchAsRankInMesh = true) {rolloutSize policySize : Nat}
    (fresh : FreshFetcher config rolloutSize policySize start) :
    DeliversByRank config (undrawnPrompts config start) start := by
  have kept : ∀ calls, (fetcherSystem config).IsRun ⟨start, []⟩ calls →
      FetcherRunSound config rolloutSize policySize start
        ((fetcherSystem config).after ⟨start, []⟩ calls) := by
    intro calls isRun
    have preserved : ∀ run call, FetcherRunSound config rolloutSize policySize start run →
        (fetcherSystem config).Allowed run call →
        FetcherRunSound config rolloutSize policySize start
          ((fetcherSystem config).handle run call) :=
      fun _ _ sound allowed => sound.byRank loads byRank (allowed byRank)
    exact (EventSystem.throughout_of_preserved preserved fresh.runSound isRun).finish
  refine ⟨fun calls isRun => ?_, fun calls isRun answer member isEnd => ?_⟩
  · have conserved := (kept calls isRun).conserved
    rwa [fresh.emptyBuffer] at conserved
  · have conserved := (kept calls isRun).conserved
    obtain ⟨noBuffer, nothingLeft⟩ := (kept calls isRun).ended answer member isEnd
    rwa [fresh.emptyBuffer, noBuffer, nothingLeft, append_nil, append_nil] at conserved

end

end Delivery

section Resume

variable (config : Config) (datasetLength : Nat) (sampler : IndexSampler)
  (loader : PromptDataLoader config.rolloutBatchSize)

def epochsStream : List Nat := (List.range' 1 config.epoch).flatMap sampler.order

def loadedFresh : LoadedDataset :=
  loadDataset { config with resume := false } datasetLength sampler none

def loadedResumed (remainSamplesNum : Nat) : LoadedDataset :=
  loadDataset { config with resume := true } datasetLength sampler (some remainSamplesNum)

/-- The resumed run delivers what the uninterrupted run delivers after its first
`L * E - ceil(R / g)` prompts, if both are called until they report the end. -/
def ResumesSuffix (remainSamplesNum rolloutSize policySize : Nat) : Prop :=
  let fresh := loadedFresh config datasetLength sampler
  let resumed := loadedResumed config datasetLength sampler remainSamplesNum
  ∀ freshCalls resumedCalls freshRun resumedRun,
    CalledToEnd (fresh.runConfig config loader)
      (fresh.fetcher config loader rolloutSize policySize) freshCalls freshRun →
    CalledToEnd (resumed.runConfig config loader)
      (resumed.fetcher config loader rolloutSize policySize) resumedCalls resumedRun →
    resumedRun.delivered = freshRun.delivered.drop
      (datasetLength * config.epoch - mathCeil remainSamplesNum config.nGeneration)

variable {config}

theorem undrawnPrompts_fetcher (loaded : LoadedDataset) (rolloutSize policySize : Nat) :
    undrawnPrompts (loaded.runConfig config loader)
        (loaded.fetcher config loader rolloutSize policySize) =
      (loaded.trainSampler.iter loaded.epoch).1 ++
        (List.range' (loaded.epoch + 1) (config.epoch - loaded.epoch)).flatMap fun epoch =>
          ((loaded.trainSampler.iter loaded.epoch).2.iter epoch).1 := by
  have later : ∀ epochs : List Nat, (epochs.flatMap
      (loaded.runConfig config loader).dataset.trainDataloader).flatten =
        epochs.flatMap fun epoch =>
          ((loaded.trainSampler.iter loaded.epoch).2.iter epoch).1 := by
    intro epochs
    induction epochs with
    | nil => rfl
    | cons epoch rest ih =>
      simp only [flatMap_cons, flatten_append, ih]
      congr 1
      exact loader.flatten_batches _
  rw [undrawnPrompts, upcomingBatches, flatten_append, later]
  congr 1
  exact loader.flatten_batches _

section

variable {datasetLength : Nat} (sampler : SizedSampler datasetLength)

theorem length_flatMap_order (epochs : List Nat) :
    (epochs.flatMap sampler.order).length = epochs.length * datasetLength := by
  induction epochs with
  | nil => simp
  | cons epoch rest ih =>
    rw [flatMap_cons, length_append, sampler.length_order, ih,
      length_cons, Nat.succ_mul, Nat.add_comm]

theorem epochsStream_drop {past skip : Nat} (before : past < config.epoch)
    (inside : skip ≤ datasetLength) :
    (epochsStream config sampler).drop (datasetLength * past + skip) =
      (sampler.order (past + 1)).drop skip ++
        (List.range' (past + 1 + 1) (config.epoch - (past + 1))).flatMap sampler.order := by
  have epochs : List.range' 1 config.epoch =
      List.range' 1 past ++
        (past + 1) :: List.range' (past + 1 + 1) (config.epoch - (past + 1)) := by
    obtain ⟨rest, isRest⟩ : ∃ rest, config.epoch = past + (rest + 1) :=
      ⟨config.epoch - (past + 1), by omega⟩
    rw [isRest, show past + (rest + 1) - (past + 1) = rest by omega, ← range'_succ,
      ← range'_append]
    simp [Nat.add_comm]
  rw [epochsStream, epochs, flatMap_append, flatMap_cons, ← drop_drop,
    drop_left' (by rw [length_flatMap_order, length_range', Nat.mul_comm]),
    drop_append_of_le_length (by rwa [sampler.length_order])]

theorem undrawnPrompts_fresh (epochs : 1 ≤ config.epoch) (rolloutSize policySize : Nat) :
    undrawnPrompts ((loadedFresh config datasetLength sampler).runConfig config loader)
        ((loadedFresh config datasetLength sampler).fetcher config loader rolloutSize
          policySize) =
      epochsStream config sampler := by
  have whole := @epochsStream_drop config _ sampler 0 0 epochs (Nat.zero_le _)
  rw [undrawnPrompts_fetcher]
  simpa [loadedFresh, loadDataset, TrainSampler.iter] using whole.symm

theorem undrawnPrompts_resumed (lengthPos : 1 ≤ datasetLength) {remainSamplesNum : Nat}
    (some : 0 < remainSamplesNum)
    (within : remainSamplesNum ≤ datasetLength * config.nGeneration * config.epoch)
    (rolloutSize policySize : Nat) :
    undrawnPrompts
        ((loadedResumed config datasetLength sampler remainSamplesNum).runConfig config loader)
        ((loadedResumed config datasetLength sampler remainSamplesNum).fetcher config loader
          rolloutSize policySize) =
      (epochsStream config sampler).drop
        (datasetLength * config.epoch - mathCeil remainSamplesNum config.nGeneration) := by
  obtain ⟨past, before, isEpoch, inside, position⟩ :=
    @resumed_position config datasetLength remainSamplesNum lengthPos some within
  rw [position, epochsStream_drop sampler before inside.le, undrawnPrompts_fetcher]
  have epoch : (loadedResumed config datasetLength sampler remainSamplesNum).epoch = past + 1 :=
    isEpoch
  rw [epoch]
  rfl

theorem runConfig_loads (lengthPos : 1 ≤ datasetLength) (loaded : LoadedDataset)
    (orders : ∀ epoch, ((loaded.trainSampler.iter loaded.epoch).2.iter epoch).1 =
      sampler.order epoch) :
    LoadsEpochs (loaded.runConfig config loader) where
  begins := by
    intro epoch _ _ empty
    have flat := congrArg List.flatten empty
    have whole := loader.flatten_batches ((loaded.trainSampler.iter loaded.epoch).2.iter epoch).1
    have size := sampler.length_order epoch
    rw [LoadedDataset.runConfig, whole, orders, flatten_nil] at flat
    rw [flat, length_nil] at size
    omega
  withinBatch := fun _ batch member => loader.withinBatch _ batch member

theorem fetcher_fresh {rolloutSize policySize : Nat} (rolloutPos : 0 < rolloutSize)
    (policyPos : 0 < policySize) (loaded : LoadedDataset) :
    FreshFetcher (loaded.runConfig config loader) rolloutSize policySize
      (loaded.fetcher config loader rolloutSize policySize) :=
  ⟨rfl, rfl, ⟨rfl, rfl, rolloutPos, policyPos⟩,
    fun batch member => loader.withinBatch _ batch member⟩

end

end Resume

def singleLoader : PromptDataLoader 1 where
  batches indices := indices.map fun idx => [idx]
  flatten_batches indices := by
    induction indices with
    | nil => rfl
    | cons idx rest ih => simpa using ih
  withinBatch := by simp

def alternatingSampler : SizedSampler 10 where
  order epoch := if epoch % 2 = 0 then (List.range 10).reverse else List.range 10
  length_order epoch := by split <;> simp

def twoGenerations : Config :=
  { Config.small 4
      { trainDataloader := fun _ => [], valDataloader := [], valDatasize := 0 } with
    epoch := 2
    nGeneration := 2
    nGeneration_pos := Nat.two_pos }

def dispatchedByRank : Config :=
  { twoGenerations with
    epoch := 1
    nGeneration := 1
    nGeneration_pos := Nat.one_pos
    dataDispatchAsRankInMesh := true }

def forwardSampler : IndexSampler where
  order _ := List.range 4

/-- Three indices an epoch, of a dataset of two. -/
def repeatingSampler : IndexSampler where
  order epoch := [epoch % 2, 0, 1]

end CosmosRl.Dispatcher
