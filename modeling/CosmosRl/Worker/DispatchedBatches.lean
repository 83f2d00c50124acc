import CosmosRl.Worker.RLPolicyWorker

/-!
What the trainers of a policy replica get at every `DataFetch`.

If the number of rollouts of a step is a multiple of the data-parallel size, every
call of `dispatch_rollouts` takes one whole batch from the queue, whatever the pace
at which the rollouts arrive, and deals it out evenly.  Otherwise the call rounds
the number down and leaves the rest of the batch to the next step.
-/

namespace CosmosRl.Worker

open CosmosRl.Foundation List
open CosmosRl.Dispatcher (PyError)

universe u v

theorem ParallelDims.exists_rank (dims : ParallelDims) {index : Nat}
    (isIndex : index < dims.dpReplicate * dims.dpShard) :
    ∃ rank, rank < dims.worldSize ∧ dims.dpRank rank = index := by
  obtain ⟨replicate, shard, cp, tp, pp⟩ := dims.positive
  have inner : 0 < dims.cp * dims.tp := Nat.mul_pos cp tp
  refine ⟨index * (dims.cp * dims.tp), ?_, ?_⟩
  · refine (Nat.mul_lt_mul_right inner).mpr (Nat.lt_of_lt_of_le isIndex ?_)
    exact Nat.le_mul_of_pos_left _ pp
  · rw [dpRank, Nat.mul_div_cancel index inner, Nat.mod_eq_of_lt isIndex]

theorem ParallelDims.dpWorldSize_pos (dims : ParallelDims) : 0 < dims.dpWorldSize := by
  obtain ⟨replicate, shard, cp, tp, pp⟩ := dims.positive
  unfold dpWorldSize tpInDp
  split
  · refine Nat.mul_pos (Nat.mul_pos replicate shard) ?_
    split
    · exact tp
    · exact Nat.one_pos
  · exact Nat.one_pos

/-- Unless tensor parallelism is fused into it, the `dp` mesh has one entry for every
data-parallel index. -/
theorem ParallelDims.dpWorldSize_eq (dims : ParallelDims)
    (unfused : dims.tpFusedWithDp = true → dims.tp = 1) :
    dims.dpWorldSize = dims.dpReplicate * dims.dpShard := by
  obtain ⟨replicate, shard, cp, tp, pp⟩ := dims.positive
  have noTp : ¬ (dims.tpFusedWithDp = true ∧ 1 < dims.tp) := by
    rintro ⟨fused, several⟩
    rw [unfused fused] at several
    exact absurd several (Nat.lt_irrefl 1)
  unfold dpWorldSize tpInDp dpEnabled
  rw [if_neg noTp, Nat.mul_one]
  split
  · rfl
  · rename_i disabled
    simp only [decide_eq_true_eq, not_or, Nat.not_lt] at disabled
    have one : dims.dpReplicate = 1 ∧ dims.dpShard = 1 := by omega
    rw [one.1, one.2]

variable {Uuid : Type u} {Payload : Type v} [DecidableEq Uuid]

/-- The ranks get a batch: every data-parallel index gets its own part of it, all
parts are equally large, and every rank gets the part of its index. -/
def HandsOver (config : WorkerConfig) (fetcher : DataFetcher Payload)
    (entry : Scattered Uuid Payload) (batch : List (Rollout Uuid Payload)) : Prop :=
  ∃ (mesh : Option MeshPlace) (part : Nat → List (Rollout Uuid Payload)),
    (∀ rank, rank < config.parallelDims.worldSize →
      entry rank = preprocessRollouts config fetcher mesh
        (part (config.parallelDims.dpRank rank))) ∧
    ((List.range config.parallelDims.dpWorldSize).flatMap part).Perm batch ∧
    ∀ index, index < config.parallelDims.dpWorldSize →
      (part index).length = batch.length / config.parallelDims.dpWorldSize ∧
        ∃ rank, rank < config.parallelDims.worldSize ∧
          config.parallelDims.dpRank rank = index

namespace WorkerState

/-- The i-th dispatch hands over the rollouts that were published for the i-th
`DataFetch` that is not a fake one. -/
def TrainsWhatItWasSent (config : WorkerConfig) (fetcher : DataFetcher Payload)
    (state : WorkerState Uuid Payload) : Prop :=
  ∀ (i : Nat) (entry : Scattered Uuid Payload), state.handed[i]? = some entry →
    ∃ batch, state.batches[i]? = some batch ∧ HandsOver config fetcher entry batch

end WorkerState

/-- The configurations in which the rounded number is the number of published rollouts
and every index is known to some rank that takes part in the dispatch. -/
structure WorkerConfig.DispatchesEvenly (config : WorkerConfig) : Prop where
  divides : config.parallelDims.dpWorldSize ∣ config.trainBatchPerReplica
  unfused : config.parallelDims.tpFusedWithDp = true → config.parallelDims.tp = 1
  central : config.uncentralizedTraining = true → config.parallelDims.worldSize = 1

variable {config : WorkerConfig} {fetcher : DataFetcher Payload}
  {events : List (WorkerEvent Uuid Payload)}

theorem WorkerConfig.DispatchesEvenly.batchForThisStep (evenly : config.DispatchesEvenly) :
    config.batchForThisStep config.trainBatchPerReplica = config.trainBatchPerReplica :=
  Nat.div_mul_cancel evenly.divides

theorem ParallelDims.single {dims : ParallelDims} (single : dims.worldSize = 1) :
    dims.dpReplicate * dims.dpShard = 1 ∧ dims.tp = 1 := by
  unfold worldSize at single
  have outer := Nat.eq_one_of_mul_eq_one_right single
  have inner := Nat.eq_one_of_mul_eq_one_left single
  exact ⟨Nat.eq_one_of_mul_eq_one_left outer, Nat.eq_one_of_mul_eq_one_left inner⟩

structure Dispatching (config : WorkerConfig) (dispatch : Dispatch Uuid Payload)
    (placed : List (Rollout Uuid Payload)) : Prop where
  nonempty : 0 < config.trainBatchPerReplica
  left : dispatch.remaining + (placed.length + dispatch.rollout.toList.length) =
    config.trainBatchPerReplica
  turn : config.uncentralizedTraining = false →
    dispatch.dpId = placed.length % config.parallelDims.dpWorldSize
  scattered : ∀ rank, rank < config.parallelDims.worldSize →
    dispatch.scatteredRollouts rank =
      deal config.parallelDims.dpWorldSize 0 placed (config.parallelDims.dpRank rank)

def InProgress (config : WorkerConfig) (placed : List (Rollout Uuid Payload)) :
    Option (Dispatch Uuid Payload) → Prop
  | none => placed = []
  | some dispatch => Dispatching config dispatch placed

def inHand (dispatch : Option (Dispatch Uuid Payload)) : List (Rollout Uuid Payload) :=
  (dispatch.bind Dispatch.rollout).toList

structure TakesBatches (config : WorkerConfig) (fetcher : DataFetcher Payload)
    (state : WorkerState Uuid Payload) : Prop where
  even : ∀ batch ∈ state.batches,
    batch.length = config.trainBatchPerReplica ∧ 0 < config.trainBatchPerReplica
  commands : ∀ itemsCount ∈ state.commands,
    itemsCount = 0 ∨ itemsCount = config.trainBatchPerReplica
  order : ∃ taken placed, List.Forall₂ (HandsOver config fetcher) state.handed taken ∧
    (∀ batch ∈ taken, batch.length = config.trainBatchPerReplica ∧
      0 < config.trainBatchPerReplica) ∧
    InProgress config placed state.dispatch ∧
    state.batches.flatten =
      taken.flatten ++ placed ++ inHand state.dispatch ++ state.dataQueue ++ state.stream

theorem TakesBatches.initial (config : WorkerConfig) (fetcher : DataFetcher Payload) :
    TakesBatches config fetcher (WorkerState.initial : WorkerState Uuid Payload) := by
  refine ⟨by simp [WorkerState.initial], by simp [WorkerState.initial], [], [], .nil, by simp,
    rfl, ?_⟩
  simp [WorkerState.initial, inHand]

section Steps

variable {config : WorkerConfig} {fetcher : DataFetcher Payload}
  {state : WorkerState Uuid Payload}

section

variable (takes : TakesBatches config fetcher state)

include takes

theorem TakesBatches.train
    {batch : List (Rollout Uuid Payload)} (full : batch.length = config.trainBatchPerReplica) :
    TakesBatches config fetcher (state.train batch) := by
  obtain ⟨even, commands, taken, placed, handed, sizes, inProgress, order⟩ := takes
  refine ⟨?_, ?_, taken, placed, handed, sizes, inProgress, ?_⟩
  · intro other member
    unfold WorkerState.train at member
    split at member
    · exact even other member
    · rename_i nonempty
      rcases mem_append.mp member with earlier | new
      · exact even other earlier
      · rw [mem_singleton.mp new, ← full]
        refine ⟨rfl, length_pos_of_ne_nil ?_⟩
        simpa using nonempty
  · intro itemsCount member
    rcases mem_append.mp member with earlier | new
    · exact commands itemsCount earlier
    · exact .inr ((mem_singleton.mp new).trans full)
  · have published : (state.train batch).batches.flatten = state.batches.flatten ++ batch := by
      unfold WorkerState.train
      split
      · rename_i empty
        simp [isEmpty_iff.mp empty]
      · simp
    rw [published, order]
    simp [WorkerState.train]

theorem TakesBatches.putRollout : TakesBatches config fetcher state.putRollout := by
  obtain ⟨even, commands, taken, placed, handed, sizes, inProgress, order⟩ := takes
  unfold WorkerState.putRollout
  cases unread : state.stream with
  | nil => exact ⟨even, commands, taken, placed, handed, sizes, inProgress, order⟩
  | cons rollout rest =>
    refine ⟨even, commands, taken, placed, handed, sizes, inProgress, ?_⟩
    rw [order, unread]
    simp

/-- A dispatch starts with nothing taken. -/
theorem TakesBatches.dataFetch
    (evenly : config.DispatchesEvenly) (idle : state.dispatch.isNone = true) :
    TakesBatches config fetcher (state.dataFetch config) := by
  obtain ⟨even, commands, taken, placed, handed, sizes, inProgress, order⟩ := takes
  have nothing : state.dispatch = none := Option.isNone_iff_eq_none.mp idle
  rw [nothing] at inProgress order
  subst inProgress
  unfold WorkerState.dataFetch
  cases queued : state.commands with
  | nil =>
    refine ⟨even, commands, taken, [], handed, sizes, ?_, ?_⟩
    · rw [nothing]
      rfl
    · rw [nothing]
      exact order
  | cons itemsCount rest =>
    have remaining : ∀ other ∈ rest, other = 0 ∨ other = config.trainBatchPerReplica :=
      fun other member => commands other (by simp [queued, member])
    by_cases fake : itemsCount = 0
    · simp only [fake, if_true]
      refine ⟨even, remaining, taken, [], handed, sizes, ?_, ?_⟩
      · rw [nothing]
        rfl
      · rw [nothing]
        exact order
    · have count : itemsCount = config.trainBatchPerReplica :=
        (commands itemsCount (by simp [queued])).resolve_left fake
      simp only [fake, if_false]
      refine ⟨even, remaining, taken, [], handed, sizes, ⟨by omega, ?_, ?_, ?_⟩, order⟩
      · rw [count, evenly.batchForThisStep]
        by_cases central : config.uncentralizedTraining = true
        · obtain ⟨one, tpOne⟩ := ParallelDims.single (evenly.central central)
          rw [if_pos central, config.parallelDims.dpWorldSize_eq evenly.unfused, one, Nat.div_one]
          rfl
        · rw [if_neg central]
          rfl
      · intro _
        exact (Nat.zero_mod _).symm
      · intro rank _
        rfl

end

variable {dispatch : Dispatch Uuid Payload}

theorem TakesBatches.getRollout (takes : TakesBatches config fetcher state)
    (running : state.dispatch = some dispatch)
    (wanted : 0 < dispatch.remaining) (free : dispatch.rollout = none) :
    TakesBatches config fetcher (state.getRollout dispatch) := by
  obtain ⟨even, commands, taken, placed, handed, sizes, inProgress, order⟩ := takes
  rw [running] at inProgress order
  obtain ⟨nonempty, left, turn, scattered⟩ := inProgress
  unfold WorkerState.getRollout
  cases queued : state.dataQueue with
  | nil =>
    refine ⟨even, commands, taken, placed, handed, sizes, ?_, ?_⟩
    · rw [running]
      exact ⟨nonempty, left, turn, scattered⟩
    · rw [running]
      exact order
  | cons rollout rest =>
    refine ⟨even, commands, taken, placed, handed, sizes, ⟨nonempty, ?_, turn, scattered⟩, ?_⟩
    · simp only [free, Option.toList_none, Option.toList_some, length_nil,
        length_singleton] at left ⊢
      omega
    · rw [order, queued]
      simp [inHand, free]

section

omit [DecidableEq Uuid]

/-- A rollout is placed on the ranks of the index whose turn it is. -/
theorem Dispatching.placed {dispatch : Dispatch Uuid Payload}
    {placed : List (Rollout Uuid Payload)} (dispatching : Dispatching config dispatch placed)
    {rollout : Rollout Uuid Payload} (taken : dispatch.rollout = some rollout)
    (central : config.uncentralizedTraining = false) (prefetchDpId : Nat) :
    Dispatching config
      { remaining := dispatch.remaining
        dpId := nextTurn config.parallelDims.dpWorldSize dispatch.dpId
        prefetchDpId := prefetchDpId
        rollout := none
        scatteredRollouts := fun rank =>
          if config.parallelDims.dpRank rank = dispatch.dpId then
            dispatch.scatteredRollouts rank ++ [rollout]
          else dispatch.scatteredRollouts rank
        uuidsAhead := dispatch.uuidsAhead }
      (placed ++ [rollout]) := by
  obtain ⟨nonempty, left, turn, scattered⟩ := dispatching
  have positive := config.parallelDims.dpWorldSize_pos
  refine ⟨nonempty, ?_, ?_, ?_⟩
  · simp only [taken, Option.toList_some, Option.toList_none, length_singleton,
      length_append, length_nil] at left ⊢
    omega
  · intro _
    rw [turn central, nextTurn_mod positive, length_append, length_singleton]
  · intro rank isRank
    have next := deal_append_singleton positive 0 placed rollout (config.parallelDims.dpRank rank)
    rw [Nat.zero_mod, Nat.zero_add, ← turn central] at next
    dsimp only
    rw [next, scattered rank isRank]
    by_cases this : config.parallelDims.dpRank rank = dispatch.dpId
    · rw [if_pos this, if_pos this.symm]
    · rw [if_neg this, if_neg (Ne.symm this), append_nil]

theorem Dispatching.placedAlone
    {placed : List (Rollout Uuid Payload)} (dispatching : Dispatching config dispatch placed)
    {rollout : Rollout Uuid Payload} (taken : dispatch.rollout = some rollout)
    (evenly : config.DispatchesEvenly) (uncentralized : config.uncentralizedTraining = true) :
    Dispatching config
      { dispatch with
          rollout := none
          scatteredRollouts := fun rank =>
            if rank = 0 then dispatch.scatteredRollouts rank ++ [rollout]
            else dispatch.scatteredRollouts rank }
      (placed ++ [rollout]) := by
  obtain ⟨nonempty, left, turn, scattered⟩ := dispatching
  have single := evenly.central uncentralized
  obtain ⟨one, tpOne⟩ := ParallelDims.single single
  refine ⟨nonempty, ?_, fun central => absurd uncentralized (by simp [central]), ?_⟩
  · simp only [taken, Option.toList_some, Option.toList_none, length_singleton,
      length_append, length_nil] at left ⊢
    omega
  · intro rank isRank
    have first : rank = 0 := by omega
    subst first
    have index : config.parallelDims.dpRank 0 = 0 := by
      rw [ParallelDims.dpRank, one, Nat.mod_one]
    dsimp only
    rw [if_pos rfl, scattered 0 isRank, index,
      config.parallelDims.dpWorldSize_eq evenly.unfused, one, deal_one, deal_one]

end

end Steps

theorem prefetchUuids_frame (dims : ParallelDims) (state : WorkerState Uuid Payload)
    (prefetchDpId : Nat) (uuids : List Uuid) :
    ∃ shards interact, (WorkerState.prefetchUuids dims state prefetchDpId uuids).1 =
      { state with teacherUuidToDpShard := shards, teacherInteract := interact } := by
  induction uuids generalizing state prefetchDpId with
  | nil => exact ⟨_, _, rfl⟩
  | cons uuid rest ih =>
    obtain ⟨shards, interact, same⟩ := ih
      (state.prefetchUuid dims prefetchDpId uuid) (nextTurn dims.dpWorldSize prefetchDpId)
    exact ⟨shards, interact, same⟩

theorem placeRollout_frame (config : WorkerConfig) (state : WorkerState Uuid Payload)
    (dispatch : Dispatch Uuid Payload) (rollout : Rollout Uuid Payload) :
    (state.placeRollout config dispatch rollout).batches = state.batches ∧
      (state.placeRollout config dispatch rollout).commands = state.commands ∧
      (state.placeRollout config dispatch rollout).handed = state.handed ∧
      (state.placeRollout config dispatch rollout).dataQueue = state.dataQueue ∧
      (state.placeRollout config dispatch rollout).stream = state.stream := by
  unfold WorkerState.placeRollout WorkerState.prepareTeacherUuidsForPrefetch
  split
  · exact ⟨rfl, rfl, rfl, rfl, rfl⟩
  · split
    · obtain ⟨shards, interact, same⟩ := prefetchUuids_frame config.parallelDims
        { state with teacherPrefetchQueue := [] } dispatch.prefetchDpId
        state.teacherPrefetchQueue
      dsimp only
      rw [same]
      cases rollout.teacherResultUuid <;> exact ⟨rfl, rfl, rfl, rfl, rfl⟩
    · cases rollout.teacherResultUuid <;> exact ⟨rfl, rfl, rfl, rfl, rfl⟩

section Steps

variable {config : WorkerConfig} {fetcher : DataFetcher Payload}
  {state : WorkerState Uuid Payload}

section

variable (takes : TakesBatches config fetcher state)

include takes

theorem TakesBatches.placeRollout
    (evenly : config.DispatchesEvenly) {dispatch : Dispatch Uuid Payload}
    (running : state.dispatch = some dispatch) {rollout : Rollout Uuid Payload}
    (held : dispatch.rollout = some rollout) :
    TakesBatches config fetcher (state.placeRollout config dispatch rollout) := by
  obtain ⟨even, commands, taken, placed, handed, sizes, inProgress, order⟩ := takes
  obtain ⟨batches, commandsKept, handedKept, queue, stream⟩ :=
    placeRollout_frame config state dispatch rollout
  rw [running] at inProgress order
  refine ⟨?_, ?_, taken, placed ++ [rollout], ?_, sizes, ?_, ?_⟩
  · rw [batches]
    exact even
  · rw [commandsKept]
    exact commands
  · rw [handedKept]
    exact handed
  · unfold WorkerState.placeRollout
    split
    · rename_i uncentralized
      exact Dispatching.placedAlone inProgress held evenly uncentralized
    · rename_i central
      exact Dispatching.placed inProgress held (by simpa using central) _
  · rw [batches, queue, stream, order]
    have empty : inHand (state.placeRollout config dispatch rollout).dispatch = [] := by
      unfold WorkerState.placeRollout
      split <;> rfl
    rw [empty]
    simp [inHand, held]

/-- The call ends when the whole batch has been placed. -/
theorem TakesBatches.scatter (evenly : config.DispatchesEvenly) {dispatch : Dispatch Uuid Payload}
    (running : state.dispatch = some dispatch) (done : dispatch.remaining = 0)
    (free : dispatch.rollout = none) :
    TakesBatches config fetcher (state.scatter config fetcher dispatch) := by
  obtain ⟨even, commands, taken, placed, handed, sizes, inProgress, order⟩ := takes
  rw [running] at inProgress order
  obtain ⟨nonempty, left, turn, scattered⟩ := inProgress
  have full : placed.length = config.trainBatchPerReplica := by
    simp only [free, Option.toList_none, length_nil] at left
    omega
  have positive := config.parallelDims.dpWorldSize_pos
  refine ⟨even, commands, taken ++ [placed], [], ?_, ?_, rfl, ?_⟩
  · refine rel_append handed (.cons ?_ .nil)
    refine ⟨state.mesh, deal config.parallelDims.dpWorldSize 0 placed, ?_, ?_, ?_⟩
    · intro rank isRank
      have own : ¬ (config.uncentralizedTraining = true ∧ rank ≠ 0) := by
        rintro ⟨uncentralized, other⟩
        have single := evenly.central uncentralized
        omega
      rw [WorkerState.scatteredTo, if_neg own, scattered rank isRank]
    · have all := deal_perm positive 0 placed
      rwa [Nat.zero_mod] at all
    · intro index isIndex
      refine ⟨length_deal_of_dvd isIndex (full ▸ evenly.divides), ?_⟩
      apply config.parallelDims.exists_rank
      rwa [← config.parallelDims.dpWorldSize_eq evenly.unfused]
  · intro batch member
    rcases mem_append.mp member with earlier | new
    · exact sizes batch earlier
    · rw [mem_singleton.mp new]
      exact ⟨full, nonempty⟩
  · simp only [WorkerState.scatter]
    rw [order]
    simp [inHand, free]

theorem TakesBatches.handle (evenly : config.DispatchesEvenly) {event : WorkerEvent Uuid Payload}
    (allowed : WorkerState.Allowed config state event) :
    TakesBatches config fetcher (state.handle config fetcher event) := by
  cases event with
  | train batch => exact takes.train allowed.1
  | trainFake =>
    obtain ⟨even, commands, order⟩ := takes
    refine ⟨even, ?_, order⟩
    intro itemsCount member
    rcases mem_append.mp member with earlier | new
    · exact commands itemsCount earlier
    · exact .inl (mem_singleton.mp new)
  | buildMesh place => exact ⟨takes.even, takes.commands, takes.order⟩
  | putRollout => exact takes.putRollout
  | putUuid => exact ⟨takes.even, takes.commands, takes.order⟩
  | dataFetch => exact takes.dataFetch evenly allowed.2.1
  | getRollout =>
    obtain ⟨dispatch, running, asks, free, handled⟩ := WorkerState.exists_getRollout allowed
    rw [handled]
    exact takes.getRollout running asks free
  | placeRollout =>
    obtain ⟨dispatch, rollout, running, held, handled⟩ := WorkerState.exists_placeRollout allowed
    rw [handled]
    exact takes.placeRollout evenly running held
  | scatter =>
    obtain ⟨dispatch, running, done, free, handled⟩ := WorkerState.exists_scatter allowed
    rw [handled]
    exact takes.scatter evenly running done free

end

end Steps

theorem TakesBatches.trainsWhatItWasSent
    {state : WorkerState Uuid Payload} (takes : TakesBatches config fetcher state) :
    state.TrainsWhatItWasSent config fetcher := by
  obtain ⟨even, commands, taken, placed, handed, sizes, inProgress, order⟩ := takes
  intro i entry found
  have inside : i < taken.length := by
    rw [← handed.length_eq]
    exact (List.getElem?_eq_some_iff.mp found).1
  have positive : 0 < config.trainBatchPerReplica := (sizes taken[i] (getElem_mem inside)).2
  have published : taken <+: state.batches := by
    refine prefix_of_flatten_prefix positive (fun batch member => (sizes batch member).1)
      (fun batch member => (even batch member).1) ?_
    rw [order]
    simp only [append_assoc]
    exact prefix_append _ _
  obtain ⟨later, split⟩ := published
  refine ⟨taken[i], ?_, ?_⟩
  · rw [← split, getElem?_append_left inside, getElem?_eq_getElem inside]
  · obtain ⟨handedInside, rfl⟩ := List.getElem?_eq_some_iff.mp found
    exact (forall₂_iff_get.mp handed).2 i handedInside inside

/-- In every run of a replica whose configuration dispatches evenly, each dispatch
hands over exactly the batch that was published for its command. -/
theorem WorkerConfig.DispatchesEvenly.trainsWhatItWasSent (evenly : config.DispatchesEvenly)
    (run : (workerSystem config fetcher).IsRun WorkerState.initial events) :
    (workerSystem config fetcher).Throughout (WorkerState.TrainsWhatItWasSent config fetcher)
      WorkerState.initial events := by
  have takes : (workerSystem config fetcher).Throughout (TakesBatches config fetcher)
      WorkerState.initial events := by
    apply EventSystem.throughout_of_preserved _ (TakesBatches.initial config fetcher) run
    intro state event takes allowed
    exact takes.handle evenly allowed
  exact takes.mono fun _ takes => takes.trainsWhatItWasSent

/-- Without a batch there is nothing to dispatch. -/
theorem handed_eq_nil_of_empty (empty : config.trainBatchPerReplica = 0)
    (run : (workerSystem config fetcher).IsRun WorkerState.initial events) :
    (workerSystem config fetcher).Throughout
      (fun state => state.handed = [] ∧ state.dispatch = none ∧
        ∀ itemsCount ∈ state.commands, itemsCount = 0)
      WorkerState.initial events := by
  apply EventSystem.throughout_of_preserved _ _ run
  · rintro state event ⟨handed, idle, commands⟩ allowed
    cases event with
    | train batch =>
      refine ⟨handed, idle, ?_⟩
      intro itemsCount member
      rcases mem_append.mp member with earlier | new
      · exact commands itemsCount earlier
      · rw [mem_singleton.mp new, allowed.1, empty]
    | trainFake =>
      refine ⟨handed, idle, ?_⟩
      intro itemsCount member
      rcases mem_append.mp member with earlier | new
      · exact commands itemsCount earlier
      · exact mem_singleton.mp new
    | buildMesh place => exact ⟨handed, idle, commands⟩
    | putUuid => exact ⟨handed, idle, commands⟩
    | putRollout =>
      simp only [workerSystem, WorkerState.handle, WorkerState.putRollout]
      split <;> exact ⟨handed, idle, commands⟩
    | dataFetch =>
      simp only [workerSystem, WorkerState.handle, WorkerState.dataFetch]
      cases queued : state.commands with
      | nil => exact ⟨handed, idle, commands⟩
      | cons itemsCount rest =>
        dsimp only
        rw [if_pos (commands itemsCount (by simp [queued]))]
        exact ⟨handed, idle, fun other member => commands other (by simp [queued, member])⟩
    | getRollout =>
      simp only [workerSystem, WorkerState.handle, idle]
      exact ⟨handed, trivial, commands⟩
    | placeRollout =>
      simp only [workerSystem, WorkerState.handle, idle]
      exact ⟨handed, trivial, commands⟩
    | scatter =>
      simp only [workerSystem, WorkerState.handle, idle]
      exact ⟨handed, trivial, commands⟩
  · exact ⟨rfl, rfl, by simp [WorkerState.initial]⟩

section

omit [DecidableEq Uuid]

theorem HandsOver.evenly {entry : Scattered Uuid Payload} {batch : List (Rollout Uuid Payload)}
    (handsOver : HandsOver config fetcher entry batch) :
    config.parallelDims.dpWorldSize ∣ batch.length ∧
      (config.parallelDims.tpFusedWithDp = true → config.parallelDims.tp = 1) := by
  obtain ⟨mesh, part, ranks, all, parts⟩ := handsOver
  constructor
  · have total := all.length_eq
    rw [length_flatMap, map_congr_left fun index member =>
      (parts index (mem_range.mp member)).1] at total
    simp only [map_const', length_range, sum_replicate_nat] at total
    exact ⟨_, total.symm⟩
  · intro fused
    by_contra several
    obtain ⟨replicate, shard, cp, tp, pp⟩ := config.parallelDims.positive
    have many : 1 < config.parallelDims.tp := by omega
    have size : config.parallelDims.dpWorldSize = config.parallelDims.dpReplicate *
        config.parallelDims.dpShard * config.parallelDims.tp := by
      simp [ParallelDims.dpWorldSize, ParallelDims.dpEnabled, ParallelDims.tpInDp, fused, many]
    have indices := Nat.mul_pos replicate shard
    have beyond : config.parallelDims.dpReplicate * config.parallelDims.dpShard <
        config.parallelDims.dpWorldSize := by
      rw [size]
      exact (Nat.lt_mul_iff_one_lt_right indices).mpr many
    obtain ⟨-, rank, -, reached⟩ := parts _ beyond
    have below := Nat.mod_lt (rank / (config.parallelDims.cp * config.parallelDims.tp)) indices
    rw [ParallelDims.dpRank] at reached
    omega

theorem checkAll_ne_blocked {check : Rollout Uuid Payload → Except PyError Unit}
    (each : ∀ rollout, check rollout ≠ .error .blocked)
    (rollouts : List (Rollout Uuid Payload)) : checkAll check rollouts ≠ .error .blocked := by
  induction rollouts with
  | nil => simp [checkAll]
  | cons rollout rest ih =>
    have first := each rollout
    unfold checkAll
    split
    · rename_i exn failed
      rw [failed] at first
      exact first
    · exact ih

theorem preprocessRollouts_ne_blocked (config : WorkerConfig) (fetcher : DataFetcher Payload)
    (mesh : Option MeshPlace) (rollouts : List (Rollout Uuid Payload)) :
    preprocessRollouts config fetcher mesh rollouts ≠ .error .blocked := by
  have check : ∀ rollout : Rollout Uuid Payload,
      checkRankInMesh mesh rollout ≠ .error .blocked := by
    intro rollout
    unfold checkRankInMesh
    split
    · simp
    · split <;> simp
  unfold preprocessRollouts
  split
  · split
    · split
      · rename_i exn failed
        split at failed
        · have never := checkAll_ne_blocked check rollouts
          rw [failed] at never
          simpa using never
        · simp at failed
      · simp
    · simp
  · simp

end

section Failing

theorem exists_putRollouts (config : WorkerConfig) (fetcher : DataFetcher Payload)
    (state : WorkerState Uuid Payload) (idle : state.pendingUuid = none)
    (plain : ∀ rollout ∈ state.stream, rollout.teacherResultUuid = none) :
    ∃ events, (workerSystem config fetcher).IsRun state events ∧
      (workerSystem config fetcher).after state events =
        { state with stream := [], dataQueue := state.dataQueue ++ state.stream } := by
  induction unread : state.stream generalizing state with
  | nil =>
    refine ⟨[], trivial, ?_⟩
    rw [EventSystem.after_nil, append_nil, ← unread]
  | cons rollout rest ih =>
    have none := plain rollout (by simp [unread])
    have step : (workerSystem config fetcher).handle state .putRollout =
        { state with stream := rest, dataQueue := state.dataQueue ++ [rollout] } := by
      simp only [workerSystem, WorkerState.handle, WorkerState.putRollout, unread, none]
      rw [← idle]
    obtain ⟨events, run, after⟩ := ih
      ((workerSystem config fetcher).handle state .putRollout)
      (by rw [step]; exact idle)
      (by
        rw [step]
        exact fun other member => plain other (by simp [unread, member]))
      (by rw [step])
    refine ⟨.putRollout :: events, ⟨⟨by simp [unread], idle⟩, run⟩, ?_⟩
    rw [EventSystem.after_cons, after, step]
    simp

theorem prepareTeacherUuidsForPrefetch_of_empty (config : WorkerConfig)
    {state : WorkerState Uuid Payload} (noUuids : state.teacherPrefetchQueue = [])
    (prefetchDpId : Nat) :
    state.prepareTeacherUuidsForPrefetch config prefetchDpId = (state, prefetchDpId) := by
  have same : { state with teacherPrefetchQueue := [] } = state := by
    rw [← noUuids]
  unfold WorkerState.prepareTeacherUuidsForPrefetch
  split
  · rw [same, noUuids]
    rfl
  · rfl

variable {rollout : Rollout Uuid Payload}

theorem placeRollout_plain (config : WorkerConfig) (state : WorkerState Uuid Payload)
    (dispatch : Dispatch Uuid Payload)
    (plain : rollout.teacherResultUuid = none) (noUuids : state.teacherPrefetchQueue = []) :
    ∃ next, state.placeRollout config dispatch rollout = { state with dispatch := some next } ∧
      next.remaining = dispatch.remaining ∧ next.rollout = none := by
  unfold WorkerState.placeRollout
  rw [prepareTeacherUuidsForPrefetch_of_empty config noUuids, plain]
  split <;> exact ⟨_, rfl, rfl, rfl⟩

/-- A dispatch of rollouts that wait in the queue gets to its end. -/
theorem exists_dispatched (config : WorkerConfig) (fetcher : DataFetcher Payload)
    (state : WorkerState Uuid Payload) {dispatch : Dispatch Uuid Payload}
    (running : state.dispatch = some dispatch) (free : dispatch.rollout = none)
    (enough : dispatch.remaining ≤ state.dataQueue.length)
    (plain : ∀ rollout ∈ state.dataQueue, rollout.teacherResultUuid = none)
    (noUuids : state.teacherPrefetchQueue = []) (going : state.stopped = false) :
    ∃ events last, (workerSystem config fetcher).IsRun state events ∧
      ((workerSystem config fetcher).after state events).dispatch = some last ∧
      last.remaining = 0 ∧ last.rollout = none ∧
      ((workerSystem config fetcher).after state events).stopped = false ∧
      ((workerSystem config fetcher).after state events).handed = state.handed ∧
      ((workerSystem config fetcher).after state events).batches = state.batches := by
  induction left : dispatch.remaining generalizing state dispatch with
  | zero => exact ⟨[], dispatch, trivial, running, left, free, going, rfl, rfl⟩
  | succ count ih =>
    cases queued : state.dataQueue with
    | nil =>
      rw [queued, left] at enough
      exact absurd enough (by simp)
    | cons rollout rest =>
      have got : (workerSystem config fetcher).handle state .getRollout =
          { state with
              dataQueue := rest
              dispatch := some
                { dispatch with remaining := count, rollout := some rollout } } := by
        simp [workerSystem, WorkerState.handle, WorkerState.getRollout, running, queued, left]
      obtain ⟨next, placed, nextLeft, nextFree⟩ := placeRollout_plain config
        ((workerSystem config fetcher).handle state .getRollout)
        { dispatch with remaining := count, rollout := some rollout }
        (plain rollout (by simp [queued])) (by rw [got]; exact noUuids)
      have step : (workerSystem config fetcher).handle
          ((workerSystem config fetcher).handle state .getRollout) .placeRollout =
          { (workerSystem config fetcher).handle state .getRollout with
              dispatch := some next } := by
        rw [← placed, got]
        rfl
      rw [got] at step
      obtain ⟨events, last, run, lastRunning, lastLeft, lastFree, lastGoing, handed, batches⟩ :=
        ih
          ((workerSystem config fetcher).handle
            ((workerSystem config fetcher).handle state .getRollout) .placeRollout)
          (show _ = some next by rw [got, step]) nextFree
          (by
            rw [got, step, nextLeft]
            rw [queued, left] at enough
            exact Nat.le_of_succ_le_succ enough)
          (by
            rw [got, step]
            exact fun other member => plain other (by simp [queued, member]))
          (by rw [got, step]; exact noUuids) (by rw [got, step]; exact going) nextLeft
      refine ⟨.getRollout :: .placeRollout :: events, last, ⟨?_, ?_, run⟩, lastRunning,
        lastLeft, lastFree, lastGoing, handed.trans ?_, batches.trans ?_⟩
      · exact ⟨going, by simp [queued], by simp [running, left, free]⟩
      · rw [got]
        exact ⟨going, rfl⟩
      · rw [got, step]
      · rw [got, step]

def plainBatch (Uuid : Type u) (config : WorkerConfig) (fetcher : DataFetcher Payload) :
    List (Rollout Uuid Payload) :=
  List.replicate config.trainBatchPerReplica
    { promptIdx := 0, prompt := none, conversation := none
      completion := fetcher.getPayloadByIndex 0, teacherResultUuid := none }

omit [DecidableEq Uuid] in
theorem plainBatch_plain (member : rollout ∈ plainBatch Uuid config fetcher) :
    rollout.teacherResultUuid = none := by
  rw [eq_of_mem_replicate member]

def firstBatchRead (Uuid : Type u) [DecidableEq Uuid] (config : WorkerConfig)
    (fetcher : DataFetcher Payload) : WorkerState Uuid Payload :=
  { WorkerState.initial with
      commands := [config.trainBatchPerReplica]
      dataQueue := plainBatch Uuid config fetcher
      batches := [plainBatch Uuid config fetcher] }

theorem exists_firstBatchRead (Uuid : Type u) [DecidableEq Uuid] (config : WorkerConfig)
    (fetcher : DataFetcher Payload) (nonempty : 0 < config.trainBatchPerReplica) :
    ∃ events, (workerSystem config fetcher).IsRun WorkerState.initial events ∧
      (workerSystem config fetcher).after WorkerState.initial events =
        firstBatchRead Uuid config fetcher := by
  have length : (plainBatch Uuid config fetcher).length = config.trainBatchPerReplica :=
    length_replicate
  have inhabited : (plainBatch Uuid config fetcher).isEmpty = false := by
    rw [isEmpty_eq_false_iff]
    exact ne_nil_of_length_pos (by omega)
  have fresh : WorkerState.uuidsOf (plainBatch Uuid config fetcher) = [] := by
    rw [WorkerState.uuidsOf, filterMap_eq_nil_iff]
    exact fun rollout => plainBatch_plain
  obtain ⟨reads, readsRun, read⟩ := exists_putRollouts config fetcher
    (WorkerState.train WorkerState.initial (plainBatch Uuid config fetcher)) rfl
    (fun rollout => plainBatch_plain)
  refine ⟨.train (plainBatch Uuid config fetcher) :: reads, ⟨⟨length, ?_⟩, readsRun⟩, ?_⟩
  · simp [WorkerState.initial, fresh]
  · refine (EventSystem.after_cons _ _ _).trans (read.trans ?_)
    simp [WorkerState.train, WorkerState.initial, firstBatchRead, inhabited, length]

def freshDispatch (Uuid : Type u) (Payload : Type v) (config : WorkerConfig) :
    Dispatch Uuid Payload where
  remaining :=
    if config.uncentralizedTraining then
      config.batchForThisStep config.trainBatchPerReplica / config.parallelDims.dpWorldSize
    else config.batchForThisStep config.trainBatchPerReplica
  dpId := 0
  prefetchDpId := 0
  rollout := none
  scatteredRollouts := fun _ => []
  uuidsAhead := 0

omit [DecidableEq Uuid] in
theorem freshDispatch_remaining_le (config : WorkerConfig) :
    (freshDispatch Uuid Payload config).remaining ≤ config.trainBatchPerReplica := by
  have atMost : config.batchForThisStep config.trainBatchPerReplica ≤
      config.trainBatchPerReplica := Nat.div_mul_le_self _ _
  unfold freshDispatch
  dsimp only
  split
  · exact Nat.le_trans (Nat.div_le_self _ _) atMost
  · exact atMost

theorem dataFetch_firstBatchRead (Uuid : Type u) [DecidableEq Uuid]
    (fetcher : DataFetcher Payload) (nonempty : 0 < config.trainBatchPerReplica) :
    (firstBatchRead Uuid config fetcher).dataFetch config =
      { firstBatchRead Uuid config fetcher with
          commands := [], dispatch := some (freshDispatch Uuid Payload config) } := by
  have notFake : config.trainBatchPerReplica ≠ 0 := Nat.ne_of_gt nonempty
  simp only [WorkerState.dataFetch, firstBatchRead, if_neg notFake]
  rfl

/-- A first step can be run to the end of its dispatch. -/
theorem exists_firstDispatch (Uuid : Type u) [DecidableEq Uuid] (config : WorkerConfig)
    (fetcher : DataFetcher Payload) (nonempty : 0 < config.trainBatchPerReplica) :
    ∃ (events : List (WorkerEvent Uuid Payload)) (last : Dispatch Uuid Payload)
      (mesh : Option MeshPlace),
      (workerSystem config fetcher).IsRun WorkerState.initial events ∧
      ((workerSystem config fetcher).after WorkerState.initial events).batches =
        [plainBatch Uuid config fetcher] ∧
      ((workerSystem config fetcher).after WorkerState.initial events).handed =
        [WorkerState.scatteredTo config fetcher mesh last] := by
  obtain ⟨reads, readsRun, read⟩ := exists_firstBatchRead Uuid config fetcher nonempty
  have started := dataFetch_firstBatchRead Uuid fetcher nonempty
  obtain ⟨acts, last, actsRun, running, left, free, going, handed, batches⟩ :=
    exists_dispatched config fetcher ((firstBatchRead Uuid config fetcher).dataFetch config)
      (show _ = some (freshDispatch Uuid Payload config) by rw [started]) rfl
      (by
        rw [started]
        refine Nat.le_trans (freshDispatch_remaining_le config) (Nat.le_of_eq ?_)
        exact length_replicate.symm)
      (by rw [started]; exact fun rollout => plainBatch_plain)
      (by rw [started]; rfl) (by rw [started]; rfl)
  have fetched : (workerSystem config fetcher).after WorkerState.initial
      (reads ++ .dataFetch :: acts) = (workerSystem config fetcher).after
        ((firstBatchRead Uuid config fetcher).dataFetch config) acts := by
    rw [EventSystem.after_append, read, EventSystem.after_cons]
    rfl
  have scattered : (workerSystem config fetcher).after WorkerState.initial
      ((reads ++ .dataFetch :: acts) ++ [.scatter]) =
      ((workerSystem config fetcher).after
        ((firstBatchRead Uuid config fetcher).dataFetch config) acts).scatter config fetcher
          last := by
    rw [EventSystem.after_append, fetched, EventSystem.after_cons, EventSystem.after_nil]
    show WorkerState.handle config fetcher _ .scatter = _
    rw [WorkerState.handle, running]
  refine ⟨(reads ++ .dataFetch :: acts) ++ [.scatter], last,
    ((workerSystem config fetcher).after
      ((firstBatchRead Uuid config fetcher).dataFetch config) acts).mesh, ?_, ?_, ?_⟩
  · refine EventSystem.IsRun.append (EventSystem.IsRun.append readsRun ?_) ?_
    · rw [read]
      exact ⟨⟨rfl, rfl, by simp [firstBatchRead]⟩, actsRun⟩
    · rw [fetched]
      exact ⟨⟨going, by simp [running, left, free]⟩, trivial⟩
  · rw [scattered]
    exact batches.trans (by rw [started]; rfl)
  · rw [scattered]
    simp only [WorkerState.scatter]
    rw [handed, started]
    rfl

end Failing

/-- Two ranks of tensor parallelism, with the `tp` mesh fused into the `dp` mesh. -/
def tpFusedConfig : WorkerConfig where
  parallelDims :=
    { dpReplicate := 1, dpShard := 1, cp := 1, tp := 2, pp := 1, tpFusedWithDp := true
      positive := by simp }
  trainBatchPerReplica := 2
  miniBatch := 1
  uncentralizedTraining := false
  distillationEnable := false
  localDataset := false
  dataDispatchAsRankInMesh := false

def plainRollout (promptIdx : Int) : Rollout Nat Nat :=
  { promptIdx := promptIdx, prompt := none, conversation := none, completion := 0
    teacherResultUuid := none }

def oneStep : List (WorkerEvent Nat Nat) :=
  [.train [plainRollout 0, plainRollout 1], .putRollout, .putRollout, .dataFetch, .getRollout,
    .placeRollout, .getRollout, .placeRollout, .scatter]

end CosmosRl.Worker
