import CosmosRl.Dispatcher.Protocol
import CosmosRl.Foundation.Dealing
import CosmosRl.Foundation.Run

/-!
How rollouts get from the controller to the trainers of one policy replica.

The controller publishes the rollouts of a step and a `DataFetch` command with
their number.  A thread of rank 0 moves rollouts from the stream to `data_queue`
and their teacher uuids to `teacher_prefetch_queue`, one after the other and at
its own pace.  The main loop executes the commands: `dispatch_rollouts` takes
rollouts from the queue, deals them to the data-parallel indices and scatters
them to the ranks, and before each rollout it deals the uuids that wait to the
indices, so that the ranks can start to fetch the teacher's results.
-/

namespace CosmosRl.Worker

open CosmosRl.Foundation
open CosmosRl.Dispatcher (PyError)

universe u v

/-- The degrees of parallelism, and whether `TP_EP_INTERCHANGABLE_WITH_DP_FUSED` is set. -/
structure ParallelDims where
  dpReplicate : Nat
  dpShard : Nat
  cp : Nat
  tp : Nat
  pp : Nat
  tpFusedWithDp : Bool
  positive : 0 < dpReplicate ∧ 0 < dpShard ∧ 0 < cp ∧ 0 < tp ∧ 0 < pp

namespace ParallelDims

variable (dims : ParallelDims)

def worldSize : Nat := dims.pp * (dims.dpReplicate * dims.dpShard) * (dims.cp * dims.tp)

/-- How often the flattened `dp` mesh contains each `dp_replicate` and `dp_shard` pair. -/
def tpInDp : Nat := if dims.tpFusedWithDp ∧ 1 < dims.tp then dims.tp else 1

def dpEnabled : Bool :=
  decide (1 < dims.dpReplicate ∨ 1 < dims.dpShard ∨ (dims.tpFusedWithDp ∧ 1 < dims.tp))

/-- `dp_world_size`: the size of the flattened `dp` mesh. -/
def dpWorldSize : Nat :=
  if dims.dpEnabled then dims.dpReplicate * dims.dpShard * dims.tpInDp else 1

/-- The second component of `dp_coord`. -/
def dpCoordSize : Nat := if dims.dpEnabled then dims.dpReplicate * dims.dpShard else 1

/-- `get_rank_in_dim("dp", rank)`: the ranks are numbered by `pp`, `dp_replicate`,
`dp_shard`, `cp` and `tp`, the last one fastest. -/
def dpRank (rank : Nat) : Nat :=
  rank / (dims.cp * dims.tp) % (dims.dpReplicate * dims.dpShard)

end ParallelDims

structure WorkerConfig where
  parallelDims : ParallelDims
  trainBatchPerReplica : Nat
  miniBatch : Nat
  uncentralizedTraining : Bool
  distillationEnable : Bool
  localDataset : Bool
  dataDispatchAsRankInMesh : Bool

namespace WorkerConfig

/-- `check_config` of a replica that trains with rollouts. -/
def checkConfig (config : WorkerConfig) : Prop :=
  0 < config.parallelDims.dpShard * config.miniBatch ∧
    config.trainBatchPerReplica % (config.parallelDims.dpShard * config.miniBatch) = 0

instance (config : WorkerConfig) : Decidable config.checkConfig :=
  inferInstanceAs (Decidable (_ ∧ _))

/-- `batch_for_this_step`. -/
def batchForThisStep (config : WorkerConfig) (replicaBatchForThisStep : Nat) : Nat :=
  replicaBatchForThisStep / config.parallelDims.dpWorldSize * config.parallelDims.dpWorldSize

end WorkerConfig

structure Rollout (Uuid : Type u) (Payload : Type v) where
  promptIdx : Int
  prompt : Option Payload
  conversation : Option Payload
  completion : Payload
  /-- `none` is the empty string. -/
  teacherResultUuid : Option Uuid

structure DataFetcher (Payload : Type v) where
  getPayloadByIndex : Int → Payload
  getConversationByIndex : Int → Payload

structure MeshPlace where
  size : Nat
  rank : Nat
  deriving DecidableEq

section Preprocess

variable {Uuid : Type u} {Payload : Type v}

def checkRankInMesh (mesh : Option MeshPlace) (rollout : Rollout Uuid Payload) :
    Except PyError Unit :=
  match mesh with
  | none => .error .zeroDivisionError
  | some place =>
    if rollout.promptIdx % place.size = place.rank then .ok ()
    else .error (.assertionError "Rollout prompt idx must be equal to replica rank in mesh.")

def checkAll (check : Rollout Uuid Payload → Except PyError Unit) :
    List (Rollout Uuid Payload) → Except PyError Unit
  | [] => .ok ()
  | rollout :: rest =>
    match check rollout with
    | .error exn => .error exn
    | .ok () => checkAll check rest

def Rollout.populate (fetcher : DataFetcher Payload) (rollout : Rollout Uuid Payload) :
    Rollout Uuid Payload :=
  { rollout with
      prompt := some (fetcher.getPayloadByIndex rollout.promptIdx)
      conversation := some (fetcher.getConversationByIndex rollout.promptIdx) }

/-- `preprocess_rollouts`. -/
def preprocessRollouts (config : WorkerConfig) (fetcher : DataFetcher Payload)
    (mesh : Option MeshPlace) (rollouts : List (Rollout Uuid Payload)) :
    Except PyError (List (Rollout Uuid Payload)) :=
  if rollouts.all fun rollout => decide (0 ≤ rollout.promptIdx) then
    if config.localDataset then
      match if config.dataDispatchAsRankInMesh then checkAll (checkRankInMesh mesh) rollouts
        else .ok () with
      | .error exn => .error exn
      | .ok () => .ok (rollouts.map (Rollout.populate fetcher))
    else .ok rollouts
  else .error (.assertionError "All rollouts from controller should have a valid prompt index")

end Preprocess

/-- A call of `dispatch_rollouts` in progress. -/
structure Dispatch (Uuid : Type u) (Payload : Type v) where
  /-- How many rollouts are still to be taken from the queue. -/
  remaining : Nat
  dpId : Nat
  prefetchDpId : Nat
  /-- The rollout that has been taken but not placed yet. -/
  rollout : Option (Rollout Uuid Payload)
  scatteredRollouts : Nat → List (Rollout Uuid Payload)
  /-- Recorded beside the code: how many uuids of rollouts that had not been placed yet
  had been dealt when the call began. -/
  uuidsAhead : Nat

/-- What `dispatch_rollouts` returns or raises on every rank. -/
abbrev Scattered (Uuid : Type u) (Payload : Type v) :=
  Nat → Except PyError (List (Rollout Uuid Payload))

structure WorkerState (Uuid : Type u) (Payload : Type v) [DecidableEq Uuid] where
  /-- Published rollouts that rank 0 has not read yet. -/
  stream : List (Rollout Uuid Payload)
  /-- The `items_count` of the `DataFetch` commands that wait. -/
  commands : List Nat
  dataQueue : List (Rollout Uuid Payload)
  /-- The uuid the thread will put into its queue next. -/
  pendingUuid : Option Uuid
  teacherPrefetchQueue : List Uuid
  teacherUuidToDpShard : Dict Uuid Nat
  /-- The uuids put into the `teacher_interact_queue` of the data-parallel indices. -/
  teacherInteract : List (Uuid × Nat)
  dispatch : Option (Dispatch Uuid Payload)
  mesh : Option MeshPlace
  /-- The results of the finished calls of `dispatch_rollouts`. -/
  handed : List (Scattered Uuid Payload)
  /-- The rollouts published for every `DataFetch` that is not a fake one. -/
  batches : List (List (Rollout Uuid Payload))
  /-- The assertion on `teacher_uuid_to_dp_shard` has failed. -/
  shardMismatch : Bool
  /-- A call raised or never returns on some rank. -/
  stopped : Bool

inductive WorkerEvent (Uuid : Type u) (Payload : Type v) where
  /-- The controller publishes the rollouts of a step and its `DataFetch`. -/
  | train (batch : List (Rollout Uuid Payload))
  /-- The controller publishes a `DataFetch` without rollouts. -/
  | trainFake
  | buildMesh (place : MeshPlace)
  /-- `fetch_rollouts` puts a rollout into `data_queue`. -/
  | putRollout
  /-- `fetch_rollouts` puts its uuid into `teacher_prefetch_queue`. -/
  | putUuid
  /-- `execute_data_fetch` starts the next command. -/
  | dataFetch
  /-- `dispatch_rollouts` takes a rollout from `data_queue`. -/
  | getRollout
  /-- It deals the uuids that wait, and then the rollout. -/
  | placeRollout
  /-- It scatters the rollouts to the ranks. -/
  | scatter

namespace WorkerState

variable {Uuid : Type u} {Payload : Type v} [DecidableEq Uuid]

def initial : WorkerState Uuid Payload where
  stream := []
  commands := []
  dataQueue := []
  pendingUuid := none
  teacherPrefetchQueue := []
  teacherUuidToDpShard := ∅
  teacherInteract := []
  dispatch := none
  mesh := none
  handed := []
  batches := []
  shardMismatch := false
  stopped := false

def uuidsOf (rollouts : List (Rollout Uuid Payload)) : List Uuid :=
  rollouts.filterMap Rollout.teacherResultUuid

/-- `put_rollout` for every rollout of a step, then the `DataFetch` command. -/
def train (state : WorkerState Uuid Payload) (batch : List (Rollout Uuid Payload)) :
    WorkerState Uuid Payload :=
  { state with
      stream := state.stream ++ batch
      commands := state.commands ++ [batch.length]
      batches := if batch.isEmpty then state.batches else state.batches ++ [batch] }

def putRollout (state : WorkerState Uuid Payload) : WorkerState Uuid Payload :=
  match state.stream with
  | [] => state
  | rollout :: rest =>
    { state with
        stream := rest, dataQueue := state.dataQueue ++ [rollout]
        pendingUuid := rollout.teacherResultUuid }

def putUuid (state : WorkerState Uuid Payload) : WorkerState Uuid Payload :=
  { state with
      teacherPrefetchQueue := state.teacherPrefetchQueue ++ state.pendingUuid.toList
      pendingUuid := none }

/-- `replica_batch_for_this_step` is set, and a fake step dispatches nothing. -/
def dataFetch (config : WorkerConfig) (state : WorkerState Uuid Payload) :
    WorkerState Uuid Payload :=
  match state.commands with
  | [] => state
  | itemsCount :: rest =>
    if itemsCount = 0 then { state with commands := rest }
    else
      let batch := config.batchForThisStep itemsCount
      { state with
          commands := rest
          dispatch := some
            { remaining :=
                if config.uncentralizedTraining then batch / config.parallelDims.dpWorldSize
                else batch
              dpId := 0, prefetchDpId := 0, rollout := none
              scatteredRollouts := fun _ => []
              uuidsAhead := state.teacherUuidToDpShard.size } }

/-- The blocking `data_queue.get` returns. -/
def getRollout (state : WorkerState Uuid Payload) (dispatch : Dispatch Uuid Payload) :
    WorkerState Uuid Payload :=
  match state.dataQueue with
  | [] => state
  | rollout :: rest =>
    { state with
        dataQueue := rest
        dispatch := some
          { dispatch with remaining := dispatch.remaining - 1, rollout := some rollout } }

/-- One turn of the loop of `prepare_teacher_uuids_for_prefetch`.  Without a
data-parallel group only the list of index 0 is used. -/
def prefetchUuid (dims : ParallelDims) (state : WorkerState Uuid Payload) (prefetchDpId : Nat)
    (uuid : Uuid) : WorkerState Uuid Payload :=
  { state with
      teacherUuidToDpShard := state.teacherUuidToDpShard.set uuid prefetchDpId
      teacherInteract :=
        if 1 < dims.dpCoordSize ∨ prefetchDpId = 0 then
          state.teacherInteract ++ [(uuid, prefetchDpId)]
        else state.teacherInteract }

def prefetchUuids (dims : ParallelDims) (state : WorkerState Uuid Payload) :
    Nat → List Uuid → WorkerState Uuid Payload × Nat
  | prefetchDpId, [] => (state, prefetchDpId)
  | prefetchDpId, uuid :: rest =>
    prefetchUuids dims (state.prefetchUuid dims prefetchDpId uuid)
      (nextTurn dims.dpWorldSize prefetchDpId) rest

/-- `prepare_teacher_uuids_for_prefetch`. -/
def prepareTeacherUuidsForPrefetch (config : WorkerConfig) (state : WorkerState Uuid Payload)
    (prefetchDpId : Nat) : WorkerState Uuid Payload × Nat :=
  if config.distillationEnable then
    prefetchUuids config.parallelDims { state with teacherPrefetchQueue := [] } prefetchDpId
      state.teacherPrefetchQueue
  else (state, prefetchDpId)

def popShard (state : WorkerState Uuid Payload) (dpId : Nat) :
    Option Uuid → WorkerState Uuid Payload
  | none => state
  | some uuid =>
    { state with
        teacherUuidToDpShard := state.teacherUuidToDpShard.erase uuid
        shardMismatch := state.shardMismatch ||
          decide (state.teacherUuidToDpShard.get? uuid ≠ some dpId)
        stopped := state.stopped ||
          decide (state.teacherUuidToDpShard.get? uuid ≠ some dpId) }

/-- The rest of the loop body of `dispatch_rollouts` for one rollout. -/
def placeRollout (config : WorkerConfig) (state : WorkerState Uuid Payload)
    (dispatch : Dispatch Uuid Payload) (rollout : Rollout Uuid Payload) :
    WorkerState Uuid Payload :=
  if config.uncentralizedTraining then
    -- every rank takes rollouts from its own queue, and only rank 0's is ever filled
    { state with
        dispatch := some
          { dispatch with
              rollout := none
              scatteredRollouts := fun rank =>
                if rank = 0 then dispatch.scatteredRollouts rank ++ [rollout]
                else dispatch.scatteredRollouts rank } }
  else
    let prepared := state.prepareTeacherUuidsForPrefetch config dispatch.prefetchDpId
    { prepared.1.popShard dispatch.dpId rollout.teacherResultUuid with
        dispatch := some
          { remaining := dispatch.remaining
            dpId := nextTurn config.parallelDims.dpWorldSize dispatch.dpId
            prefetchDpId := prepared.2
            rollout := none
            scatteredRollouts := fun rank =>
              if config.parallelDims.dpRank rank = dispatch.dpId then
                dispatch.scatteredRollouts rank ++ [rollout]
              else dispatch.scatteredRollouts rank
            uuidsAhead := dispatch.uuidsAhead } }

/-- What every rank gets back from `dispatch_rollouts`. -/
def scatteredTo (config : WorkerConfig) (fetcher : DataFetcher Payload)
    (mesh : Option MeshPlace) (dispatch : Dispatch Uuid Payload) : Scattered Uuid Payload :=
  fun rank =>
    if config.uncentralizedTraining ∧ rank ≠ 0 then .error .blocked
    else preprocessRollouts config fetcher mesh (dispatch.scatteredRollouts rank)

def scatter (config : WorkerConfig) (fetcher : DataFetcher Payload)
    (state : WorkerState Uuid Payload) (dispatch : Dispatch Uuid Payload) :
    WorkerState Uuid Payload :=
  { state with
      dispatch := none
      handed := state.handed ++ [scatteredTo config fetcher state.mesh dispatch]
      stopped := state.stopped ||
        (List.range config.parallelDims.worldSize).any fun rank =>
          (scatteredTo config fetcher state.mesh dispatch rank).isOk = false }

def handle (config : WorkerConfig) (fetcher : DataFetcher Payload)
    (state : WorkerState Uuid Payload) : WorkerEvent Uuid Payload → WorkerState Uuid Payload
  | .train batch => state.train batch
  | .trainFake => { state with commands := state.commands ++ [0] }
  | .buildMesh place => { state with mesh := some place }
  | .putRollout => state.putRollout
  | .putUuid => state.putUuid
  | .dataFetch => state.dataFetch config
  | .getRollout =>
    match state.dispatch with
    | some dispatch => state.getRollout dispatch
    | none => state
  | .placeRollout =>
    match state.dispatch with
    | some dispatch =>
      match dispatch.rollout with
      | some rollout => state.placeRollout config dispatch rollout
      | none => state
    | none => state
  | .scatter =>
    match state.dispatch with
    | some dispatch => state.scatter config fetcher dispatch
    | none => state

def Allowed (config : WorkerConfig) (state : WorkerState Uuid Payload) :
    WorkerEvent Uuid Payload → Prop
  | .train batch => batch.length = config.trainBatchPerReplica ∧
      (uuidsOf (state.batches.flatten ++ batch)).Nodup
  | .trainFake => True
  | .buildMesh _ => True
  | .putRollout => state.stream ≠ [] ∧ state.pendingUuid = none
  | .putUuid => state.pendingUuid ≠ none
  | .dataFetch => state.stopped = false ∧ state.dispatch.isNone = true ∧ state.commands ≠ []
  | .getRollout => state.stopped = false ∧ state.dataQueue.isEmpty = false ∧
      state.dispatch.any fun dispatch =>
        decide (0 < dispatch.remaining) && dispatch.rollout.isNone
  | .placeRollout => state.stopped = false ∧
      state.dispatch.any fun dispatch => dispatch.rollout.isSome
  | .scatter => state.stopped = false ∧
      state.dispatch.any fun dispatch =>
        decide (dispatch.remaining = 0) && dispatch.rollout.isNone

instance (config : WorkerConfig) (state : WorkerState Uuid Payload) :
    (event : WorkerEvent Uuid Payload) → Decidable (Allowed config state event)
  | .train _ => inferInstanceAs (Decidable (_ ∧ _))
  | .trainFake | .buildMesh _ => inferInstanceAs (Decidable True)
  | .putRollout => inferInstanceAs (Decidable (_ ∧ _))
  | .putUuid => inferInstanceAs (Decidable (_ ≠ _))
  | .dataFetch => inferInstanceAs (Decidable (_ ∧ _ ∧ _))
  | .getRollout => inferInstanceAs (Decidable (_ ∧ _ ∧ _))
  | .placeRollout => inferInstanceAs (Decidable (_ ∧ _))
  | .scatter => inferInstanceAs (Decidable (_ ∧ _))

section Dispatches

variable {config : WorkerConfig} {fetcher : DataFetcher Payload}
  {state : WorkerState Uuid Payload}

theorem exists_getRollout (allowed : Allowed config state .getRollout) :
    ∃ dispatch, state.dispatch = some dispatch ∧ 0 < dispatch.remaining ∧
      dispatch.rollout = none ∧
      state.handle config fetcher .getRollout = state.getRollout dispatch := by
  obtain ⟨-, -, possible⟩ := allowed
  obtain ⟨dispatch, running, asks⟩ := (Option.any_eq_true _ _).mp possible
  rw [Bool.and_eq_true, decide_eq_true_eq, Option.isNone_iff_eq_none] at asks
  refine ⟨dispatch, running, asks.1, asks.2, ?_⟩
  simp only [handle, running]

theorem exists_placeRollout (allowed : Allowed config state .placeRollout) :
    ∃ dispatch rollout, state.dispatch = some dispatch ∧ dispatch.rollout = some rollout ∧
      state.handle config fetcher .placeRollout =
        state.placeRollout config dispatch rollout := by
  obtain ⟨-, possible⟩ := allowed
  obtain ⟨dispatch, running, holds⟩ := (Option.any_eq_true _ _).mp possible
  obtain ⟨rollout, held⟩ := Option.isSome_iff_exists.mp holds
  refine ⟨dispatch, rollout, running, held, ?_⟩
  simp only [handle, running, held]

theorem exists_scatter (allowed : Allowed config state .scatter) :
    ∃ dispatch, state.dispatch = some dispatch ∧ dispatch.remaining = 0 ∧
      dispatch.rollout = none ∧
      state.handle config fetcher .scatter = state.scatter config fetcher dispatch := by
  obtain ⟨-, possible⟩ := allowed
  obtain ⟨dispatch, running, done⟩ := (Option.any_eq_true _ _).mp possible
  rw [Bool.and_eq_true, decide_eq_true_eq, Option.isNone_iff_eq_none] at done
  refine ⟨dispatch, running, done.1, done.2, ?_⟩
  simp only [handle, running]

end Dispatches

end WorkerState

def workerSystem {Uuid : Type u} {Payload : Type v} [DecidableEq Uuid] (config : WorkerConfig)
    (fetcher : DataFetcher Payload) :
    EventSystem (WorkerState Uuid Payload) (WorkerEvent Uuid Payload) where
  handle := WorkerState.handle config fetcher
  Allowed := WorkerState.Allowed config

instance {Uuid : Type u} {Payload : Type v} [DecidableEq Uuid] (config : WorkerConfig)
    (fetcher : DataFetcher Payload) (state : WorkerState Uuid Payload)
    (event : WorkerEvent Uuid Payload) :
    Decidable ((workerSystem config fetcher).Allowed state event) :=
  inferInstanceAs (Decidable (WorkerState.Allowed config state event))

end CosmosRl.Worker
