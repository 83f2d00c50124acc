import CosmosRl.Worker.DispatchedBatches

/-!
The main loop of a reference replica.

A thread of rank 0 puts the rollouts of every teacher request into `data_queue`,
followed by an end marker if the request has one.  In every iteration rank 0 takes a
number of entries that depends on the length of the queue, deals them to the
data-parallel indices, gives an end marker to all ranks and stops there, and pads
short ranks with its own first entry.  Every rank computes the results of what it
has got, and leaves the loop after an end marker.
-/

namespace CosmosRl.Worker

open CosmosRl.Foundation

universe u v

/-- The parallelism and the `distillation` configuration of a reference replica. -/
structure TeacherConfig where
  parallelDims : ParallelDims
  batchSize : Nat
  miniBatch : Nat
  positive : 0 < miniBatch

namespace TeacherConfig

def divides (config : TeacherConfig) : Prop :=
  config.parallelDims.dpWorldSize ∣ config.batchSize

def fits (config : TeacherConfig) : Prop :=
  config.parallelDims.dpWorldSize * config.miniBatch ≤ config.batchSize

instance (config : TeacherConfig) : Decidable config.divides :=
  inferInstanceAs (Decidable (_ ∣ _))

instance (config : TeacherConfig) : Decidable config.fits :=
  inferInstanceAs (Decidable (_ ≤ _))

/-- How many entries are taken when the queue has `currentQueueSize`. -/
def batchForThisStep (config : TeacherConfig) (currentQueueSize : Nat) : Nat :=
  if config.batchSize ≤ currentQueueSize then config.batchSize
  else
    let rounded := currentQueueSize -
      currentQueueSize % (config.parallelDims.dpWorldSize * config.miniBatch)
    if rounded = 0 ∧ 0 < currentQueueSize then currentQueueSize else rounded

end TeacherConfig

structure TeacherRollout (Uuid : Type u) (Payload : Type v) where
  promptIdx : Int
  teacherResultUuid : Uuid
  completionTokenIds : Payload
  promptTokenIds : Option Payload
  deriving DecidableEq

structure TeacherRequest (Uuid : Type u) (Payload : Type v) where
  promptIdx : Int
  completions : List (Payload × Uuid)
  promptTokenIds : Option Payload
  isEnd : Bool

inductive QueueEntry (Uuid : Type u) (Payload : Type v) where
  | rollout (rollout : TeacherRollout Uuid Payload)
  | isEnd
  deriving DecidableEq

section Entries

variable {Uuid : Type u} {Payload : Type v}

/-- What `fetch_rollouts` puts into `data_queue` for a request. -/
def TeacherRequest.entries (request : TeacherRequest Uuid Payload) :
    List (QueueEntry Uuid Payload) :=
  request.completions.map (fun (tokens, uuid) =>
    .rollout ⟨request.promptIdx, uuid, tokens, request.promptTokenIds⟩) ++
    if request.isEnd then [.isEnd] else []

def QueueEntry.rollout? : QueueEntry Uuid Payload → Option (TeacherRollout Uuid Payload)
  | .rollout item => some item
  | .isEnd => none

/-- The rollouts among some entries: what `preprocess_rollouts` keeps. -/
def rolloutsOf (entries : List (QueueEntry Uuid Payload)) : List (TeacherRollout Uuid Payload) :=
  entries.filterMap QueueEntry.rollout?

def beforeEnd (entries : List (QueueEntry Uuid Payload)) : List (TeacherRollout Uuid Payload) :=
  rolloutsOf (entries.takeWhile fun entry => entry.rollout?.isSome)

def hasEnd (entries : List (QueueEntry Uuid Payload)) : Bool :=
  entries.any fun entry => entry.rollout?.isNone

end Entries

abbrev ScatteredEntries (Uuid : Type u) (Payload : Type v) :=
  Nat → List (QueueEntry Uuid Payload)

section Dispatch

variable {Uuid : Type u} {Payload : Type v}

/-- The loop of `dispatch_rollouts` over `batch_for_this_step`: the lists of the ranks
and the rest of the queue. -/
def dealEntries (dims : ParallelDims) :
    Nat → Nat → ScatteredEntries Uuid Payload → List (QueueEntry Uuid Payload) →
      ScatteredEntries Uuid Payload × List (QueueEntry Uuid Payload)
  | 0, _, scattered, queue => (scattered, queue)
  | _ + 1, _, scattered, [] => (scattered, [])
  | _ + 1, _, scattered, .isEnd :: rest =>
    (fun rank => scattered rank ++ [.isEnd], rest)
  | remaining + 1, dpId, scattered, .rollout rollout :: rest =>
    dealEntries dims remaining (nextTurn dims.dpWorldSize dpId)
      (fun rank => if dims.dpRank rank = dpId then scattered rank ++ [.rollout rollout]
        else scattered rank) rest

def padEntries (miniBatch : Nat) (scattered : ScatteredEntries Uuid Payload) :
    ScatteredEntries Uuid Payload :=
  fun rank => scattered rank ++
    ((scattered 0).head?.toList.flatMap
      (List.replicate (miniBatch - (scattered rank).length)))

/-- The part of `dispatch_rollouts` before the assertion on the lengths. -/
def scatterEntries (config : TeacherConfig) (queue : List (QueueEntry Uuid Payload)) :
    ScatteredEntries Uuid Payload × List (QueueEntry Uuid Payload) :=
  let dealt := dealEntries config.parallelDims (config.batchForThisStep queue.length) 0
    (fun _ => []) queue
  (padEntries config.miniBatch dealt.1, dealt.2)

def sameLengths (dims : ParallelDims) (scattered : ScatteredEntries Uuid Payload) : Prop :=
  ∀ rank, rank < dims.worldSize → (scattered rank).length = (scattered 0).length

instance (dims : ParallelDims) (scattered : ScatteredEntries Uuid Payload) :
    Decidable (sameLengths dims scattered) :=
  inferInstanceAs (Decidable (∀ rank, rank < _ → _))

end Dispatch

structure TeacherRank where
  /-- How many dispatches the rank has finished. -/
  iteration : Nat
  endEvent : Bool
  left : Bool

structure TeacherState (Uuid : Type u) (Payload : Type v) where
  /-- The thread that fetches requests runs. -/
  running : Bool
  dataQueue : List (QueueEntry Uuid Payload)
  /-- What the dispatches have scattered. -/
  scattered : List (ScatteredEntries Uuid Payload)
  ranks : Nat → TeacherRank
  /-- The uuids for which a result has been set. -/
  results : List Uuid
  /-- An assertion of a dispatch has failed. -/
  failed : Bool
  /-- Recorded beside the code: everything that has been put into the queue. -/
  queued : List (QueueEntry Uuid Payload)

inductive TeacherEvent (Uuid : Type u) (Payload : Type v) where
  /-- `fetch_rollouts` gets requests. -/
  | fetch (requests : List (TeacherRequest Uuid Payload))
  /-- `dispatch_rollouts` of rank 0 has read the length of the queue and scatters. -/
  | dispatch
  /-- A rank computes and sets the results of what it has got. -/
  | answer (rank : Nat)
  /-- A rank finds its `end_event` set. -/
  | leave (rank : Nat)

namespace TeacherState

variable {Uuid : Type u} {Payload : Type v}

def initial : TeacherState Uuid Payload where
  running := true
  dataQueue := []
  scattered := []
  ranks := fun _ => ⟨0, false, false⟩
  results := []
  failed := false
  queued := []

def setRank (state : TeacherState Uuid Payload) (rank : Nat) (teacherRank : TeacherRank) :
    TeacherState Uuid Payload :=
  { state with ranks := fun other => if other = rank then teacherRank else state.ranks other }

/-- One turn of the loop of `fetch_rollouts`. -/
def fetch (state : TeacherState Uuid Payload) (requests : List (TeacherRequest Uuid Payload)) :
    TeacherState Uuid Payload :=
  { state with
      running := state.running && requests.all fun request => !request.isEnd
      dataQueue := state.dataQueue ++ requests.flatMap TeacherRequest.entries
      queued := state.queued ++ requests.flatMap TeacherRequest.entries }

def dispatch (config : TeacherConfig) (state : TeacherState Uuid Payload) :
    TeacherState Uuid Payload :=
  if config.fits then
    let result := scatterEntries config state.dataQueue
    if sameLengths config.parallelDims result.1 then
      { state with dataQueue := result.2, scattered := state.scattered ++ [result.1] }
    else { state with dataQueue := result.2, failed := true }
  else { state with failed := true }

/-- `preprocess_rollouts` sets the end event; then `step_forward` returns an item for
every rollout, and its result is set. -/
def answer (state : TeacherState Uuid Payload) (rank : Nat) : TeacherState Uuid Payload :=
  match state.scattered[(state.ranks rank).iteration]? with
  | none => state
  | some scattered =>
    { state.setRank rank
        { iteration := (state.ranks rank).iteration + 1
          endEvent := (state.ranks rank).endEvent || hasEnd (scattered rank)
          left := (state.ranks rank).left } with
      results := state.results ++
        (rolloutsOf (scattered rank)).map TeacherRollout.teacherResultUuid }

def handle (config : TeacherConfig) (state : TeacherState Uuid Payload) :
    TeacherEvent Uuid Payload → TeacherState Uuid Payload
  | .fetch requests => state.fetch requests
  | .dispatch => state.dispatch config
  | .answer rank => state.answer rank
  | .leave rank => state.setRank rank { state.ranks rank with left := true }

/-- When an event can happen: rank 0 dispatches when it has finished the dispatches
before, and the loop of `dispatch_rollouts` waits for an entry. -/
def Allowed (config : TeacherConfig) (state : TeacherState Uuid Payload) :
    TeacherEvent Uuid Payload → Prop
  | .fetch _ => state.running = true
  | .dispatch => state.failed = false ∧ (state.ranks 0).endEvent = false ∧
      (state.ranks 0).iteration = state.scattered.length ∧ state.dataQueue ≠ []
  | .answer rank => rank < config.parallelDims.worldSize ∧
      (state.ranks rank).endEvent = false ∧
      (state.ranks rank).iteration < state.scattered.length
  | .leave rank => rank < config.parallelDims.worldSize ∧
      (state.ranks rank).endEvent = true ∧ (state.ranks rank).left = false

instance [DecidableEq Uuid] [DecidableEq Payload] (config : TeacherConfig)
    (state : TeacherState Uuid Payload) :
    (event : TeacherEvent Uuid Payload) → Decidable (state.Allowed config event)
  | .fetch _ => inferInstanceAs (Decidable (_ = _))
  | .dispatch => inferInstanceAs (Decidable (_ ∧ _))
  | .answer _ => inferInstanceAs (Decidable (_ ∧ _))
  | .leave _ => inferInstanceAs (Decidable (_ ∧ _))

end TeacherState

def teacherSystem (Uuid : Type u) (Payload : Type v) (config : TeacherConfig) :
    EventSystem (TeacherState Uuid Payload) (TeacherEvent Uuid Payload) where
  handle := TeacherState.handle config
  Allowed := TeacherState.Allowed config

instance (Uuid : Type u) (Payload : Type v) [DecidableEq Uuid] [DecidableEq Payload]
    (config : TeacherConfig) (state : TeacherState Uuid Payload)
    (event : TeacherEvent Uuid Payload) :
    Decidable ((teacherSystem Uuid Payload config).Allowed state event) :=
  inferInstanceAs (Decidable (state.Allowed config event))

end CosmosRl.Worker
