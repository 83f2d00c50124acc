import CosmosRl.Foundation.Run
import CosmosRl.Reward.RemoteRewardCalculator

/-!
`RewardDispatcher`: the queue of reward calculations.

Tasks are put in order and taken in order, but workers finish them in any order, and the
service of the remote calculator answers a request or not each time it is asked.
-/

namespace CosmosRl.Reward

open CosmosRl.Foundation
open CosmosRl.Dispatcher (PyError)

variable {contents : Contents}

structure DispatcherConfig (contents : Contents) where
  isRemote : Bool
  payloadPerTask : Nat := 1
  numWorkers : Nat := 2
  remoteReward : RemoteRewardConfig contents

/-- The queue and the payloads that the remote calculator keeps for its requests.  The
payloads that were enqueued and those handed back are written down in their orders. -/
structure RewardDispatcher (contents : Contents) where
  taskQueue : List (QueuedTask contents) := []
  uuid2payload : Dict String (RLPayload contents) := ∅
  enqueued : List (RLPayload contents) := []
  handedBack : List (RLPayload contents) := []
  failed : Option PyError := none

/-- What happens to a dispatcher.  A worker finishes a task with its own calculator, as the
reward functions answer there. -/
inductive DispatcherEvent (contents : Contents) where
  | enqueue (payloads : List (RLPayload contents)) (isValidation : Bool) (step : Int)
      (bypassReward : Bool) (answers : Nat → Except PyError String)
  | finish (index : Nat) (calculator : LocalRewardCalculator contents)
  | dequeue (responses : Responses contents)

/-- What `dequeue_rewards_cal` returns. -/
structure Dequeued (contents : Contents) where
  payloads : Option (List (RLPayload contents)) := none
  isValidation : Bool := false
  step : Int := -1
  allDone : Bool := false

/-- `payloads[i : i + payload_per_task]` for every start of a task. -/
def tasksOf {Payload : Type} (payloadPerTask : Nat) (payloads : List Payload) :
    List (List Payload) :=
  (List.range ((payloads.length + payloadPerTask - 1) / payloadPerTask)).map fun i =>
    (payloads.drop (i * payloadPerTask)).take payloadPerTask

def putAll {Item : Type}
    (put : Item → RewardDispatcher contents → Except PyError (RewardDispatcher contents)) :
    List Item → RewardDispatcher contents → RewardDispatcher contents
  | [], dispatcher => dispatcher
  | item :: rest, dispatcher =>
    match put item dispatcher with
    | .error exn => { dispatcher with failed := some exn }
    | .ok next => putAll put rest next

def requestOf (isValidation : Bool) (payload : RLPayload contents)
    (answer : Except PyError String) : Except PyError String :=
  if isValidation then
    .error (.exception
      "[RemoteRewardCalculator] Remote validation reward computation is not implemented yet.")
  else match payload.extraInfo, payload.completions with
    | none, _ => .error .attributeError
    | some _, none => .error .typeError
    | some _, some _ => answer

def putRequest (isValidation : Bool) (answers : Nat → Except PyError String)
    (entry : RLPayload contents × Nat) (dispatcher : RewardDispatcher contents) :
    Except PyError (RewardDispatcher contents) := do
  let uuid ← requestOf isValidation entry.1 (answers entry.2)
  .ok { dispatcher with
    taskQueue := dispatcher.taskQueue ++ [.uuid uuid]
    uuid2payload := dispatcher.uuid2payload.set uuid entry.1 }

def putFuture (config : DispatcherConfig contents) (isValidation : Bool) (step : Int)
    (payloads : List (RLPayload contents)) (dispatcher : RewardDispatcher contents) :
    Except PyError (RewardDispatcher contents) :=
  if config.numWorkers = 0 then .error .attributeError
  else .ok { dispatcher with
    taskQueue := dispatcher.taskQueue ++ [.future ⟨payloads, isValidation, step⟩ none] }

section Model

variable [Field contents.Value] [LinearOrder contents.Value]

def bypassed (payload : RLPayload contents) : Except PyError (RLPayload contents) :=
  match payload.completions with
  | none => .error .typeError
  | some completions => .ok
      { payload with
        rewards := some (completions.map fun _ => 0)
        advantages := some (completions.map fun _ => 0)
        filterRewards := some (completions.map fun _ => 0)
        reportMetrics := some (completions.map fun _ => ∅)
        completedConversations :=
          some (columnOr completions payload.completedConversations)
        completionLogprobs := some (columnOr completions payload.completionLogprobs)
        completionTokenIds := some (columnOr completions payload.completionTokenIds)
        nIgnorePrefixTokens :=
          some (payload.nIgnorePrefixTokens.getD (completions.map fun _ => 0)) }

def putResult (isValidation : Bool) (step : Int) (payloads : List (RLPayload contents))
    (dispatcher : RewardDispatcher contents) : Except PyError (RewardDispatcher contents) := do
  let given ← payloads.mapM bypassed
  .ok { dispatcher with
    taskQueue := dispatcher.taskQueue ++ [.result ⟨given, isValidation, step⟩] }

/-- `enqueue_rewards_cal`. -/
def enqueueRewardsCal (config : DispatcherConfig contents) (payloads : List (RLPayload contents))
    (isValidation : Bool) (step : Int) (bypassReward : Bool)
    (answers : Nat → Except PyError String) (dispatcher : RewardDispatcher contents) :
    RewardDispatcher contents :=
  if ¬ bypassReward ∧ config.isRemote then
    putAll (putRequest isValidation answers) payloads.zipIdx dispatcher
  else if config.payloadPerTask = 0 then
    { dispatcher with failed := some (.exception "range() arg 3 must not be zero") }
  else if bypassReward then
    putAll (putResult isValidation step) (tasksOf config.payloadPerTask payloads) dispatcher
  else
    putAll (putFuture config isValidation step) (tasksOf config.payloadPerTask payloads)
      dispatcher

def QueuedTask.finish (calculator : LocalRewardCalculator contents) :
    QueuedTask contents → QueuedTask contents
  | .future task none => .future task (some (calculator.computeRewards task))
  | other => other

def RewardTask.dequeued (task : RewardTask contents) : Dequeued contents :=
  { payloads := some task.payloads
    isValidation := task.isValidation
    step := task.step }

def getResults (config : DispatcherConfig contents) (responses : Responses contents)
    (dispatcher : RewardDispatcher contents) :
    Except PyError (Dequeued contents) × RewardDispatcher contents :=
  let fetched := fetchReady config.remoteReward responses dispatcher.taskQueue
    dispatcher.uuid2payload
  ((fetched.task config.remoteReward).map RewardTask.dequeued,
    { dispatcher with
      taskQueue := fetched.queue
      uuid2payload := fetched.uuid2payload })

def takeFirst (head : QueuedTask contents) (rest : List (QueuedTask contents))
    (dispatcher : RewardDispatcher contents) :
    Except PyError (Dequeued contents) × RewardDispatcher contents :=
  match head with
  | .uuid _ => (.error (.assertionError ""), dispatcher)
  | .result task => (.ok task.dequeued, { dispatcher with taskQueue := rest })
  | .future _ none => (.ok {}, dispatcher)
  | .future _ (some done) =>
    (done.map RewardTask.dequeued, { dispatcher with taskQueue := rest })

/-- `dequeue_rewards_cal`. -/
def dequeueRewardsCal (config : DispatcherConfig contents) (responses : Responses contents)
    (dispatcher : RewardDispatcher contents) :
    Except PyError (Dequeued contents) × RewardDispatcher contents :=
  match dispatcher.taskQueue with
  | [] => (.ok { allDone := true }, dispatcher)
  | head :: rest =>
    if config.isRemote then getResults config responses dispatcher
    else takeFirst head rest dispatcher

def DispatcherEvent.apply (config : DispatcherConfig contents)
    (dispatcher : RewardDispatcher contents) :
    DispatcherEvent contents → RewardDispatcher contents
  | .enqueue payloads isValidation step bypassReward answers =>
    { enqueueRewardsCal config payloads isValidation step bypassReward answers dispatcher with
      enqueued := dispatcher.enqueued ++ payloads }
  | .finish index calculator =>
    { dispatcher with
      taskQueue := dispatcher.taskQueue.modify index (QueuedTask.finish calculator) }
  | .dequeue responses =>
    match dequeueRewardsCal config responses dispatcher with
    | (.error exn, next) => { next with failed := some exn }
    | (.ok dequeued, next) =>
      { next with handedBack := next.handedBack ++ dequeued.payloads.getD [] }

/-- What the service is promised to answer: a request has an identifier that no other open
request has, and the scores of a request have an entry for every completion. -/
def DispatcherEvent.Answered (dispatcher : RewardDispatcher contents) :
    DispatcherEvent contents → Prop
  | .enqueue _ _ _ _ answers =>
    (∀ index uuid, answers index = .ok uuid → uuid ∉ dispatcher.uuid2payload.keys) ∧
      ∀ first second uuid, answers first = .ok uuid → answers second = .ok uuid →
        first = second
  | .finish _ _ => True
  | .dequeue responses =>
    ∀ uuid payload, dispatcher.uuid2payload.get? uuid = some payload →
      ∀ name scores, responses uuid name = some scores → ∀ entry ∈ scores.entries,
        entry.2.length = (payload.completions.getD []).length

def dispatcherSystem (config : DispatcherConfig contents) :
    EventSystem (RewardDispatcher contents) (DispatcherEvent contents) where
  handle := fun dispatcher event => event.apply config dispatcher
  Allowed := fun dispatcher event => dispatcher.failed = none ∧ event.Answered dispatcher

end Model

end CosmosRl.Reward
