import CosmosRl.Foundation.Strided
import CosmosRl.Dispatcher.SftTrainAck

/-!
`MultiReplicaSFTPolicyWorker`: the main loop of a replica in supervised training, and
the system of all replicas around one controller.

The ranks of a replica go through the loop together.  One data-parallel rank of every
replica is followed; which one is a parameter.  The bookkeeping of checkpoints is left
out.
-/

namespace CosmosRl.Worker

open CosmosRl.Foundation CosmosRl.Dispatcher

structure SftConfig where
  base : Config
  dpWorldSize : Nat := 1
  /-- The data-parallel rank that is followed, for every replica. -/
  dpRank : ReplicaName → Nat := fun _ => 0
  /-- `config.validation.batch_size`. -/
  validationBatchSize : Option Nat := none
  dpRank_lt : ∀ name, dpRank name < dpWorldSize := by intro name; decide

namespace SftConfig

variable (config : SftConfig)

/-- `config.validation.batch_size or config.train.train_batch_per_replica`. -/
def valBatchSize : Nat :=
  match config.validationBatchSize with
  | some (size + 1) => size + 1
  | _ => config.base.trainBatchPerReplica

theorem dpWorldSize_pos : 0 < config.dpWorldSize :=
  Nat.lt_of_le_of_lt (Nat.zero_le _) (config.dpRank_lt 0)

end SftConfig

/-- Where a replica is in `main_loop`. -/
inductive SftPhase where
  /-- In the loop of `validate`, before a request. -/
  | validating (isLastStep : Bool)
  | postingValidation (isLastStep : Bool)
  /-- Before the request for a training batch. -/
  | fetching
  /-- In `step_training`, which reduces over all replicas. -/
  | training (isEnd : Bool)
  | postingAck (isEnd : Bool)
  | finished
  | failed
  deriving DecidableEq, Repr

/-- A payload that the rank received, with the `train_step` it had then. -/
structure SftReceipt where
  trainStep : Nat
  payload : SftPayload
  deriving DecidableEq, Repr

structure SftWorker where
  phase : SftPhase := .fetching
  trainStep : Option Nat := none
  loadedTrainStep : Option Nat := none
  totalSteps : Int := 0
  currentEpoch : Option Int := none
  /-- `none` before the first batch, and for `float("inf")`. -/
  remainSamplesNum : Option Int := none
  /-- The number of samples in `data_queue`. -/
  dataQueue : Nat := 0
  /-- How often `step_training` has been entered. -/
  computedSteps : Nat := 0
  /-- How many train acks have been posted. -/
  ackedSteps : Nat := 0
  received : List SftReceipt := []
  deriving DecidableEq, Repr

structure PromptTargets where
  trainStep : Nat := 0
  epoch : Int := 0
  remainSamplesNum : Option Int := none
  deriving DecidableEq, Repr

def PromptTargets.update (payload : SftPayload) (targets : PromptTargets) : PromptTargets where
  trainStep := max targets.trainStep payload.weightVersion
  epoch := max targets.epoch payload.epoch
  remainSamplesNum := some <|
    match targets.remainSamplesNum with
    | none => payload.remainSamplesNum
    | some target => min target payload.remainSamplesNum

def loadedMismatch (trainStep : Nat) (worker : SftWorker) : Option PyError :=
  match worker.trainStep, worker.loadedTrainStep with
  | none, some loaded =>
    if trainStep = loaded then none
    else some (.assertionError
      s!"train_step {trainStep} should be equal to loaded_train_step {loaded}")
  | _, _ => none

def takePrompt (payload : SftPayload) (state : SftWorker × PromptTargets) :
    Outcome PyError (SftWorker × PromptTargets) :=
  let trainStep := state.1.trainStep.getD payload.weightVersion
  let worker := { state.1 with
    trainStep := some trainStep
    received := state.1.received ++ [⟨trainStep, payload⟩] }
  match loadedMismatch trainStep state.1 with
  | some exn => .raise (worker, state.2) exn
  | none => .ok ({ worker with dataQueue := worker.dataQueue + 1 }, state.2.update payload)

/-- The last assertion of `request_new_prompts`. -/
def checkQueue (batchSize : Nat) (isEnd : Bool) (worker : SftWorker) :
    Outcome PyError SftWorker :=
  if isEnd || decide (batchSize ≤ worker.dataQueue) then .ok worker
  else .raise worker (.assertionError
    s!"Prompt queue size {worker.dataQueue} should be at least batch_size {batchSize} unless is_end is True")

/-- How Python prints a step that may be `None`. -/
def formatStep : Option Nat → String
  | none => "None"
  | some step => toString step

variable (config : SftConfig)

/-- The prompts that reach a rank: with several ranks the payloads that do not divide
evenly are dropped, and the others are dealt in turn. -/
def rankPrompts (name : ReplicaName) (payloads : List SftPayload) :
    Option (List SftPayload) :=
  if payloads = [] then none
  else if 1 < config.dpWorldSize then
    let kept := payloads.take (payloads.length - payloads.length % config.dpWorldSize)
    some ((stridedRange (config.dpRank name) kept.length config.dpWorldSize).filterMap
      fun index => kept[index]?)
  else some payloads

/-- `request_new_prompts`, from the answer of the controller on. -/
def requestNewPrompts (name : ReplicaName) (batchSize : Nat) (isValidation : Bool)
    (answer : List SftPayload × Bool) (worker : SftWorker) : Outcome PyError SftWorker :=
  match rankPrompts config name answer.1 with
  | none => checkQueue batchSize answer.2 worker
  | some prompts =>
    let taken := Outcome.forEach takePrompt prompts (worker, {})
    match taken.raised with
    | some exn => .raise taken.state.1 exn
    | none =>
      if taken.state.1.trainStep = some taken.state.2.trainStep || isValidation then
        checkQueue batchSize answer.2 { taken.state.1 with
          currentEpoch := some taken.state.2.epoch
          remainSamplesNum := taken.state.2.remainSamplesNum }
      else .raise taken.state.1 (.assertionError
        s!"train_step {formatStep taken.state.1.trainStep} should be equal to target_train_step {taken.state.2.trainStep}")

namespace SftWorker

def crash (worker : SftWorker) : SftWorker := { worker with phase := .failed }

/-- The test at the top of `validate`. -/
def validates (isLastStep : Bool) (worker : SftWorker) : Bool :=
  config.base.validation.enable &&
    ((decide (worker.trainStep.getD 0 = 0) && config.base.validation.valBeforeTrain) ||
      (decide (worker.trainStep.getD 0 ≠ 0) &&
        decide (worker.trainStep.getD 0 % config.base.validation.freq = 0)) ||
      isLastStep)

/-- Entering `validate`, which may return at once. -/
def validate (isLastStep : Bool) (worker : SftWorker) : SftWorker :=
  { worker with
    phase :=
      if worker.validates config isLastStep then .validating isLastStep
      else if isLastStep then .finished
      else .fetching }

/-- The end of a round of the main loop.  Comparing `None` raises. -/
def endRound (isEnd : Bool) (worker : SftWorker) : SftWorker :=
  match worker.trainStep with
  | none => worker.crash
  | some trainStep =>
    worker.validate config (decide (worker.totalSteps ≤ trainStep) || isEnd)

/-- `validate` after a request. -/
def validationFetched (isLastStep isEnd : Bool) (worker : SftWorker) : SftWorker :=
  if config.valBatchSize % config.dpWorldSize = 0 then
    let consumed :=
      if config.valBatchSize / config.dpWorldSize ≤ worker.dataQueue then
        { worker with
          dataQueue := worker.dataQueue - config.valBatchSize / config.dpWorldSize }
      else worker
    if isEnd then { consumed with dataQueue := 0, phase := .postingValidation isLastStep }
    else consumed
  else worker.crash

/-- `main_loop` after a request. -/
def trainingFetched (isEnd : Bool) (worker : SftWorker) : SftWorker :=
  if config.base.trainBatchPerReplica % config.dpWorldSize = 0 then
    if config.base.trainBatchPerReplica / config.dpWorldSize ≤ worker.dataQueue then
      { worker with
        dataQueue := worker.dataQueue - config.base.trainBatchPerReplica / config.dpWorldSize
        phase := .training isEnd
        computedSteps := worker.computedSteps + 1 }
    else worker.endRound config isEnd
  else worker.crash

def fetched (isEnd : Bool) (requested : Outcome PyError SftWorker) : SftWorker :=
  match requested.raised, requested.state.phase with
  | none, .validating isLastStep =>
    requested.state.validationFetched config isLastStep isEnd
  | none, .fetching => requested.state.trainingFetched config isEnd
  | _, _ => requested.state.crash

/-- `step_training` returns. -/
def stepped (worker : SftWorker) : SftWorker :=
  match worker.phase with
  | .training isEnd =>
    { worker with trainStep := worker.trainStep.map (· + 1), phase := .postingAck isEnd }
  | _ => worker

def acknowledged (worker : SftWorker) : SftWorker :=
  match worker.phase with
  | .postingAck isEnd =>
    { worker with ackedSteps := worker.ackedSteps + 1 }.endRound config isEnd
  | .postingValidation isLastStep =>
    { worker with phase := if isLastStep then .finished else .fetching }
  | _ => worker

def isValidating (worker : SftWorker) : Bool :=
  match worker.phase with
  | .validating _ => true
  | _ => false

def postsValidation (worker : SftWorker) : Bool :=
  match worker.phase with
  | .postingValidation _ => true
  | _ => false

end SftWorker

structure SftWorld where
  controller : Controller
  workers : ReplicaName → SftWorker

inductive SftEvent where
  | request (name : ReplicaName)
  | completeStep (name : ReplicaName)
  | postAck (name : ReplicaName)
  deriving DecidableEq, Repr

namespace SftWorld

variable (world : SftWorld)

def setWorker (name : ReplicaName) (worker : SftWorker) : SftWorld :=
  { world with workers := Function.update world.workers name worker }

def batchSize (name : ReplicaName) : Nat :=
  (if (world.workers name).isValidating then config.valBatchSize
    else config.base.trainBatchPerReplica) / config.dpWorldSize

def answer (name : ReplicaName) :
    Except PyError (List SftPayload × Bool) × Controller :=
  sftGetBatchedPrompt config.base (world.batchSize config name * config.dpWorldSize)
    (if (world.workers name).isValidating then some ((world.workers name).trainStep.getD 0)
      else none)
    world.controller

/-- `get_next_prompt`: a request that fails gives nothing. -/
def nextPrompt (name : ReplicaName) : List SftPayload × Bool :=
  match (world.answer config name).1 with
  | .ok found => found
  | .error _ => ([], false)

def request (name : ReplicaName) : SftWorld :=
  if (world.workers name).dataQueue = 0 then
    { world with controller := (world.answer config name).2 }.setWorker name
      (SftWorker.fetched config (world.nextPrompt config name).2
        (requestNewPrompts config name (world.batchSize config name)
          (world.workers name).isValidating (world.nextPrompt config name)
          (world.workers name)))
  else world.setWorker name (world.workers name).crash

def postAck (name : ReplicaName) : SftWorld :=
  let handled := sftPolicyTrainAck config.base name (world.workers name).postsValidation
    world.controller
  { world with controller := handled.state }.setWorker name
    (if handled.raised.isNone then (world.workers name).acknowledged config
      else (world.workers name).crash)

def Allowed (event : SftEvent) : Prop :=
  match event with
  | .request name => name ∈ world.controller.arrivedPolicyNames ∧
      ((world.workers name).isValidating = true ∨ (world.workers name).phase = .fetching)
  | .completeStep name => name ∈ world.controller.arrivedPolicyNames ∧
      (∃ isEnd ∈ [true, false], (world.workers name).phase = .training isEnd) ∧
      ∀ other ∈ world.controller.arrivedPolicyNames,
        (world.workers name).computedSteps ≤ (world.workers other).computedSteps
  | .postAck name => name ∈ world.controller.arrivedPolicyNames ∧
      ((world.workers name).postsValidation = true ∨
        ∃ isEnd ∈ [true, false], (world.workers name).phase = .postingAck isEnd)

instance (event : SftEvent) : Decidable (world.Allowed event) := by
  unfold Allowed
  cases event <;> infer_instance

end SftWorld

def sftSystem : EventSystem SftWorld SftEvent where
  handle world event :=
    match event with
    | .request name => world.request config name
    | .completeStep name => world.setWorker name (world.workers name).stepped
    | .postAck name => world.postAck config name
  Allowed world event := world.Allowed event

instance (world : SftWorld) (event : SftEvent) :
    Decidable ((sftSystem config).Allowed world event) :=
  inferInstanceAs (Decidable (world.Allowed event))

def SftWorld.begin (controller : Controller) (loadedTrainStep : ReplicaName → Option Nat) :
    SftWorld where
  controller := controller
  workers name :=
    SftWorker.validate config false
      { loadedTrainStep := loadedTrainStep name
        totalSteps := controller.policy.totalSteps }

end CosmosRl.Worker
