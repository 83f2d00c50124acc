import CosmosRl.Dispatcher.State

/-!
`PolicyStatusManager`: statuses of the policy replicas, the rollout buffers, the
step counters, and the trigger that turns buffered rollouts into training steps.
-/

namespace CosmosRl.Dispatcher

open CosmosRl.Foundation

variable (config : Config)

namespace Controller

/-- `get_all_atoms_arrived_replicas`. -/
def arrivedPolicyReplicas (controller : Controller) : List (ReplicaName × Replica) :=
  allAtomsArrivedReplicas controller.policy.policyReplicas

def arrivedPolicyNames (controller : Controller) : List ReplicaName :=
  controller.arrivedPolicyReplicas.map Prod.fst

def sortedPolicyNames (controller : Controller) : List ReplicaName :=
  (sortedByStartTime controller.arrivedPolicyReplicas).map Prod.fst

def trainingFinished (controller : Controller) : Bool :=
  decide (controller.policy.totalSteps ≤ controller.policy.currentStep) &&
    decide (0 < controller.policy.totalSteps)

def allWithStatus (allowed : List PolicyStatus) (controller : Controller) : Bool :=
  controller.policy.status.values.all fun status => decide (status ∈ allowed)

def allReduced (controller : Controller) : Bool :=
  controller.allWithStatus [.reduced]

def allReadyOrReduced (controller : Controller) : Bool :=
  controller.allWithStatus [.ready, .reduced]

def rolloutsPerStep (controller : Controller) : Nat :=
  config.trainBatchPerReplica * controller.arrivedPolicyReplicas.length

def totalPendingRollouts (controller : Controller) : Nat :=
  if config.dataDispatchAsRankInMesh then
    (controller.policy.rolloutBufferPerRank.map List.length).sum
  else controller.policy.rolloutBuffer.length

def rolloutsEnoughForOneStep (controller : Controller) : Bool :=
  if config.mode = .colocated then true
  else if config.dataDispatchAsRankInMesh then
    controller.policy.rolloutBufferPerRank.all fun queue =>
      decide (config.trainBatchPerReplica ≤ queue.length)
  else
    decide (controller.rolloutsPerStep config ≤ controller.totalPendingRollouts config)

end Controller

/-- The value `recompute_total_steps` computes when it does not return early. -/
def totalStepsFor (currentStep : Nat) (numRemainingSamples : Int)
    (numPolicyReplicas : Nat) : Int :=
  let stepsByDataset := currentStep +
    numRemainingSamples / (config.trainBatchPerReplica * numPolicyReplicas)
  match config.maxNumSteps with
  | some maxNumSteps => min stepsByDataset maxNumSteps
  | none => stepsByDataset

def recomputeTotalSteps (explicitNumRemainingSamples : Option Int)
    (controller : Controller) : Controller :=
  if controller.trainingFinished then controller
  else if controller.arrivedPolicyReplicas.length = 0 then controller
  else
    { controller with
      policy.totalSteps := totalStepsFor config controller.policy.currentStep
        (explicitNumRemainingSamples.getD controller.policy.remainSamplesNum)
        controller.arrivedPolicyReplicas.length }

/-- `set_status`: a first status must be `UNINITIALIZED` and a later one must not. -/
def setStatus (name : ReplicaName) (status : PolicyStatus) (controller : Controller) :
    Result :=
  if name ∈ controller.policy.status.keys then
    if status = .uninitialized then
      .raise controller (.assertionError
        "Policy status should not be UNINITIALIZED when already created")
    else
      .ok { controller with
        policy.status := controller.policy.status.set name status }
  else if status = .uninitialized then
    .ok { controller with
      policy.status := controller.policy.status.set name status }
  else
    .raise controller (.assertionError
      "Policy status should be UNINITIALIZED when first created")

def validationActivateDataloader (validationStep : Nat) (controller : Controller) :
    Controller :=
  if validationStep ∈ controller.dataFetcher.valIters.keys then controller
  else
    { controller with
      dataFetcher.valIters := controller.dataFetcher.valIters.set validationStep
        config.dataset.valDataloader
      dataFetcher.activatedValIter := some validationStep }

def isValidationStep (currentStep : Nat) (totalSteps : Int) : Bool :=
  config.validation.enable &&
    (decide (currentStep % config.validation.freq = 0) ||
      decide ((currentStep : Int) = totalSteps))

/-- Distribute rollouts over the queues of `numReplicas` ranks by prompt index. -/
def distributeByRank (numReplicas : Nat) (rollouts : List Rollout) :
    List (List Rollout) :=
  rollouts.foldl (fun queues rollout =>
    queues.modify (rollout.promptIdx % numReplicas) fun queue => queue ++ [rollout])
    (List.replicate numReplicas [])

def rearrangeRolloutBufferAfterMeshRebuild (numReplicas : Nat)
    (controller : Controller) : Controller :=
  if config.dataDispatchAsRankInMesh then
    { controller with
      policy.rolloutBufferPerRank :=
        distributeByRank numReplicas controller.policy.rolloutBufferPerRank.flatten }
  else controller

/-- `PolicyStatusManager.trigger_rebuild_mesh` over the arrived replicas. -/
def triggerRebuildPolicyMesh (controller : Controller) : Controller :=
  let names := controller.sortedPolicyNames
  let built := publishBuildMesh names controller
  let ranked := { built with
    policy.policyReplicas := assignMeshRanks names built.policy.policyReplicas }
  let recomputed := recomputeTotalSteps config none ranked
  let sized := { recomputed with
    dataFetcher.policyGlobalMeshSize := some names.length }
  rearrangeRolloutBufferAfterMeshRebuild config names.length sized

/-- `PolicyStatusManager.unregister`. -/
def unregisterPolicy (replicaName : ReplicaName) (controller : Controller) : Result :=
  match controller.policy.policyReplicas.get? replicaName with
  | none => .raise controller (.assertionError
      s!"Replica {replicaName} not found in policy status manager")
  | some replica =>
    if replicaName ∈ controller.policy.status.keys then
      let removed := { controller with
        policy.policyReplicas := controller.policy.policyReplicas.erase replicaName
        policy.status := controller.policy.status.erase replicaName
        policy.replicaScalingLog := controller.policy.replicaScalingLog ++ [replicaName] }
      if removed.trainingFinished then .ok removed
      else if replica.inMesh && decide (removed.arrivedPolicyReplicas ≠ []) then
        .ok (triggerRebuildPolicyMesh config removed)
      else .ok removed
    else
      -- `self.status.pop` raises after the replica has already been removed
      .raise { controller with
        policy.policyReplicas :=
          controller.policy.policyReplicas.erase replicaName } .keyError

def updateDynamicSamplingStatistics (filteredPositive filteredNegative : Nat)
    (controller : Controller) : Controller :=
  { controller with
    policy.remainSamplesNum := controller.policy.remainSamplesNum -
      filteredPositive - filteredNegative }

def checkCheckpointSaving (requiredRollouts : Nat) (controller : Controller) : Bool :=
  let remain := controller.policy.remainSamplesNum
  let perEpoch : Int := config.samplesPerEpoch
  let doSave :=
    if (controller.policy.currentStep : Int) = controller.policy.totalSteps then true
    else if 0 < config.ckpt.saveFreqInEpoch then
      if (remain + requiredRollouts - 1) / perEpoch ≠ (remain - 1) / perEpoch then
        decide (((config.epoch : Int) - (remain + requiredRollouts - 1) / perEpoch) %
          config.ckpt.saveFreqInEpoch = 0)
      else false
    else
      decide (controller.policy.currentStep % config.ckpt.saveFreq = 0) &&
        decide (0 < controller.policy.currentStep)
  doSave && config.ckpt.enableCheckpoint

/-- Take one rollout from the shared queue for each target in turn; `none` when
the queue runs empty and `get` would block. -/
def takeForEach : List ReplicaName → List Rollout →
    Option (List (ReplicaName × Rollout) × List Rollout)
  | [], queue => some ([], queue)
  | _ :: _, [] => none
  | target :: targets, rollout :: queue =>
    (takeForEach targets queue).map fun taken =>
      ((target, rollout) :: taken.1, taken.2)

/-- `sort_queue_by_prompt_idx`, a stable sort. -/
def sortQueueByPromptIdx (queue : List Rollout) : List Rollout :=
  queue.insertionSort fun first second => first.promptIdx ≤ second.promptIdx

/-- Give every replica `itemsCount` rollouts of the queue of its own position. -/
def takePerRank (itemsCount : Nat) : List ReplicaName → List (List Rollout) →
    Except PyError (List (ReplicaName × Rollout) × List (List Rollout))
  | [], queues => .ok ([], queues)
  | _ :: _, [] => .error .indexError
  | target :: targets, queue :: queues =>
    let sorted := sortQueueByPromptIdx queue
    if sorted.length < itemsCount then .error .blocked
    else
      match takePerRank itemsCount targets queues with
      | .error exn => .error exn
      | .ok (taken, rest) =>
        .ok ((sorted.take itemsCount).map (fun rollout => (target, rollout)) ++ taken,
          sorted.drop itemsCount :: rest)

def publishRollouts (taken : List (ReplicaName × Rollout)) (controller : Controller) :
    Controller :=
  taken.foldl (fun current item => current.publishRollout item.1 item.2) controller

def dispatchRollouts (itemsCount : Nat) (controller : Controller) : Result :=
  if config.mode = .colocated then .ok controller
  else if config.dataDispatchAsRankInMesh then
    match takePerRank itemsCount controller.sortedPolicyNames
        controller.policy.rolloutBufferPerRank with
    | .error exn => .raise controller exn
    | .ok (taken, rest) =>
      .ok (publishRollouts taken
        { controller with policy.rolloutBufferPerRank := rest })
  else
    match takeForEach (List.replicate itemsCount controller.arrivedPolicyNames).flatten
        controller.policy.rolloutBuffer with
    | none => .raise controller .blocked
    | some (taken, rest) =>
      .ok (publishRollouts taken { controller with policy.rolloutBuffer := rest })

/-- Publish the `DataFetch` of one replica and mark it `RUNNING`. -/
def sendDataFetch (itemsCount : Nat) (doSave : Bool) (name : ReplicaName)
    (controller : Controller) : Result :=
  setStatus name .running
    (dataFetchTrigger name itemsCount controller.policy.currentStep
      controller.policy.totalSteps controller.policy.remainSamplesNum doSave controller)

/-- The body of `try_trigger_data_fetch_and_training` once it has decided to
issue a step. -/
def issueStep (itemsCount requiredRollouts : Nat) (controller : Controller) : Result :=
  let advanced := { controller with
    policy.remainSamplesNum := controller.policy.remainSamplesNum - requiredRollouts
    policy.currentStep := controller.policy.currentStep + 1 }
  let gated :=
    if isValidationStep config advanced.policy.currentStep advanced.policy.totalSteps then
      validationActivateDataloader config advanced.policy.currentStep advanced
    else advanced
  (dispatchRollouts config itemsCount gated).andThen fun dispatched =>
    let doSave := checkCheckpointSaving config requiredRollouts dispatched
    Outcome.forEach (sendDataFetch itemsCount doSave)
      dispatched.arrivedPolicyNames dispatched

/-- `try_trigger_data_fetch_and_training`. -/
def tryTriggerDataFetchAndTraining (isFakeLastCmd : Bool) (controller : Controller) :
    Result :=
  if controller.dataFetcher.activatedValIter.isSome then .ok controller
  else if controller.arrivedPolicyReplicas = [] then .ok controller
  else if controller.trainingFinished then .ok controller
  else if isFakeLastCmd then
    if (controller.policy.currentStep : Int) + 1 = controller.policy.totalSteps then
      issueStep config 0 0 controller
    else
      .raise controller (.assertionError
        "The last command should be fake and next step should be the last step")
  else if controller.allReadyOrReduced && controller.rolloutsEnoughForOneStep config then
    issueStep config config.trainBatchPerReplica (controller.rolloutsPerStep config)
      controller
  else .ok controller

def putRollout (rollout : Rollout) (controller : Controller) : Result :=
  if config.dataDispatchAsRankInMesh then
    if controller.policy.rolloutBufferPerRank.length = 0 then
      .raise controller .zeroDivisionError
    else
      tryTriggerDataFetchAndTraining config false
        { controller with
          policy.rolloutBufferPerRank := controller.policy.rolloutBufferPerRank.modify
            (rollout.promptIdx % controller.policy.rolloutBufferPerRank.length)
            fun queue => queue ++ [rollout] }
  else
    tryTriggerDataFetchAndTraining config false
      { controller with
        policy.rolloutBuffer := controller.policy.rolloutBuffer ++ [rollout] }

/-- The loop of `put_rollouts`, which on-policy training leaves as soon as the
buffers have been emptied by a trigger. -/
def putRolloutLoop : List Rollout → Controller → Result
  | [], controller => .ok controller
  | rollout :: rest, controller =>
    (putRollout config rollout controller).andThen fun put =>
      if config.onPolicy && decide (put.totalPendingRollouts config = 0) then
        .ok { put with policy.onPolicyRolloutCompleted := true }
      else putRolloutLoop rest put

def putRollouts (rollouts : List Rollout) (controller : Controller) : Result :=
  if config.onPolicy && controller.policy.onPolicyRolloutCompleted then
    .ok { controller with
      policy.remainSamplesNum := controller.policy.remainSamplesNum - rollouts.length }
  else putRolloutLoop config rollouts controller

/-- The step in which a rollout at position `idx` of a batch is expected to be
used. -/
def estimatedStep (idx : Nat) (controller : Controller) : Nat :=
  controller.policy.currentStep +
    (idx + controller.totalPendingRollouts config) /
      (config.trainBatchPerReplica * max controller.arrivedPolicyReplicas.length 1)

/-- The test of `filter_outdated_rollouts`. -/
def isFresh (idx : Nat) (rollout : Rollout) (controller : Controller) : Bool :=
  decide (estimatedStep config idx controller ≤
    rollout.weightVersion + config.allowedOutdatedSteps)

/-- The rollouts `filter_outdated_rollouts` keeps. -/
def freshRollouts (rollouts : List Rollout) (controller : Controller) : List Rollout :=
  (rollouts.zipIdx.filter fun entry => isFresh config entry.2 entry.1 controller).map
    Prod.fst

/-- `filter_outdated_rollouts`: the rollouts kept, unless one of them carries a
weight version from the future. -/
def filterOutdatedRollouts (rollouts : List Rollout) (controller : Controller) :
    Except PyError (List Rollout) × Controller :=
  match rollouts.find? fun rollout =>
      decide (controller.policy.currentStep < rollout.weightVersion) with
  | some rollout =>
    (.error (.assertionError
      s!"Rollout weight version {rollout.weightVersion} is greater than current step {controller.policy.currentStep}"),
      controller)
  | none =>
    let filtered := freshRollouts config rollouts controller
    (.ok filtered, { controller with
      policy.remainSamplesNum := controller.policy.remainSamplesNum -
        ((rollouts.length : Int) - filtered.length) })

end CosmosRl.Dispatcher
