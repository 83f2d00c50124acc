import CosmosRl.Foundation.Run
import CosmosRl.Dispatcher.TrainAck
import CosmosRl.Dispatcher.ControllerDataFetcher

/-!
`Controller` and the HTTP handlers in front of it: handing out prompts with the
fetch throttle and the version tags, taking rollouts back, and the life cycle
of the replicas.
-/

namespace CosmosRl.Dispatcher

open CosmosRl.Foundation

variable (config : Config)

namespace Controller

/-- `rollouts_per_global_batch`, counted over all registered policy replicas. -/
def rolloutsPerGlobalBatch (controller : Controller) : Nat :=
  config.trainBatchPerReplica * controller.policy.policyReplicas.size

def globalBatchSize (controller : Controller) : Nat :=
  (controller.rolloutsPerGlobalBatch config + config.nGeneration - 1) /
    config.nGeneration

/-- `rollouts_per_global_batch or 1`. -/
def rolloutsPerGlobalBatchOrOne (controller : Controller) : Nat :=
  if controller.rolloutsPerGlobalBatch config = 0 then 1
  else controller.rolloutsPerGlobalBatch config

def weightVersionForCurrentBatch (controller : Controller) : Nat :=
  controller.policy.currentStep +
    controller.totalPendingRollouts config / controller.rolloutsPerGlobalBatchOrOne config

def throttledFetch (n : Nat) (controller : Controller) : Nat :=
  let perGlobalBatch : Int := controller.rolloutsPerGlobalBatchOrOne config
  let onTheFly := controller.policy.samplesOnTheFly
  let pending : Int := controller.totalPendingRollouts config
  if config.variant ≠ .dapo then
    if ((config.allowedOutdatedSteps : Int) + 1) * perGlobalBatch ≤ onTheFly then
      min n config.outdatedRolloutFetchBatchSize
    else n
  else if 0 < config.maxRetryForOnPolicy then
    if (1 + ((config.allowedOutdatedSteps : Int) - pending / perGlobalBatch)) *
        config.maxRetryForOnPolicy * perGlobalBatch ≤ max (onTheFly - pending) 0 then
      min n config.outdatedRolloutFetchBatchSize
    else n
  else n

def neverScaled (controller : Controller) : Bool :=
  controller.rollout.replicaScalingLog.isEmpty &&
    controller.policy.replicaScalingLog.isEmpty

end Controller

/-- The first version from `version` on whose prompt quota is not used up.  The
`fuel` is the number of versions that have a counter, plus one. -/
def firstOpenVersion (quota : Nat) (promptNum : Dict Nat Nat) :
    Nat → Nat → Except PyError Nat
  | 0, version => .ok version
  | fuel + 1, version =>
    match promptNum.get? version with
    | none => .ok version
    | some used =>
      if used < quota then .ok version
      else if used = quota then firstOpenVersion quota promptNum fuel (version + 1)
      else .error (.assertionError
        s!"[Controller] For weight version {version}, the number of fetched prompts {used} exceeds the global batch size {quota}.")

def tagPayloads (quota : Nat) : List Nat → Nat → Dict Nat Nat →
    Except PyError (List RLPayload) × Dict Nat Nat
  | [], _, promptNum => (.ok [], promptNum)
  | promptIdx :: rest, version, promptNum =>
    match firstOpenVersion quota promptNum (promptNum.size + 1) version with
    | .error exn => (.error exn, promptNum)
    | .ok openVersion =>
      let counted := promptNum.set openVersion
        ((promptNum.get? openVersion).getD 0 + 1)
      match tagPayloads quota rest openVersion counted with
      | (.error exn, final) => (.error exn, final)
      | (.ok tagged, final) => (.ok (⟨promptIdx, openVersion⟩ :: tagged), final)

def controlVersions (version quota : Nat) (promptIdxs : List Nat)
    (promptNum : Dict Nat Nat) : Except PyError (List RLPayload) × Dict Nat Nat :=
  if config.variant = .dapo then
    (.ok (promptIdxs.map fun promptIdx => ⟨promptIdx, version⟩),
      promptNum.set version ((promptNum.get? version).getD 0 + promptIdxs.length))
  else tagPayloads quota promptIdxs version promptNum

def checkRetries (version quota : Nat) (promptNum : Dict Nat Nat) : Option PyError :=
  if 0 < config.maxRetryForOnPolicy then
    match promptNum.get? version with
    | none => some .keyError
    | some used =>
      if quota = 0 then some .zeroDivisionError
      else if config.maxRetryForOnPolicy < ((used + quota - 1) / quota : Nat) then
        some (.runtimeError
          s!"[Controller] After {config.maxRetryForOnPolicy} retries, samples for weight version {version} are still not enough. May be the dataset is too difficult for current model? Or you could also set the `max_retry_for_on_policy` to 0 or negative to always retry.")
      else none
  else none

def handOut (isValidation : Bool) (payloads : List RLPayload) (isEnd : Bool)
    (controller : Controller) : Except PyError (List RLPayload × Bool) × Controller :=
  (.ok (payloads, isEnd),
    if isValidation then controller
    else { controller with
      policy.samplesOnTheFly :=
        controller.policy.samplesOnTheFly + payloads.length * config.nGeneration })

/-- `Controller.get_batched_prompt`. -/
def getBatchedPrompt (n : Nat) (validationStep rankInMesh : Option Nat)
    (controller : Controller) : Except PyError (List RLPayload × Bool) × Controller :=
  let version := controller.weightVersionForCurrentBatch config
  let quota := controller.globalBatchSize config
  let stepFetchedCountControl :=
    validationStep.isNone && decide (config.mode ≠ .colocated)
  let count := if stepFetchedCountControl then controller.throttledFetch config n else n
  match fetcherGetBatchedPrompt config count validationStep rankInMesh
      (if config.variant = .dapo then none else some version)
      controller.dataFetcher with
  | (.error exn, fetcher) => (.error exn, { controller with dataFetcher := fetcher })
  | (.ok (promptIdxs, isEnd), fetcher) =>
    let fetched := { controller with dataFetcher := fetcher }
    if stepFetchedCountControl && controller.neverScaled then
      match controlVersions config version quota promptIdxs
          controller.weightVersionToPromptNum with
      | (.error exn, promptNum) =>
        (.error exn, { fetched with weightVersionToPromptNum := promptNum })
      | (.ok payloads, promptNum) =>
        let tagged := { fetched with weightVersionToPromptNum := promptNum }
        match checkRetries config version quota promptNum with
        | some exn => (.error exn, tagged)
        | none => handOut config validationStep.isSome payloads isEnd tagged
    else
      handOut config validationStep.isSome
        (promptIdxs.map fun promptIdx => ⟨promptIdx, 0⟩) isEnd fetched

/-- `Controller.unregister`. -/
def unregister (replicaName : ReplicaName) (controller : Controller) : Result :=
  if replicaName ∈ controller.policy.policyReplicas.keys then
    unregisterPolicy config replicaName controller
  else if replicaName ∈ controller.rollout.rolloutReplicas.keys then
    unregisterRollout replicaName controller
  else
    .raise controller (.exception s!"[Controller] Replica {replicaName} not found")

def prepareFakeStep (controller : Controller) : Controller :=
  { controller with
    policy.rolloutBuffer := []
    policy.totalSteps := (controller.policy.currentStep : Int) + 1 }

def allRolloutsHaveEnded (controller : Controller) : Result :=
  let originalTotalSteps := controller.policy.totalSteps
  let recomputed := recomputeTotalSteps config
    (some (controller.totalPendingRollouts config)) controller
  if (recomputed.policy.currentStep : Int) < recomputed.policy.totalSteps then
    .ok recomputed
  else if (recomputed.policy.currentStep : Int) = originalTotalSteps then .ok recomputed
  else
    tryTriggerDataFetchAndTraining config true (prepareFakeStep recomputed)

/-- The `is_end` branch of `put_rollout_group`. -/
def rolloutEndSignal (srcReplicaName : ReplicaName) (controller : Controller) : Result :=
  let ended := rolloutEnd srcReplicaName controller
  if ended.allRolloutsEnded then allRolloutsHaveEnded config ended else .ok ended

/-- Rollouts of one request, with the dynamic sampling counters that a `dapo`
worker adds. -/
structure RolloutReport where
  rollouts : List Rollout
  filteredPositive : Nat := 0
  filteredNegative : Nat := 0
  deriving DecidableEq, Repr

/-- The other branch of `put_rollout_group`. -/
def putRolloutGroup (report : RolloutReport) (controller : Controller) : Result :=
  let counted :=
    if config.variant = .dapo then
      updateDynamicSamplingStatistics report.filteredPositive report.filteredNegative
        controller
    else controller
  match filterOutdatedRollouts config report.rollouts counted with
  | (.error exn, filtered) => .raise filtered exn
  | (.ok rollouts, filtered) => putRollouts config rollouts filtered

/-- The state `setup` leaves: fresh, or resumed from a checkpoint. -/
def setup (currentStep : Nat) (remainSamplesNum : Int)
    (nInitPolicyReplicas nInitRolloutReplicas : Nat)
    (fetcher : ControllerDataFetcher) : Controller :=
  let started : Controller :=
    { policy.currentStep := currentStep
      policy.remainSamplesNum := remainSamplesNum
      policy.nInitReplicas := nInitPolicyReplicas
      rollout.nInitReplicas := nInitRolloutReplicas
      dataFetcher := fetcher
      doWeightSyncCheckFlag := !config.resume }
  let recomputed := recomputeTotalSteps config none started
  if config.resume && decide (0 < currentStep) &&
      isValidationStep config currentStep recomputed.policy.totalSteps then
    validationActivateDataloader config currentStep recomputed
  else recomputed

inductive Event where
  | registerPolicy (atom : Atom) (now : Nat)
  | registerRollout (atom : Atom) (now : Nat)
  | unregister (replicaName : ReplicaName)
  | getBatchedPrompt (n : Nat) (validationStep rankInMesh : Option Nat)
  | putRolloutGroup (report : RolloutReport)
  | rolloutEndSignal (srcReplicaName : ReplicaName)
  | tryTriggerDataFetchAndTraining
  | trainAck (replicaName : ReplicaName) (step : Nat) (totalSteps : Int)
      (reportData : ReportData)
  | validationReport (validationStep numResults : Nat)

def handleEvent (controller : Controller) : Event → Result
  | .registerPolicy atom now => registerPolicy config atom now controller
  | .registerRollout atom now => registerRollout atom now controller
  | .unregister replicaName => unregister config replicaName controller
  | .getBatchedPrompt n validationStep rankInMesh =>
    match getBatchedPrompt config n validationStep rankInMesh controller with
    | (.ok _, fetched) => .ok fetched
    | (.error exn, fetched) => .raise fetched exn
  | .putRolloutGroup report => putRolloutGroup config report controller
  | .rolloutEndSignal srcReplicaName => rolloutEndSignal config srcReplicaName controller
  | .tryTriggerDataFetchAndTraining => tryTriggerDataFetchAndTraining config false controller
  | .trainAck replicaName step totalSteps reportData =>
    trainAck config replicaName step totalSteps reportData controller
  | .validationReport validationStep numResults =>
    validationReportValidationResults config validationStep numResults controller

end CosmosRl.Dispatcher
