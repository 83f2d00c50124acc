import CosmosRl.Dispatcher.PolicyRegistration

/-!
`RolloutStatusManager`: registration, departure and end signals of the rollout
replicas.
-/

namespace CosmosRl.Dispatcher

open CosmosRl.Foundation

namespace Controller

/-- `RolloutStatusManager.get_all_atoms_arrived_replicas`. -/
def arrivedRolloutReplicas (controller : Controller) : List (ReplicaName × Replica) :=
  allAtomsArrivedReplicas controller.rollout.rolloutReplicas

def arrivedRolloutNames (controller : Controller) : List ReplicaName :=
  controller.arrivedRolloutReplicas.map Prod.fst

def sortedRolloutNames (controller : Controller) : List ReplicaName :=
  (sortedByStartTime controller.arrivedRolloutReplicas).map Prod.fst

def policyReplicasByName (controller : Controller) : List (ReplicaName × Replica) :=
  controller.policy.policyReplicas.entries.insertionSort
    fun first second => first.1 ≤ second.1

/-- `all_rollouts_ended`. -/
def allRolloutsEnded (controller : Controller) : Bool :=
  controller.rollout.rolloutReplicas.values.all fun replica => replica.ended

end Controller

/-- `RolloutStatusManager.trigger_rebuild_mesh` over the arrived replicas. -/
def triggerRebuildRolloutMesh (controller : Controller) : Controller :=
  let names := controller.sortedRolloutNames
  let built := publishBuildMesh names controller
  { built with
    rollout.rolloutReplicas := assignMeshRanks names built.rollout.rolloutReplicas
    dataFetcher.rolloutGlobalMeshSize := some names.length }

/-- `RolloutStatusManager.unregister`. -/
def unregisterRollout (replicaName : ReplicaName) (controller : Controller) : Result :=
  match controller.rollout.rolloutReplicas.get? replicaName with
  | none => .raise controller (.assertionError
      s!"Replica {replicaName} not found in policy status manager")
  | some replica =>
    let removed := { controller with
      rollout.rolloutReplicas := controller.rollout.rolloutReplicas.erase replicaName
      rollout.replicaScalingLog :=
        controller.rollout.replicaScalingLog ++ [replicaName] }
    if removed.trainingFinished then .ok removed
    else if replica.inMesh && decide (0 < removed.rollout.rolloutReplicas.size) then
      .ok (triggerRebuildRolloutMesh removed)
    else .ok removed

/-- `RolloutStatusManager.rollout_end`; an unknown name is only logged. -/
def rolloutEnd (replicaName : ReplicaName) (controller : Controller) : Controller :=
  { controller with
    rollout.rolloutReplicas := controller.rollout.rolloutReplicas.modify replicaName
      fun replica => { replica with ended := true } }

def sendWeightsToFirstRollout (targetReplica : ReplicaName) (controller : Controller) :
    Controller :=
  match firstLoadedReplica (sortedByStartTime controller.policyReplicasByName) with
  | none => controller
  | some anyLoadedPolicyReplica =>
    if controller.arrivedRolloutReplicas.all fun entry =>
        !entry.2.weightsLoadedInViewOfCommand then
      policyToRolloutUnicastTrigger anyLoadedPolicyReplica targetReplica none none
        controller
    else controller

def broadcastToInitialRollouts (controller : Controller) : Controller :=
  match firstLoadedReplica (sortedByStartTime controller.arrivedRolloutReplicas) with
  | none => controller
  | some anyLoadedRolloutReplica =>
    rolloutToRolloutBroadcastTrigger anyLoadedRolloutReplica
      controller.arrivedRolloutNames (some controller.policy.currentStep) none
      controller

/-- `RolloutStatusManager.post_register_hook`. -/
def rolloutPostRegisterHook (targetReplica : ReplicaName) (controller : Controller) :
    Result :=
  let sent := sendWeightsToFirstRollout targetReplica controller
  if !sent.rollout.rolloutInitDone &&
      decide (sent.arrivedRolloutReplicas.length = sent.rollout.nInitReplicas) then
    .ok (broadcastToInitialRollouts
      (triggerRebuildRolloutMesh { sent with rollout.rolloutInitDone := true }))
  else if !sent.rollout.rolloutInitDone then
    if sent.arrivedRolloutReplicas.length < sent.rollout.nInitReplicas then .ok sent
    else .raise sent (.assertionError "")
  else .ok (triggerRebuildRolloutMesh sent)

def storeRolloutReplica (name : ReplicaName) (replica : Replica)
    (controller : Controller) : Controller :=
  let replicas := controller.rollout.rolloutReplicas.set name replica
  { controller with
    rollout.rolloutReplicas := replicas
    rollout.nInitReplicas := raiseInitReplicas controller.rollout.rolloutInitDone
      controller.rollout.nInitReplicas replicas.size }

/-- `RolloutStatusManager.register`. -/
def registerRollout (atom : Atom) (now : Nat) (controller : Controller) : Result :=
  match arriveReplica atom controller.rollout.rolloutReplicas with
  | .error exn => .raise controller exn
  | .ok replica =>
    if replica.allAtomsArrived then
      rolloutPostRegisterHook atom.replicaName
        (storeRolloutReplica atom.replicaName (replica.startAt now) controller)
    else .ok (storeRolloutReplica atom.replicaName replica controller)

end CosmosRl.Dispatcher
