import CosmosRl.Dispatcher.PolicyStatusManager

/-!
Registration of policy replicas.

The first replica whose atoms have all arrived resumes the weights and, when a
rollout replica is already there, sends them on.  The hook that follows builds
the first mesh once enough replicas have arrived and rebuilds it for every
replica that joins later.
-/

namespace CosmosRl.Dispatcher

open CosmosRl.Foundation

variable (config : Config)

def arriveReplica (atom : Atom) (replicas : Dict ReplicaName Replica) :
    Except PyError Replica :=
  match replicas.get? atom.replicaName with
  | none => .ok (Replica.ofAtom atom)
  | some replica => replica.arrive atom

/-- `start_time` is set once. -/
def Replica.startAt (now : Nat) (replica : Replica) : Replica :=
  if replica.startTime = -1 then { replica with startTime := now } else replica

def Controller.sortedArrivedRolloutNames (controller : Controller) : List ReplicaName :=
  ((sortedByStartTime controller.rollout.rolloutReplicas.entries).filter
    fun entry => entry.2.allAtomsArrived).map Prod.fst

def firstLoadedReplica (replicas : List (ReplicaName × Replica)) : Option ReplicaName :=
  (replicas.find? fun entry => entry.2.weightsLoadedInViewOfCommand).map Prod.fst

def initializeWeights (replicaName : ReplicaName) (controller : Controller) : Result :=
  if controller.policy.firstPolicyReplicaArrived then
    .raise controller (.assertionError
      "Expect only one policy replica to load weight during training process")
  else
    let resumed := weightResumeTrigger replicaName
      { controller with policy.firstPolicyReplicaArrived := true }
    let validRollouts := resumed.sortedArrivedRolloutNames
    match validRollouts with
    | [] => .ok resumed
    | anyValidRollout :: _ =>
      let sent := policyToRolloutUnicastTrigger replicaName anyValidRollout
        none none resumed
      if resumed.rollout.nInitReplicas ≤ validRollouts.length then
        .ok (rolloutToRolloutBroadcastTrigger anyValidRollout validRollouts
          (some sent.policy.currentStep) none sent)
      else .ok sent

def startColocatedReplica (name : ReplicaName) (controller : Controller) : Result :=
  sendDataFetch config.trainBatchPerReplica false name
    { controller with
      policy.remainSamplesNum :=
        controller.policy.remainSamplesNum - config.trainBatchPerReplica }

def startColocated (validReplicas : List ReplicaName) (controller : Controller) :
    Result :=
  let advanced := { controller with
    policy.currentStep := controller.policy.currentStep + 1 }
  let gated :=
    if isValidationStep config advanced.policy.currentStep advanced.policy.totalSteps then
      validationActivateDataloader config advanced.policy.currentStep advanced
    else advanced
  Outcome.forEach (startColocatedReplica config) validReplicas gated

def broadcastInitialWeights (controller : Controller) : Result :=
  if 1 < controller.arrivedPolicyReplicas.length then
    match firstLoadedReplica (sortedByStartTime controller.arrivedPolicyReplicas) with
    | none => .raise controller (.assertionError
        "No replica was selected to load weights")
    | some initializedReplica =>
      .ok (policyToPolicyBroadcastTrigger initializedReplica
        controller.arrivedPolicyNames controller.policy.totalSteps controller)
  else .ok controller

/-- The branch of `post_register_hook` in which all required replicas arrived. -/
def completePolicyInit (controller : Controller) : Result :=
  let rebuilt := triggerRebuildPolicyMesh config
    { controller with policy.policyInitDone := true }
  (broadcastInitialWeights rebuilt).andThen fun synchronized =>
    (Outcome.forEach (fun name => setStatus name .ready)
        synchronized.arrivedPolicyNames synchronized).andThen fun ready =>
      if config.mode = .colocated then
        startColocated config ready.arrivedPolicyNames ready
      else .ok ready

/-- The branch of `post_register_hook` for a replica that joins later. -/
def scalePolicyMesh (targetReplica : ReplicaName) (controller : Controller) : Result :=
  if (controller.policy.policyReplicas.get? targetReplica).any fun stored =>
      stored.inMesh then
    .raise controller (.assertionError "Target replica should not be in the mesh")
  else
    match firstLoadedReplica (sortedByStartTime controller.arrivedPolicyReplicas) with
    | none => .raise controller (.assertionError
        "No replica was selected to load weights")
    | some initializedReplica =>
      let rebuilt := triggerRebuildPolicyMesh config controller
      setStatus targetReplica .ready
        (policyToPolicyUnicastTrigger initializedReplica targetReplica
          rebuilt.policy.totalSteps rebuilt)

def activateValidationBeforeTrain (controller : Controller) : Controller :=
  if config.validation.enable && config.validation.valBeforeTrain then
    validationActivateDataloader config 0 controller
  else controller

/-- `PolicyStatusManager.post_register_hook`. -/
def policyPostRegisterHook (targetReplica : ReplicaName) (controller : Controller) :
    Result :=
  let gated := activateValidationBeforeTrain config controller
  if !gated.policy.policyInitDone then
    if gated.policy.nInitReplicas ≤ gated.arrivedPolicyReplicas.length then
      completePolicyInit config gated
    else .ok gated
  else scalePolicyMesh config targetReplica gated

/-- What `register` does once all atoms of the replica have arrived. -/
def policyReplicaArrived (replicaName : ReplicaName) (controller : Controller) :
    Result :=
  (setStatus replicaName .uninitialized controller).andThen fun created =>
    (if created.arrivedPolicyReplicas.length = 1 then
        initializeWeights replicaName created
      else .ok created).andThen
      (policyPostRegisterHook config replicaName)

/-- `n_init_replicas` grows with the replicas that show up before the mesh is
built. -/
def raiseInitReplicas (initDone : Bool) (nInitReplicas numReplicas : Nat) : Nat :=
  if initDone then nInitReplicas else max nInitReplicas numReplicas

def storePolicyReplica (name : ReplicaName) (replica : Replica)
    (controller : Controller) : Controller :=
  let replicas := controller.policy.policyReplicas.set name replica
  { controller with
    policy.policyReplicas := replicas
    policy.nInitReplicas := raiseInitReplicas controller.policy.policyInitDone
      controller.policy.nInitReplicas replicas.size }

/-- `PolicyStatusManager.register`. -/
def registerPolicy (atom : Atom) (now : Nat) (controller : Controller) : Result :=
  match arriveReplica atom controller.policy.policyReplicas with
  | .error exn => .raise controller exn
  | .ok replica =>
    if replica.allAtomsArrived then
      policyReplicaArrived config atom.replicaName
        (storePolicyReplica atom.replicaName (replica.startAt now) controller)
    else .ok (storePolicyReplica atom.replicaName replica controller)

end CosmosRl.Dispatcher
