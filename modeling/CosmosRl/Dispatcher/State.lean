import Mathlib.Data.List.Sort
import CosmosRl.Dispatcher.Protocol

/-!
The state of the controller process: the two status managers, the data fetcher
they share, the Redis streams they publish to, and the prompt counters of
`get_batched_prompt`.
-/

namespace CosmosRl.Dispatcher

open CosmosRl.Foundation

/-- What one replica reports with its train ack, as far as the controller's
state depends on it: `none` is the empty report of a fake step, `some` holds the
numbers of filtered samples. -/
abbrev ReportData := Option (Nat × Nat)

structure PolicyStatusManager where
  policyReplicas : Dict ReplicaName Replica := ∅
  policyInitDone : Bool := false
  firstPolicyReplicaArrived : Bool := false
  /-- `config.policy.parallelism.n_init_replicas`, which registration may raise. -/
  nInitReplicas : Nat := 1
  status : Dict ReplicaName PolicyStatus := ∅
  totalSteps : Int := 0
  currentStep : Nat := 0
  remainSamplesNum : Int := 0
  samplesOnTheFly : Int := 0
  rolloutBuffer : List Rollout := []
  rolloutBufferPerRank : List (List Rollout) := []
  onPolicyRolloutCompleted : Bool := false
  /-- Number of validation items reported for each validation step. -/
  valReportData : Dict Nat Nat := ∅
  reportDataList : List ReportData := []
  replicaScalingLog : List ReplicaName := []

structure RolloutStatusManager where
  rolloutReplicas : Dict ReplicaName Replica := ∅
  rolloutInitDone : Bool := false
  /-- `config.rollout.parallelism.n_init_replicas`, which registration may raise. -/
  nInitReplicas : Nat := 1
  replicaScalingLog : List ReplicaName := []

structure ControllerDataFetcher where
  epoch : Nat := 1
  trainDataloaderIter : List (List Nat) := []
  fetchedDataBuffer : List Nat := []
  fetchedDataBufferForValidation : List Nat := []
  dataFetchedForEachPolicyAtStep : Dict Nat (Dict Nat Nat) := ∅
  rolloutGlobalMeshSize : Option Nat := none
  policyGlobalMeshSize : Option Nat := none
  valIters : Dict Nat (List (List Nat)) := ∅
  /-- The validation step whose iterator is active. -/
  activatedValIter : Option Nat := none

structure Controller where
  policy : PolicyStatusManager := {}
  rollout : RolloutStatusManager := {}
  dataFetcher : ControllerDataFetcher := {}
  redis : List Published := []
  doWeightSyncCheckFlag : Bool := true
  weightVersionToPromptNum : Dict Nat Nat := ∅

abbrev Result := Outcome PyError Controller

def allAtomsArrivedReplicas (replicas : Dict ReplicaName Replica) :
    List (ReplicaName × Replica) :=
  replicas.entries.filter fun entry => entry.2.allAtomsArrived

/-- `sorted(..., key=lambda x: x.start_time)`, which is stable. -/
def sortedByStartTime (replicas : List (ReplicaName × Replica)) :
    List (ReplicaName × Replica) :=
  replicas.insertionSort fun first second => first.2.startTime ≤ second.2.startTime

theorem mem_sortedByStartTime {replicas : List (ReplicaName × Replica)}
    {entry : ReplicaName × Replica} :
    entry ∈ sortedByStartTime replicas ↔ entry ∈ replicas :=
  (List.perm_insertionSort _ replicas).mem_iff

@[simp]
theorem length_sortedByStartTime (replicas : List (ReplicaName × Replica)) :
    (sortedByStartTime replicas).length = replicas.length :=
  (List.perm_insertionSort _ replicas).length_eq

namespace Controller

def publishCommand (replicaName : ReplicaName) (command : Command)
    (controller : Controller) : Controller :=
  { controller with
    redis := controller.redis ++ [⟨replicaName, .command command⟩] }

def publishRollout (replicaName : ReplicaName) (rollout : Rollout)
    (controller : Controller) : Controller :=
  { controller with
    redis := controller.redis ++ [⟨replicaName, .rollout rollout⟩] }

def publishToAll (replicaNames : List ReplicaName) (command : Command)
    (controller : Controller) : Controller :=
  { controller with
    redis := controller.redis ++
      replicaNames.map fun name => ⟨name, .command command⟩ }

end Controller

/-- `WeightResumeCommand.trigger`. -/
def weightResumeTrigger (replica : ReplicaName) (controller : Controller) :
    Controller :=
  let published := controller.publishCommand replica (.weightResume replica)
  { published with
    policy.policyReplicas := published.policy.policyReplicas.modify replica
      fun stored => { stored with weightsLoadedInViewOfCommand := true } }

/-- The ranks of a `BuildMeshCommand`: positions in the list of replicas. -/
def meshRanks (replicas : List ReplicaName) : List (ReplicaName × Nat) :=
  replicas.zipIdx

/-- What `BuildMeshCommand.trigger` writes to the replicas. -/
def assignMeshRanks (replicaNames : List ReplicaName)
    (replicas : Dict ReplicaName Replica) : Dict ReplicaName Replica :=
  (meshRanks replicaNames).foldl (fun current rank =>
    current.modify rank.1 fun stored => { stored with meshRank := rank.2 }) replicas

/-- What `BuildMeshCommand.trigger` publishes. -/
def publishBuildMesh (replicaNames : List ReplicaName) (controller : Controller) :
    Controller :=
  controller.publishToAll replicaNames (.buildMesh (meshRanks replicaNames))

/-- `PolicyToPolicyBroadcastCommand.trigger`. -/
def policyToPolicyBroadcastTrigger (srcReplica : ReplicaName)
    (dstReplicas : List ReplicaName) (totalSteps : Int) (controller : Controller) :
    Controller :=
  let published := controller.publishToAll dstReplicas
    (.policyToPolicyBroadcast srcReplica dstReplicas totalSteps)
  { published with
    policy.policyReplicas := published.policy.policyReplicas.mapValues
      fun name stored =>
        if name ∈ dstReplicas then
          { stored with weightsLoadedInViewOfCommand := true }
        else stored }

/-- `PolicyToPolicyUnicastCommand.trigger`. -/
def policyToPolicyUnicastTrigger (srcReplica dstReplica : ReplicaName)
    (totalSteps : Int) (controller : Controller) : Controller :=
  let published := controller.publishToAll [srcReplica, dstReplica]
    (.policyToPolicyUnicast srcReplica dstReplica totalSteps)
  { published with
    policy.policyReplicas := published.policy.policyReplicas.modify dstReplica
      fun stored => { stored with weightsLoadedInViewOfCommand := true } }

def rolloutWeightsLoaded (controller : Controller) (replica : ReplicaName) : Bool :=
  (controller.rollout.rolloutReplicas.get? replica).any
    fun stored => stored.weightsLoadedInViewOfCommand

def rolloutInMesh (controller : Controller) (replica : ReplicaName) : Bool :=
  (controller.rollout.rolloutReplicas.get? replica).any fun stored => stored.inMesh

/-- `PolicyToRolloutUnicastCommand.trigger`. -/
def policyToRolloutUnicastTrigger (srcReplica dstReplica : ReplicaName)
    (weightStep : Option Nat) (totalSteps : Option Int) (controller : Controller) :
    Controller :=
  let published := controller.publishToAll [srcReplica, dstReplica]
    (.policyToRolloutUnicast srcReplica dstReplica
      controller.doWeightSyncCheckFlag (rolloutWeightsLoaded controller dstReplica)
      weightStep totalSteps)
  { published with
    rollout.rolloutReplicas := published.rollout.rolloutReplicas.modify dstReplica
      fun stored => { stored with weightsLoadedInViewOfCommand := true }
    doWeightSyncCheckFlag := false }

/-- `RolloutToRolloutBroadcastCommand.trigger`: nothing happens unless the source
is in the mesh, and only destinations in the mesh receive the command. -/
def rolloutToRolloutBroadcastTrigger (srcReplica : ReplicaName)
    (dstReplicas : List ReplicaName) (weightStep : Option Nat)
    (totalSteps : Option Int) (controller : Controller) : Controller :=
  if rolloutInMesh controller srcReplica then
    let targets := dstReplicas.filter fun name => rolloutInMesh controller name
    let published := controller.publishToAll targets
      (.rolloutToRolloutBroadcast srcReplica dstReplicas weightStep totalSteps
        (dstReplicas.all fun name => rolloutWeightsLoaded controller name))
    { published with
      rollout.rolloutReplicas := published.rollout.rolloutReplicas.mapValues
        fun name stored =>
          if name ∈ targets then
            { stored with weightsLoadedInViewOfCommand := true }
          else stored }
  else controller

/-- `DataFetchCommand.trigger`. -/
def dataFetchTrigger (replica : ReplicaName) (itemsCount globalStep : Nat)
    (totalSteps remainSamplesNum : Int) (doSave : Bool) (controller : Controller) :
    Controller :=
  controller.publishCommand replica
    (.dataFetch replica itemsCount globalStep totalSteps remainSamplesNum doSave)

end CosmosRl.Dispatcher
