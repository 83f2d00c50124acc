import CosmosRl.Dispatcher.Controller
import CosmosRl.Dispatcher.RolloutParts

/-!
What the parts of a handler can change.

Most of them leave alone the replicas' atoms, the statuses, the `DataFetch`
commands sent so far, the step counter and the sample counter; they are *quiet*.
A training step is *issued* by sending one `DataFetch` to every arrived replica
and marking it `RUNNING`.  Everything a handler does besides registering and
removing replicas and recording an ack is a succession of quiet parts, issues,
and replicas becoming `READY`; an invariant of these three is an invariant of
every handler.
-/

namespace CosmosRl.Dispatcher

open CosmosRl.Foundation

variable {config : Config}

def Replica.shape (replica : Replica) : List Nat × GroupSize :=
  (replica.atoms, replica.groupSize)

def shapes (replicas : Dict ReplicaName Replica) :
    List (ReplicaName × List Nat × GroupSize) :=
  replicas.entries.map fun entry => (entry.1, entry.2.shape)

def shapeArrived (shape : List Nat × GroupSize) : Bool :=
  decide (shape.1.length = shape.2.prod)

theorem arrivedNames_eq_shapes (replicas : Dict ReplicaName Replica) :
    (allAtomsArrivedReplicas replicas).map Prod.fst =
      ((shapes replicas).filter fun entry => shapeArrived entry.2).map Prod.fst := by
  simp only [allAtomsArrivedReplicas, shapes, List.filter_map, List.map_map]
  rfl

theorem shapes_mapValues {change : ReplicaName → Replica → Replica}
    (keeps : ∀ name replica, (change name replica).shape = replica.shape)
    (replicas : Dict ReplicaName Replica) :
    shapes (replicas.mapValues change) = shapes replicas := by
  simp [shapes, Dict.mapValues, List.map_map, Function.comp_def, keeps]

theorem shapes_modify {change : Replica → Replica}
    (keeps : ∀ replica, (change replica).shape = replica.shape)
    (name : ReplicaName) (replicas : Dict ReplicaName Replica) :
    shapes (replicas.modify name change) = shapes replicas := by
  apply shapes_mapValues
  intro other replica
  split
  · exact keeps replica
  · rfl

theorem shapes_assignMeshRanks (names : List ReplicaName) (replicas : Dict ReplicaName Replica) :
    shapes (assignMeshRanks names replicas) = shapes replicas := by
  unfold assignMeshRanks
  induction meshRanks names generalizing replicas with
  | nil => rfl
  | cons rank rest ih =>
    rw [List.foldl_cons, ih]
    apply shapes_modify
    intro replica
    rfl

structure SentFetch where
  replicaName : ReplicaName
  itemsCount : Nat
  globalStep : Nat
  totalSteps : Int
  deriving DecidableEq, Repr

def Published.sentFetch? (published : Published) : Option SentFetch :=
  match published.message with
  | .command (.dataFetch replicaName itemsCount globalStep totalSteps _ _) =>
    some ⟨replicaName, itemsCount, globalStep, totalSteps⟩
  | _ => none

def Controller.sentFetches (controller : Controller) : List SentFetch :=
  controller.redis.filterMap Published.sentFetch?

def Command.isDataFetch : Command → Bool
  | .dataFetch .. => true
  | _ => false

theorem sentFetches_publishToAll {names : List ReplicaName} {command : Command}
    (other : command.isDataFetch = false) (controller : Controller) :
    (controller.publishToAll names command).sentFetches = controller.sentFetches := by
  have none_sent : ∀ name, Published.sentFetch? ⟨name, .command command⟩ = none := by
    intro name
    cases command <;> first | rfl | simp [Command.isDataFetch] at other
  have nothing : (names.map fun name =>
      (⟨name, .command command⟩ : Published)).filterMap Published.sentFetch? = [] := by
    rw [List.filterMap_map, List.filterMap_eq_nil_iff]
    intro name _
    exact none_sent name
  simp only [Controller.sentFetches, Controller.publishToAll, List.filterMap_append,
    nothing, List.append_nil]

structure SameBooks (before after : Controller) : Prop where
  shapes_eq : shapes after.policy.policyReplicas = shapes before.policy.policyReplicas
  status_eq : after.policy.status = before.policy.status
  currentStep_eq : after.policy.currentStep = before.policy.currentStep
  samples_eq : after.policy.samplesOnTheFly = before.policy.samplesOnTheFly
  remain_eq : after.policy.remainSamplesNum = before.policy.remainSamplesNum
  buffer_eq : after.policy.rolloutBuffer = before.policy.rolloutBuffer
  queues_eq : after.policy.rolloutBufferPerRank = before.policy.rolloutBufferPerRank
  initDone_eq : after.policy.policyInitDone = before.policy.policyInitDone

theorem SameBooks.of_policy {before after : Controller}
    (policy : after.policy = before.policy) : SameBooks before after := by
  refine ⟨?_, ?_, ?_, ?_, ?_, ?_, ?_, ?_⟩ <;> rw [policy]

/-- A relation of the states around a part that keeps the books, whether it sends nothing or
sends a command that starts no training step. -/
structure RespectsParts (Related : Controller → Controller → Prop) : Prop where
  trans : ∀ {first second third}, Related first second → Related second third →
    Related first third
  silent : ∀ {before after}, after.redis = before.redis → SameBooks before after →
    Related before after
  command : ∀ {before after} {names : List ReplicaName} {command : Command},
    command.isDataFetch = false →
    after.redis = before.redis ++ names.map (fun name => ⟨name, .command command⟩) →
    SameBooks before after → Related before after

namespace RespectsParts

variable {Related : Controller → Controller → Prop} (respects : RespectsParts Related)
  {controller : Controller}

include respects

theorem refl (controller : Controller) : Related controller controller :=
  respects.silent rfl (.of_policy rfl)

theorem weightResume (replica : ReplicaName) (controller : Controller) :
    Related controller (weightResumeTrigger replica controller) := by
  refine @RespectsParts.command _ respects _ _ [replica] (.weightResume replica) rfl rfl
    ⟨?_, rfl, rfl, rfl, rfl, rfl, rfl, rfl⟩
  apply shapes_modify
  intro stored
  rfl

theorem policyToPolicyBroadcast (srcReplica : ReplicaName) (dstReplicas : List ReplicaName)
    (totalSteps : Int) (controller : Controller) :
    Related controller
      (policyToPolicyBroadcastTrigger srcReplica dstReplicas totalSteps controller) := by
  refine @RespectsParts.command _ respects _ _ dstReplicas
    (.policyToPolicyBroadcast srcReplica dstReplicas totalSteps) rfl rfl
    ⟨shapes_mapValues ?_ _, rfl, rfl, rfl, rfl, rfl, rfl, rfl⟩
  intro name replica
  split <;> rfl

theorem policyToPolicyUnicast (srcReplica dstReplica : ReplicaName) (totalSteps : Int)
    (controller : Controller) :
    Related controller
      (policyToPolicyUnicastTrigger srcReplica dstReplica totalSteps controller) := by
  refine @RespectsParts.command _ respects _ _ [srcReplica, dstReplica]
    (.policyToPolicyUnicast srcReplica dstReplica totalSteps) rfl rfl
    ⟨?_, rfl, rfl, rfl, rfl, rfl, rfl, rfl⟩
  apply shapes_modify
  intro stored
  rfl

theorem policyToRolloutUnicast (srcReplica dstReplica : ReplicaName)
    (weightStep : Option Nat) (totalSteps : Option Int) (controller : Controller) :
    Related controller (policyToRolloutUnicastTrigger srcReplica dstReplica weightStep
      totalSteps controller) :=
  @RespectsParts.command _ respects _ _ [srcReplica, dstReplica]
    (.policyToRolloutUnicast srcReplica dstReplica controller.doWeightSyncCheckFlag
      (rolloutWeightsLoaded controller dstReplica) weightStep totalSteps) rfl rfl
    (.of_policy rfl)

theorem rolloutToRolloutBroadcast (srcReplica : ReplicaName)
    (dstReplicas : List ReplicaName) (weightStep : Option Nat) (totalSteps : Option Int)
    (controller : Controller) :
    Related controller (rolloutToRolloutBroadcastTrigger srcReplica dstReplicas weightStep
      totalSteps controller) := by
  unfold rolloutToRolloutBroadcastTrigger
  split
  · exact @RespectsParts.command _ respects _ _
      (dstReplicas.filter fun name => rolloutInMesh controller name)
      (.rolloutToRolloutBroadcast srcReplica dstReplicas weightStep totalSteps
        (dstReplicas.all fun name => rolloutWeightsLoaded controller name)) rfl rfl
      (.of_policy rfl)
  · exact respects.refl controller

theorem rolloutParts : RespectsRolloutParts Related where
  refl := respects.refl
  trans := respects.trans
  managed := fun _ _ => respects.silent rfl (.of_policy rfl)
  rebuilt := fun controller => @RespectsParts.command _ respects _ _
    controller.sortedRolloutNames (.buildMesh (meshRanks controller.sortedRolloutNames)) rfl
    rfl (.of_policy rfl)
  unicast := respects.policyToRolloutUnicast
  broadcast := respects.rolloutToRolloutBroadcast

theorem validationActivateDataloader (validationStep : Nat) (controller : Controller) :
    Related controller (validationActivateDataloader config validationStep controller) := by
  unfold Dispatcher.validationActivateDataloader
  split
  · exact respects.refl controller
  · exact respects.silent rfl (.of_policy rfl)

theorem activateValidationBeforeTrain (controller : Controller) :
    Related controller (activateValidationBeforeTrain config controller) := by
  unfold Dispatcher.activateValidationBeforeTrain
  split
  · exact respects.validationActivateDataloader _ _
  · exact respects.refl controller

theorem recomputeTotalSteps (remaining : Option Int) (controller : Controller) :
    Related controller (recomputeTotalSteps config remaining controller) := by
  unfold Dispatcher.recomputeTotalSteps
  split
  · exact respects.refl controller
  · split
    · exact respects.refl controller
    · exact respects.silent rfl ⟨rfl, rfl, rfl, rfl, rfl, rfl, rfl, rfl⟩

theorem triggerRebuildPolicyMesh
    (rearranged : ∀ state, Related state (rearrangeRolloutBufferAfterMeshRebuild config
      controller.sortedPolicyNames.length state)) :
    Related controller (triggerRebuildPolicyMesh config controller) := by
  let ranked : Controller := { publishBuildMesh controller.sortedPolicyNames controller with
    policy.policyReplicas := assignMeshRanks controller.sortedPolicyNames
      controller.policy.policyReplicas }
  have built : Related controller ranked :=
    @RespectsParts.command _ respects _ _ controller.sortedPolicyNames
      (.buildMesh (meshRanks controller.sortedPolicyNames)) rfl rfl
      ⟨shapes_assignMeshRanks _ _, rfl, rfl, rfl, rfl, rfl, rfl, rfl⟩
  have recomputed := respects.trans built (@recomputeTotalSteps config _ respects none ranked)
  have sized := respects.trans recomputed
    (@RespectsParts.silent _ respects _ { Dispatcher.recomputeTotalSteps config none ranked with
      dataFetcher.policyGlobalMeshSize := some controller.sortedPolicyNames.length } rfl
      (.of_policy rfl))
  exact respects.trans sized (rearranged _)

/-- The statistics of a step, if those of filtered samples are related too. -/
theorem sumAndReportData
    (filtered : config.mode = .colocated → ∀ filteredPositive filteredNegative state,
      Related state (updateDynamicSamplingStatistics filteredPositive filteredNegative state))
    (controller : Controller) :
    Related controller (sumAndReportData config controller) := by
  have folded : ∀ (reports : List (Nat × Nat)) (current : Controller),
      config.mode = .colocated → Related current (reports.foldl (fun current data =>
        updateDynamicSamplingStatistics data.1 data.2 current) current) := by
    intro reports
    induction reports with
    | nil => exact fun current _ => respects.refl current
    | cons data rest ih =>
      intro current colocated
      exact respects.trans (filtered colocated data.1 data.2 current) (ih _ colocated)
  have cleared : ∀ current : Controller,
      Related current { current with policy.reportDataList := [] } :=
    fun current => respects.silent rfl ⟨rfl, rfl, rfl, rfl, rfl, rfl, rfl, rfl⟩
  unfold Dispatcher.sumAndReportData
  dsimp only
  split
  · split
    · exact respects.refl controller
    · split
      case isTrue colocated =>
        exact respects.trans (folded _ controller colocated) (cleared _)
      case isFalse => exact cleared controller
  · exact respects.refl controller

theorem initializeWeights (name : ReplicaName) (controller : Controller) :
    Related controller (initializeWeights name controller).state :=
  respects.rolloutParts.initializeWeights
    (respects.silent rfl ⟨rfl, rfl, rfl, rfl, rfl, rfl, rfl, rfl⟩) (respects.weightResume name)

theorem broadcastInitialWeights (controller : Controller) :
    Related controller (broadcastInitialWeights controller).state := by
  unfold Dispatcher.broadcastInitialWeights
  split
  · split
    · exact respects.refl controller
    · exact respects.policyToPolicyBroadcast _ _ _ _
  · exact respects.refl controller

theorem scalePolicyMesh (name : ReplicaName)
    (rebuilt : Related controller (Dispatcher.triggerRebuildPolicyMesh config controller))
    (stated : ∀ state, Related state (setStatus name .ready state).state) :
    Related controller (scalePolicyMesh config name controller).state := by
  unfold Dispatcher.scalePolicyMesh
  split
  · exact respects.refl controller
  · split
    · exact respects.refl controller
    · apply respects.trans _ (stated _)
      exact respects.trans rebuilt (respects.policyToPolicyUnicast _ _ _ _)

end RespectsParts

variable {Related : Controller → Controller → Prop}

theorem related_setStatus (same : ∀ controller, Related controller controller)
    (stated : ∀ controller status, Related controller { controller with policy.status := status })
    (name : ReplicaName) (status : PolicyStatus) (controller : Controller) :
    Related controller (setStatus name status controller).state := by
  unfold setStatus
  split
  · split
    · exact same controller
    · exact stated controller _
  · split
    · exact stated controller _
    · exact same controller

theorem related_rearrangeRolloutBuffer
    (same : ∀ controller, Related controller controller) (queued : ∀ controller queues,
      Related controller { controller with policy.rolloutBufferPerRank := queues })
    (numReplicas : Nat) (controller : Controller) :
    Related controller
      (rearrangeRolloutBufferAfterMeshRebuild config numReplicas controller) := by
  unfold rearrangeRolloutBufferAfterMeshRebuild
  split
  · exact queued controller _
  · exact same controller

structure Quiet (before after : Controller) : Prop where
  shapes_eq : shapes after.policy.policyReplicas = shapes before.policy.policyReplicas
  status_eq : after.policy.status = before.policy.status
  sentFetches_eq : after.sentFetches = before.sentFetches
  currentStep_eq : after.policy.currentStep = before.policy.currentStep
  samples_eq : after.policy.samplesOnTheFly = before.policy.samplesOnTheFly

namespace Quiet

theorem refl (controller : Controller) : Quiet controller controller :=
  ⟨rfl, rfl, rfl, rfl, rfl⟩

theorem trans {first second third : Controller} (left : Quiet first second)
    (right : Quiet second third) : Quiet first third :=
  ⟨right.shapes_eq.trans left.shapes_eq, right.status_eq.trans left.status_eq,
    right.sentFetches_eq.trans left.sentFetches_eq,
    right.currentStep_eq.trans left.currentStep_eq,
    right.samples_eq.trans left.samples_eq⟩

theorem arrivedPolicyNames_eq {before after : Controller} (quiet : Quiet before after) :
    after.arrivedPolicyNames = before.arrivedPolicyNames := by
  simp only [Controller.arrivedPolicyNames, Controller.arrivedPolicyReplicas,
    arrivedNames_eq_shapes, quiet.shapes_eq]

theorem arrivedCount_eq {before after : Controller} (quiet : Quiet before after) :
    after.arrivedPolicyReplicas.length = before.arrivedPolicyReplicas.length := by
  have names := congrArg List.length quiet.arrivedPolicyNames_eq
  simpa [Controller.arrivedPolicyNames] using names

end Quiet

theorem quiet_parts : RespectsParts Quiet where
  trans := Quiet.trans
  silent := by
    intro before after redis same
    refine ⟨same.shapes_eq, same.status_eq, ?_, same.currentStep_eq, same.samples_eq⟩
    unfold Controller.sentFetches
    rw [redis]
  command := by
    intro before after names command other redis same
    refine ⟨same.shapes_eq, same.status_eq, ?_, same.currentStep_eq, same.samples_eq⟩
    refine Eq.trans ?_ (@sentFetches_publishToAll names command other before)
    unfold Controller.sentFetches
    rw [redis]
    rfl

theorem quiet_triggerRebuildPolicyMesh (controller : Controller) :
    Quiet controller (triggerRebuildPolicyMesh config controller) :=
  quiet_parts.triggerRebuildPolicyMesh
    (related_rearrangeRolloutBuffer Quiet.refl (fun _ _ => ⟨rfl, rfl, rfl, rfl, rfl⟩) _)

theorem quiet_sumAndReportData (controller : Controller) :
    Quiet controller (sumAndReportData config controller) :=
  quiet_parts.sumAndReportData (fun _ _ _ _ => ⟨rfl, rfl, rfl, rfl, rfl⟩) controller

theorem quiet_publishRollouts (taken : List (ReplicaName × Rollout))
    (controller : Controller) : Quiet controller (publishRollouts taken controller) := by
  unfold publishRollouts
  induction taken generalizing controller with
  | nil => exact Quiet.refl controller
  | cons item rest ih =>
    rw [List.foldl_cons]
    have first : Quiet controller (controller.publishRollout item.1 item.2) := by
      refine ⟨rfl, rfl, ?_, rfl, rfl⟩
      simp [Controller.sentFetches, Controller.publishRollout, Published.sentFetch?]
    exact first.trans (ih _)

theorem quiet_dispatchRollouts (itemsCount : Nat) (controller : Controller) :
    Quiet controller (dispatchRollouts config itemsCount controller).state := by
  unfold dispatchRollouts
  split
  · exact Quiet.refl controller
  · split
    · split
      · exact Quiet.refl controller
      · rename_i taken rest _
        have popped : Quiet controller
            { controller with policy.rolloutBufferPerRank := rest } :=
          ⟨rfl, rfl, rfl, rfl, rfl⟩
        exact popped.trans (quiet_publishRollouts _ _)
    · split
      · exact Quiet.refl controller
      · rename_i taken rest _
        have popped : Quiet controller { controller with policy.rolloutBuffer := rest } :=
          ⟨rfl, rfl, rfl, rfl, rfl⟩
        exact popped.trans (quiet_publishRollouts _ _)

end CosmosRl.Dispatcher
