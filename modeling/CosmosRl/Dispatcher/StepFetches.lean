import CosmosRl.Dispatcher.Membership

/-!
The `DataFetch` commands with all they say.

Most parts of the handlers send none, never give samples back and never take a step back;
they *hold*.
-/

namespace CosmosRl.Dispatcher

open CosmosRl.Foundation

variable {config : Config}

/-- A `DataFetch` command. -/
structure StepFetch where
  replicaName : ReplicaName
  itemsCount : Nat
  globalStep : Nat
  totalSteps : Int
  remainSamplesNum : Int
  doSave : Bool
  deriving DecidableEq, Repr

def Published.stepFetch? (published : Published) : Option StepFetch :=
  match published.message with
  | .command (.dataFetch replicaName itemsCount globalStep totalSteps remainSamplesNum doSave) =>
    some ⟨replicaName, itemsCount, globalStep, totalSteps, remainSamplesNum, doSave⟩
  | _ => none

def Controller.stepFetches (controller : Controller) : List StepFetch :=
  controller.redis.filterMap Published.stepFetch?

def checkpointSavingAt (config : Config) (currentStep : Nat) (totalSteps remain : Int)
    (requiredRollouts : Nat) : Bool :=
  checkCheckpointSaving config requiredRollouts
    { policy.currentStep := currentStep
      policy.totalSteps := totalSteps
      policy.remainSamplesNum := remain }

theorem checkCheckpointSaving_eq (requiredRollouts : Nat) (controller : Controller) :
    checkCheckpointSaving config requiredRollouts controller =
      checkpointSavingAt config controller.policy.currentStep controller.policy.totalSteps
        controller.policy.remainSamplesNum requiredRollouts := rfl

/-- No `DataFetch` is sent and nothing is given back. -/
structure Held (before after : Controller) : Prop where
  fetches_eq : after.stepFetches = before.stepFetches
  step_le : before.policy.currentStep ≤ after.policy.currentStep
  remain_le : after.policy.remainSamplesNum ≤ before.policy.remainSamplesNum

namespace Held

theorem refl (controller : Controller) : Held controller controller :=
  ⟨rfl, Nat.le_refl _, Int.le_refl _⟩

theorem trans {first second third : Controller} (left : Held first second)
    (right : Held second third) : Held first third :=
  ⟨right.fetches_eq.trans left.fetches_eq, left.step_le.trans right.step_le,
    right.remain_le.trans left.remain_le⟩

theorem silent {before after : Controller} (sameRedis : after.redis = before.redis)
    (step : before.policy.currentStep ≤ after.policy.currentStep)
    (remain : after.policy.remainSamplesNum ≤ before.policy.remainSamplesNum) :
    Held before after := by
  refine ⟨?_, step, remain⟩
  unfold Controller.stepFetches
  rw [sameRedis]

theorem published {before after : Controller} {names : List ReplicaName} {command : Command}
    (other : command.isDataFetch = false)
    (sent : after.redis = before.redis ++ names.map fun name => ⟨name, .command command⟩)
    (step : before.policy.currentStep ≤ after.policy.currentStep)
    (remain : after.policy.remainSamplesNum ≤ before.policy.remainSamplesNum) :
    Held before after := by
  refine ⟨?_, step, remain⟩
  have nothing : (names.map fun name =>
      (⟨name, .command command⟩ : Published)).filterMap Published.stepFetch? = [] := by
    rw [List.filterMap_map, List.filterMap_eq_nil_iff]
    intro name _
    cases command with
    | dataFetch => cases other
    | _ => rfl
  unfold Controller.stepFetches
  rw [sent, List.filterMap_append, nothing, List.append_nil]

theorem of_samePolicy {before after : Controller} (samePolicy : after.policy = before.policy)
    (sameRedis : after.redis = before.redis) : Held before after :=
  .silent sameRedis (by rw [samePolicy]) (by rw [samePolicy])

theorem forEach {Item : Type} {body : Item → Controller → Result} {items : List Item}
    (each : ∀ item state, Held state (body item state).state) (controller : Controller) :
    Held controller (Outcome.forEach body items controller).state :=
  Outcome.forEach_preserves (fun item _ state held => held.trans (each item state))
    (Held.refl controller)

end Held

theorem held_parts : RespectsParts Held where
  trans := Held.trans
  silent := fun redis same => .silent redis same.currentStep_eq.ge same.remain_eq.le
  command := fun other sent same =>
    .published other sent same.currentStep_eq.ge same.remain_eq.le

theorem held_setStatus (name : ReplicaName) (status : PolicyStatus) (controller : Controller) :
    Held controller (setStatus name status controller).state :=
  related_setStatus .refl (fun _ _ => .silent rfl (Nat.le_refl _) (Int.le_refl _)) name status
    controller

theorem held_triggerRebuildPolicyMesh (controller : Controller) :
    Held controller (triggerRebuildPolicyMesh config controller) :=
  held_parts.triggerRebuildPolicyMesh (related_rearrangeRolloutBuffer .refl
    (fun _ _ => .silent rfl (Nat.le_refl _) (Int.le_refl _)) _)

theorem held_updateDynamicSamplingStatistics (filteredPositive filteredNegative : Nat)
    (controller : Controller) :
    Held controller
      (updateDynamicSamplingStatistics filteredPositive filteredNegative controller) := by
  refine .silent rfl (Nat.le_refl _) ?_
  show controller.policy.remainSamplesNum - filteredPositive - filteredNegative ≤ _
  omega

theorem held_sumAndReportData (controller : Controller) :
    Held controller (sumAndReportData config controller) :=
  held_parts.sumAndReportData (fun _ => held_updateDynamicSamplingStatistics) controller

theorem held_filterOutdatedRollouts (rollouts : List Rollout) (controller : Controller) :
    Held controller (filterOutdatedRollouts config rollouts controller).2 := by
  unfold filterOutdatedRollouts
  split
  · exact .refl controller
  · refine .silent rfl (Nat.le_refl _) ?_
    have fewer : (freshRollouts config rollouts controller).length ≤ rollouts.length := by
      unfold freshRollouts
      rw [List.length_map]
      exact (List.length_filter_le _ _).trans (List.length_zipIdx.le)
    show controller.policy.remainSamplesNum - _ ≤ _
    omega

theorem held_scalePolicyMesh (name : ReplicaName) (controller : Controller) :
    Held controller (scalePolicyMesh config name controller).state :=
  held_parts.scalePolicyMesh name (held_triggerRebuildPolicyMesh controller)
    (held_setStatus name .ready)

theorem held_unregisterPolicy (name : ReplicaName) (controller : Controller) :
    Held controller (unregisterPolicy config name controller).state := by
  unfold unregisterPolicy
  split
  · exact .refl controller
  · rename_i replica _
    split
    · have removed : Held controller { controller with
          policy.policyReplicas := controller.policy.policyReplicas.erase name
          policy.status := controller.policy.status.erase name
          policy.replicaScalingLog := controller.policy.replicaScalingLog ++ [name] } :=
        .silent rfl (Nat.le_refl _) (Int.le_refl _)
      dsimp only
      split
      · exact removed
      · split
        · exact removed.trans (held_triggerRebuildPolicyMesh _)
        · exact removed
    · exact .silent rfl (Nat.le_refl _) (Int.le_refl _)

theorem held_unregister (name : ReplicaName) (controller : Controller) :
    Held controller (unregister config name controller).state := by
  unfold unregister
  split
  · exact held_unregisterPolicy name controller
  · split
    · exact held_parts.rolloutParts.unregisterRollout name controller
    · exact .refl controller

theorem held_getBatchedPrompt (n : Nat) (validationStep rankInMesh : Option Nat)
    (controller : Controller) :
    Held controller (getBatchedPrompt config n validationStep rankInMesh controller).2 := by
  rcases @getBatchedPrompt_spec config n validationStep rankInMesh controller with
    ⟨_, samePolicy, sameRedis⟩ | ⟨payloads, isEnd, base, result, samePolicy, sameRedis⟩
  · exact .of_samePolicy samePolicy sameRedis
  · rw [result]
    refine (Held.of_samePolicy samePolicy sameRedis).trans ?_
    unfold handOut
    dsimp only
    split
    · exact .refl base
    · exact .silent rfl (Nat.le_refl _) (Int.le_refl _)

end CosmosRl.Dispatcher
