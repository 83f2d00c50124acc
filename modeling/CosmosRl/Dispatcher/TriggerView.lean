import CosmosRl.Dispatcher.World

/-!
What the training trigger looks at.

The trigger reads the validation gate, the arrived replicas, the step counters,
the statuses and the buffers.  This module says which parts of the handlers
leave all of these alone, what a mesh rebuild does to them, and when issuing a
step goes through.
-/

namespace CosmosRl.Dispatcher

open CosmosRl.Foundation

variable {config : Config} {controller : Controller}

/-- The trigger would issue a step: no validation is active, some replica has
arrived, training is not finished, every status is `READY` or `REDUCED` (so every
arrived replica has been initialized), and the rollouts are enough. -/
structure TriggerEnabled (config : Config) (controller : Controller) : Prop where
  noValidation : controller.dataFetcher.activatedValIter = none
  arrived : controller.arrivedPolicyReplicas ≠ []
  notFinished : controller.trainingFinished = false
  idle : controller.allReadyOrReduced = true
  enough : controller.rolloutsEnoughForOneStep config = true

theorem triggerEnabled_iff :
    TriggerEnabled config controller ↔
      controller.dataFetcher.activatedValIter = none ∧
        controller.arrivedPolicyReplicas ≠ [] ∧ controller.trainingFinished = false ∧
        controller.allReadyOrReduced = true ∧
        controller.rolloutsEnoughForOneStep config = true :=
  ⟨fun enabled => ⟨enabled.noValidation, enabled.arrived, enabled.notFinished,
    enabled.idle, enabled.enough⟩,
   fun ⟨noValidation, arrived, notFinished, idle, enough⟩ =>
    ⟨noValidation, arrived, notFinished, idle, enough⟩⟩

instance (controller : Controller) : Decidable (TriggerEnabled config controller) :=
  decidable_of_iff _ triggerEnabled_iff.symm

/-- The polls of the trigger do exactly one of two things. -/
theorem tryTrigger_eq (controller : Controller) :
    tryTriggerDataFetchAndTraining config false controller =
      if TriggerEnabled config controller then
        issueStep config config.trainBatchPerReplica (controller.rolloutsPerStep config)
          controller
      else .ok controller := by
  unfold tryTriggerDataFetchAndTraining
  by_cases gate : controller.dataFetcher.activatedValIter.isSome = true
  · rw [if_pos gate, if_neg]
    intro enabled
    rw [enabled.noValidation] at gate
    cases gate
  · rw [if_neg gate]
    have noValidation : controller.dataFetcher.activatedValIter = none := by
      simpa using gate
    by_cases nobody : controller.arrivedPolicyReplicas = []
    · rw [if_pos nobody, if_neg]
      exact fun enabled => enabled.arrived nobody
    · rw [if_neg nobody]
      by_cases finished : controller.trainingFinished = true
      · rw [if_pos finished, if_neg]
        intro enabled
        rw [enabled.notFinished] at finished
        cases finished
      · rw [if_neg finished, if_neg (by simp)]
        by_cases poised : (controller.allReadyOrReduced &&
            controller.rolloutsEnoughForOneStep config) = true
        · rw [if_pos poised, if_pos]
          rw [Bool.and_eq_true] at poised
          exact ⟨noValidation, nobody, by simpa using finished, poised.1, poised.2⟩
        · rw [if_neg poised, if_neg]
          intro enabled
          apply poised
          rw [enabled.idle, enabled.enough]
          rfl

theorem allReadyOrReduced_iff :
    controller.allReadyOrReduced = true ↔
      ∀ name status, controller.policy.status.get? name = some status →
        status = .ready ∨ status = .reduced := by
  simp only [Controller.allReadyOrReduced, Controller.allWithStatus, List.all_eq_true,
    List.mem_cons, List.not_mem_nil, or_false, decide_eq_true_eq, Dict.values, List.mem_map]
  constructor
  · intro all name status found
    exact all status ⟨(name, status), Dict.get?_eq_some_iff.mp found, rfl⟩
  · rintro all _ ⟨⟨name, status⟩, stored, rfl⟩
    exact all name status (Dict.get?_eq_some_iff.mpr stored)

def enoughFor (config : Config) (numReplicas : Nat) (buffer : List Rollout)
    (queues : List (List Rollout)) : Bool :=
  if config.mode = .colocated then true
  else if config.dataDispatchAsRankInMesh then
    queues.all fun queue => decide (config.trainBatchPerReplica ≤ queue.length)
  else decide (config.trainBatchPerReplica * numReplicas ≤ buffer.length)

theorem rolloutsEnough_eq (controller : Controller) :
    controller.rolloutsEnoughForOneStep config =
      enoughFor config controller.arrivedPolicyReplicas.length
        controller.policy.rolloutBuffer controller.policy.rolloutBufferPerRank := by
  unfold Controller.rolloutsEnoughForOneStep enoughFor Controller.rolloutsPerStep
    Controller.totalPendingRollouts
  split
  · rfl
  · split <;> rfl

/-- `training_finished` for given counters. -/
def finishedAt (currentStep : Nat) (totalSteps : Int) : Bool :=
  decide (totalSteps ≤ currentStep) && decide (0 < totalSteps)

theorem trainingFinished_eq (controller : Controller) :
    controller.trainingFinished =
      finishedAt controller.policy.currentStep controller.policy.totalSteps := rfl

structure SameTrigger (before after : Controller) : Prop where
  shapes_eq : shapes after.policy.policyReplicas = shapes before.policy.policyReplicas
  status_eq : after.policy.status = before.policy.status
  gate_eq : after.dataFetcher.activatedValIter = before.dataFetcher.activatedValIter
  currentStep_eq : after.policy.currentStep = before.policy.currentStep
  totalSteps_eq : after.policy.totalSteps = before.policy.totalSteps
  buffer_eq : after.policy.rolloutBuffer = before.policy.rolloutBuffer
  queues_eq : after.policy.rolloutBufferPerRank = before.policy.rolloutBufferPerRank

namespace SameTrigger

theorem refl (controller : Controller) : SameTrigger controller controller :=
  ⟨rfl, rfl, rfl, rfl, rfl, rfl, rfl⟩

variable {before after : Controller}

section

variable (same : SameTrigger before after)

include same

theorem arrivedCount_eq :
    after.arrivedPolicyReplicas.length = before.arrivedPolicyReplicas.length := by
  have names : after.arrivedPolicyNames = before.arrivedPolicyNames := by
    simp only [Controller.arrivedPolicyNames, Controller.arrivedPolicyReplicas,
      arrivedNames_eq_shapes, same.shapes_eq]
  simpa [Controller.arrivedPolicyNames] using congrArg List.length names

theorem finished_eq : after.trainingFinished = before.trainingFinished := by
  rw [trainingFinished_eq, trainingFinished_eq, same.currentStep_eq, same.totalSteps_eq]

theorem idle_eq : after.allReadyOrReduced = before.allReadyOrReduced := by
  unfold Controller.allReadyOrReduced Controller.allWithStatus
  rw [same.status_eq]

theorem enough_eq :
    after.rolloutsEnoughForOneStep config = before.rolloutsEnoughForOneStep config := by
  rw [rolloutsEnough_eq, rolloutsEnough_eq, same.arrivedCount_eq, same.buffer_eq, same.queues_eq]

theorem enabled_iff : TriggerEnabled config after ↔ TriggerEnabled config before := by
  have arrived : after.arrivedPolicyReplicas ≠ [] ↔ before.arrivedPolicyReplicas ≠ [] := by
    rw [← List.length_pos_iff, ← List.length_pos_iff, same.arrivedCount_eq]
  rw [triggerEnabled_iff, triggerEnabled_iff, same.gate_eq, arrived, same.finished_eq,
    same.idle_eq, same.enough_eq]

end

end SameTrigger

structure PolicyKept (before after : Controller) : Prop where
  policy_eq : after.policy = before.policy
  gate_eq : after.dataFetcher.activatedValIter = before.dataFetcher.activatedValIter

namespace PolicyKept

theorem refl (controller : Controller) : PolicyKept controller controller := ⟨rfl, rfl⟩

theorem trans {first second third : Controller} (left : PolicyKept first second)
    (right : PolicyKept second third) : PolicyKept first third :=
  ⟨right.policy_eq.trans left.policy_eq, right.gate_eq.trans left.gate_eq⟩

theorem sameTrigger {before after : Controller} (kept : PolicyKept before after) :
    SameTrigger before after := by
  obtain ⟨policy, gate⟩ := kept
  refine ⟨?_, ?_, gate, ?_, ?_, ?_, ?_⟩ <;> rw [policy]

end PolicyKept

theorem policyKept_policyToRolloutUnicast (srcReplica dstReplica : ReplicaName)
    (weightStep : Option Nat) (totalSteps : Option Int) (controller : Controller) :
    PolicyKept controller (policyToRolloutUnicastTrigger srcReplica dstReplica weightStep
      totalSteps controller) :=
  ⟨rfl, rfl⟩

theorem policyKept_rolloutToRolloutBroadcast (srcReplica : ReplicaName)
    (dstReplicas : List ReplicaName) (weightStep : Option Nat)
    (totalSteps : Option Int) (controller : Controller) :
    PolicyKept controller (rolloutToRolloutBroadcastTrigger srcReplica dstReplicas
      weightStep totalSteps controller) := by
  unfold rolloutToRolloutBroadcastTrigger
  split
  · exact ⟨rfl, rfl⟩
  · exact PolicyKept.refl controller

theorem sameTrigger_policyToPolicyBroadcast (srcReplica : ReplicaName)
    (dstReplicas : List ReplicaName) (totalSteps : Int) (controller : Controller) :
    SameTrigger controller
      (policyToPolicyBroadcastTrigger srcReplica dstReplicas totalSteps controller) :=
  ⟨(quiet_parts.policyToPolicyBroadcast srcReplica dstReplicas totalSteps
      controller).shapes_eq, rfl, rfl, rfl, rfl, rfl, rfl⟩

theorem sameTrigger_policyToPolicyUnicast (srcReplica dstReplica : ReplicaName)
    (totalSteps : Int) (controller : Controller) :
    SameTrigger controller
      (policyToPolicyUnicastTrigger srcReplica dstReplica totalSteps controller) :=
  ⟨(quiet_parts.policyToPolicyUnicast srcReplica dstReplica totalSteps
      controller).shapes_eq, rfl, rfl, rfl, rfl, rfl, rfl⟩

theorem policyKept_rolloutParts : RespectsRolloutParts PolicyKept where
  refl := PolicyKept.refl
  trans := PolicyKept.trans
  managed := fun _ _ => ⟨rfl, rfl⟩
  rebuilt := fun _ => ⟨rfl, rfl⟩
  unicast := policyKept_policyToRolloutUnicast
  broadcast := policyKept_rolloutToRolloutBroadcast

theorem policyKept_registerRollout (atom : Atom) (now : Nat) (controller : Controller) :
    PolicyKept controller (registerRollout atom now controller).state :=
  policyKept_rolloutParts.registerRollout atom now controller

theorem policyKept_unregisterRollout (name : ReplicaName) (controller : Controller) :
    PolicyKept controller (unregisterRollout name controller).state :=
  policyKept_rolloutParts.unregisterRollout name controller

theorem activatedValIter_nextBatch (validationStep : Option Nat) (fetcher : ControllerDataFetcher) :
    (nextBatch config validationStep fetcher).2.activatedValIter =
      fetcher.activatedValIter := by
  cases validationStep with
  | none =>
    show (nextTrainBatch config fetcher).2.activatedValIter = _
    unfold nextTrainBatch
    split
    · rfl
    · dsimp only
      split
      · split <;> rfl
      · rfl
  | some step =>
    show (nextValBatch config step fetcher).2.activatedValIter = _
    unfold nextValBatch
    split <;> rfl

theorem activatedValIter_countPrompt (weightVersion : Option Nat) (idx : Nat)
    (fetcher : ControllerDataFetcher) :
    (countPrompt weightVersion idx fetcher).activatedValIter =
      fetcher.activatedValIter := by
  cases weightVersion <;> rfl

theorem activatedValIter_distributeBatch (n rankInMesh : Nat)
    (weightVersion : Option Nat) (idxs : List Nat) (fetched : Fetched) :
    (distributeBatch config n rankInMesh weightVersion idxs
      fetched).2.fetcher.activatedValIter = fetched.fetcher.activatedValIter := by
  induction idxs generalizing fetched with
  | nil => rfl
  | cons idx rest ih =>
    unfold distributeBatch
    split
    · rfl
    · split
      · rw [ih]
        exact activatedValIter_countPrompt weightVersion idx fetched.fetcher
      · rw [ih]

theorem activatedValIter_fetchRounds (n : Nat)
    (validationStep rankInMesh weightVersion : Option Nat) (rounds : Nat) (fetched : Fetched) :
    (fetchRounds config n validationStep rankInMesh weightVersion rounds
      fetched).2.fetcher.activatedValIter = fetched.fetcher.activatedValIter := by
  induction rounds generalizing fetched with
  | zero => rfl
  | succ rounds ih =>
    have drawn := @activatedValIter_nextBatch config validationStep fetched.fetcher
    unfold fetchRounds
    split
    · rename_i equality
      rw [equality] at drawn
      exact drawn
    · rename_i equality
      rw [equality] at drawn
      exact drawn
    · rename_i idxs fetcher equality
      rw [equality] at drawn
      have accepted : (acceptBatch config n rankInMesh weightVersion idxs
          { fetched with fetcher := fetcher }).2.fetcher.activatedValIter =
            fetcher.activatedValIter := by
        cases rankInMesh with
        | none => rfl
        | some rank => exact activatedValIter_distributeBatch n rank weightVersion idxs _
      split
      · rename_i acceptedEquality
        rw [acceptedEquality] at accepted
        rw [ih]
        exact accepted.trans drawn
      · exact accepted.trans drawn

theorem activatedValIter_takeFromBuffer (rankInMesh : Nat) (weightVersion : Option Nat)
    (missing : Nat) (fetched : Fetched) :
    (takeFromBuffer config rankInMesh weightVersion missing
      fetched).2.fetcher.activatedValIter = fetched.fetcher.activatedValIter := by
  induction missing generalizing fetched with
  | zero => rfl
  | succ missing ih =>
    unfold takeFromBuffer
    split
    · rfl
    · rfl
    · rw [ih]
      exact activatedValIter_countPrompt weightVersion _ fetched.fetcher

theorem activatedValIter_fetchLoop (n : Nat)
    (validationStep rankInMesh weightVersion : Option Nat) (fetched : Fetched) :
    (fetchLoop config n validationStep rankInMesh weightVersion
      fetched).2.fetcher.activatedValIter = fetched.fetcher.activatedValIter := by
  induction fetched using fetchLoop.induct config n validationStep rankInMesh
    weightVersion with
  | case1 fetched missing next continued ih =>
    have round := @activatedValIter_fetchRounds config n validationStep rankInMesh
      weightVersion (fetchRoundsFor config n validationStep) fetched
    rw [continued] at round
    rw [fetchLoop, dif_pos missing]
    split
    · rename_i other equality
      rw [continued] at equality
      cases equality
      exact ih.trans round
    · rename_i excluded
      exact absurd continued (excluded next)
  | case2 fetched missing stopped =>
    have round := @activatedValIter_fetchRounds config n validationStep rankInMesh
      weightVersion (fetchRoundsFor config n validationStep) fetched
    rw [fetchLoop, dif_pos missing]
    split
    · rename_i other equality
      exact absurd equality (stopped other)
    · exact round
  | case3 fetched enough => rw [fetchLoop, dif_neg enough]

theorem activatedValIter_fetchPayloads (n : Nat)
    (validationStep rankInMesh weightVersion : Option Nat) (fetched : Fetched) :
    (fetchPayloads config n validationStep rankInMesh weightVersion
      fetched).2.fetcher.activatedValIter = fetched.fetcher.activatedValIter := by
  unfold fetchPayloads
  split
  · split
    · rfl
    · rename_i rank
      have taken := @activatedValIter_takeFromBuffer config rank weightVersion n fetched
      split
      · rename_i equality
        rw [equality] at taken
        rw [activatedValIter_fetchLoop]
        exact taken
      · exact taken
  · split
    · rfl
    · exact activatedValIter_fetchRounds _ _ _ _ _ _

theorem activatedValIter_setDataBuffer (validationStep : Option Nat) (buffer : List Nat)
    (fetcher : ControllerDataFetcher) :
    (fetcher.setDataBuffer validationStep buffer).activatedValIter =
      fetcher.activatedValIter := by
  cases validationStep <;> rfl

theorem activatedValIter_fetcherGetBatchedPrompt (n : Nat)
    (validationStep rankInMesh weightVersion : Option Nat) (fetcher : ControllerDataFetcher) :
    (fetcherGetBatchedPrompt config n validationStep rankInMesh weightVersion
      fetcher).2.activatedValIter = fetcher.activatedValIter := by
  have prepared : (prepareVersion weightVersion fetcher).activatedValIter =
      fetcher.activatedValIter := by
    unfold prepareVersion
    split
    · rfl
    · split <;> rfl
  unfold fetcherGetBatchedPrompt
  dsimp only
  split
  · exact prepared
  · split
    · rename_i fetched equality
      rw [activatedValIter_setDataBuffer, ← prepared]
      have payloads := congrArg (fun result => result.2.fetcher.activatedValIter) equality
      dsimp only at payloads
      rw [← payloads, activatedValIter_fetchPayloads]
    · rename_i ended fetched _ equality
      rw [activatedValIter_setDataBuffer, ← prepared]
      have payloads := congrArg (fun result => result.2.fetcher.activatedValIter) equality
      dsimp only at payloads
      rw [← payloads, activatedValIter_fetchPayloads]

end CosmosRl.Dispatcher
