import CosmosRl.Dispatcher.TriggerView

/-!
Issuing a step goes through.

Taking rollouts from the shared buffer cannot block once the buffer is long
enough, and with rank-specific dispatch it is enough that every replica has a
queue.  A poll of the trigger then leaves the trigger disabled.
-/

namespace CosmosRl.Dispatcher

open CosmosRl.Foundation

variable {config : Config}

theorem takeForEach_eq {targets : List ReplicaName} {queue : List Rollout}
    (enough : targets.length ≤ queue.length) :
    takeForEach targets queue =
      some (targets.zip queue, queue.drop targets.length) := by
  induction targets generalizing queue with
  | nil => rfl
  | cons target rest ih =>
    cases queue with
    | nil => simp at enough
    | cons rollout queue =>
      have shorter : rest.length ≤ queue.length := by simpa using enough
      simp [takeForEach, ih shorter]

theorem takePerRank_ok {itemsCount : Nat} {targets : List ReplicaName}
    {queues : List (List Rollout)} (built : targets.length ≤ queues.length)
    (enough : ∀ queue ∈ queues, itemsCount ≤ queue.length) :
    ∃ taken rest, takePerRank itemsCount targets queues = .ok (taken, rest) ∧
      rest.length = queues.length := by
  induction targets generalizing queues with
  | nil => exact ⟨[], queues, rfl, rfl⟩
  | cons target targets ih =>
    cases queues with
    | nil => simp at built
    | cons queue queues =>
      obtain ⟨taken, rest, equality, sameLength⟩ :=
        ih (by simpa using built) (fun other membership => enough other (by simp [membership]))
      have long : ¬ (sortQueueByPromptIdx queue).length < itemsCount := by
        have length : (sortQueueByPromptIdx queue).length = queue.length :=
          (List.perm_insertionSort _ queue).length_eq
        have bound := enough queue (by simp)
        omega
      refine ⟨((sortQueueByPromptIdx queue).take itemsCount).map
          (fun rollout => (target, rollout)) ++ taken,
        (sortQueueByPromptIdx queue).drop itemsCount :: rest, ?_, ?_⟩
      · unfold takePerRank
        dsimp only
        rw [if_neg long, equality]
      · simp [sameLength]

theorem policy_publishRollouts (taken : List (ReplicaName × Rollout)) (controller : Controller) :
    (publishRollouts taken controller).policy = controller.policy := by
  unfold publishRollouts
  induction taken generalizing controller with
  | nil => rfl
  | cons item rest ih =>
    rw [List.foldl_cons, ih]
    rfl

theorem length_targets (itemsCount : Nat) (names : List ReplicaName) :
    (List.replicate itemsCount names).flatten.length = itemsCount * names.length := by
  simp

/-- With rank-specific dispatch every replica has a queue when the trigger is enabled. -/
def QueuesBuilt (config : Config) (controller : Controller) : Prop :=
  config.mode ≠ .colocated → config.dataDispatchAsRankInMesh = true →
    TriggerEnabled config controller →
    controller.arrivedPolicyReplicas.length ≤
      controller.policy.rolloutBufferPerRank.length

variable {controller : Controller}

/-- Behind an enabled trigger no `get` is made on an empty queue. -/
theorem dispatchRollouts_ok {gated : Controller}
    (enabled : TriggerEnabled config controller) (built : QueuesBuilt config controller)
    (sameReplicas : gated.policy.policyReplicas = controller.policy.policyReplicas)
    (sameBuffer : gated.policy.rolloutBuffer = controller.policy.rolloutBuffer)
    (sameQueues : gated.policy.rolloutBufferPerRank =
      controller.policy.rolloutBufferPerRank) :
    (dispatchRollouts config config.trainBatchPerReplica gated).raised = none ∧
      (dispatchRollouts config config.trainBatchPerReplica
        gated).state.policy.rolloutBufferPerRank.length =
          controller.policy.rolloutBufferPerRank.length := by
  have enough := enabled.enough
  rw [rolloutsEnough_eq] at enough
  have arrived : gated.arrivedPolicyReplicas = controller.arrivedPolicyReplicas := by
    unfold Controller.arrivedPolicyReplicas
    rw [sameReplicas]
  unfold enoughFor at enough
  unfold dispatchRollouts
  by_cases colocated : config.mode = .colocated
  · rw [if_pos colocated]
    exact ⟨rfl, congrArg List.length sameQueues⟩
  · rw [if_neg colocated] at enough ⊢
    by_cases byRank : config.dataDispatchAsRankInMesh = true
    · rw [if_pos byRank] at enough ⊢
      have long : ∀ queue ∈ controller.policy.rolloutBufferPerRank,
          config.trainBatchPerReplica ≤ queue.length := by
        simpa using enough
      have count : gated.sortedPolicyNames.length ≤
          controller.policy.rolloutBufferPerRank.length := by
        have bound := built colocated byRank enabled
        simpa [Controller.sortedPolicyNames, arrived] using bound
      obtain ⟨taken, rest, equality, sameLength⟩ := takePerRank_ok count long
      rw [sameQueues, equality]
      refine ⟨rfl, ?_⟩
      show (publishRollouts taken { gated with
        policy.rolloutBufferPerRank := rest }).policy.rolloutBufferPerRank.length = _
      rw [policy_publishRollouts]
      exact sameLength
    · rw [if_neg byRank] at enough ⊢
      have long : config.trainBatchPerReplica * gated.arrivedPolicyNames.length ≤
          controller.policy.rolloutBuffer.length := by
        simpa [Controller.arrivedPolicyNames, arrived] using enough
      have taken := @takeForEach_eq
        (List.replicate config.trainBatchPerReplica gated.arrivedPolicyNames).flatten
        controller.policy.rolloutBuffer (by rw [length_targets]; exact long)
      rw [sameBuffer, taken]
      refine ⟨rfl, ?_⟩
      show (publishRollouts _ { gated with policy.rolloutBuffer := _ }
        ).policy.rolloutBufferPerRank.length = _
      rw [policy_publishRollouts, ← sameQueues]

/-- The replicas and the length of the run are left alone. -/
structure SameMesh (before after : Controller) : Prop where
  replicas_eq : after.policy.policyReplicas = before.policy.policyReplicas
  initDone_eq : after.policy.policyInitDone = before.policy.policyInitDone
  totalSteps_eq : after.policy.totalSteps = before.policy.totalSteps

theorem SameMesh.trans {first second third : Controller} (left : SameMesh first second)
    (right : SameMesh second third) : SameMesh first third :=
  ⟨right.replicas_eq.trans left.replicas_eq, right.initDone_eq.trans left.initDone_eq,
    right.totalSteps_eq.trans left.totalSteps_eq⟩

theorem sameMesh_setStatus (name : ReplicaName) (status : PolicyStatus) (controller : Controller) :
    SameMesh controller (setStatus name status controller).state := by
  unfold setStatus
  split
  · split
    · exact ⟨rfl, rfl, rfl⟩
    · exact ⟨rfl, rfl, rfl⟩
  · split
    · exact ⟨rfl, rfl, rfl⟩
    · exact ⟨rfl, rfl, rfl⟩

theorem queues_setStatus (name : ReplicaName) (status : PolicyStatus) (controller : Controller) :
    (setStatus name status controller).state.policy.rolloutBufferPerRank =
      controller.policy.rolloutBufferPerRank := by
  unfold setStatus
  split
  · split <;> rfl
  · split <;> rfl

theorem gated_fields (requiredRollouts : Nat) (controller : Controller) :
    let gated := issueGated config requiredRollouts controller
    SameMesh controller gated ∧
      gated.policy.rolloutBuffer = controller.policy.rolloutBuffer ∧
      gated.policy.rolloutBufferPerRank = controller.policy.rolloutBufferPerRank ∧
      gated.policy.currentStep = controller.policy.currentStep + 1 := by
  unfold issueGated validationActivateDataloader
  dsimp only
  split
  · split
    · exact ⟨⟨rfl, rfl, rfl⟩, rfl, rfl, rfl⟩
    · exact ⟨⟨rfl, rfl, rfl⟩, rfl, rfl, rfl⟩
  · exact ⟨⟨rfl, rfl, rfl⟩, rfl, rfl, rfl⟩

theorem sameMesh_dispatchRollouts (itemsCount : Nat) (controller : Controller) :
    SameMesh controller (dispatchRollouts config itemsCount controller).state := by
  have published : ∀ (taken : List (ReplicaName × Rollout)) (current : Controller),
      SameMesh current (publishRollouts taken current) := by
    intro taken current
    have same := policy_publishRollouts taken current
    exact ⟨by rw [same], by rw [same], by rw [same]⟩
  unfold dispatchRollouts
  split
  · exact ⟨rfl, rfl, rfl⟩
  · split
    · split
      · exact ⟨rfl, rfl, rfl⟩
      · rename_i taken rest _
        have popped : SameMesh controller
            { controller with policy.rolloutBufferPerRank := rest } := ⟨rfl, rfl, rfl⟩
        exact popped.trans (published taken _)
    · split
      · exact ⟨rfl, rfl, rfl⟩
      · rename_i taken rest _
        have popped : SameMesh controller { controller with policy.rolloutBuffer := rest } :=
          ⟨rfl, rfl, rfl⟩
        exact popped.trans (published taken _)

theorem sameMesh_issueStep (itemsCount requiredRollouts : Nat) (controller : Controller) :
    SameMesh controller
      (issueStep config itemsCount requiredRollouts controller).state := by
  rw [issueStep_eq]
  have dispatched : SameMesh controller (dispatchRollouts config itemsCount
      (issueGated config requiredRollouts controller)).state :=
    (gated_fields requiredRollouts controller).1.trans (sameMesh_dispatchRollouts _ _)
  refine @Outcome.andThen_preserves _ _ (SameMesh controller) _ _ dispatched ?_
  intro state same
  refine @Outcome.forEach_preserves _ _ _ (SameMesh controller) _ _ ?_ _ same
  intro name _ current sameCurrent
  let sent := dataFetchTrigger name itemsCount current.policy.currentStep
    current.policy.totalSteps current.policy.remainSamplesNum
    (checkCheckpointSaving config requiredRollouts state) current
  have sentSame : SameMesh controller sent := sameCurrent.trans ⟨rfl, rfl, rfl⟩
  exact sentSame.trans (sameMesh_setStatus name .running sent)

theorem queues_issueStep (itemsCount requiredRollouts : Nat) (controller : Controller) :
    (issueStep config itemsCount requiredRollouts
        controller).state.policy.rolloutBufferPerRank =
      (dispatchRollouts config itemsCount
        (issueGated config requiredRollouts
          controller)).state.policy.rolloutBufferPerRank := by
  rw [issueStep_eq]
  let queues := (dispatchRollouts config itemsCount (issueGated config requiredRollouts
    controller)).state.policy.rolloutBufferPerRank
  refine @Outcome.andThen_preserves _ _
    (fun current : Controller => current.policy.rolloutBufferPerRank = queues) _ _ rfl ?_
  intro state same
  refine @Outcome.forEach_preserves _ _ _
    (fun current : Controller => current.policy.rolloutBufferPerRank = queues) _ _ ?_ _ same
  intro name _ current sameCurrent
  exact (queues_setStatus name .running _).trans sameCurrent

/-- A step that the trigger allows is issued to all replicas. -/
theorem issueStep_of_enabled (wellFormed : WellFormed controller)
    (enabled : TriggerEnabled config controller) (built : QueuesBuilt config controller) :
    let result := issueStep config config.trainBatchPerReplica
      (controller.rolloutsPerStep config) controller
    result.raised = none ∧ Issued controller result.state ∧
      result.state.policy.rolloutBufferPerRank.length =
        controller.policy.rolloutBufferPerRank.length := by
  intro result
  obtain ⟨same, sameBuffer, sameQueues, _⟩ :=
    @gated_fields config (controller.rolloutsPerStep config) controller
  obtain ⟨dispatched, queueCount⟩ :=
    dispatchRollouts_ok enabled built same.replicas_eq sameBuffer sameQueues
  rcases @issueStep_spec config controller wellFormed config.trainBatchPerReplica
    (controller.rolloutsPerStep config) with ⟨exn, failed, _, _⟩ | ⟨raised, issued⟩
  · rw [dispatched] at failed
    cases failed
  · refine ⟨raised, issued, ?_⟩
    rw [← queueCount, ← queues_issueStep]

theorem Issued.not_enabled {before after : Controller} (wellFormed : WellFormed before)
    (arrived : before.anyArrived) (issued : Issued before after) :
    ¬ TriggerEnabled config after := by
  intro enabled
  obtain ⟨name, present⟩ := List.exists_mem_of_ne_nil _ arrived
  have known : name ∈ after.policy.status.keys := by
    rw [issued.statusKeys_eq]
    exact (wellFormed.statusKeys name).mpr present
  obtain ⟨status, found⟩ := Dict.mem_keys_iff_get?.mp known
  have running := issued.allRunning name status found
  rcases allReadyOrReduced_iff.mp enabled.idle name status found with ready | reduced
  · rw [running] at ready
    cases ready
  · rw [running] at reduced
    cases reduced

/-- A poll issues what it can: afterwards there is nothing left to issue. -/
theorem tryTrigger_not_enabled (wellFormed : WellFormed controller)
    (built : QueuesBuilt config controller) :
    ¬ TriggerEnabled config
      (tryTriggerDataFetchAndTraining config false controller).state := by
  rw [tryTrigger_eq]
  by_cases enabled : TriggerEnabled config controller
  · rw [if_pos enabled]
    exact (issueStep_of_enabled wellFormed enabled built).2.1.not_enabled wellFormed
      (anyArrived_of_replicas enabled.arrived)
  · rw [if_neg enabled]
    exact enabled

end CosmosRl.Dispatcher
