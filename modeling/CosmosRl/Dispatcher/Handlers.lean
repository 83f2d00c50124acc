import CosmosRl.Dispatcher.Progress

/-!
One specification for each handler.

Handlers that only poll the trigger, move buffers or talk to rollout replicas
make progress.  Registration, departure and acks of policy replicas change the
replicas and statuses once, in the way spelled out here, and make progress
before or after that.
-/

namespace CosmosRl.Dispatcher

open CosmosRl.Foundation

variable {config : Config}

/-- A property of the state every computation leaves, carried through
sequencing when the second part is only known on states with the property. -/
theorem progress_andThen {start : Controller} {first : Result}
    {second : Controller → Result} (before : Progress start first.state)
    (later : ∀ state, Progress start state → Progress state (second state).state) :
    Progress start (first.andThen second).state :=
  Outcome.andThen_holds before (before.trans (later _ before))

/-- The state in which `issueStep` starts to dispatch. -/
def issueGated (config : Config) (requiredRollouts : Nat) (controller : Controller) :
    Controller :=
  let advanced := { controller with
    policy.remainSamplesNum := controller.policy.remainSamplesNum - requiredRollouts
    policy.currentStep := controller.policy.currentStep + 1 }
  if isValidationStep config advanced.policy.currentStep advanced.policy.totalSteps then
    validationActivateDataloader config advanced.policy.currentStep advanced
  else advanced

theorem issueStep_eq (itemsCount requiredRollouts : Nat) (controller : Controller) :
    issueStep config itemsCount requiredRollouts controller =
      (dispatchRollouts config itemsCount
        (issueGated config requiredRollouts controller)).andThen fun dispatched =>
          Outcome.forEach (sendDataFetch itemsCount
            (checkCheckpointSaving config requiredRollouts dispatched))
            dispatched.arrivedPolicyNames dispatched := rfl

theorem quiet_issueGated (requiredRollouts : Nat) (controller : Controller) :
    Quiet controller.advanceStep (issueGated config requiredRollouts controller) := by
  have advanced : Quiet controller.advanceStep { controller with
      policy.remainSamplesNum := controller.policy.remainSamplesNum - requiredRollouts
      policy.currentStep := controller.policy.currentStep + 1 } :=
    ⟨rfl, rfl, rfl, rfl, rfl⟩
  unfold issueGated
  dsimp only
  split
  · exact advanced.trans (quiet_parts.validationActivateDataloader _ _)
  · exact advanced

/-- Either the dispatch raised and only the counter has moved on, or the step has
been issued. -/
theorem issueStep_spec {controller : Controller} (wellFormed : WellFormed controller)
    (itemsCount requiredRollouts : Nat) :
    let result := issueStep config itemsCount requiredRollouts controller
    (∃ exn, (dispatchRollouts config itemsCount
          (issueGated config requiredRollouts controller)).raised = some exn ∧
        result.raised = some exn ∧ Quiet controller.advanceStep result.state) ∨
      (result.raised = none ∧ Issued controller result.state) := by
  intro result
  have gated := @quiet_issueGated config requiredRollouts controller
  have quiet : Quiet controller.advanceStep
      (dispatchRollouts config itemsCount (issueGated config requiredRollouts controller)).state :=
    gated.trans (quiet_dispatchRollouts itemsCount _)
  rcases (dispatchRollouts config itemsCount
      (issueGated config requiredRollouts controller)).andThen_cases
      (fun dispatched => Outcome.forEach (sendDataFetch itemsCount
        (checkCheckpointSaving config requiredRollouts dispatched))
        dispatched.arrivedPolicyNames dispatched) with
    ⟨⟨exn, raised⟩, equality⟩ | ⟨_, equality⟩
  · refine .inl ⟨exn, raised, ?_, ?_⟩
    · rw [show result = _ from issueStep_eq itemsCount requiredRollouts controller, equality]
      exact raised
    · rw [show result = _ from issueStep_eq itemsCount requiredRollouts controller, equality]
      exact quiet
  · let dispatched := (dispatchRollouts config itemsCount
      (issueGated config requiredRollouts controller)).state
    have present : ∀ name ∈ dispatched.arrivedPolicyNames,
        name ∈ dispatched.policy.status.keys := by
      intro name membership
      rw [quiet.status_eq]
      rw [quiet.arrivedPolicyNames_eq] at membership
      exact (wellFormed.statusKeys name).mpr membership
    obtain ⟨after, sent, sameShapes, status, fetches, step, samples⟩ :=
      @forEach_sendDataFetch (fun current => current)
        (fun current => ⟨Quiet.refl current, rfl⟩) itemsCount
        (checkCheckpointSaving config requiredRollouts dispatched) _ _ present
    have resultEq : result = .ok after := by
      rw [show result = _ from issueStep_eq itemsCount requiredRollouts controller, equality]
      exact sent
    refine .inr ⟨by rw [resultEq]; rfl, ?_⟩
    rw [resultEq]
    exact issued_of_sent wellFormed quiet sameShapes status fetches step samples

variable {controller : Controller}

theorem issueStep_progress (wellFormed : WellFormed controller)
    (arrived : controller.anyArrived) (itemsCount requiredRollouts : Nat) :
    Progress controller
      (issueStep config itemsCount requiredRollouts controller).state := by
  rcases issueStep_spec wellFormed itemsCount requiredRollouts with
    ⟨_, _, _, quiet⟩ | ⟨_, issued⟩
  · exact .of_advance (.stalled quiet)
  · exact .of_advance (.issued arrived issued)

theorem anyArrived_of_replicas
    (arrived : controller.arrivedPolicyReplicas ≠ []) : controller.anyArrived := by
  unfold Controller.anyArrived Controller.arrivedPolicyNames
  simpa using arrived

theorem tryTrigger_progress {controller : Controller} (wellFormed : WellFormed controller)
    (isFakeLastCmd : Bool) :
    Progress controller
      (tryTriggerDataFetchAndTraining config isFakeLastCmd controller).state := by
  unfold tryTriggerDataFetchAndTraining
  split
  · exact Progress.refl controller
  · split
    · exact Progress.refl controller
    · rename_i arrived
      have anyArrived := anyArrived_of_replicas arrived
      split
      · exact Progress.refl controller
      · split
        · split
          · exact issueStep_progress wellFormed anyArrived 0 0
          · exact Progress.refl controller
        · split
          · exact issueStep_progress wellFormed anyArrived _ _
          · exact Progress.refl controller

theorem putRollout_progress (wellFormed : WellFormed controller) (rollout : Rollout) :
    Progress controller (putRollout config rollout controller).state := by
  unfold putRollout
  split
  · split
    · exact Progress.refl controller
    · have buffered : Quiet controller { controller with
          policy.rolloutBufferPerRank := controller.policy.rolloutBufferPerRank.modify
            (rollout.promptIdx % controller.policy.rolloutBufferPerRank.length)
            fun queue => queue ++ [rollout] } := ⟨rfl, rfl, rfl, rfl, rfl⟩
      exact (Progress.of_quiet buffered).trans
        (tryTrigger_progress (buffered.wellFormed wellFormed) false)
  · have buffered : Quiet controller { controller with
        policy.rolloutBuffer := controller.policy.rolloutBuffer ++ [rollout] } :=
      ⟨rfl, rfl, rfl, rfl, rfl⟩
    exact (Progress.of_quiet buffered).trans
      (tryTrigger_progress (buffered.wellFormed wellFormed) false)

theorem putRolloutLoop_progress (rollouts : List Rollout) (wellFormed : WellFormed controller) :
    Progress controller (putRolloutLoop config rollouts controller).state := by
  induction rollouts generalizing controller with
  | nil => exact Progress.refl controller
  | cons rollout rest ih =>
    unfold putRolloutLoop
    apply progress_andThen (putRollout_progress wellFormed rollout)
    intro put progress
    split
    · exact .of_quiet ⟨rfl, rfl, rfl, rfl, rfl⟩
    · exact ih (progress.wellFormed wellFormed)

theorem putRollouts_progress (rollouts : List Rollout) (wellFormed : WellFormed controller) :
    Progress controller (putRollouts config rollouts controller).state := by
  unfold putRollouts
  split
  · exact .of_quiet ⟨rfl, rfl, rfl, rfl, rfl⟩
  · exact putRolloutLoop_progress rollouts wellFormed

theorem quiet_filterOutdatedRollouts (rollouts : List Rollout) (controller : Controller) :
    Quiet controller (filterOutdatedRollouts config rollouts controller).2 := by
  unfold filterOutdatedRollouts
  split
  · exact Quiet.refl controller
  · exact ⟨rfl, rfl, rfl, rfl, rfl⟩

theorem putRolloutGroup_progress (report : RolloutReport) (wellFormed : WellFormed controller) :
    Progress controller (putRolloutGroup config report controller).state := by
  have counted : Quiet controller
      (if config.variant = .dapo then
        updateDynamicSamplingStatistics report.filteredPositive report.filteredNegative controller
      else controller) := by
    split
    · exact ⟨rfl, rfl, rfl, rfl, rfl⟩
    · exact Quiet.refl controller
  have filtered := counted.trans (@quiet_filterOutdatedRollouts config report.rollouts _)
  unfold putRolloutGroup
  dsimp only
  split
  · rename_i equality
    rw [equality] at filtered
    exact .of_quiet filtered
  · rename_i equality
    rw [equality] at filtered
    exact (Progress.of_quiet filtered).trans
      (putRollouts_progress _ (filtered.wellFormed wellFormed))

theorem quiet_rolloutEnd (name : ReplicaName) (controller : Controller) :
    Quiet controller (rolloutEnd name controller) :=
  ⟨rfl, rfl, rfl, rfl, rfl⟩

theorem quiet_prepareFakeStep (controller : Controller) :
    Quiet controller (prepareFakeStep controller) :=
  ⟨rfl, rfl, rfl, rfl, rfl⟩

theorem rolloutEndSignal_progress (name : ReplicaName) (wellFormed : WellFormed controller) :
    Progress controller (rolloutEndSignal config name controller).state := by
  have ended := quiet_rolloutEnd name controller
  have recomputed := ended.trans (@RespectsParts.recomputeTotalSteps config _ quiet_parts
    (some ((rolloutEnd name controller).totalPendingRollouts config)) _)
  unfold rolloutEndSignal
  dsimp only
  split
  · unfold allRolloutsHaveEnded
    dsimp only
    split
    · exact .of_quiet recomputed
    · split
      · exact .of_quiet recomputed
      · have cleared := recomputed.trans (quiet_prepareFakeStep _)
        exact (Progress.of_quiet cleared).trans
          (tryTrigger_progress (cleared.wellFormed wellFormed) true)
  · exact .of_quiet ended

theorem validationReport_progress (validationStep numResults : Nat)
    (wellFormed : WellFormed controller) :
    Progress controller (validationReportValidationResults config validationStep
      numResults controller).state := by
  rcases validationReport_cases validationStep numResults controller with same | same
  · have closed : Quiet controller (controller.validationClosed validationStep numResults) :=
      ⟨rfl, rfl, rfl, rfl, rfl⟩
    rw [same]
    exact (Progress.of_quiet closed).trans
      (tryTrigger_progress (closed.wellFormed wellFormed) false)
  · rw [same]
    exact .of_quiet ⟨rfl, rfl, rfl, rfl, rfl⟩

end CosmosRl.Dispatcher
