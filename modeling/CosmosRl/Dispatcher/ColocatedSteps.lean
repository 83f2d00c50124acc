import CosmosRl.Dispatcher.StepMoves

/-!
The steps of the controller in colocated mode.

The rollouts of a step are made where the step is trained, so there is nothing to dispatch
that could be missing: whenever the step counter moves on, every arrived replica is sent a
`DataFetch` of the new step.  A handler is a succession of parts that stand still, parts that
write statuses, and steps taken this way.  The first step is announced by the registration
that completes the initial mesh; before that nothing is sent.
-/

namespace CosmosRl.Dispatcher

open CosmosRl.Foundation

variable {config : Config}

/-- No `DataFetch` is sent, the step counter stands and the same replicas have arrived. -/
structure Still (before after : Controller) : Prop where
  shapes_eq : shapes after.policy.policyReplicas = shapes before.policy.policyReplicas
  status_eq : after.policy.status = before.policy.status
  fetches_eq : after.stepFetches = before.stepFetches
  step_eq : after.policy.currentStep = before.policy.currentStep
  initDone_eq : after.policy.policyInitDone = before.policy.policyInitDone

namespace Still

theorem refl (controller : Controller) : Still controller controller :=
  ⟨rfl, rfl, rfl, rfl, rfl⟩

theorem trans {first second third : Controller} (left : Still first second)
    (right : Still second third) : Still first third :=
  ⟨right.shapes_eq.trans left.shapes_eq, right.status_eq.trans left.status_eq,
    right.fetches_eq.trans left.fetches_eq, right.step_eq.trans left.step_eq,
    right.initDone_eq.trans left.initDone_eq⟩

variable {before after : Controller}

theorem of_quiet (quiet : Quiet before after) (held : Held before after)
    (initDone : after.policy.policyInitDone = before.policy.policyInitDone) :
    Still before after :=
  ⟨quiet.shapes_eq, quiet.status_eq, held.fetches_eq, quiet.currentStep_eq, initDone⟩

theorem of_policy (samePolicy : after.policy = before.policy)
    (held : Held before after) : Still before after :=
  ⟨by rw [samePolicy], by rw [samePolicy], held.fetches_eq, by rw [samePolicy],
    by rw [samePolicy]⟩

theorem arrivedPolicyNames_eq (still : Still before after) :
    after.arrivedPolicyNames = before.arrivedPolicyNames := by
  unfold Controller.arrivedPolicyNames Controller.arrivedPolicyReplicas
  rw [arrivedNames_eq_shapes, still.shapes_eq, ← arrivedNames_eq_shapes]

theorem wellFormed (still : Still before after)
    (wellFormed : WellFormed before) : WellFormed after := by
  refine ⟨?_, ?_⟩
  · rw [still.shapes_eq]
    exact wellFormed.shapesValid
  · intro name
    rw [still.status_eq, still.arrivedPolicyNames_eq]
    exact wellFormed.statusKeys name

end Still

theorem still_parts : RespectsParts Still where
  trans := Still.trans
  silent := fun redis same => ⟨same.shapes_eq, same.status_eq,
    (held_parts.silent redis same).fetches_eq, same.currentStep_eq, same.initDone_eq⟩
  command := fun other sent same => ⟨same.shapes_eq, same.status_eq,
    (held_parts.command other sent same).fetches_eq, same.currentStep_eq, same.initDone_eq⟩

theorem still_triggerRebuildPolicyMesh (controller : Controller) :
    Still controller (triggerRebuildPolicyMesh config controller) :=
  still_parts.triggerRebuildPolicyMesh
    (related_rearrangeRolloutBuffer .refl (fun _ _ => ⟨rfl, rfl, rfl, rfl, rfl⟩) _)

theorem still_sumAndReportData (controller : Controller) :
    Still controller (sumAndReportData config controller) :=
  still_parts.sumAndReportData (fun _ _ _ _ => ⟨rfl, rfl, rfl, rfl, rfl⟩) controller

theorem still_getBatchedPrompt (n : Nat) (validationStep rankInMesh : Option Nat)
    (controller : Controller) :
    Still controller (getBatchedPrompt config n validationStep rankInMesh controller).2 := by
  have held := @held_getBatchedPrompt config n validationStep rankInMesh controller
  rcases @getBatchedPrompt_spec config n validationStep rankInMesh controller with
    ⟨_, samePolicy, _⟩ | ⟨payloads, isEnd, base, result, samePolicy, _⟩
  · exact .of_policy samePolicy held
  · rw [result] at held ⊢
    unfold handOut at held ⊢
    dsimp only at held ⊢
    split
    · rename_i isValidation
      rw [if_pos isValidation] at held
      exact .of_policy samePolicy held
    · rename_i notValidation
      rw [if_neg notValidation] at held
      refine ⟨?_, ?_, held.fetches_eq, ?_, ?_⟩ <;> simp only [samePolicy]

variable {name : ReplicaName} {controller : Controller}

theorem unregisterPolicy_still (registered : name ∈ controller.policy.policyReplicas.keys) :
    Still (controller.withoutReplica name)
      (unregisterPolicy config name controller).state := by
  have quiet := @unregisterPolicy_spec config name controller registered
  have held := @held_unregisterPolicy config name controller
  refine ⟨quiet.shapes_eq, quiet.status_eq, held.fetches_eq, quiet.currentStep_eq, ?_⟩
  unfold unregisterPolicy
  split
  · rfl
  · split
    · dsimp only
      split
      · rfl
      · split
        · exact (still_triggerRebuildPolicyMesh _).initDone_eq
        · rfl
    · rfl

structure Stepped (config : Config) (before after : Controller) : Prop where
  shapes_eq : shapes after.policy.policyReplicas = shapes before.policy.policyReplicas
  statusKeys_eq : after.policy.status.keys = before.policy.status.keys
  fetches_eq : ∃ itemsCount totalSteps remain requiredRollouts,
    after.stepFetches = before.stepFetches ++ before.arrivedPolicyNames.map fun name =>
      ⟨name, itemsCount, before.policy.currentStep + 1, totalSteps, remain,
        checkpointSavingAt config (before.policy.currentStep + 1) totalSteps remain
          requiredRollouts⟩
  step_eq : after.policy.currentStep = before.policy.currentStep + 1
  initDone_eq : after.policy.policyInitDone = before.policy.policyInitDone

inductive Stride (config : Config) : Controller → Controller → Prop
  | still {before after : Controller} : Still before after → Stride config before after
  | restatused {before : Controller} {statuses : Dict ReplicaName PolicyStatus} :
      statuses.keys = before.policy.status.keys →
      Stride config before { before with policy.status := statuses }
  | stepped {before after : Controller} :
      Stepped config before after → Stride config before after

def Strides (config : Config) : Controller → Controller → Prop :=
  Relation.ReflTransGen (Stride config)

namespace Strides

theorem refl (controller : Controller) : Strides config controller controller :=
  Relation.ReflTransGen.refl

theorem trans {first second third : Controller} (left : Strides config first second)
    (right : Strides config second third) : Strides config first third :=
  Relation.ReflTransGen.trans left right

theorem of_still {before after : Controller} (still : Still before after) :
    Strides config before after :=
  Relation.ReflTransGen.single (.still still)

theorem of_statuses {before : Controller} {statuses : Dict ReplicaName PolicyStatus}
    (sameKeys : statuses.keys = before.policy.status.keys) :
    Strides config before { before with policy.status := statuses } :=
  Relation.ReflTransGen.single (.restatused sameKeys)

theorem preserves {Holds : Controller → Prop}
    (each : ∀ before after, Holds before → Stride config before after → Holds after)
    {before after : Controller} (strides : Strides config before after)
    (holds : Holds before) : Holds after := by
  induction strides with
  | refl => exact holds
  | tail _ stride ih => exact each _ _ ih stride

end Strides

theorem strides_andThen {start : Controller} {first : Result} {second : Controller → Result}
    (before : Strides config start first.state)
    (later : Strides config first.state (second first.state).state) :
    Strides config start (first.andThen second).state :=
  Outcome.andThen_holds before (before.trans later)

section

variable (colocated : config.mode = .colocated)

include colocated

theorem stepped_issueStep (wellFormed : WellFormed controller) (itemsCount requiredRollouts : Nat) :
    Stepped config controller
      (issueStep config itemsCount requiredRollouts controller).state := by
  let gated := issueGated config requiredRollouts controller
  have quiet : Quiet controller.advanceStep gated := quiet_issueGated requiredRollouts controller
  have sameNames : gated.arrivedPolicyNames = controller.arrivedPolicyNames :=
    quiet.arrivedPolicyNames_eq
  have sameStatus : gated.policy.status = controller.policy.status := quiet.status_eq
  have sameStep : gated.policy.currentStep = controller.policy.currentStep + 1 :=
    quiet.currentStep_eq
  have sameFetches : gated.stepFetches = controller.stepFetches := by
    unfold Controller.stepFetches
    rw [redis_issueGated]
  have present : ∀ name ∈ gated.arrivedPolicyNames, name ∈ gated.policy.status.keys := by
    rw [sameNames, sameStatus]
    exact fun name member => (wellFormed.statusKeys name).mpr member
  have dispatched : dispatchRollouts config itemsCount gated = .ok gated := if_pos colocated
  have result : issueStep config itemsCount requiredRollouts controller =
      .ok (gated.announced itemsCount (checkCheckpointSaving config requiredRollouts gated)
        gated.arrivedPolicyNames) := by
    rw [issueStep_eq, dispatched, Outcome.ok_andThen, sendDataFetches_eq itemsCount _ present]
  rw [result, Outcome.ok_state]
  refine ⟨quiet.shapes_eq, ?_, ⟨itemsCount, gated.policy.totalSteps,
    gated.policy.remainSamplesNum, requiredRollouts, ?_⟩, sameStep,
    (gated_fields requiredRollouts controller).1.initDone_eq⟩
  · refine (keys_setAllStatus _ present).trans ?_
    rw [sameStatus]
  · rw [stepFetches_announced, sameFetches, checkCheckpointSaving_eq, sameStep, sameNames]

theorem strides_tryTrigger (wellFormed : WellFormed controller) (isFakeLastCmd : Bool) :
    Strides config controller
      (tryTriggerDataFetchAndTraining config isFakeLastCmd controller).state := by
  have issued : ∀ itemsCount requiredRollouts, Strides config controller
      (issueStep config itemsCount requiredRollouts controller).state :=
    fun itemsCount requiredRollouts => Relation.ReflTransGen.single
      (.stepped (stepped_issueStep colocated wellFormed itemsCount requiredRollouts))
  unfold tryTriggerDataFetchAndTraining
  split
  · exact .refl controller
  · split
    · exact .refl controller
    · split
      · exact .refl controller
      · split
        · split
          · exact issued _ _
          · exact .refl controller
        · split
          · exact issued _ _
          · exact .refl controller

theorem strides_validationReport
    (validationStep numResults : Nat) (wellFormed : WellFormed controller) :
    Strides config controller (validationReportValidationResults config validationStep
      numResults controller).state := by
  rcases validationReport_cases validationStep numResults controller with same | same
  · have still : Still controller (controller.validationClosed validationStep numResults) :=
      ⟨rfl, rfl, rfl, rfl, rfl⟩
    rw [same]
    exact (Strides.of_still still).trans
      (strides_tryTrigger colocated (still.wellFormed wellFormed) false)
  · rw [same]
    exact .of_still ⟨rfl, rfl, rfl, rfl, rfl⟩

theorem strides_finishStep (wellFormed : WellFormed controller) (step : Nat) (totalSteps : Int) :
    Strides config controller (finishStep config step totalSteps controller).state := by
  have synced := @RespectsRolloutParts.syncedWeights _ config still_parts.rolloutParts step
    totalSteps controller
  rw [finishStep_eq]
  apply strides_andThen
  · exact (Strides.of_still synced).trans
      (strides_tryTrigger colocated (synced.wellFormed wellFormed) false)
  · split
    · exact .of_still ⟨rfl, rfl, rfl, rfl, rfl⟩
    · exact .refl _

theorem strides_trainAck
    (wellFormed : WellFormed controller) (name : ReplicaName) (step : Nat) (totalSteps : Int)
    (reportData : ReportData) :
    Strides config controller
      (trainAck config name step totalSteps reportData controller).state := by
  have reported : Still (controller.withReduced name) (controller.reported name reportData) :=
    ⟨rfl, rfl, rfl, rfl, rfl⟩
  have consumed : Still (controller.withReduced name)
      ((controller.reported name reportData).consumed config) := ⟨rfl, rfl, rfl, rfl, rfl⟩
  rcases @trainAck_cases config controller wellFormed name step totalSteps reportData with
    ⟨_, _, _, same | same⟩ | ⟨known, outcome⟩
  · rw [same]
    exact .refl controller
  · rw [same]
    exact .of_still ⟨rfl, rfl, rfl, rfl, rfl⟩
  · have acked : Strides config controller (controller.withReduced name) :=
      .of_statuses (Dict.keys_set_of_mem .reduced known)
    rcases outcome with ⟨_, _, same⟩ | ⟨_, _, _, same⟩ | ⟨_, _, well, same⟩
    · rw [same]
      exact acked.trans (.of_still reported)
    · rw [same]
      exact acked.trans (.of_still consumed)
    · rw [same]
      have summed := consumed.trans (@still_sumAndReportData config _)
      have summedWell := summed.wellFormed (wellFormed.withReduced known)
      refine (acked.trans (.of_still summed)).trans ?_
      refine (Strides.of_statuses (keys_setAllStatus .ready fun name member =>
        (summedWell.statusKeys name).mpr (mem_sortedPolicyNames.mp member))).trans ?_
      exact strides_finishStep colocated well step totalSteps

end

theorem tryTrigger_of_uninitialized (wellFormed : WellFormed controller)
    (uninitialized : ∀ name status, controller.policy.status.get? name = some status →
      status = .uninitialized) :
    tryTriggerDataFetchAndTraining config false controller = .ok controller := by
  unfold tryTriggerDataFetchAndTraining
  split
  · rfl
  · split
    · rfl
    · rename_i arrived
      have notReady : ¬ controller.allReadyOrReduced = true := by
        intro ready
        obtain ⟨name, member⟩ := List.exists_mem_of_ne_nil _ (anyArrived_of_replicas arrived)
        obtain ⟨status, found⟩ := Dict.mem_keys_iff_get?.mp
          ((wellFormed.statusKeys name).mpr member)
        have same := uninitialized name status found
        rcases allReadyOrReduced_iff.mp ready name status found with isReady | isReduced
        · rw [same] at isReady
          cases isReady
        · rw [same] at isReduced
          cases isReduced
      split
      · rfl
      · rw [if_neg Bool.false_ne_true, if_neg]
        rw [Bool.and_eq_true]
        exact fun enabled => notReady enabled.1

structure Opened (before after : Controller) : Prop where
  shapes_eq : shapes after.policy.policyReplicas = shapes before.policy.policyReplicas
  statusKeys_eq : after.policy.status.keys = before.policy.status.keys
  fetches_eq : ∃ sent, after.stepFetches = before.stepFetches ++ sent ∧
    sent.map (fun fetch => (fetch.replicaName, fetch.globalStep)) =
      before.arrivedPolicyNames.map fun name => (name, before.policy.currentStep + 1)
  step_eq : after.policy.currentStep = before.policy.currentStep + 1
  initDone_eq : after.policy.policyInitDone = before.policy.policyInitDone

theorem initDone_setStatus (name : ReplicaName) (status : PolicyStatus) (controller : Controller) :
    (setStatus name status controller).state.policy.policyInitDone =
      controller.policy.policyInitDone :=
  (sameMesh_setStatus name status controller).initDone_eq

/-- What is known of a `DataFetch` without the decision about the checkpoint. -/
def StepFetch.sent (fetch : StepFetch) : SentFetch :=
  ⟨fetch.replicaName, fetch.itemsCount, fetch.globalStep, fetch.totalSteps⟩

theorem sentFetches_eq_map (controller : Controller) :
    controller.sentFetches = controller.stepFetches.map StepFetch.sent := by
  unfold Controller.sentFetches Controller.stepFetches
  rw [List.map_filterMap]
  congr 1
  funext published
  rcases published with ⟨name, command | rollout⟩
  · cases command <;> rfl
  · rfl

theorem opened_startColocated (wellFormed : WellFormed controller) :
    Opened controller
      (startColocated config controller.arrivedPolicyNames controller).state := by
  have issued := @startColocated_issued config controller wellFormed
  obtain ⟨sent, fetches, _⟩ :=
    (@startedAt_startColocated config controller.arrivedPolicyNames controller).log
  refine ⟨issued.shapes_eq, issued.statusKeys_eq, ⟨sent, fetches, ?_⟩, issued.currentStep_eq, ?_⟩
  · obtain ⟨itemsCount, totalSteps, sentFetches⟩ := issued.sentFetches_eq
    rw [sentFetches_eq_map, sentFetches_eq_map, fetches, List.map_append] at sentFetches
    have announced := List.append_cancel_left sentFetches
    have projected := congrArg
      (List.map fun fetch : SentFetch => (fetch.replicaName, fetch.globalStep)) announced
    rw [List.map_map, List.map_map] at projected
    exact projected
  · unfold startColocated
    dsimp only
    refine @Outcome.forEach_preserves _ _ _ (fun state : Controller =>
      state.policy.policyInitDone = controller.policy.policyInitDone) _ _ ?_ _ ?_
    · intro name _ state same
      exact (initDone_setStatus name .running _).trans same
    · split
      · exact (still_parts.validationActivateDataloader _ controller.advanceStep).initDone_eq
      · rfl

def Controller.arrivedReadied (controller : Controller) : Controller :=
  { controller with
    policy.status :=
      setAllStatus controller.arrivedPolicyNames .ready controller.policy.status }

theorem WellFormed.readied (wellFormed : WellFormed controller) :
    Outcome.forEach (fun name => setStatus name .ready) controller.arrivedPolicyNames
        controller = .ok controller.arrivedReadied ∧
      controller.arrivedReadied.policy.status.keys = controller.policy.status.keys := by
  have present : ∀ name ∈ controller.arrivedPolicyNames,
      name ∈ controller.policy.status.keys := fun name member =>
    (wellFormed.statusKeys name).mpr member
  exact ⟨forEach_setStatus present (by decide), keys_setAllStatus .ready present⟩

/-- The first mesh is built, the replicas become ready unless the weights have no source, and
the first step is announced. -/
theorem completePolicyInit_cases {controller : Controller} (wellFormed : WellFormed controller) :
    let result := (completePolicyInit config controller).state
    ∃ synchronized, Still { controller with policy.policyInitDone := true } synchronized ∧
      (result = synchronized ∨ result = synchronized.arrivedReadied ∨
        Opened synchronized.arrivedReadied result) := by
  intro result
  let marked : Controller := { controller with policy.policyInitDone := true }
  let synchronized := broadcastInitialWeights (triggerRebuildPolicyMesh config marked)
  have wellFormedMarked : WellFormed marked := ⟨wellFormed.shapesValid, wellFormed.statusKeys⟩
  have broadcast : Still marked synchronized.state :=
    (still_triggerRebuildPolicyMesh marked).trans (still_parts.broadcastInitialWeights _)
  have wellFormedBroadcast := broadcast.wellFormed wellFormedMarked
  obtain ⟨allReady, sameKeys⟩ := wellFormedBroadcast.readied
  let ready := synchronized.state.arrivedReadied
  have wellFormedReady : WellFormed ready := by
    refine ⟨wellFormedBroadcast.shapesValid, fun name => ?_⟩
    rw [sameKeys]
    exact wellFormedBroadcast.statusKeys name
  refine ⟨synchronized.state, broadcast, ?_⟩
  rcases synchronized.andThen_cases (fun state =>
      (Outcome.forEach (fun name => setStatus name .ready) state.arrivedPolicyNames
        state).andThen fun ready =>
          if config.mode = .colocated then
            startColocated config ready.arrivedPolicyNames ready
          else .ok ready) with ⟨_, stopped⟩ | ⟨_, continued⟩
  · exact .inl (congrArg Outcome.state stopped)
  · rw [allReady, Outcome.ok_andThen] at continued
    have resultEq : result = (if config.mode = .colocated then
        startColocated config ready.arrivedPolicyNames ready else .ok ready).state :=
      congrArg Outcome.state continued
    rw [resultEq]
    split
    · exact .inr (.inr (opened_startColocated wellFormedReady))
    · exact .inr (.inl rfl)

theorem strides_scalePolicyMesh (wellFormed : WellFormed controller)
    (arrived : name ∈ controller.arrivedPolicyNames) :
    Strides config controller (scalePolicyMesh config name controller).state := by
  unfold scalePolicyMesh
  split
  · exact .refl controller
  · split
    · exact .refl controller
    · rename_i source _
      let rebuilt := triggerRebuildPolicyMesh config controller
      let sent := policyToPolicyUnicastTrigger source name rebuilt.policy.totalSteps rebuilt
      have still : Still controller sent := by
        refine (still_triggerRebuildPolicyMesh controller).trans (.of_quiet ?_ ?_ rfl)
        · exact quiet_parts.policyToPolicyUnicast _ _ _ _
        · exact held_parts.policyToPolicyUnicast _ _ _ _
      have known : name ∈ sent.policy.status.keys := by
        rw [(still.wellFormed wellFormed).statusKeys, still.arrivedPolicyNames_eq]
        exact arrived
      show Strides config controller (setStatus name .ready sent).state
      rw [setStatus_of_mem known (by decide)]
      exact (Strides.of_still still).trans
        (.of_statuses (Dict.keys_set_of_mem PolicyStatus.ready known))

inductive Enrolled (config : Config) : Controller → Controller → Prop
  | strides {before after : Controller} :
      before.policy.policyInitDone = true → Strides config before after →
      Enrolled config before after
  | waits {before after : Controller} : Still before after → Enrolled config before after
  | opens {before gated synchronized after : Controller} :
      before.policy.policyInitDone = false → Still before gated →
      Still { gated with policy.policyInitDone := true } synchronized →
      (after = synchronized ∨ after = synchronized.arrivedReadied ∨
        Opened synchronized.arrivedReadied after) →
      Enrolled config before after

theorem enrolled_policyPostRegisterHook {before : Controller}
    (still : Still before controller) (wellFormed : WellFormed before)
    (arrived : name ∈ before.arrivedPolicyNames) :
    Enrolled config before (policyPostRegisterHook config name controller).state := by
  have gated : Still before (activateValidationBeforeTrain config controller) := by
    refine still.trans ?_
    unfold activateValidationBeforeTrain
    split
    · exact still_parts.validationActivateDataloader _ _
    · exact .refl controller
  have wellFormedGated := gated.wellFormed wellFormed
  unfold policyPostRegisterHook
  dsimp only
  cases initDone : (activateValidationBeforeTrain config controller).policy.policyInitDone with
  | false =>
    rw [Bool.not_false, if_pos rfl]
    split
    · obtain ⟨synchronized, still, opened⟩ := @completePolicyInit_cases config _ wellFormedGated
      exact .opens (gated.initDone_eq ▸ initDone) gated still opened
    · exact .waits gated
  | true =>
    rw [Bool.not_true, if_neg Bool.false_ne_true]
    refine .strides (gated.initDone_eq ▸ initDone) ((Strides.of_still gated).trans ?_)
    apply strides_scalePolicyMesh wellFormedGated
    rw [gated.arrivedPolicyNames_eq]
    exact arrived

theorem registerPolicy_enrolled {joined : Controller} (wellFormed : WellFormed joined)
    (arrived : name ∈ joined.arrivedPolicyNames) :
    Enrolled config joined ((if joined.arrivedPolicyReplicas.length = 1 then
      initializeWeights name joined else .ok joined).andThen
        (policyPostRegisterHook config name)).state := by
  have started : Still joined (if joined.arrivedPolicyReplicas.length = 1 then
      initializeWeights name joined else .ok joined).state := by
    split
    · exact still_parts.initializeWeights _ _
    · exact .refl joined
  rcases Outcome.andThen_cases _ (policyPostRegisterHook config name) with
    ⟨_, stopped⟩ | ⟨_, continued⟩
  · rw [stopped]
    exact .waits started
  · rw [continued]
    exact enrolled_policyPostRegisterHook started wellFormed arrived

end CosmosRl.Dispatcher
