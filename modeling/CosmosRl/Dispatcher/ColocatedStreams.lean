import CosmosRl.Dispatcher.ColocatedSteps
import CosmosRl.Dispatcher.EpochSaving

/-!
The `DataFetch` commands of one replica in colocated mode.

A replica gets one command for every step from its first one on, and every command but the
first carries the decision about the checkpoint that the controller made for its step.
-/

namespace CosmosRl.Dispatcher

open CosmosRl.Foundation List

variable {config : Config}

/-- The `DataFetch` commands a replica has been sent, oldest first. -/
def Controller.fetchesOf (name : ReplicaName) (controller : Controller) : List StepFetch :=
  controller.stepFetches.filter fun fetch => decide (fetch.replicaName = name)

structure Follows (config : Config) (fetch next : StepFetch) : Prop where
  step_eq : next.globalStep = fetch.globalStep + 1
  decided : ∃ requiredRollouts, next.doSave = checkpointSavingAt config next.globalStep
    next.totalSteps next.remainSamplesNum requiredRollouts

structure InStep (config : Config) (controller : Controller) : Prop where
  wellFormed : WellFormed controller
  follows : ∀ name, (controller.fetchesOf name).IsChain (Follows config)
  current : ∀ name ∈ controller.arrivedPolicyNames,
    ∀ fetch ∈ (controller.fetchesOf name).getLast?,
      fetch.globalStep = controller.policy.currentStep

structure Unopened (controller : Controller) : Prop where
  fetches_eq : controller.stepFetches = []
  uninitialized : ∀ name status, controller.policy.status.get? name = some status →
    status = .uninitialized

structure Regular (config : Config) (controller : Controller) : Prop where
  inStep : InStep config controller
  unopened : controller.policy.policyInitDone = false → Unopened controller

theorem filter_announced {Item : Type} {announce : ReplicaName → Item}
    {nameOf : Item → ReplicaName} (named : ∀ name, nameOf (announce name) = name)
    {names : List ReplicaName} (distinct : names.Nodup) (name : ReplicaName) :
    (names.map announce).filter (fun item => decide (nameOf item = name)) =
      if name ∈ names then [announce name] else [] := by
  induction names with
  | nil => rfl
  | cons first rest ih =>
    obtain ⟨absent, distinctRest⟩ := nodup_cons.mp distinct
    rw [map_cons, filter_cons, ih distinctRest, named]
    by_cases same : first = name
    · subst same
      simp [absent]
    · simp [same, Ne.symm same]

variable {before after controller : Controller}

theorem fetchesOf_of_eq (fetches : after.stepFetches = before.stepFetches) (name : ReplicaName) :
    after.fetchesOf name = before.fetchesOf name := by
  unfold Controller.fetchesOf
  rw [fetches]

theorem Still.inStep (still : Still before after)
    (inStep : InStep config before) : InStep config after := by
  refine ⟨still.wellFormed inStep.wellFormed, ?_, ?_⟩
  · intro name
    rw [fetchesOf_of_eq still.fetches_eq]
    exact inStep.follows name
  · intro name arrived
    rw [fetchesOf_of_eq still.fetches_eq, still.step_eq]
    rw [still.arrivedPolicyNames_eq] at arrived
    exact inStep.current name arrived

theorem Still.unopened (still : Still before after)
    (unopened : Unopened before) : Unopened after := by
  refine ⟨still.fetches_eq.trans unopened.fetches_eq, ?_⟩
  rw [still.status_eq]
  exact unopened.uninitialized

theorem Still.regular (still : Still before after)
    (regular : Regular config before) : Regular config after := by
  refine ⟨still.inStep regular.inStep, ?_⟩
  intro notDone
  rw [still.initDone_eq] at notDone
  exact still.unopened (regular.unopened notDone)

theorem wellFormed_of_shapes
    (sameShapes : shapes after.policy.policyReplicas = shapes before.policy.policyReplicas)
    (sameKeys : after.policy.status.keys = before.policy.status.keys)
    (wellFormed : WellFormed before) :
    WellFormed after ∧ after.arrivedPolicyNames = before.arrivedPolicyNames := by
  have sameNames : after.arrivedPolicyNames = before.arrivedPolicyNames := by
    unfold Controller.arrivedPolicyNames Controller.arrivedPolicyReplicas
    rw [arrivedNames_eq_shapes, sameShapes, ← arrivedNames_eq_shapes]
  refine ⟨⟨?_, ?_⟩, sameNames⟩
  · rw [sameShapes]
    exact wellFormed.shapesValid
  · intro name
    rw [sameKeys, sameNames]
    exact wellFormed.statusKeys name

/-- A step continues the commands of every replica that has arrived. -/
theorem Stepped.inStep (stepped : Stepped config before after)
    (inStep : InStep config before) : InStep config after := by
  obtain ⟨sameShapes, sameKeys, ⟨itemsCount, totalSteps, remain, requiredRollouts, fetches⟩,
    step, _⟩ := stepped
  obtain ⟨wellFormed, sameNames⟩ := wellFormed_of_shapes sameShapes sameKeys inStep.wellFormed
  let announce : ReplicaName → StepFetch := fun name =>
    ⟨name, itemsCount, before.policy.currentStep + 1, totalSteps, remain,
      checkpointSavingAt config (before.policy.currentStep + 1) totalSteps remain requiredRollouts⟩
  have extended : ∀ name, after.fetchesOf name = before.fetchesOf name ++
      if name ∈ before.arrivedPolicyNames then [announce name] else [] := by
    intro name
    unfold Controller.fetchesOf
    rw [fetches, filter_append]
    congr 1
    exact filter_announced (fun _ => rfl) (nodup_arrivedPolicyNames before) name
  refine ⟨wellFormed, ?_, ?_⟩
  · intro name
    rw [extended]
    by_cases arrived : name ∈ before.arrivedPolicyNames
    · rw [if_pos arrived]
      apply (inStep.follows name).append (isChain_singleton _)
      intro fetch isLast next isNext
      cases Option.mem_some.mp isNext
      refine ⟨?_, requiredRollouts, rfl⟩
      show before.policy.currentStep + 1 = _
      rw [inStep.current name arrived fetch isLast]
    · rw [if_neg arrived, append_nil]
      exact inStep.follows name
  · intro name arrived fetch isLast
    rw [sameNames] at arrived
    rw [extended, if_pos arrived, getLast?_append] at isLast
    cases Option.mem_some.mp isLast
    exact step.symm

theorem Stride.inStep (stride : Stride config before after)
    (inStep : InStep config before) : InStep config after := by
  cases stride with
  | still still => exact still.inStep inStep
  | stepped stepped => exact stepped.inStep inStep
  | restatused sameKeys =>
    refine ⟨⟨inStep.wellFormed.shapesValid, fun name => ?_⟩, inStep.follows, inStep.current⟩
    rw [sameKeys]
    exact inStep.wellFormed.statusKeys name

theorem Stride.initDone_eq (stride : Stride config before after) :
    after.policy.policyInitDone = before.policy.policyInitDone := by
  cases stride with
  | still still => exact still.initDone_eq
  | stepped stepped => exact stepped.initDone_eq
  | restatused sameKeys => rfl

section

variable (strides : Strides config before after)

include strides

theorem Strides.inStep (inStep : InStep config before) : InStep config after :=
  strides.preserves (fun _ _ holds stride => stride.inStep holds) inStep

theorem Strides.initDone_eq : after.policy.policyInitDone = before.policy.policyInitDone :=
  @Strides.preserves config
    (fun state => state.policy.policyInitDone = before.policy.policyInitDone)
    (fun _ _ same stride => stride.initDone_eq.trans same) _ _ strides rfl

theorem Strides.regular
    (initDone : before.policy.policyInitDone = true) (inStep : InStep config before) :
    Regular config after := by
  refine ⟨strides.inStep inStep, ?_⟩
  intro notDone
  rw [strides.initDone_eq, initDone] at notDone
  cases notDone

end

/-- The first step starts the commands of every replica. -/
theorem Opened.inStep (opened : Opened before after)
    (nothing : before.stepFetches = []) (inStep : InStep config before) :
    InStep config after := by
  obtain ⟨sameShapes, sameKeys, ⟨sent, fetches, announced⟩, step, _⟩ := opened
  obtain ⟨wellFormed, sameNames⟩ := wellFormed_of_shapes sameShapes sameKeys inStep.wellFormed
  have projected : ∀ name, (after.fetchesOf name).map
        (fun fetch => (fetch.replicaName, fetch.globalStep)) =
      if name ∈ before.arrivedPolicyNames then [(name, before.policy.currentStep + 1)]
      else [] := by
    intro name
    have filtered := @filter_announced _ (fun name => (name, before.policy.currentStep + 1))
      Prod.fst (fun _ => rfl) _ (nodup_arrivedPolicyNames before) name
    rw [← announced, filter_map] at filtered
    unfold Controller.fetchesOf
    rw [fetches, nothing, nil_append]
    exact filtered
  have single : ∀ name fetch rest, after.fetchesOf name = fetch :: rest →
      rest = [] ∧ fetch.globalStep = after.policy.currentStep := by
    intro name fetch rest isCons
    have pairs := projected name
    rw [isCons] at pairs
    split at pairs
    · obtain ⟨same, none⟩ := List.cons.inj pairs
      refine ⟨map_eq_nil_iff.mp none, ?_⟩
      rw [step]
      exact congrArg Prod.snd same
    · cases pairs
  refine ⟨wellFormed, ?_, ?_⟩
  · intro name
    cases stream : after.fetchesOf name with
    | nil => exact isChain_nil
    | cons fetch rest =>
      rw [(single name fetch rest stream).1]
      exact isChain_singleton _
  · intro name _ fetch isLast
    cases stream : after.fetchesOf name with
    | nil =>
      rw [stream] at isLast
      cases isLast
    | cons first rest =>
      obtain ⟨none, stepIs⟩ := single name first rest stream
      rw [stream, none] at isLast
      cases Option.mem_some.mp isLast
      exact stepIs

/-- A replica registers before it is sent anything and acknowledges only what it was sent.
The rollouts of colocated mode stay where they are made: neither they nor their end are
posted. -/
def ColocatedAllowed (controller : Controller) : Event → Prop
  | .registerPolicy atom _ => controller.fetchesOf atom.replicaName = []
  | .trainAck name _ _ _ => controller.fetchesOf name ≠ []
  | .putRolloutGroup _ => False
  | .rolloutEndSignal _ => False
  | _ => True

instance (controller : Controller) :
    (event : Event) → Decidable (ColocatedAllowed controller event)
  | .registerPolicy .. => inferInstanceAs (Decidable (_ = _))
  | .trainAck .. => inferInstanceAs (Decidable (_ ≠ _))
  | .putRolloutGroup .. | .rolloutEndSignal .. => .isFalse id
  | .registerRollout .. | .unregister .. | .getBatchedPrompt .. | .validationReport ..
  | .tryTriggerDataFetchAndTraining => .isTrue trivial

theorem regular_of_strides (regular : Regular config before)
    (opened : before.policy.policyInitDone = true → Strides config before after)
    (unopened : Unopened before → before.policy.policyInitDone = false → Still before after) :
    Regular config after := by
  cases initDone : before.policy.policyInitDone with
  | true => exact (opened initDone).regular initDone regular.inStep
  | false => exact (unopened (regular.unopened initDone) initDone).regular regular

theorem InStep.joined {name : ReplicaName}
    (inStep : InStep config before) (wellFormed : WellFormed after)
    (fetches : after.stepFetches = before.stepFetches)
    (step : after.policy.currentStep = before.policy.currentStep)
    (unsent : before.fetchesOf name = [])
    (others : ∀ other ∈ after.arrivedPolicyNames, other = name ∨
      other ∈ before.arrivedPolicyNames) :
    InStep config after := by
  refine ⟨wellFormed, ?_, ?_⟩
  · intro other
    rw [fetchesOf_of_eq fetches]
    exact inStep.follows other
  · intro other arrived
    rw [fetchesOf_of_eq fetches, step]
    rcases others other arrived with same | earlier
    · rw [same, unsent]
      intro fetch isLast
      cases isLast
    · exact inStep.current other earlier

theorem Enrolled.regular (enrolled : Enrolled config before after)
    (regular : Regular config before) : Regular config after := by
  cases enrolled with
  | strides initDone strides => exact strides.regular initDone regular.inStep
  | waits still => exact still.regular regular
  | opens notDone gatedStill still opened =>
    rename_i gated synchronized
    have gatedInStep := gatedStill.inStep regular.inStep
    have markedInStep : InStep config { gated with policy.policyInitDone := true } :=
      ⟨⟨gatedInStep.wellFormed.shapesValid, gatedInStep.wellFormed.statusKeys⟩,
        gatedInStep.follows, gatedInStep.current⟩
    have synchronizedInStep := still.inStep markedInStep
    have readiedInStep : InStep config synchronized.arrivedReadied :=
      Stride.inStep (.restatused synchronizedInStep.wellFormed.readied.2) synchronizedInStep
    have nothing : synchronized.arrivedReadied.stepFetches = [] :=
      still.fetches_eq.trans (gatedStill.unopened (regular.unopened notDone)).fetches_eq
    have initDone : synchronized.policy.policyInitDone = true := still.initDone_eq
    rcases opened with same | same | opened
    · rw [same]
      exact (Strides.refl synchronized).regular initDone synchronizedInStep
    · rw [same]
      exact (Strides.refl synchronized.arrivedReadied).regular initDone readiedInStep
    · refine ⟨opened.inStep nothing readiedInStep, ?_⟩
      intro stillNotDone
      rw [opened.initDone_eq] at stillNotDone
      exact absurd (initDone.symm.trans stillNotDone) Bool.true_eq_false.mp

theorem regular_registerPolicy (regular : Regular config controller)
    (atom : Atom) (now : Nat) (unsent : controller.fetchesOf atom.replicaName = []) :
    Regular config (registerPolicy config atom now controller).state := by
  have wellFormed := regular.inStep.wellFormed
  rcases @registerPolicy_cases config controller wellFormed atom now with
    same | ⟨replica, valid, notArrived, ⟨incomplete, same⟩ | ⟨_, joined, arrived, same⟩⟩
  · rw [same]
    exact regular
  · rw [same]
    refine ⟨?_, ?_⟩
    · refine regular.inStep.joined (wellFormed.store valid notArrived incomplete) rfl rfl unsent ?_
      intro other arrived
      exact (mem_arrived_store.mp arrived).imp And.left And.right
    · intro notDone
      exact ⟨(regular.unopened notDone).fetches_eq, (regular.unopened notDone).uninitialized⟩
  · rw [same]
    refine (registerPolicy_enrolled joined arrived).regular ⟨?_, ?_⟩
    · refine regular.inStep.joined joined rfl rfl unsent ?_
      intro other arrived
      exact (mem_arrived_store.mp arrived).imp And.left And.right
    · intro notDone
      refine ⟨(regular.unopened notDone).fetches_eq, ?_⟩
      intro name status found
      rw [show (controller.withArrived atom.replicaName replica).policy.status =
        controller.policy.status.set atom.replicaName .uninitialized from rfl,
        Dict.get?_set] at found
      split at found
      · exact (Option.some.inj found).symm
      · exact (regular.unopened notDone).uninitialized name status found

theorem regular_unregister (regular : Regular config controller) (name : ReplicaName) :
    Regular config (unregister config name controller).state := by
  have wellFormed := regular.inStep.wellFormed
  unfold unregister
  split
  · rename_i registered
    refine (unregisterPolicy_still registered).regular
      ⟨⟨wellFormed.withoutReplica name, ?_, ?_⟩, ?_⟩
    · exact regular.inStep.follows
    · intro other arrived
      exact regular.inStep.current other (mem_arrived_withoutReplica.mp arrived).1
    · intro notDone
      refine ⟨(regular.unopened notDone).fetches_eq, ?_⟩
      intro other status found
      rw [show (controller.withoutReplica name).policy.status =
        controller.policy.status.erase name from rfl, Dict.get?_erase] at found
      split at found
      · cases found
      · exact (regular.unopened notDone).uninitialized other status found
  · split
    · exact (still_parts.rolloutParts.unregisterRollout name controller).regular regular
    · exact regular

/-- Every event of colocated mode keeps the replicas in step. -/
theorem Regular.handleEvent (colocated : config.mode = .colocated)
    (regular : Regular config controller) {event : Event}
    (allowed : ColocatedAllowed controller event) :
    Regular config (handleEvent config controller event).state := by
  have wellFormed := regular.inStep.wellFormed
  cases event with
  | registerPolicy atom now => exact regular_registerPolicy regular atom now allowed
  | registerRollout atom now =>
    exact (still_parts.rolloutParts.registerRollout atom now controller).regular regular
  | unregister name => exact regular_unregister regular name
  | getBatchedPrompt n validationStep rankInMesh =>
    have still := @still_getBatchedPrompt config n validationStep rankInMesh controller
    rw [Dispatcher.handleEvent]
    split
    case h_1 resultIs =>
      rw [resultIs] at still
      exact still.regular regular
    case h_2 resultIs =>
      rw [resultIs] at still
      exact still.regular regular
  | putRolloutGroup report => exact allowed.elim
  | rolloutEndSignal name => exact allowed.elim
  | tryTriggerDataFetchAndTraining =>
    refine regular_of_strides regular (fun _ => strides_tryTrigger colocated wellFormed false) ?_
    intro unopened _
    rw [Dispatcher.handleEvent, tryTrigger_of_uninitialized wellFormed unopened.uninitialized]
    exact .refl controller
  | trainAck name step totalSteps reportData =>
    refine regular_of_strides regular
      (fun _ => strides_trainAck colocated wellFormed name step totalSteps reportData) ?_
    intro unopened _
    refine absurd ?_ allowed
    unfold Controller.fetchesOf
    rw [unopened.fetches_eq, filter_nil]
  | validationReport validationStep numResults =>
    refine regular_of_strides regular
      (fun _ => strides_validationReport colocated validationStep numResults wellFormed) ?_
    intro unopened _
    rw [Dispatcher.handleEvent]
    rcases validationReport_cases validationStep numResults controller with same | same
    · have still : Still controller (controller.validationClosed validationStep numResults) :=
        ⟨rfl, rfl, rfl, rfl, rfl⟩
      rw [same, tryTrigger_of_uninitialized (still.wellFormed wellFormed) unopened.uninitialized]
      exact still
    · rw [same]
      exact ⟨rfl, rfl, rfl, rfl, rfl⟩

theorem SetUp.regular {created started : Controller} (setUp : SetUp config created started) :
    Regular config started := by
  have nothing : started.stepFetches = [] := by
    rw [(held_parts.setUp setUp).fetches_eq]
    cases setUp
    rfl
  have unsent : ∀ name, started.fetchesOf name = [] := by
    intro name
    unfold Controller.fetchesOf
    rw [nothing, filter_nil]
  refine ⟨⟨setUp.wellFormed, ?_, ?_⟩, fun _ => ⟨nothing, ?_⟩⟩
  · intro name
    rw [unsent]
    exact isChain_nil
  · intro name _ fetch isLast
    rw [unsent] at isLast
    cases isLast
  · intro name status found
    rw [setUp.status_eq] at found
    cases found

end CosmosRl.Dispatcher
