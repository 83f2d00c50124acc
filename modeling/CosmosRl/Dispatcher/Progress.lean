import CosmosRl.Dispatcher.Footprint

/-!
Handlers as successions of quiet parts, issues and replicas becoming ready.
-/

namespace CosmosRl.Dispatcher

open CosmosRl.Foundation

variable {config : Config} {names : List ReplicaName} {name : ReplicaName} {status : PolicyStatus}

def setAllStatus (names : List ReplicaName) (status : PolicyStatus)
    (statuses : Dict ReplicaName PolicyStatus) : Dict ReplicaName PolicyStatus :=
  names.foldl (fun current name => current.set name status) statuses

theorem keys_setAllStatus (status : PolicyStatus)
    {statuses : Dict ReplicaName PolicyStatus} (present : ∀ name ∈ names, name ∈ statuses.keys) :
    (setAllStatus names status statuses).keys = statuses.keys := by
  induction names generalizing statuses with
  | nil => rfl
  | cons first rest ih =>
    have kept := Dict.keys_set_of_mem status (present first (by simp))
    unfold setAllStatus
    rw [List.foldl_cons, ← kept]
    apply ih
    intro name membership
    rw [kept]
    exact present name (by simp [membership])

theorem get?_setAllStatus (names : List ReplicaName) (status : PolicyStatus)
    (statuses : Dict ReplicaName PolicyStatus) (name : ReplicaName) :
    (setAllStatus names status statuses).get? name =
      if name ∈ names then some status else statuses.get? name := by
  induction names generalizing statuses with
  | nil => simp [setAllStatus]
  | cons first rest ih =>
    have step : setAllStatus (first :: rest) status statuses =
        setAllStatus rest status (statuses.set first status) := rfl
    rw [step, ih, Dict.get?_set]
    by_cases later : name ∈ rest
    · simp [later]
    · by_cases same : name = first <;> simp [later, same]

variable {controller before after : Controller}

theorem setStatus_of_mem (present : name ∈ controller.policy.status.keys)
    (later : status ≠ .uninitialized) :
    setStatus name status controller = .ok { controller with
      policy.status := controller.policy.status.set name status } := by
  unfold setStatus
  rw [if_pos present, if_neg later]

theorem forEach_setStatus (present : ∀ name ∈ names, name ∈ controller.policy.status.keys)
    (later : status ≠ .uninitialized) :
    Outcome.forEach (fun name => setStatus name status) names controller =
      .ok { controller with
        policy.status := setAllStatus names status controller.policy.status } := by
  induction names generalizing controller with
  | nil => rfl
  | cons first rest ih =>
    rw [Outcome.forEach_cons, setStatus_of_mem (present first (by simp)) later,
      Outcome.ok_andThen, ih]
    · rfl
    · intro name membership
      rw [Dict.mem_keys_set]
      exact .inr (present name (by simp [membership]))

def ShapeValid (shape : List Nat × GroupSize) : Prop :=
  shape.1.Nodup ∧ ∀ rank ∈ shape.1, rank < shape.2.prod

structure WellFormed (controller : Controller) : Prop where
  shapesValid : ∀ entry ∈ shapes controller.policy.policyReplicas, ShapeValid entry.2
  statusKeys : ∀ name,
    name ∈ controller.policy.status.keys ↔ name ∈ controller.arrivedPolicyNames

theorem Quiet.wellFormed (quiet : Quiet before after)
    (wellFormed : WellFormed before) : WellFormed after := by
  refine ⟨?_, ?_⟩
  · rw [quiet.shapes_eq]
    exact wellFormed.shapesValid
  · intro name
    rw [quiet.status_eq, quiet.arrivedPolicyNames_eq]
    exact wellFormed.statusKeys name

/-- A training step is issued: every arrived replica is sent one `DataFetch` with
the next step and is running. -/
structure Issued (before after : Controller) : Prop where
  shapes_eq : shapes after.policy.policyReplicas = shapes before.policy.policyReplicas
  statusKeys_eq : after.policy.status.keys = before.policy.status.keys
  allRunning : ∀ name status, after.policy.status.get? name = some status →
    status = .running
  sentFetches_eq : ∃ itemsCount totalSteps, after.sentFetches = before.sentFetches ++
    before.arrivedPolicyNames.map fun name =>
      ⟨name, itemsCount, before.policy.currentStep + 1, totalSteps⟩
  currentStep_eq : after.policy.currentStep = before.policy.currentStep + 1
  samples_eq : after.policy.samplesOnTheFly = before.policy.samplesOnTheFly

def Controller.anyArrived (controller : Controller) : Prop :=
  controller.arrivedPolicyNames ≠ []

def Controller.advanceStep (controller : Controller) : Controller :=
  { controller with policy.currentStep := controller.policy.currentStep + 1 }

theorem sendDataFetch_of_mem
    (itemsCount : Nat) (doSave : Bool) (present : name ∈ controller.policy.status.keys) :
    sendDataFetch itemsCount doSave name controller =
      .ok { dataFetchTrigger name itemsCount controller.policy.currentStep
              controller.policy.totalSteps controller.policy.remainSamplesNum doSave
              controller with
        policy.status := controller.policy.status.set name .running } := by
  unfold sendDataFetch
  rw [setStatus_of_mem]
  · rfl
  · exact present
  · decide

/-- Sending to a list of replicas, where `prepare` stands for the bookkeeping
that precedes each single send. -/
theorem forEach_sendDataFetch {prepare : Controller → Controller}
    (prepared : ∀ controller, Quiet controller (prepare controller) ∧
      (prepare controller).policy.totalSteps = controller.policy.totalSteps)
    (itemsCount : Nat) (doSave : Bool) {names : List ReplicaName} {controller : Controller}
    (present : ∀ name ∈ names, name ∈ controller.policy.status.keys) :
    ∃ after,
      Outcome.forEach (fun name current =>
        sendDataFetch itemsCount doSave name (prepare current)) names controller =
          .ok after ∧
      shapes after.policy.policyReplicas = shapes controller.policy.policyReplicas ∧
      after.policy.status = setAllStatus names .running controller.policy.status ∧
      after.sentFetches = controller.sentFetches ++
        names.map (fun name => ⟨name, itemsCount, controller.policy.currentStep,
          controller.policy.totalSteps⟩) ∧
      after.policy.currentStep = controller.policy.currentStep ∧
      after.policy.samplesOnTheFly = controller.policy.samplesOnTheFly := by
  induction names generalizing controller with
  | nil => exact ⟨controller, rfl, rfl, rfl, by simp, rfl, rfl⟩
  | cons first rest ih =>
    obtain ⟨quiet, sameTotal⟩ := prepared controller
    have firstPresent : first ∈ (prepare controller).policy.status.keys := by
      rw [quiet.status_eq]
      exact present first (by simp)
    rw [Outcome.forEach_cons,
      sendDataFetch_of_mem itemsCount doSave firstPresent, Outcome.ok_andThen]
    let sent : Controller :=
      { dataFetchTrigger first itemsCount (prepare controller).policy.currentStep
          (prepare controller).policy.totalSteps
          (prepare controller).policy.remainSamplesNum doSave (prepare controller) with
        policy.status := (prepare controller).policy.status.set first .running }
    have sentStatus : sent.policy.status =
        controller.policy.status.set first .running := by
      show (prepare controller).policy.status.set first .running = _
      rw [quiet.status_eq]
    have sentStep : sent.policy.currentStep = controller.policy.currentStep := quiet.currentStep_eq
    have sentTotal : sent.policy.totalSteps = controller.policy.totalSteps := sameTotal
    have sentFetches : sent.sentFetches = controller.sentFetches ++
        [⟨first, itemsCount, controller.policy.currentStep,
          controller.policy.totalSteps⟩] := by
      rw [← quiet.sentFetches_eq, ← quiet.currentStep_eq, ← sameTotal]
      simp [sent, Controller.sentFetches, dataFetchTrigger, Controller.publishCommand,
        Published.sentFetch?]
    have laterPresent : ∀ name ∈ rest, name ∈ sent.policy.status.keys := by
      intro name membership
      rw [sentStatus, Dict.mem_keys_set]
      exact .inr (present name (by simp [membership]))
    obtain ⟨after, equality, sameShapes, status, fetches, step, samples⟩ := ih laterPresent
    refine ⟨after, equality, sameShapes.trans quiet.shapes_eq, ?_, ?_,
      step.trans sentStep, samples.trans quiet.samples_eq⟩
    · rw [status, sentStatus]
      rfl
    · rw [fetches, sentFetches, sentStep, sentTotal]
      simp

/-- Sending to all arrived replicas after the counter has moved on is an issue. -/
theorem issued_of_sent {advanced : Controller}
    (wellFormed : WellFormed before) (quiet : Quiet before.advanceStep advanced)
    {itemsCount : Nat} {totalSteps : Int} (sameShapes : shapes after.policy.policyReplicas =
      shapes advanced.policy.policyReplicas) (status : after.policy.status =
      setAllStatus advanced.arrivedPolicyNames .running advanced.policy.status)
    (fetches : after.sentFetches = advanced.sentFetches ++
      advanced.arrivedPolicyNames.map fun name =>
        ⟨name, itemsCount, advanced.policy.currentStep, totalSteps⟩)
    (step : after.policy.currentStep = advanced.policy.currentStep)
    (samples : after.policy.samplesOnTheFly = advanced.policy.samplesOnTheFly) :
    Issued before after := by
  have names : advanced.arrivedPolicyNames = before.arrivedPolicyNames :=
    quiet.arrivedPolicyNames_eq
  have stepEq : advanced.policy.currentStep = before.policy.currentStep + 1 := quiet.currentStep_eq
  have statusEq : advanced.policy.status = before.policy.status := quiet.status_eq
  have fetchesEq : advanced.sentFetches = before.sentFetches := quiet.sentFetches_eq
  refine ⟨sameShapes.trans quiet.shapes_eq, ?_, ?_, ⟨itemsCount, totalSteps, ?_⟩,
    step.trans stepEq, samples.trans quiet.samples_eq⟩
  · rw [status, names, statusEq, keys_setAllStatus]
    intro name membership
    exact (wellFormed.statusKeys name).mpr membership
  · intro name value found
    rw [status, get?_setAllStatus, names, statusEq] at found
    by_cases arrived : name ∈ before.arrivedPolicyNames
    · simpa [arrived] using found.symm
    · rw [if_neg arrived] at found
      have present := Dict.mem_keys_iff_get?.mpr ⟨value, found⟩
      exact absurd ((wellFormed.statusKeys name).mp present) arrived
  · rw [fetches, names, stepEq, fetchesEq]

inductive Advance : Controller → Controller → Prop
  | quiet {before after : Controller} : Quiet before after → Advance before after
  | stalled {before after : Controller} :
      Quiet before.advanceStep after → Advance before after
  | issued {before after : Controller} :
      before.anyArrived → Issued before after → Advance before after
  | readied (names : List ReplicaName) {before : Controller} :
      (∀ name ∈ names, name ∈ before.policy.status.keys) →
      Advance before { before with
        policy.status := setAllStatus names .ready before.policy.status }

def Progress : Controller → Controller → Prop := Relation.ReflTransGen Advance

namespace Progress

theorem refl (controller : Controller) : Progress controller controller :=
  Relation.ReflTransGen.refl

theorem trans {first second third : Controller} (left : Progress first second)
    (right : Progress second third) : Progress first third :=
  Relation.ReflTransGen.trans left right

theorem of_advance (advance : Advance before after) : Progress before after :=
  Relation.ReflTransGen.single advance

theorem of_quiet (quiet : Quiet before after) : Progress before after :=
  of_advance (.quiet quiet)

theorem preserves {Holds : Controller → Prop}
    (advances : ∀ before after, Holds before → Advance before after → Holds after)
    {before after : Controller} (progress : Progress before after)
    (holds : Holds before) : Holds after := by
  induction progress with
  | refl => exact holds
  | tail _ advance ih => exact advances _ _ ih advance

end Progress

theorem Advance.wellFormed (wellFormed : WellFormed before)
    (advance : Advance before after) : WellFormed after := by
  cases advance with
  | quiet quiet => exact quiet.wellFormed wellFormed
  | stalled quiet =>
    have advanced : WellFormed before.advanceStep := ⟨wellFormed.shapesValid, wellFormed.statusKeys⟩
    exact quiet.wellFormed advanced
  | issued _ issued =>
    refine ⟨?_, ?_⟩
    · rw [issued.shapes_eq]
      exact wellFormed.shapesValid
    · intro name
      rw [issued.statusKeys_eq, Controller.arrivedPolicyNames,
        Controller.arrivedPolicyReplicas, arrivedNames_eq_shapes, issued.shapes_eq,
        ← arrivedNames_eq_shapes]
      exact wellFormed.statusKeys name
  | readied names present =>
    refine ⟨wellFormed.shapesValid, ?_⟩
    intro name
    show name ∈ (setAllStatus names .ready before.policy.status).keys ↔ _
    rw [keys_setAllStatus _ present]
    exact wellFormed.statusKeys name

theorem Progress.wellFormed (progress : Progress before after)
    (wellFormed : WellFormed before) : WellFormed after :=
  progress.preserves (fun _ _ holds advance => advance.wellFormed holds) wellFormed

theorem Advance.arrivedPolicyNames_eq (advance : Advance before after) :
    after.arrivedPolicyNames = before.arrivedPolicyNames := by
  cases advance with
  | quiet quiet => exact quiet.arrivedPolicyNames_eq
  | stalled quiet => exact quiet.arrivedPolicyNames_eq
  | issued _ issued =>
    simp only [Controller.arrivedPolicyNames, Controller.arrivedPolicyReplicas,
      arrivedNames_eq_shapes, issued.shapes_eq]
  | readied names present => rfl

section

variable (progress : Progress before after)

include progress

theorem Progress.arrivedPolicyNames_eq : after.arrivedPolicyNames = before.arrivedPolicyNames :=
  @Progress.preserves (fun current =>
      current.arrivedPolicyNames = before.arrivedPolicyNames)
    (fun _ _ holds advance => advance.arrivedPolicyNames_eq.trans holds) _ _ progress rfl

theorem Progress.anyArrived (arrived : before.anyArrived) : after.anyArrived := by
  unfold Controller.anyArrived
  rw [progress.arrivedPolicyNames_eq]
  exact arrived

theorem Progress.samples_eq : after.policy.samplesOnTheFly = before.policy.samplesOnTheFly := by
  induction progress with
  | refl => rfl
  | tail _ advance ih =>
    rw [← ih]
    cases advance with
    | quiet quiet => exact quiet.samples_eq
    | stalled quiet => exact quiet.samples_eq
    | issued _ issued => exact issued.samples_eq
    | readied names present => rfl

end

def FetchesIssued (controller : Controller) : Prop :=
  ∀ fetch ∈ controller.sentFetches, fetch.globalStep ≤ controller.policy.currentStep

theorem Quiet.fetchesIssued (quiet : Quiet before after)
    (issued : FetchesIssued before) : FetchesIssued after := by
  unfold FetchesIssued
  rw [quiet.sentFetches_eq, quiet.currentStep_eq]
  exact issued

theorem Advance.fetchesIssued (advance : Advance before after)
    (fetchesIssued : FetchesIssued before) : FetchesIssued after := by
  cases advance with
  | quiet quiet => exact quiet.fetchesIssued fetchesIssued
  | stalled quiet =>
    apply quiet.fetchesIssued
    intro fetch membership
    exact Nat.le_succ_of_le (fetchesIssued fetch membership)
  | issued _ issued =>
    obtain ⟨itemsCount, totalSteps, fetches⟩ := issued.sentFetches_eq
    intro fetch membership
    rw [fetches, List.mem_append] at membership
    rw [issued.currentStep_eq]
    rcases membership with earlier | new
    · exact Nat.le_succ_of_le (fetchesIssued fetch earlier)
    · obtain ⟨name, _, rfl⟩ := List.mem_map.mp new
      exact Nat.le_refl _
  | readied names present => exact fetchesIssued

/-- Progress keeps the `DataFetch` commands of the steps issued before it, only
appending commands of later steps. -/
theorem Progress.sentFetches_append (progress : Progress before after) :
    before.policy.currentStep ≤ after.policy.currentStep ∧
      ∃ sent, after.sentFetches = before.sentFetches ++ sent ∧
        ∀ fetch ∈ sent, before.policy.currentStep < fetch.globalStep := by
  induction progress with
  | refl => exact ⟨Nat.le_refl _, [], by simp, by simp⟩
  | @tail middle next _ advance ih =>
    obtain ⟨later, sent, fetches, new⟩ := ih
    cases advance with
    | quiet quiet =>
      rw [quiet.currentStep_eq, quiet.sentFetches_eq]
      exact ⟨later, sent, fetches, new⟩
    | stalled quiet =>
      rw [quiet.currentStep_eq, quiet.sentFetches_eq]
      exact ⟨Nat.le_succ_of_le later, sent, fetches, new⟩
    | readied names present => exact ⟨later, sent, fetches, new⟩
    | issued _ issued =>
      obtain ⟨itemsCount, totalSteps, appended⟩ := issued.sentFetches_eq
      rw [issued.currentStep_eq]
      refine ⟨Nat.le_succ_of_le later, sent ++ middle.arrivedPolicyNames.map
        (fun name => ⟨name, itemsCount, middle.policy.currentStep + 1, totalSteps⟩),
        ?_, ?_⟩
      · rw [appended, fetches, List.append_assoc]
      · intro fetch membership
        rcases List.mem_append.mp membership with earlier | last
        · exact new fetch earlier
        · obtain ⟨name, _, rfl⟩ := List.mem_map.mp last
          exact Nat.lt_succ_of_le later

end CosmosRl.Dispatcher
