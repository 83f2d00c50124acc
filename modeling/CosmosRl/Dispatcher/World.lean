import CosmosRl.Dispatcher.Membership

/-!
The controller together with what its surroundings remember: which `DataFetch`
commands have been dealt with, which steps have been completed, how many prompts
have been handed out and how many rollouts have been discarded.

None of this is known to the controller.  It is recorded beside the code so that
the counters and statuses the controller does keep can be compared with it.
-/

namespace CosmosRl.Dispatcher

open CosmosRl.Foundation

structure World where
  controller : Controller
  /-- `DataFetch` commands that were acknowledged, or whose replica is gone. -/
  settled : List SentFetch := []
  /-- Steps whose completion branch has been executed, one entry per execution. -/
  completed : List Nat := []
  /-- Training prompts handed out. -/
  handedOut : Nat := 0
  /-- Rollouts discarded: outdated, dynamically filtered, or dropped on-policy. -/
  discarded : Nat := 0

def Controller.stepItems (controller : Controller) (step : Nat) : Nat :=
  ((controller.sentFetches.filter fun fetch =>
    decide (fetch.globalStep = step)).map SentFetch.itemsCount).sum

namespace World

/-- The `DataFetch` commands that wait for an ack, oldest first. -/
def outstanding (world : World) : List SentFetch :=
  world.controller.sentFetches.filter fun fetch => decide (fetch ∉ world.settled)

/-- The oldest `DataFetch` a replica has not acknowledged. -/
def nextFetch (world : World) (name : ReplicaName) : Option SentFetch :=
  world.outstanding.find? fun fetch => decide (fetch.replicaName = name)

def consumedRollouts (world : World) : Nat :=
  (world.completed.map world.controller.stepItems).sum

end World

variable (config : Config) {name : ReplicaName}

/-- Whether an ack makes `all_reduced` true. -/
def entersCompletion (name : ReplicaName) (controller : Controller) : Bool :=
  decide (name ∈ controller.policy.status.keys) &&
    (controller.withReduced name).allReduced

def completedStep (controller : Controller) : Event → List Nat
  | .trainAck name step _ _ =>
    if entersCompletion name controller = true ∧
        (controller.rolloutsPerStep config : Int) ≤ controller.policy.samplesOnTheFly then
      [step]
    else []
  | _ => []

/-- The `DataFetch` commands an event settles. -/
def settledFetches (world : World) : Event → List SentFetch
  | .trainAck name step _ _ => world.outstanding.filter fun fetch =>
    decide (fetch.replicaName = name ∧ fetch.globalStep = step)
  | .unregister name => world.outstanding.filter fun fetch =>
    decide (fetch.replicaName = name)
  | _ => []

def eventHandedOut (controller : Controller) : Event → Nat
  | .getBatchedPrompt n validationStep rankInMesh =>
    handedOut config n validationStep rankInMesh controller
  | _ => 0

def droppedByLoop : List Rollout → Controller → Nat
  | [], _ => 0
  | rollout :: rest, controller =>
    let put := putRollout config rollout controller
    if put.raised.isSome then 0
    else if config.onPolicy && decide (put.state.totalPendingRollouts config = 0) then
      rest.length
    else droppedByLoop rest put.state

/-- The rollouts a call of `put_rollouts` drops. -/
def droppedOnPolicy (rollouts : List Rollout) (controller : Controller) : Nat :=
  if config.onPolicy && controller.policy.onPolicyRolloutCompleted then rollouts.length
  else droppedByLoop config rollouts controller

def eventDiscarded (controller : Controller) : Event → Nat
  | .putRolloutGroup report =>
    let filteredByWorker :=
      if config.variant = .dapo then report.filteredPositive + report.filteredNegative
      else 0
    let counted :=
      if config.variant = .dapo then
        updateDynamicSamplingStatistics report.filteredPositive report.filteredNegative
          controller
      else controller
    match filterOutdatedRollouts config report.rollouts counted with
    | (.error _, _) => filteredByWorker
    | (.ok rollouts, filtered) =>
      filteredByWorker + (report.rollouts.length - rollouts.length) +
        droppedOnPolicy config rollouts filtered
  | _ => 0

def World.handle (world : World) (event : Event) : World where
  controller := (handleEvent config world.controller event).state
  settled := world.settled ++ settledFetches world event
  completed := world.completed ++ completedStep config world.controller event
  handedOut := world.handedOut + eventHandedOut config world.controller event
  discarded := world.discarded + eventDiscarded config world.controller event

/-- A replica acknowledges the `DataFetch` commands it was sent once each and in
order; acks of replicas that are no longer registered may still come in. -/
def AckInOrder (world : World) : Event → Prop
  | .trainAck name step totalSteps _ =>
    name ∉ world.controller.policy.policyReplicas.keys ∨
      (world.nextFetch name).map (fun fetch => (fetch.globalStep, fetch.totalSteps)) =
        some (step, totalSteps)
  | _ => True

instance (world : World) : (event : Event) → Decidable (AckInOrder world event)
  | .trainAck .. => inferInstanceAs (Decidable (_ ∨ _))
  | .registerPolicy .. | .registerRollout .. | .unregister .. | .getBatchedPrompt ..
  | .putRolloutGroup .. | .rolloutEndSignal .. | .tryTriggerDataFetchAndTraining
  | .validationReport .. => .isTrue trivial

theorem AckInOrder.fetch {world : World} {step : Nat} {totalSteps : Int} {reportData : ReportData}
    (inOrder : AckInOrder world (.trainAck name step totalSteps reportData))
    (registered : name ∈ world.controller.policy.policyReplicas.keys) :
    ∃ fetch, world.nextFetch name = some fetch ∧ fetch.globalStep = step := by
  rcases inOrder with gone | next
  · exact absurd registered gone
  · obtain ⟨fetch, found, same⟩ := Option.map_eq_some_iff.mp next
    exact ⟨fetch, found, congrArg Prod.fst same⟩

def singleAtom (replicaName : ReplicaName) : Atom where
  replicaName := replicaName
  globalRank := 0
  groupSize := {}

/-- The world in which `setup` has just run. -/
def World.start (currentStep : Nat) (remainSamplesNum : Int)
    (nInitPolicyReplicas nInitRolloutReplicas : Nat)
    (fetcher : ControllerDataFetcher) : World where
  controller := setup config currentStep remainSamplesNum nInitPolicyReplicas
    nInitRolloutReplicas fetcher

variable {config}

/-- A controller as `setup` creates it, and as `setup` leaves it. -/
inductive SetUp (config : Config) : Controller → Controller → Prop
  | setup (currentStep : Nat) (remainSamplesNum : Int)
      (nInitPolicyReplicas nInitRolloutReplicas : Nat) (fetcher : ControllerDataFetcher) :
    SetUp config
      { policy.currentStep := currentStep
        policy.remainSamplesNum := remainSamplesNum
        policy.nInitReplicas := nInitPolicyReplicas
        rollout.nInitReplicas := nInitRolloutReplicas
        dataFetcher := fetcher
        doWeightSyncCheckFlag := !config.resume }
      (setup config currentStep remainSamplesNum nInitPolicyReplicas nInitRolloutReplicas fetcher)

variable {created started : Controller}

theorem RespectsParts.setUp {Related : Controller → Controller → Prop}
    (respects : RespectsParts Related) (setUp : SetUp config created started) :
    Related created started := by
  obtain ⟨currentStep, remainSamplesNum, nInitPolicyReplicas, nInitRolloutReplicas, fetcher⟩ :=
    setUp
  unfold Dispatcher.setup
  dsimp only
  split
  · exact respects.trans (respects.recomputeTotalSteps _ _)
      (respects.validationActivateDataloader _ _)
  · exact respects.recomputeTotalSteps _ _

namespace SetUp

variable (setUp : SetUp config created started)

include setUp

theorem shapes_eq : shapes started.policy.policyReplicas = [] := by
  rw [(quiet_parts.setUp setUp).shapes_eq]
  cases setUp
  rfl

theorem status_eq : started.policy.status = ∅ := by
  rw [(quiet_parts.setUp setUp).status_eq]
  cases setUp
  rfl

theorem sentFetches_eq : started.sentFetches = [] := by
  rw [(quiet_parts.setUp setUp).sentFetches_eq]
  cases setUp
  rfl

theorem samples_eq : started.policy.samplesOnTheFly = 0 := by
  rw [(quiet_parts.setUp setUp).samples_eq]
  cases setUp
  rfl

theorem wellFormed : WellFormed started := by
  apply (quiet_parts.setUp setUp).wellFormed
  cases setUp
  refine ⟨?_, ?_⟩
  · intro entry membership
    simp [shapes] at membership
  · intro name
    simp [Controller.arrivedPolicyNames, Controller.arrivedPolicyReplicas, allAtomsArrivedReplicas]

end SetUp

def Event.keepsReplicas : Event → Bool
  | .registerPolicy .. => false
  | .unregister .. => false
  | .trainAck .. => false
  | _ => true

theorem handleEvent_progress {controller : Controller} (wellFormed : WellFormed controller)
    {event : Event} (keeps : event.keepsReplicas = true) :
    Progress (controller.withHandedOut config (eventHandedOut config controller event))
      (handleEvent config controller event).state := by
  have idle : ∀ {other : Event}, eventHandedOut config controller other = 0 →
      Progress controller (handleEvent config controller other).state →
      Progress (controller.withHandedOut config (eventHandedOut config controller other))
        (handleEvent config controller other).state := by
    intro other none_handed progress
    rw [none_handed, withHandedOut_zero]
    exact progress
  cases event with
  | registerPolicy atom now => cases keeps
  | unregister name => cases keeps
  | trainAck name step totalSteps reportData => cases keeps
  | registerRollout atom now =>
    exact idle rfl (.of_quiet (quiet_parts.rolloutParts.registerRollout atom now controller))
  | putRolloutGroup report => exact idle rfl (putRolloutGroup_progress report wellFormed)
  | rolloutEndSignal name => exact idle rfl (rolloutEndSignal_progress name wellFormed)
  | tryTriggerDataFetchAndTraining => exact idle rfl (tryTrigger_progress wellFormed false)
  | validationReport validationStep numResults =>
    exact idle rfl (validationReport_progress validationStep numResults wellFormed)
  | getBatchedPrompt n validationStep rankInMesh =>
    have quiet := @quiet_getBatchedPrompt config n validationStep rankInMesh controller
    refine .of_quiet ?_
    simp only [handleEvent]
    rcases result : getBatchedPrompt config n validationStep rankInMesh controller with
      ⟨answer, fetched⟩
    rw [result] at quiet
    cases answer <;> exact quiet

theorem settledFetches_keepsReplicas (world : World) {event : Event}
    (keeps : event.keepsReplicas = true) : settledFetches world event = [] := by
  cases event <;> first | rfl | cases keeps

theorem completedStep_keepsReplicas (controller : Controller) {event : Event}
    (keeps : event.keepsReplicas = true) : completedStep config controller event = [] := by
  cases event <;> first | rfl | cases keeps

theorem unregister_spec {controller : Controller} (name : ReplicaName) :
    let result := (handleEvent config controller (.unregister name)).state
    (name ∈ controller.policy.policyReplicas.keys ∧
        Quiet (controller.withoutReplica name) result) ∨
      (name ∉ controller.policy.policyReplicas.keys ∧ Quiet controller result) := by
  by_cases registered : name ∈ controller.policy.policyReplicas.keys
  · refine .inl ⟨registered, ?_⟩
    show Quiet _ (unregister config name controller).state
    unfold unregister
    rw [if_pos registered]
    exact unregisterPolicy_spec registered
  · refine .inr ⟨registered, ?_⟩
    show Quiet _ (unregister config name controller).state
    unfold unregister
    rw [if_neg registered]
    split
    · exact quiet_parts.rolloutParts.unregisterRollout name controller
    · exact Quiet.refl controller

theorem registered_of_status {controller : Controller} (wellFormed : WellFormed controller)
    (known : name ∈ controller.policy.status.keys) :
    name ∈ controller.policy.policyReplicas.keys := by
  obtain ⟨replica, found, _⟩ := mem_arrivedPolicyNames.mp ((wellFormed.statusKeys name).mp known)
  exact Dict.mem_keys_iff_get?.mpr ⟨replica, found⟩

theorem quiet_trainAck_of_notMem {controller : Controller} {name : ReplicaName}
    (unknown : name ∉ controller.policy.status.keys) (step : Nat) (totalSteps : Int)
    (reportData : ReportData) :
    Quiet controller (trainAck config name step totalSteps reportData controller).state := by
  unfold trainAck
  split
  · unfold setStatus
    rw [if_neg unknown, if_neg (by decide)]
    exact ⟨rfl, rfl, rfl, rfl, rfl⟩
  · exact Quiet.refl controller

end CosmosRl.Dispatcher
