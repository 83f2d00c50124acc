import CosmosRl.Dispatcher.FleetArrival

/-!
Wake-ups of the training trigger.

The trigger is polled when rollouts come in, when a step is completed and when the last
validation report closes the gate.  An ack that does not complete a step, a departure and
an arrival change what the trigger looks at as well, but poll nothing.  The condition
below says when such an event finds a step that could be issued right after it; runs
without one never rest in a state in which the trigger is enabled.
-/

namespace CosmosRl.Dispatcher

open CosmosRl.Foundation

variable (config : Config)

def ArrivalKept (atom : Atom) (controller : Controller) :
    Except PyError Replica → Prop
  | .error _ => True
  | .ok replica => replica.allAtomsArrived = false ∨
      ¬ (JoinsIdle config atom.replicaName replica controller ∧
        ArrivalAhead config controller)

/-- No event that is not followed by a poll sets a step free: an ack completes its step or
leaves nothing to issue, and so do departures and arrivals. -/
def WakeupKept (world : World) : Event → Prop
  | .trainAck name _ _ _ =>
    name ∉ world.controller.policy.status.keys ∨
      (entersCompletion name world.controller = true ∧
        (world.controller.rolloutsPerStep config : Int) ≤
          world.controller.policy.samplesOnTheFly) ∨
      ¬ (OthersIdle name world.controller ∧
        StepAhead config world.controller.arrivedPolicyReplicas.length
          world.controller.policy.totalSteps world.controller.policy.rolloutBufferPerRank
          world.controller)
  | .unregister name =>
    name ∉ world.controller.policy.status.keys ∨
      ¬ (OthersIdle name world.controller ∧
        StepAhead config (world.controller.arrivedPolicyReplicas.length - 1)
          (departedTotalSteps config name world.controller)
          (departedQueues config name world.controller) world.controller)
  | .registerPolicy atom _ =>
    ArrivalKept config atom world.controller
      (arriveReplica atom world.controller.policy.policyReplicas)
  | _ => True

structure World.NothingMissed (world : World) : Prop where
  missed : Dispatcher.NothingMissed config world.controller
  owers : OwersInitialized world.settled world.controller

variable {config}

variable {name : ReplicaName} {status : PolicyStatus} {controller : Controller}

/-- After the first initialization the statuses do not matter to the phase. -/
theorem RankPhase.of_started {before after : Controller} (phase : RankPhase before)
    (found : before.policy.status.get? name = some status)
    (started : status ≠ .uninitialized) (same : SameMesh before after)
    (step : after.policy.currentStep = before.policy.currentStep)
    (queues : after.policy.rolloutBufferPerRank = before.policy.rolloutBufferPerRank) :
    RankPhase after := by
  cases phase with
  | ended atEnd positive =>
    apply RankPhase.ended
    · rw [step, same.totalSteps_eq]
      exact atEnd
    · rw [same.totalSteps_eq]
      exact positive
  | waiting uninitialized _ => exact absurd (uninitialized name status found) started
  | meshed initDone someone loaded long =>
    apply RankPhase.meshed
    · rw [same.initDone_eq]
      exact initDone
    · rw [same.arrived_eq]
      exact someone
    · rw [same.arrived_eq]
      exact loaded
    · rw [same.arrived_eq, queues]
      exact long

theorem FleetSound.of_started {before after : Controller} (sound : FleetSound config before)
    (found : before.policy.status.get? name = some status)
    (started : status ≠ .uninitialized) (wellFormed : WellFormed after)
    (same : SameMesh before after) (step : after.policy.currentStep = before.policy.currentStep)
    (queues : after.policy.rolloutBufferPerRank = before.policy.rolloutBufferPerRank) :
    FleetSound config after :=
  ⟨wellFormed, same.flags sound.flags, fun byRank =>
    (sound.phase byRank).of_started found started same step queues⟩

theorem sameFields_sumAndReportData (controller : Controller) :
    let summed := sumAndReportData config controller
    SameMesh controller summed ∧
      summed.policy.currentStep = controller.policy.currentStep ∧
      summed.policy.rolloutBufferPerRank = controller.policy.rolloutBufferPerRank := by
  have folded : ∀ (reports : List (Nat × Nat)) (current : Controller),
      let updated := reports.foldl (fun current data =>
        updateDynamicSamplingStatistics data.1 data.2 current) current
      SameMesh current updated ∧
        updated.policy.currentStep = current.policy.currentStep ∧
        updated.policy.rolloutBufferPerRank = current.policy.rolloutBufferPerRank := by
    intro reports
    induction reports with
    | nil => exact fun current => ⟨⟨rfl, rfl, rfl⟩, rfl, rfl⟩
    | cons data rest ih =>
      intro current
      obtain ⟨⟨replicas, initDone, total⟩, step, queues⟩ :=
        ih (updateDynamicSamplingStatistics data.1 data.2 current)
      exact ⟨⟨replicas, initDone, total⟩, step, queues⟩
  unfold sumAndReportData
  dsimp only
  split
  · split
    · exact ⟨⟨rfl, rfl, rfl⟩, rfl, rfl⟩
    · split
      · obtain ⟨⟨replicas, initDone, total⟩, step, queues⟩ :=
          folded (controller.policy.reportDataList.filterMap id) controller
        exact ⟨⟨replicas, initDone, total⟩, step, queues⟩
      · exact ⟨⟨rfl, rfl, rfl⟩, rfl, rfl⟩
  · exact ⟨⟨rfl, rfl, rfl⟩, rfl, rfl⟩

theorem NothingMissed.finishStep
    (sound : FleetSound config controller) (step : Nat) (totalSteps : Int) :
    NothingMissed config (finishStep config step totalSteps controller).state := by
  have synced : PolicyKept controller (syncedWeights config step totalSteps controller) :=
    policyKept_rolloutParts.syncedWeights step totalSteps controller
  rw [finishStep_eq]
  apply Outcome.andThen_preserves
    (NothingMissed.polled ((SameFleet.of_policyKept synced).sound sound))
  intro state missed
  split
  · exact missed.of_same ⟨⟨rfl, rfl, rfl⟩, rfl, rfl, rfl⟩ ⟨rfl, rfl, rfl, rfl, rfl, rfl, rfl⟩
  · exact missed

theorem sameFields_readied (controller : Controller) (name : ReplicaName)
    (reportData : ReportData) :
    let readied := controller.readied config name reportData
    SameMesh controller readied ∧
      readied.policy.currentStep = controller.policy.currentStep ∧
      readied.policy.rolloutBufferPerRank = controller.policy.rolloutBufferPerRank := by
  obtain ⟨⟨replicas, initDone, total⟩, step, queues⟩ :=
    @sameFields_sumAndReportData config ((controller.reported name reportData).consumed config)
  exact ⟨⟨replicas, initDone, total⟩, step, queues⟩

/-- An ack of a replica that was initialized misses nothing, unless it leaves a step that
only waited for it. -/
theorem NothingMissed.trainAck (missed : NothingMissed config controller)
    (started : ∀ status, controller.policy.status.get? name = some status →
      status ≠ .uninitialized)
    (kept : name ∉ controller.policy.status.keys ∨ (entersCompletion name controller = true ∧
        (controller.rolloutsPerStep config : Int) ≤ controller.policy.samplesOnTheFly) ∨
      ¬ (OthersIdle name controller ∧
        StepAhead config controller.arrivedPolicyReplicas.length controller.policy.totalSteps
          controller.policy.rolloutBufferPerRank controller))
    (step : Nat) (totalSteps : Int) (reportData : ReportData) :
    NothingMissed config (trainAck config name step totalSteps reportData controller).state := by
  let reported := controller.reported name reportData
  have unfree : ¬ (OthersIdle name controller ∧
      StepAhead config controller.arrivedPolicyReplicas.length controller.policy.totalSteps
        controller.policy.rolloutBufferPerRank controller) →
      ¬ TriggerEnabled config reported := by
    intro none_ahead enabled
    apply none_ahead
    obtain ⟨ahead, idle⟩ := triggerEnabled_iff_ahead.mp enabled
    refine ⟨othersIdle_of_idle ?_ idle,
      ⟨ahead.noValidation, ahead.someone, ahead.notFinished, ahead.enough⟩⟩
    intro other status different found
    show (controller.policy.status.set name .reduced).get? other = _
    rw [Dict.get?_set, if_neg different]
    exact found
  have sameTrigger : SameTrigger reported (reported.consumed config) :=
    ⟨rfl, rfl, rfl, rfl, rfl, rfl, rfl⟩
  rcases @trainAck_cases config controller missed.sound.wellFormed name step totalSteps
      reportData with ⟨_, _, _, same | same⟩ | ⟨known, outcome⟩
  · rw [same]
    exact missed
  · rw [same]
    exact missed.of_same ⟨⟨rfl, rfl, rfl⟩, rfl, rfl, rfl⟩ ⟨rfl, rfl, rfl, rfl, rfl, rfl, rfl⟩
  · obtain ⟨status, found⟩ := Dict.mem_keys_iff_get?.mp known
    have initialized := started status found
    replace kept := kept.resolve_left (not_not.mpr known)
    rcases outcome with ⟨reduced, well, same⟩ | ⟨_, short, well, same⟩ | ⟨_, _, well, same⟩
    · rw [same]
      refine ⟨missed.sound.of_started found initialized well ⟨rfl, rfl, rfl⟩ rfl rfl, ?_⟩
      rcases kept with ⟨enters, _⟩ | none_ahead
      · simp [entersCompletion, reduced] at enters
      · exact unfree none_ahead
    · rw [same]
      refine ⟨missed.sound.of_started found initialized well ⟨rfl, rfl, rfl⟩ rfl rfl, ?_⟩
      rcases kept with ⟨_, enough⟩ | none_ahead
      · exact absurd short (Int.not_lt.mpr enough)
      · exact mt sameTrigger.enabled_iff.mp (unfree none_ahead)
    · obtain ⟨sameMesh, sameStep, sameQueues⟩ :=
        @sameFields_readied config controller name reportData
      rw [same]
      exact NothingMissed.finishStep
        (missed.sound.of_started found initialized well sameMesh sameStep sameQueues)
        step totalSteps

def Controller.withoutIncomplete (name : ReplicaName) (controller : Controller) : Controller :=
  { controller with
    policy.policyReplicas := controller.policy.policyReplicas.erase name }

theorem unregisterPolicy_incomplete (registered : name ∈ controller.policy.policyReplicas.keys)
    (unknown : name ∉ controller.policy.status.keys) :
    unregisterPolicy config name controller =
      .raise (controller.withoutIncomplete name) .keyError := by
  obtain ⟨replica, found⟩ := Dict.mem_keys_iff_get?.mp registered
  unfold unregisterPolicy
  rw [found]
  dsimp only
  rw [if_neg unknown]
  rfl

theorem arrived_withoutIncomplete (wellFormed : WellFormed controller)
    (unknown : name ∉ controller.policy.status.keys) :
    (controller.withoutIncomplete name).arrivedPolicyReplicas =
      controller.arrivedPolicyReplicas := by
  have present : ∀ entry ∈ controller.arrivedPolicyReplicas, entry.1 ≠ name := by
    rintro entry arrived rfl
    exact unknown ((wellFormed.statusKeys entry.1).mpr (List.mem_map_of_mem arrived))
  show (controller.policy.policyReplicas.entries.filter _).filter _ = _
  rw [List.filter_comm]
  apply List.filter_eq_self.mpr
  intro entry arrived
  simpa using present entry arrived

theorem FleetSound.withoutIncomplete (sound : FleetSound config controller)
    (unknown : name ∉ controller.policy.status.keys) :
    FleetSound config (controller.withoutIncomplete name) := by
  have sameArrived := arrived_withoutIncomplete sound.wellFormed unknown
  have samePhase : SamePhase controller (controller.withoutIncomplete name) :=
    ⟨sameArrived, rfl, rfl, rfl, rfl, rfl⟩
  refine ⟨⟨?_, ?_⟩, flagsArrived_erase sound.flags name, ?_⟩
  · exact (sound.wellFormed.withoutReplica name).shapesValid
  · intro other
    rw [show (controller.withoutIncomplete name).arrivedPolicyNames =
      controller.arrivedPolicyNames from congrArg (List.map Prod.fst) sameArrived]
    exact sound.wellFormed.statusKeys other
  · exact fun byRank => (sound.phase byRank).of_same samePhase

theorem NothingMissed.incompleteDeparture (missed : NothingMissed config controller)
    (registered : name ∈ controller.policy.policyReplicas.keys)
    (unknown : name ∉ controller.policy.status.keys) :
    NothingMissed config (unregisterPolicy config name controller).state := by
  rw [unregisterPolicy_incomplete registered unknown]
  refine ⟨missed.sound.withoutIncomplete unknown, fun enabled => missed.disabled ?_⟩
  obtain ⟨ahead, idle⟩ := triggerEnabled_iff_ahead.mp enabled
  rw [Outcome.raise_state, arrived_withoutIncomplete missed.sound.wellFormed unknown] at ahead
  exact triggerEnabled_iff_ahead.mpr
    ⟨⟨ahead.noValidation, ahead.someone, ahead.notFinished, ahead.enough⟩, idle⟩

theorem NothingMissed.unregister (missed : NothingMissed config controller)
    (kept : name ∉ controller.policy.status.keys ∨
      ¬ (OthersIdle name controller ∧
        StepAhead config (controller.arrivedPolicyReplicas.length - 1)
          (departedTotalSteps config name controller)
          (departedQueues config name controller) controller)) :
    NothingMissed config (unregister config name controller).state := by
  have wellFormed := missed.sound.wellFormed
  unfold Dispatcher.unregister
  by_cases registered : name ∈ controller.policy.policyReplicas.keys
  · rw [if_pos registered]
    by_cases known : name ∈ controller.policy.status.keys
    · obtain ⟨sound, frees⟩ := missed.sound.unregisterPolicy_arrived registered known
      refine ⟨sound, fun enabled => ?_⟩
      obtain ⟨ahead, idle⟩ := frees enabled
      rcases kept with unknown | none_ahead
      · exact unknown known
      · exact none_ahead ⟨idle, ahead⟩
    · exact missed.incompleteDeparture registered known
  · rw [if_neg registered]
    split
    · exact missed.of_policyKept (policyKept_unregisterRollout name controller)
    · exact missed

theorem nothingMissed_handle {world : World} {event : Event}
    (missed : world.NothingMissed config) (inOrder : AckInOrder world event)
    (kept : WakeupKept config world event) :
    (world.handle config event).NothingMissed config := by
  refine ⟨?_, owersInitialized_handle missed.missed.sound.wellFormed missed.owers⟩
  have before := missed.missed
  show NothingMissed config (handleEvent config world.controller event).state
  cases event with
  | registerPolicy atom now =>
    show NothingMissed config (registerPolicy config atom now world.controller).state
    cases arrive : arriveReplica atom world.controller.policy.policyReplicas with
    | error exn =>
      rw [registerPolicy_refused arrive]
      exact before
    | ok replica =>
      simp only [WakeupKept, ArrivalKept, arrive] at kept
      cases complete : replica.allAtomsArrived with
      | false =>
        rw [registerPolicy_stored arrive complete]
        exact before.store arrive complete
      | true =>
        obtain ⟨sound, frees⟩ :=
          @FleetSound.registerPolicy_arrived config _ before.sound atom now replica arrive complete
        refine ⟨sound, fun enabled => ?_⟩
        rcases kept with incomplete | none_ahead
        · rw [complete] at incomplete
          cases incomplete
        · exact none_ahead (frees enabled)
  | registerRollout atom now =>
    exact before.of_policyKept (policyKept_registerRollout atom now world.controller)
  | unregister name => exact before.unregister kept
  | getBatchedPrompt n validationStep rankInMesh =>
    have fetched := before.getBatchedPrompt n validationStep rankInMesh
    simp only [handleEvent]
    rcases result : getBatchedPrompt config n validationStep rankInMesh world.controller with
      ⟨answer, after⟩
    rw [result] at fetched
    cases answer with
    | ok => exact fetched
    | error => exact fetched
  | putRolloutGroup report => exact before.putRolloutGroup report
  | rolloutEndSignal name => exact before.rolloutEndSignal name
  | tryTriggerDataFetchAndTraining => exact NothingMissed.polled before.sound
  | trainAck name step totalSteps reportData =>
    exact before.trainAck (missed.owers.started_of_inOrder before.sound.wellFormed inOrder) kept
      step totalSteps reportData
  | validationReport validationStep numResults =>
    exact before.validationReport validationStep numResults

theorem SetUp.nothingMissed {created started : Controller} (setUp : SetUp config created started) :
    ({ controller := started } : World).NothingMissed config := by
  have nobody : started.policy.policyReplicas.entries = [] := by
    simpa [Dispatcher.shapes] using setUp.shapes_eq
  have none_arrived : started.arrivedPolicyReplicas = [] := by
    simp [Controller.arrivedPolicyReplicas, allAtomsArrivedReplicas, nobody]
  refine ⟨⟨⟨setUp.wellFormed, ?_, ?_⟩, fun enabled => enabled.arrived none_arrived⟩, ?_⟩
  · intro entry stored
    simp [nobody] at stored
  · intro _
    apply RankPhase.waiting
    · intro name status found
      rw [setUp.status_eq, Dict.get?_empty] at found
      cases found
    · intro _ entry arrived
      simp [none_arrived] at arrived
  · intro fetch outstanding
    have sent := (mem_outstandingOf.mp outstanding).1
    rw [show ({ controller := started } : World).controller.sentFetches = [] from
      setUp.sentFetches_eq] at sent
    cases sent

/-- The trigger is not enabled in any state of a run in which no event that is not
followed by a poll sets a step free. -/
theorem neverEnabled_of_kept (currentStep : Nat) (remainSamplesNum : Int)
    (nInitPolicyReplicas nInitRolloutReplicas : Nat) (fetcher : ControllerDataFetcher)
    (events : List Event) (run : (barrierSystem config).IsRun (World.start config currentStep
      remainSamplesNum nInitPolicyReplicas nInitRolloutReplicas fetcher) events)
    (kept : (barrierSystem config).StepsMeet (WakeupKept config) (World.start config
      currentStep remainSamplesNum nInitPolicyReplicas nInitRolloutReplicas fetcher)
      events) :
    (barrierSystem config).Throughout
      (fun world => ¬ TriggerEnabled config world.controller)
      (World.start config currentStep remainSamplesNum nInitPolicyReplicas
        nInitRolloutReplicas fetcher) events := by
  have missed := @EventSystem.throughout_of_stepsMeet _ _ (barrierSystem config)
    (World.NothingMissed config) (WakeupKept config)
    (fun _ _ missed inOrder kept => nothingMissed_handle missed inOrder kept) _ events
    (SetUp.nothingMissed (.setup ..)) run kept
  exact missed.mono fun _ missed => missed.missed.disabled

instance (atom : Atom) (controller : Controller) :
    (arrived : Except PyError Replica) → Decidable (ArrivalKept config atom controller arrived)
  | .error _ => .isTrue trivial
  | .ok _ => inferInstanceAs (Decidable (_ ∨ ¬ (_ ∧ _)))

instance (world : World) : (event : Event) → Decidable (WakeupKept config world event)
  | .trainAck .. => inferInstanceAs (Decidable (_ ∨ _ ∨ ¬ (_ ∧ _)))
  | .unregister .. => inferInstanceAs (Decidable (_ ∨ ¬ (_ ∧ _)))
  | .registerPolicy .. => inferInstanceAs (Decidable (ArrivalKept _ _ _ _))
  | .registerRollout .. | .getBatchedPrompt .. | .putRolloutGroup ..
  | .rolloutEndSignal .. | .tryTriggerDataFetchAndTraining | .validationReport .. =>
    .isTrue trivial

def starvedRun : List Event :=
  [.registerPolicy (singleAtom 0) 0, .registerPolicy (singleAtom 1) 1,
    .getBatchedPrompt 2 none none, .putRolloutGroup { rollouts := [⟨0, 0, 0⟩] }]

def fedRun : List Event :=
  starvedRun ++ [.putRolloutGroup { rollouts := [⟨1, 0, 0⟩] },
    .trainAck 0 1 2 (some (0, 0)), .trainAck 1 1 2 (some (0, 0))]

def sleepingRun : List Event := starvedRun ++ [.unregister 1]

theorem neverEnabled_fedRun :
    (barrierSystem barrierExampleConfig).Throughout
      (fun world => ¬ TriggerEnabled barrierExampleConfig world.controller)
      barrierExampleStart fedRun :=
  neverEnabled_of_kept 0 4 2 1 barrierExampleFetcher fedRun (by decide) (by decide)

theorem not_neverEnabled_sleepingRun :
    (barrierSystem barrierExampleConfig).IsRun barrierExampleStart sleepingRun ∧
      ¬ (barrierSystem barrierExampleConfig).Throughout
        (fun world => ¬ TriggerEnabled barrierExampleConfig world.controller)
        barrierExampleStart sleepingRun := by
  refine ⟨by decide, ?_⟩
  intro throughout
  have finish := throughout.finish
  revert finish
  decide

end CosmosRl.Dispatcher
