import CosmosRl.Dispatcher.Blocking
import CosmosRl.Dispatcher.RolloutIntake

/-!
The rollouts over whole runs.

Every event keeps the fleet sound, moves the rollouts by its tally and never waits for an
empty queue.  A ledger beside the controller adds the tallies up; the flow of the rollouts
from the start of a run to any of its states follows by composition.
-/

namespace CosmosRl.Dispatcher

open CosmosRl.Foundation

variable {config : Config}

variable {controller : Controller}

theorem IntakeSound.poll (sound : FleetSound config controller) :
    IntakeSound config {} controller
      (tryTriggerDataFetchAndTraining config false controller) := by
  obtain ⟨raised, traffic⟩ := sound.poll
  exact ⟨by simp [raised], sound.tryTrigger.1, traffic⟩

theorem IntakeSound.after_still {tally : Tally} {before middle : Controller} {result : Result}
    (intake : IntakeSound config tally middle result)
    (traffic : Traffic config {} before middle) : IntakeSound config tally before result :=
  ⟨intake.raised, intake.sound, traffic.after_still intake.traffic⟩

section

variable (sound : FleetSound config controller) {name : ReplicaName}

include sound

theorem IntakeSound.getBatchedPrompt (n : Nat) (validationStep rankInMesh : Option Nat) :
    IntakeSound config {} controller
      (handleEvent config controller (.getBatchedPrompt n validationStep rankInMesh)) := by
  have traffic := @traffic_getBatchedPrompt config n validationStep rankInMesh controller
  have notBlocked := @getBatchedPrompt_notBlocked config n validationStep rankInMesh controller
  have fleet : FleetSound config
      (Dispatcher.getBatchedPrompt config n validationStep rankInMesh controller).2 := by
    rcases @getBatchedPrompt_spec config n validationStep rankInMesh controller with
      ⟨_, samePolicy, _⟩ | ⟨payloads, isEnd, base, result, samePolicy, _⟩
    · have same : SameFleet controller
          (Dispatcher.getBatchedPrompt config n validationStep rankInMesh controller).2 := by
        refine ⟨⟨?_, ?_, ?_⟩, ?_, ?_, ?_⟩ <;> rw [samePolicy]
      exact same.sound sound
    · have same : SameFleet controller base := by
        refine ⟨⟨?_, ?_, ?_⟩, ?_, ?_, ?_⟩ <;> rw [samePolicy]
      have baseSound := same.sound sound
      rw [result]
      unfold handOut
      dsimp only
      split
      · exact baseSound
      · have counted : SameFleet base { base with
            policy.samplesOnTheFly :=
              base.policy.samplesOnTheFly + payloads.length * config.nGeneration } :=
          ⟨⟨rfl, rfl, rfl⟩, rfl, rfl, rfl⟩
        exact counted.sound baseSound
  simp only [handleEvent]
  rcases answered : Dispatcher.getBatchedPrompt config n validationStep rankInMesh controller
    with ⟨answer, after⟩
  rw [answered] at traffic notBlocked fleet
  cases answer with
  | ok payloads => exact ⟨by simp, fleet, traffic⟩
  | error exn =>
    refine ⟨?_, fleet, traffic⟩
    have other := notBlocked exn rfl
    simpa using other

theorem IntakeSound.validationReport (validationStep numResults : Nat) :
    IntakeSound config {} controller
      (validationReportValidationResults config validationStep numResults controller) := by
  rcases validationReport_cases validationStep numResults controller with report | report
  · have same : SameFleet controller (controller.validationClosed validationStep numResults) :=
      ⟨⟨rfl, rfl, rfl⟩, rfl, rfl, rfl⟩
    rw [report]
    exact (IntakeSound.poll (same.sound sound)).after_still (.untouched rfl rfl rfl rfl)
  · have same : SameFleet controller (controller.validated validationStep numResults) :=
      ⟨⟨rfl, rfl, rfl⟩, rfl, rfl, rfl⟩
    rw [report]
    exact ⟨by simp, same.sound sound, .untouched rfl rfl rfl rfl⟩

theorem IntakeSound.finishStep (step : Nat) (totalSteps : Int) :
    IntakeSound config {} controller (finishStep config step totalSteps controller) := by
  let synced := syncedWeights config step totalSteps controller
  have kept : PolicyKept controller synced :=
    policyKept_rolloutParts.syncedWeights step totalSteps controller
  have traffic : Traffic config {} controller synced :=
    traffic_parts.rolloutParts.syncedWeights step totalSteps controller
  obtain ⟨raised, moved⟩ := ((SameFleet.of_policyKept kept).sound sound).poll
  have after := (NothingMissed.finishStep sound step totalSteps).sound
  refine ⟨?_, after, ?_⟩
  · rw [finishStep_eq, Outcome.andThen, raised]
    dsimp only
    split <;> simp
  · rw [finishStep_eq]
    apply Traffic.andThen (traffic.still moved)
    intro state
    split
    · exact .untouched rfl rfl rfl rfl
    · exact .refl state

/-- An ack of a replica that has been initialized. -/
theorem IntakeSound.trainAck
    (started : ∀ status, controller.policy.status.get? name = some status →
      status ≠ .uninitialized) (step : Nat) (totalSteps : Int) (reportData : ReportData) :
    IntakeSound config {} controller
      (trainAck config name step totalSteps reportData controller) := by
  rcases @trainAck_cases config controller sound.wellFormed name step totalSteps reportData with
    ⟨_, exn, fine, same | same⟩ | ⟨known, outcome⟩
  · rw [same]
    exact ⟨by simpa using fine, sound, .refl controller⟩
  · have sameFleet : SameFleet controller { controller with
        policy.reportDataList := controller.policy.reportDataList ++ [reportData] } :=
      ⟨⟨rfl, rfl, rfl⟩, rfl, rfl, rfl⟩
    rw [same]
    exact ⟨by simpa using fine, sameFleet.sound sound, .untouched rfl rfl rfl rfl⟩
  · obtain ⟨status, found⟩ := Dict.mem_keys_iff_get?.mp known
    have initialized := started status found
    rcases outcome with ⟨_, well, same⟩ | ⟨_, _, well, same⟩ | ⟨_, _, well, same⟩
    · rw [same]
      exact ⟨by simp, sound.of_started found initialized well ⟨rfl, rfl, rfl⟩ rfl rfl,
        .untouched rfl rfl rfl rfl⟩
    · rw [same]
      exact ⟨by simp, sound.of_started found initialized well ⟨rfl, rfl, rfl⟩ rfl rfl,
        .untouched rfl rfl rfl rfl⟩
    · obtain ⟨sameMesh, sameStep, sameQueues⟩ :=
        @sameFields_readied config controller name reportData
      have readiedSound := sound.of_started found initialized well sameMesh sameStep sameQueues
      have consumed : Traffic config {} controller
          ((controller.reported name reportData).consumed config) := .untouched rfl rfl rfl rfl
      have readied : Traffic config {} controller (controller.readied config name reportData) :=
        (consumed.still (traffic_sumAndReportData _)).still (.untouched rfl rfl rfl rfl)
      rw [same]
      exact (IntakeSound.finishStep readiedSound step totalSteps).after_still readied

theorem IntakeSound.registerPolicy (atom : Atom) (now : Nat) :
    IntakeSound config {} controller (registerPolicy config atom now controller) := by
  refine ⟨notBlocked_registerPolicy atom now controller, ?_,
    traffic_registerPolicy atom now controller⟩
  cases arrive : arriveReplica atom controller.policy.policyReplicas with
  | error exn =>
    rw [registerPolicy_refused arrive]
    exact sound
  | ok replica =>
    cases complete : replica.allAtomsArrived with
    | false =>
      rw [registerPolicy_stored arrive complete]
      exact sound.store arrive complete
    | true =>
      exact (@FleetSound.registerPolicy_arrived config _ sound atom now replica arrive complete).1

theorem IntakeSound.unregister (name : ReplicaName) :
    IntakeSound config {} controller (unregister config name controller) := by
  refine ⟨notBlocked_unregister name controller, ?_, traffic_unregister name controller⟩
  unfold Dispatcher.unregister
  by_cases registered : name ∈ controller.policy.policyReplicas.keys
  · rw [if_pos registered]
    by_cases known : name ∈ controller.policy.status.keys
    · exact (sound.unregisterPolicy_arrived registered known).1
    · rw [unregisterPolicy_incomplete registered known]
      exact sound.withoutIncomplete known
  · rw [if_neg registered]
    split
    · exact (SameFleet.of_policyKept (policyKept_unregisterRollout name controller)).sound sound
    · exact sound

end

structure FleetRunning (config : Config) (world : World) : Prop where
  sound : FleetSound config world.controller
  owers : OwersInitialized world.settled world.controller

theorem FleetRunning.handle {world : World} (running : FleetRunning config world)
    {event : Event} (inOrder : AckInOrder world event) :
    IntakeSound config (eventTally config world.controller event) world.controller
      (handleEvent config world.controller event) := by
  have sound := running.sound
  cases event with
  | registerPolicy atom now => exact .registerPolicy sound atom now
  | registerRollout atom now =>
    exact ⟨notBlocked_registerRollout atom now world.controller,
      (SameFleet.of_policyKept (policyKept_registerRollout atom now world.controller)).sound
        sound, traffic_parts.rolloutParts.registerRollout atom now world.controller⟩
  | unregister name => exact .unregister sound name
  | getBatchedPrompt n validationStep rankInMesh =>
    exact .getBatchedPrompt sound n validationStep rankInMesh
  | putRolloutGroup report => exact sound.putRolloutGroup report
  | rolloutEndSignal name => exact sound.rolloutEndSignal name
  | tryTriggerDataFetchAndTraining => exact .poll sound
  | trainAck name step totalSteps reportData =>
    exact .trainAck sound (running.owers.started_of_inOrder sound.wellFormed inOrder) step
      totalSteps reportData
  | validationReport validationStep numResults =>
    exact .validationReport sound validationStep numResults

theorem FleetRunning.next {world : World} (running : FleetRunning config world)
    {event : Event} (inOrder : AckInOrder world event) :
    FleetRunning config (world.handle config event) :=
  ⟨(running.handle inOrder).sound,
    owersInitialized_handle running.sound.wellFormed running.owers⟩

variable {created started : Controller}

theorem SetUp.fleetRunning (setUp : SetUp config created started) :
    FleetRunning config { controller := started } :=
  ⟨setUp.nothingMissed.missed.sound, setUp.nothingMissed.owers⟩

theorem SetUp.pendingRollouts_eq (setUp : SetUp config created started) :
    created.pendingRollouts config = [] := by
  cases setUp
  unfold Controller.pendingRollouts
  split <;> rfl

section Ledger

variable (config : Config)

/-- The rollouts an event reports: those the worker has filtered out itself, and those of
the request, unless one of them comes from the future and the request is refused. -/
def eventReported (controller : Controller) : Event → Nat
  | .putRolloutGroup report =>
    filteredByWorker config report +
      match filterOutdatedRollouts config report.rollouts
          (afterStatistics config report controller) with
      | (.error _, _) => 0
      | (.ok _, _) => report.rollouts.length
  | _ => 0

structure Ledger where
  world : World
  reported : Nat := 0
  accepted : List Rollout := []
  cleared : List Rollout := []

def Ledger.handle (ledger : Ledger) (event : Event) : Ledger where
  world := ledger.world.handle config event
  reported := ledger.reported + eventReported config ledger.world.controller event
  accepted := ledger.accepted ++ (eventTally config ledger.world.controller event).accepted
  cleared := ledger.cleared ++ (eventTally config ledger.world.controller event).cleared

def Ledger.start (currentStep : Nat) (remainSamplesNum : Int)
    (nInitPolicyReplicas nInitRolloutReplicas : Nat) (fetcher : ControllerDataFetcher) :
    Ledger where
  world := World.start config currentStep remainSamplesNum nInitPolicyReplicas
    nInitRolloutReplicas fetcher

def ledgerSystem : EventSystem Ledger Event where
  handle := Ledger.handle config
  Allowed ledger event := AckInOrder ledger.world event

instance (ledger : Ledger) (event : Event) :
    Decidable ((ledgerSystem config).Allowed ledger event) :=
  inferInstanceAs (Decidable (AckInOrder ledger.world event))

end Ledger

end CosmosRl.Dispatcher
