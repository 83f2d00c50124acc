import Mathlib.Tactic.Ring
import Mathlib.Tactic.Positivity
import Mathlib.Tactic.Zify
import CosmosRl.Dispatcher.World

/-!
Accounting for the samples on the fly.

The counter grows with the prompts handed out and shrinks when a step
completes.  It agrees with the rollouts that are really under way as long as
nothing is discarded and every step is completed by as many replicas as it was
dispatched to.
-/

namespace CosmosRl.Dispatcher

open CosmosRl.Foundation List

variable (config : Config)

def SamplesAccounted (world : World) : Prop :=
  world.controller.policy.samplesOnTheFly =
      (config.nGeneration : Int) * world.handedOut - world.consumedRollouts -
        world.discarded ∧
    0 ≤ world.controller.policy.samplesOnTheFly

/-- Acks come in order, and the rollouts consumed, being consumed or discarded
were generated from prompts that had been handed out. -/
def AccountingAllowed (world : World) (event : Event) : Prop :=
  AckInOrder world event ∧
    match event with
    | .trainAck _ step _ _ =>
      world.consumedRollouts + world.controller.stepItems step + world.discarded ≤
        config.nGeneration * world.handedOut
    | _ => True

instance (world : World) : (event : Event) → Decidable (AccountingAllowed config world event)
  | .trainAck .. => inferInstanceAs (Decidable (_ ∧ _))
  | .registerPolicy .. | .registerRollout .. | .unregister .. | .getBatchedPrompt ..
  | .putRolloutGroup .. | .rolloutEndSignal .. | .tryTriggerDataFetchAndTraining
  | .validationReport .. => .isTrue ⟨trivial, trivial⟩

def accountingSystem : EventSystem World Event where
  handle := World.handle config
  Allowed := AccountingAllowed config

/-- Nothing is discarded, and an ack that completes a step finds arrived as many
replicas as the rollouts of the step fill with whole batches. -/
def NothingLost (world : World) (event : Event) : Prop :=
  eventDiscarded config world.controller event = 0 ∧
    match event with
    | .trainAck name step _ _ =>
      entersCompletion name world.controller = true →
        world.controller.rolloutsPerStep config = world.controller.stepItems step
    | _ => True

instance (world : World) : (event : Event) → Decidable (NothingLost config world event)
  | .trainAck .. => inferInstanceAs (Decidable (_ ∧ _))
  | .registerPolicy .. | .registerRollout .. | .unregister .. | .getBatchedPrompt ..
  | .putRolloutGroup .. | .rolloutEndSignal .. | .tryTriggerDataFetchAndTraining
  | .validationReport .. => inferInstanceAs (Decidable (_ ∧ True))

instance (world : World) : Decidable (SamplesAccounted config world) :=
  inferInstanceAs (Decidable (_ ∧ _))

instance (world : World) (event : Event) :
    Decidable ((accountingSystem config).Allowed world event) :=
  inferInstanceAs (Decidable (AccountingAllowed config world event))

variable {config}

variable {before after : Controller} {step : Nat} {event : Event} {world : World}
  {name : ReplicaName}

theorem stepItems_of_append {sent : List SentFetch}
    (fetches : after.sentFetches = before.sentFetches ++ sent) {bound : Nat}
    (later : ∀ fetch ∈ sent, bound < fetch.globalStep) (old : step ≤ bound) :
    after.stepItems step = before.stepItems step := by
  have none_new : (sent.filter fun fetch => decide (fetch.globalStep = step)) = [] := by
    rw [filter_eq_nil_iff]
    intro fetch membership
    have := later fetch membership
    simp only [decide_eq_true_eq]
    omega
  unfold Controller.stepItems
  rw [fetches, filter_append, none_new, append_nil]

theorem Progress.stepItems_eq
    (progress : Progress before after) (old : step ≤ before.policy.currentStep) :
    after.stepItems step = before.stepItems step := by
  obtain ⟨_, sent, fetches, new⟩ := progress.sentFetches_append
  exact stepItems_of_append fetches new old

structure AccountingInvariant (config : Config) (world : World) : Prop where
  wellFormed : WellFormed world.controller
  fetchesIssued : FetchesIssued world.controller
  completedIssued : ∀ step ∈ world.completed, step ≤ world.controller.policy.currentStep
  accounted : SamplesAccounted config world

def eventConsumed (config : Config) (controller : Controller) : Event → Nat
  | .trainAck name _ _ _ =>
    if entersCompletion name controller then controller.rolloutsPerStep config else 0
  | _ => 0

structure AccountingStep (config : Config) (before : Controller) (event : Event)
    (after : Controller) : Prop where
  wellFormed : WellFormed after
  fetchesIssued : FetchesIssued after
  currentStep_le : before.policy.currentStep ≤ after.policy.currentStep
  stepItems_eq : ∀ step ≤ before.policy.currentStep,
    after.stepItems step = before.stepItems step
  samples_eq : after.policy.samplesOnTheFly = before.policy.samplesOnTheFly +
    eventHandedOut config before event * config.nGeneration -
      eventConsumed config before event

theorem AccountingStep.of_progress (issued : FetchesIssued before) {middle : Controller}
    (progress : Progress middle after) (wellFormed : WellFormed middle)
    (fetches : middle.sentFetches = before.sentFetches)
    (step : middle.policy.currentStep = before.policy.currentStep)
    (samples : middle.policy.samplesOnTheFly = before.policy.samplesOnTheFly +
      eventHandedOut config before event * config.nGeneration -
        eventConsumed config before event) :
    AccountingStep config before event after := by
  have issuedMiddle : FetchesIssued middle := by
    unfold FetchesIssued
    rw [fetches, step]
    exact issued
  refine ⟨progress.wellFormed wellFormed, ?_, ?_, ?_, ?_⟩
  · exact progress.preserves (fun _ _ holds advance => advance.fetchesIssued holds) issuedMiddle
  · rw [← step]
    exact progress.sentFetches_append.1
  · intro old bound
    rw [progress.stepItems_eq (step ▸ bound)]
    unfold Controller.stepItems
    rw [fetches]
  · rw [progress.samples_eq]
    exact samples

theorem handleEvent_accountingStep {controller : Controller}
    (wellFormed : WellFormed controller) (issued : FetchesIssued controller) (event : Event) :
    AccountingStep config controller event
      (handleEvent config controller event).state := by
  by_cases keeps : event.keepsReplicas = true
  · refine .of_progress issued (handleEvent_progress wellFormed keeps)
      ⟨wellFormed.shapesValid, wellFormed.statusKeys⟩ rfl rfl ?_
    have nothing : eventConsumed config controller event = 0 := by
      cases event <;> first | rfl | cases keeps
    rw [nothing]
    show controller.policy.samplesOnTheFly + _ = _
    omega
  · cases event with
    | registerRollout | putRolloutGroup | rolloutEndSignal | validationReport
    | tryTriggerDataFetchAndTraining | getBatchedPrompt => exact absurd rfl keeps
    | unregister name =>
      rcases @unregister_spec config controller name with ⟨_, quiet⟩ | ⟨_, quiet⟩
      · refine .of_progress issued (.of_quiet quiet) (wellFormed.withoutReplica name) rfl rfl ?_
        simp [eventHandedOut, eventConsumed, Controller.withoutReplica]
      · refine .of_progress issued (.of_quiet quiet) wellFormed rfl rfl ?_
        simp [eventHandedOut, eventConsumed]
    | registerPolicy atom now =>
      obtain ⟨joined, extended, progress⟩ :=
        @registerPolicy_joined config controller wellFormed atom now
      refine .of_progress issued progress extended.wellFormed extended.sentFetches_eq
        extended.currentStep_eq ?_
      simp [eventHandedOut, eventConsumed, extended.samples_eq]
    | trainAck name step totalSteps reportData =>
      by_cases known : name ∈ controller.policy.status.keys
      · have acked := wellFormed.withReduced known
        have consumed : WellFormed ((controller.withReduced name).consumed config) :=
          ⟨acked.shapesValid, acked.statusKeys⟩
        rcases @trainAck_spec config controller wellFormed name known step totalSteps
          reportData with ⟨waiting, quiet⟩ | ⟨reduced, _, quiet⟩ | ⟨reduced, _, progress⟩
        · refine .of_progress issued (.of_quiet quiet) acked rfl rfl ?_
          simp [eventHandedOut, eventConsumed, entersCompletion, waiting]
          rfl
        · refine .of_progress issued (.of_quiet quiet) consumed rfl rfl ?_
          simp [eventHandedOut, eventConsumed, entersCompletion, known, reduced]
          rfl
        · refine .of_progress issued progress consumed.allReadied rfl rfl ?_
          simp [eventHandedOut, eventConsumed, entersCompletion, known, reduced]
          rfl
      · have quiet := @quiet_trainAck_of_notMem config controller name known step
          totalSteps reportData
        refine .of_progress issued (.of_quiet quiet) wellFormed rfl rfl ?_
        simp [eventHandedOut, eventConsumed, entersCompletion, known]

theorem acked_issued (issued : FetchesIssued world.controller) {totalSteps : Int}
    {reportData : ReportData}
    (inOrder : AckInOrder world (.trainAck name step totalSteps reportData))
    (registered : name ∈ world.controller.policy.policyReplicas.keys) :
    step ≤ world.controller.policy.currentStep := by
  obtain ⟨fetch, next, rfl⟩ := inOrder.fetch registered
  have outstanding := mem_of_find?_eq_some next
  exact issued fetch (mem_of_mem_filter outstanding)

theorem registered_of_enters {controller : Controller} (wellFormed : WellFormed controller)
    (enters : entersCompletion name controller = true) :
    name ∈ controller.policy.policyReplicas.keys := by
  simp only [entersCompletion, Bool.and_eq_true, decide_eq_true_eq] at enters
  exact registered_of_status wellFormed enters.1

theorem completedStep_issued (wellFormed : WellFormed world.controller)
    (issued : FetchesIssued world.controller) (inOrder : AckInOrder world event) :
    ∀ step ∈ completedStep config world.controller event,
      step ≤ world.controller.policy.currentStep := by
  intro step membership
  cases event with
  | trainAck name acked totalSteps reportData =>
    simp only [completedStep] at membership
    split at membership
    · rename_i completes
      rw [mem_singleton] at membership
      rw [membership]
      exact acked_issued issued inOrder (registered_of_enters wellFormed completes.1)
    · cases membership
  | registerPolicy | unregister | registerRollout | putRolloutGroup | rolloutEndSignal
  | validationReport | tryTriggerDataFetchAndTraining | getBatchedPrompt => cases membership

section

variable (invariant : AccountingInvariant config world)

include invariant

theorem consumedRollouts_handle (inOrder : AckInOrder world event) :
    (world.handle config event).consumedRollouts = world.consumedRollouts +
      ((completedStep config world.controller event).map
        world.controller.stepItems).sum := by
  have changed := @handleEvent_accountingStep config _ invariant.wellFormed
    invariant.fetchesIssued event
  have kept : ∀ steps : List Nat,
      (∀ step ∈ steps, step ≤ world.controller.policy.currentStep) →
      (steps.map (handleEvent config world.controller event).state.stepItems).sum =
        (steps.map world.controller.stepItems).sum := by
    intro steps old
    congr 1
    apply map_congr_left
    intro step membership
    exact changed.stepItems_eq step (old step membership)
  unfold World.consumedRollouts World.handle
  rw [map_append, sum_append, kept _ invariant.completedIssued,
    kept _ (completedStep_issued invariant.wellFormed invariant.fetchesIssued inOrder)]

theorem samplesAccounted_handle_iff (inOrder : AckInOrder world event) :
    SamplesAccounted config (world.handle config event) ↔
      eventConsumed config world.controller event =
          ((completedStep config world.controller event).map
            world.controller.stepItems).sum +
            eventDiscarded config world.controller event ∧
        (eventConsumed config world.controller event : Int) ≤
          world.controller.policy.samplesOnTheFly +
            eventHandedOut config world.controller event * config.nGeneration := by
  have changed := @handleEvent_accountingStep config _ invariant.wellFormed
    invariant.fetchesIssued event
  obtain ⟨equation, _⟩ := invariant.accounted
  have samples : (world.handle config event).controller.policy.samplesOnTheFly = _ :=
    changed.samples_eq
  unfold SamplesAccounted
  rw [consumedRollouts_handle invariant inOrder, samples]
  have handed : (config.nGeneration : Int) * (world.handle config event).handedOut =
      config.nGeneration * world.handedOut +
        eventHandedOut config world.controller event * config.nGeneration := by
    simp only [World.handle]
    push_cast
    ring
  have discarded : (world.handle config event).discarded =
      world.discarded + eventDiscarded config world.controller event := rfl
  rw [handed, discarded]
  generalize ((completedStep config world.controller event).map
    world.controller.stepItems).sum = completed
  push_cast
  constructor
  · rintro ⟨balance, nonnegative⟩
    constructor <;> omega
  · rintro ⟨balance, covered⟩
    constructor <;> omega

theorem eventConsumed_of_nothingLost (allowed : AccountingAllowed config world event)
    (nothingLost : NothingLost config world event) :
    eventConsumed config world.controller event =
        ((completedStep config world.controller event).map
          world.controller.stepItems).sum ∧
      (eventConsumed config world.controller event : Int) ≤
        world.controller.policy.samplesOnTheFly +
          eventHandedOut config world.controller event * config.nGeneration := by
  obtain ⟨equation, nonnegative⟩ := invariant.accounted
  cases event with
  | trainAck name step totalSteps reportData =>
    have covered : world.consumedRollouts + world.controller.stepItems step +
        world.discarded ≤ config.nGeneration * world.handedOut := allowed.2
    cases enters : entersCompletion name world.controller with
    | false =>
      simp only [eventConsumed, completedStep, enters, eventHandedOut]
      simpa using nonnegative
    | true =>
      have whole := nothingLost.2 enters
      have enough : (world.controller.rolloutsPerStep config : Int) ≤
          world.controller.policy.samplesOnTheFly := by
        rw [equation, whole]
        zify at covered
        omega
      simp only [eventConsumed, completedStep, enters, enough, eventHandedOut]
      simpa using And.intro whole enough
  | getBatchedPrompt n validationStep rankInMesh =>
    refine ⟨rfl, ?_⟩
    show ((0 : Nat) : Int) ≤ _
    positivity
  | registerPolicy | unregister | registerRollout | putRolloutGroup | rolloutEndSignal
  | validationReport | tryTriggerDataFetchAndTraining =>
    refine ⟨rfl, ?_⟩
    simpa [eventConsumed, eventHandedOut] using nonnegative

theorem accountingInvariant_handle (allowed : AccountingAllowed config world event)
    (nothingLost : NothingLost config world event) :
    AccountingInvariant config (world.handle config event) := by
  have changed := @handleEvent_accountingStep config _ invariant.wellFormed
    invariant.fetchesIssued event
  refine ⟨changed.wellFormed, changed.fetchesIssued, ?_, ?_⟩
  · intro step membership
    refine le_trans ?_ changed.currentStep_le
    rcases mem_append.mp membership with earlier | new
    · exact invariant.completedIssued step earlier
    · exact completedStep_issued invariant.wellFormed invariant.fetchesIssued allowed.1 step new
  · rw [samplesAccounted_handle_iff invariant allowed.1, nothingLost.1, Nat.add_zero]
    exact eventConsumed_of_nothingLost invariant allowed nothingLost

theorem not_accounted_of_lost (allowed : AccountingAllowed config world event)
    (lost : ¬ NothingLost config world event) :
    ¬ SamplesAccounted config (world.handle config event) := by
  rw [samplesAccounted_handle_iff invariant allowed.1]
  rintro ⟨balance, covered⟩
  obtain ⟨_, nonnegative⟩ := invariant.accounted
  apply lost
  cases event with
  | trainAck name step totalSteps reportData =>
    refine ⟨rfl, fun enters => ?_⟩
    simp only [eventConsumed, enters, eventHandedOut, if_true] at balance covered
    by_cases enough : (world.controller.rolloutsPerStep config : Int) ≤
        world.controller.policy.samplesOnTheFly
    · simpa [completedStep, enters, enough, eventDiscarded] using balance
    · exact absurd (by simpa using covered) enough
  | registerPolicy | unregister | registerRollout | putRolloutGroup | rolloutEndSignal
  | validationReport | tryTriggerDataFetchAndTraining | getBatchedPrompt =>
    refine ⟨?_, trivial⟩
    simpa [eventConsumed, completedStep] using balance.symm

end

theorem SetUp.accountingInvariant {created started : Controller}
    (setUp : SetUp config created started) :
    AccountingInvariant config { controller := started } := by
  refine ⟨setUp.wellFormed, ?_, ?_, ?_⟩
  · intro fetch membership
    rw [setUp.sentFetches_eq] at membership
    cases membership
  · intro step membership
    cases membership
  · unfold SamplesAccounted World.consumedRollouts
    rw [setUp.samples_eq]
    simp

/-- The counter of the samples on the fly is exact throughout a run precisely
when no step of the run discards rollouts or is completed by a number of
replicas that its rollouts do not fill. -/
theorem samplesAccounted_iff_nothingLost (currentStep : Nat) (remainSamplesNum : Int)
    (nInitPolicyReplicas nInitRolloutReplicas : Nat) (fetcher : ControllerDataFetcher)
    (events : List Event) (run : (accountingSystem config).IsRun (World.start config currentStep
      remainSamplesNum nInitPolicyReplicas nInitRolloutReplicas fetcher) events) :
    (accountingSystem config).Throughout (SamplesAccounted config)
        (World.start config currentStep remainSamplesNum nInitPolicyReplicas
          nInitRolloutReplicas fetcher) events ↔
      (accountingSystem config).StepsMeet (NothingLost config)
        (World.start config currentStep remainSamplesNum nInitPolicyReplicas
          nInitRolloutReplicas fetcher) events :=
  EventSystem.throughout_iff_stepsMeet
    (fun _ invariant => invariant.accounted)
    (fun _ _ invariant allowed nothingLost =>
      accountingInvariant_handle invariant allowed nothingLost)
    (fun _ _ invariant allowed lost => not_accounted_of_lost invariant allowed lost)
    (SetUp.accountingInvariant (.setup ..)) run

def accountingExampleConfig : Config :=
  .small 0
    { trainDataloader := fun _ => [[0], [1], [2], [3]]
      valDataloader := [[0]]
      valDatasize := 1 }

def accountingExampleFetcher : ControllerDataFetcher where
  trainDataloaderIter := [[0], [1], [2], [3]]

def accountingExampleStart : World :=
  World.start accountingExampleConfig 0 4 1 1 accountingExampleFetcher

def keepingRun : List Event :=
  [.registerPolicy (singleAtom 0) 0, .getBatchedPrompt 1 none none,
    .putRolloutGroup { rollouts := [⟨0, 0, 0⟩] }, .trainAck 0 1 4 (some (0, 0))]

/-- Two prompts go out and come back generated with the same weights; the second
rollout is outdated by one step and filtered out. -/
def losingRun : List Event :=
  [.registerPolicy (singleAtom 0) 0, .getBatchedPrompt 2 none none,
    .putRolloutGroup { rollouts := [⟨0, 0, 0⟩, ⟨1, 0, 0⟩] }]

theorem samplesAccounted_keepingRun :
    (accountingSystem accountingExampleConfig).Throughout
      (SamplesAccounted accountingExampleConfig) accountingExampleStart keepingRun :=
  (samplesAccounted_iff_nothingLost 0 4 1 1 accountingExampleFetcher keepingRun
    (by decide)).mpr (by decide)

theorem not_samplesAccounted_losingRun :
    (accountingSystem accountingExampleConfig).IsRun accountingExampleStart losingRun ∧
      ¬ (accountingSystem accountingExampleConfig).Throughout
        (SamplesAccounted accountingExampleConfig) accountingExampleStart losingRun := by
  refine ⟨by decide, ?_⟩
  intro throughout
  have finish := throughout.finish
  revert finish
  decide

end CosmosRl.Dispatcher
