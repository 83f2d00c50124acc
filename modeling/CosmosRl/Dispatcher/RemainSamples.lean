import Mathlib.Algebra.Order.BigOperators.Group.List
import Mathlib.Algebra.Order.Ring.Nat
import CosmosRl.Dispatcher.RolloutRuns

/-!
Conservation of `remain_samples_num`.

The counter starts with all samples of the run.  A sample leaves it when it is consumed by
a step or reported and not used, so it should always be the start value less the rollouts
reported, plus those that are still pending.  Two places take rollouts out of the account:
a rollout that has no queue is lost with the error it raises, and forcing the last step
clears the shared buffer.  On-policy training leaves the loop of `put_rollouts` early, but
never before its last rollout: the filter lets through no more rollouts than the step
still needs.
-/

namespace CosmosRl.Dispatcher

open CosmosRl.Foundation List

variable (config : Config)

/-- The samples that remain are those of the start less the rollouts reported, plus the
rollouts that are still pending. -/
def RemainConserved (initial : Int) (ledger : Ledger) : Prop :=
  ledger.world.controller.policy.remainSamplesNum =
    initial - ledger.reported + ledger.world.controller.totalPendingRollouts config

instance (initial : Int) (ledger : Ledger) : Decidable (RemainConserved config initial ledger) :=
  inferInstanceAs (Decidable (_ = _))

/-- The rollouts of a request that are handed to `put_rollouts`. -/
def keptRollouts (report : RolloutReport) (controller : Controller) : List Rollout :=
  match filterOutdatedRollouts config report.rollouts
      (afterStatistics config report controller) with
  | (.error _, _) => []
  | (.ok rollouts, _) => rollouts

/-- Rollouts that pass the filter find a queue, unless on-policy training has completed
its rollouts, and no rollouts are left in the shared buffer when the last step is
forced. -/
def RemainKept (ledger : Ledger) : Event → Prop
  | .putRolloutGroup report =>
    ledger.world.controller.acceptsRollouts config = true ∨
      keptRollouts config report ledger.world.controller = [] ∨
      (config.onPolicy && ledger.world.controller.policy.onPolicyRolloutCompleted) = true
  | .rolloutEndSignal name =>
    forcesLastStep config (rolloutEnd name ledger.world.controller) = true →
      ledger.world.controller.sharedRollouts config = []
  | _ => True

instance (ledger : Ledger) : (event : Event) → Decidable (RemainKept config ledger event)
  | .putRolloutGroup .. => inferInstanceAs (Decidable (_ ∨ _ ∨ _))
  | .rolloutEndSignal .. => inferInstanceAs (Decidable (_ → _))
  | .registerPolicy .. | .registerRollout .. | .unregister .. | .getBatchedPrompt ..
  | .tryTriggerDataFetchAndTraining | .trainAck .. | .validationReport .. => .isTrue trivial

variable {config}

variable {controller : Controller} {rollouts : List Rollout}

theorem length_pendingRollouts_queued (rollout : Rollout)
    (accepts : controller.acceptsRollouts config = true) :
    (controller.queued config rollout).totalPendingRollouts config =
      controller.totalPendingRollouts config + 1 := by
  obtain ⟨sent, redis, flow, _⟩ := (traffic_queued rollout accepts).log
  have nothing_sent : sent = [] := by
    have same : (controller.queued config rollout).redis = controller.redis := by
      unfold Controller.queued
      split <;> rfl
    rw [same] at redis
    exact (append_right_eq_self.mp redis.symm)
  have counted := flow.length_eq
  rw [nothing_sent] at counted
  simp only [sentRollouts, filterMap_nil, length_nil, length_pendingRollouts] at counted
  simp at counted
  omega

theorem acceptsRollouts_queued (rollout : Rollout) (controller : Controller) :
    (controller.queued config rollout).acceptsRollouts config =
      controller.acceptsRollouts config := by
  unfold Controller.acceptsRollouts Controller.queued
  by_cases byRank : config.dataDispatchAsRankInMesh = true
  · simp [byRank]
  · simp [byRank]

theorem FleetSound.enough (sound : FleetSound config controller)
    (separate : config.mode ≠ .colocated) (enabled : TriggerEnabled config controller) :
    controller.rolloutsPerStep config ≤ controller.totalPendingRollouts config := by
  have enough := enabled.enough
  rw [rolloutsEnough_eq] at enough
  unfold enoughFor at enough
  rw [if_neg separate] at enough
  unfold Controller.rolloutsPerStep Controller.totalPendingRollouts
  by_cases byRank : config.dataDispatchAsRankInMesh = true
  · rw [if_pos byRank] at enough ⊢
    have built := sound.queuesBuilt separate byRank enabled
    have whole : controller.policy.rolloutBufferPerRank.length •
        config.trainBatchPerReplica ≤
          (controller.policy.rolloutBufferPerRank.map List.length).sum := by
      rw [← length_map List.length]
      apply card_nsmul_le_sum
      intro length inside
      obtain ⟨queue, member, rfl⟩ := mem_map.mp inside
      simpa using all_eq_true.mp enough queue member
    rw [nsmul_eq_mul, Nat.cast_id, Nat.mul_comm] at whole
    exact (Nat.mul_le_mul_left _ built).trans whole
  · rw [if_neg byRank] at enough ⊢
    simpa using enough

theorem FleetSound.acceptsRollouts_tryTrigger (sound : FleetSound config controller) :
    Controller.acceptsRollouts config
        (tryTriggerDataFetchAndTraining config false controller).state =
      controller.acceptsRollouts config := by
  rw [tryTrigger_eq]
  split
  · rename_i enabled
    obtain ⟨_, _, queues⟩ := issueStep_of_enabled sound.wellFormed enabled sound.queuesBuilt
    unfold Controller.acceptsRollouts
    rw [queues]
  · rfl

/-- With on-policy training the filter lets through no more than the step still needs. -/
theorem freshRollouts_few (onPolicy : config.onPolicy = true)
    (current : ∀ rollout ∈ rollouts, rollout.weightVersion ≤ controller.policy.currentStep) :
    freshRollouts config rollouts controller = [] ∨
      controller.totalPendingRollouts config +
          (freshRollouts config rollouts controller).length ≤
        config.trainBatchPerReplica * max controller.arrivedPolicyReplicas.length 1 := by
  by_cases nothing : freshRollouts config rollouts controller = []
  · exact .inl nothing
  · refine .inr ?_
    let last := (freshRollouts config rollouts controller).length - 1
    have positive := length_pos_of_ne_nil nothing
    have inside : last < (freshRollouts config rollouts controller).length := by omega
    obtain ⟨rollout, found⟩ : ∃ rollout,
        (freshRollouts config rollouts controller)[last]? = some rollout :=
      ⟨_, getElem?_eq_getElem inside⟩
    unfold freshRollouts at found
    rw [getElem?_map] at found
    obtain ⟨⟨original, position⟩, kept, rfl⟩ := Option.map_eq_some_iff.mp found
    obtain ⟨later, passed⟩ := zipIdx_filter_position _ rollouts 0 last kept
    have member : original ∈ rollouts := by
      have reported := (mem_filter.mp (mem_of_getElem? kept)).1
      exact (mem_zipIdx_iff_getElem?.mp reported |> mem_of_getElem?)
    have estimate : estimatedStep config position controller ≤
        original.weightVersion + config.allowedOutdatedSteps := by
      simpa [isFresh] using passed
    -- the estimate is the current step, so the rollout is used in the next step
    have synchronous := (config.onPolicy_synchronous onPolicy).2
    have version := current original member
    have quotaPos : 0 < config.trainBatchPerReplica *
        max controller.arrivedPolicyReplicas.length 1 :=
      Nat.mul_pos config.trainBatch_pos (by omega)
    have sameStep : (position + controller.totalPendingRollouts config) /
        (config.trainBatchPerReplica * max controller.arrivedPolicyReplicas.length 1) = 0 := by
      unfold estimatedStep at estimate
      generalize (position + controller.totalPendingRollouts config) /
        (config.trainBatchPerReplica * max controller.arrivedPolicyReplicas.length 1) = steps
        at estimate ⊢
      omega
    have within := (Nat.div_eq_zero_iff_lt quotaPos).mp sameStep
    simp only [Nat.zero_add] at later
    omega

/-- The loop accepts all rollouts it is given, if there are queues and on-policy training
does not complete its step before the last one. -/
theorem acceptedByLoop_all (separate : config.mode ≠ .colocated)
    (sound : FleetSound config controller)
    (accepts : controller.acceptsRollouts config = true) (few : config.onPolicy = true →
      controller.totalPendingRollouts config + rollouts.length ≤
        config.trainBatchPerReplica * max controller.arrivedPolicyReplicas.length 1) :
    acceptedByLoop config rollouts controller = rollouts := by
  induction rollouts generalizing controller with
  | nil => rfl
  | cons rollout rest ih =>
    let queued := controller.queued config rollout
    have queuedSound : FleetSound config queued :=
      (@sameFleet_queued config rollout controller).sound sound
    have acceptsNext : queued.acceptsRollouts config = true := by
      rw [show queued.acceptsRollouts config = _ from acceptsRollouts_queued _ _, accepts]
    have pending : queued.totalPendingRollouts config =
        controller.totalPendingRollouts config + 1 :=
      length_pendingRollouts_queued rollout accepts
    have perStep : queued.arrivedPolicyReplicas = controller.arrivedPolicyReplicas :=
      (@sameFleet_queued config rollout controller).mesh.arrived_eq
    obtain ⟨raised, putSound, _⟩ := sound.putRollout rollout accepts
    unfold acceptedByLoop
    rw [putRollout_accepted rollout accepts] at raised putSound ⊢
    dsimp only at raised putSound ⊢
    change Outcome.raised (tryTriggerDataFetchAndTraining config false queued) = none at raised
    rw [if_pos accepts, raised, Option.isSome_none, Bool.false_or]
    by_cases enabled : TriggerEnabled config queued
    · have enough := queuedSound.enough separate enabled
      have some_replica := length_pos_of_ne_nil enabled.arrived
      unfold Controller.rolloutsPerStep at enough
      cases onPolicy : config.onPolicy with
      | true =>
        have bound := few onPolicy
        rw [perStep] at enough some_replica
        rw [Nat.max_eq_left some_replica, length_cons] at bound
        have last : rest = [] := eq_nil_of_length_eq_zero (by omega)
        rw [last]
        split <;> rfl
      | false =>
        rw [Bool.false_and, if_neg Bool.false_ne_true]
        rw [ih putSound]
        · rw [queuedSound.acceptsRollouts_tryTrigger, acceptsNext]
        · intro claimed
          rw [onPolicy] at claimed
          cases claimed
    · have idle : tryTriggerDataFetchAndTraining config false queued = .ok queued := by
        rw [tryTrigger_eq, if_neg enabled]
      rw [show controller.queued config rollout = queued from rfl, idle, Outcome.ok_state,
        pending, decide_eq_false (Nat.succ_ne_zero _), Bool.and_false,
        if_neg Bool.false_ne_true]
      rw [ih queuedSound acceptsNext]
      intro onPolicy
      have bound := few onPolicy
      rw [length_cons] at bound
      rw [pending, perStep]
      omega

theorem acceptedByLoop_none (rollouts : List Rollout)
    (rejects : controller.acceptsRollouts config = false) :
    acceptedByLoop config rollouts controller = [] := by
  cases rollouts with
  | nil => rfl
  | cons rollout rest =>
    unfold acceptedByLoop
    simp [rejects]

/-- The account of an event balances if each rollout reported is accepted or counted, and
none is cleared. -/
theorem remainConserved_handle_iff (separate : config.mode ≠ .colocated) {initial : Int}
    {ledger : Ledger} (running : FleetRunning config ledger.world)
    (conserved : RemainConserved config initial ledger) {event : Event}
    (inOrder : AckInOrder ledger.world event) :
    RemainConserved config initial (ledger.handle config event) ↔
      eventReported config ledger.world.controller event +
          (eventTally config ledger.world.controller event).cleared.length =
        (eventTally config ledger.world.controller event).accepted.length +
          (eventTally config ledger.world.controller event).counted := by
  obtain ⟨sent, _, flow, counts⟩ := (running.handle inOrder).traffic.log
  obtain ⟨_, remain⟩ := counts separate
  have balance := flow.length_eq
  rw [length_pendingRollouts, length_pendingRollouts] at balance
  unfold RemainConserved at conserved ⊢
  have reported : (ledger.handle config event).reported =
      ledger.reported + eventReported config ledger.world.controller event := rfl
  have remainAfter : (ledger.handle config event).world.controller.policy.remainSamplesNum = _ :=
    remain
  rw [reported, remainAfter]
  show _ = initial - _ + ((Controller.totalPendingRollouts config
    (handleEvent config ledger.world.controller event).state : Nat) : Int) ↔ _
  push_cast
  omega

theorem afterStatistics_eq (report : RolloutReport) (controller : Controller) :
    ∃ remaining, afterStatistics config report controller =
      { controller with policy.remainSamplesNum := remaining } := by
  unfold afterStatistics
  split
  · exact ⟨_, rfl⟩
  · exact ⟨_, rfl⟩

/-- A request is accounted for unless its rollouts have no queue. -/
theorem reportTally_kept_iff (separate : config.mode ≠ .colocated)
    (sound : FleetSound config controller) (report : RolloutReport) :
    eventReported config controller (.putRolloutGroup report) =
        (reportTally config report controller).accepted.length +
          (reportTally config report controller).counted ↔
      controller.acceptsRollouts config = true ∨ keptRollouts config report controller = [] ∨
        (config.onPolicy && controller.policy.onPolicyRolloutCompleted) = true := by
  obtain ⟨counted, countedEq⟩ := @afterStatistics_eq config report controller
  simp only [eventReported, reportTally, keptRollouts]
  rcases @filterOutdatedRollouts_spec config report.rollouts
      (afterStatistics config report controller) with
    ⟨exn, _, rejected⟩ | ⟨filtered, kept, filteredEq⟩
  · rw [rejected]
    simp
  · have current : ∀ rollout ∈ report.rollouts, rollout.weightVersion ≤
        (afterStatistics config report controller).policy.currentStep := by
      intro rollout inside
      by_contra later
      unfold filterOutdatedRollouts at kept
      split at kept
      · simp at kept
      · rename_i none_later
        have notLater := find?_eq_none.mp none_later rollout inside
        simp at notLater
        omega
    have notMore := @length_freshRollouts_le config report.rollouts
      (afterStatistics config report controller)
    rw [kept]
    dsimp only
    rw [countedEq] at filteredEq current notMore ⊢
    generalize freshEq : freshRollouts config report.rollouts
      { controller with policy.remainSamplesNum := counted } = fresh at *
    have filteredSound : FleetSound config filtered := by
      rw [filteredEq]
      exact sound.withRemain _
    unfold acceptedByPut countedByPut
    rw [show filtered.policy.onPolicyRolloutCompleted =
      controller.policy.onPolicyRolloutCompleted by rw [filteredEq]]
    by_cases completed : (config.onPolicy && controller.policy.onPolicyRolloutCompleted) = true
    · rw [if_pos completed, if_pos completed]
      simp only [completed, or_true, iff_true, length_nil]
      omega
    · rw [if_neg completed, if_neg completed]
      cases accepts : controller.acceptsRollouts config with
      | true =>
        have all : acceptedByLoop config fresh filtered = fresh := by
          by_cases nothing : fresh = []
          · rw [nothing]
            rfl
          · apply acceptedByLoop_all separate filteredSound
            · rw [filteredEq]
              exact accepts
            · intro onPolicy
              have few := freshRollouts_few onPolicy current
              rw [freshEq] at few
              rw [filteredEq]
              exact few.resolve_left nothing
        rw [all]
        simp only [true_or, iff_true]
        omega
      | false =>
        have nothing : acceptedByLoop config fresh filtered = [] := by
          apply acceptedByLoop_none
          rw [filteredEq]
          exact accepts
        rw [nothing]
        simp only [Bool.false_eq_true, completed, false_or, or_false, length_nil]
        rw [← length_eq_zero_iff]
        omega

theorem remainKept_iff (separate : config.mode ≠ .colocated) {ledger : Ledger}
    (running : FleetRunning config ledger.world) (event : Event) :
    eventReported config ledger.world.controller event +
        (eventTally config ledger.world.controller event).cleared.length =
      (eventTally config ledger.world.controller event).accepted.length +
        (eventTally config ledger.world.controller event).counted ↔
      RemainKept config ledger event := by
  cases event with
  | putRolloutGroup report =>
    have nothing_cleared : (eventTally config ledger.world.controller
        (.putRolloutGroup report)).cleared.length = 0 := by
      simp only [eventTally, reportTally]
      split <;> rfl
    rw [nothing_cleared, Nat.add_zero]
    exact reportTally_kept_iff separate running.sound report
  | rolloutEndSignal name =>
    simp only [eventReported, eventTally, endTally, RemainKept]
    split
    · rename_i forced
      simp [forced]
    · rename_i notForced
      simp [notForced]
  | registerPolicy | unregister | registerRollout | getBatchedPrompt | trainAck
  | validationReport | tryTriggerDataFetchAndTraining =>
    exact ⟨fun _ => trivial, fun _ => rfl⟩

structure RemainInvariant (config : Config) (initial : Int) (ledger : Ledger) : Prop where
  running : FleetRunning config ledger.world
  conserved : RemainConserved config initial ledger

theorem SetUp.remainInvariant {created started : Controller}
    (setUp : SetUp config created started) (separate : config.mode ≠ .colocated) {initial : Int}
    (remain : created.policy.remainSamplesNum = initial) :
    RemainInvariant config initial { world := { controller := started } } := by
  refine ⟨setUp.fleetRunning, ?_⟩
  obtain ⟨sent, _, flow, counts⟩ := (traffic_parts.setUp setUp).log
  obtain ⟨_, after⟩ := counts separate
  have none_counted : ((({} : Tally).counted : Nat) : Int) = 0 := rfl
  have balance := flow.length_eq
  rw [setUp.pendingRollouts_eq, length_pendingRollouts] at balance
  rw [remain, none_counted] at after
  simp only [length_nil] at balance
  show started.policy.remainSamplesNum = initial - ((0 : Nat) : Int) +
    (started.totalPendingRollouts config : Nat)
  omega

/-- In a disaggregated run the samples that remain are accounted for in every state
precisely when rollouts that pass the filter always find a queue and the shared buffer is
empty whenever the last step is forced. -/
theorem remainConserved_iff_kept (disaggregated : config.mode = .disaggregated)
    (currentStep : Nat) (remainSamplesNum : Int)
    (nInitPolicyReplicas nInitRolloutReplicas : Nat) (fetcher : ControllerDataFetcher)
    (events : List Event)
    (run : (ledgerSystem config).IsRun (Ledger.start config currentStep remainSamplesNum
      nInitPolicyReplicas nInitRolloutReplicas fetcher) events) :
    (ledgerSystem config).Throughout (RemainConserved config remainSamplesNum)
        (Ledger.start config currentStep remainSamplesNum nInitPolicyReplicas
          nInitRolloutReplicas fetcher) events ↔
      (ledgerSystem config).StepsMeet (RemainKept config)
        (Ledger.start config currentStep remainSamplesNum nInitPolicyReplicas
          nInitRolloutReplicas fetcher) events := by
  have separate : config.mode ≠ .colocated := by
    rw [disaggregated]
    simp
  have preserves : ∀ ledger event, RemainInvariant config remainSamplesNum ledger →
      (ledgerSystem config).Allowed ledger event → RemainKept config ledger event →
      RemainInvariant config remainSamplesNum ((ledgerSystem config).handle ledger event) := by
    intro ledger event invariant inOrder kept
    refine ⟨invariant.running.next inOrder, ?_⟩
    apply (remainConserved_handle_iff separate invariant.running invariant.conserved inOrder).mpr
    exact (remainKept_iff separate invariant.running event).mpr kept
  have breaks : ∀ ledger event, RemainInvariant config remainSamplesNum ledger →
      (ledgerSystem config).Allowed ledger event → ¬ RemainKept config ledger event →
      ¬ RemainConserved config remainSamplesNum ((ledgerSystem config).handle ledger event) := by
    intro ledger event invariant inOrder notKept conserved
    apply notKept
    apply (remainKept_iff separate invariant.running event).mp
    exact (remainConserved_handle_iff separate invariant.running invariant.conserved
      inOrder).mp conserved
  exact EventSystem.throughout_iff_stepsMeet (fun _ invariant => invariant.conserved)
    preserves breaks (SetUp.remainInvariant (.setup ..) separate rfl) run

def remainExampleConfig : Config :=
  Config.small 0
    { trainDataloader := fun _ => [[0], [1], [2], [3]]
      valDataloader := []
      valDatasize := 0 }

def remainExampleFetcher : ControllerDataFetcher where
  trainDataloaderIter := [[0], [1], [2], [3]]

def wholeStepRun : List Event :=
  [.registerPolicy (singleAtom 0) 0, .registerPolicy (singleAtom 1) 1,
    .registerRollout (singleAtom 2) 2,
    .putRolloutGroup { rollouts := [⟨0, 0, 0⟩, ⟨1, 0, 0⟩] }, .rolloutEndSignal 2]

def halfStepRun : List Event :=
  [.registerPolicy (singleAtom 0) 0, .registerPolicy (singleAtom 1) 1,
    .registerRollout (singleAtom 2) 2,
    .putRolloutGroup { rollouts := [⟨0, 0, 0⟩] }, .rolloutEndSignal 2]

theorem remainConserved_wholeStepRun :
    (ledgerSystem remainExampleConfig).Throughout (RemainConserved remainExampleConfig 4)
      (Ledger.start remainExampleConfig 0 4 2 1 remainExampleFetcher) wholeStepRun :=
  (remainConserved_iff_kept rfl 0 4 2 1 remainExampleFetcher wholeStepRun
    (by decide)).mpr (by decide)

theorem not_remainConserved_halfStepRun :
    (ledgerSystem remainExampleConfig).IsRun
        (Ledger.start remainExampleConfig 0 4 2 1 remainExampleFetcher) halfStepRun ∧
      ¬ (ledgerSystem remainExampleConfig).Throughout
        (RemainConserved remainExampleConfig 4)
        (Ledger.start remainExampleConfig 0 4 2 1 remainExampleFetcher) halfStepRun := by
  refine ⟨by decide, ?_⟩
  intro throughout
  have finish := throughout.finish
  revert finish
  decide

end CosmosRl.Dispatcher
