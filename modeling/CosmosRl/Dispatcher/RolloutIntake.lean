import CosmosRl.Dispatcher.StepTraffic
import CosmosRl.Dispatcher.Wakeup

/-!
Rollouts coming in, and the tally of every event.

A reported rollout is filtered out, dropped once on-policy training has what it needs,
or accepted into a buffer.  When the last rollout replica ends with less than a step in
the buffers, the shared buffer is cleared and a last step without rollouts is forced.
-/

namespace CosmosRl.Dispatcher

open CosmosRl.Foundation

variable (config : Config)

def Controller.acceptsRollouts (controller : Controller) : Bool :=
  !(config.dataDispatchAsRankInMesh &&
    decide (controller.policy.rolloutBufferPerRank.length = 0))

def acceptedByLoop : List Rollout → Controller → List Rollout
  | [], _ => []
  | rollout :: rest, controller =>
    let put := putRollout config rollout controller
    if controller.acceptsRollouts config then
      if put.raised.isSome ||
          (config.onPolicy && decide (put.state.totalPendingRollouts config = 0)) then
        [rollout]
      else rollout :: acceptedByLoop rest put.state
    else []

def acceptedByPut (rollouts : List Rollout) (controller : Controller) : List Rollout :=
  if config.onPolicy && controller.policy.onPolicyRolloutCompleted then []
  else acceptedByLoop config rollouts controller

/-- The rollouts a request takes off `remain_samples_num` without accepting them. -/
def countedByPut (rollouts : List Rollout) (controller : Controller) : Nat :=
  if config.onPolicy && controller.policy.onPolicyRolloutCompleted then rollouts.length
  else 0

def filteredByWorker (report : RolloutReport) : Nat :=
  if config.variant = .dapo then report.filteredPositive + report.filteredNegative else 0

def afterStatistics (report : RolloutReport) (controller : Controller) : Controller :=
  if config.variant = .dapo then
    updateDynamicSamplingStatistics report.filteredPositive report.filteredNegative
      controller
  else controller

def reportTally (report : RolloutReport) (controller : Controller) : Tally :=
  match filterOutdatedRollouts config report.rollouts
      (afterStatistics config report controller) with
  | (.error _, _) => { counted := filteredByWorker config report }
  | (.ok rollouts, filtered) =>
    { accepted := acceptedByPut config rollouts filtered
      counted := filteredByWorker config report +
        (report.rollouts.length - rollouts.length) +
        countedByPut config rollouts filtered }

def forcesLastStep (controller : Controller) : Bool :=
  let recomputed := recomputeTotalSteps config
    (some (controller.totalPendingRollouts config)) controller
  controller.allRolloutsEnded &&
    decide (recomputed.policy.totalSteps ≤ recomputed.policy.currentStep) &&
    decide ((recomputed.policy.currentStep : Int) ≠ controller.policy.totalSteps)

def Controller.sharedRollouts (controller : Controller) : List Rollout :=
  if config.dataDispatchAsRankInMesh then [] else controller.policy.rolloutBuffer

def endTally (name : ReplicaName) (controller : Controller) : Tally :=
  if forcesLastStep config (rolloutEnd name controller) then
    { cleared := controller.sharedRollouts config }
  else {}

def eventTally (controller : Controller) : Event → Tally
  | .putRolloutGroup report => reportTally config report controller
  | .rolloutEndSignal name => endTally config name controller
  | _ => {}

variable {config}

def Controller.queued (config : Config) (rollout : Rollout) (controller : Controller) :
    Controller :=
  if config.dataDispatchAsRankInMesh then
    { controller with
      policy.rolloutBufferPerRank := controller.policy.rolloutBufferPerRank.modify
        (rollout.promptIdx % controller.policy.rolloutBufferPerRank.length)
        fun queue => queue ++ [rollout] }
  else { controller with policy.rolloutBuffer := controller.policy.rolloutBuffer ++ [rollout] }

variable {controller : Controller}

theorem putRollout_accepted (rollout : Rollout)
    (accepts : controller.acceptsRollouts config = true) :
    putRollout config rollout controller =
      tryTriggerDataFetchAndTraining config false (controller.queued config rollout) := by
  unfold putRollout Controller.queued
  by_cases byRank : config.dataDispatchAsRankInMesh = true
  · have some_queue : controller.policy.rolloutBufferPerRank.length ≠ 0 := by
      simpa [Controller.acceptsRollouts, byRank] using accepts
    rw [if_pos byRank, if_neg some_queue, if_pos byRank]
  · rw [if_neg byRank, if_neg byRank]

theorem putRollout_rejected (rollout : Rollout)
    (rejects : controller.acceptsRollouts config = false) :
    putRollout config rollout controller = .raise controller .zeroDivisionError := by
  obtain ⟨byRank, no_queue⟩ : config.dataDispatchAsRankInMesh = true ∧
      controller.policy.rolloutBufferPerRank.length = 0 := by
    simpa [Controller.acceptsRollouts] using rejects
  unfold putRollout
  rw [if_pos byRank, if_pos no_queue]

theorem sameFleet_queued (rollout : Rollout) (controller : Controller) :
    SameFleet controller (controller.queued config rollout) := by
  unfold Controller.queued
  split
  · exact ⟨⟨rfl, rfl, rfl⟩, rfl, rfl, List.length_modify _ _ _⟩
  · exact ⟨⟨rfl, rfl, rfl⟩, rfl, rfl, rfl⟩

theorem traffic_queued (rollout : Rollout) (accepts : controller.acceptsRollouts config = true) :
    Traffic config { accepted := [rollout] } controller
      (controller.queued config rollout) := by
  have redis : (controller.queued config rollout).redis = controller.redis := by
    unfold Controller.queued
    split <;> rfl
  have remain : (controller.queued config rollout).policy.remainSamplesNum =
      controller.policy.remainSamplesNum := by
    unfold Controller.queued
    split <;> rfl
  refine ⟨[], by rw [redis, List.append_nil], .arrive ?_ ?_, ?_⟩
  · unfold Controller.pendingRollouts Controller.queued
    by_cases byRank : config.dataDispatchAsRankInMesh = true
    · have some_queue : controller.policy.rolloutBufferPerRank.length ≠ 0 := by
        simpa [Controller.acceptsRollouts, byRank] using accepts
      rw [if_pos byRank, if_pos byRank, if_pos byRank]
      exact (perm_flatten_modify (Nat.mod_lt _ (Nat.pos_of_ne_zero some_queue)) rollout).symm
    · rw [if_neg byRank, if_neg byRank, if_neg byRank]
  · intro shared
    unfold Controller.pendingRollouts Controller.queued
    simp [shared]
  · intro _
    refine ⟨fun name => .of_quiet (by simp) (by simp), ?_⟩
    rw [remain]
    simp [sentRollouts]

namespace FleetSound

variable {controller : Controller}

section

variable (sound : FleetSound config controller)

include sound

theorem putRollout (rollout : Rollout) (accepts : controller.acceptsRollouts config = true) :
    let put := Dispatcher.putRollout config rollout controller
    put.raised = none ∧ FleetSound config put.state ∧
      Traffic config { accepted := [rollout] } controller put.state := by
  have soundQueued := (@sameFleet_queued config rollout controller).sound sound
  obtain ⟨raised, traffic⟩ := soundQueued.poll
  rw [putRollout_accepted rollout accepts]
  exact ⟨raised, soundQueued.tryTrigger.1, (traffic_queued rollout accepts).still traffic⟩

theorem withPolicyFlags (completed : Bool) :
    FleetSound config
      { controller with policy.onPolicyRolloutCompleted := completed } := by
  have same : SameFleet controller
      { controller with policy.onPolicyRolloutCompleted := completed } :=
    ⟨⟨rfl, rfl, rfl⟩, rfl, rfl, rfl⟩
  exact same.sound sound

theorem withRemain (remaining : Int) :
    FleetSound config { controller with policy.remainSamplesNum := remaining } := by
  have same : SameFleet controller
      { controller with policy.remainSamplesNum := remaining } :=
    ⟨⟨rfl, rfl, rfl⟩, rfl, rfl, rfl⟩
  exact same.sound sound

end

end FleetSound

structure IntakeSound (config : Config) (tally : Tally) (before : Controller)
    (result : Result) : Prop where
  raised : result.raised ≠ some .blocked
  sound : FleetSound config result.state
  traffic : Traffic config tally before result.state

theorem FleetSound.putRolloutLoop (sound : FleetSound config controller) (rollouts : List Rollout) :
    IntakeSound config { accepted := acceptedByLoop config rollouts controller } controller
      (putRolloutLoop config rollouts controller) := by
  induction rollouts generalizing controller with
  | nil => exact ⟨by simp [Dispatcher.putRolloutLoop], sound, .refl controller⟩
  | cons rollout rest ih =>
    unfold Dispatcher.putRolloutLoop acceptedByLoop
    cases accepts : controller.acceptsRollouts config with
    | false =>
      rw [putRollout_rejected rollout accepts, Outcome.raise_andThen]
      exact ⟨by simp, sound, .refl controller⟩
    | true =>
      obtain ⟨raised, soundPut, traffic⟩ := sound.putRollout rollout accepts
      dsimp only at raised soundPut traffic ⊢
      generalize Dispatcher.putRollout config rollout controller = put at *
      rw [Outcome.andThen_of_finished raised, raised, Option.isSome_none, Bool.false_or,
        if_pos rfl]
      by_cases completed : (config.onPolicy &&
          decide (put.state.totalPendingRollouts config = 0)) = true
      · rw [if_pos completed, if_pos completed]
        exact ⟨by simp, soundPut.withPolicyFlags true, traffic.still (.untouched rfl rfl rfl rfl)⟩
      · rw [if_neg completed, if_neg completed]
        obtain ⟨laterRaised, laterSound, laterTraffic⟩ := ih soundPut
        refine ⟨laterRaised, laterSound, ?_⟩
        have both := traffic.trans laterTraffic
        simpa [Tally.append] using both

theorem FleetSound.putRollouts (sound : FleetSound config controller) (rollouts : List Rollout) :
    IntakeSound config
      { accepted := acceptedByPut config rollouts controller
        counted := countedByPut config rollouts controller } controller
      (putRollouts config rollouts controller) := by
  unfold Dispatcher.putRollouts acceptedByPut countedByPut
  by_cases completed : (config.onPolicy && controller.policy.onPolicyRolloutCompleted) = true
  · rw [if_pos completed, if_pos completed, if_pos completed]
    exact ⟨by simp, sound.withRemain _, .silent _ rfl rfl fun _ => rfl⟩
  · rw [if_neg completed, if_neg completed, if_neg completed]
    exact sound.putRolloutLoop rollouts

theorem traffic_afterStatistics (report : RolloutReport) (controller : Controller) :
    Traffic config { counted := filteredByWorker config report } controller
      (afterStatistics config report controller) := by
  unfold filteredByWorker afterStatistics
  split
  · refine .silent _ rfl rfl fun _ => ?_
    show controller.policy.remainSamplesNum - (report.filteredPositive : Int) -
      report.filteredNegative = _
    push_cast
    omega
  · exact .refl controller

theorem FleetSound.afterStatistics (sound : FleetSound config controller) (report : RolloutReport) :
    FleetSound config (afterStatistics config report controller) := by
  unfold Dispatcher.afterStatistics
  split
  · exact sound.withRemain _
  · exact sound

theorem length_freshRollouts_le (rollouts : List Rollout) (controller : Controller) :
    (freshRollouts config rollouts controller).length ≤ rollouts.length := by
  unfold freshRollouts
  rw [List.length_map]
  exact (List.length_filter_le _ _).trans (by simp)

theorem filterOutdatedRollouts_spec (rollouts : List Rollout) (controller : Controller) :
    (∃ exn, exn ≠ .blocked ∧
        filterOutdatedRollouts config rollouts controller = (.error exn, controller)) ∨
      ∃ filtered, filterOutdatedRollouts config rollouts controller =
          (.ok (freshRollouts config rollouts controller), filtered) ∧
        filtered = { controller with
          policy.remainSamplesNum := controller.policy.remainSamplesNum -
            ((rollouts.length - (freshRollouts config rollouts controller).length : Nat) :
              Int) } := by
  unfold filterOutdatedRollouts
  split
  · exact .inl ⟨_, by simp, rfl⟩
  · refine .inr ⟨_, rfl, ?_⟩
    rw [Nat.cast_sub (length_freshRollouts_le rollouts controller)]

theorem FleetSound.putRolloutGroup (sound : FleetSound config controller) (report : RolloutReport) :
    IntakeSound config (reportTally config report controller) controller
      (putRolloutGroup config report controller) := by
  let counted := Dispatcher.afterStatistics config report controller
  have countedSound := sound.afterStatistics report
  have countedTraffic := @traffic_afterStatistics config report controller
  have unfolded : (if config.variant = .dapo then
      updateDynamicSamplingStatistics report.filteredPositive report.filteredNegative controller
      else controller) = counted := rfl
  unfold Dispatcher.putRolloutGroup reportTally
  dsimp only
  rw [unfolded, show Dispatcher.afterStatistics config report controller = counted from rfl]
  rcases @filterOutdatedRollouts_spec config report.rollouts counted with
    ⟨exn, notBlocked, rejected⟩ | ⟨filtered, kept, filteredEq⟩
  · rw [rejected]
    refine ⟨?_, countedSound, countedTraffic⟩
    intro blocked
    exact notBlocked (Option.some.inj blocked)
  · rw [kept]
    have filteredSound : FleetSound config filtered := by
      rw [filteredEq]
      exact countedSound.withRemain _
    have filteredTraffic : Traffic config
        { counted := report.rollouts.length -
            (freshRollouts config report.rollouts counted).length } counted filtered := by
      rw [filteredEq]
      exact .silent _ rfl rfl fun _ => rfl
    obtain ⟨raised, soundPut, traffic⟩ := filteredSound.putRollouts
      (freshRollouts config report.rollouts counted)
    refine ⟨raised, soundPut, ?_⟩
    have whole := (countedTraffic.trans filteredTraffic).trans traffic
    simpa [Tally.append] using whole

theorem takePerRank_zero {targets : List ReplicaName} {queues : List (List Rollout)}
    {exn : PyError} (result : takePerRank 0 targets queues = .error exn) : exn = .indexError := by
  induction targets generalizing queues with
  | nil => simp [takePerRank] at result
  | cons target targets ih =>
    cases queues with
    | nil => simpa [takePerRank, eq_comm] using result
    | cons queue queues =>
      unfold takePerRank at result
      dsimp only at result
      rw [if_neg (Nat.not_lt_zero _)] at result
      split at result
      · rename_i later
        cases result
        exact ih later
      · cases result

theorem dispatchRollouts_zero (controller : Controller) :
    (dispatchRollouts config 0 controller).raised ≠ some .blocked := by
  unfold dispatchRollouts
  split
  · simp
  · split
    · split
      · rename_i exn result
        rw [takePerRank_zero result]
        simp
      · simp
    · simp [takeForEach]

theorem fakeStep_notBlocked (wellFormed : WellFormed controller) :
    (issueStep config 0 0 controller).raised ≠ some .blocked := by
  rcases @issueStep_spec config controller wellFormed 0 0 with
    ⟨exn, failed, raised, _⟩ | ⟨raised, _⟩
  · intro blocked
    apply @dispatchRollouts_zero config (issueGated config 0 controller)
    rw [failed, ← raised, blocked]
  · rw [raised]
    simp

theorem traffic_prepareFakeStep (controller : Controller) :
    Traffic config { cleared := controller.sharedRollouts config } controller
      (prepareFakeStep controller) := by
  refine ⟨[], (List.append_nil _).symm, ?_, ?_⟩
  · unfold Controller.sharedRollouts Controller.pendingRollouts
    split
    · exact .refl _
    · exact .withdraw _
  · intro _
    refine ⟨fun name => .of_quiet (by simp) (by simp), ?_⟩
    simp [sentRollouts, prepareFakeStep]

theorem tryTrigger_prepared (controller : Controller) :
    tryTriggerDataFetchAndTraining config true (prepareFakeStep controller) =
        .ok (prepareFakeStep controller) ∨
      tryTriggerDataFetchAndTraining config true (prepareFakeStep controller) =
        issueStep config 0 0 (prepareFakeStep controller) := by
  unfold tryTriggerDataFetchAndTraining
  split
  · exact .inl rfl
  · split
    · exact .inl rfl
    · split
      · exact .inl rfl
      · rw [if_pos rfl]
        exact .inr (if_pos (rfl : ((prepareFakeStep controller).policy.currentStep : Int) + 1 =
          (prepareFakeStep controller).policy.totalSteps))

theorem FleetSound.fakeTrigger (sound : FleetSound config (prepareFakeStep controller)) :
    IntakeSound config {} (prepareFakeStep controller)
      (tryTriggerDataFetchAndTraining config true (prepareFakeStep controller)) := by
  have after := (NothingMissed.fakeStep sound).sound
  rcases @tryTrigger_prepared config controller with idle | issued
  · rw [idle] at after ⊢
    exact ⟨by simp, after, .refl _⟩
  · rw [issued] at after ⊢
    exact ⟨fakeStep_notBlocked sound.wellFormed, after, traffic_fakeStep sound.wellFormed⟩

theorem sharedRollouts_recomputeTotalSteps (remaining : Option Int) (controller : Controller) :
    (recomputeTotalSteps config remaining controller).sharedRollouts config =
      controller.sharedRollouts config := by
  unfold recomputeTotalSteps
  split
  · rfl
  · split <;> rfl

/-- When all rollout replicas have ended, what is to do depends on the total number of
steps for the rollouts that are left. -/
theorem allRolloutsHaveEnded_eq (allEnded : controller.allRolloutsEnded = true) :
    allRolloutsHaveEnded config controller =
      let recomputed := recomputeTotalSteps config
        (some (controller.totalPendingRollouts config)) controller
      if forcesLastStep config controller then
        tryTriggerDataFetchAndTraining config true (prepareFakeStep recomputed)
      else .ok recomputed := by
  unfold allRolloutsHaveEnded forcesLastStep
  dsimp only
  generalize recomputeTotalSteps config
    (some (controller.totalPendingRollouts config)) controller = recomputed
  by_cases ahead : (recomputed.policy.currentStep : Int) < recomputed.policy.totalSteps
  · have notForced : decide (recomputed.policy.totalSteps ≤
        (recomputed.policy.currentStep : Int)) = false := by
      rw [decide_eq_false_iff_not]
      omega
    simp [ahead, notForced]
  · have behind : recomputed.policy.totalSteps ≤ (recomputed.policy.currentStep : Int) := by
      omega
    simp only [ahead, if_false, allEnded, behind, decide_true, Bool.true_and, ne_eq,
      decide_not, Bool.not_eq_eq_eq_not, Bool.not_true, decide_eq_false_iff_not]
    by_cases atEnd : (recomputed.policy.currentStep : Int) = controller.policy.totalSteps
    · simp [atEnd]
    · simp [atEnd]

theorem FleetSound.allRolloutsHaveEnded
    (sound : FleetSound config controller) (allEnded : controller.allRolloutsEnded = true) :
    IntakeSound config
      (if forcesLastStep config controller then
        { cleared := controller.sharedRollouts config }
      else {}) controller (allRolloutsHaveEnded config controller) := by
  let recomputed := recomputeTotalSteps config
    (some (controller.totalPendingRollouts config)) controller
  have same := @sameButTotal_recomputeTotalSteps config
    (some (controller.totalPendingRollouts config)) controller
  have traffic := @RespectsParts.recomputeTotalSteps config _ (@traffic_parts config)
    (some (controller.totalPendingRollouts config)) controller
  rw [allRolloutsHaveEnded_eq allEnded]
  dsimp only
  cases forced : forcesLastStep config controller with
  | false =>
    rw [if_neg Bool.false_ne_true, if_neg Bool.false_ne_true]
    refine ⟨by simp, ?_, traffic⟩
    by_cases finished : controller.trainingFinished = true
    · rw [show recomputeTotalSteps config _ controller = controller from if_pos finished]
      exact sound
    · refine same.sound ?_ sound
      rintro ⟨atEnd, positive⟩
      exact finished (NothingMissed.finished_of_atEnd atEnd positive)
  | true =>
    rw [if_pos rfl, if_pos rfl]
    have prepared : SameButTotal controller (prepareFakeStep recomputed) :=
      ⟨same.replicas_eq, same.initDone_eq, same.status_eq, same.currentStep_eq, same.queues_eq⟩
    have preparedSound : FleetSound config (prepareFakeStep recomputed) := by
      refine prepared.sound ?_ sound
      rintro ⟨endReached, _⟩
      have behind : (recomputed.policy.currentStep : Int) ≠ controller.policy.totalSteps := by
        simp only [forcesLastStep, Bool.and_eq_true, decide_eq_true_eq] at forced
        exact forced.2
      apply behind
      rw [← endReached]
      exact congrArg Nat.cast same.currentStep_eq
    obtain ⟨raised, after, moved⟩ := preparedSound.fakeTrigger
    refine ⟨raised, after, ?_⟩
    have cleared := (traffic.after_still (traffic_prepareFakeStep recomputed)).still moved
    rwa [sharedRollouts_recomputeTotalSteps] at cleared

theorem FleetSound.rolloutEndSignal (sound : FleetSound config controller) (name : ReplicaName) :
    IntakeSound config (endTally config name controller) controller
      (rolloutEndSignal config name controller) := by
  let ended := rolloutEnd name controller
  have endedSound : FleetSound config ended :=
    (SameFleet.of_policyKept (⟨rfl, rfl⟩ : PolicyKept controller ended)).sound sound
  have endedTraffic : Traffic config {} controller ended := .untouched rfl rfl rfl rfl
  unfold Dispatcher.rolloutEndSignal endTally
  dsimp only
  cases allEnded : (rolloutEnd name controller).allRolloutsEnded with
  | false =>
    have notForced : forcesLastStep config (rolloutEnd name controller) = false := by
      simp [forcesLastStep, allEnded]
    rw [notForced, if_neg Bool.false_ne_true, if_neg Bool.false_ne_true]
    exact ⟨by simp, endedSound, endedTraffic⟩
  | true =>
    rw [if_pos rfl]
    obtain ⟨raised, after, traffic⟩ := endedSound.allRolloutsHaveEnded allEnded
    exact ⟨raised, after, endedTraffic.after_still traffic⟩

end CosmosRl.Dispatcher
