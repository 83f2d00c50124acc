import CosmosRl.Dispatcher.DispatchFootprint

/-!
How outdated a rollout can be when it is trained on.

`filter_outdated_rollouts` accepts a rollout by the step it expects the rollout
to be used in, which it computes from the length of the queue and the position
in the incoming batch.  With one shared queue the step counter and the queue
move together: a training step takes exactly the rollouts of one step off the
front of the queue.  The step counter plus the number of whole steps in front of
a rollout therefore never grows after the rollout has been accepted.
-/

namespace CosmosRl.Dispatcher

open CosmosRl.Foundation List

variable {config : Config}

/-- A step takes its rollouts off the front of the queue and sends them, then the
`DataFetch` commands. -/
structure Dispatched (required : Nat) (before after : Controller) : Prop where
  shapes_eq : shapes after.policy.policyReplicas = shapes before.policy.policyReplicas
  enough : required ≤ before.policy.rolloutBuffer.length
  buffer_eq : after.policy.rolloutBuffer = before.policy.rolloutBuffer.drop required
  currentStep_eq : after.policy.currentStep = before.policy.currentStep + 1
  log : ∃ (taken : List (ReplicaName × Rollout)) (fetches : List Published),
    after.redis = before.redis ++
      (taken.map (fun item => ⟨item.1, .rollout item.2⟩) ++ fetches) ∧
    (∀ item ∈ taken, item.2 ∈ before.policy.rolloutBuffer.take required) ∧
    (∀ published ∈ fetches, published.isRollout = false) ∧
    firstFetchStep fetches = some (before.policy.currentStep + 1)

theorem redis_publishRollouts (taken : List (ReplicaName × Rollout)) (controller : Controller) :
    (publishRollouts taken controller).redis =
      controller.redis ++ taken.map (fun item => ⟨item.1, .rollout item.2⟩) := by
  unfold publishRollouts
  induction taken generalizing controller with
  | nil => simp
  | cons item rest ih =>
    rw [foldl_cons, ih]
    simp [Controller.publishRollout]

theorem redis_issueGated (requiredRollouts : Nat) (controller : Controller) :
    (issueGated config requiredRollouts controller).redis = controller.redis := by
  unfold issueGated validationActivateDataloader
  dsimp only
  split
  · split <;> rfl
  · rfl

variable {controller after : Controller} {numReplicas : Nat} {before : Controller}

theorem dispatchRollouts_shared (separate : config.mode ≠ .colocated)
    (shared : config.dataDispatchAsRankInMesh = false) {itemsCount : Nat}
    (enough : itemsCount * controller.arrivedPolicyNames.length ≤
      controller.policy.rolloutBuffer.length) :
    ∃ taken : List (ReplicaName × Rollout),
      dispatchRollouts config itemsCount controller = .ok (publishRollouts taken
        { controller with
          policy.rolloutBuffer := controller.policy.rolloutBuffer.drop
            (itemsCount * controller.arrivedPolicyNames.length) }) ∧
      ∀ item ∈ taken, item.2 ∈ controller.policy.rolloutBuffer.take
        (itemsCount * controller.arrivedPolicyNames.length) := by
  let targets := (List.replicate itemsCount controller.arrivedPolicyNames).flatten
  have count : targets.length = itemsCount * controller.arrivedPolicyNames.length :=
    length_targets itemsCount controller.arrivedPolicyNames
  refine ⟨targets.zip controller.policy.rolloutBuffer, ?_, ?_⟩
  · have taken := @takeForEach_eq targets controller.policy.rolloutBuffer
      (by rw [count]; exact enough)
    unfold dispatchRollouts
    rw [if_neg separate, shared, if_neg (by simp)]
    rw [show takeForEach (List.replicate itemsCount controller.arrivedPolicyNames).flatten
      controller.policy.rolloutBuffer = _ from taken, count]
  · intro item inside
    obtain ⟨position, bound, rfl⟩ := mem_iff_getElem.mp inside
    rw [length_zip] at bound
    have inTake : position < (controller.policy.rolloutBuffer.take
        (itemsCount * controller.arrivedPolicyNames.length)).length := by
      rw [length_take, ← count]
      exact bound
    rw [getElem_zip]
    rw [← @getElem_take _ _ _ _ inTake]
    exact getElem_mem inTake

theorem log_sendDataFetches (config : Config) (itemsCount : Nat) (doSave : Bool)
    {names : List ReplicaName} (some_name : names ≠ []) (controller : Controller) :
    ∃ fetches, (Outcome.forEach (sendDataFetch itemsCount doSave) names
        controller).state.redis = controller.redis ++ fetches ∧
      (∀ published ∈ fetches, published.isRollout = false) ∧
      firstFetchStep fetches = some controller.policy.currentStep := by
  cases names with
  | nil => exact absurd rfl some_name
  | cons first rest =>
    let sent := dataFetchTrigger first itemsCount controller.policy.currentStep
      controller.policy.totalSteps controller.policy.remainSamplesNum doSave controller
    have later : Undispatched config sent
        (Outcome.forEach (sendDataFetch itemsCount doSave) (first :: rest)
          controller).state := by
      rw [Outcome.forEach_cons]
      apply Undispatched.andThen (undispatched_setStatus first .running sent)
      intro state
      exact .forEach (undispatched_sendDataFetch itemsCount doSave) state
    obtain ⟨others, equality, commands⟩ := later.log
    let fetch : Published := ⟨first, .command (.dataFetch first itemsCount
      controller.policy.currentStep controller.policy.totalSteps
      controller.policy.remainSamplesNum doSave)⟩
    refine ⟨fetch :: others, ?_, ?_, rfl⟩
    · rw [equality]
      simp [sent, fetch, dataFetchTrigger, Controller.publishCommand]
    · intro published inside
      rcases mem_cons.mp inside with rfl | other
      · rfl
      · exact commands published other

theorem undispatched_sendDataFetches (itemsCount : Nat) (doSave : Bool)
    (names : List ReplicaName) (controller : Controller) :
    Undispatched config controller
      (Outcome.forEach (sendDataFetch itemsCount doSave) names controller).state :=
  .forEach (undispatched_sendDataFetch itemsCount doSave) controller

/-- Issuing a step with one shared queue that is long enough. -/
theorem dispatched_issueStep (separate : config.mode ≠ .colocated)
    (shared : config.dataDispatchAsRankInMesh = false) {itemsCount : Nat}
    (requiredRollouts : Nat) {controller : Controller}
    (arrived : controller.arrivedPolicyReplicas ≠ [])
    (enough : itemsCount * controller.arrivedPolicyReplicas.length ≤
      controller.policy.rolloutBuffer.length) :
    Dispatched (itemsCount * controller.arrivedPolicyReplicas.length) controller
      (issueStep config itemsCount requiredRollouts controller).state := by
  obtain ⟨same, sameBuffer, _, advanced⟩ := @gated_fields config requiredRollouts controller
  let gated := issueGated config requiredRollouts controller
  have replicas : gated.arrivedPolicyReplicas = controller.arrivedPolicyReplicas := by
    unfold Controller.arrivedPolicyReplicas
    rw [same.replicas_eq]
  have count : gated.arrivedPolicyNames.length = controller.arrivedPolicyReplicas.length := by
    simp [Controller.arrivedPolicyNames, replicas]
  have enoughGated : itemsCount * gated.arrivedPolicyNames.length ≤
      gated.policy.rolloutBuffer.length := by
    rw [count, sameBuffer]
    exact enough
  obtain ⟨taken, dispatch, inFront⟩ := dispatchRollouts_shared separate shared enoughGated
  let popped : Controller := { gated with
    policy.rolloutBuffer := gated.policy.rolloutBuffer.drop
      (itemsCount * gated.arrivedPolicyNames.length) }
  let sent := publishRollouts taken popped
  have sentPolicy : sent.policy = popped.policy := policy_publishRollouts taken popped
  have names : sent.arrivedPolicyNames ≠ [] := by
    have sameNames : sent.arrivedPolicyNames = controller.arrivedPolicyNames := by
      unfold Controller.arrivedPolicyNames
      rw [← replicas]
      unfold Controller.arrivedPolicyReplicas
      rw [sentPolicy]
    rw [sameNames]
    exact anyArrived_of_replicas arrived
  have resultEq : issueStep config itemsCount requiredRollouts controller =
      Outcome.forEach (sendDataFetch itemsCount
        (checkCheckpointSaving config requiredRollouts sent)) sent.arrivedPolicyNames sent := by
    rw [issueStep_eq, dispatch]
    rfl
  have others := @undispatched_sendDataFetches config itemsCount
    (checkCheckpointSaving config requiredRollouts sent) sent.arrivedPolicyNames sent
  obtain ⟨fetches, fetchLog, commands, step⟩ := log_sendDataFetches config itemsCount
    (checkCheckpointSaving config requiredRollouts sent) names sent
  obtain ⟨bufferKept, stepKept⟩ := others.queue separate
  have sentStep : sent.policy.currentStep = controller.policy.currentStep + 1 := by
    rw [sentPolicy]
    exact advanced
  rw [resultEq]
  refine ⟨?_, enough, ?_, stepKept.trans sentStep, taken, fetches, ?_, ?_, commands, ?_⟩
  · rw [others.shapes_eq, sentPolicy]
    exact congrArg shapes same.replicas_eq
  · rw [bufferKept, sentPolicy]
    show gated.policy.rolloutBuffer.drop _ = _
    rw [count, sameBuffer]
  · rw [fetchLog, redis_publishRollouts, append_assoc]
    exact congrArg (· ++ _) (redis_issueGated requiredRollouts controller)
  · rw [← count, ← sameBuffer]
    exact inFront
  · rw [step, sentStep]

theorem undispatched_issueStep (colocated : config.mode = .colocated)
    (itemsCount requiredRollouts : Nat) (controller : Controller) :
    Undispatched config controller
      (issueStep config itemsCount requiredRollouts controller).state := by
  have gated : Undispatched config controller
      (issueGated config requiredRollouts controller) :=
    undispatched_of_colocated colocated
      (quiet_issueGated requiredRollouts controller).shapes_eq
      (redis_issueGated requiredRollouts controller)
  rw [issueStep_eq]
  refine Undispatched.andThen ?_ fun state => undispatched_sendDataFetches _ _ _ state
  unfold dispatchRollouts
  rw [if_pos colocated]
  exact gated

theorem tryTrigger_dispatched (shared : config.dataDispatchAsRankInMesh = false)
    (controller : Controller) :
    let result := (tryTriggerDataFetchAndTraining config false controller).state
    Undispatched config controller result ∨
      (config.mode ≠ .colocated ∧ 0 < controller.arrivedPolicyReplicas.length ∧
        Dispatched (config.trainBatchPerReplica * controller.arrivedPolicyReplicas.length)
          controller result) := by
  rw [tryTrigger_eq]
  by_cases enabled : TriggerEnabled config controller
  · rw [if_pos enabled]
    by_cases colocated : config.mode = .colocated
    · exact .inl (undispatched_issueStep colocated _ _ controller)
    · have enough := enabled.enough
      simp only [rolloutsEnough_eq, enoughFor, if_neg colocated, shared,
        Bool.false_eq_true, if_false, decide_eq_true_eq] at enough
      exact .inr ⟨colocated, length_pos_of_ne_nil enabled.arrived,
        dispatched_issueStep colocated shared _ enabled.arrived enough⟩
  · rw [if_neg enabled]
    exact .inl (.refl controller)

/-- A rollout at a position of the queue is not too old for the step it will be
used in, when `quota` rollouts make a step. -/
def QueueFresh (config : Config) (quota : Nat) (controller : Controller) : Prop :=
  ∀ position rollout, controller.policy.rolloutBuffer[position]? = some rollout →
    controller.policy.currentStep + position / quota ≤
      rollout.weightVersion + config.allowedOutdatedSteps

def stepQuota (config : Config) (numReplicas : Nat) : Nat :=
  config.trainBatchPerReplica * max numReplicas 1

theorem stepQuota_pos (numReplicas : Nat) : 0 < stepQuota config numReplicas :=
  Nat.mul_pos config.trainBatch_pos (by omega)

theorem stepQuota_of_pos (some_replica : 0 < numReplicas) :
    stepQuota config numReplicas = config.trainBatchPerReplica * numReplicas := by
  have same : max numReplicas 1 = numReplicas := by omega
  rw [stepQuota, same]

structure RolloutsFresh (config : Config) (numReplicas : Nat) (controller : Controller) :
    Prop where
  count : controller.arrivedPolicyReplicas.length = numReplicas
  queued : config.mode ≠ .colocated →
    QueueFresh config (stepQuota config numReplicas) controller
  dispatched : DispatchedFresh config controller.redis

/-- The position in the stream of all rollouts ever queued that the next rollout
will take, counted from the step counter. -/
def queuePosition (quota : Nat) (controller : Controller) : Nat :=
  controller.policy.currentStep * quota + controller.policy.rolloutBuffer.length

theorem Dispatched.queuePosition_eq {quota : Nat} (dispatched : Dispatched quota before after) :
    queuePosition quota after = queuePosition quota before := by
  have enough := dispatched.enough
  simp only [queuePosition, dispatched.buffer_eq, dispatched.currentStep_eq,
    length_drop, Nat.add_mul, Nat.one_mul]
  omega

theorem tryTrigger_queuePosition (shared : config.dataDispatchAsRankInMesh = false)
    (separate : config.mode ≠ .colocated) (controller : Controller) :
    queuePosition (stepQuota config controller.arrivedPolicyReplicas.length)
        (tryTriggerDataFetchAndTraining config false controller).state =
      queuePosition (stepQuota config controller.arrivedPolicyReplicas.length)
        controller := by
  rcases tryTrigger_dispatched shared controller with
    undispatched | ⟨_, some_replica, dispatched⟩
  · obtain ⟨sameBuffer, sameStep⟩ := undispatched.queue separate
    rw [queuePosition, sameBuffer, sameStep]
    rfl
  · rw [stepQuota_of_pos some_replica]
    exact dispatched.queuePosition_eq

namespace RolloutsFresh

variable {numReplicas : Nat} {before after controller : Controller}

theorem undispatched (fresh : RolloutsFresh config numReplicas before)
    (undispatched : Undispatched config before after) :
    RolloutsFresh config numReplicas after := by
  obtain ⟨sent, log, commands⟩ := undispatched.log
  refine ⟨?_, ?_, ?_⟩
  · rw [arrivedReplicas_length_of_shapes undispatched.shapes_eq]
    exact fresh.count
  · intro separate
    obtain ⟨sameBuffer, sameStep⟩ := undispatched.queue separate
    unfold QueueFresh
    rw [sameBuffer, sameStep]
    exact fresh.queued separate
  · rw [log]
    exact fresh.dispatched.append (.of_noRollout commands)

/-- A step moves every rollout that stays in the queue one step closer. -/
theorem step (fresh : RolloutsFresh config numReplicas before)
    (separate : config.mode ≠ .colocated) (some_replica : 0 < numReplicas)
    (step : Dispatched (config.trainBatchPerReplica * numReplicas) before after) :
    RolloutsFresh config numReplicas after := by
  have queued := fresh.queued separate
  have positive : 0 < config.trainBatchPerReplica * numReplicas :=
    Nat.mul_pos config.trainBatch_pos some_replica
  rw [stepQuota_of_pos some_replica] at queued
  refine ⟨?_, ?_, ?_⟩
  · rw [arrivedReplicas_length_of_shapes step.shapes_eq]
    exact fresh.count
  · intro _ position rollout found
    rw [step.buffer_eq, getElem?_drop] at found
    have bound := queued _ rollout found
    rw [Nat.add_div_left position positive] at bound
    rw [step.currentStep_eq, stepQuota_of_pos some_replica]
    omega
  · obtain ⟨taken, fetches, log, inFront, commands, fetchStep⟩ := step.log
    rw [log]
    apply fresh.dispatched.append
    apply DispatchedFresh.of_step commands fetchStep
    intro item inside
    obtain ⟨position, inTake, same⟩ := mem_iff_getElem.mp (inFront item inside)
    rw [length_take] at inTake
    rw [getElem_take] at same
    have found : before.policy.rolloutBuffer[position]? = some item.2 := by
      rw [← same]
      exact getElem?_eq_getElem _
    have bound := queued position item.2 found
    rw [Nat.div_eq_of_lt (show position < _ by omega)] at bound
    exact bound

theorem tryTrigger (shared : config.dataDispatchAsRankInMesh = false)
    (fresh : RolloutsFresh config numReplicas controller) :
    RolloutsFresh config numReplicas
      (tryTriggerDataFetchAndTraining config false controller).state := by
  rcases tryTrigger_dispatched shared controller with
    undispatched | ⟨separate, some_replica, dispatched⟩
  · exact fresh.undispatched undispatched
  · rw [fresh.count] at some_replica dispatched
    exact fresh.step separate some_replica dispatched

/-- A rollout is queued at a position in which it is still fresh. -/
theorem queue (fresh : RolloutsFresh config numReplicas controller) (rollout : Rollout)
    (accepted : config.mode ≠ .colocated →
      queuePosition (stepQuota config numReplicas) controller /
          stepQuota config numReplicas ≤
        rollout.weightVersion + config.allowedOutdatedSteps) :
    RolloutsFresh config numReplicas { controller with
      policy.rolloutBuffer := controller.policy.rolloutBuffer ++ [rollout] } := by
  refine ⟨fresh.count, ?_, fresh.dispatched⟩
  intro separate position other found
  replace found : (controller.policy.rolloutBuffer ++ [rollout])[position]? = some other := found
  by_cases inside : position < controller.policy.rolloutBuffer.length
  · rw [getElem?_append_left inside] at found
    exact fresh.queued separate position other found
  · rw [getElem?_append_right (by omega)] at found
    have last : position = controller.policy.rolloutBuffer.length ∧ rollout = other := by
      cases offset : position - controller.policy.rolloutBuffer.length with
      | zero =>
        rw [offset] at found
        exact ⟨by omega, by simpa using found⟩
      | succ beyond =>
        rw [offset] at found
        simp at found
    obtain ⟨rfl, rfl⟩ := last
    have bound := accepted separate
    rw [queuePosition, Nat.add_comm, Nat.add_mul_div_right _ _ (stepQuota_pos _)] at bound
    show controller.policy.currentStep + _ ≤ _
    omega

/-- The loop of `put_rollouts`: the rollout at position `idx` of what is left is
queued `idx` places after the next one. -/
theorem putRolloutLoop (shared : config.dataDispatchAsRankInMesh = false) (rollouts : List Rollout)
    (fresh : RolloutsFresh config numReplicas controller)
    (accepted : config.mode ≠ .colocated → ∀ idx rollout, rollouts[idx]? = some rollout →
      (queuePosition (stepQuota config numReplicas) controller + idx) /
          stepQuota config numReplicas ≤
        rollout.weightVersion + config.allowedOutdatedSteps) :
    RolloutsFresh config numReplicas (putRolloutLoop config rollouts controller).state := by
  induction rollouts generalizing controller with
  | nil => exact fresh
  | cons rollout rest ih =>
    let queued : Controller := { controller with
      policy.rolloutBuffer := controller.policy.rolloutBuffer ++ [rollout] }
    have queuedFresh : RolloutsFresh config numReplicas queued :=
      fresh.queue rollout fun separate => accepted separate 0 rollout rfl
    have put : putRollout config rollout controller =
        tryTriggerDataFetchAndTraining config false queued := by
      unfold putRollout
      rw [shared, if_neg (by simp)]
    unfold CosmosRl.Dispatcher.putRolloutLoop
    rw [put]
    rcases Outcome.andThen_cases (tryTriggerDataFetchAndTraining config false queued)
      (fun put =>
        if config.onPolicy && decide (put.totalPendingRollouts config = 0) then
          .ok { put with policy.onPolicyRolloutCompleted := true }
        else CosmosRl.Dispatcher.putRolloutLoop config rest put) with
      ⟨_, equality⟩ | ⟨_, equality⟩
    · rw [equality]
      exact queuedFresh.tryTrigger shared
    · rw [equality]
      have triggered := queuedFresh.tryTrigger shared
      split
      · exact triggered.undispatched (.silent rfl rfl rfl rfl)
      · apply ih triggered
        intro separate idx later found
        have position := tryTrigger_queuePosition shared separate queued
        rw [queuedFresh.count] at position
        have next : queuePosition (stepQuota config numReplicas) queued =
            queuePosition (stepQuota config numReplicas) controller + 1 := by
          simp [queuePosition, queued, Nat.add_assoc]
        rw [position, next, Nat.add_assoc, Nat.add_comm 1 idx]
        exact accepted separate (idx + 1) later found

theorem putRollouts (shared : config.dataDispatchAsRankInMesh = false)
    (rollouts : List Rollout) (fresh : RolloutsFresh config numReplicas controller)
    (accepted : config.mode ≠ .colocated → ∀ idx rollout, rollouts[idx]? = some rollout →
      (queuePosition (stepQuota config numReplicas) controller + idx) /
          stepQuota config numReplicas ≤
        rollout.weightVersion + config.allowedOutdatedSteps) :
    RolloutsFresh config numReplicas (putRollouts config rollouts controller).state := by
  unfold CosmosRl.Dispatcher.putRollouts
  split
  · exact fresh.undispatched (.silent rfl rfl rfl rfl)
  · exact fresh.putRolloutLoop shared rollouts accepted

end RolloutsFresh

theorem zipIdx_filter_position {Item : Type} (test : Item × Nat → Bool)
    (items : List Item) (start position : Nat) {entry : Item × Nat}
    (found : ((items.zipIdx start).filter test)[position]? = some entry) :
    start + position ≤ entry.2 ∧ test entry = true := by
  induction items generalizing start position with
  | nil => simp at found
  | cons item rest ih =>
    rw [zipIdx_cons, filter_cons] at found
    split at found
    · rename_i passed
      cases position with
      | zero =>
        cases found
        exact ⟨Nat.le_refl _, passed⟩
      | succ position =>
        have later := ih (start + 1) position found
        exact ⟨by omega, later.2⟩
    · have later := ih (start + 1) position found
      exact ⟨by omega, later.2⟩

section

variable (shared : config.dataDispatchAsRankInMesh = false)

include shared

theorem estimatedStep_eq (idx : Nat) (controller : Controller) :
    estimatedStep config idx controller =
      (queuePosition (stepQuota config controller.arrivedPolicyReplicas.length) controller +
        idx) / stepQuota config controller.arrivedPolicyReplicas.length := by
  have pending : controller.totalPendingRollouts config =
      controller.policy.rolloutBuffer.length := by
    unfold Controller.totalPendingRollouts
    rw [shared, if_neg (by simp)]
  have regrouped : queuePosition (stepQuota config controller.arrivedPolicyReplicas.length)
      controller + idx = (idx + controller.policy.rolloutBuffer.length) +
        controller.policy.currentStep *
          stepQuota config controller.arrivedPolicyReplicas.length := by
    unfold queuePosition
    omega
  rw [regrouped, Nat.add_mul_div_right _ _ (stepQuota_pos _), estimatedStep, pending, Nat.add_comm]
  rfl

theorem freshRollouts_accepted {rollouts : List Rollout} {idx : Nat} {rollout : Rollout}
    (kept : (freshRollouts config rollouts controller)[idx]? = some rollout) :
    (queuePosition (stepQuota config controller.arrivedPolicyReplicas.length) controller +
        idx) / stepQuota config controller.arrivedPolicyReplicas.length ≤
      rollout.weightVersion + config.allowedOutdatedSteps := by
  unfold freshRollouts at kept
  rw [getElem?_map] at kept
  obtain ⟨⟨original, position⟩, found, rfl⟩ := Option.map_eq_some_iff.mp kept
  obtain ⟨later, passed⟩ := zipIdx_filter_position _ rollouts 0 idx found
  have estimate : estimatedStep config position controller ≤
      original.weightVersion + config.allowedOutdatedSteps := by
    simpa [isFresh] using passed
  rw [estimatedStep_eq shared] at estimate
  refine le_trans (Nat.div_le_div_right ?_) estimate
  simp only [Nat.zero_add] at later
  omega

theorem RolloutsFresh.putRolloutGroup
    (fresh : RolloutsFresh config numReplicas controller) (report : RolloutReport) :
    RolloutsFresh config numReplicas (putRolloutGroup config report controller).state := by
  have countedFresh : RolloutsFresh config numReplicas
      (if config.variant = .dapo then
        updateDynamicSamplingStatistics report.filteredPositive report.filteredNegative controller
      else controller) := by
    apply fresh.undispatched
    split
    · exact .silent rfl rfl rfl rfl
    · exact .refl controller
  unfold CosmosRl.Dispatcher.putRolloutGroup
  dsimp only
  generalize (if config.variant = .dapo then
    updateDynamicSamplingStatistics report.filteredPositive report.filteredNegative controller
    else controller) = counted at countedFresh ⊢
  unfold filterOutdatedRollouts
  cases report.rollouts.find? fun rollout =>
      decide (counted.policy.currentStep < rollout.weightVersion) with
  | some rollout => exact countedFresh
  | none =>
    apply RolloutsFresh.putRollouts shared
    · exact countedFresh.undispatched (.silent rfl rfl rfl rfl)
    · intro _ idx rollout kept
      have accepted := freshRollouts_accepted shared kept
      rw [countedFresh.count] at accepted
      exact accepted

end

theorem undispatched_getBatchedPrompt (n : Nat) (validationStep rankInMesh : Option Nat)
    (controller : Controller) :
    Undispatched config controller
      (getBatchedPrompt config n validationStep rankInMesh controller).2 := by
  rcases @getBatchedPrompt_spec config n validationStep rankInMesh controller with
    ⟨_, samePolicy, sameRedis⟩ | ⟨payloads, isEnd, base, result, samePolicy, sameRedis⟩
  · exact .silent (by rw [samePolicy]) sameRedis (by rw [samePolicy]) (by rw [samePolicy])
  · have unchanged : Undispatched config controller base :=
      .silent (by rw [samePolicy]) sameRedis (by rw [samePolicy]) (by rw [samePolicy])
    rw [result]
    unfold handOut
    dsimp only
    split
    · exact unchanged
    · exact unchanged.trans (.silent rfl rfl rfl rfl)

section

variable (shared : config.dataDispatchAsRankInMesh = false)

include shared

theorem RolloutsFresh.trainAck
    (fresh : RolloutsFresh config numReplicas controller) (name : ReplicaName) (step : Nat)
    (totalSteps : Int) (reportData : ReportData) :
    RolloutsFresh config numReplicas
      (trainAck config name step totalSteps reportData controller).state := by
  have finished : ∀ current, RolloutsFresh config numReplicas current →
      RolloutsFresh config numReplicas (finishStep config step totalSteps current).state := by
    intro current currentFresh
    have synced : RolloutsFresh config numReplicas
        (syncedWeights config step totalSteps current) :=
      currentFresh.undispatched
        (undispatched_parts.rolloutParts.syncedWeights step totalSteps current)
    rw [finishStep_eq]
    refine Outcome.andThen_preserves (synced.tryTrigger shared) ?_
    intro triggered triggeredFresh
    split
    · exact triggeredFresh.undispatched (.silent rfl rfl rfl rfl)
    · exact triggeredFresh
  have completed : ∀ current, RolloutsFresh config numReplicas current →
      RolloutsFresh config numReplicas
        (completeStep config step totalSteps current).state := by
    intro current currentFresh
    have consumed : RolloutsFresh config numReplicas (current.consumed config) :=
      currentFresh.undispatched (.silent rfl rfl rfl rfl)
    unfold completeStep
    split
    · exact consumed
    · dsimp only
      refine Outcome.andThen_preserves ?_ finished
      have reported := consumed.undispatched (undispatched_sumAndReportData _)
      exact reported.undispatched
        (.forEach (fun name state => undispatched_setStatus name .ready state) _)
  unfold CosmosRl.Dispatcher.trainAck
  split
  · have reported : RolloutsFresh config numReplicas { controller with
        policy.reportDataList := controller.policy.reportDataList ++ [reportData] } :=
      fresh.undispatched (.silent rfl rfl rfl rfl)
    refine Outcome.andThen_preserves (reported.undispatched (undispatched_setStatus _ _ _)) ?_
    intro acked ackedFresh
    split
    · exact completed acked ackedFresh
    · exact ackedFresh
  · exact fresh

theorem RolloutsFresh.validationReport
    (fresh : RolloutsFresh config numReplicas controller) (validationStep numResults : Nat) :
    RolloutsFresh config numReplicas (validationReportValidationResults config
      validationStep numResults controller).state := by
  rcases validationReport_cases validationStep numResults controller with same | same
  · rw [same]
    exact .tryTrigger shared (fresh.undispatched (.silent rfl rfl rfl rfl))
  · rw [same]
    exact fresh.undispatched (.silent rfl rfl rfl rfl)

/-- The fake last step finds an empty queue and takes nothing. -/
theorem RolloutsFresh.fakeStep (fresh : RolloutsFresh config numReplicas controller)
    (empty : controller.policy.rolloutBuffer = []) :
    RolloutsFresh config numReplicas
      (tryTriggerDataFetchAndTraining config true controller).state := by
  unfold tryTriggerDataFetchAndTraining
  split
  · exact fresh
  · split
    · exact fresh
    · rename_i arrived
      split
      · exact fresh
      · rw [if_pos rfl]
        split
        · by_cases colocated : config.mode = .colocated
          · exact fresh.undispatched (undispatched_issueStep colocated 0 0 controller)
          · have step := @dispatched_issueStep config colocated shared 0 0 controller
              arrived (by simp)
            obtain ⟨taken, fetches, log, inFront, commands, fetchStep⟩ := step.log
            refine ⟨?_, ?_, ?_⟩
            · rw [arrivedReplicas_length_of_shapes step.shapes_eq]
              exact fresh.count
            · intro _ position rollout found
              rw [step.buffer_eq, empty] at found
              simp at found
            · rw [log]
              apply fresh.dispatched.append
              apply DispatchedFresh.of_step commands fetchStep
              intro item inside
              have front := inFront item inside
              rw [empty] at front
              simp at front
        · exact fresh

theorem RolloutsFresh.rolloutEndSignal
    (fresh : RolloutsFresh config numReplicas controller) (name : ReplicaName) :
    RolloutsFresh config numReplicas (rolloutEndSignal config name controller).state := by
  have ended : RolloutsFresh config numReplicas (rolloutEnd name controller) :=
    fresh.undispatched (.silent rfl rfl rfl rfl)
  unfold CosmosRl.Dispatcher.rolloutEndSignal
  dsimp only
  split
  · have recomputed := ended.undispatched (@RespectsParts.recomputeTotalSteps config
      _ undispatched_parts (some ((rolloutEnd name controller).totalPendingRollouts config)) _)
    unfold allRolloutsHaveEnded
    dsimp only
    split
    · exact recomputed
    · split
      · exact recomputed
      · apply RolloutsFresh.fakeStep shared ?_ rfl
        refine ⟨recomputed.count, ?_, recomputed.dispatched⟩
        intro _ position rollout found
        simp [prepareFakeStep] at found
  · exact ended

end

theorem RolloutsFresh.replicasChanged
    (fresh : RolloutsFresh config numReplicas before) (sameRedis : after.redis = before.redis)
    (sameBuffer : after.policy.rolloutBuffer = before.policy.rolloutBuffer)
    (sameStep : after.policy.currentStep = before.policy.currentStep)
    (fixed : after.arrivedPolicyReplicas.length = numReplicas ∨
      before.policy.rolloutBuffer = []) :
    RolloutsFresh config after.arrivedPolicyReplicas.length after := by
  refine ⟨rfl, ?_, ?_⟩
  · intro separate position rollout found
    rw [sameBuffer] at found
    rcases fixed with same | empty
    · rw [same, sameStep]
      exact fresh.queued separate position rollout found
    · rw [empty] at found
      simp at found
  · rw [sameRedis]
    exact fresh.dispatched

/-- The arrived policy replicas stay the same, except that they may still be
gathering while no rollout is queued. -/
def ReplicasFixed (config : Config) (controller : Controller) (event : Event) : Prop :=
  (handleEvent config controller event).state.arrivedPolicyNames =
      controller.arrivedPolicyNames ∨
    controller.policy.rolloutBuffer = []

instance (controller : Controller) (event : Event) :
    Decidable (ReplicasFixed config controller event) :=
  inferInstanceAs (Decidable (_ ∨ _))

def stalenessSystem (config : Config) : EventSystem Controller Event where
  handle controller event := (handleEvent config controller event).state
  Allowed := ReplicasFixed config

instance (controller : Controller) (event : Event) :
    Decidable ((stalenessSystem config).Allowed controller event) :=
  inferInstanceAs (Decidable (ReplicasFixed config controller event))

theorem RolloutsFresh.membership {changed : Controller}
    (fresh : RolloutsFresh config controller.arrivedPolicyReplicas.length controller)
    (sameRedis : changed.redis = controller.redis)
    (sameBuffer : changed.policy.rolloutBuffer = controller.policy.rolloutBuffer)
    (sameStep : changed.policy.currentStep = controller.policy.currentStep)
    (undispatched : Undispatched config changed after)
    (fixed : after.arrivedPolicyNames = controller.arrivedPolicyNames ∨
      controller.policy.rolloutBuffer = []) :
    RolloutsFresh config after.arrivedPolicyReplicas.length after := by
  have count : after.arrivedPolicyReplicas.length = changed.arrivedPolicyReplicas.length :=
    arrivedReplicas_length_of_shapes undispatched.shapes_eq
  rw [count]
  refine (fresh.replicasChanged sameRedis sameBuffer sameStep ?_).undispatched undispatched
  refine fixed.imp_left fun sameNames => ?_
  rw [← count]
  simpa [Controller.arrivedPolicyNames] using congrArg List.length sameNames

/-- Every event keeps the queue and the log fresh. -/
theorem rolloutsFresh_handle (shared : config.dataDispatchAsRankInMesh = false) {event : Event}
    (fresh : RolloutsFresh config controller.arrivedPolicyReplicas.length controller)
    (fixed : ReplicasFixed config controller event) :
    let after := (handleEvent config controller event).state
    RolloutsFresh config after.arrivedPolicyReplicas.length after := by
  intro after
  have same : ∀ {final : Controller},
      RolloutsFresh config controller.arrivedPolicyReplicas.length final →
        RolloutsFresh config final.arrivedPolicyReplicas.length final := by
    intro final finalFresh
    rw [finalFresh.count]
    exact finalFresh
  cases event with
  | registerPolicy atom now =>
    obtain ⟨stored, sameRedis, sameBuffer, sameStep, undispatched⟩ :=
      @undispatched_registerPolicy config atom now controller
    exact fresh.membership sameRedis sameBuffer sameStep undispatched fixed
  | registerRollout atom now =>
    exact same
      (fresh.undispatched (undispatched_parts.rolloutParts.registerRollout atom now controller))
  | unregister name =>
    by_cases registered : name ∈ controller.policy.policyReplicas.keys
    · have unregistered : after = (unregisterPolicy config name controller).state := by
        show (unregister config name controller).state = _
        rw [unregister, if_pos registered]
      obtain ⟨removed, sameRedis, sameBuffer, sameStep, undispatched⟩ :=
        @undispatched_unregisterPolicy config name controller
      rw [← unregistered] at undispatched
      exact fresh.membership sameRedis sameBuffer sameStep undispatched fixed
    · apply same
      apply fresh.undispatched
      show Undispatched config controller (unregister config name controller).state
      rw [unregister, if_neg registered]
      split
      · exact undispatched_parts.rolloutParts.unregisterRollout name controller
      · exact .refl controller
  | getBatchedPrompt n validationStep rankInMesh =>
    have undispatched :=
      @undispatched_getBatchedPrompt config n validationStep rankInMesh controller
    apply same
    apply fresh.undispatched
    simp only [after, handleEvent]
    rcases result : getBatchedPrompt config n validationStep rankInMesh controller with
      ⟨answer, fetched⟩
    rw [result] at undispatched
    cases answer <;> exact undispatched
  | putRolloutGroup report => exact same (fresh.putRolloutGroup shared report)
  | rolloutEndSignal name => exact same (fresh.rolloutEndSignal shared name)
  | tryTriggerDataFetchAndTraining => exact same (fresh.tryTrigger shared)
  | trainAck name step totalSteps reportData =>
    exact same (fresh.trainAck shared name step totalSteps reportData)
  | validationReport validationStep numResults =>
    exact same (fresh.validationReport shared validationStep numResults)

theorem SetUp.rolloutsFresh {created started : Controller} (setUp : SetUp config created started) :
    RolloutsFresh config started.arrivedPolicyReplicas.length started := by
  have createdFresh : RolloutsFresh config 0 created := by
    cases setUp
    refine ⟨rfl, ?_, .nil⟩
    intro _ position rollout found
    simp at found
  have fresh := createdFresh.undispatched (undispatched_parts.setUp setUp)
  rw [fresh.count]
  exact fresh

/-- With one shared queue and a fixed set of arrived replicas, every rollout that
is dispatched in any run is trained on in a step that starts from a counter which
exceeds its weight version by `allowed_outdated_steps` at most. -/
theorem dispatchedFresh_run (shared : config.dataDispatchAsRankInMesh = false)
    (currentStep : Nat) (remainSamplesNum : Int)
    (nInitPolicyReplicas nInitRolloutReplicas : Nat) (fetcher : ControllerDataFetcher)
    (events : List Event)
    (run : (stalenessSystem config).IsRun (setup config currentStep remainSamplesNum
      nInitPolicyReplicas nInitRolloutReplicas fetcher) events) :
    (stalenessSystem config).Throughout
      (fun controller => DispatchedFresh config controller.redis)
      (setup config currentStep remainSamplesNum nInitPolicyReplicas nInitRolloutReplicas
        fetcher) events := by
  have throughout := @EventSystem.throughout_of_preserved _ _ (stalenessSystem config)
    (fun controller =>
      RolloutsFresh config controller.arrivedPolicyReplicas.length controller)
    (fun _ _ fresh fixed => rolloutsFresh_handle shared fresh fixed) _ _
    (SetUp.rolloutsFresh (.setup ..)) run
  exact throughout.mono fun _ fresh => fresh.dispatched

def stalenessExampleConfig : Config :=
  .small 1
    { trainDataloader := fun _ => [[0], [1], [2], [3]]
      valDataloader := [[0]]
      valDatasize := 1 }

/-- Three rollouts of the initial weights come back; the third is filtered out,
the second waits in the queue until the first step is acknowledged. -/
def waitingRun : List Event :=
  [.registerPolicy (singleAtom 0) 0,
    .getBatchedPrompt 3 none none,
    .putRolloutGroup { rollouts := [⟨0, 0, 0⟩, ⟨1, 0, 0⟩, ⟨2, 0, 0⟩] },
    .trainAck 0 1 4 (some (0, 0))]

def waitingStart : Controller :=
  setup stalenessExampleConfig 0 4 1 1 { trainDataloaderIter := [[0], [1], [2], [3]] }

theorem dispatchedFresh_waitingRun :
    ((stalenessSystem stalenessExampleConfig).after waitingStart waitingRun).redis.countP
        Published.isRollout = 2 ∧
      (stalenessSystem stalenessExampleConfig).Throughout
        (fun controller => DispatchedFresh stalenessExampleConfig controller.redis)
        waitingStart waitingRun :=
  ⟨by decide, dispatchedFresh_run rfl 0 4 1 1
    { trainDataloaderIter := [[0], [1], [2], [3]] } waitingRun (by decide)⟩

end CosmosRl.Dispatcher
