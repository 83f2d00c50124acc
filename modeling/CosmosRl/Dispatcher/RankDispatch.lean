import CosmosRl.Dispatcher.RankQueues

/-!
Rollouts reach the replica of their own rank.

Ranks and queues agree from the moment the mesh is built.  They may come apart when a
replica leaves after the last step has been issued, because the mesh is then left as it
is; this does no harm as long as no further step is issued.
-/

namespace CosmosRl.Dispatcher

open CosmosRl.Foundation

variable {config : Config}

inductive RankOrder (controller : Controller) : Prop
  | ended (atEnd : (controller.policy.currentStep : Int) = controller.policy.totalSteps)
      (positive : 0 < controller.policy.totalSteps)
  | waiting
      (uninitialized : ∀ name status, controller.policy.status.get? name = some status →
        status = .uninitialized)
  | aligned (ranks : RanksInOrder controller.arrivedPolicyReplicas)
      (queues : controller.policy.rolloutBufferPerRank.length =
        controller.arrivedPolicyReplicas.length)

structure RankSound (config : Config) (controller : Controller) : Prop where
  placed : config.ByRank → PlacedByRank controller.policy.rolloutBufferPerRank
  order : config.ByRank → RankOrder controller

variable {before after controller : Controller} {name : ReplicaName} {status : PolicyStatus}

theorem RankOrder.of_same (order : RankOrder before)
    (same : SamePhase before after) : RankOrder after := by
  cases order with
  | ended atEnd positive =>
    apply RankOrder.ended
    · rw [same.currentStep_eq, same.totalSteps_eq]
      exact atEnd
    · rw [same.totalSteps_eq]
      exact positive
  | waiting uninitialized =>
    apply RankOrder.waiting
    rw [same.status_eq]
    exact uninitialized
  | aligned ranks queues =>
    apply RankOrder.aligned
    · rw [same.arrived_eq]
      exact ranks
    · rw [same.arrived_eq, same.queues_eq]
      exact queues

theorem RankSound.of_same (rank : RankSound config before) (same : SameFleet before after)
    (queues : after.policy.rolloutBufferPerRank = before.policy.rolloutBufferPerRank) :
    RankSound config after := by
  refine ⟨?_, fun byRank => (rank.order byRank).of_same same.samePhase⟩
  rw [queues]
  exact rank.placed

theorem RankSound.of_policyKept (rank : RankSound config before)
    (kept : PolicyKept before after) : RankSound config after := by
  apply rank.of_same (.of_policyKept kept)
  rw [kept.policy_eq]

theorem RankOrder.of_enabled (order : RankOrder controller)
    (wellFormed : WellFormed controller) (enabled : TriggerEnabled config controller) :
    RanksInOrder controller.arrivedPolicyReplicas ∧
      controller.policy.rolloutBufferPerRank.length =
        controller.arrivedPolicyReplicas.length := by
  cases order with
  | ended atEnd positive =>
    have finished := enabled.notFinished
    rw [NothingMissed.finished_of_atEnd atEnd positive] at finished
    cases finished
  | waiting uninitialized =>
    obtain ⟨name, present⟩ := List.exists_mem_of_ne_nil _ (anyArrived_of_replicas enabled.arrived)
    obtain ⟨status, found⟩ := Dict.mem_keys_iff_get?.mp ((wellFormed.statusKeys name).mpr present)
    rw [uninitialized name status found] at found
    exact absurd enabled (not_enabled_of_uninitialized found)
  | aligned ranks queues => exact ⟨ranks, queues⟩

/-- The rollouts of a log have been sent to the replicas whose ranks are the remainders of
their prompt indices by the size of the mesh. -/
def SentByRank (sent : List Published) (controller : Controller) : Prop :=
  ∀ published ∈ sent, ∀ rollout, published.rollout? = some rollout →
    ∃ replica, (published.replicaName, replica) ∈ controller.arrivedPolicyReplicas ∧
      replica.meshRank =
        (rollout.promptIdx % controller.arrivedPolicyReplicas.length : Nat)

structure RankServed (config : Config) (before after : Controller) : Prop where
  arrived_eq : after.arrivedPolicyReplicas = before.arrivedPolicyReplicas
  log : ∃ sent, after.redis = before.redis ++ sent ∧
    (config.dataDispatchAsRankInMesh = true → SentByRank sent after)

theorem sentByRank_of_commands {sent : List Published}
    (commands : ∀ published ∈ sent, published.isRollout = false) (controller : Controller) :
    SentByRank sent controller := by
  intro published inside rollout found
  have command := commands published inside
  unfold Published.isRollout at command
  unfold Published.rollout? at found
  split at found
  · rename_i message
    rw [message] at command
    cases command
  · cases found

namespace RankServed

variable {first second third before after : Controller}

theorem refl (controller : Controller) : RankServed config controller controller :=
  ⟨rfl, [], (List.append_nil _).symm, fun _ => sentByRank_of_commands (by simp) controller⟩

theorem trans (left : RankServed config first second) (right : RankServed config second third) :
    RankServed config first third := by
  obtain ⟨sent, redis, byRank⟩ := left.log
  obtain ⟨later, laterRedis, laterByRank⟩ := right.log
  refine ⟨right.arrived_eq.trans left.arrived_eq, sent ++ later, ?_, ?_⟩
  · rw [laterRedis, redis, List.append_assoc]
  · intro ranked published inside rollout found
    rcases List.mem_append.mp inside with early | late
    · rw [right.arrived_eq]
      exact byRank ranked published early rollout found
    · exact laterByRank ranked published late rollout found

theorem silent (arrived : after.arrivedPolicyReplicas = before.arrivedPolicyReplicas)
    (redis : after.redis = before.redis) : RankServed config before after :=
  ⟨arrived, [], by rw [redis, List.append_nil],
    fun _ => sentByRank_of_commands (by simp) after⟩

theorem of_undispatched (arrived : after.arrivedPolicyReplicas = before.arrivedPolicyReplicas)
    (undispatched : Undispatched config before after) : RankServed config before after := by
  obtain ⟨sent, redis, commands⟩ := undispatched.log
  exact ⟨arrived, sent, redis, fun _ => sentByRank_of_commands commands after⟩

end RankServed

theorem StepDispatched.sentByRank {itemsCount required : Nat} {taken : List (ReplicaName × Rollout)}
    (step : StepDispatched config itemsCount required before taken after)
    (arrived : after.arrivedPolicyReplicas = before.arrivedPolicyReplicas)
    (placed : PlacedByRank before.policy.rolloutBufferPerRank)
    (ranked : config.dataDispatchAsRankInMesh = true)
    (aligned : taken ≠ [] → RanksInOrder before.arrivedPolicyReplicas ∧
      before.policy.rolloutBufferPerRank.length = before.arrivedPolicyReplicas.length) :
    ∃ sent, after.redis = before.redis ++ sent ∧ SentByRank sent after := by
  obtain ⟨doSave, announcing, redis⟩ := step.log
  refine ⟨_, redis, ?_⟩
  intro published inside rollout found
  rcases List.mem_append.mp inside with sent | announced
  · obtain ⟨item, member, rfl⟩ := List.mem_map.mp sent
    obtain rfl : item.2 = rollout := by simpa [Published.rollout?] using found
    obtain ⟨position, queue, target, queueFound, inQueue⟩ := step.spec.origin ranked item member
    obtain ⟨ranks, count⟩ := aligned (List.ne_nil_of_mem member)
    rw [Controller.sortedPolicyNames, List.getElem?_map, Option.map_eq_some_iff] at target
    obtain ⟨entry, entryFound, sameName⟩ := target
    refine ⟨entry.2, ?_, ?_⟩
    · rw [arrived, ← sameName]
      exact mem_sortedByStartTime.mp (List.mem_of_getElem? entryFound)
    · rw [ranks position entry entryFound, arrived, ← count,
        placed position queue queueFound item.2 inQueue]
  · obtain ⟨name, _, rfl⟩ := List.mem_map.mp announced
    cases found

theorem RankSound.tryTrigger (sound : FleetSound config controller)
    (rank : RankSound config controller) :
    RankServed config controller (tryTriggerDataFetchAndTraining config false controller).state ∧
      RankSound config (tryTriggerDataFetchAndTraining config false controller).state := by
  rw [tryTrigger_eq]
  by_cases enabled : TriggerEnabled config controller
  · rw [if_pos enabled]
    let issued := (issueStep config config.trainBatchPerReplica
      (controller.rolloutsPerStep config) controller).state
    have same : SameMesh controller issued := sameMesh_issueStep _ _ _
    obtain ⟨raised, _, count⟩ := issueStep_of_enabled sound.wellFormed enabled sound.queuesBuilt
    by_cases colocated : config.mode = .colocated
    · have undispatched := @undispatched_issueStep config colocated
        config.trainBatchPerReplica (controller.rolloutsPerStep config) controller
      exact ⟨.of_undispatched same.arrived_eq undispatched,
        fun byRank => absurd colocated byRank.1, fun byRank => absurd colocated byRank.1⟩
    · rcases issueStep_dispatched colocated sound.wellFormed config.trainBatchPerReplica
        (controller.rolloutsPerStep config) with ⟨exn, failed⟩ | ⟨_, taken, dispatched⟩
      · rw [failed] at raised
        cases raised
      · refine ⟨⟨same.arrived_eq, ?_⟩,
          fun byRank => (rank.placed byRank).left dispatched.spec.count_eq dispatched.spec.left,
          ?_⟩
        · by_cases ranked : config.dataDispatchAsRankInMesh = true
          · obtain ⟨sent, redis, byRank⟩ := dispatched.sentByRank same.arrived_eq
              (rank.placed ⟨colocated, ranked⟩) ranked fun _ =>
                (rank.order ⟨colocated, ranked⟩).of_enabled sound.wellFormed enabled
            exact ⟨sent, redis, fun _ => byRank⟩
          · obtain ⟨doSave, announcing, redis⟩ := dispatched.log
            exact ⟨_, redis, fun contrary => absurd contrary ranked⟩
        · intro byRank
          obtain ⟨ranks, queues⟩ := (rank.order byRank).of_enabled sound.wellFormed enabled
          apply RankOrder.aligned
          · rw [same.arrived_eq]
            exact ranks
          · rw [same.arrived_eq, ← queues]
            exact count
  · rw [if_neg enabled]
    exact ⟨.refl controller, rank⟩

theorem RankSound.queued (rank : RankSound config controller)
    (rollout : Rollout) : RankSound config (controller.queued config rollout) := by
  have same := @sameFleet_queued config rollout controller
  refine ⟨fun byRank => ?_, fun byRank => (rank.order byRank).of_same same.samePhase⟩
  unfold Controller.queued
  rw [if_pos byRank.2]
  exact placedByRank_modify (rank.placed byRank) rollout

theorem rankServed_queued (rollout : Rollout) (controller : Controller) :
    RankServed config controller (controller.queued config rollout) := by
  apply RankServed.silent
  · exact (@sameFleet_queued config rollout controller).mesh.arrived_eq
  · unfold Controller.queued
    split <;> rfl

theorem RankSound.putRollout (sound : FleetSound config controller)
    (rank : RankSound config controller) (rollout : Rollout)
    (accepts : controller.acceptsRollouts config = true) :
    RankServed config controller (putRollout config rollout controller).state ∧
      RankSound config (putRollout config rollout controller).state := by
  have soundQueued := (@sameFleet_queued config rollout controller).sound sound
  obtain ⟨served, after⟩ := RankSound.tryTrigger soundQueued (rank.queued rollout)
  rw [putRollout_accepted rollout accepts]
  exact ⟨(rankServed_queued rollout controller).trans served, after⟩

theorem RankSound.putRolloutLoop
    (sound : FleetSound config controller) (rank : RankSound config controller)
    (rollouts : List Rollout) :
    RankServed config controller (putRolloutLoop config rollouts controller).state ∧
      RankSound config (putRolloutLoop config rollouts controller).state := by
  induction rollouts generalizing controller with
  | nil => exact ⟨.refl controller, rank⟩
  | cons rollout rest ih =>
    unfold Dispatcher.putRolloutLoop
    cases accepts : controller.acceptsRollouts config with
    | false =>
      rw [putRollout_rejected rollout accepts, Outcome.raise_andThen]
      exact ⟨.refl controller, rank⟩
    | true =>
      obtain ⟨raised, soundPut, _⟩ := sound.putRollout rollout accepts
      obtain ⟨served, rankPut⟩ := RankSound.putRollout sound rank rollout accepts
      generalize Dispatcher.putRollout config rollout controller = put at *
      rw [Outcome.andThen_of_finished raised]
      split
      · have same : SameFleet put.state
            { put.state with policy.onPolicyRolloutCompleted := true } :=
          ⟨⟨rfl, rfl, rfl⟩, rfl, rfl, rfl⟩
        exact ⟨served.trans (.silent rfl rfl), rankPut.of_same same rfl⟩
      · obtain ⟨laterServed, laterRank⟩ := ih soundPut rankPut
        exact ⟨served.trans laterServed, laterRank⟩

theorem RankSound.withRemain (rank : RankSound config controller) (remaining : Int) :
    RankSound config { controller with policy.remainSamplesNum := remaining } := by
  have same : SameFleet controller
      { controller with policy.remainSamplesNum := remaining } :=
    ⟨⟨rfl, rfl, rfl⟩, rfl, rfl, rfl⟩
  exact rank.of_same same rfl

theorem RankSound.putRolloutGroup
    (sound : FleetSound config controller) (rank : RankSound config controller)
    (report : RolloutReport) :
    RankServed config controller (putRolloutGroup config report controller).state ∧
      RankSound config (putRolloutGroup config report controller).state := by
  let counted := Dispatcher.afterStatistics config report controller
  have countedSound := sound.afterStatistics report
  have countedRank : RankSound config counted ∧ RankServed config controller counted := by
    unfold counted Dispatcher.afterStatistics
    split
    · exact ⟨rank.withRemain _, .silent rfl rfl⟩
    · exact ⟨rank, .refl controller⟩
  have unfolded : (if config.variant = .dapo then
      updateDynamicSamplingStatistics report.filteredPositive report.filteredNegative controller
      else controller) = counted := rfl
  unfold Dispatcher.putRolloutGroup
  dsimp only
  rw [unfolded]
  rcases @filterOutdatedRollouts_spec config report.rollouts counted with
    ⟨exn, _, rejected⟩ | ⟨filtered, kept, filteredEq⟩
  · rw [rejected]
    exact ⟨countedRank.2, countedRank.1⟩
  · rw [kept]
    have filteredSound : FleetSound config filtered := by
      rw [filteredEq]
      exact countedSound.withRemain _
    have filteredRank : RankSound config filtered := by
      rw [filteredEq]
      exact countedRank.1.withRemain _
    have filteredServed : RankServed config controller filtered := by
      refine countedRank.2.trans ?_
      rw [filteredEq]
      exact .silent rfl rfl
    unfold Dispatcher.putRollouts
    dsimp only
    split
    · exact ⟨filteredServed.trans (.silent rfl rfl), filteredRank.withRemain _⟩
    · obtain ⟨served, after⟩ := RankSound.putRolloutLoop filteredSound filteredRank
        (freshRollouts config report.rollouts counted)
      exact ⟨filteredServed.trans served, after⟩

theorem RankOrder.of_sameButTotal (order : RankOrder before) (same : SameButTotal before after)
    (notEnded : ¬ ((before.policy.currentStep : Int) = before.policy.totalSteps ∧
      0 < before.policy.totalSteps)) : RankOrder after := by
  have arrived : after.arrivedPolicyReplicas = before.arrivedPolicyReplicas := by
    rw [Controller.arrivedPolicyReplicas, same.replicas_eq, Controller.arrivedPolicyReplicas]
  cases order with
  | ended atEnd positive => exact absurd ⟨atEnd, positive⟩ notEnded
  | waiting uninitialized =>
    apply RankOrder.waiting
    rw [same.status_eq]
    exact uninitialized
  | aligned ranks queues =>
    apply RankOrder.aligned
    · rw [arrived]
      exact ranks
    · rw [arrived, same.queues_eq]
      exact queues

theorem RankSound.of_sameButTotal (rank : RankSound config before)
    (same : SameButTotal before after)
    (notEnded : ¬ ((before.policy.currentStep : Int) = before.policy.totalSteps ∧
      0 < before.policy.totalSteps)) : RankSound config after := by
  refine ⟨?_, fun byRank => (rank.order byRank).of_sameButTotal same notEnded⟩
  rw [same.queues_eq]
  exact rank.placed

/-- The forced last step takes no rollouts, and no step follows it. -/
theorem RankSound.fakeTrigger (sound : FleetSound config (prepareFakeStep controller))
    (rank : RankSound config (prepareFakeStep controller)) :
    let result := tryTriggerDataFetchAndTraining config true (prepareFakeStep controller)
    RankServed config (prepareFakeStep controller) result.state ∧
      RankSound config result.state := by
  intro result
  rcases @tryTrigger_prepared config controller with idle | issued
  · rw [show result = _ from idle]
    exact ⟨.refl _, rank⟩
  · let prepared := prepareFakeStep controller
    have resultEq : result = issueStep config 0 0 prepared := issued
    have same : SameMesh prepared result.state := by
      rw [resultEq]
      exact sameMesh_issueStep 0 0 _
    have step : result.state.policy.currentStep = controller.policy.currentStep + 1 := by
      rw [resultEq]
      rcases @issueStep_spec config _ sound.wellFormed 0 0 with
        ⟨_, _, _, quiet⟩ | ⟨_, issuedAll⟩
      · exact quiet.currentStep_eq
      · exact issuedAll.currentStep_eq
    have total : result.state.policy.totalSteps = (controller.policy.currentStep : Int) + 1 :=
      same.totalSteps_eq
    have ended : RankOrder result.state := by
      apply RankOrder.ended
      · rw [step, total]
        exact Int.natCast_succ _
      · omega
    by_cases colocated : config.mode = .colocated
    · refine ⟨?_, fun byRank => absurd colocated byRank.1, fun byRank => absurd colocated byRank.1⟩
      apply RankServed.of_undispatched same.arrived_eq
      rw [resultEq]
      exact undispatched_issueStep colocated 0 0 prepared
    · rcases issueStep_dispatched colocated sound.wellFormed 0 0 with
        ⟨exn, failed⟩ | ⟨_, taken, dispatched⟩
      · rw [← resultEq] at failed
        obtain ⟨_, _, sameQueues, _⟩ := @gated_fields config 0 prepared
        refine ⟨.silent same.arrived_eq ?_, ?_, fun _ => ended⟩
        · rw [failed]
          exact redis_issueGated 0 prepared
        · rw [failed]
          show config.ByRank →
            PlacedByRank (issueGated config 0 prepared).policy.rolloutBufferPerRank
          rw [sameQueues]
          exact rank.placed
      · rw [← resultEq] at dispatched
        have nothing : taken = [] := by
          apply List.eq_nil_of_length_eq_zero
          rw [dispatched.spec.total, Nat.zero_mul]
        refine ⟨⟨same.arrived_eq, ?_⟩, ?_, fun _ => ended⟩
        · by_cases ranked : config.dataDispatchAsRankInMesh = true
          · obtain ⟨sent, redis, byRank⟩ := dispatched.sentByRank same.arrived_eq
              (rank.placed ⟨colocated, ranked⟩) ranked fun some_taken =>
                absurd nothing some_taken
            exact ⟨sent, redis, fun _ => byRank⟩
          · obtain ⟨doSave, announcing, redis⟩ := dispatched.log
            exact ⟨_, redis, fun contrary => absurd contrary ranked⟩
        · exact fun byRank => (rank.placed byRank).left dispatched.spec.count_eq
            dispatched.spec.left

section

variable (sound : FleetSound config controller)

include sound

theorem RankSound.rolloutEndSignal (rank : RankSound config controller) (name : ReplicaName) :
    RankServed config controller (rolloutEndSignal config name controller).state ∧
      RankSound config (rolloutEndSignal config name controller).state := by
  let ended := rolloutEnd name controller
  have kept : PolicyKept controller ended := ⟨rfl, rfl⟩
  have endedSound : FleetSound config ended := (SameFleet.of_policyKept kept).sound sound
  have endedRank : RankSound config ended := rank.of_policyKept kept
  have endedServed : RankServed config controller ended := .silent rfl rfl
  unfold Dispatcher.rolloutEndSignal
  dsimp only
  cases allEnded : (rolloutEnd name controller).allRolloutsEnded with
  | false =>
    rw [if_neg Bool.false_ne_true]
    exact ⟨endedServed, endedRank⟩
  | true =>
    rw [if_pos rfl, allRolloutsHaveEnded_eq allEnded]
    dsimp only
    let recomputed := recomputeTotalSteps config (some (ended.totalPendingRollouts config)) ended
    have same : SameButTotal ended recomputed := sameButTotal_recomputeTotalSteps _ ended
    have recomputedServed : RankServed config controller recomputed := by
      refine endedServed.trans (.silent ?_ ?_)
      · rw [Controller.arrivedPolicyReplicas, same.replicas_eq, Controller.arrivedPolicyReplicas]
      · unfold recomputed recomputeTotalSteps
        split
        · rfl
        · split <;> rfl
    cases forced : forcesLastStep config (rolloutEnd name controller) with
    | false =>
      rw [if_neg Bool.false_ne_true]
      refine ⟨recomputedServed, ?_⟩
      by_cases finished : ended.trainingFinished = true
      · rw [show recomputeTotalSteps config _ (rolloutEnd name controller) = ended from
          if_pos finished]
        exact endedRank
      · refine endedRank.of_sameButTotal same ?_
        rintro ⟨atEnd, positive⟩
        exact finished (NothingMissed.finished_of_atEnd atEnd positive)
    | true =>
      rw [if_pos rfl]
      have prepared : SameButTotal ended (prepareFakeStep recomputed) :=
        ⟨same.replicas_eq, same.initDone_eq, same.status_eq, same.currentStep_eq, same.queues_eq⟩
      have notEnded : ¬ ((ended.policy.currentStep : Int) = ended.policy.totalSteps ∧
          0 < ended.policy.totalSteps) := by
        rintro ⟨endReached, _⟩
        simp only [forcesLastStep, Bool.and_eq_true, decide_eq_true_eq] at forced
        apply forced.2
        rw [← endReached]
        exact congrArg Nat.cast same.currentStep_eq
      obtain ⟨served, after⟩ := RankSound.fakeTrigger
        (prepared.sound notEnded endedSound) (endedRank.of_sameButTotal prepared notEnded)
      have preparedServed : RankServed config recomputed (prepareFakeStep recomputed) :=
        .silent rfl rfl
      exact ⟨(recomputedServed.trans preparedServed).trans served, after⟩

theorem RankSound.validationReport (rank : RankSound config controller)
    (validationStep numResults : Nat) :
    let result := validationReportValidationResults config validationStep numResults controller
    RankServed config controller result.state ∧ RankSound config result.state := by
  intro result
  rcases validationReport_cases validationStep numResults controller with report | report
  · have same : SameFleet controller (controller.validationClosed validationStep numResults) :=
      ⟨⟨rfl, rfl, rfl⟩, rfl, rfl, rfl⟩
    have silent : RankServed config controller
        (controller.validationClosed validationStep numResults) := .silent rfl rfl
    obtain ⟨served, after⟩ := RankSound.tryTrigger (same.sound sound) (rank.of_same same rfl)
    rw [show result = _ from report]
    exact ⟨silent.trans served, after⟩
  · rw [show result = _ from report]
    exact ⟨.silent rfl rfl, rank.of_same ⟨⟨rfl, rfl, rfl⟩, rfl, rfl, rfl⟩ rfl⟩

theorem RankSound.finishStep (rank : RankSound config controller) (step : Nat) (totalSteps : Int) :
    RankServed config controller (finishStep config step totalSteps controller).state ∧
      RankSound config (finishStep config step totalSteps controller).state := by
  let synced := syncedWeights config step totalSteps controller
  have kept : PolicyKept controller synced :=
    policyKept_rolloutParts.syncedWeights step totalSteps controller
  have undispatched : Undispatched config controller synced :=
    undispatched_parts.rolloutParts.syncedWeights step totalSteps controller
  have same := SameFleet.of_policyKept kept
  have syncedSound := same.sound sound
  obtain ⟨served, after⟩ := RankSound.tryTrigger syncedSound (rank.of_policyKept kept)
  have whole := (RankServed.of_undispatched same.mesh.arrived_eq undispatched).trans served
  obtain ⟨raised, _⟩ := syncedSound.poll
  rw [finishStep_eq]
  rw [Outcome.andThen_of_finished raised]
  split
  · have reset : SameFleet (tryTriggerDataFetchAndTraining config false synced).state
        { (tryTriggerDataFetchAndTraining config false synced).state with
          policy.onPolicyRolloutCompleted := false } :=
      ⟨⟨rfl, rfl, rfl⟩, rfl, rfl, rfl⟩
    exact ⟨whole.trans (.silent rfl rfl), after.of_same reset rfl⟩
  · exact ⟨whole, after⟩

end

theorem RankSound.of_started (rank : RankSound config before)
    (found : before.policy.status.get? name = some status)
    (started : status ≠ .uninitialized) (same : SameMesh before after)
    (step : after.policy.currentStep = before.policy.currentStep)
    (queues : after.policy.rolloutBufferPerRank = before.policy.rolloutBufferPerRank) :
    RankSound config after := by
  refine ⟨?_, fun byRank => ?_⟩
  · rw [queues]
    exact rank.placed
  · cases rank.order byRank with
    | ended atEnd positive =>
      apply RankOrder.ended
      · rw [step, same.totalSteps_eq]
        exact atEnd
      · rw [same.totalSteps_eq]
        exact positive
    | waiting uninitialized => exact absurd (uninitialized name status found) started
    | aligned ranks count =>
      apply RankOrder.aligned
      · rw [same.arrived_eq]
        exact ranks
      · rw [same.arrived_eq, queues]
        exact count

theorem RankSound.trainAck (sound : FleetSound config controller)
    (rank : RankSound config controller)
    (started : ∀ status, controller.policy.status.get? name = some status →
      status ≠ .uninitialized) (step : Nat) (totalSteps : Int) (reportData : ReportData) :
    let result := trainAck config name step totalSteps reportData controller
    RankServed config controller result.state ∧ RankSound config result.state := by
  intro result
  rcases @trainAck_cases config controller sound.wellFormed name step totalSteps reportData with
    ⟨_, _, _, same | same⟩ | ⟨known, outcome⟩
  · rw [show result = _ from same]
    exact ⟨.refl controller, rank⟩
  · have sameFleet : SameFleet controller { controller with
        policy.reportDataList := controller.policy.reportDataList ++ [reportData] } :=
      ⟨⟨rfl, rfl, rfl⟩, rfl, rfl, rfl⟩
    rw [show result = _ from same]
    exact ⟨.silent rfl rfl, rank.of_same sameFleet rfl⟩
  · obtain ⟨status, found⟩ := Dict.mem_keys_iff_get?.mp known
    have initialized := started status found
    rcases outcome with ⟨_, _, same⟩ | ⟨_, _, _, same⟩ | ⟨_, _, well, same⟩
    · rw [show result = _ from same]
      exact ⟨.silent rfl rfl, rank.of_started found initialized ⟨rfl, rfl, rfl⟩ rfl rfl⟩
    · rw [show result = _ from same]
      exact ⟨.silent rfl rfl, rank.of_started found initialized ⟨rfl, rfl, rfl⟩ rfl rfl⟩
    · obtain ⟨sameMesh, sameStep, sameQueues⟩ :=
        @sameFields_readied config controller name reportData
      let consumed := (controller.reported name reportData).consumed config
      let summed := sumAndReportData config consumed
      have summedServed : RankServed config consumed summed :=
        .of_undispatched sameMesh.arrived_eq (undispatched_sumAndReportData consumed)
      have consumedServed : RankServed config controller consumed := .silent rfl rfl
      have readiedServed : RankServed config summed summed.allReadied := .silent rfl rfl
      obtain ⟨served, after⟩ := RankSound.finishStep
        (sound.of_started found initialized well sameMesh sameStep sameQueues)
        (rank.of_started found initialized sameMesh sameStep sameQueues) step totalSteps
      rw [show result = _ from same]
      exact ⟨((consumedServed.trans summedServed).trans readiedServed).trans served, after⟩

theorem RankSound.getBatchedPrompt (rank : RankSound config controller)
    (n : Nat) (validationStep rankInMesh : Option Nat) :
    let after := (Dispatcher.getBatchedPrompt config n validationStep rankInMesh controller).2
    RankServed config controller after ∧ RankSound config after := by
  intro after
  have undispatched := @undispatched_getBatchedPrompt config n validationStep rankInMesh controller
  have same : SameFleet controller after ∧
      after.policy.rolloutBufferPerRank = controller.policy.rolloutBufferPerRank := by
    rcases @getBatchedPrompt_spec config n validationStep rankInMesh controller with
      ⟨_, samePolicy, _⟩ | ⟨payloads, isEnd, base, result, samePolicy, _⟩
    · refine ⟨⟨⟨?_, ?_, ?_⟩, ?_, ?_, ?_⟩, ?_⟩ <;> rw [show after.policy = _ from samePolicy]
    · rw [show after = _ from congrArg Prod.snd result]
      unfold handOut
      dsimp only
      split
      · refine ⟨⟨⟨?_, ?_, ?_⟩, ?_, ?_, ?_⟩, ?_⟩ <;> rw [samePolicy]
      · refine ⟨⟨⟨?_, ?_, ?_⟩, ?_, ?_, ?_⟩, ?_⟩ <;> simp only [samePolicy]
  exact ⟨.of_undispatched same.1.mesh.arrived_eq undispatched, rank.of_same same.1 same.2⟩

end CosmosRl.Dispatcher
