import CosmosRl.Dispatcher.Barrier
import CosmosRl.Dispatcher.MeshRebuild

/-!
The phases of the policy fleet.

With rank-specific dispatch a poll of the trigger needs a queue for every arrived
replica.  The queues are made when the mesh is built, so it has to be known in which
phase the fleet is: nobody has been initialized yet, everybody has, or the last step
has been issued.
-/

namespace CosmosRl.Dispatcher

open CosmosRl.Foundation

variable {config : Config}

def OwersInitialized (settled : List SentFetch) (controller : Controller) : Prop :=
  ∀ fetch ∈ outstandingOf settled controller, ∃ status,
    controller.policy.status.get? fetch.replicaName = some status ∧
      status ≠ .uninitialized

namespace OwersInitialized

variable {settled : List SentFetch} {before after : Controller}

theorem transfer (owers : OwersInitialized settled before)
    (fetches : after.sentFetches = before.sentFetches)
    (statuses : ∀ name status, before.policy.status.get? name = some status →
      status ≠ .uninitialized → ∃ later, after.policy.status.get? name = some later ∧
        later ≠ .uninitialized) : OwersInitialized settled after := by
  intro fetch outstanding
  rw [mem_outstandingOf, fetches, ← mem_outstandingOf] at outstanding
  obtain ⟨status, found, initialized⟩ := owers fetch outstanding
  exact statuses _ status found initialized

theorem of_quiet (owers : OwersInitialized settled before) (quiet : Quiet before after) :
    OwersInitialized settled after := by
  apply owers.transfer quiet.sentFetches_eq
  intro name status found initialized
  rw [quiet.status_eq]
  exact ⟨status, found, initialized⟩

theorem of_advance (wellFormed : WellFormed before) (owers : OwersInitialized settled before)
    (advance : Advance before after) : OwersInitialized settled after := by
  cases advance with
  | quiet quiet => exact owers.of_quiet quiet
  | stalled quiet =>
    have moved : OwersInitialized settled before.advanceStep :=
      owers.transfer rfl fun _ status found initialized => ⟨status, found, initialized⟩
    exact moved.of_quiet quiet
  | issued arrived issued =>
    intro fetch outstanding
    obtain ⟨itemsCount, totalSteps, sent⟩ := issued.sentFetches_eq
    rw [mem_outstandingOf, sent, List.mem_append] at outstanding
    have known : fetch.replicaName ∈ after.policy.status.keys := by
      rw [issued.statusKeys_eq]
      obtain ⟨earlier | now, unsettled⟩ := outstanding
      · obtain ⟨status, found, _⟩ := owers fetch (mem_outstandingOf.mpr ⟨earlier, unsettled⟩)
        exact Dict.mem_keys_iff_get?.mpr ⟨status, found⟩
      · obtain ⟨name, present, rfl⟩ := List.mem_map.mp now
        exact (wellFormed.statusKeys name).mpr present
    obtain ⟨status, found⟩ := Dict.mem_keys_iff_get?.mp known
    refine ⟨status, found, ?_⟩
    rw [issued.allRunning _ _ found]
    decide
  | readied names present =>
    refine owers.transfer rfl ?_
    intro name status found initialized
    simp only [get?_setAllStatus]
    split
    · exact ⟨.ready, rfl, by decide⟩
    · exact ⟨status, found, initialized⟩

theorem of_progress (wellFormed : WellFormed before)
    (owers : OwersInitialized settled before) (progress : Progress before after) :
    OwersInitialized settled after := by
  have both : WellFormed after ∧ OwersInitialized settled after := by
    apply progress.preserves _ ⟨wellFormed, owers⟩
    rintro middle next ⟨wellFormedHere, owersHere⟩ advance
    exact ⟨advance.wellFormed wellFormedHere, owersHere.of_advance wellFormedHere advance⟩
  exact both.2

theorem settle (owers : OwersInitialized settled before) (removed : List SentFetch) :
    OwersInitialized (settled ++ removed) before := by
  intro fetch outstanding
  exact owers fetch (mem_outstandingOf_append.mp outstanding).1

theorem started_of_inOrder {world : World} (owers : OwersInitialized world.settled world.controller)
    (wellFormed : WellFormed world.controller) {name : ReplicaName} {step : Nat}
    {totalSteps : Int} {reportData : ReportData}
    (inOrder : AckInOrder world (.trainAck name step totalSteps reportData)) (status : PolicyStatus)
    (found : world.controller.policy.status.get? name = some status) :
    status ≠ .uninitialized := by
  have known := Dict.mem_keys_iff_get?.mpr ⟨status, found⟩
  obtain ⟨fetch, next, _⟩ := inOrder.fetch (registered_of_status wellFormed known)
  have sameName : fetch.replicaName = name := by simpa using List.find?_some next
  obtain ⟨_, owed, started⟩ := owers fetch (List.mem_of_find?_eq_some next)
  rw [sameName, found] at owed
  cases owed
  exact started

end OwersInitialized

theorem owersInitialized_handle {world : World} {event : Event}
    (wellFormed : WellFormed world.controller)
    (owers : OwersInitialized world.settled world.controller) :
    OwersInitialized (world.handle config event).settled
      (world.handle config event).controller := by
  by_cases keeps : event.keepsReplicas = true
  · have progress := @handleEvent_progress config world.controller wellFormed event keeps
    have started : OwersInitialized world.settled (world.controller.withHandedOut config
        (eventHandedOut config world.controller event)) :=
      owers.transfer rfl fun _ status found initialized => ⟨status, found, initialized⟩
    have startedWell : WellFormed (world.controller.withHandedOut config
        (eventHandedOut config world.controller event)) :=
      ⟨wellFormed.shapesValid, wellFormed.statusKeys⟩
    exact (started.of_progress startedWell progress).settle _
  cases event with
  | registerPolicy atom now =>
    obtain ⟨joined, join, progress⟩ :=
      @registerPolicy_joined config world.controller wellFormed atom now
    have joinedOwers : OwersInitialized world.settled joined := by
      apply owers.transfer join.sentFetches_eq
      intro name status found initialized
      rw [join.status_kept name (Dict.mem_keys_iff_get?.mpr ⟨status, found⟩)]
      exact ⟨status, found, initialized⟩
    exact (joinedOwers.of_progress join.wellFormed progress).settle _
  | unregister name =>
    rcases @unregister_spec config world.controller name with
      ⟨_, quiet⟩ | ⟨_, quiet⟩
    · intro fetch outstanding
      obtain ⟨outstanding, unsettled⟩ := mem_outstandingOf_append.mp outstanding
      rw [mem_outstandingOf, World.handle, quiet.sentFetches_eq] at outstanding
      obtain ⟨status, found, initialized⟩ := owers fetch (mem_outstandingOf.mpr outstanding)
      have other : fetch.replicaName ≠ name := by
        intro same
        exact unsettled (mem_settled_unregister.mpr ⟨mem_outstandingOf.mpr outstanding, same⟩)
      refine ⟨status, ?_, initialized⟩
      rw [World.handle, quiet.status_eq]
      simpa [Controller.withoutReplica, Dict.get?_erase, other] using found
    · exact (owers.of_quiet quiet).settle _
  | trainAck name step totalSteps reportData =>
    by_cases known : name ∈ world.controller.policy.status.keys
    · have acked : OwersInitialized world.settled (world.controller.withReduced name) := by
        refine owers.transfer rfl ?_
        intro other status found initialized
        by_cases same : other = name
        · exact ⟨.reduced, by simp [Controller.withReduced, Dict.get?_set, same], by decide⟩
        · exact ⟨status, by simpa [Controller.withReduced, Dict.get?_set, same] using found,
            initialized⟩
      have consumed : OwersInitialized world.settled
          ((world.controller.withReduced name).consumed config) :=
        acked.transfer rfl fun _ status found initialized => ⟨status, found, initialized⟩
      rcases @trainAck_spec config world.controller wellFormed name known step totalSteps
          reportData with ⟨_, quiet⟩ | ⟨_, _, quiet⟩ | ⟨_, _, progress⟩
      · exact (acked.of_quiet quiet).settle _
      · exact (consumed.of_quiet quiet).settle _
      · have ackedWell := wellFormed.withReduced known
        have consumedWell : WellFormed ((world.controller.withReduced name).consumed config) :=
          ⟨ackedWell.shapesValid, ackedWell.statusKeys⟩
        have readied := consumed.of_advance consumedWell
          (.readied ((world.controller.withReduced name).consumed config).sortedPolicyNames
            fun other present =>
              (consumedWell.statusKeys other).mpr (mem_sortedPolicyNames.mp present))
        exact (readied.of_progress consumedWell.allReadied progress).settle _
    · exact (owers.of_quiet (quiet_trainAck_of_notMem known step totalSteps reportData)).settle _
  | registerRollout atom now => exact absurd rfl keeps
  | getBatchedPrompt n validationStep rankInMesh => exact absurd rfl keeps
  | putRolloutGroup report => exact absurd rfl keeps
  | rolloutEndSignal name => exact absurd rfl keeps
  | tryTriggerDataFetchAndTraining => exact absurd rfl keeps
  | validationReport validationStep numResults => exact absurd rfl keeps

inductive RankPhase (controller : Controller) : Prop
  | ended (atEnd : (controller.policy.currentStep : Int) = controller.policy.totalSteps)
      (positive : 0 < controller.policy.totalSteps)
  | waiting
      (uninitialized : ∀ name status, controller.policy.status.get? name = some status →
        status = .uninitialized)
      (unloaded : controller.policy.policyInitDone = true →
        ∀ entry ∈ controller.arrivedPolicyReplicas,
          entry.2.weightsLoadedInViewOfCommand = false)
  | meshed (initDone : controller.policy.policyInitDone = true)
      (someone : controller.arrivedPolicyReplicas ≠ [])
      (loaded : ∀ entry ∈ controller.arrivedPolicyReplicas,
        entry.2.weightsLoadedInViewOfCommand = true)
      (queues : controller.arrivedPolicyReplicas.length ≤
        controller.policy.rolloutBufferPerRank.length)

def Config.ByRank (config : Config) : Prop :=
  config.mode ≠ .colocated ∧ config.dataDispatchAsRankInMesh = true

structure FleetSound (config : Config) (controller : Controller) : Prop where
  wellFormed : WellFormed controller
  flags : FlagsArrived controller
  phase : config.ByRank → RankPhase controller

structure SamePhase (before after : Controller) : Prop where
  arrived_eq : after.arrivedPolicyReplicas = before.arrivedPolicyReplicas
  initDone_eq : after.policy.policyInitDone = before.policy.policyInitDone
  totalSteps_eq : after.policy.totalSteps = before.policy.totalSteps
  status_eq : after.policy.status = before.policy.status
  currentStep_eq : after.policy.currentStep = before.policy.currentStep
  queues_eq : after.policy.rolloutBufferPerRank.length =
    before.policy.rolloutBufferPerRank.length

variable {before after controller : Controller}

theorem RankPhase.of_same (phase : RankPhase before)
    (same : SamePhase before after) : RankPhase after := by
  cases phase with
  | ended atEnd positive =>
    apply RankPhase.ended
    · rw [same.currentStep_eq, same.totalSteps_eq]
      exact atEnd
    · rw [same.totalSteps_eq]
      exact positive
  | waiting uninitialized unloaded =>
    apply RankPhase.waiting
    · rw [same.status_eq]
      exact uninitialized
    · rw [same.initDone_eq, same.arrived_eq]
      exact unloaded
  | meshed initDone someone loaded queues =>
    apply RankPhase.meshed
    · rw [same.initDone_eq]
      exact initDone
    · rw [same.arrived_eq]
      exact someone
    · rw [same.arrived_eq]
      exact loaded
    · rw [same.arrived_eq, same.queues_eq]
      exact queues

structure SameFleet (before after : Controller) : Prop where
  mesh : SameMesh before after
  status_eq : after.policy.status = before.policy.status
  currentStep_eq : after.policy.currentStep = before.policy.currentStep
  queues_eq : after.policy.rolloutBufferPerRank.length =
    before.policy.rolloutBufferPerRank.length

theorem SameMesh.arrived_eq (same : SameMesh before after) :
    after.arrivedPolicyReplicas = before.arrivedPolicyReplicas := by
  rw [Controller.arrivedPolicyReplicas, same.replicas_eq, Controller.arrivedPolicyReplicas]

theorem SameMesh.flags (same : SameMesh before after)
    (flags : FlagsArrived before) : FlagsArrived after := by
  unfold FlagsArrived
  rw [same.replicas_eq]
  exact flags

namespace SameFleet

theorem of_policyKept (kept : PolicyKept before after) : SameFleet before after := by
  refine ⟨⟨?_, ?_, ?_⟩, ?_, ?_, ?_⟩ <;> rw [kept.policy_eq]

variable {before after : Controller}

theorem samePhase (same : SameFleet before after) : SamePhase before after :=
  ⟨same.mesh.arrived_eq, same.mesh.initDone_eq, same.mesh.totalSteps_eq, same.status_eq,
    same.currentStep_eq, same.queues_eq⟩

theorem wellFormed (same : SameFleet before after) (wellFormed : WellFormed before) :
    WellFormed after := by
  refine ⟨?_, ?_⟩
  · rw [same.mesh.replicas_eq]
    exact wellFormed.shapesValid
  · intro name
    rw [same.status_eq, wellFormed.statusKeys, Controller.arrivedPolicyNames,
      Controller.arrivedPolicyNames, same.mesh.arrived_eq]

theorem sound (same : SameFleet before after) (sound : FleetSound config before) :
    FleetSound config after where
  wellFormed := same.wellFormed sound.wellFormed
  flags := same.mesh.flags sound.flags
  phase := fun byRank => (sound.phase byRank).of_same same.samePhase

end SameFleet

structure SameButTotal (before after : Controller) : Prop where
  replicas_eq : after.policy.policyReplicas = before.policy.policyReplicas
  initDone_eq : after.policy.policyInitDone = before.policy.policyInitDone
  status_eq : after.policy.status = before.policy.status
  currentStep_eq : after.policy.currentStep = before.policy.currentStep
  queues_eq : after.policy.rolloutBufferPerRank = before.policy.rolloutBufferPerRank

theorem SameButTotal.sound (same : SameButTotal before after)
    (notEnded : ¬ ((before.policy.currentStep : Int) = before.policy.totalSteps ∧
      0 < before.policy.totalSteps))
    (sound : FleetSound config before) : FleetSound config after := by
  have arrived : after.arrivedPolicyReplicas = before.arrivedPolicyReplicas := by
    rw [Controller.arrivedPolicyReplicas, same.replicas_eq, Controller.arrivedPolicyReplicas]
  refine ⟨⟨?_, ?_⟩, ?_, ?_⟩
  · rw [same.replicas_eq]
    exact sound.wellFormed.shapesValid
  · intro name
    rw [same.status_eq, sound.wellFormed.statusKeys]
    unfold Controller.arrivedPolicyNames
    rw [arrived]
  · unfold FlagsArrived
    rw [same.replicas_eq]
    exact sound.flags
  · intro byRank
    cases sound.phase byRank with
    | ended atEnd positive => exact absurd ⟨atEnd, positive⟩ notEnded
    | waiting uninitialized unloaded =>
      apply RankPhase.waiting
      · rw [same.status_eq]
        exact uninitialized
      · rw [same.initDone_eq, arrived]
        exact unloaded
    | meshed initDone someone loaded queues =>
      apply RankPhase.meshed
      · rw [same.initDone_eq]
        exact initDone
      · rw [arrived]
        exact someone
      · rw [arrived]
        exact loaded
      · rw [arrived, same.queues_eq]
        exact queues

theorem sameButTotal_recomputeTotalSteps (remaining : Option Int) (controller : Controller) :
    SameButTotal controller (recomputeTotalSteps config remaining controller) := by
  unfold recomputeTotalSteps
  split
  · exact ⟨rfl, rfl, rfl, rfl, rfl⟩
  · split <;> exact ⟨rfl, rfl, rfl, rfl, rfl⟩

theorem RankPhase.of_enabled (phase : RankPhase controller)
    (wellFormed : WellFormed controller) (enabled : TriggerEnabled config controller) :
    controller.policy.policyInitDone = true ∧
      (∀ entry ∈ controller.arrivedPolicyReplicas,
        entry.2.weightsLoadedInViewOfCommand = true) ∧
      controller.arrivedPolicyReplicas.length ≤
        controller.policy.rolloutBufferPerRank.length := by
  cases phase with
  | ended atEnd positive =>
    have finished := enabled.notFinished
    rw [trainingFinished_eq, finishedAt, atEnd] at finished
    simp [positive] at finished
  | waiting uninitialized _ =>
    obtain ⟨name, present⟩ := List.exists_mem_of_ne_nil _ (anyArrived_of_replicas enabled.arrived)
    obtain ⟨status, found⟩ := Dict.mem_keys_iff_get?.mp ((wellFormed.statusKeys name).mpr present)
    have initialized := allReadyOrReduced_iff.mp enabled.idle name status found
    rw [uninitialized name status found] at initialized
    rcases initialized with ready | reduced
    · cases ready
    · cases reduced
  | meshed initDone _ loaded queues => exact ⟨initDone, loaded, queues⟩

theorem FleetSound.queuesBuilt
    (sound : FleetSound config controller) : QueuesBuilt config controller := by
  intro notColocated byRank enabled
  exact ((sound.phase ⟨notColocated, byRank⟩).of_enabled sound.wellFormed enabled).2.2

theorem RankPhase.issued (phase : RankPhase before)
    (same : SameMesh before after) (enabled : TriggerEnabled config before)
    (wellFormed : WellFormed before) (queues : after.policy.rolloutBufferPerRank.length =
      before.policy.rolloutBufferPerRank.length) : RankPhase after := by
  obtain ⟨initDone, loaded, count⟩ := phase.of_enabled wellFormed enabled
  apply RankPhase.meshed
  · rw [same.initDone_eq]
    exact initDone
  · rw [same.arrived_eq]
    exact enabled.arrived
  · rw [same.arrived_eq]
    exact loaded
  · rw [same.arrived_eq, queues]
    exact count

theorem FleetSound.tryTrigger (sound : FleetSound config controller) :
    FleetSound config (tryTriggerDataFetchAndTraining config false controller).state ∧
      ¬ TriggerEnabled config
        (tryTriggerDataFetchAndTraining config false controller).state := by
  refine ⟨?_, tryTrigger_not_enabled sound.wellFormed sound.queuesBuilt⟩
  have wellFormed := (@tryTrigger_progress config _ sound.wellFormed false).wellFormed
    sound.wellFormed
  rw [tryTrigger_eq] at wellFormed ⊢
  by_cases enabled : TriggerEnabled config controller
  · rw [if_pos enabled] at wellFormed ⊢
    have same := @sameMesh_issueStep config config.trainBatchPerReplica
      (controller.rolloutsPerStep config) controller
    obtain ⟨_, _, queues⟩ := issueStep_of_enabled sound.wellFormed enabled sound.queuesBuilt
    exact ⟨wellFormed, same.flags sound.flags, fun byRank =>
      (sound.phase byRank).issued same enabled sound.wellFormed queues⟩
  · rw [if_neg enabled]
    exact sound

structure NothingMissed (config : Config) (controller : Controller) : Prop where
  sound : FleetSound config controller
  disabled : ¬ TriggerEnabled config controller

namespace NothingMissed

variable {before after controller : Controller}

theorem of_same (missed : NothingMissed config before) (fleet : SameFleet before after)
    (trigger : SameTrigger before after) : NothingMissed config after :=
  ⟨fleet.sound missed.sound, fun enabled => missed.disabled (trigger.enabled_iff.mp enabled)⟩

theorem of_policyKept (missed : NothingMissed config before)
    (kept : PolicyKept before after) : NothingMissed config after :=
  missed.of_same (.of_policyKept kept) kept.sameTrigger

theorem polled (sound : FleetSound config controller) :
    NothingMissed config (tryTriggerDataFetchAndTraining config false controller).state :=
  ⟨sound.tryTrigger.1, sound.tryTrigger.2⟩

section

variable (missed : NothingMissed config controller)

include missed

theorem putRollout (rollout : Rollout) :
    NothingMissed config (putRollout config rollout controller).state := by
  unfold Dispatcher.putRollout
  split
  · split
    · exact missed
    · have queued : SameFleet controller { controller with
          policy.rolloutBufferPerRank := controller.policy.rolloutBufferPerRank.modify
            (rollout.promptIdx % controller.policy.rolloutBufferPerRank.length)
            fun queue => queue ++ [rollout] } :=
        ⟨⟨rfl, rfl, rfl⟩, rfl, rfl, List.length_modify _ _ _⟩
      exact polled (queued.sound missed.sound)
  · have queued : SameFleet controller { controller with
        policy.rolloutBuffer := controller.policy.rolloutBuffer ++ [rollout] } :=
      ⟨⟨rfl, rfl, rfl⟩, rfl, rfl, rfl⟩
    exact polled (queued.sound missed.sound)

theorem putRolloutLoop (rollouts : List Rollout) :
    NothingMissed config (putRolloutLoop config rollouts controller).state := by
  induction rollouts generalizing controller with
  | nil => exact missed
  | cons rollout rest ih =>
    unfold Dispatcher.putRolloutLoop
    apply Outcome.andThen_preserves (missed.putRollout rollout)
    intro put missedPut
    split
    · exact missedPut.of_same ⟨⟨rfl, rfl, rfl⟩, rfl, rfl, rfl⟩ ⟨rfl, rfl, rfl, rfl, rfl, rfl, rfl⟩
    · exact ih missedPut

theorem withRemain (remaining : Int) :
    NothingMissed config { controller with policy.remainSamplesNum := remaining } :=
  missed.of_same ⟨⟨rfl, rfl, rfl⟩, rfl, rfl, rfl⟩ ⟨rfl, rfl, rfl, rfl, rfl, rfl, rfl⟩

theorem putRollouts (rollouts : List Rollout) :
    NothingMissed config (putRollouts config rollouts controller).state := by
  unfold Dispatcher.putRollouts
  split
  · exact missed.withRemain _
  · exact missed.putRolloutLoop rollouts

theorem filterOutdatedRollouts (rollouts : List Rollout) :
    NothingMissed config (filterOutdatedRollouts config rollouts controller).2 := by
  unfold Dispatcher.filterOutdatedRollouts
  split
  · exact missed
  · exact missed.withRemain _

theorem putRolloutGroup (report : RolloutReport) :
    NothingMissed config (putRolloutGroup config report controller).state := by
  have counted : NothingMissed config (if config.variant = .dapo then
      updateDynamicSamplingStatistics report.filteredPositive report.filteredNegative
        controller else controller) := by
    split
    · exact missed.withRemain _
    · exact missed
  have filtered := counted.filterOutdatedRollouts report.rollouts
  unfold Dispatcher.putRolloutGroup
  dsimp only
  split
  · rename_i exn state result
    rw [result] at filtered
    exact filtered
  · rename_i rollouts state result
    rw [result] at filtered
    exact filtered.putRollouts rollouts

end

theorem finished_of_atEnd
    (atEnd : (controller.policy.currentStep : Int) = controller.policy.totalSteps)
    (positive : 0 < controller.policy.totalSteps) : controller.trainingFinished = true := by
  simp [trainingFinished_eq, finishedAt, atEnd, positive]

theorem recomputeTotalSteps (missed : NothingMissed config controller) (remaining : Option Int) :
    NothingMissed config (recomputeTotalSteps config remaining controller) := by
  by_cases finished : controller.trainingFinished = true
  · unfold Dispatcher.recomputeTotalSteps
    rw [if_pos finished]
    exact missed
  · refine ⟨?_, ?_⟩
    · refine (sameButTotal_recomputeTotalSteps remaining controller).sound ?_ missed.sound
      rintro ⟨atEnd, positive⟩
      exact finished (finished_of_atEnd atEnd positive)
    · intro enabled
      apply missed.disabled
      unfold Dispatcher.recomputeTotalSteps at enabled
      rw [if_neg finished] at enabled
      split at enabled
      · exact enabled
      · exact ⟨enabled.noValidation, enabled.arrived, by simpa using finished, enabled.idle,
          enabled.enough⟩

/-- The fake last step, once it has been prepared. -/
theorem fakeStep (sound : FleetSound config (prepareFakeStep controller)) :
    NothingMissed config (tryTriggerDataFetchAndTraining config true
      (prepareFakeStep controller)).state := by
  have wellFormed := (@tryTrigger_progress config _ sound.wellFormed true).wellFormed
    sound.wellFormed
  unfold tryTriggerDataFetchAndTraining at wellFormed ⊢
  split
  · rename_i gate
    refine ⟨sound, fun enabled => ?_⟩
    rw [Outcome.ok_state] at enabled
    rw [enabled.noValidation] at gate
    cases gate
  · split
    · rename_i nobody
      exact ⟨sound, fun enabled => enabled.arrived nobody⟩
    · split
      · rename_i finished
        refine ⟨sound, fun enabled => ?_⟩
        rw [Outcome.ok_state] at enabled
        rw [enabled.notFinished] at finished
        cases finished
      · rename_i gate arrived notFinished
        rw [if_neg gate, if_neg arrived, if_neg notFinished] at wellFormed
        have last : ((prepareFakeStep controller).policy.currentStep : Int) + 1 =
            (prepareFakeStep controller).policy.totalSteps := rfl
        simp only [if_true, if_pos last] at wellFormed ⊢
        let issued := (issueStep config 0 0 (prepareFakeStep controller)).state
        have same : SameMesh (prepareFakeStep controller) issued := sameMesh_issueStep 0 0 _
        have step : issued.policy.currentStep = controller.policy.currentStep + 1 := by
          rcases @issueStep_spec config _ sound.wellFormed 0 0 with
            ⟨_, _, _, quiet⟩ | ⟨_, issuedAll⟩
          · exact quiet.currentStep_eq
          · exact issuedAll.currentStep_eq
        have total : issued.policy.totalSteps = (controller.policy.currentStep : Int) + 1 :=
          same.totalSteps_eq
        have atEnd : (issued.policy.currentStep : Int) = issued.policy.totalSteps := by
          rw [step, total]
          exact Int.natCast_succ _
        have positive : 0 < issued.policy.totalSteps := by omega
        refine ⟨⟨wellFormed, same.flags sound.flags, fun _ => .ended atEnd positive⟩, ?_⟩
        intro enabled
        have finished := enabled.notFinished
        rw [finished_of_atEnd atEnd positive] at finished
        cases finished

section

variable (missed : NothingMissed config controller)

include missed

theorem rolloutEndSignal (name : ReplicaName) :
    NothingMissed config (rolloutEndSignal config name controller).state := by
  have ended : NothingMissed config (rolloutEnd name controller) := missed.of_policyKept ⟨rfl, rfl⟩
  unfold Dispatcher.rolloutEndSignal
  dsimp only
  split
  · unfold allRolloutsHaveEnded
    dsimp only
    have recomputed := ended.recomputeTotalSteps
      (some ((rolloutEnd name controller).totalPendingRollouts config))
    split
    · exact recomputed
    · split
      · exact recomputed
      · rename_i notAtEnd
        have same : SameButTotal (rolloutEnd name controller) (prepareFakeStep
            (Dispatcher.recomputeTotalSteps config
              (some ((rolloutEnd name controller).totalPendingRollouts config))
              (rolloutEnd name controller))) := by
          obtain ⟨replicas, initDone, status, step, queues⟩ :=
            @sameButTotal_recomputeTotalSteps config
              (some ((rolloutEnd name controller).totalPendingRollouts config))
              (rolloutEnd name controller)
          exact ⟨replicas, initDone, status, step, queues⟩
        refine fakeStep (same.sound ?_ ended.sound)
        rintro ⟨atEnd, _⟩
        apply notAtEnd
        rw [← atEnd, (sameButTotal_recomputeTotalSteps _ _).currentStep_eq]
  · exact ended

theorem getBatchedPrompt (n : Nat) (validationStep rankInMesh : Option Nat) :
    NothingMissed config
      (getBatchedPrompt config n validationStep rankInMesh controller).2 := by
  have fetched : ∀ (fetcher : ControllerDataFetcher) (promptNum : Dict Nat Nat)
      (samples : Int), fetcher.activatedValIter = controller.dataFetcher.activatedValIter →
      NothingMissed config { controller with
        dataFetcher := fetcher
        weightVersionToPromptNum := promptNum
        policy.samplesOnTheFly := samples } :=
    fun fetcher promptNum samples gate => missed.of_same ⟨⟨rfl, rfl, rfl⟩, rfl, rfl, rfl⟩
      ⟨rfl, rfl, gate, rfl, rfl, rfl, rfl⟩
  unfold Dispatcher.getBatchedPrompt
  dsimp only
  split
  · rename_i exn fetcher result
    apply fetched
    rw [show fetcher = (Except.error exn, fetcher).2 from rfl, ← result]
    exact activatedValIter_fetcherGetBatchedPrompt _ _ _ _ _
  · rename_i promptIdxs isEnd fetcher result
    have gate : fetcher.activatedValIter = controller.dataFetcher.activatedValIter := by
      rw [show fetcher = (Except.ok (promptIdxs, isEnd), fetcher).2 from rfl, ← result]
      exact activatedValIter_fetcherGetBatchedPrompt _ _ _ _ _
    have handedOut : ∀ (isValidation : Bool) (payloads : List RLPayload)
        (promptNum : Dict Nat Nat), NothingMissed config (handOut config isValidation payloads
          isEnd { controller with
            dataFetcher := fetcher
            weightVersionToPromptNum := promptNum }).2 := by
      intro isValidation payloads promptNum
      unfold handOut
      split
      · exact fetched _ _ _ gate
      · exact fetched _ _ _ gate
    split
    · split
      · exact fetched _ _ _ gate
      · split
        · exact fetched _ _ _ gate
        · exact handedOut _ _ _
    · exact handedOut _ _ _

theorem validationReport (validationStep numResults : Nat) :
    NothingMissed config (validationReportValidationResults config validationStep numResults
      controller).state := by
  rcases validationReport_cases validationStep numResults controller with same | same
  · have closed : SameFleet controller (controller.validationClosed validationStep numResults) :=
      ⟨⟨rfl, rfl, rfl⟩, rfl, rfl, rfl⟩
    rw [same]
    exact polled (closed.sound missed.sound)
  · rw [same]
    exact missed.of_same ⟨⟨rfl, rfl, rfl⟩, rfl, rfl, rfl⟩ ⟨rfl, rfl, rfl, rfl, rfl, rfl, rfl⟩

end

end NothingMissed

end CosmosRl.Dispatcher
