import CosmosRl.Dispatcher.StepFetches
import CosmosRl.Dispatcher.RolloutIntake

/-!
What the handlers do to the `DataFetch` commands and the counters.

The trigger sends a `DataFetch` to every arrived replica, and takes their items off the
samples that remain before it decides whether the step is saved.  In colocated mode the first
step is announced by the registration instead, which saves nothing.  A handler is a
succession of such parts and of parts that hold.
-/

namespace CosmosRl.Dispatcher

open CosmosRl.Foundation List

variable {config : Config}

/-- A step is announced to some replicas: its items are taken off the samples that remain, and
the decision about the checkpoint is made with what is left. -/
structure Triggered (config : Config) (itemsCount : Nat) (names : List ReplicaName)
    (totalSteps : Int) (before after : Controller) : Prop where
  fetches_eq : after.stepFetches = before.stepFetches ++ names.map fun name =>
    ⟨name, itemsCount, before.policy.currentStep + 1, totalSteps,
      after.policy.remainSamplesNum,
      checkpointSavingAt config (before.policy.currentStep + 1) totalSteps
        after.policy.remainSamplesNum (itemsCount * names.length)⟩
  step_eq : after.policy.currentStep = before.policy.currentStep + 1
  remain_eq : after.policy.remainSamplesNum =
    before.policy.remainSamplesNum - (itemsCount * names.length : Nat)

inductive Move (config : Config) : Controller → Controller → Prop
  | held {before after : Controller} : Held before after → Move config before after
  | triggered {before after : Controller} {itemsCount : Nat} {names : List ReplicaName}
      {totalSteps : Int} :
      Triggered config itemsCount names totalSteps before after → Move config before after

def Moves (config : Config) : Controller → Controller → Prop :=
  Relation.ReflTransGen (Move config)

namespace Moves

theorem refl (controller : Controller) : Moves config controller controller :=
  Relation.ReflTransGen.refl

theorem trans {first second third : Controller} (left : Moves config first second)
    (right : Moves config second third) : Moves config first third :=
  Relation.ReflTransGen.trans left right

theorem of_held {before after : Controller} (held : Held before after) :
    Moves config before after :=
  Relation.ReflTransGen.single (.held held)

theorem preserves {Holds : Controller → Prop}
    (each : ∀ before after, Holds before → Move config before after → Holds after)
    {before after : Controller} (moves : Moves config before after) (holds : Holds before) :
    Holds after := by
  induction moves with
  | refl => exact holds
  | tail _ move ih => exact each _ _ ih move

end Moves

theorem dispatchRollouts_cases (itemsCount : Nat) (controller : Controller) :
    (∃ exn, dispatchRollouts config itemsCount controller = .raise controller exn) ∨
      ∃ taken buffer queues, dispatchRollouts config itemsCount controller =
        .ok (publishRollouts taken { controller with
          policy.rolloutBuffer := buffer
          policy.rolloutBufferPerRank := queues }) := by
  by_cases separate : config.mode ≠ .colocated
  · rcases dispatchRollouts_taken separate itemsCount controller with
      raised | ⟨taken, buffer, queues, dispatched, _⟩
    · exact .inl raised
    · exact .inr ⟨taken, buffer, queues, dispatched⟩
  · refine .inr ⟨[], controller.policy.rolloutBuffer, controller.policy.rolloutBufferPerRank, ?_⟩
    unfold dispatchRollouts
    rw [if_pos (not_not.mp separate)]
    rfl

theorem held_publishRollouts (taken : List (ReplicaName × Rollout)) (controller : Controller) :
    Held controller (publishRollouts taken controller) := by
  refine ⟨?_, ?_, ?_⟩
  · have nothing : (taken.map fun item =>
        (⟨item.1, .rollout item.2⟩ : Published)).filterMap Published.stepFetch? = [] := by
      rw [filterMap_map, filterMap_eq_nil_iff]
      intro item _
      rfl
    unfold Controller.stepFetches
    rw [redis_publishRollouts, filterMap_append, nothing, append_nil]
  · rw [policy_publishRollouts]
  · rw [policy_publishRollouts]

theorem counters_issueGated (requiredRollouts : Nat) (controller : Controller) :
    (issueGated config requiredRollouts controller).policy.currentStep =
        controller.policy.currentStep + 1 ∧
      (issueGated config requiredRollouts controller).policy.remainSamplesNum =
        controller.policy.remainSamplesNum - requiredRollouts := by
  unfold issueGated validationActivateDataloader
  dsimp only
  split
  · split <;> exact ⟨rfl, rfl⟩
  · exact ⟨rfl, rfl⟩

theorem stepFetches_announced (itemsCount : Nat) (doSave : Bool) (names : List ReplicaName)
    (controller : Controller) :
    (controller.announced itemsCount doSave names).stepFetches =
      controller.stepFetches ++ names.map fun name =>
        ⟨name, itemsCount, controller.policy.currentStep, controller.policy.totalSteps,
          controller.policy.remainSamplesNum, doSave⟩ := by
  have sent : (names.map (fetchCommand itemsCount doSave controller)).filterMap
      Published.stepFetch? = names.map fun name =>
        ⟨name, itemsCount, controller.policy.currentStep, controller.policy.totalSteps,
          controller.policy.remainSamplesNum, doSave⟩ := by
    rw [filterMap_map, ← filterMap_eq_map]
    rfl
  unfold Controller.stepFetches Controller.announced
  rw [filterMap_append, sent]

variable {before controller after middle : Controller} {second : Controller → Result}

theorem triggered_announced {sent : Controller} {itemsCount requiredRollouts : Nat}
    {names : List ReplicaName} (consumed : requiredRollouts = itemsCount * names.length)
    (fetches : sent.stepFetches = before.stepFetches)
    (step : sent.policy.currentStep = before.policy.currentStep + 1)
    (remain : sent.policy.remainSamplesNum =
      before.policy.remainSamplesNum - requiredRollouts) :
    Triggered config itemsCount names sent.policy.totalSteps before
      (sent.announced itemsCount (checkCheckpointSaving config requiredRollouts sent)
        names) where
  fetches_eq := by
    rw [stepFetches_announced, fetches, checkCheckpointSaving_eq, step, ← consumed]
    rfl
  step_eq := step
  remain_eq := by
    rw [← consumed]
    exact remain

/-- Issuing raises before anything is announced, or announces the step. -/
theorem moves_issueStep (wellFormed : WellFormed controller) {itemsCount requiredRollouts : Nat}
    (consumed : requiredRollouts = itemsCount * controller.arrivedPolicyNames.length) :
    Moves config controller
      (issueStep config itemsCount requiredRollouts controller).state := by
  obtain ⟨gatedStep, gatedRemain⟩ := @counters_issueGated config requiredRollouts controller
  have quiet := @quiet_issueGated config requiredRollouts controller
  have sameFetches : (issueGated config requiredRollouts controller).stepFetches =
      controller.stepFetches := by
    unfold Controller.stepFetches
    rw [redis_issueGated]
  rw [issueStep_eq]
  rcases @dispatchRollouts_cases config itemsCount
      (issueGated config requiredRollouts controller) with
    ⟨exn, raised⟩ | ⟨taken, buffer, queues, dispatched⟩
  · rw [raised, Outcome.raise_andThen]
    refine .of_held ⟨sameFetches, ?_, ?_⟩
    · rw [Outcome.raise_state, gatedStep]
      exact Nat.le_succ _
    · rw [Outcome.raise_state, gatedRemain]
      exact Int.sub_le_self _ (Int.natCast_nonneg _)
  · let popped : Controller := { issueGated config requiredRollouts controller with
      policy.rolloutBuffer := buffer
      policy.rolloutBufferPerRank := queues }
    have samePolicy := policy_publishRollouts taken popped
    have poppedNames : popped.arrivedPolicyNames = controller.arrivedPolicyNames :=
      quiet.arrivedPolicyNames_eq
    have sentNames : (publishRollouts taken popped).arrivedPolicyNames =
        controller.arrivedPolicyNames := by
      rw [← poppedNames]
      unfold Controller.arrivedPolicyNames Controller.arrivedPolicyReplicas
      rw [samePolicy]
    have status : popped.policy.status = controller.policy.status := quiet.status_eq
    have present : ∀ name ∈ (publishRollouts taken popped).arrivedPolicyNames,
        name ∈ (publishRollouts taken popped).policy.status.keys := by
      rw [sentNames, samePolicy, status]
      exact fun name member => (wellFormed.statusKeys name).mpr member
    rw [dispatched, Outcome.ok_andThen, sendDataFetches_eq itemsCount _ present,
      Outcome.ok_state, sentNames]
    refine Relation.ReflTransGen.single (.triggered (triggered_announced consumed ?_ ?_ ?_))
    · exact (held_publishRollouts taken popped).fetches_eq.trans sameFetches
    · rw [samePolicy]
      exact gatedStep
    · rw [samePolicy]
      exact gatedRemain

theorem moves_tryTrigger (wellFormed : WellFormed controller) (isFakeLastCmd : Bool) :
    Moves config controller
      (tryTriggerDataFetchAndTraining config isFakeLastCmd controller).state := by
  unfold tryTriggerDataFetchAndTraining
  split
  · exact .refl controller
  · split
    · exact .refl controller
    · split
      · exact .refl controller
      · split
        · split
          · exact moves_issueStep wellFormed (Nat.zero_mul _).symm
          · exact .refl controller
        · split
          · apply moves_issueStep wellFormed
            rw [Controller.rolloutsPerStep, Controller.arrivedPolicyNames, length_map]
          · exact .refl controller

/-- The trigger may be polled after a part that sends nothing and leaves the fleet alone. -/
theorem moves_tryTrigger_of_held (held : Held before after)
    (quiet : Quiet before after) (wellFormed : WellFormed before) (isFakeLastCmd : Bool) :
    Moves config before (tryTriggerDataFetchAndTraining config isFakeLastCmd after).state :=
  (Moves.of_held held).trans (moves_tryTrigger (quiet.wellFormed wellFormed) isFakeLastCmd)

theorem moves_andThen {start : Controller} {first : Result}
    (before : Moves config start first.state)
    (later : Moves config first.state (second first.state).state) :
    Moves config start (first.andThen second).state :=
  Outcome.andThen_holds before (before.trans later)

theorem moves_putRollout (wellFormed : WellFormed controller) (rollout : Rollout) :
    Moves config controller (putRollout config rollout controller).state := by
  unfold putRollout
  split
  · split
    · exact .refl controller
    · let buffered : Controller := { controller with
        policy.rolloutBufferPerRank := controller.policy.rolloutBufferPerRank.modify
          (rollout.promptIdx % controller.policy.rolloutBufferPerRank.length)
          fun queue => queue ++ [rollout] }
      have held : Held controller buffered := .silent rfl (Nat.le_refl _) (Int.le_refl _)
      have quiet : Quiet controller buffered := ⟨rfl, rfl, rfl, rfl, rfl⟩
      exact moves_tryTrigger_of_held held quiet wellFormed false
  · let buffered : Controller := { controller with
      policy.rolloutBuffer := controller.policy.rolloutBuffer ++ [rollout] }
    have held : Held controller buffered := .silent rfl (Nat.le_refl _) (Int.le_refl _)
    have quiet : Quiet controller buffered := ⟨rfl, rfl, rfl, rfl, rfl⟩
    exact moves_tryTrigger_of_held held quiet wellFormed false

theorem moves_putRolloutLoop (rollouts : List Rollout) (wellFormed : WellFormed controller) :
    Moves config controller (putRolloutLoop config rollouts controller).state := by
  induction rollouts generalizing controller with
  | nil => exact .refl controller
  | cons rollout rest ih =>
    unfold putRolloutLoop
    apply moves_andThen (moves_putRollout wellFormed rollout)
    split
    · exact .of_held (.silent rfl (Nat.le_refl _) (Int.le_refl _))
    · exact ih ((putRollout_progress wellFormed rollout).wellFormed wellFormed)

theorem moves_putRollouts (rollouts : List Rollout) (wellFormed : WellFormed controller) :
    Moves config controller (putRollouts config rollouts controller).state := by
  unfold putRollouts
  split
  · refine .of_held (.silent rfl (Nat.le_refl _) ?_)
    exact Int.sub_le_self _ (Int.natCast_nonneg _)
  · exact moves_putRolloutLoop rollouts wellFormed

theorem moves_putRolloutGroup (report : RolloutReport) (wellFormed : WellFormed controller) :
    Moves config controller (putRolloutGroup config report controller).state := by
  have counted : Held controller (afterStatistics config report controller) ∧
      Quiet controller (afterStatistics config report controller) := by
    unfold afterStatistics
    split
    · exact ⟨held_updateDynamicSamplingStatistics _ _ controller, ⟨rfl, rfl, rfl, rfl, rfl⟩⟩
    · exact ⟨.refl controller, Quiet.refl controller⟩
  have filtered := counted.1.trans (@held_filterOutdatedRollouts config report.rollouts
    (afterStatistics config report controller))
  have quiet := counted.2.trans (@quiet_filterOutdatedRollouts config report.rollouts
    (afterStatistics config report controller))
  unfold afterStatistics at filtered quiet
  unfold putRolloutGroup
  dsimp only
  split
  case h_1 resultIs =>
    rw [resultIs] at filtered
    exact .of_held filtered
  case h_2 resultIs =>
    rw [resultIs] at filtered quiet
    exact (Moves.of_held filtered).trans (moves_putRollouts _ (quiet.wellFormed wellFormed))

theorem held_prepareFakeStep (controller : Controller) :
    Held controller (prepareFakeStep controller) :=
  .silent rfl (Nat.le_refl _) (Int.le_refl _)

theorem moves_rolloutEndSignal (name : ReplicaName) (wellFormed : WellFormed controller) :
    Moves config controller (rolloutEndSignal config name controller).state := by
  have ended : Held controller (rolloutEnd name controller) := .of_samePolicy rfl rfl
  have recomputed := ended.trans (@RespectsParts.recomputeTotalSteps config _ held_parts
    (some ((rolloutEnd name controller).totalPendingRollouts config)) _)
  have quiet := (quiet_rolloutEnd name controller).trans
    (@RespectsParts.recomputeTotalSteps config _ quiet_parts
    (some ((rolloutEnd name controller).totalPendingRollouts config)) _)
  unfold rolloutEndSignal
  dsimp only
  split
  · unfold allRolloutsHaveEnded
    dsimp only
    split
    · exact .of_held recomputed
    · split
      · exact .of_held recomputed
      · have cleared := recomputed.trans (held_prepareFakeStep _)
        have quietCleared := quiet.trans (quiet_prepareFakeStep _)
        exact moves_tryTrigger_of_held cleared quietCleared wellFormed true
  · exact .of_held ended

theorem moves_validationReport (validationStep numResults : Nat)
    (wellFormed : WellFormed controller) :
    Moves config controller (validationReportValidationResults config validationStep numResults
      controller).state := by
  have held : Held controller (controller.validationClosed validationStep numResults) :=
    .silent rfl (Nat.le_refl _) (Int.le_refl _)
  rcases validationReport_cases validationStep numResults controller with same | same
  · rw [same]
    exact moves_tryTrigger_of_held held ⟨rfl, rfl, rfl, rfl, rfl⟩ wellFormed false
  · rw [same]
    exact .of_held (.silent rfl (Nat.le_refl _) (Int.le_refl _))

theorem moves_finishStep (wellFormed : WellFormed controller) (step : Nat) (totalSteps : Int) :
    Moves config controller (finishStep config step totalSteps controller).state := by
  have held : Held controller (syncedWeights config step totalSteps controller) :=
    held_parts.rolloutParts.syncedWeights step totalSteps controller
  have quiet : Quiet controller (syncedWeights config step totalSteps controller) :=
    quiet_parts.rolloutParts.syncedWeights step totalSteps controller
  rw [finishStep_eq]
  apply moves_andThen
  · exact moves_tryTrigger_of_held held quiet wellFormed false
  · split
    · exact .of_held (.silent rfl (Nat.le_refl _) (Int.le_refl _))
    · exact .refl _

theorem moves_trainAck (wellFormed : WellFormed controller)
    (name : ReplicaName) (step : Nat) (totalSteps : Int) (reportData : ReportData) :
    Moves config controller
      (trainAck config name step totalSteps reportData controller).state := by
  rcases @trainAck_cases config controller wellFormed name step totalSteps reportData with
    ⟨_, _, _, same | same⟩ | ⟨_, ⟨_, _, same⟩ | ⟨_, _, _, same⟩ | ⟨_, _, well, same⟩⟩
  · rw [same]
    exact .refl controller
  · rw [same]
    exact .of_held (.silent rfl (Nat.le_refl _) (Int.le_refl _))
  · rw [same]
    exact .of_held (.silent rfl (Nat.le_refl _) (Int.le_refl _))
  · rw [same]
    exact .of_held (.silent rfl (Nat.le_refl _) (Int.le_refl _))
  · rw [same]
    let consumed := (controller.reported name reportData).consumed config
    have taken : Held controller consumed := .silent rfl (Nat.le_refl _) (Int.le_refl _)
    have summed := taken.trans (@held_sumAndReportData config consumed)
    have readied : Held (sumAndReportData config consumed)
        (controller.readied config name reportData) :=
      .silent rfl (Nat.le_refl _) (Int.le_refl _)
    exact (Moves.of_held (summed.trans readied)).trans (moves_finishStep well step totalSteps)

structure StartedAt (before after : Controller) : Prop where
  log : ∃ sent, after.stepFetches = before.stepFetches ++ sent ∧
    ∀ fetch ∈ sent, fetch.globalStep = after.policy.currentStep ∧ fetch.doSave = false ∧
      after.policy.remainSamplesNum ≤ fetch.remainSamplesNum
  step_lt : before.policy.currentStep < after.policy.currentStep
  remain_le : after.policy.remainSamplesNum ≤ before.policy.remainSamplesNum

theorem Held.startedAt (held : Held before middle)
    (started : StartedAt middle after) : StartedAt before after := by
  refine ⟨?_, Nat.lt_of_le_of_lt held.step_le started.step_lt,
    started.remain_le.trans held.remain_le⟩
  rw [← held.fetches_eq]
  exact started.log

theorem StartedAt.kept (started : StartedAt before middle) (sameRedis : after.redis = middle.redis)
    (sameStep : after.policy.currentStep = middle.policy.currentStep)
    (sameRemain : after.policy.remainSamplesNum = middle.policy.remainSamplesNum) :
    StartedAt before after := by
  obtain ⟨log, step, remain⟩ := started
  refine ⟨?_, sameStep ▸ step, sameRemain ▸ remain⟩
  unfold Controller.stepFetches
  rw [sameRedis, sameStep, sameRemain]
  exact log

theorem counters_setStatus (name : ReplicaName) (status : PolicyStatus) (controller : Controller) :
    (setStatus name status controller).state.redis = controller.redis ∧
      (setStatus name status controller).state.policy.currentStep =
        controller.policy.currentStep ∧
      (setStatus name status controller).state.policy.remainSamplesNum =
        controller.policy.remainSamplesNum := by
  unfold setStatus
  split
  · split <;> exact ⟨rfl, rfl, rfl⟩
  · split <;> exact ⟨rfl, rfl, rfl⟩

theorem startedAt_startColocatedReplica
    (started : StartedAt before controller) (name : ReplicaName) :
    StartedAt before (startColocatedReplica config name controller).state := by
  obtain ⟨⟨sent, fetches, each⟩, step, remain⟩ := started
  let counted : Controller := { controller with
    policy.remainSamplesNum := controller.policy.remainSamplesNum - config.trainBatchPerReplica }
  let announced := dataFetchTrigger name config.trainBatchPerReplica counted.policy.currentStep
    counted.policy.totalSteps counted.policy.remainSamplesNum false counted
  have fewer : announced.policy.remainSamplesNum ≤ controller.policy.remainSamplesNum :=
    Int.sub_le_self _ (Int.natCast_nonneg _)
  have log : announced.stepFetches = before.stepFetches ++ (sent ++
      [⟨name, config.trainBatchPerReplica, announced.policy.currentStep,
        announced.policy.totalSteps, announced.policy.remainSamplesNum, false⟩]) := by
    rw [← append_assoc, ← fetches]
    unfold Controller.stepFetches
    exact filterMap_append
  have announcedAt : StartedAt before announced := by
    refine ⟨⟨_, log, ?_⟩, step, fewer.trans remain⟩
    intro fetch member
    rcases mem_append.mp member with earlier | last
    · obtain ⟨sameStep, unsaved, above⟩ := each fetch earlier
      exact ⟨sameStep, unsaved, fewer.trans above⟩
    · cases mem_singleton.mp last
      exact ⟨rfl, rfl, Int.le_refl _⟩
  obtain ⟨sameRedis, sameStep, sameRemain⟩ := counters_setStatus name .running announced
  exact announcedAt.kept sameRedis sameStep sameRemain

theorem startedAt_startColocated (names : List ReplicaName) (controller : Controller) :
    StartedAt controller (startColocated config names controller).state := by
  have advanced : StartedAt controller controller.advanceStep :=
    ⟨⟨[], (append_nil _).symm, fun fetch member => absurd member not_mem_nil⟩,
      Nat.lt_succ_self _, Int.le_refl _⟩
  unfold startColocated
  dsimp only
  refine @Outcome.forEach_preserves _ _ _ (StartedAt controller) _ _
    (fun name _ state started => startedAt_startColocatedReplica started name) _ ?_
  split
  · unfold validationActivateDataloader
    split
    · exact advanced
    · exact advanced.kept rfl rfl rfl
  · exact advanced

/-- A registration announces the first step of colocated mode, or sends no `DataFetch`. -/
def Enlisted (before after : Controller) : Prop := Held before after ∨ StartedAt before after

theorem Held.enlisted (held : Held before middle)
    (enlisted : Enlisted middle after) : Enlisted before after := by
  rcases enlisted with later | started
  · exact .inl (held.trans later)
  · exact .inr (held.startedAt started)

theorem enlisted_andThen {first : Result}
    (held : Held before first.state) (later : ∀ state, Enlisted state (second state).state) :
    Enlisted before (first.andThen second).state :=
  Outcome.andThen_holds (.inl held) (held.enlisted (later _))

theorem enlisted_completePolicyInit (controller : Controller) :
    Enlisted controller (completePolicyInit config controller).state := by
  have marked : Held controller { controller with policy.policyInitDone := true } :=
    .silent rfl (Nat.le_refl _) (Int.le_refl _)
  have rebuilt := marked.trans (@held_triggerRebuildPolicyMesh config _)
  unfold completePolicyInit
  apply enlisted_andThen (rebuilt.trans (held_parts.broadcastInitialWeights _))
  intro synchronized
  apply enlisted_andThen (.forEach (fun name state => held_setStatus name .ready state) _)
  intro ready
  split
  · exact .inr (startedAt_startColocated _ ready)
  · exact .inl (.refl ready)

theorem enlisted_policyPostRegisterHook (name : ReplicaName) (controller : Controller) :
    Enlisted controller (policyPostRegisterHook config name controller).state := by
  have gated : Held controller (activateValidationBeforeTrain config controller) := by
    unfold activateValidationBeforeTrain
    split
    · exact held_parts.validationActivateDataloader _ _
    · exact .refl controller
  unfold policyPostRegisterHook
  dsimp only
  split
  · split
    · exact gated.enlisted (enlisted_completePolicyInit _)
    · exact .inl gated
  · exact .inl (gated.trans (held_scalePolicyMesh _ _))

theorem enlisted_registerPolicy (atom : Atom) (now : Nat) (controller : Controller) :
    Enlisted controller (registerPolicy config atom now controller).state := by
  have stored : ∀ replica, Held controller
      (storePolicyReplica atom.replicaName replica controller) := fun replica =>
    .silent rfl (Nat.le_refl _) (Int.le_refl _)
  unfold registerPolicy
  split
  · exact .inl (.refl controller)
  · rename_i replica _
    split
    · refine (stored (replica.startAt now)).enlisted ?_
      unfold policyReplicaArrived
      apply enlisted_andThen (held_setStatus _ _ _)
      intro created
      apply enlisted_andThen
      · split
        · exact held_parts.initializeWeights _ _
        · exact .refl created
      · exact enlisted_policyPostRegisterHook atom.replicaName
    · exact .inl (stored _)

/-- Events other than registrations of policy replicas. -/
theorem moves_handleEvent (wellFormed : WellFormed controller)
    {event : Event} (other : ∀ atom now, event ≠ .registerPolicy atom now) :
    Moves config controller (handleEvent config controller event).state := by
  cases event with
  | registerPolicy atom now => exact absurd rfl (other atom now)
  | registerRollout atom now =>
    exact .of_held (held_parts.rolloutParts.registerRollout atom now controller)
  | unregister name => exact .of_held (held_unregister name controller)
  | getBatchedPrompt n validationStep rankInMesh =>
    have held := @held_getBatchedPrompt config n validationStep rankInMesh controller
    refine .of_held ?_
    rw [handleEvent]
    split
    case h_1 resultIs =>
      rw [resultIs] at held
      exact held
    case h_2 resultIs =>
      rw [resultIs] at held
      exact held
  | putRolloutGroup report => exact moves_putRolloutGroup report wellFormed
  | rolloutEndSignal name => exact moves_rolloutEndSignal name wellFormed
  | tryTriggerDataFetchAndTraining => exact moves_tryTrigger wellFormed false
  | trainAck name step totalSteps reportData =>
    exact moves_trainAck wellFormed name step totalSteps reportData
  | validationReport validationStep numResults =>
    exact moves_validationReport validationStep numResults wellFormed

theorem enlisted_handleEvent (atom : Atom) (now : Nat) (controller : Controller) :
    Enlisted controller (handleEvent config controller (.registerPolicy atom now)).state :=
  enlisted_registerPolicy atom now controller

end CosmosRl.Dispatcher
