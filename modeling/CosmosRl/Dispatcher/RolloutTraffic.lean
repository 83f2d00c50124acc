import CosmosRl.Foundation.Flow
import CosmosRl.Dispatcher.FleetArrival
import CosmosRl.Dispatcher.Staleness

/-!
The way of the rollouts through the controller.

A rollout is accepted into a buffer, published to a policy replica when a step is issued,
or cleared from the shared buffer when the last step is forced.  Rollouts that are
reported but not accepted are only counted.  Every part of a handler is described by a
tally of what it accepts, clears and counts; the tallies of parts that follow each other
add up.
-/

namespace CosmosRl.Dispatcher

open CosmosRl.Foundation List

variable {config : Config} {numReplicas : Nat}

def Controller.pendingRollouts (config : Config) (controller : Controller) : List Rollout :=
  if config.dataDispatchAsRankInMesh then controller.policy.rolloutBufferPerRank.flatten
  else controller.policy.rolloutBuffer

theorem length_pendingRollouts (controller : Controller) :
    (controller.pendingRollouts config).length = controller.totalPendingRollouts config := by
  unfold Controller.pendingRollouts Controller.totalPendingRollouts
  split
  · exact length_flatten
  · rfl

def Published.rollout? (published : Published) : Option Rollout :=
  match published.message with
  | .rollout rollout => some rollout
  | .command _ => none

def sentRollouts (log : List Published) : List Rollout := log.filterMap Published.rollout?

def Published.isRolloutFor (name : ReplicaName) (published : Published) : Bool :=
  decide (published.replicaName = name) && published.rollout?.isSome

/-- The `items_count` of a `DataFetch` published to the given replica. -/
def Published.itemsFor (name : ReplicaName) (published : Published) : Option Nat :=
  if published.replicaName = name then published.sentFetch?.map SentFetch.itemsCount
  else none

/-- Every `DataFetch` of a replica follows exactly as many rollouts as it announces. -/
def FetchesFed (log : List Published) : Prop :=
  ∀ name, Announced (Published.isRolloutFor name) (Published.itemsFor name) log

theorem FetchesFed.append {first second : List Published} (left : FetchesFed first)
    (right : FetchesFed second) : FetchesFed (first ++ second) :=
  fun name => (left name).append (right name)

structure Tally where
  accepted : List Rollout := []
  cleared : List Rollout := []
  /-- Rollouts taken off `remain_samples_num` without having been accepted. -/
  counted : Nat := 0

def Tally.append (first second : Tally) : Tally where
  accepted := first.accepted ++ second.accepted
  cleared := first.cleared ++ second.cleared
  counted := first.counted + second.counted

@[simp]
theorem Tally.empty_append (tally : Tally) : Tally.append {} tally = tally := by
  simp [Tally.append]

@[simp]
theorem Tally.append_empty (tally : Tally) : tally.append {} = tally := by
  simp [Tally.append]

/-- A part of a handler and the rollouts it moves.  In colocated mode the trainer feeds
itself, so the fetches and the samples that remain say nothing about the buffers. -/
structure Traffic (config : Config) (tally : Tally) (before after : Controller) : Prop where
  log : ∃ sent, after.redis = before.redis ++ sent ∧
    Flow (config.dataDispatchAsRankInMesh = false) (before.pendingRollouts config)
      tally.accepted (sentRollouts sent) tally.cleared (after.pendingRollouts config) ∧
    (config.mode ≠ .colocated → FetchesFed sent ∧
      after.policy.remainSamplesNum = before.policy.remainSamplesNum -
        (sentRollouts sent).length - tally.counted)

namespace Traffic

variable {tally laterTally : Tally} {first second third before after : Controller}

theorem trans (left : Traffic config tally first second)
    (right : Traffic config laterTally second third) :
    Traffic config (tally.append laterTally) first third := by
  obtain ⟨sent, equality, flow, separate⟩ := left.log
  obtain ⟨laterSent, laterEquality, laterFlow, laterSeparate⟩ := right.log
  refine ⟨sent ++ laterSent, ?_, ?_, ?_⟩
  · rw [laterEquality, equality, append_assoc]
  · have both := flow.trans laterFlow
    simpa only [sentRollouts, filterMap_append, Tally.append] using both
  · intro notColocated
    obtain ⟨fed, remain⟩ := separate notColocated
    obtain ⟨laterFed, laterRemain⟩ := laterSeparate notColocated
    refine ⟨fed.append laterFed, ?_⟩
    rw [laterRemain, remain]
    simp only [sentRollouts, filterMap_append, length_append, Tally.append]
    push_cast
    omega

theorem still (left : Traffic config tally first second)
    (right : Traffic config {} second third) : Traffic config tally first third := by
  have both := left.trans right
  rwa [Tally.append_empty] at both

theorem after_still (left : Traffic config {} first second)
    (right : Traffic config tally second third) : Traffic config tally first third := by
  have both := left.trans right
  rwa [Tally.empty_append] at both

theorem silent (counted : Nat) (redis : after.redis = before.redis)
    (pending : after.pendingRollouts config = before.pendingRollouts config)
    (remain : config.mode ≠ .colocated →
      after.policy.remainSamplesNum = before.policy.remainSamplesNum - counted) :
    Traffic config { counted := counted } before after := by
  refine ⟨[], by simpa using redis, ?_, ?_⟩
  · rw [pending]
    exact .refl _
  · intro notColocated
    refine ⟨fun name => .of_quiet (by simp) (by simp), ?_⟩
    rw [remain notColocated]
    simp [sentRollouts]

theorem refl (controller : Controller) : Traffic config {} controller controller :=
  silent 0 rfl rfl fun _ => (Int.sub_zero _).symm

/-- A part that only publishes a command. -/
theorem published {names : List ReplicaName} {command : Command}
    (other : config.mode ≠ .colocated → command.isDataFetch = false)
    (redis : after.redis = before.redis ++ names.map fun name => ⟨name, .command command⟩)
    (pending : after.pendingRollouts config = before.pendingRollouts config)
    (remain : after.policy.remainSamplesNum = before.policy.remainSamplesNum) :
    Traffic config {} before after := by
  have no_rollout : ∀ entry ∈ names.map fun name => (⟨name, .command command⟩ : Published),
      entry.rollout? = none := by
    intro entry inside
    obtain ⟨name, _, rfl⟩ := mem_map.mp inside
    rfl
  have no_fetch : config.mode ≠ .colocated →
      ∀ entry ∈ names.map fun name => (⟨name, .command command⟩ : Published),
        entry.sentFetch? = none := by
    intro notColocated entry inside
    obtain ⟨name, _, rfl⟩ := mem_map.mp inside
    have noFetch := other notColocated
    cases command <;> first | rfl | cases noFetch
  have none_sent : sentRollouts
      (names.map fun name => (⟨name, .command command⟩ : Published)) = [] :=
    filterMap_eq_nil_iff.mpr no_rollout
  refine ⟨_, redis, ?_, ?_⟩
  · rw [pending, none_sent]
    exact .refl _
  · intro notColocated
    refine ⟨fun name => .of_quiet ?_ ?_, ?_⟩
    · intro entry inside
      simp [Published.itemsFor, no_fetch notColocated entry inside]
    · intro entry inside
      simp [Published.isRolloutFor, no_rollout entry inside]
    · rw [none_sent, remain]
      simp

theorem andThen {first : Result} {second : Controller → Result}
    (left : Traffic config {} before first.state)
    (right : ∀ state, Traffic config {} state (second state).state) :
    Traffic config {} before (first.andThen second).state :=
  Outcome.andThen_preserves left fun state traffic => traffic.still (right state)

theorem forEach {Item : Type} {body : Item → Controller → Result} {items : List Item}
    (each : ∀ item state, Traffic config {} state (body item state).state)
    (controller : Controller) :
    Traffic config {} controller (Outcome.forEach body items controller).state :=
  Outcome.forEach_preserves (fun item _ state traffic => traffic.still (each item state))
    (refl controller)

end Traffic

namespace Traffic

theorem untouched {before after : Controller} (redis : after.redis = before.redis)
    (buffer : after.policy.rolloutBuffer = before.policy.rolloutBuffer)
    (queues : after.policy.rolloutBufferPerRank = before.policy.rolloutBufferPerRank)
    (remain : after.policy.remainSamplesNum = before.policy.remainSamplesNum) :
    Traffic config {} before after := by
  refine silent 0 redis ?_ ?_
  · unfold Controller.pendingRollouts
    rw [buffer, queues]
  · intro _
    rw [remain]
    exact (Int.sub_zero _).symm

end Traffic

theorem traffic_parts : RespectsParts (Traffic config {}) where
  trans := fun left right => left.still right
  silent := fun redis same => .untouched redis same.buffer_eq same.queues_eq same.remain_eq
  command := by
    intro before after names command other redis same
    refine .published (fun _ => other) redis ?_ same.remain_eq
    unfold Controller.pendingRollouts
    rw [same.buffer_eq, same.queues_eq]

theorem traffic_setStatus (name : ReplicaName) (status : PolicyStatus) (controller : Controller) :
    Traffic config {} controller (setStatus name status controller).state :=
  related_setStatus .refl (fun _ _ => .untouched rfl rfl rfl rfl) name status controller

theorem perm_distributeByRank (some_replica : 0 < numReplicas)
    (rollouts : List Rollout) : (distributeByRank numReplicas rollouts).flatten.Perm rollouts := by
  have folded : ∀ queues : List (List Rollout), queues.length = numReplicas →
      (rollouts.foldl (fun queues rollout =>
        queues.modify (rollout.promptIdx % numReplicas) fun queue => queue ++ [rollout])
        queues).flatten.Perm (queues.flatten ++ rollouts) := by
    induction rollouts with
    | nil => simp
    | cons rollout rest ih =>
      intro queues length
      have inside : rollout.promptIdx % numReplicas < queues.length := by
        rw [length]
        exact Nat.mod_lt _ some_replica
      have queued : (queues.modify (rollout.promptIdx % numReplicas)
          fun queue => queue ++ [rollout]).flatten.Perm (queues.flatten ++ [rollout]) :=
        perm_flatten_modify inside rollout
      have later := ih (queues.modify (rollout.promptIdx % numReplicas)
        fun queue => queue ++ [rollout]) (by rw [length_modify, length])
      rw [foldl_cons]
      refine later.trans ((queued.append_right rest).trans ?_)
      simp
  have spread := folded (List.replicate numReplicas []) length_replicate
  simpa [distributeByRank] using spread

theorem traffic_rearrangeRolloutBuffer (some_replica : 0 < numReplicas) (controller : Controller) :
    Traffic config {} controller
      (rearrangeRolloutBufferAfterMeshRebuild config numReplicas controller) := by
  unfold rearrangeRolloutBufferAfterMeshRebuild
  split
  · rename_i byRank
    refine ⟨[], (append_nil _).symm, .still ?_ ?_, ?_⟩
    · simp only [Controller.pendingRollouts, byRank, if_true]
      exact (perm_distributeByRank some_replica _).symm
    · intro shared
      rw [byRank] at shared
      cases shared
    · intro _
      refine ⟨fun name => .of_quiet (by simp) (by simp), ?_⟩
      simp [sentRollouts]
  · exact .refl controller

theorem traffic_triggerRebuildPolicyMesh {controller : Controller}
    (someone : controller.arrivedPolicyReplicas ≠ []) :
    Traffic config {} controller (triggerRebuildPolicyMesh config controller) := by
  have some_replica : 0 < controller.sortedPolicyNames.length := by
    simpa [Controller.sortedPolicyNames] using length_pos_of_ne_nil someone
  exact traffic_parts.triggerRebuildPolicyMesh (traffic_rearrangeRolloutBuffer some_replica)

theorem traffic_sumAndReportData (controller : Controller) :
    Traffic config {} controller (sumAndReportData config controller) :=
  traffic_parts.sumAndReportData
    (fun colocated _ _ _ => .silent 0 rfl rfl fun separate => absurd colocated separate)
    controller

theorem traffic_startColocated (colocated : config.mode = .colocated)
    (names : List ReplicaName) (controller : Controller) :
    Traffic config {} controller (startColocated config names controller).state := by
  have advanced : Traffic config {} controller controller.advanceStep := .untouched rfl rfl rfl rfl
  have each : ∀ name state, Traffic config {} state
      (startColocatedReplica config name state).state := by
    intro name state
    have counted : Traffic config {} state { state with
        policy.remainSamplesNum := state.policy.remainSamplesNum - config.trainBatchPerReplica } :=
      .silent 0 rfl rfl fun separate => absurd colocated separate
    have sent : ∀ current, Traffic config {} current
        (dataFetchTrigger name config.trainBatchPerReplica current.policy.currentStep
          current.policy.totalSteps current.policy.remainSamplesNum false current) :=
      fun current => @Traffic.published _ _ _ [name]
        (.dataFetch name config.trainBatchPerReplica current.policy.currentStep
          current.policy.totalSteps current.policy.remainSamplesNum false)
        (fun separate => absurd colocated separate) rfl rfl rfl
    exact (counted.still (sent _)).still (traffic_setStatus _ _ _)
  unfold startColocated
  refine Traffic.still ?_ (Traffic.forEach each _)
  dsimp only
  split
  · exact advanced.still (traffic_parts.validationActivateDataloader _ _)
  · exact advanced

variable {controller : Controller}

section

variable (someone : controller.arrivedPolicyReplicas ≠ [])

include someone

theorem traffic_completePolicyInit :
    Traffic config {} controller (completePolicyInit config controller).state := by
  have marked : Traffic config {} controller
      { controller with policy.policyInitDone := true } := .untouched rfl rfl rfl rfl
  have rebuilt := marked.still (@traffic_triggerRebuildPolicyMesh config
    { controller with policy.policyInitDone := true } someone)
  unfold completePolicyInit
  apply Traffic.andThen
  · exact rebuilt.still (traffic_parts.broadcastInitialWeights _)
  · intro synchronized
    apply Traffic.andThen
    · exact .forEach (fun name state => traffic_setStatus name .ready state) _
    · intro ready
      split
      · rename_i colocated
        exact traffic_startColocated colocated _ ready
      · exact .refl ready

theorem traffic_scalePolicyMesh (name : ReplicaName) :
    Traffic config {} controller (scalePolicyMesh config name controller).state :=
  traffic_parts.scalePolicyMesh name (traffic_triggerRebuildPolicyMesh someone)
    (traffic_setStatus name .ready)

theorem traffic_policyPostRegisterHook (name : ReplicaName) :
    Traffic config {} controller (policyPostRegisterHook config name controller).state := by
  have gated : Traffic config {} controller
      (activateValidationBeforeTrain config controller) :=
    traffic_parts.activateValidationBeforeTrain controller
  have someoneGated :
      (activateValidationBeforeTrain config controller).arrivedPolicyReplicas ≠ [] := by
    unfold Controller.arrivedPolicyReplicas
    rw [policy_activateValidationBeforeTrain]
    exact someone
  unfold policyPostRegisterHook
  dsimp only
  split
  · split
    · exact gated.still (traffic_completePolicyInit someoneGated)
    · exact gated
  · exact gated.still (traffic_scalePolicyMesh someoneGated name)

end

theorem someone_of_shapes {before after : Controller}
    (same : shapes after.policy.policyReplicas = shapes before.policy.policyReplicas)
    (someone : before.arrivedPolicyReplicas ≠ []) : after.arrivedPolicyReplicas ≠ [] := by
  apply ne_nil_of_length_pos
  rw [arrivedReplicas_length_of_shapes same]
  exact length_pos_of_ne_nil someone

theorem traffic_policyReplicaArrived
    (someone : controller.arrivedPolicyReplicas ≠ []) (name : ReplicaName) :
    Traffic config {} controller (policyReplicaArrived config name controller).state := by
  have created := @traffic_setStatus config name .uninitialized controller
  have createdShapes := @undispatched_setStatus config name .uninitialized controller
  unfold policyReplicaArrived
  rcases (setStatus name .uninitialized controller).andThen_cases fun created =>
      (if created.arrivedPolicyReplicas.length = 1 then initializeWeights name created
        else .ok created).andThen (policyPostRegisterHook config name) with
    ⟨_, equality⟩ | ⟨_, equality⟩
  · rw [equality]
    exact created
  · rw [equality]
    let start := (setStatus name .uninitialized controller).state
    let initialized : Result := if start.arrivedPolicyReplicas.length = 1 then
      initializeWeights name start else .ok start
    have sent : Traffic config {} start initialized.state := by
      unfold initialized
      split
      · exact traffic_parts.initializeWeights name start
      · exact .refl start
    have sentShapes : Undispatched config start initialized.state := by
      unfold initialized
      split
      · exact undispatched_parts.initializeWeights name start
      · exact .refl start
    have someoneSent : initialized.state.arrivedPolicyReplicas ≠ [] :=
      someone_of_shapes (sentShapes.shapes_eq.trans createdShapes.shapes_eq) someone
    rcases initialized.andThen_cases (policyPostRegisterHook config name) with
      ⟨_, hooked⟩ | ⟨_, hooked⟩
    · rw [hooked]
      exact created.still sent
    · rw [hooked]
      exact (created.still sent).still (traffic_policyPostRegisterHook someoneSent name)

theorem traffic_registerPolicy (atom : Atom) (now : Nat) (controller : Controller) :
    Traffic config {} controller (registerPolicy config atom now controller).state := by
  have stored : ∀ replica, Traffic config {} controller
      (storePolicyReplica atom.replicaName replica controller) :=
    fun replica => .untouched rfl rfl rfl rfl
  unfold registerPolicy
  split
  · exact .refl controller
  · rename_i replica _
    split
    · rename_i complete
      refine (stored (replica.startAt now)).still (traffic_policyReplicaArrived ?_ atom.replicaName)
      apply ne_nil_of_mem
      apply mem_arrivedPolicyReplicas.mpr
      refine ⟨Dict.mem_entries_set.mpr (.inl rfl), ?_⟩
      rw [allAtomsArrived_of_shape (Replica.shape_startAt now replica)]
      exact complete
    · exact stored replica

theorem traffic_unregisterPolicy (name : ReplicaName) (controller : Controller) :
    Traffic config {} controller (unregisterPolicy config name controller).state := by
  unfold unregisterPolicy
  split
  · exact .refl controller
  · split
    · dsimp only
      split
      · exact .untouched rfl rfl rfl rfl
      · split
        · rename_i leaves
          simp only [Bool.and_eq_true, decide_eq_true_eq] at leaves
          refine Traffic.still ?_ (traffic_triggerRebuildPolicyMesh leaves.2)
          exact .untouched rfl rfl rfl rfl
        · exact .untouched rfl rfl rfl rfl
    · exact .untouched rfl rfl rfl rfl

theorem traffic_unregister (name : ReplicaName) (controller : Controller) :
    Traffic config {} controller (unregister config name controller).state := by
  unfold unregister
  split
  · exact traffic_unregisterPolicy name controller
  · split
    · exact traffic_parts.rolloutParts.unregisterRollout name controller
    · exact .refl controller

theorem traffic_getBatchedPrompt (n : Nat) (validationStep rankInMesh : Option Nat)
    (controller : Controller) :
    Traffic config {} controller
      (getBatchedPrompt config n validationStep rankInMesh controller).2 := by
  rcases @getBatchedPrompt_spec config n validationStep rankInMesh controller with
    ⟨_, samePolicy, sameRedis⟩ | ⟨payloads, isEnd, base, result, samePolicy, sameRedis⟩
  · exact .untouched sameRedis (by rw [samePolicy]) (by rw [samePolicy]) (by rw [samePolicy])
  · have unchanged : Traffic config {} controller base :=
      .untouched sameRedis (by rw [samePolicy]) (by rw [samePolicy]) (by rw [samePolicy])
    rw [result]
    unfold handOut
    dsimp only
    split
    · exact unchanged
    · exact unchanged.still (.untouched rfl rfl rfl rfl)

end CosmosRl.Dispatcher
