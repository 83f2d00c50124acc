import CosmosRl.Dispatcher.MeshRebuild

/-!
Which parts of the handlers dispatch rollouts.

Rollouts reach the policy replicas only when a training step is issued.  All
other parts publish commands at most, and leave the shared queue and the step
counter as they are.
-/

namespace CosmosRl.Dispatcher

open CosmosRl.Foundation

variable {config : Config}

def Published.isRollout (published : Published) : Bool :=
  match published.message with
  | .rollout _ => true
  | .command _ => false

/-- The step of the first `DataFetch` of a log. -/
def firstFetchStep (log : List Published) : Option Nat :=
  (log.filterMap Published.sentFetch?).head?.map SentFetch.globalStep

/-- The rollouts of a step are published right before its `DataFetch` commands:
the step a rollout is dispatched for is that of the first `DataFetch` after it.
That step starts from the step counter one below, and for every rollout on the
log the counter exceeds the weight version by the allowed difference at most. -/
def DispatchedFresh (config : Config) (log : List Published) : Prop :=
  ∀ name rollout later, (⟨name, .rollout rollout⟩ :: later) <:+ log →
    ∃ currentStep, firstFetchStep later = some (currentStep + 1) ∧
      currentStep ≤ rollout.weightVersion + config.allowedOutdatedSteps

theorem firstFetchStep_append {first second : List Published} {step : Nat}
    (found : firstFetchStep first = some step) :
    firstFetchStep (first ++ second) = some step := by
  unfold firstFetchStep at found ⊢
  obtain ⟨fetch, head, rfl⟩ := Option.map_eq_some_iff.mp found
  rw [List.filterMap_append, List.head?_append, head]
  rfl

namespace DispatchedFresh

theorem nil : DispatchedFresh config [] := by
  intro name rollout later suffix
  simp at suffix

theorem cons {published : Published} {later : List Published} (fresh : DispatchedFresh config later)
    (first : ∀ rollout, published.message = .rollout rollout →
      ∃ currentStep, firstFetchStep later = some (currentStep + 1) ∧
        currentStep ≤ rollout.weightVersion + config.allowedOutdatedSteps) :
    DispatchedFresh config (published :: later) := by
  intro name rollout rest suffix
  rcases List.suffix_cons_iff.mp suffix with same | inner
  · cases same
    exact first rollout rfl
  · exact fresh name rollout rest inner

theorem append {first second : List Published} (firstFresh : DispatchedFresh config first)
    (secondFresh : DispatchedFresh config second) :
    DispatchedFresh config (first ++ second) := by
  induction first with
  | nil => exact secondFresh
  | cons published rest ih =>
    have restFresh : DispatchedFresh config rest := fun name rollout later suffix =>
      firstFresh name rollout later (List.suffix_cons_iff.mpr (.inr suffix))
    refine (ih restFresh).cons ?_
    intro rollout message
    have same : (⟨published.replicaName, .rollout rollout⟩ : Published) = published := by
      cases published
      cases message
      rfl
    have whole : (⟨published.replicaName, .rollout rollout⟩ :: rest) <:+
        (published :: rest) := same ▸ List.suffix_refl (published :: rest)
    obtain ⟨currentStep, found, bound⟩ := firstFresh _ _ _ whole
    exact ⟨currentStep, firstFetchStep_append found, bound⟩

theorem of_noRollout {log : List Published}
    (commands : ∀ published ∈ log, published.isRollout = false) :
    DispatchedFresh config log := by
  intro name rollout later suffix
  have member : (⟨name, .rollout rollout⟩ : Published) ∈ log := suffix.subset (by simp)
  cases commands _ member

theorem of_step {taken : List (ReplicaName × Rollout)} {fetches : List Published}
    {currentStep : Nat} (commands : ∀ published ∈ fetches, published.isRollout = false)
    (step : firstFetchStep fetches = some (currentStep + 1)) (bound : ∀ item ∈ taken,
      currentStep ≤ item.2.weightVersion + config.allowedOutdatedSteps) :
    DispatchedFresh config
      (taken.map (fun item => ⟨item.1, .rollout item.2⟩) ++ fetches) := by
  have fetchStep : ∀ items : List (ReplicaName × Rollout), firstFetchStep
      (items.map (fun item => ⟨item.1, .rollout item.2⟩) ++ fetches) =
        some (currentStep + 1) := by
    intro items
    induction items with
    | nil => exact step
    | cons item rest ih => exact ih
  induction taken with
  | nil => exact of_noRollout commands
  | cons item rest ih =>
    refine (ih fun other inside => bound other (by simp [inside])).cons ?_
    intro rollout message
    cases message
    exact ⟨currentStep, fetchStep rest, bound item (by simp)⟩

end DispatchedFresh

/-- Nothing is dispatched; the shared queue and the step counter stand still,
except that colocated training counts its steps elsewhere. -/
structure Undispatched (config : Config) (before after : Controller) : Prop where
  shapes_eq : shapes after.policy.policyReplicas = shapes before.policy.policyReplicas
  log : ∃ sent, after.redis = before.redis ++ sent ∧
    ∀ published ∈ sent, published.isRollout = false
  queue : config.mode ≠ .colocated →
    after.policy.rolloutBuffer = before.policy.rolloutBuffer ∧
      after.policy.currentStep = before.policy.currentStep

namespace Undispatched

theorem trans {first second third : Controller} (left : Undispatched config first second)
    (right : Undispatched config second third) : Undispatched config first third := by
  obtain ⟨sent, equality, commands⟩ := left.log
  obtain ⟨laterSent, laterEquality, laterCommands⟩ := right.log
  refine ⟨right.shapes_eq.trans left.shapes_eq, ⟨sent ++ laterSent, ?_, ?_⟩, ?_⟩
  · rw [laterEquality, equality, List.append_assoc]
  · intro published inside
    rcases List.mem_append.mp inside with earlier | later
    · exact commands published earlier
    · exact laterCommands published later
  · intro separate
    exact ⟨(right.queue separate).1.trans (left.queue separate).1,
      (right.queue separate).2.trans (left.queue separate).2⟩

theorem silent {before after : Controller} (sameShapes : shapes after.policy.policyReplicas =
      shapes before.policy.policyReplicas) (sameRedis : after.redis = before.redis)
    (sameBuffer : after.policy.rolloutBuffer = before.policy.rolloutBuffer)
    (sameStep : after.policy.currentStep = before.policy.currentStep) :
    Undispatched config before after :=
  ⟨sameShapes, ⟨[], by simpa using sameRedis, by simp⟩, fun _ => ⟨sameBuffer, sameStep⟩⟩

theorem refl (controller : Controller) : Undispatched config controller controller :=
  silent rfl rfl rfl rfl

theorem published {before after : Controller} {names : List ReplicaName} {command : Command}
    (sameShapes : shapes after.policy.policyReplicas =
      shapes before.policy.policyReplicas)
    (sent : after.redis = before.redis ++ names.map fun name => ⟨name, .command command⟩)
    (sameBuffer : after.policy.rolloutBuffer = before.policy.rolloutBuffer)
    (sameStep : after.policy.currentStep = before.policy.currentStep) :
    Undispatched config before after := by
  refine ⟨sameShapes, ⟨_, sent, ?_⟩, fun _ => ⟨sameBuffer, sameStep⟩⟩
  intro published inside
  obtain ⟨name, _, rfl⟩ := List.mem_map.mp inside
  rfl

theorem andThen {before : Controller} {first : Result} {second : Controller → Result}
    (left : Undispatched config before first.state)
    (right : ∀ state, Undispatched config state (second state).state) :
    Undispatched config before (first.andThen second).state :=
  Outcome.andThen_preserves left fun state undispatched => undispatched.trans (right state)

theorem forEach {Item : Type} {body : Item → Controller → Result} {items : List Item}
    (each : ∀ item state, Undispatched config state (body item state).state)
    (controller : Controller) :
    Undispatched config controller (Outcome.forEach body items controller).state :=
  Outcome.forEach_preserves
    (fun item _ state undispatched => undispatched.trans (each item state))
    (Undispatched.refl controller)

end Undispatched

theorem undispatched_parts : RespectsParts (Undispatched config) where
  trans := .trans
  silent := fun redis same => .silent same.shapes_eq redis same.buffer_eq same.currentStep_eq
  command := fun _ sent same =>
    .published same.shapes_eq sent same.buffer_eq same.currentStep_eq

theorem undispatched_setStatus (name : ReplicaName) (status : PolicyStatus)
    (controller : Controller) :
    Undispatched config controller (setStatus name status controller).state :=
  related_setStatus .refl (fun _ _ => .silent rfl rfl rfl rfl) name status controller

theorem undispatched_triggerRebuildPolicyMesh (controller : Controller) :
    Undispatched config controller (triggerRebuildPolicyMesh config controller) :=
  undispatched_parts.triggerRebuildPolicyMesh
    (related_rearrangeRolloutBuffer .refl (fun _ _ => .silent rfl rfl rfl rfl) _)

theorem undispatched_sumAndReportData (controller : Controller) :
    Undispatched config controller (sumAndReportData config controller) :=
  undispatched_parts.sumAndReportData (fun _ _ _ _ => .silent rfl rfl rfl rfl) controller

theorem undispatched_sendDataFetch (itemsCount : Nat) (doSave : Bool)
    (name : ReplicaName) (controller : Controller) :
    Undispatched config controller
      (sendDataFetch itemsCount doSave name controller).state := by
  have sent : Undispatched config controller
      (dataFetchTrigger name itemsCount controller.policy.currentStep
        controller.policy.totalSteps controller.policy.remainSamplesNum doSave
        controller) :=
    .published rfl (show _ = _ ++ [name].map _ from rfl) rfl rfl
  exact sent.trans (undispatched_setStatus name .running _)

theorem undispatched_of_colocated {before after : Controller} (colocated : config.mode = .colocated)
    (sameShapes : shapes after.policy.policyReplicas =
      shapes before.policy.policyReplicas)
    (sameRedis : after.redis = before.redis) : Undispatched config before after :=
  ⟨sameShapes, ⟨[], by simpa using sameRedis, by simp⟩,
    fun separate => absurd colocated separate⟩

theorem undispatched_startColocated (colocated : config.mode = .colocated)
    (names : List ReplicaName) (controller : Controller) :
    Undispatched config controller (startColocated config names controller).state := by
  have advanced : Undispatched config controller controller.advanceStep :=
    undispatched_of_colocated colocated rfl rfl
  have each : ∀ name state, Undispatched config state
      (startColocatedReplica config name state).state := by
    intro name state
    have counted : Undispatched config state { state with
        policy.remainSamplesNum := state.policy.remainSamplesNum - config.trainBatchPerReplica } :=
      .silent rfl rfl rfl rfl
    exact counted.trans (undispatched_sendDataFetch _ _ _ _)
  unfold startColocated
  refine Undispatched.trans ?_ (Undispatched.forEach each _)
  dsimp only
  split
  · exact advanced.trans (undispatched_parts.validationActivateDataloader _ _)
  · exact advanced

theorem undispatched_completePolicyInit (controller : Controller) :
    Undispatched config controller (completePolicyInit config controller).state := by
  have marked : Undispatched config controller
      { controller with policy.policyInitDone := true } := .silent rfl rfl rfl rfl
  have rebuilt := marked.trans (undispatched_triggerRebuildPolicyMesh _)
  unfold completePolicyInit
  apply Undispatched.andThen
  · exact rebuilt.trans (undispatched_parts.broadcastInitialWeights _)
  · intro synchronized
    apply Undispatched.andThen
    · exact .forEach (fun name state => undispatched_setStatus name .ready state) _
    · intro ready
      split
      · rename_i colocated
        exact undispatched_startColocated colocated _ ready
      · exact .refl ready

theorem undispatched_scalePolicyMesh (name : ReplicaName) (controller : Controller) :
    Undispatched config controller (scalePolicyMesh config name controller).state :=
  undispatched_parts.scalePolicyMesh name (undispatched_triggerRebuildPolicyMesh controller)
    (undispatched_setStatus name .ready)

theorem undispatched_policyPostRegisterHook (name : ReplicaName) (controller : Controller) :
    Undispatched config controller (policyPostRegisterHook config name controller).state := by
  have gated : Undispatched config controller
      (activateValidationBeforeTrain config controller) :=
    undispatched_parts.activateValidationBeforeTrain controller
  unfold policyPostRegisterHook
  dsimp only
  split
  · split
    · exact gated.trans (undispatched_completePolicyInit _)
    · exact gated
  · exact gated.trans (undispatched_scalePolicyMesh _ _)

theorem undispatched_policyReplicaArrived (name : ReplicaName) (controller : Controller) :
    Undispatched config controller (policyReplicaArrived config name controller).state := by
  unfold policyReplicaArrived
  apply Undispatched.andThen (undispatched_setStatus _ _ _)
  intro created
  apply Undispatched.andThen
  · split
    · exact undispatched_parts.initializeWeights _ _
    · exact .refl created
  · exact undispatched_policyPostRegisterHook name

theorem undispatched_registerPolicy (atom : Atom) (now : Nat) (controller : Controller) :
    ∃ stored : Controller, stored.redis = controller.redis ∧
      stored.policy.rolloutBuffer = controller.policy.rolloutBuffer ∧
      stored.policy.currentStep = controller.policy.currentStep ∧
      Undispatched config stored (registerPolicy config atom now controller).state := by
  unfold registerPolicy
  split
  · exact ⟨controller, rfl, rfl, rfl, .refl controller⟩
  · rename_i replica _
    split
    · exact ⟨storePolicyReplica atom.replicaName (replica.startAt now) controller,
        rfl, rfl, rfl, undispatched_policyReplicaArrived _ _⟩
    · exact ⟨storePolicyReplica atom.replicaName replica controller, rfl, rfl, rfl, .refl _⟩

theorem undispatched_unregisterPolicy (name : ReplicaName) (controller : Controller) :
    ∃ removed : Controller, removed.redis = controller.redis ∧
      removed.policy.rolloutBuffer = controller.policy.rolloutBuffer ∧
      removed.policy.currentStep = controller.policy.currentStep ∧
      Undispatched config removed (unregisterPolicy config name controller).state := by
  unfold unregisterPolicy
  split
  · exact ⟨controller, rfl, rfl, rfl, .refl controller⟩
  · split
    · dsimp only
      split
      · refine ⟨_, ?_, ?_, ?_, .refl _⟩ <;> rfl
      · split
        · refine ⟨_, ?_, ?_, ?_, undispatched_triggerRebuildPolicyMesh _⟩ <;> rfl
        · refine ⟨_, ?_, ?_, ?_, .refl _⟩ <;> rfl
    · refine ⟨_, ?_, ?_, ?_, .refl _⟩ <;> rfl

end CosmosRl.Dispatcher
