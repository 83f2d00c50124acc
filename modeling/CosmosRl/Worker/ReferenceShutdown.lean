import CosmosRl.Worker.TeacherWorker

/-!
How the reference replicas are told to stop.

A rollout worker that handles a stopping broadcast publishes an end request on the
teacher stream before it leaves its loop.  Every request is delivered to one reference
replica, and a replica that has taken an end request unregisters, upon which the
controller publishes the next one as long as replicas are left.  The chain has to be
started by a rollout worker; one that leaves because its prompts are used up, which
happens with asynchronous rollouts only, does not start it.
-/

namespace CosmosRl.Worker

open CosmosRl.Foundation

universe u v w

/-- A `RolloutToRolloutBroadcastCommand`, as far as its handler's end is concerned. -/
structure WeightBroadcast where
  weightStep : Option Nat
  totalSteps : Option Nat
  deriving DecidableEq

/-- `replica_should_stop` -/
def WeightBroadcast.replicaShouldStop (broadcast : WeightBroadcast) : Bool :=
  match broadcast.weightStep, broadcast.totalSteps with
  | some weightStep, some totalSteps => decide (totalSteps ≤ weightStep)
  | _, _ => false

/-- The message of `broadcast_to_all_rollout_replica` and of `end_reference_replica`. -/
def endRequest (Uuid : Type u) (Payload : Type v) : TeacherRequest Uuid Payload where
  promptIdx := -1
  completions := []
  promptTokenIds := none
  isEnd := true

structure RolloutRank where
  commandQueue : List WeightBroadcast
  shutdownSignal : Bool

structure ReferenceReplica (Uuid : Type u) (Payload : Type v) where
  /-- The thread that fetches requests runs. -/
  running : Bool
  /-- All requests the replica has taken from the stream. -/
  taken : List (TeacherRequest Uuid Payload)

structure ShutdownConfig where
  /-- The rollouts are generated asynchronously. -/
  isAsyncRollout : Bool
  /-- How many ranks a rollout replica has, besides rank 0. -/
  otherRolloutRanks : Nat
  totalSteps : Nat
  /-- `batch_size_per_replica` of the reference replicas. -/
  batchSize : Nat

structure ShutdownState (Name : Type w) (Uuid : Type u) (Payload : Type v) where
  currentStep : Nat
  policyReplicas : List Name
  rolloutReplicas : List Name
  /-- The registered reference replicas. -/
  teacherResultManager : List Name
  rolloutRanks : Name → Nat → RolloutRank
  referenceReplicas : Name → ReferenceReplica Uuid Payload
  /-- Requests that no reference replica has taken. -/
  teacherRequestStream : List (TeacherRequest Uuid Payload)
  /-- Some rollout replica has put rollouts. -/
  hasRollouts : Bool
  /-- Recorded beside the code: a rollout worker has handled a stopping broadcast. -/
  stopHandled : Bool

inductive ShutdownEvent (Name : Type w) (Uuid : Type u) (Payload : Type v) where
  /-- A rollout replica puts rollouts. -/
  | putRollouts (name : Name)
  /-- A rollout replica asks the teacher about them. -/
  | requestTeacher (name : Name) (request : TeacherRequest Uuid Payload)
  /-- The controller starts the next training step. -/
  | dataFetch
  /-- The last acknowledgement of a step triggers the weight synchronisation. -/
  | trainAck
  /-- A rank of a rollout replica handles its next broadcast. -/
  | handleBroadcast (name : Name) (rank : Nat)
  /-- `stream_generation_step` of a rank finds all prompts consumed. -/
  | promptConsumeEnd (name : Name) (rank : Nat)
  | unregisterPolicy (name : Name)
  | unregisterRollout (name : Name)
  /-- `fetch_rollouts` of a reference replica reads the stream. -/
  | fetchRequests (name : Name)
  | unregisterReference (name : Name)

namespace ShutdownState

variable {Name : Type w} {Uuid : Type u} {Payload : Type v} [DecidableEq Name]

def initial (policyReplicas rolloutReplicas referenceReplicas : List Name) :
    ShutdownState Name Uuid Payload where
  currentStep := 0
  policyReplicas := policyReplicas
  rolloutReplicas := rolloutReplicas
  teacherResultManager := referenceReplicas
  rolloutRanks := fun _ _ => ⟨[], false⟩
  referenceReplicas := fun _ => ⟨true, []⟩
  teacherRequestStream := []
  hasRollouts := false
  stopHandled := false

/-- `publish_teacher_request` -/
def publishTeacherRequest (state : ShutdownState Name Uuid Payload)
    (request : TeacherRequest Uuid Payload) : ShutdownState Name Uuid Payload :=
  { state with teacherRequestStream := state.teacherRequestStream ++ [request] }

def setRolloutRank (state : ShutdownState Name Uuid Payload) (name : Name) (rank : Nat)
    (rolloutRank : RolloutRank) : ShutdownState Name Uuid Payload :=
  { state with
      rolloutRanks := fun other otherRank =>
        if other = name ∧ otherRank = rank then rolloutRank
        else state.rolloutRanks other otherRank }

/-- `trigger_weight_sync` publishes the broadcast to the registered rollout replicas. -/
def triggerWeightSync (state : ShutdownState Name Uuid Payload) (broadcast : WeightBroadcast) :
    ShutdownState Name Uuid Payload :=
  { state with
      rolloutRanks := fun name rank =>
        if name ∈ state.rolloutReplicas then
          { state.rolloutRanks name rank with
              commandQueue := (state.rolloutRanks name rank).commandQueue ++ [broadcast] }
        else state.rolloutRanks name rank }

/-- The end of `broadcast_to_all_rollout_replica`. -/
def handleBroadcast (state : ShutdownState Name Uuid Payload) (name : Name) (rank : Nat) :
    ShutdownState Name Uuid Payload :=
  match (state.rolloutRanks name rank).commandQueue with
  | [] => state
  | broadcast :: rest =>
    if broadcast.replicaShouldStop then
      { (state.publishTeacherRequest (endRequest Uuid Payload)).setRolloutRank name rank
          ⟨rest, true⟩ with
        stopHandled := true }
    else
      state.setRolloutRank name rank
        { state.rolloutRanks name rank with commandQueue := rest }

/-- `subscribe_teacher_request`, and the end of `fetch_rollouts` after an end request. -/
def fetchRequests (config : ShutdownConfig) (state : ShutdownState Name Uuid Payload)
    (name : Name) : ShutdownState Name Uuid Payload :=
  let requests := state.teacherRequestStream.take config.batchSize
  { state with
      teacherRequestStream := state.teacherRequestStream.drop config.batchSize
      referenceReplicas := fun other =>
        if other = name then
          { running := (state.referenceReplicas name).running &&
              requests.all fun request => !request.isEnd
            taken := (state.referenceReplicas name).taken ++ requests }
        else state.referenceReplicas other }

/-- `unregister` of a reference replica. -/
def unregisterReference (state : ShutdownState Name Uuid Payload) (name : Name) :
    ShutdownState Name Uuid Payload :=
  let remaining := { state with teacherResultManager := state.teacherResultManager.erase name }
  if remaining.teacherResultManager = [] then remaining
  else remaining.publishTeacherRequest (endRequest Uuid Payload)

def handle (config : ShutdownConfig) (state : ShutdownState Name Uuid Payload) :
    ShutdownEvent Name Uuid Payload → ShutdownState Name Uuid Payload
  | .putRollouts _ => { state with hasRollouts := true }
  | .requestTeacher _ request => state.publishTeacherRequest request
  | .dataFetch => { state with currentStep := state.currentStep + 1 }
  | .trainAck => state.triggerWeightSync ⟨some state.currentStep, some config.totalSteps⟩
  | .handleBroadcast name rank => state.handleBroadcast name rank
  | .promptConsumeEnd name rank =>
    state.setRolloutRank name rank
      { state.rolloutRanks name rank with shutdownSignal := true }
  | .unregisterPolicy name =>
    { state with policyReplicas := state.policyReplicas.erase name }
  | .unregisterRollout name =>
    { state with rolloutReplicas := state.rolloutReplicas.erase name }
  | .fetchRequests name => state.fetchRequests config name
  | .unregisterReference name => state.unregisterReference name

/-- `training_finished` -/
def trainingFinished (config : ShutdownConfig) (state : ShutdownState Name Uuid Payload) :
    Bool :=
  decide (config.totalSteps ≤ state.currentStep ∧ 0 < config.totalSteps)

def tookEnd (state : ShutdownState Name Uuid Payload) (name : Name) : Bool :=
  (state.referenceReplicas name).taken.any TeacherRequest.isEnd

/-- When an event can happen.  Rank 0 of a rollout replica unregisters it after its
loop, a step needs rollouts, and a reference replica leaves after an end request. -/
def Allowed (config : ShutdownConfig) (state : ShutdownState Name Uuid Payload) :
    ShutdownEvent Name Uuid Payload → Prop
  | .putRollouts name => name ∈ state.rolloutReplicas
  | .requestTeacher name request => name ∈ state.rolloutReplicas ∧ request.isEnd = false
  | .dataFetch => state.hasRollouts = true ∧ state.policyReplicas ≠ [] ∧
      state.currentStep < config.totalSteps
  | .trainAck => state.policyReplicas ≠ [] ∧ 0 < state.currentStep
  | .handleBroadcast name rank => rank ≤ config.otherRolloutRanks ∧
      (state.rolloutRanks name rank).shutdownSignal = false ∧
      (state.rolloutRanks name rank).commandQueue ≠ []
  | .promptConsumeEnd name rank => config.isAsyncRollout = true ∧
      rank ≤ config.otherRolloutRanks ∧
      (state.rolloutRanks name rank).shutdownSignal = false
  | .unregisterPolicy name => name ∈ state.policyReplicas
  | .unregisterRollout name => name ∈ state.rolloutReplicas ∧
      (state.rolloutRanks name 0).shutdownSignal = true
  | .fetchRequests name => name ∈ state.teacherResultManager ∧
      (state.referenceReplicas name).running = true
  | .unregisterReference name => name ∈ state.teacherResultManager ∧
      state.tookEnd name = true

instance (config : ShutdownConfig) (state : ShutdownState Name Uuid Payload) :
    (event : ShutdownEvent Name Uuid Payload) → Decidable (state.Allowed config event)
  | .putRollouts _ => inferInstanceAs (Decidable (_ ∈ _))
  | .requestTeacher _ _ => inferInstanceAs (Decidable (_ ∧ _))
  | .dataFetch => inferInstanceAs (Decidable (_ = true ∧ ¬ _ = [] ∧ _ < _))
  | .trainAck => inferInstanceAs (Decidable (¬ _ = [] ∧ _ < _))
  | .handleBroadcast _ _ => inferInstanceAs (Decidable (_ ≤ _ ∧ _ = false ∧ ¬ _ = []))
  | .promptConsumeEnd _ _ => inferInstanceAs (Decidable (_ ∧ _))
  | .unregisterPolicy _ => inferInstanceAs (Decidable (_ ∈ _))
  | .unregisterRollout _ => inferInstanceAs (Decidable (_ ∧ _))
  | .fetchRequests _ => inferInstanceAs (Decidable (_ ∧ _))
  | .unregisterReference _ => inferInstanceAs (Decidable (_ ∧ _))

end ShutdownState

def shutdownSystem (Name : Type w) (Uuid : Type u) (Payload : Type v) [DecidableEq Name]
    (config : ShutdownConfig) :
    EventSystem (ShutdownState Name Uuid Payload) (ShutdownEvent Name Uuid Payload) where
  handle := ShutdownState.handle config
  Allowed := ShutdownState.Allowed config

instance (Name : Type w) (Uuid : Type u) (Payload : Type v) [DecidableEq Name]
    (config : ShutdownConfig) (state : ShutdownState Name Uuid Payload)
    (event : ShutdownEvent Name Uuid Payload) :
    Decidable ((shutdownSystem Name Uuid Payload config).Allowed state event) :=
  inferInstanceAs (Decidable (state.Allowed config event))

section Stop

variable {Name : Type w} {Uuid : Type u} {Payload : Type v} [DecidableEq Name]
  {config : ShutdownConfig} {state : ShutdownState Name Uuid Payload}

namespace ShutdownState

def EndUnderway (state : ShutdownState Name Uuid Payload) : Prop :=
  (∃ request ∈ state.teacherRequestStream, request.isEnd = true) ∨
    ∃ name ∈ state.teacherResultManager, state.tookEnd name = true

def ReferencesAreTold (config : ShutdownConfig) (state : ShutdownState Name Uuid Payload) :
    Prop :=
  state.trainingFinished config = true → state.policyReplicas = [] →
    state.rolloutReplicas = [] → state.teacherResultManager ≠ [] → state.EndUnderway

/-- The last rollout replica only unregisters if some rollout worker has handled a
stopping broadcast.  Synchronous rollout workers always have. -/
def TellsReferences (config : ShutdownConfig) (state : ShutdownState Name Uuid Payload) :
    ShutdownEvent Name Uuid Payload → Prop
  | .unregisterRollout name => config.isAsyncRollout = false ∨
      state.rolloutReplicas.erase name ≠ [] ∨ state.stopHandled = true
  | _ => True

instance (config : ShutdownConfig) (state : ShutdownState Name Uuid Payload) :
    (event : ShutdownEvent Name Uuid Payload) → Decidable (state.TellsReferences config event)
  | .unregisterRollout _ => inferInstanceAs (Decidable (_ = false ∨ ¬ _ = [] ∨ _ = true))
  | .putRollouts _ | .requestTeacher _ _ | .dataFetch | .trainAck | .handleBroadcast _ _
  | .promptConsumeEnd _ _ | .unregisterPolicy _ | .fetchRequests _
  | .unregisterReference _ => inferInstanceAs (Decidable True)

end ShutdownState

structure Telling (config : ShutdownConfig) (state : ShutdownState Name Uuid Payload) :
    Prop where
  started : 0 < state.currentStep → state.hasRollouts = true
  generating : state.hasRollouts = true →
    state.rolloutReplicas ≠ [] ∨ state.stopHandled = true
  underway : state.stopHandled = true → state.teacherResultManager ≠ [] → state.EndUnderway
  stopped : config.isAsyncRollout = false → ∀ name rank,
    (state.rolloutRanks name rank).shutdownSignal = true → state.stopHandled = true

section

omit [DecidableEq Name]

theorem Telling.initial (policyReplicas rolloutReplicas referenceReplicas : List Name) :
    Telling config (ShutdownState.initial policyReplicas rolloutReplicas referenceReplicas :
      ShutdownState Name Uuid Payload) := by
  refine ⟨fun later => absurd later (Nat.lt_irrefl 0), ?_, ?_, ?_⟩
  · intro generated
    cases generated
  · intro handled
    cases handled
  · intro _ name rank signal
    cases signal

theorem Telling.referencesAreTold (telling : Telling config state) :
    state.ReferencesAreTold config := by
  intro finished _ noRollouts references
  obtain ⟨reached, positive⟩ := of_decide_eq_true finished
  have generated := telling.started (by omega)
  have handled := (telling.generating generated).resolve_left (by simp [noRollouts])
  exact telling.underway handled references

theorem endUnderway_publish (request : TeacherRequest Uuid Payload)
    (underway : state.EndUnderway ∨ request.isEnd = true) :
    (state.publishTeacherRequest request).EndUnderway := by
  rcases underway with (⟨unread, member, isEnd⟩ | taken) | isEnd
  · exact .inl ⟨unread, List.mem_append_left _ member, isEnd⟩
  · exact .inr taken
  · exact .inl ⟨request, by simp [ShutdownState.publishTeacherRequest], isEnd⟩

end

theorem endUnderway_fetchRequests {name : Name} (underway : state.EndUnderway)
    (registered : name ∈ state.teacherResultManager) :
    (state.fetchRequests config name).EndUnderway := by
  have kept : ∀ other, state.tookEnd other = true →
      (state.fetchRequests config name).tookEnd other = true := by
    intro other took
    unfold ShutdownState.tookEnd ShutdownState.fetchRequests
    dsimp only
    by_cases same : other = name
    · rw [if_pos same, List.any_append, ← same, Bool.or_eq_true]
      exact .inl took
    · rw [if_neg same]
      exact took
  rcases underway with ⟨request, member, isEnd⟩ | ⟨other, known, took⟩
  · rw [← List.take_append_drop config.batchSize state.teacherRequestStream] at member
    rcases List.mem_append.mp member with read | unread
    · refine .inr ⟨name, registered, ?_⟩
      unfold ShutdownState.tookEnd ShutdownState.fetchRequests
      dsimp only
      rw [if_pos rfl, List.any_append, Bool.or_eq_true]
      exact .inr (List.any_eq_true.mpr ⟨request, read, isEnd⟩)
    · exact .inl ⟨request, unread, isEnd⟩
  · exact .inr ⟨other, known, kept other took⟩

/-- One step keeps the chain going. -/
theorem Telling.handle (telling : Telling config state)
    {event : ShutdownEvent Name Uuid Payload} (allowed : state.Allowed config event)
    (tells : state.TellsReferences config event) :
    Telling config (state.handle config event) := by
  cases event with
  | putRollouts name =>
    refine ⟨fun _ => rfl, fun _ => .inl ?_, telling.underway, telling.stopped⟩
    exact List.ne_nil_of_mem allowed
  | requestTeacher name request =>
    refine ⟨telling.started, telling.generating, ?_, telling.stopped⟩
    intro handled references
    exact endUnderway_publish request (.inl (telling.underway handled references))
  | dataFetch =>
    exact ⟨fun _ => allowed.1, telling.generating, telling.underway, telling.stopped⟩
  | trainAck =>
    refine ⟨telling.started, telling.generating, telling.underway, ?_⟩
    intro synchronous name rank signal
    apply telling.stopped synchronous name rank
    simp only [ShutdownState.handle, ShutdownState.triggerWeightSync] at signal
    split at signal
    · exact signal
    · exact signal
  | handleBroadcast name rank =>
    rw [ShutdownState.handle, ShutdownState.handleBroadcast]
    split
    · exact telling
    · rename_i broadcast rest queue
      split
      · refine ⟨telling.started, fun _ => .inr rfl, ?_, fun _ _ _ _ => rfl⟩
        intro _ _
        exact endUnderway_publish (endRequest Uuid Payload) (.inr rfl)
      · refine ⟨telling.started, telling.generating, telling.underway, ?_⟩
        intro synchronous other otherRank signal
        simp only [ShutdownState.setRolloutRank] at signal
        split at signal
        · exact telling.stopped synchronous name rank signal
        · exact telling.stopped synchronous other otherRank signal
  | promptConsumeEnd name rank =>
    refine ⟨telling.started, telling.generating, telling.underway, ?_⟩
    intro synchronous
    rw [allowed.1] at synchronous
    cases synchronous
  | unregisterPolicy name =>
    exact ⟨telling.started, telling.generating, telling.underway, telling.stopped⟩
  | unregisterRollout name =>
    refine ⟨telling.started, ?_, telling.underway, telling.stopped⟩
    intro _
    rcases tells with synchronous | others | handled
    · exact .inr (telling.stopped synchronous name 0 allowed.2)
    · exact .inl others
    · exact .inr handled
  | fetchRequests name =>
    refine ⟨telling.started, telling.generating, ?_, telling.stopped⟩
    intro handled references
    exact endUnderway_fetchRequests (telling.underway handled references) allowed.1
  | unregisterReference name =>
    rw [ShutdownState.handle, ShutdownState.unregisterReference]
    dsimp only
    split
    · rename_i none
      refine ⟨telling.started, telling.generating, ?_, telling.stopped⟩
      intro _ references
      exact absurd none references
    · refine ⟨telling.started, telling.generating, ?_, telling.stopped⟩
      intro _ _
      exact endUnderway_publish (endRequest Uuid Payload) (.inr rfl)

def asyncStep : ShutdownConfig where
  isAsyncRollout := true
  otherRolloutRanks := 0
  totalSteps := 1
  batchSize := 2

end Stop

end CosmosRl.Worker
