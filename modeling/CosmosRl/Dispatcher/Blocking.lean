import CosmosRl.Dispatcher.Controller

/-!
Handlers that never wait for an empty queue.

Only the dispatch of a step takes rollouts from a queue.  Every other part of a handler
may raise, but it cannot block.
-/

namespace CosmosRl.Dispatcher

open CosmosRl.Foundation

variable {config : Config}

/-- The computation does not end in a `get` on an empty queue. -/
def NotBlocked (result : Result) : Prop := result.raised ≠ some .blocked

namespace NotBlocked

theorem ok (controller : Controller) : NotBlocked (.ok controller) := by
  simp [NotBlocked]

theorem raise {exn : PyError} (other : exn ≠ .blocked) (controller : Controller) :
    NotBlocked (.raise controller exn) := by
  simpa [NotBlocked] using other

theorem andThen {first : Result} {second : Controller → Result} (left : NotBlocked first)
    (right : ∀ state, NotBlocked (second state)) : NotBlocked (first.andThen second) := by
  rcases first.andThen_cases second with ⟨_, equality⟩ | ⟨_, equality⟩
  · rw [equality]
    exact left
  · rw [equality]
    exact right _

theorem forEach {Item : Type} {body : Item → Controller → Result} {items : List Item}
    (each : ∀ item state, NotBlocked (body item state)) (controller : Controller) :
    NotBlocked (Outcome.forEach body items controller) := by
  induction items generalizing controller with
  | nil => exact ok controller
  | cons item rest ih =>
    exact andThen (each item controller) fun state => ih state

end NotBlocked

theorem notBlocked_setStatus (name : ReplicaName) (status : PolicyStatus)
    (controller : Controller) : NotBlocked (setStatus name status controller) := by
  unfold setStatus
  split
  · split
    · exact .raise (by simp) _
    · exact .ok _
  · split
    · exact .ok _
    · exact .raise (by simp) _

theorem notBlocked_initializeWeights (name : ReplicaName) (controller : Controller) :
    NotBlocked (initializeWeights name controller) := by
  unfold initializeWeights
  split
  · exact .raise (by simp) _
  · dsimp only
    split
    · exact .ok _
    · split
      · exact .ok _
      · exact .ok _

theorem notBlocked_broadcastInitialWeights (controller : Controller) :
    NotBlocked (broadcastInitialWeights controller) := by
  unfold broadcastInitialWeights
  split
  · split
    · exact .raise (by simp) _
    · exact .ok _
  · exact .ok _

theorem notBlocked_completePolicyInit (controller : Controller) :
    NotBlocked (completePolicyInit config controller) := by
  unfold completePolicyInit
  apply NotBlocked.andThen (notBlocked_broadcastInitialWeights _)
  intro synchronized
  apply NotBlocked.andThen
  · exact .forEach (fun name state => notBlocked_setStatus name .ready state) _
  · intro ready
    split
    · unfold startColocated
      exact .forEach (fun name state => notBlocked_setStatus name .running _) _
    · exact .ok _

theorem notBlocked_scalePolicyMesh (name : ReplicaName) (controller : Controller) :
    NotBlocked (scalePolicyMesh config name controller) := by
  unfold scalePolicyMesh
  split
  · exact .raise (by simp) _
  · split
    · exact .raise (by simp) _
    · exact notBlocked_setStatus _ _ _

theorem notBlocked_policyReplicaArrived (name : ReplicaName) (controller : Controller) :
    NotBlocked (policyReplicaArrived config name controller) := by
  unfold policyReplicaArrived
  apply NotBlocked.andThen (notBlocked_setStatus _ _ _)
  intro created
  apply NotBlocked.andThen
  · split
    · exact notBlocked_initializeWeights name created
    · exact .ok created
  · intro initialized
    unfold policyPostRegisterHook
    dsimp only
    split
    · split
      · exact notBlocked_completePolicyInit _
      · exact .ok _
    · exact notBlocked_scalePolicyMesh name _

theorem arriveReplica_notBlocked {atom : Atom} {replicas : Dict ReplicaName Replica}
    {exn : PyError} (rejected : arriveReplica atom replicas = .error exn) : exn ≠ .blocked := by
  unfold arriveReplica at rejected
  split at rejected
  · cases rejected
  · unfold Replica.arrive at rejected
    split at rejected
    · cases rejected
      simp
    · split at rejected
      · cases rejected
        simp
      · cases rejected

theorem notBlocked_registerPolicy (atom : Atom) (now : Nat) (controller : Controller) :
    NotBlocked (registerPolicy config atom now controller) := by
  unfold registerPolicy
  split
  · rename_i exn rejected
    exact .raise (arriveReplica_notBlocked rejected) _
  · split
    · exact notBlocked_policyReplicaArrived _ _
    · exact .ok _

theorem notBlocked_registerRollout (atom : Atom) (now : Nat) (controller : Controller) :
    NotBlocked (registerRollout atom now controller) := by
  unfold registerRollout
  split
  · rename_i exn rejected
    exact .raise (arriveReplica_notBlocked rejected) _
  · split
    · unfold rolloutPostRegisterHook
      dsimp only
      split
      · exact .ok _
      · split
        · split
          · exact .ok _
          · exact .raise (by simp) _
        · exact .ok _
    · exact .ok _

theorem notBlocked_unregister (name : ReplicaName) (controller : Controller) :
    NotBlocked (unregister config name controller) := by
  unfold unregister
  split
  · unfold unregisterPolicy
    split
    · exact .raise (by simp) _
    · split
      · dsimp only
        split
        · exact .ok _
        · split <;> exact .ok _
      · exact .raise (by simp) _
  · split
    · unfold unregisterRollout
      split
      · exact .raise (by simp) _
      · dsimp only
        split
        · exact .ok _
        · split <;> exact .ok _
    · exact .raise (by simp) _

/-- An answer that is no `get` on an empty queue. -/
def AnswerNotBlocked {Answer : Type} (answer : Except PyError Answer) : Prop :=
  ∀ exn, answer = .error exn → exn ≠ .blocked

theorem moduloMeshSize_notBlocked (meshSize : Option Nat) (idx : Nat) :
    AnswerNotBlocked (moduloMeshSize meshSize idx) := by
  intro exn raised
  unfold moduloMeshSize at raised
  split at raised <;> cases raised <;> simp

theorem acceptsPrompt_notBlocked (rankInMesh : Nat) (weightVersion : Option Nat) (idx : Nat)
    (fetcher : ControllerDataFetcher) :
    AnswerNotBlocked (acceptsPrompt config rankInMesh weightVersion idx fetcher) := by
  intro exn raised
  unfold acceptsPrompt at raised
  split at raised
  · rename_i other failed
    cases raised
    exact moduloMeshSize_notBlocked _ _ _ failed
  · split at raised
    · split at raised
      · cases raised
      · cases rank : moduloMeshSize fetcher.policyGlobalMeshSize idx with
        | error other =>
          rw [rank] at raised
          cases raised
          exact moduloMeshSize_notBlocked _ _ _ rank
        | ok policyRank =>
          rw [rank] at raised
          cases raised
    · cases raised

theorem findAccepted_notBlocked (rankInMesh : Nat) (weightVersion : Option Nat)
    (fetcher : ControllerDataFetcher) (buffer : List Nat) :
    AnswerNotBlocked (findAccepted config rankInMesh weightVersion fetcher buffer) := by
  induction buffer with
  | nil =>
    intro exn raised
    cases raised
  | cons idx rest ih =>
    intro exn raised
    unfold findAccepted at raised
    split at raised
    · rename_i other failed
      cases raised
      exact acceptsPrompt_notBlocked _ _ _ _ _ failed
    · cases raised
    · cases later : findAccepted config rankInMesh weightVersion fetcher rest with
      | error other =>
        rw [later] at raised
        cases raised
        exact ih _ later
      | ok found =>
        rw [later] at raised
        cases raised

def EndNotBlocked (ended : FetchEnd) : Prop := ended ≠ .raised .blocked

theorem takeFromBuffer_notBlocked (rankInMesh : Nat) (weightVersion : Option Nat)
    (missing : Nat) (fetched : Fetched) :
    EndNotBlocked (takeFromBuffer config rankInMesh weightVersion missing fetched).1 := by
  induction missing generalizing fetched with
  | zero => simp [takeFromBuffer, EndNotBlocked]
  | succ missing ih =>
    unfold takeFromBuffer
    split
    · rename_i exn failed
      have other := findAccepted_notBlocked _ _ _ _ _ failed
      simpa [EndNotBlocked] using other
    · simp [EndNotBlocked]
    · exact ih _

theorem distributeBatch_notBlocked (n rankInMesh : Nat) (weightVersion : Option Nat)
    (idxs : List Nat) (fetched : Fetched) :
    EndNotBlocked (distributeBatch config n rankInMesh weightVersion idxs fetched).1 := by
  induction idxs generalizing fetched with
  | nil => simp [distributeBatch, EndNotBlocked]
  | cons idx rest ih =>
    unfold distributeBatch
    split
    · rename_i exn failed
      have other := acceptsPrompt_notBlocked _ _ _ _ _ failed
      simpa [EndNotBlocked] using other
    · split
      · exact ih _
      · exact ih _

theorem nextBatch_notBlocked (validationStep : Option Nat) (fetcher : ControllerDataFetcher) :
    (nextBatch config validationStep fetcher).1 ≠ .raised .blocked := by
  have checked : ∀ (batchSize : Nat) (idxs : List Nat),
      checkedBatch batchSize idxs ≠ .raised .blocked := by
    intro batchSize idxs
    unfold checkedBatch
    split <;> simp
  cases validationStep with
  | none =>
    show (nextTrainBatch config fetcher).1 ≠ _
    unfold nextTrainBatch
    split
    · exact checked _ _
    · dsimp only
      split
      · split
        · simp
        · exact checked _ _
      · simp
  | some step =>
    show (nextValBatch config step fetcher).1 ≠ _
    unfold nextValBatch
    split
    · simp
    · simp
    · exact checked _ _

theorem fetchRounds_notBlocked (n : Nat)
    (validationStep rankInMesh weightVersion : Option Nat) (rounds : Nat) (fetched : Fetched) :
    EndNotBlocked
      (fetchRounds config n validationStep rankInMesh weightVersion rounds fetched).1 := by
  induction rounds generalizing fetched with
  | zero => simp [fetchRounds, EndNotBlocked]
  | succ rounds ih =>
    have drawn := @nextBatch_notBlocked config validationStep fetched.fetcher
    unfold fetchRounds
    split
    · rename_i exn fetcher result
      rw [result] at drawn
      simpa [EndNotBlocked] using drawn
    · simp [EndNotBlocked]
    · rename_i idxs fetcher result
      have accepted : EndNotBlocked (acceptBatch config n rankInMesh weightVersion idxs
          { fetched with fetcher := fetcher }).1 := by
        cases rankInMesh with
        | none => simp [acceptBatch, EndNotBlocked]
        | some rank => exact distributeBatch_notBlocked n rank weightVersion idxs _
      split
      · exact ih _
      · exact accepted

theorem fetchLoop_notBlocked (n : Nat) (validationStep rankInMesh weightVersion : Option Nat)
    (fetched : Fetched) :
    EndNotBlocked (fetchLoop config n validationStep rankInMesh weightVersion fetched).1 := by
  induction fetched using fetchLoop.induct config n validationStep rankInMesh
      weightVersion with
  | case1 fetched missing next continued ih =>
    unfold fetchLoop
    rw [dif_pos missing]
    split
    · rename_i other again
      rw [continued] at again
      cases again
      exact ih
    · exact fetchRounds_notBlocked _ _ _ _ _ _
  | case2 fetched missing notContinued =>
    unfold fetchLoop
    rw [dif_pos missing]
    split
    · rename_i next continued
      exact absurd continued (notContinued next)
    · exact fetchRounds_notBlocked _ _ _ _ _ _
  | case3 fetched enough =>
    unfold fetchLoop
    rw [dif_neg enough]
    simp [EndNotBlocked]

theorem fetchPayloads_notBlocked (n : Nat)
    (validationStep rankInMesh weightVersion : Option Nat) (fetched : Fetched) :
    EndNotBlocked
      (fetchPayloads config n validationStep rankInMesh weightVersion fetched).1 := by
  unfold fetchPayloads
  split
  · split
    · simp [EndNotBlocked]
    · rename_i rank
      have taken := @takeFromBuffer_notBlocked config rank weightVersion n fetched
      split
      · exact fetchLoop_notBlocked _ _ _ _ _
      · exact taken
  · split
    · simp [EndNotBlocked]
    · exact fetchRounds_notBlocked _ _ _ _ _ _

theorem fetcherGetBatchedPrompt_notBlocked (n : Nat)
    (validationStep rankInMesh weightVersion : Option Nat) (fetcher : ControllerDataFetcher) :
    AnswerNotBlocked (fetcherGetBatchedPrompt config n validationStep rankInMesh
      weightVersion fetcher).1 := by
  intro exn raised
  unfold fetcherGetBatchedPrompt at raised
  dsimp only at raised
  split at raised
  · cases raised
    simp
  · have ended := @fetchPayloads_notBlocked config n validationStep rankInMesh
      (if validationStep.isSome then none else weightVersion)
      ⟨[], (prepareVersion weightVersion fetcher).dataBuffer validationStep,
        prepareVersion weightVersion fetcher⟩
    split at raised
    · rename_i other fetched result
      rw [result] at ended
      cases raised
      simpa [EndNotBlocked] using ended
    · cases raised

theorem firstOpenVersion_notBlocked (quota : Nat) (promptNum : Dict Nat Nat) (fuel version : Nat) :
    AnswerNotBlocked (firstOpenVersion quota promptNum fuel version) := by
  induction fuel generalizing version with
  | zero =>
    intro exn raised
    cases raised
  | succ fuel ih =>
    intro exn raised
    unfold firstOpenVersion at raised
    split at raised
    · cases raised
    · split at raised
      · cases raised
      · split at raised
        · exact ih _ exn raised
        · cases raised
          simp

theorem tagPayloads_notBlocked (quota : Nat) (idxs : List Nat) (version : Nat)
    (promptNum : Dict Nat Nat) :
    AnswerNotBlocked (tagPayloads quota idxs version promptNum).1 := by
  induction idxs generalizing version promptNum with
  | nil =>
    intro exn raised
    cases raised
  | cons idx rest ih =>
    intro exn raised
    unfold tagPayloads at raised
    split at raised
    · rename_i other failed
      cases raised
      exact firstOpenVersion_notBlocked _ _ _ _ _ failed
    · rename_i openVersion _
      have later := ih openVersion
        (promptNum.set openVersion ((promptNum.get? openVersion).getD 0 + 1))
      dsimp only at raised
      split at raised
      · rename_i other final result
        rw [result] at later
        cases raised
        exact later _ rfl
      · cases raised

theorem notBlocked_checkRetries (version quota : Nat) (promptNum : Dict Nat Nat) :
    checkRetries config version quota promptNum ≠ some .blocked := by
  unfold checkRetries
  split
  · split
    · simp
    · split
      · simp
      · split
        · simp
        · simp
  · simp

theorem getBatchedPrompt_notBlocked (n : Nat) (validationStep rankInMesh : Option Nat)
    (controller : Controller) :
    AnswerNotBlocked (getBatchedPrompt config n validationStep rankInMesh controller).1 := by
  have controlled : ∀ (version quota : Nat) (idxs : List Nat) (promptNum : Dict Nat Nat),
      AnswerNotBlocked (controlVersions config version quota idxs promptNum).1 := by
    intro version quota idxs promptNum exn raised
    unfold controlVersions at raised
    split at raised
    · cases raised
    · exact tagPayloads_notBlocked _ _ _ _ exn raised
  intro exn raised
  unfold getBatchedPrompt at raised
  dsimp only at raised
  split at raised
  · rename_i other fetcher result
    cases raised
    exact fetcherGetBatchedPrompt_notBlocked _ _ _ _ _ _ (congrArg Prod.fst result)
  · split at raised
    · split at raised
      · rename_i other promptNum result
        cases raised
        exact controlled _ _ _ _ _ (congrArg Prod.fst result)
      · split at raised
        · rename_i other result
          cases raised
          rintro rfl
          exact notBlocked_checkRetries _ _ _ result
        · cases raised
    · cases raised

end CosmosRl.Dispatcher
