import CosmosRl.Dispatcher.PromptStream
import CosmosRl.Foundation.Extraction

/-!
Prompts are conserved by the fetcher's training calls.

During a call every prompt that had not been delivered is among the payloads, in
the buffer, in the batch being sorted or still to be drawn; the quotas count what
was handed out.  Each way a prompt can move keeps this ledger.
-/

namespace CosmosRl.Dispatcher

open CosmosRl.Foundation List

variable {config : Config}

structure MeshSizes (rolloutSize policySize : Nat) (fetcher : ControllerDataFetcher) :
    Prop where
  rollout : fetcher.rolloutGlobalMeshSize = some rolloutSize
  policy : fetcher.policyGlobalMeshSize = some policySize
  rollout_pos : 0 < rolloutSize
  policy_pos : 0 < policySize

theorem moduloMeshSize_of_pos {size : Nat} (positive : 0 < size) (idx : Nat) :
    moduloMeshSize (some size) idx = .ok (idx % size) := by
  cases size with
  | zero => omega
  | succ size => rfl

theorem acceptsPrompt_cases {rolloutSize policySize : Nat} {fetcher : ControllerDataFetcher}
    (meshes : MeshSizes rolloutSize policySize fetcher) (rank : Nat)
    (weightVersion : Option Nat) (idx : Nat) :
    ∃ accepted, acceptsPrompt config rank weightVersion idx fetcher = .ok accepted ∧
      (accepted = true → idx % rolloutSize = rank ∧ ∀ version, weightVersion = some version →
        fetcher.fetchedForPolicy version (idx % policySize) <
          promptBatchPerReplica config) := by
  unfold acceptsPrompt
  rw [meshes.rollout, meshes.policy, moduloMeshSize_of_pos meshes.rollout_pos]
  by_cases same : idx % rolloutSize = rank
  · cases weightVersion with
    | none => exact ⟨true, by simp [same], fun _ => ⟨same, by simp⟩⟩
    | some version =>
      refine ⟨_, by simp only [same, if_true]; rw [moduloMeshSize_of_pos meshes.policy_pos]; rfl,
        fun fits => ⟨same, ?_⟩⟩
      rintro _ ⟨⟩
      simpa using fits
  · exact ⟨false, by simp [same], by simp⟩

variable {fetcher : ControllerDataFetcher}

theorem fetchedForPolicy_countForPolicy {version : Nat}
    (prepared : (fetcher.dataFetchedForEachPolicyAtStep.get? version).isSome) (rank : Nat)
    (other otherRank : Nat) :
    (fetcher.countForPolicy version rank).fetchedForPolicy other otherRank =
      fetcher.fetchedForPolicy other otherRank +
        if other = version ∧ otherRank = rank then 1 else 0 := by
  obtain ⟨counts, stored⟩ := Option.isSome_iff_exists.mp prepared
  by_cases sameVersion : other = version
  · subst sameVersion
    by_cases sameRank : otherRank = rank
    · subst sameRank
      simp [ControllerDataFetcher.fetchedForPolicy, ControllerDataFetcher.countForPolicy,
        Dict.get?_modify, Dict.get?_set, stored]
    · simp [ControllerDataFetcher.fetchedForPolicy, ControllerDataFetcher.countForPolicy,
        Dict.get?_modify, Dict.get?_set, stored, sameRank]
  · simp [ControllerDataFetcher.fetchedForPolicy, ControllerDataFetcher.countForPolicy,
      Dict.get?_modify, sameVersion]

theorem countPrompt_upcoming (weightVersion : Option Nat) (idx : Nat)
    (fetcher : ControllerDataFetcher) :
    upcomingBatches config (countPrompt weightVersion idx fetcher) =
      upcomingBatches config fetcher := by
  cases weightVersion <;> rfl

theorem countPrompt_meshes {rolloutSize policySize : Nat}
    (meshes : MeshSizes rolloutSize policySize fetcher) (weightVersion : Option Nat)
    (idx : Nat) : MeshSizes rolloutSize policySize (countPrompt weightVersion idx fetcher) := by
  cases weightVersion <;> exact ⟨meshes.rollout, meshes.policy, meshes.rollout_pos,
    meshes.policy_pos⟩

def countForRank (policySize rank : Nat) (idxs : List Nat) : Nat :=
  idxs.countP fun idx => idx % policySize = rank

structure CallLedger (config : Config) (rolloutSize policySize n rank : Nat)
    (weightVersion : Option Nat) (before : ControllerDataFetcher) (inFlight : List Nat)
    (fetched : Fetched) : Prop where
  conserved : (fetched.payloads ++ (fetched.buffer ++
      (inFlight ++ undrawnPrompts config fetched.fetcher))).Perm
    (before.fetchedDataBuffer ++ undrawnPrompts config before)
  ranked : ∀ idx ∈ fetched.payloads, idx % rolloutSize = rank
  few : fetched.payloads.length ≤ n
  counted : ∀ version policyRank, fetched.fetcher.fetchedForPolicy version policyRank =
    before.fetchedForPolicy version policyRank +
      if weightVersion = some version then
        countForRank policySize policyRank fetched.payloads
      else 0
  quota : ∀ version policyRank, fetched.fetcher.fetchedForPolicy version policyRank ≤
    promptBatchPerReplica config
  prepared : ∀ version, weightVersion = some version →
    (fetched.fetcher.dataFetchedForEachPolicyAtStep.get? version).isSome
  meshes : MeshSizes rolloutSize policySize fetched.fetcher
  within : IteratorWithin config fetched.fetcher

namespace CallLedger

variable {rolloutSize policySize n rank : Nat} {weightVersion : Option Nat}
  {before : ControllerDataFetcher} {inFlight : List Nat} {fetched : Fetched}

/-- A prompt that fits goes from the buffer or the batch to the payloads. -/
theorem accept
    (ledger : CallLedger config rolloutSize policySize n rank weightVersion before inFlight
      fetched) {idx : Nat} {buffer rest : List Nat}
    (moved : (idx :: (buffer ++ rest)).Perm (fetched.buffer ++ inFlight))
    (fits : idx % rolloutSize = rank ∧ ∀ version, weightVersion = some version →
      fetched.fetcher.fetchedForPolicy version (idx % policySize) <
        promptBatchPerReplica config) (room : fetched.payloads.length < n) :
    CallLedger config rolloutSize policySize n rank weightVersion before rest
      { payloads := fetched.payloads ++ [idx]
        buffer := buffer
        fetcher := countPrompt weightVersion idx fetched.fetcher } := by
  have counting : ∀ version policyRank,
      (countPrompt weightVersion idx fetched.fetcher).fetchedForPolicy version policyRank =
        fetched.fetcher.fetchedForPolicy version policyRank +
          if weightVersion = some version ∧ policyRank = idx % policySize then 1 else 0 := by
    intro version policyRank
    cases isVersion : weightVersion with
    | none => simp [countPrompt]
    | some own =>
      rw [countPrompt, ledger.meshes.policy, Option.getD_some,
        fetchedForPolicy_countForPolicy (ledger.prepared own isVersion)]
      simp [eq_comm]
  refine ⟨?_, ?_, ?_, ?_, ?_, ?_, countPrompt_meshes ledger.meshes weightVersion idx, ?_⟩
  · refine .trans ?_ ledger.conserved
    rw [undrawnPrompts, countPrompt_upcoming, ← undrawnPrompts, append_assoc]
    refine List.Perm.append_left _ ?_
    have whole := moved.append_right (undrawnPrompts config fetched.fetcher)
    simpa [append_assoc] using whole
  · intro other member
    rcases mem_append.mp member with earlier | new
    · exact ledger.ranked other earlier
    · rw [mem_singleton.mp new]
      exact fits.1
  · rw [length_append, length_singleton]
    omega
  · intro version policyRank
    rw [counting, ledger.counted]
    by_cases own : weightVersion = some version
    · by_cases same : policyRank = idx % policySize
      · simp [own, same, countForRank, Nat.add_assoc]
      · simp [own, same, countForRank, Ne.symm same]
    · simp [own]
  · intro version policyRank
    rw [counting]
    split_ifs with own
    · rw [own.2]
      exact fits.2 version own.1
    · exact ledger.quota version policyRank
  · intro version own
    have stored := ledger.prepared version own
    subst own
    simp [countPrompt, ControllerDataFetcher.countForPolicy, Dict.get?_modify, stored]
  · cases weightVersion <;> exact ledger.within

theorem postpone {buffer rest : List Nat}
    (ledger : CallLedger config rolloutSize policySize n rank weightVersion before inFlight
      fetched) (moved : (buffer ++ rest).Perm (fetched.buffer ++ inFlight)) :
    CallLedger config rolloutSize policySize n rank weightVersion before rest
      { fetched with buffer := buffer } where
  conserved := by
    refine .trans (List.Perm.append_left _ ?_) ledger.conserved
    have whole := moved.append_right (undrawnPrompts config fetched.fetcher)
    simpa [append_assoc] using whole
  ranked := ledger.ranked
  few := ledger.few
  counted := ledger.counted
  quota := ledger.quota
  prepared := ledger.prepared
  meshes := ledger.meshes
  within := ledger.within

/-- A drawn batch is in flight, and the end of the data changes nothing. -/
theorem draw {idxs : List Nat} {next : ControllerDataFetcher}
    (ledger : CallLedger config rolloutSize policySize n rank weightVersion before [] fetched)
    (upcoming : undrawnPrompts config fetched.fetcher = idxs ++ undrawnPrompts config next)
    (within : IteratorWithin config next) (draws : DrawsOnly fetched.fetcher next) :
    CallLedger config rolloutSize policySize n rank weightVersion before idxs
      { fetched with fetcher := next } := by
  have same : ∀ version policyRank, next.fetchedForPolicy version policyRank =
      fetched.fetcher.fetchedForPolicy version policyRank := by
    intro version policyRank
    simp [ControllerDataFetcher.fetchedForPolicy, draws.counts]
  exact {
    conserved := by
      have conserved := ledger.conserved
      rw [upcoming] at conserved
      exact conserved
    ranked := ledger.ranked
    few := ledger.few
    counted := fun version policyRank => (same _ _).trans (ledger.counted _ _)
    quota := fun version policyRank => (same _ _).le.trans (ledger.quota _ _)
    prepared := fun version own => by
      rw [draws.counts]
      exact ledger.prepared version own
    meshes := ⟨draws.rolloutMesh.trans ledger.meshes.rollout,
      draws.policyMesh.trans ledger.meshes.policy, ledger.meshes.rollout_pos,
      ledger.meshes.policy_pos⟩
    within := within }

theorem findAccepted_cases
    (meshes : MeshSizes rolloutSize policySize fetched.fetcher) (buffer : List Nat) :
    ∃ found, findAccepted config rank weightVersion fetched.fetcher buffer = .ok found ∧
      ∀ position, found = some position → ∃ inside : position < buffer.length,
        buffer[position] % rolloutSize = rank ∧ ∀ version, weightVersion = some version →
          fetched.fetcher.fetchedForPolicy version (buffer[position] % policySize) <
            promptBatchPerReplica config := by
  induction buffer with
  | nil => exact ⟨none, rfl, by simp⟩
  | cons idx rest ih =>
    obtain ⟨accepted, asked, fits⟩ :=
      @acceptsPrompt_cases config rolloutSize policySize _ meshes rank weightVersion idx
    cases accepted with
    | true =>
      refine ⟨some 0, by simp [findAccepted, asked], ?_⟩
      rintro _ ⟨⟩
      exact ⟨by simp, fits rfl⟩
    | false =>
      obtain ⟨found, later, isLater⟩ := ih
      refine ⟨found.map (· + 1), by simp [findAccepted, asked, later, Except.map], ?_⟩
      intro position isPosition
      obtain ⟨earlier, isFound, rfl⟩ := Option.map_eq_some_iff.mp isPosition
      obtain ⟨inside, fitsLater⟩ := isLater earlier isFound
      exact ⟨by simpa using inside, by simpa using fitsLater⟩

theorem takeFromBuffer
    (ledger : CallLedger config rolloutSize policySize n rank weightVersion before [] fetched)
    {missing : Nat} (room : fetched.payloads.length + missing ≤ n) :
    ∃ taken, Dispatcher.takeFromBuffer config rank weightVersion missing fetched =
        (.continued, taken) ∧
      CallLedger config rolloutSize policySize n rank weightVersion before [] taken := by
  induction missing generalizing fetched with
  | zero => exact ⟨fetched, rfl, ledger⟩
  | succ missing ih =>
    obtain ⟨found, search, isFound⟩ := @findAccepted_cases config rolloutSize policySize
      rank weightVersion fetched ledger.meshes fetched.buffer
    unfold Dispatcher.takeFromBuffer
    cases found with
    | none => exact ⟨fetched, by simp [search], ledger⟩
    | some position =>
      obtain ⟨inside, fits⟩ := isFound position rfl
      have item : fetched.buffer.getD position 0 = fetched.buffer[position] :=
        by simp [getD_eq_getElem?_getD, inside]
      have accepted := @accept config _ _ _ _ _ _ _ _ ledger fetched.buffer[position]
        (fetched.buffer.eraseIdx position) []
        (by simpa using getElem_cons_eraseIdx_perm inside) fits (by omega)
      simp only [search, item]
      exact ih accepted (by
        simp only [length_append, length_singleton]
        omega)

theorem distributeBatch {idxs : List Nat}
    (ledger : CallLedger config rolloutSize policySize n rank weightVersion before idxs
      fetched) :
    ∃ sorted, Dispatcher.distributeBatch config n rank weightVersion idxs fetched =
        (.continued, sorted) ∧
      CallLedger config rolloutSize policySize n rank weightVersion before [] sorted := by
  induction idxs generalizing fetched with
  | nil => exact ⟨fetched, rfl, ledger⟩
  | cons idx rest ih =>
    obtain ⟨accepted, asked, fits⟩ := @acceptsPrompt_cases config rolloutSize policySize _
      ledger.meshes rank weightVersion idx
    unfold Dispatcher.distributeBatch
    simp only [asked]
    by_cases taken : (accepted && decide (fetched.payloads.length < n)) = true
    · rw [Bool.and_eq_true, decide_eq_true_eq] at taken
      have next := @accept config _ _ _ _ _ _ _ _ ledger idx fetched.buffer rest
        perm_middle.symm (fits taken.1) taken.2
      simp only [taken, decide_true, Bool.and_self, if_true]
      exact ih next
    · have next := @postpone config _ _ _ _ _ _ _ _ (fetched.buffer ++ [idx]) rest ledger (by simp)
      simp only [taken]
      exact ih next

theorem fetchRounds (loads : LoadsEpochs config) (rounds : Nat)
    (ledger : CallLedger config rolloutSize policySize n rank weightVersion before []
      fetched) :
    ∃ ended next, Dispatcher.fetchRounds config n none (some rank) weightVersion rounds
        fetched = (ended, next) ∧ (∀ exn, ended ≠ .raised exn) ∧
      (ended = .finished → undrawnPrompts config next.fetcher = []) ∧
      CallLedger config rolloutSize policySize n rank weightVersion before [] next := by
  induction rounds generalizing fetched with
  | zero => exact ⟨.continued, fetched, rfl, by simp, by simp, ledger⟩
  | succ rounds ih =>
    unfold Dispatcher.fetchRounds
    rcases nextTrainBatch_cases loads ledger.within with
      ⟨idxs, next, drawn, upcoming, within, draws⟩ |
      ⟨next, drawn, noneLeft, noneNext, within, draws⟩
    · have flying := @draw config _ _ _ _ _ _ _ idxs next ledger
        (by simp [undrawnPrompts, upcoming]) within draws
      obtain ⟨sorted, sorting, ledgerSorted⟩ := flying.distributeBatch
      simp only [nextBatch, drawn, acceptBatch, sorting]
      exact ih ledgerSorted
    · have flying := @draw config _ _ _ _ _ _ _ [] next ledger
        (by simp [undrawnPrompts, noneLeft, noneNext]) within draws
      simp only [nextBatch, drawn]
      exact ⟨.finished, _, rfl, by simp, fun _ => by simp [undrawnPrompts, noneNext], flying⟩

/-- So does the outer loop. -/
theorem fetchLoop (loads : LoadsEpochs config)
    (ledger : CallLedger config rolloutSize policySize n rank weightVersion before []
      fetched) :
    ∃ ended next, Dispatcher.fetchLoop config n none (some rank) weightVersion fetched =
        (ended, next) ∧ (∀ exn, ended ≠ .raised exn) ∧
      (ended = .finished → undrawnPrompts config next.fetcher = []) ∧
      CallLedger config rolloutSize policySize n rank weightVersion before [] next := by
  induction fetched using Dispatcher.fetchLoop.induct config n none (some rank)
    weightVersion with
  | case1 fetched missing next continued ih =>
    obtain ⟨ended, last, running, raises, finished, ledgerLast⟩ :=
      ledger.fetchRounds loads (fetchRoundsFor config n none)
    rw [continued, Prod.mk.injEq] at running
    obtain ⟨rfl, rfl⟩ := running
    have later := ih ledgerLast
    unfold Dispatcher.fetchLoop
    rw [dif_pos missing]
    split
    · rename_i other isOther
      rw [continued, Prod.mk.injEq] at isOther
      rw [← isOther.2]
      exact later
    · rename_i other isOther
      exact absurd continued (isOther next)
  | case2 fetched missing isOther =>
    obtain ⟨ended, last, running, raises, finished, ledgerLast⟩ :=
      ledger.fetchRounds loads (fetchRoundsFor config n none)
    unfold Dispatcher.fetchLoop
    rw [dif_pos missing]
    split
    · rename_i next continued
      exact absurd continued (isOther next)
    · exact ⟨ended, last, running, raises, finished, ledgerLast⟩
  | case3 fetched enough =>
    unfold Dispatcher.fetchLoop
    rw [dif_neg enough]
    exact ⟨.continued, fetched, rfl, by simp, by simp, ledger⟩

end CallLedger

structure FetcherSound (config : Config) (rolloutSize policySize : Nat)
    (fetcher : ControllerDataFetcher) : Prop where
  quota : ∀ version policyRank, fetcher.fetchedForPolicy version policyRank ≤
    promptBatchPerReplica config
  meshes : MeshSizes rolloutSize policySize fetcher
  within : IteratorWithin config fetcher

theorem prepareVersion_get? (weightVersion : Option Nat) (fetcher : ControllerDataFetcher) :
    (∀ version, weightVersion = some version →
      ((prepareVersion weightVersion fetcher).dataFetchedForEachPolicyAtStep.get?
        version).isSome) ∧
    ∀ version policyRank, (prepareVersion weightVersion fetcher).fetchedForPolicy version
      policyRank = fetcher.fetchedForPolicy version policyRank := by
  cases weightVersion with
  | none => exact ⟨by simp, fun _ _ => rfl⟩
  | some own =>
    by_cases present : own ∈ fetcher.dataFetchedForEachPolicyAtStep.keys
    · simp only [prepareVersion, present, if_true]
      refine ⟨?_, fun _ _ => trivial⟩
      rintro _ ⟨⟩
      obtain ⟨counts, stored⟩ := Dict.mem_keys_iff_get?.mp present
      simp [stored]
    · simp only [prepareVersion, present, if_false]
      refine ⟨?_, fun version policyRank => ?_⟩
      · rintro _ ⟨⟩
        simp [Dict.get?_set]
      · have absent := Dict.get?_eq_none_iff.mpr present
        by_cases same : version = own
        · subst same
          simp [ControllerDataFetcher.fetchedForPolicy, Dict.get?_set, absent]
        · simp [ControllerDataFetcher.fetchedForPolicy, Dict.get?_set, same]

/-- A call with rank-specific dispatch: it always returns, and the ledger says what. -/
theorem fetcherGetBatchedPrompt_byRank (loads : LoadsEpochs config)
    (byRank : config.dataDispatchAsRankInMesh = true) {rolloutSize policySize : Nat}
    (sound : FetcherSound config rolloutSize policySize fetcher)
    (n rank : Nat) (weightVersion : Option Nat) :
    ∃ payloads isEnd next,
      fetcherGetBatchedPrompt config n none (some rank) weightVersion fetcher =
        (.ok (payloads, isEnd), next) ∧
      (payloads ++ (next.fetchedDataBuffer ++ undrawnPrompts config next)).Perm
        (fetcher.fetchedDataBuffer ++ undrawnPrompts config fetcher) ∧
      (∀ idx ∈ payloads, idx % rolloutSize = rank) ∧ payloads.length ≤ n ∧
      (∀ version policyRank, next.fetchedForPolicy version policyRank =
        fetcher.fetchedForPolicy version policyRank +
          if weightVersion = some version then countForRank policySize policyRank payloads
          else 0) ∧
      (isEnd = true → next.fetchedDataBuffer = [] ∧ undrawnPrompts config next = []) ∧
      FetcherSound config rolloutSize policySize next := by
  obtain ⟨prepared, isPrepared⟩ : ∃ prepared,
    prepared = prepareVersion weightVersion fetcher := ⟨_, rfl⟩
  have draws : DrawsOnly fetcher { prepared with
      dataFetchedForEachPolicyAtStep := fetcher.dataFetchedForEachPolicyAtStep } ∧
      prepared.trainDataloaderIter = fetcher.trainDataloaderIter ∧
      prepared.epoch = fetcher.epoch := by
    rw [isPrepared]
    cases weightVersion with
    | none => exact ⟨⟨rfl, rfl, rfl, rfl⟩, rfl, rfl⟩
    | some version =>
      simp only [prepareVersion]
      split <;> exact ⟨⟨rfl, rfl, rfl, rfl⟩, rfl, rfl⟩
  obtain ⟨⟨sameBuffer, _, sameRollout, samePolicy⟩, sameIter, sameEpoch⟩ := draws
  simp only at sameBuffer sameRollout samePolicy
  obtain ⟨ready, sameCounts⟩ := prepareVersion_get? weightVersion fetcher
  rw [← isPrepared] at ready sameCounts
  have start : CallLedger config rolloutSize policySize n rank weightVersion fetcher []
      ⟨[], prepared.fetchedDataBuffer, prepared⟩ := by
    refine ⟨?_, by simp, by simp, ?_, ?_, ready, ⟨sameRollout.trans sound.meshes.rollout,
      samePolicy.trans sound.meshes.policy, sound.meshes.rollout_pos,
      sound.meshes.policy_pos⟩, ?_⟩
    · simp [undrawnPrompts, upcomingBatches, sameBuffer, sameIter, sameEpoch]
    · intro version policyRank
      rw [sameCounts]
      simp [countForRank]
    · intro version policyRank
      rw [sameCounts]
      exact sound.quota version policyRank
    · simpa [IteratorWithin, sameIter] using sound.within
  obtain ⟨taken, taking, ledgerTaken⟩ :=
    @CallLedger.takeFromBuffer config _ _ _ _ _ _ _ start n (by simp)
  obtain ⟨ended, last, looping, raises, finished, ledger⟩ := ledgerTaken.fetchLoop loads
  refine ⟨last.payloads, decide (ended = .finished) && last.buffer.isEmpty,
    { last.fetcher with fetchedDataBuffer := last.buffer }, ?_, ?_, ledger.ranked,
    ledger.few, ?_, ?_, ?_⟩
  · unfold fetcherGetBatchedPrompt
    simp only [Option.map_none, reduceCtorEq, if_false, Option.isSome_none,
      Bool.false_eq_true, ← isPrepared, fetchPayloads, byRank, if_true,
      ControllerDataFetcher.dataBuffer, taking, looping, Bool.not_true, Bool.or_false]
    cases ended with
    | raised exn => exact absurd rfl (raises exn)
    | continued => rfl
    | finished => rfl
  · exact ledger.conserved
  · exact ledger.counted
  · intro isEnd
    simp only [Bool.and_eq_true, decide_eq_true_eq, List.isEmpty_iff] at isEnd
    exact ⟨isEnd.2, finished isEnd.1⟩
  · exact ⟨ledger.quota, ⟨ledger.meshes.rollout, ledger.meshes.policy,
      ledger.meshes.rollout_pos, ledger.meshes.policy_pos⟩, ledger.within⟩

def deliveredFor (policySize version policyRank : Nat) (run : FetcherRun) : Nat :=
  (run.returned.map fun answer =>
    if answer.call.weightVersion = some version then
      countForRank policySize policyRank answer.payloads
    else 0).sum

/-- Prompt conservation: of the prompts there were at the start each is delivered by
one call, in the buffer or not yet drawn; no call returns more than it asked for;
rank-specific dispatch respects ranks and quotas; and the end is only reported when
nothing is left. -/
structure PromptsConserved (config : Config) (rolloutSize policySize : Nat)
    (start : ControllerDataFetcher) (run : FetcherRun) : Prop where
  conserved : (run.delivered ++
    (run.fetcher.fetchedDataBuffer ++ undrawnPrompts config run.fetcher)).Perm
      (start.fetchedDataBuffer ++ undrawnPrompts config start)
  atMost : ∀ answer ∈ run.returned, answer.payloads.length ≤ answer.call.n
  ranked : config.dataDispatchAsRankInMesh = true → ∀ answer ∈ run.returned,
    ∀ idx ∈ answer.payloads, answer.call.rankInMesh = some (idx % rolloutSize)
  quota : config.dataDispatchAsRankInMesh = true → ∀ version policyRank,
    deliveredFor policySize version policyRank run ≤ promptBatchPerReplica config
  ended : ∀ answer ∈ run.returned, answer.isEnd = true →
    run.fetcher.fetchedDataBuffer = [] ∧ undrawnPrompts config run.fetcher = []

/-- The condition on a call: it is dispatched by rank, or the batches it draws do not
hold more prompts than it asks for. -/
def DrawsWithinRequest (config : Config) (run : FetcherRun) (call : PromptCall) : Prop :=
  config.dataDispatchAsRankInMesh = true ∨
    ((upcomingBatches config run.fetcher).take
      (fetchRoundsFor config call.n none)).flatten.length ≤ call.n

instance (config : Config) (run : FetcherRun) (call : PromptCall) :
    Decidable (DrawsWithinRequest config run call) :=
  inferInstanceAs (Decidable (_ ∨ _))

structure FreshFetcher (config : Config) (rolloutSize policySize : Nat)
    (start : ControllerDataFetcher) : Prop where
  emptyBuffer : start.fetchedDataBuffer = []
  nothingCounted : start.dataFetchedForEachPolicyAtStep = ∅
  meshes : MeshSizes rolloutSize policySize start
  within : IteratorWithin config start

structure FetcherRunSound (config : Config) (rolloutSize policySize : Nat)
    (start : ControllerDataFetcher) (run : FetcherRun) : Prop
    extends PromptsConserved config rolloutSize policySize start run where
  within : IteratorWithin config run.fetcher
  sound : config.dataDispatchAsRankInMesh = true →
    FetcherSound config rolloutSize policySize run.fetcher
  counted : config.dataDispatchAsRankInMesh = true → ∀ version policyRank,
    run.fetcher.fetchedForPolicy version policyRank =
      deliveredFor policySize version policyRank run
  unbuffered : config.dataDispatchAsRankInMesh = false → run.fetcher.fetchedDataBuffer = []

section Runs

variable {rolloutSize policySize : Nat} {start : ControllerDataFetcher} {run : FetcherRun}

theorem FreshFetcher.runSound (fresh : FreshFetcher config rolloutSize policySize start) :
    FetcherRunSound config rolloutSize policySize start ⟨start, []⟩ := by
  have nothing : ∀ version policyRank, start.fetchedForPolicy version policyRank = 0 := by
    simp [ControllerDataFetcher.fetchedForPolicy, fresh.nothingCounted]
  exact {
    conserved := .refl _
    atMost := by simp
    ranked := by simp
    quota := by simp [deliveredFor]
    ended := by simp
    within := fresh.within
    sound := fun _ => ⟨by simp [nothing], fresh.meshes, fresh.within⟩
    counted := by simp [nothing, deliveredFor]
    unbuffered := fun _ => fresh.emptyBuffer }

variable {call : PromptCall} {next : ControllerDataFetcher} {payloads : List Nat}

theorem conserved_of_returned {isEnd : Bool}
    (conserved : (run.delivered ++
      (run.fetcher.fetchedDataBuffer ++ undrawnPrompts config run.fetcher)).Perm
        (start.fetchedDataBuffer ++ undrawnPrompts config start))
    (handedOut : (payloads ++ (next.fetchedDataBuffer ++ undrawnPrompts config next)).Perm
      (run.fetcher.fetchedDataBuffer ++ undrawnPrompts config run.fetcher)) :
    (FetcherRun.delivered ⟨next, run.returned ++ [⟨call, payloads, isEnd⟩]⟩ ++
      (next.fetchedDataBuffer ++ undrawnPrompts config next)).Perm
        (start.fetchedDataBuffer ++ undrawnPrompts config start) := by
  rw [delivered_append, append_assoc]
  exact (handedOut.append_left _).trans conserved

theorem ended_of_returned
    (handedOut : (payloads ++ (next.fetchedDataBuffer ++ undrawnPrompts config next)).Perm
      (run.fetcher.fetchedDataBuffer ++ undrawnPrompts config run.fetcher))
    (allDrawn : run.fetcher.fetchedDataBuffer = [] ∧ undrawnPrompts config run.fetcher = []) :
    next.fetchedDataBuffer = [] ∧ undrawnPrompts config next = [] := by
  rw [allDrawn.1, allDrawn.2, append_nil, perm_nil] at handedOut
  simp only [append_eq_nil_iff] at handedOut
  exact handedOut.2

/-- A call by rank keeps the invariant. -/
theorem FetcherRunSound.byRank (loads : LoadsEpochs config)
    (byRank : config.dataDispatchAsRankInMesh = true)
    (sound : FetcherRunSound config rolloutSize policySize start run)
    (allowed : call.rankInMesh.isSome = true) :
    FetcherRunSound config rolloutSize policySize start
      ((fetcherSystem config).handle run call) := by
  obtain ⟨rank, isRank⟩ := Option.isSome_iff_exists.mp allowed
  obtain ⟨payloads, isEnd, next, returned, handedOut, ranked, few, counted, ended, nextSound⟩ :=
    fetcherGetBatchedPrompt_byRank loads byRank (sound.sound byRank) call.n rank call.weightVersion
  have handled : (fetcherSystem config).handle run call =
      ⟨next, run.returned ++ [⟨call, payloads, isEnd⟩]⟩ := by
    simp [fetcherSystem, isRank, returned]
  have delivered : ∀ version policyRank,
      deliveredFor policySize version policyRank
          ⟨next, run.returned ++ [⟨call, payloads, isEnd⟩]⟩ =
        next.fetchedForPolicy version policyRank := by
    intro version policyRank
    rw [counted, sound.counted byRank]
    simp [deliveredFor]
  rw [handled]
  exact {
    conserved := conserved_of_returned sound.conserved handedOut
    atMost := forall_mem_append.mpr ⟨sound.atMost, forall_mem_singleton.mpr few⟩
    ranked := by
      intro _ answer member
      rcases mem_append.mp member with earlier | new
      · exact sound.ranked byRank answer earlier
      · rw [mem_singleton.mp new]
        intro idx inPayloads
        rw [ranked idx inPayloads]
        exact isRank
    quota := fun _ version policyRank =>
      (delivered version policyRank).le.trans (nextSound.quota version policyRank)
    ended := by
      intro answer member isEnded
      rcases mem_append.mp member with earlier | new
      · exact ended_of_returned handedOut (sound.ended answer earlier isEnded)
      · rw [mem_singleton.mp new] at isEnded
        exact ended isEnded
    within := nextSound.within
    sound := fun _ => nextSound
    counted := fun _ version policyRank => (delivered version policyRank).symm
    unbuffered := by simp [byRank] }

theorem handle_inOrder (loads : LoadsEpochs config)
    (notByRank : config.dataDispatchAsRankInMesh = false)
    (within : IteratorWithin config run.fetcher) (call : PromptCall) :
    ∃ next, (fetcherSystem config).handle run call = ⟨next, run.returned ++ [⟨call,
          ((upcomingBatches config run.fetcher).take
            (fetchRoundsFor config call.n none)).flatten,
          decide ((upcomingBatches config run.fetcher).length <
            fetchRoundsFor config call.n none)⟩]⟩ ∧
      upcomingBatches config next =
        (upcomingBatches config run.fetcher).drop (fetchRoundsFor config call.n none) ∧
      next.fetchedDataBuffer = run.fetcher.fetchedDataBuffer ∧
      IteratorWithin config next := by
  obtain ⟨next, returned, rest⟩ := fetcherGetBatchedPrompt_inOrder loads notByRank call.n
    call.rankInMesh call.weightVersion within
  exact ⟨next, by simp [fetcherSystem, returned], rest⟩

theorem FetcherRunSound.inOrder (loads : LoadsEpochs config)
    (notByRank : config.dataDispatchAsRankInMesh = false)
    (sound : FetcherRunSound config rolloutSize policySize start run)
    (condition : DrawsWithinRequest config run call) :
    FetcherRunSound config rolloutSize policySize start
      ((fetcherSystem config).handle run call) := by
  obtain ⟨next, handled, upcoming, buffer, within⟩ :=
    handle_inOrder loads notByRank sound.within call
  have few := condition.resolve_left (by simp [notByRank])
  have handedOut : (((upcomingBatches config run.fetcher).take
      (fetchRoundsFor config call.n none)).flatten ++
        (next.fetchedDataBuffer ++ undrawnPrompts config next)).Perm
      (run.fetcher.fetchedDataBuffer ++ undrawnPrompts config run.fetcher) := by
    rw [buffer, sound.unbuffered notByRank, undrawnPrompts, undrawnPrompts, upcoming,
      nil_append, nil_append, ← flatten_append, take_append_drop]
  rw [handled]
  exact {
    conserved := conserved_of_returned sound.conserved handedOut
    atMost := forall_mem_append.mpr ⟨sound.atMost, forall_mem_singleton.mpr few⟩
    ranked := by simp [notByRank]
    quota := by simp [notByRank]
    ended := by
      intro answer member isEnded
      rcases mem_append.mp member with earlier | new
      · exact ended_of_returned handedOut (sound.ended answer earlier isEnded)
      · rw [mem_singleton.mp new, decide_eq_true_eq] at isEnded
        refine ⟨buffer.trans (sound.unbuffered notByRank), ?_⟩
        rw [undrawnPrompts, upcoming, drop_eq_nil_of_le isEnded.le, flatten_nil]
    within := within
    sound := by simp [notByRank]
    counted := by simp [notByRank]
    unbuffered := fun _ => buffer.trans (sound.unbuffered notByRank) }

/-- A run of training calls conserves the prompts exactly when every call is
dispatched by rank or draws no more prompts than it asks for. -/
theorem promptsConserved_iff (loads : LoadsEpochs config)
    (fresh : FreshFetcher config rolloutSize policySize start) {calls : List PromptCall}
    (isRun : (fetcherSystem config).IsRun ⟨start, []⟩ calls) :
    (fetcherSystem config).Throughout
        (PromptsConserved config rolloutSize policySize start) ⟨start, []⟩ calls ↔
      (fetcherSystem config).StepsMeet (DrawsWithinRequest config) ⟨start, []⟩ calls := by
  refine EventSystem.throughout_iff_stepsMeet
    (fun _ sound => FetcherRunSound.toPromptsConserved sound) ?_ ?_ fresh.runSound isRun
  · intro run call sound allowed condition
    by_cases byRank : config.dataDispatchAsRankInMesh = true
    · exact sound.byRank loads byRank (allowed byRank)
    · exact sound.inOrder loads (by simpa using byRank) condition
  · intro run call sound _ bad conserved
    obtain ⟨notByRank, tooMany⟩ := not_or.mp bad
    obtain ⟨next, handled, _⟩ := handle_inOrder loads (by simpa using notByRank) sound.within call
    rw [handled] at conserved
    exact tooMany (conserved.atMost ⟨call, _, _⟩
      (mem_append_right _ (mem_singleton_self _)))

end Runs

def twoEpochs : Config :=
  { Config.small 4
      { trainDataloader := fun _ => [[0, 1], [2, 3]]
        valDataloader := []
        valDatasize := 0 } with
    epoch := 2
    rolloutBatchSize := 2
    rolloutBatch_pos := Nat.two_pos }

/-- The fetcher of `twoEpochs` before its first call, for two replicas of each kind. -/
def twoEpochsFetcher : ControllerDataFetcher :=
  { trainDataloaderIter := [[0, 1], [2, 3]]
    rolloutGlobalMeshSize := some 2
    policyGlobalMeshSize := some 2 }

theorem twoEpochs_loads : LoadsEpochs twoEpochs :=
  ⟨by simp [twoEpochs, Config.small], by simp [twoEpochs, Config.small]⟩

theorem twoEpochsFetcher_fresh : FreshFetcher twoEpochs 2 2 twoEpochsFetcher :=
  ⟨rfl, rfl, ⟨rfl, rfl, by decide, by decide⟩,
    by simp [IteratorWithin, twoEpochsFetcher, twoEpochs, Config.small]⟩

/-- Requests of a whole number of batches conserve the prompts. -/
theorem promptsConserved_wholeBatches :
    (fetcherSystem twoEpochs).Throughout (PromptsConserved twoEpochs 2 2 twoEpochsFetcher)
      ⟨twoEpochsFetcher, []⟩ [⟨2, none, none⟩, ⟨4, none, none⟩, ⟨4, none, none⟩] :=
  (promptsConserved_iff twoEpochs_loads twoEpochsFetcher_fresh (by decide)).mpr (by decide)

/-- A request for three prompts is answered with four. -/
theorem not_promptsConserved_threePrompts :
    ¬ (fetcherSystem twoEpochs).Throughout (PromptsConserved twoEpochs 2 2 twoEpochsFetcher)
      ⟨twoEpochsFetcher, []⟩ [⟨3, none, none⟩] := by
  intro throughout
  have few := throughout.finish.atMost ⟨⟨3, none, none⟩, [0, 1, 2, 3], false⟩ (by decide)
  simp at few

end CosmosRl.Dispatcher
