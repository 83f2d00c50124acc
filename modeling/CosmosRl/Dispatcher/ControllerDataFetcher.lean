import CosmosRl.Dispatcher.State

/-!
`ControllerDataFetcher.get_batched_prompt`: handing out prompt indices from the
dataloaders, with a buffer for the prompts of other ranks when data is
dispatched by rank.
-/

namespace CosmosRl.Dispatcher

open CosmosRl.Foundation

variable (config : Config)

inductive NextBatch where
  | batch (idxs : List Nat)
  | finished
  | raised (exn : PyError)
  deriving DecidableEq, Repr

/-- `_next_payload` checks that a batch is not larger than the batch size. -/
def checkedBatch (batchSize : Nat) (idxs : List Nat) : NextBatch :=
  if idxs.length ≤ batchSize then .batch idxs else .raised (.assertionError "")

def nextTrainBatch (fetcher : ControllerDataFetcher) :
    NextBatch × ControllerDataFetcher :=
  match fetcher.trainDataloaderIter with
  | idxs :: rest =>
    (checkedBatch config.rolloutBatchSize idxs,
      { fetcher with trainDataloaderIter := rest })
  | [] =>
    let epoch := fetcher.epoch + 1
    if epoch ≤ config.epoch then
      match config.dataset.trainDataloader epoch with
      | [] => (.raised .stopIteration,
          { fetcher with epoch := epoch, trainDataloaderIter := [] })
      | idxs :: rest =>
        (checkedBatch config.rolloutBatchSize idxs,
          { fetcher with epoch := epoch, trainDataloaderIter := rest })
    else (.finished, { fetcher with epoch := epoch })

def nextValBatch (validationStep : Nat) (fetcher : ControllerDataFetcher) :
    NextBatch × ControllerDataFetcher :=
  match fetcher.valIters.get? validationStep with
  | none => (.raised .keyError, fetcher)
  | some [] => (.finished, fetcher)
  | some (idxs :: rest) =>
    (checkedBatch config.valBatchSize idxs,
      { fetcher with valIters := fetcher.valIters.set validationStep rest })

def nextBatch : Option Nat → ControllerDataFetcher → NextBatch × ControllerDataFetcher
  | none => nextTrainBatch config
  | some validationStep => nextValBatch config validationStep

namespace ControllerDataFetcher

def dataBuffer (validationStep : Option Nat) (fetcher : ControllerDataFetcher) :
    List Nat :=
  match validationStep with
  | none => fetcher.fetchedDataBuffer
  | some _ => fetcher.fetchedDataBufferForValidation

def setDataBuffer (validationStep : Option Nat) (buffer : List Nat)
    (fetcher : ControllerDataFetcher) : ControllerDataFetcher :=
  match validationStep with
  | none => { fetcher with fetchedDataBuffer := buffer }
  | some _ => { fetcher with fetchedDataBufferForValidation := buffer }

/-- `data_fetched_for_each_policy_at_step[weight_version].get(rank, 0)`. -/
def fetchedForPolicy (weightVersion rank : Nat) (fetcher : ControllerDataFetcher) : Nat :=
  (((fetcher.dataFetchedForEachPolicyAtStep.get? weightVersion).getD ∅).get? rank).getD 0

def countForPolicy (weightVersion rank : Nat) (fetcher : ControllerDataFetcher) :
    ControllerDataFetcher :=
  { fetcher with
    dataFetchedForEachPolicyAtStep :=
      fetcher.dataFetchedForEachPolicyAtStep.modify weightVersion fun counts =>
        counts.set rank (fetcher.fetchedForPolicy weightVersion rank + 1) }

end ControllerDataFetcher

def promptBatchPerReplica : Nat :=
  (config.trainBatchPerReplica + config.nGeneration - 1) / config.nGeneration

def moduloMeshSize (meshSize : Option Nat) (idx : Nat) : Except PyError Nat :=
  match meshSize with
  | none => .error .attributeError
  | some 0 => .error .zeroDivisionError
  | some size => .ok (idx % size)

def acceptsPrompt (rankInMesh : Nat) (weightVersion : Option Nat) (idx : Nat)
    (fetcher : ControllerDataFetcher) : Except PyError Bool :=
  match moduloMeshSize fetcher.rolloutGlobalMeshSize idx with
  | .error exn => .error exn
  | .ok rank =>
    if rank = rankInMesh then
      match weightVersion with
      | none => .ok true
      | some version =>
        (moduloMeshSize fetcher.policyGlobalMeshSize idx).map fun policyRank =>
          decide (fetcher.fetchedForPolicy version policyRank <
            promptBatchPerReplica config)
    else .ok false

def countPrompt (weightVersion : Option Nat) (idx : Nat)
    (fetcher : ControllerDataFetcher) : ControllerDataFetcher :=
  match weightVersion with
  | none => fetcher
  | some version => fetcher.countForPolicy version
      (idx % fetcher.policyGlobalMeshSize.getD 0)

structure Fetched where
  payloads : List Nat
  buffer : List Nat
  fetcher : ControllerDataFetcher

inductive FetchEnd where
  | continued
  | finished
  | raised (exn : PyError)
  deriving DecidableEq, Repr

def findAccepted (rankInMesh : Nat) (weightVersion : Option Nat)
    (fetcher : ControllerDataFetcher) : List Nat → Except PyError (Option Nat)
  | [] => .ok none
  | idx :: rest =>
    match acceptsPrompt config rankInMesh weightVersion idx fetcher with
    | .error exn => .error exn
    | .ok true => .ok (some 0)
    | .ok false =>
      (findAccepted rankInMesh weightVersion fetcher rest).map fun found =>
        found.map (· + 1)

/-- Fill the payloads from the buffer, at most `missing` more. -/
def takeFromBuffer (rankInMesh : Nat) (weightVersion : Option Nat) :
    Nat → Fetched → FetchEnd × Fetched
  | 0, fetched => (.continued, fetched)
  | missing + 1, fetched =>
    match findAccepted config rankInMesh weightVersion fetched.fetcher
        fetched.buffer with
    | .error exn => (.raised exn, fetched)
    | .ok none => (.continued, fetched)
    | .ok (some position) =>
      takeFromBuffer rankInMesh weightVersion missing
        { payloads := fetched.payloads ++ [fetched.buffer.getD position 0]
          buffer := fetched.buffer.eraseIdx position
          fetcher := countPrompt weightVersion (fetched.buffer.getD position 0)
            fetched.fetcher }

def distributeBatch (n rankInMesh : Nat) (weightVersion : Option Nat) :
    List Nat → Fetched → FetchEnd × Fetched
  | [], fetched => (.continued, fetched)
  | idx :: rest, fetched =>
    match acceptsPrompt config rankInMesh weightVersion idx fetched.fetcher with
    | .error exn => (.raised exn, fetched)
    | .ok accepted =>
      if accepted && decide (fetched.payloads.length < n) then
        distributeBatch n rankInMesh weightVersion rest
          { fetched with
            payloads := fetched.payloads ++ [idx]
            fetcher := countPrompt weightVersion idx fetched.fetcher }
      else
        distributeBatch n rankInMesh weightVersion rest
          { fetched with buffer := fetched.buffer ++ [idx] }

def acceptBatch (n : Nat) (rankInMesh : Option Nat) (weightVersion : Option Nat)
    (idxs : List Nat) (fetched : Fetched) : FetchEnd × Fetched :=
  match rankInMesh with
  | none => (.continued, { fetched with payloads := fetched.payloads ++ idxs })
  | some rank => distributeBatch config n rank weightVersion idxs fetched

/-- The inner loop: `rounds` batches, fewer at the end of the data. -/
def fetchRounds (n : Nat) (validationStep rankInMesh weightVersion : Option Nat) :
    Nat → Fetched → FetchEnd × Fetched
  | 0, fetched => (.continued, fetched)
  | rounds + 1, fetched =>
    match nextBatch config validationStep fetched.fetcher with
    | (.raised exn, fetcher) => (.raised exn, { fetched with fetcher := fetcher })
    | (.finished, fetcher) => (.finished, { fetched with fetcher := fetcher })
    | (.batch idxs, fetcher) =>
      match acceptBatch config n rankInMesh weightVersion idxs
          { fetched with fetcher := fetcher } with
      | (.continued, accepted) =>
        fetchRounds n validationStep rankInMesh weightVersion rounds accepted
      | ended => ended

def fetchRoundsFor (n : Nat) (validationStep : Option Nat) : Nat :=
  let batchSize :=
    if validationStep.isSome then config.valBatchSize else config.rolloutBatchSize
  (n + batchSize - 1) / batchSize

def batchesLeft (validationStep : Option Nat) (fetcher : ControllerDataFetcher) : Nat :=
  match validationStep with
  | none => fetcher.trainDataloaderIter.length +
      ((List.range' (fetcher.epoch + 1) (config.epoch - fetcher.epoch)).map fun epoch =>
        (config.dataset.trainDataloader epoch).length).sum
  | some step => ((fetcher.valIters.get? step).getD []).length

theorem nextBatch_batchesLeft {validationStep : Option Nat}
    {fetcher next : ControllerDataFetcher} {idxs : List Nat}
    (drawn : nextBatch config validationStep fetcher = (.batch idxs, next)) :
    batchesLeft config validationStep next < batchesLeft config validationStep fetcher := by
  cases validationStep with
  | some step =>
    simp only [nextBatch, nextValBatch] at drawn
    cases found : fetcher.valIters.get? step with
    | none => simp [found] at drawn
    | some batches =>
      cases batches with
      | nil => simp [found] at drawn
      | cons first rest =>
        simp only [found, Prod.mk.injEq] at drawn
        rw [← drawn.2]
        simp [batchesLeft, found, Dict.get?_set]
  | none =>
    simp only [nextBatch, nextTrainBatch] at drawn
    cases remaining : fetcher.trainDataloaderIter with
    | cons first rest =>
      simp only [remaining, Prod.mk.injEq] at drawn
      rw [← drawn.2]
      simp [batchesLeft, remaining]
    | nil =>
      by_cases more : fetcher.epoch + 1 ≤ config.epoch
      · cases loaded : config.dataset.trainDataloader (fetcher.epoch + 1) with
        | nil => simp [remaining, more, loaded] at drawn
        | cons first rest =>
          simp only [remaining, more, loaded, if_true, Prod.mk.injEq] at drawn
          rw [← drawn.2]
          have unroll : config.epoch - fetcher.epoch =
              (config.epoch - (fetcher.epoch + 1)) + 1 := by omega
          simp only [batchesLeft, remaining, List.length_nil, unroll, List.range'_succ,
            List.map_cons, List.sum_cons, loaded, List.length_cons]
          omega
      · simp [remaining, more] at drawn

def SameIterators (first second : ControllerDataFetcher) : Prop :=
  first.trainDataloaderIter = second.trainDataloaderIter ∧
    first.epoch = second.epoch ∧ first.valIters = second.valIters

theorem SameIterators.batchesLeft {first second : ControllerDataFetcher}
    (same : SameIterators first second) (validationStep : Option Nat) :
    batchesLeft config validationStep first =
      batchesLeft config validationStep second := by
  obtain ⟨iterators, epochs, valIters⟩ := same
  cases validationStep <;>
    simp [CosmosRl.Dispatcher.batchesLeft, iterators, epochs, valIters]

theorem countPrompt_sameIterators (weightVersion : Option Nat) (idx : Nat)
    (fetcher : ControllerDataFetcher) :
    SameIterators (countPrompt weightVersion idx fetcher) fetcher := by
  cases weightVersion with
  | none => exact ⟨rfl, rfl, rfl⟩
  | some version => exact ⟨rfl, rfl, rfl⟩

theorem SameIterators.trans {first second third : ControllerDataFetcher}
    (left : SameIterators first second) (right : SameIterators second third) :
    SameIterators first third :=
  ⟨left.1.trans right.1, left.2.1.trans right.2.1, left.2.2.trans right.2.2⟩

theorem distributeBatch_sameIterators (n rankInMesh : Nat)
    (weightVersion : Option Nat) (idxs : List Nat) (fetched : Fetched) :
    SameIterators
      (distributeBatch config n rankInMesh weightVersion idxs fetched).2.fetcher
      fetched.fetcher := by
  induction idxs generalizing fetched with
  | nil => exact ⟨rfl, rfl, rfl⟩
  | cons idx rest ih =>
    unfold distributeBatch
    cases acceptsPrompt config rankInMesh weightVersion idx fetched.fetcher with
    | error exn => exact ⟨rfl, rfl, rfl⟩
    | ok accepted =>
      by_cases taken : (accepted && decide (fetched.payloads.length < n)) = true
      · simp only [taken, if_true]
        exact (ih _).trans (countPrompt_sameIterators weightVersion idx fetched.fetcher)
      · simp only [taken]
        exact ih _

theorem acceptBatch_sameIterators (n : Nat) (rankInMesh weightVersion : Option Nat)
    (idxs : List Nat) (fetched : Fetched) :
    SameIterators
      (acceptBatch config n rankInMesh weightVersion idxs fetched).2.fetcher
      fetched.fetcher := by
  cases rankInMesh with
  | none => exact ⟨rfl, rfl, rfl⟩
  | some rank => exact distributeBatch_sameIterators config n rank weightVersion idxs fetched

theorem fetchRounds_batchesLeft (n : Nat)
    (validationStep rankInMesh weightVersion : Option Nat) (rounds : Nat) {fetched next : Fetched}
    (continued : fetchRounds config n validationStep rankInMesh weightVersion rounds
      fetched = (.continued, next)) :
    batchesLeft config validationStep next.fetcher + rounds ≤
      batchesLeft config validationStep fetched.fetcher := by
  induction rounds generalizing fetched with
  | zero =>
    simp only [fetchRounds, Prod.mk.injEq, true_and] at continued
    simp [continued]
  | succ rounds ih =>
    unfold fetchRounds at continued
    rcases drawn : nextBatch config validationStep fetched.fetcher with ⟨batch, fetcher⟩
    rw [drawn] at continued
    cases batch with
    | finished => simp at continued
    | raised exn => simp at continued
    | batch idxs =>
      rcases accepting : acceptBatch config n rankInMesh weightVersion idxs
        { fetched with fetcher := fetcher } with ⟨ended, accepted⟩
      simp only [accepting] at continued
      cases ended with
      | finished => simp at continued
      | raised exn => simp at continued
      | continued =>
        have later := ih continued
        have drop := nextBatch_batchesLeft config drawn
        have same := acceptBatch_sameIterators config n rankInMesh weightVersion
          idxs { fetched with fetcher := fetcher }
        rw [accepting] at same
        have equal := same.batchesLeft config validationStep
        simp only at equal
        omega

theorem fetchRoundsFor_pos {n : Nat} (validationStep : Option Nat) (positive : 0 < n) :
    0 < fetchRoundsFor config n validationStep := by
  unfold fetchRoundsFor
  have valBatch := config.valBatch_pos
  have rolloutBatch := config.rolloutBatch_pos
  cases validationStep with
  | none => exact Nat.div_pos (by simp; omega) (by simpa using rolloutBatch)
  | some step => exact Nat.div_pos (by simp; omega) (by simpa using valBatch)

def fetchLoop (n : Nat) (validationStep rankInMesh weightVersion : Option Nat)
    (fetched : Fetched) : FetchEnd × Fetched :=
  if _missing : fetched.payloads.length < n then
    match _continued : fetchRounds config n validationStep rankInMesh weightVersion
        (fetchRoundsFor config n validationStep) fetched with
    | (.continued, next) => fetchLoop n validationStep rankInMesh weightVersion next
    | ended => ended
  else (.continued, fetched)
termination_by batchesLeft config validationStep fetched.fetcher
decreasing_by
  have drawn := fetchRounds_batchesLeft config n validationStep rankInMesh
    weightVersion _ _continued
  have rounds := fetchRoundsFor_pos config validationStep (Nat.zero_lt_of_lt _missing)
  omega

def fetchPayloads (n : Nat) (validationStep rankInMesh weightVersion : Option Nat)
    (fetched : Fetched) : FetchEnd × Fetched :=
  if config.dataDispatchAsRankInMesh then
    match rankInMesh with
    | none => (.raised (.assertionError
        "rank_in_mesh should not be None when data_dispatch_as_rank_in_mesh is enabled"),
        fetched)
    | some rank =>
      match takeFromBuffer config rank weightVersion n fetched with
      | (.continued, taken) =>
        fetchLoop config n validationStep (some rank) weightVersion taken
      | ended => ended
  else if n = 0 then (.continued, fetched)
  else
    fetchRounds config n validationStep none weightVersion
      (fetchRoundsFor config n validationStep) fetched

/-- `data_fetched_for_each_policy_at_step.setdefault(weight_version, {})`. -/
def prepareVersion (weightVersion : Option Nat) (fetcher : ControllerDataFetcher) :
    ControllerDataFetcher :=
  match weightVersion with
  | none => fetcher
  | some version =>
    if version ∈ fetcher.dataFetchedForEachPolicyAtStep.keys then fetcher
    else { fetcher with
      dataFetchedForEachPolicyAtStep :=
        fetcher.dataFetchedForEachPolicyAtStep.set version ∅ }

/-- `ControllerDataFetcher.get_batched_prompt`: the prompt indices handed out and
whether the data has ended. -/
def fetcherGetBatchedPrompt (n : Nat)
    (validationStep rankInMesh weightVersion : Option Nat)
    (fetcher : ControllerDataFetcher) :
    Except PyError (List Nat × Bool) × ControllerDataFetcher :=
  let prepared := prepareVersion weightVersion fetcher
  if (validationStep.map fun step => decide (step ∈ prepared.valIters.keys)) =
      some false then
    (.error .keyError, prepared)
  else
    match fetchPayloads config n validationStep rankInMesh
        (if validationStep.isSome then none else weightVersion)
        ⟨[], prepared.dataBuffer validationStep, prepared⟩ with
    | (.raised exn, fetched) =>
      (.error exn, fetched.fetcher.setDataBuffer validationStep fetched.buffer)
    | (ended, fetched) =>
      (.ok (fetched.payloads,
          decide (ended = .finished) &&
            (fetched.buffer.isEmpty || !config.dataDispatchAsRankInMesh)),
        fetched.fetcher.setDataBuffer validationStep fetched.buffer)

end CosmosRl.Dispatcher
