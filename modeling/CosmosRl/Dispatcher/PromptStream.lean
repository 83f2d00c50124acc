import CosmosRl.Dispatcher.ControllerDataFetcher
import CosmosRl.Foundation.Run

/-!
The stream of prompts that training calls draw from.

The batches a fetcher can still draw are those of the running iterator followed by
those of the later epochs.  A draw takes the first of them; without rank-specific
dispatch a call hands out whole batches in this order.
-/

namespace CosmosRl.Dispatcher

open CosmosRl.Foundation

variable (config : Config)

/-- What a dataloader over a dataset that is not empty delivers: in every epoch at
least one batch, and no batch over the batch size. -/
structure LoadsEpochs : Prop where
  begins : ∀ epoch, 1 ≤ epoch → epoch ≤ config.epoch →
    config.dataset.trainDataloader epoch ≠ []
  withinBatch : ∀ epoch, ∀ batch ∈ config.dataset.trainDataloader epoch,
    batch.length ≤ config.rolloutBatchSize

def upcomingBatches (fetcher : ControllerDataFetcher) : List (List Nat) :=
  fetcher.trainDataloaderIter ++
    (List.range' (fetcher.epoch + 1) (config.epoch - fetcher.epoch)).flatMap
      config.dataset.trainDataloader

def undrawnPrompts (fetcher : ControllerDataFetcher) : List Nat :=
  (upcomingBatches config fetcher).flatten

def IteratorWithin (fetcher : ControllerDataFetcher) : Prop :=
  ∀ batch ∈ fetcher.trainDataloaderIter, batch.length ≤ config.rolloutBatchSize

structure DrawsOnly (before after : ControllerDataFetcher) : Prop where
  buffer : after.fetchedDataBuffer = before.fetchedDataBuffer
  counts : after.dataFetchedForEachPolicyAtStep = before.dataFetchedForEachPolicyAtStep
  rolloutMesh : after.rolloutGlobalMeshSize = before.rolloutGlobalMeshSize
  policyMesh : after.policyGlobalMeshSize = before.policyGlobalMeshSize

theorem DrawsOnly.refl (fetcher : ControllerDataFetcher) : DrawsOnly fetcher fetcher :=
  ⟨rfl, rfl, rfl, rfl⟩

theorem DrawsOnly.trans {first second third : ControllerDataFetcher}
    (left : DrawsOnly first second) (right : DrawsOnly second third) :
    DrawsOnly first third :=
  ⟨right.buffer.trans left.buffer, right.counts.trans left.counts,
    right.rolloutMesh.trans left.rolloutMesh, right.policyMesh.trans left.policyMesh⟩

variable {config}

variable {fetcher : ControllerDataFetcher}

/-- Drawing takes the first upcoming batch, and only at the end of the last epoch
there is none. -/
theorem nextTrainBatch_cases (loads : LoadsEpochs config) (within : IteratorWithin config fetcher) :
    (∃ idxs next, nextTrainBatch config fetcher = (.batch idxs, next) ∧
        upcomingBatches config fetcher = idxs :: upcomingBatches config next ∧
        IteratorWithin config next ∧ DrawsOnly fetcher next) ∨
      ∃ next, nextTrainBatch config fetcher = (.finished, next) ∧
        upcomingBatches config fetcher = [] ∧ upcomingBatches config next = [] ∧
        IteratorWithin config next ∧ DrawsOnly fetcher next := by
  cases remaining : fetcher.trainDataloaderIter with
  | cons idxs rest =>
    left
    have small := within idxs (by simp [remaining])
    refine ⟨idxs, { fetcher with trainDataloaderIter := rest }, ?_, ?_, ?_, ⟨rfl, rfl, rfl, rfl⟩⟩
    · simp [nextTrainBatch, remaining, checkedBatch, small]
    · simp [upcomingBatches, remaining]
    · intro batch member
      exact within batch (by simp [remaining, List.mem_cons_of_mem _ member])
  | nil =>
    by_cases more : fetcher.epoch + 1 ≤ config.epoch
    · left
      obtain ⟨idxs, rest, loaded⟩ := List.exists_cons_of_ne_nil
        (loads.begins (fetcher.epoch + 1) (by omega) more)
      have small := loads.withinBatch (fetcher.epoch + 1) idxs (by simp [loaded])
      refine ⟨idxs, { fetcher with
        epoch := fetcher.epoch + 1, trainDataloaderIter := rest }, ?_, ?_, ?_,
        ⟨rfl, rfl, rfl, rfl⟩⟩
      · simp [nextTrainBatch, remaining, more, loaded, checkedBatch, small]
      · have unroll : config.epoch - fetcher.epoch =
            (config.epoch - (fetcher.epoch + 1)) + 1 := by omega
        simp [upcomingBatches, remaining, unroll, List.range'_succ, loaded]
      · intro batch member
        exact loads.withinBatch (fetcher.epoch + 1) batch
          (by simp [loaded, List.mem_cons_of_mem _ member])
    · right
      have last : config.epoch - fetcher.epoch = 0 := by omega
      have epochsOver : config.epoch - (fetcher.epoch + 1) = 0 := by omega
      refine ⟨{ fetcher with epoch := fetcher.epoch + 1 }, ?_, ?_, ?_, ?_, ⟨rfl, rfl, rfl, rfl⟩⟩
      · simp [nextTrainBatch, remaining, more]
      · simp [upcomingBatches, remaining, last]
      · simp [upcomingBatches, remaining, epochsOver]
      · simp [IteratorWithin, remaining]

/-- Without rank-specific dispatch the inner loop hands out the next batches, and
meets the end of the data when there are too few. -/
theorem fetchRounds_inOrder (loads : LoadsEpochs config) (n : Nat)
    (weightVersion : Option Nat) (rounds : Nat) {fetched : Fetched}
    (within : IteratorWithin config fetched.fetcher) :
    ∃ next, fetchRounds config n none none weightVersion rounds fetched =
        (if (upcomingBatches config fetched.fetcher).length < rounds then .finished
          else .continued, next) ∧
      next.payloads = fetched.payloads ++
        ((upcomingBatches config fetched.fetcher).take rounds).flatten ∧
      next.buffer = fetched.buffer ∧
      upcomingBatches config next.fetcher =
        (upcomingBatches config fetched.fetcher).drop rounds ∧
      IteratorWithin config next.fetcher ∧ DrawsOnly fetched.fetcher next.fetcher := by
  induction rounds generalizing fetched with
  | zero => exact ⟨fetched, by simp [fetchRounds], by simp, rfl, by simp, within, .refl _⟩
  | succ rounds ih =>
    unfold fetchRounds
    rcases nextTrainBatch_cases loads within with
      ⟨idxs, next, drawn, upcoming, nextWithin, draws⟩ |
      ⟨next, drawn, noneLeft, noneNext, nextWithin, draws⟩
    · obtain ⟨last, fetching, payloads, buffer, rest, lastWithin, drawsMore⟩ :=
        @ih
          { fetched with payloads := fetched.payloads ++ idxs, fetcher := next } nextWithin
      refine ⟨last, ?_, ?_, buffer, ?_, lastWithin, draws.trans drawsMore⟩
      · simp only [nextBatch, drawn, acceptBatch, fetching, upcoming, List.length_cons,
          Nat.add_lt_add_iff_right]
      · rw [payloads, upcoming]
        simp
      · rw [rest, upcoming]
        simp
    · refine ⟨{ fetched with fetcher := next }, ?_, ?_, rfl, ?_, nextWithin, draws⟩
      · simp [nextBatch, drawn, noneLeft]
      · simp [noneLeft]
      · simp [noneLeft, noneNext]

/-- A training call without rank-specific dispatch hands out the next batches whole. -/
theorem fetcherGetBatchedPrompt_inOrder (loads : LoadsEpochs config)
    (byRank : config.dataDispatchAsRankInMesh = false) (n : Nat)
    (rankInMesh weightVersion : Option Nat) (within : IteratorWithin config fetcher) :
    ∃ next, fetcherGetBatchedPrompt config n none rankInMesh weightVersion fetcher =
        (.ok (((upcomingBatches config fetcher).take (fetchRoundsFor config n none)).flatten,
          decide ((upcomingBatches config fetcher).length < fetchRoundsFor config n none)),
          next) ∧
      upcomingBatches config next =
        (upcomingBatches config fetcher).drop (fetchRoundsFor config n none) ∧
      next.fetchedDataBuffer = fetcher.fetchedDataBuffer ∧ IteratorWithin config next := by
  obtain ⟨prepared, isPrepared⟩ : ∃ prepared,
    prepared = prepareVersion weightVersion fetcher := ⟨_, rfl⟩
  have same : prepared.trainDataloaderIter = fetcher.trainDataloaderIter ∧
      prepared.epoch = fetcher.epoch ∧
      prepared.fetchedDataBuffer = fetcher.fetchedDataBuffer := by
    rw [isPrepared]
    cases weightVersion with
    | none => exact ⟨rfl, rfl, rfl⟩
    | some version =>
      simp only [prepareVersion]
      split <;> exact ⟨rfl, rfl, rfl⟩
  have sameUpcoming : upcomingBatches config prepared = upcomingBatches config fetcher := by
    simp [upcomingBatches, same.1, same.2.1]
  have preparedWithin : IteratorWithin config prepared := by
    simpa [IteratorWithin, same.1] using within
  unfold fetcherGetBatchedPrompt
  simp only [Option.map_none, reduceCtorEq, if_false, Option.isSome_none, Bool.false_eq_true,
    ← isPrepared, fetchPayloads, byRank]
  by_cases zero : n = 0
  · have noRounds : fetchRoundsFor config n none = 0 := by
      have positive := config.rolloutBatch_pos
      simp only [fetchRoundsFor, Option.isSome_none, Bool.false_eq_true, if_false, zero,
        Nat.zero_add]
      exact Nat.div_eq_of_lt (by omega)
    refine ⟨prepared, ?_, ?_, same.2.2, preparedWithin⟩
    · rw [noRounds]
      simp [zero, ControllerDataFetcher.dataBuffer, ControllerDataFetcher.setDataBuffer]
    · simp [noRounds, sameUpcoming]
  · obtain ⟨next, fetching, payloads, buffer, rest, nextWithin, draws⟩ :=
      @fetchRounds_inOrder config loads n weightVersion (fetchRoundsFor config n none)
        ⟨[], prepared.dataBuffer none, prepared⟩ preparedWithin
    refine ⟨next.fetcher.setDataBuffer none next.buffer, ?_, ?_, ?_, nextWithin⟩
    · simp only [List.nil_append, sameUpcoming] at payloads
      by_cases few : (upcomingBatches config fetcher).length < fetchRoundsFor config n none
      · simp [zero, fetching, sameUpcoming, few, payloads]
      · simp [zero, fetching, sameUpcoming, few, payloads]
    · rw [← sameUpcoming]
      exact rest
    · rw [← same.2.2]
      exact buffer

structure PromptCall where
  n : Nat
  rankInMesh : Option Nat := none
  weightVersion : Option Nat := none
  deriving DecidableEq, Repr

structure ReturnedCall where
  call : PromptCall
  payloads : List Nat
  isEnd : Bool
  deriving DecidableEq, Repr

structure FetcherRun where
  fetcher : ControllerDataFetcher
  returned : List ReturnedCall := []

def FetcherRun.delivered (run : FetcherRun) : List Nat :=
  run.returned.flatMap fun answer => answer.payloads

variable (config) in
def fetcherSystem : EventSystem FetcherRun PromptCall where
  handle run call :=
    match fetcherGetBatchedPrompt config call.n none call.rankInMesh call.weightVersion
        run.fetcher with
    | (.ok (payloads, isEnd), fetcher) =>
      ⟨fetcher, run.returned ++ [⟨call, payloads, isEnd⟩]⟩
    | (.error _, fetcher) => { run with fetcher := fetcher }
  Allowed _ call := config.dataDispatchAsRankInMesh = true → call.rankInMesh.isSome = true

instance (run : FetcherRun) (call : PromptCall) :
    Decidable ((fetcherSystem config).Allowed run call) :=
  inferInstanceAs (Decidable (config.dataDispatchAsRankInMesh = true → _ = true))

@[simp]
theorem delivered_append (fetcher : ControllerDataFetcher) (returned : List ReturnedCall)
    (answer : ReturnedCall) :
    FetcherRun.delivered ⟨fetcher, returned ++ [answer]⟩ =
      FetcherRun.delivered ⟨fetcher, returned⟩ ++ answer.payloads := by
  simp [FetcherRun.delivered]

end CosmosRl.Dispatcher
