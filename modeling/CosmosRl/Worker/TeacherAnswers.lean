import Mathlib.Algebra.Order.BigOperators.Group.Finset
import CosmosRl.Foundation.Completion
import CosmosRl.Worker.TeacherDispatch

/-!
A reference replica answers every request that is queued before an end marker.

As long as every end marker is met where the dispatch stays even, all ranks get the
same number of entries, every rollout reaches all ranks of one data-parallel index
once, and the marker reaches all ranks in the same iteration.  A marker at another
place makes the assertion on the lengths fail.
-/

namespace CosmosRl.Worker

open CosmosRl.Foundation List

universe u v

variable {Uuid : Type u} {Payload : Type v}

/-- A dispatch deals a batch to the indices, with a marker for every rank if it has met
one; the padding repeats entries of the dispatch. -/
def HandsOut (config : TeacherConfig) (scattered : ScatteredEntries Uuid Payload)
    (dispatched : List (TeacherRollout Uuid Payload) × Bool) : Prop :=
  ∃ (part : Nat → List (TeacherRollout Uuid Payload))
    (padding : Nat → List (QueueEntry Uuid Payload)),
    (∀ rank, rank < config.parallelDims.worldSize → scattered rank =
      (part (config.parallelDims.dpRank rank)).map QueueEntry.rollout ++
        endMarker dispatched.2 ++ padding rank) ∧
    (∀ rank, ∀ entry ∈ padding rank,
      entry ∈ dispatched.1.map QueueEntry.rollout ++ endMarker dispatched.2) ∧
    ((List.range config.parallelDims.dpWorldSize).flatMap part).Perm dispatched.1 ∧
    (∀ index, index < config.parallelDims.dpWorldSize →
      ∃ rank, rank < config.parallelDims.worldSize ∧ config.parallelDims.dpRank rank = index) ∧
    sameLengths config.parallelDims scattered

def entriesOf (dispatches : List (List (TeacherRollout Uuid Payload) × Bool)) :
    List (QueueEntry Uuid Payload) :=
  dispatches.flatMap fun dispatched =>
    dispatched.1.map QueueEntry.rollout ++ endMarker dispatched.2

def TeacherEvent.IsOwn : TeacherEvent Uuid Payload → Prop
  | .fetch _ => False
  | .dispatch | .answer _ | .leave _ => True

namespace TeacherState

def Answered (config : TeacherConfig) (state : TeacherState Uuid Payload) : Prop :=
  (∀ rollout ∈ beforeEnd state.queued, rollout.teacherResultUuid ∈ state.results) ∧
    (hasEnd state.queued = true →
      ∀ rank, rank < config.parallelDims.worldSize → (state.ranks rank).left = true)

/-- No assertion fails, the queue is handed out in order, all ranks leave in the same
iteration and not before the results are set, and the replica's own steps answer
everything unless an assertion fails. -/
structure AnswersAll (config : TeacherConfig) (state : TeacherState Uuid Payload) : Prop where
  asserted : state.failed = false
  handed : ∃ dispatches, List.Forall₂ (HandsOut config) state.scattered dispatches ∧
    state.queued = entriesOf dispatches ++ state.dataQueue
  together : ∀ one other, one < config.parallelDims.worldSize →
    other < config.parallelDims.worldSize → (state.ranks one).left = true →
      (state.ranks other).left = true →
        (state.ranks one).iteration = (state.ranks other).iteration
  answered : (∀ rank, rank < config.parallelDims.worldSize → (state.ranks rank).left = true) →
    ∀ rollout ∈ beforeEnd state.queued, rollout.teacherResultUuid ∈ state.results
  answers : (teacherSystem Uuid Payload config).Completes TeacherEvent.IsOwn
    (fun later => later.failed = true ∨ later.Answered config) state

def DispatchesEvenly (config : TeacherConfig) (state : TeacherState Uuid Payload) :
    TeacherEvent Uuid Payload → Prop
  | .dispatch => EndsEvenly config state.dataQueue
  | _ => True

instance (config : TeacherConfig) (state : TeacherState Uuid Payload) :
    (event : TeacherEvent Uuid Payload) → Decidable (state.DispatchesEvenly config event)
  | .dispatch => inferInstanceAs (Decidable (EndsEvenly _ _))
  | .fetch _ | .answer _ | .leave _ => inferInstanceAs (Decidable True)

end TeacherState

/-- The configurations the workers check or rely on: the data-parallel size divides the
batch size, the batch has room for a mini-batch of every index, and every index is that
of some rank. -/
structure TeacherConfig.WellFormed (config : TeacherConfig) : Prop where
  divides : config.divides
  fits : config.fits
  unfused : config.parallelDims.tpFusedWithDp = true → config.parallelDims.tp = 1

section Dispatch

variable {config : TeacherConfig}

theorem hasEnd_endMarker (ended : Bool) :
    hasEnd (endMarker ended : List (QueueEntry Uuid Payload)) = ended := by
  cases ended <;> rfl

theorem handsOut_scatterEntries (wellFormed : config.WellFormed)
    {queue : List (QueueEntry Uuid Payload)} (nonempty : queue ≠ [])
    (even : EndsEvenly config queue) :
    HandsOut config (scatterEntries config queue).1
      (dealtBatch config queue, dealtEnd config queue) := by
  obtain ⟨first, rest, head⟩ := exists_first wellFormed.fits nonempty
  refine ⟨deal config.parallelDims.dpWorldSize 0 (dealtBatch config queue),
    fun rank => paddingOf config first (dealtTo config.parallelDims 0 (dealtBatch config queue)
      (dealtEnd config queue) rank), ?_, ?_, ?_, ?_, ?_⟩
  · intro rank _
    exact scatterEntries_eq config queue head rank
  · intro rank entry member
    rw [eq_of_mem_replicate member]
    have present : first ∈ dealtTo config.parallelDims 0 (dealtBatch config queue)
        (dealtEnd config queue) 0 := by rw [head]; exact mem_cons_self
    rcases mem_append.mp present with dealt | marker
    · apply mem_append_left
      obtain ⟨rollout, member, isFirst⟩ := mem_map.mp dealt
      refine mem_map.mpr ⟨rollout, ?_, isFirst⟩
      have all := deal_perm config.parallelDims.dpWorldSize_pos 0 (dealtBatch config queue)
      rw [Nat.zero_mod] at all
      refine all.mem_iff.mp (mem_flatMap.mpr ⟨_, mem_range.mpr ?_, member⟩)
      rw [config.parallelDims.dpRank_zero]
      exact config.parallelDims.dpWorldSize_pos
    · exact mem_append_right _ marker
  · have all := deal_perm config.parallelDims.dpWorldSize_pos 0 (dealtBatch config queue)
    rwa [Nat.zero_mod] at all
  · intro index isIndex
    rw [config.parallelDims.dpWorldSize_eq wellFormed.unfused] at isIndex
    exact config.parallelDims.exists_rank isIndex
  · exact (sameLengths_iff wellFormed.unfused wellFormed.divides wellFormed.fits nonempty).mpr even

variable {scattered : ScatteredEntries Uuid Payload}
  {dispatched : List (TeacherRollout Uuid Payload) × Bool}

theorem HandsOut.hasEnd_iff (handsOut : HandsOut config scattered dispatched) {rank : Nat}
    (isRank : rank < config.parallelDims.worldSize) :
    hasEnd (scattered rank) = dispatched.2 := by
  obtain ⟨part, padding, lists, repeated, -, -, -⟩ := handsOut
  rw [lists rank isRank, hasEnd_append, hasEnd_append, hasEnd_map, hasEnd_endMarker, Bool.false_or]
  cases ended : dispatched.2 with
  | true => rfl
  | false =>
    rw [Bool.false_or]
    apply any_eq_false.mpr
    intro entry member
    have origin := repeated rank entry member
    rw [ended] at origin
    obtain ⟨rollout, -, isEntry⟩ := mem_map.mp (by simpa [endMarker] using origin)
    rw [← isEntry]
    exact Bool.false_ne_true

theorem HandsOut.exists_rank (handsOut : HandsOut config scattered dispatched)
    {rollout : TeacherRollout Uuid Payload} (member : rollout ∈ dispatched.1) :
    ∃ rank, rank < config.parallelDims.worldSize ∧ rollout ∈ rolloutsOf (scattered rank) := by
  obtain ⟨part, padding, lists, -, all, ranks, -⟩ := handsOut
  obtain ⟨index, isIndex, inPart⟩ := mem_flatMap.mp (all.mem_iff.mpr member)
  obtain ⟨rank, isRank, hasIndex⟩ := ranks index (mem_range.mp isIndex)
  refine ⟨rank, isRank, ?_⟩
  rw [lists rank isRank, rolloutsOf_append, rolloutsOf_append, rolloutsOf_map, hasIndex]
  exact mem_append_left _ (mem_append_left _ inPart)

end Dispatch

structure Answering (config : TeacherConfig) (state : TeacherState Uuid Payload)
    (dispatches : List (List (TeacherRollout Uuid Payload) × Bool)) : Prop where
  asserted : state.failed = false
  handed : List.Forall₂ (HandsOut config) state.scattered dispatches
  queued : state.queued = entriesOf dispatches ++ state.dataQueue
  ends : ∀ n dispatched, dispatches[n]? = some dispatched → dispatched.2 = true →
    n + 1 = dispatches.length
  iteration : ∀ rank, rank < config.parallelDims.worldSize →
    (state.ranks rank).iteration ≤ state.scattered.length
  endEvent : ∀ rank, rank < config.parallelDims.worldSize →
    ((state.ranks rank).endEvent = true ↔ ∃ n dispatched,
      n < (state.ranks rank).iteration ∧ dispatches[n]? = some dispatched ∧ dispatched.2 = true)
  left : ∀ rank, rank < config.parallelDims.worldSize →
    (state.ranks rank).left = true → (state.ranks rank).endEvent = true
  results : ∀ rank, rank < config.parallelDims.worldSize → ∀ n scattered,
    n < (state.ranks rank).iteration → state.scattered[n]? = some scattered →
      ∀ rollout ∈ rolloutsOf (scattered rank), rollout.teacherResultUuid ∈ state.results

section Entries

variable {dispatches : List (List (TeacherRollout Uuid Payload) × Bool)}

theorem mem_beforeEnd_entriesOf {rest : List (QueueEntry Uuid Payload)}
    (covered : (∃ dispatched ∈ dispatches, dispatched.2 = true) ∨ rest = [])
    {rollout : TeacherRollout Uuid Payload}
    (member : rollout ∈ beforeEnd (entriesOf dispatches ++ rest)) :
    ∃ dispatched ∈ dispatches, rollout ∈ dispatched.1 := by
  induction dispatches with
  | nil =>
    rcases covered with ⟨dispatched, absent, -⟩ | empty
    · cases absent
    · rw [empty] at member
      cases member
  | cons dispatched later ih =>
    rw [entriesOf, flatMap_cons, append_assoc, append_assoc, beforeEnd_map_append] at member
    rcases mem_append.mp member with here | after
    · exact ⟨dispatched, mem_cons_self, here⟩
    · cases ended : dispatched.2 with
      | true =>
        rw [ended] at after
        cases after
      | false =>
        rw [ended] at after
        have stillCovered : (∃ other ∈ later, other.2 = true) ∨ rest = [] := by
          rcases covered with ⟨other, known, hasEnded⟩ | empty
          · rcases mem_cons.mp known with same | isLater
            · rw [same, ended] at hasEnded
              cases hasEnded
            · exact .inl ⟨other, isLater, hasEnded⟩
          · exact .inr empty
        obtain ⟨other, known, inOther⟩ := ih stillCovered after
        exact ⟨other, mem_cons_of_mem _ known, inOther⟩

theorem hasEnd_entriesOf (ended : hasEnd (entriesOf dispatches) = true) :
    ∃ dispatched ∈ dispatches, dispatched.2 = true := by
  induction dispatches with
  | nil => cases ended
  | cons dispatched later ih =>
    rw [entriesOf, flatMap_cons, hasEnd_append, hasEnd_append, hasEnd_map,
      hasEnd_endMarker, Bool.false_or, Bool.or_eq_true] at ended
    rcases ended with here | after
    · exact ⟨dispatched, mem_cons_self, here⟩
    · obtain ⟨other, known, hasEnded⟩ := ih after
      exact ⟨other, mem_cons_of_mem _ known, hasEnded⟩

end Entries

section Facts

variable {config : TeacherConfig} {state : TeacherState Uuid Payload}
  {dispatches : List (List (TeacherRollout Uuid Payload) × Bool)}

section

variable (answering : Answering config state dispatches)

include answering

theorem Answering.length_eq : state.scattered.length = dispatches.length :=
  answering.handed.length_eq

theorem Answering.finished {rank : Nat}
    (isRank : rank < config.parallelDims.worldSize) (ended : (state.ranks rank).endEvent = true) :
    (state.ranks rank).iteration = state.scattered.length ∧
      ∃ dispatched ∈ dispatches, dispatched.2 = true := by
  obtain ⟨n, dispatched, before, known, hasEnded⟩ := (answering.endEvent rank isRank).mp ended
  have last := answering.ends n dispatched known hasEnded
  have bounded := answering.iteration rank isRank
  rw [answering.length_eq] at bounded ⊢
  exact ⟨by omega, dispatched, mem_of_getElem? known, hasEnded⟩

theorem Answering.endEvent_of_finished {rank : Nat} (isRank : rank < config.parallelDims.worldSize)
    (finished : (state.ranks rank).iteration = state.scattered.length)
    (ended : ∃ dispatched ∈ dispatches, dispatched.2 = true) :
    (state.ranks rank).endEvent = true := by
  obtain ⟨dispatched, member, hasEnded⟩ := ended
  obtain ⟨n, known⟩ := mem_iff_getElem?.mp member
  refine (answering.endEvent rank isRank).mpr ⟨n, dispatched, ?_, known, hasEnded⟩
  rw [finished, answering.length_eq]
  exact (List.getElem?_eq_some_iff.mp known).1

theorem Answering.results_of_finished
    (finished : ∀ rank, rank < config.parallelDims.worldSize →
      (state.ranks rank).iteration = state.scattered.length)
    {dispatched : List (TeacherRollout Uuid Payload) × Bool} (member : dispatched ∈ dispatches)
    {rollout : TeacherRollout Uuid Payload} (inBatch : rollout ∈ dispatched.1) :
    rollout.teacherResultUuid ∈ state.results := by
  obtain ⟨n, known⟩ := mem_iff_getElem?.mp member
  obtain ⟨below, isDispatched⟩ := List.getElem?_eq_some_iff.mp known
  have inScattered : n < state.scattered.length := by rwa [answering.length_eq]
  have handsOut := answering.handed.get inScattered below
  rw [get_eq_getElem, get_eq_getElem] at handsOut
  rw [isDispatched] at handsOut
  obtain ⟨rank, isRank, received⟩ := handsOut.exists_rank inBatch
  exact answering.results rank isRank n _ (by rw [finished rank isRank]; exact inScattered)
    (getElem?_eq_getElem inScattered) rollout received

/-- Where no own step is left, everything is answered. -/
theorem Answering.answered_of_stuck
    (stuck : ∀ event, TeacherEvent.IsOwn event → ¬ state.Allowed config event) :
    state.Answered config := by
  have finished : ∀ rank, rank < config.parallelDims.worldSize →
      (state.ranks rank).iteration = state.scattered.length := by
    intro rank isRank
    cases ended : (state.ranks rank).endEvent with
    | true => exact (answering.finished isRank ended).1
    | false =>
      by_contra unfinished
      have bounded := answering.iteration rank isRank
      exact stuck (.answer rank) trivial ⟨isRank, ended, by omega⟩
  have isRank : 0 < config.parallelDims.worldSize := by
    obtain ⟨replicate, shard, cp, tp, pp⟩ := config.parallelDims.positive
    exact Nat.mul_pos (Nat.mul_pos pp (Nat.mul_pos replicate shard)) (Nat.mul_pos cp tp)
  by_cases ended : ∃ dispatched ∈ dispatches, dispatched.2 = true
  · refine ⟨?_, ?_⟩
    · intro rollout member
      rw [answering.queued] at member
      obtain ⟨dispatched, known, inBatch⟩ := mem_beforeEnd_entriesOf (.inl ended) member
      exact answering.results_of_finished finished known inBatch
    · intro _ rank isRank
      have event := answering.endEvent_of_finished isRank (finished rank isRank) ended
      by_contra stays
      exact stuck (.leave rank) trivial ⟨isRank, event, by simpa using stays⟩
  · have quiet : (state.ranks 0).endEvent = false := by
      cases event : (state.ranks 0).endEvent with
      | false => rfl
      | true => exact absurd (answering.finished isRank event).2 ended
    have empty : state.dataQueue = [] := by
      by_contra nonempty
      exact stuck .dispatch trivial ⟨answering.asserted, quiet, finished 0 isRank, nonempty⟩
    refine ⟨?_, ?_⟩
    · intro rollout member
      rw [answering.queued] at member
      obtain ⟨dispatched, known, inBatch⟩ := mem_beforeEnd_entriesOf (.inr empty) member
      exact answering.results_of_finished finished known inBatch
    · intro hasEnded
      rw [answering.queued, empty, append_nil] at hasEnded
      exact absurd (hasEnd_entriesOf hasEnded) ended

end

end Facts

section Steps

variable {config : TeacherConfig} {state : TeacherState Uuid Payload}
  {dispatches : List (List (TeacherRollout Uuid Payload) × Bool)}

theorem Answering.initial (config : TeacherConfig) :
    Answering config (TeacherState.initial : TeacherState Uuid Payload) [] := by
  refine ⟨rfl, .nil, rfl, by simp, fun _ _ => Nat.le_refl 0, ?_, ?_, ?_⟩
  · intro rank _
    simp [TeacherState.initial]
  · intro rank _ left
    cases left
  · intro rank _ n scattered before
    exact absurd before (Nat.not_lt_zero n)

section

variable (answering : Answering config state dispatches)

include answering

theorem Answering.fetch (requests : List (TeacherRequest Uuid Payload)) :
    Answering config (state.fetch requests) dispatches := by
  refine ⟨answering.asserted, answering.handed, ?_, answering.ends, answering.iteration,
    answering.endEvent, answering.left, answering.results⟩
  rw [TeacherState.fetch]
  dsimp only
  rw [answering.queued, append_assoc]

/-- An even dispatch adds one dispatch that takes the front of the queue. -/
theorem Answering.dispatch
    (wellFormed : config.WellFormed) (quiet : (state.ranks 0).endEvent = false)
    (caughtUp : (state.ranks 0).iteration = state.scattered.length)
    (nonempty : state.dataQueue ≠ []) (isRank : 0 < config.parallelDims.worldSize)
    (even : EndsEvenly config state.dataQueue) :
    Answering config (state.dispatch config)
      (dispatches ++ [(dealtBatch config state.dataQueue, dealtEnd config state.dataQueue)]) := by
  have same := (sameLengths_iff wellFormed.unfused wellFormed.divides wellFormed.fits
    nonempty).mpr even
  have noEnd : ∀ dispatched ∈ dispatches, dispatched.2 = false := by
    intro dispatched member
    by_contra ended
    have event := answering.endEvent_of_finished isRank caughtUp
      ⟨dispatched, member, by simpa using ended⟩
    rw [quiet] at event
    cases event
  have result : state.dispatch config =
      { state with
          dataQueue := (scatterEntries config state.dataQueue).2
          scattered := state.scattered ++ [(scatterEntries config state.dataQueue).1] } := by
    rw [TeacherState.dispatch, if_pos wellFormed.fits]
    dsimp only
    rw [if_pos same]
  have length := answering.length_eq
  have earlier : ∀ rank, rank < config.parallelDims.worldSize →
      ∀ n, n < (state.ranks rank).iteration → n < dispatches.length := by
    intro rank isRank n before
    have bounded := answering.iteration rank isRank
    omega
  rw [result]
  refine ⟨answering.asserted, ?_, ?_, ?_, ?_, ?_, answering.left, ?_⟩
  · exact rel_append answering.handed
      (.cons (handsOut_scatterEntries wellFormed nonempty even) .nil)
  · have split := (dealEntries_eq config.parallelDims
      (config.batchForThisStep state.dataQueue.length) 0 (fun _ => []) state.dataQueue).2
    rw [answering.queued]
    simp only [entriesOf, flatMap_append, flatMap_singleton, append_assoc]
    exact congrArg (entriesOf dispatches ++ ·) split
  · intro n dispatched known ended
    rw [length_append, length_singleton]
    rcases Nat.lt_trichotomy n dispatches.length with before | here | after
    · rw [getElem?_append_left before] at known
      rw [noEnd dispatched (mem_of_getElem? known)] at ended
      cases ended
    · omega
    · rw [getElem?_eq_none (by simp; omega)] at known
      cases known
  · intro rank isRank
    rw [length_append]
    exact Nat.le_add_right_of_le (answering.iteration rank isRank)
  · intro rank isRank
    rw [answering.endEvent rank isRank]
    constructor
    · rintro ⟨n, dispatched, before, known, ended⟩
      refine ⟨n, dispatched, before, ?_, ended⟩
      rw [getElem?_append_left (earlier rank isRank n before)]
      exact known
    · rintro ⟨n, dispatched, before, known, ended⟩
      refine ⟨n, dispatched, before, ?_, ended⟩
      rwa [getElem?_append_left (earlier rank isRank n before)] at known
  · intro rank isRank n scattered before known
    rw [getElem?_append_left (length ▸ earlier rank isRank n before)] at known
    exact answering.results rank isRank n scattered before known

/-- A rank answers the next dispatch. -/
theorem Answering.answer {rank : Nat} (isRank : rank < config.parallelDims.worldSize) :
    Answering config (state.answer rank) dispatches := by
  unfold TeacherState.answer
  split
  · exact answering
  · rename_i scattered next
    have nextDispatch : ∃ dispatched, dispatches[(state.ranks rank).iteration]? =
        some dispatched ∧ hasEnd (scattered rank) = dispatched.2 := by
      obtain ⟨below, isScattered⟩ := List.getElem?_eq_some_iff.mp next
      have inDispatches : (state.ranks rank).iteration < dispatches.length := by
        rwa [← answering.length_eq]
      have handsOut := answering.handed.get below inDispatches
      rw [get_eq_getElem, get_eq_getElem] at handsOut
      rw [isScattered] at handsOut
      exact ⟨_, getElem?_eq_getElem inDispatches, handsOut.hasEnd_iff isRank⟩
    obtain ⟨dispatched, known, marker⟩ := nextDispatch
    refine ⟨answering.asserted, answering.handed, answering.queued, answering.ends, ?_, ?_, ?_, ?_⟩
    · intro other isOther
      by_cases same : other = rank
      · have below := (List.getElem?_eq_some_iff.mp next).1
        simp only [TeacherState.setRank, same, if_true]
        omega
      · simp only [TeacherState.setRank, same, if_false]
        exact answering.iteration other isOther
    · intro other isOther
      by_cases same : other = rank
      · subst same
        simp only [TeacherState.setRank, if_true, Bool.or_eq_true, marker]
        rw [answering.endEvent other isOther]
        constructor
        · rintro (⟨n, earlier, before, isEarlier, ended⟩ | ended)
          · exact ⟨n, earlier, Nat.lt_succ_of_lt before, isEarlier, ended⟩
          · exact ⟨_, dispatched, Nat.lt_succ_self _, known, ended⟩
        · rintro ⟨n, other, before, isOther, ended⟩
          rcases Nat.lt_succ_iff_lt_or_eq.mp before with earlier | here
          · exact .inl ⟨n, other, earlier, isOther, ended⟩
          · rw [here, known] at isOther
            cases isOther
            exact .inr ended
      · simp only [TeacherState.setRank, same, if_false]
        exact answering.endEvent other isOther
    · intro other isOther left
      by_cases same : other = rank
      · subst same
        simp only [TeacherState.setRank, if_true] at left ⊢
        rw [answering.left other isOther left]
        rfl
      · simp only [TeacherState.setRank, same, if_false] at left ⊢
        exact answering.left other isOther left
    · intro other isOther n earlier before isEarlier rollout member
      by_cases same : other = rank
      · subst same
        simp only [TeacherState.setRank, if_true] at before
        rcases Nat.lt_succ_iff_lt_or_eq.mp before with old | here
        · exact mem_append_left _
            (answering.results other isOther n earlier old isEarlier rollout member)
        · have isNext : state.scattered[n]? = some earlier := isEarlier
          rw [here, next] at isNext
          cases isNext
          exact mem_append_right _ (mem_map_of_mem member)
      · simp only [TeacherState.setRank, same, if_false] at before
        exact mem_append_left _
          (answering.results other isOther n earlier before isEarlier rollout member)

theorem Answering.leave {rank : Nat} (ended : (state.ranks rank).endEvent = true) :
    Answering config (state.setRank rank { state.ranks rank with left := true }) dispatches := by
  have kept : ∀ other, ((state.setRank rank { state.ranks rank with left := true }).ranks
      other).iteration = (state.ranks other).iteration ∧
      ((state.setRank rank { state.ranks rank with left := true }).ranks other).endEvent =
        (state.ranks other).endEvent := by
    intro other
    rw [TeacherState.setRank]
    dsimp only
    by_cases same : other = rank
    · rw [if_pos same, same]
      exact ⟨rfl, rfl⟩
    · rw [if_neg same]
      exact ⟨rfl, rfl⟩
  refine ⟨answering.asserted, answering.handed, answering.queued, answering.ends, ?_, ?_, ?_, ?_⟩
  · intro other isOther
    rw [(kept other).1]
    exact answering.iteration other isOther
  · intro other isOther
    rw [(kept other).1, (kept other).2]
    exact answering.endEvent other isOther
  · intro other isOther left
    rw [(kept other).2]
    by_cases same : other = rank
    · rw [same]
      exact ended
    · simp only [TeacherState.setRank, same, if_false] at left
      exact answering.left other isOther left
  · intro other isOther n scattered before
    rw [(kept other).1] at before
    exact answering.results other isOther n scattered before

end

theorem failed_of_uneven (wellFormed : config.WellFormed) (nonempty : state.dataQueue ≠ [])
    (uneven : ¬ EndsEvenly config state.dataQueue) : (state.dispatch config).failed = true := by
  have different := mt (sameLengths_iff wellFormed.unfused wellFormed.divides wellFormed.fits
    nonempty).mp uneven
  rw [TeacherState.dispatch, if_pos wellFormed.fits]
  dsimp only
  rw [if_neg different]

theorem TeacherConfig.worldSize_pos (config : TeacherConfig) :
    0 < config.parallelDims.worldSize := by
  obtain ⟨replicate, shard, cp, tp, pp⟩ := config.parallelDims.positive
  exact Nat.mul_pos (Nat.mul_pos pp (Nat.mul_pos replicate shard)) (Nat.mul_pos cp tp)

theorem Answering.handle (answering : Answering config state dispatches)
    (wellFormed : config.WellFormed) {event : TeacherEvent Uuid Payload}
    (allowed : state.Allowed config event) (even : state.DispatchesEvenly config event) :
    ∃ dispatches, Answering config (state.handle config event) dispatches := by
  cases event with
  | fetch requests => exact ⟨dispatches, answering.fetch requests⟩
  | dispatch =>
    obtain ⟨-, quiet, caughtUp, nonempty⟩ := allowed
    exact ⟨_, answering.dispatch wellFormed quiet caughtUp nonempty config.worldSize_pos even⟩
  | answer rank => exact ⟨dispatches, answering.answer allowed.1⟩
  | leave rank => exact ⟨dispatches, answering.leave allowed.2.1⟩

end Steps

namespace TeacherState

def remaining (config : TeacherConfig) (state : TeacherState Uuid Payload) : Nat :=
  state.dataQueue.length * (config.parallelDims.worldSize + 1) +
    ∑ rank ∈ Finset.range config.parallelDims.worldSize,
      (state.scattered.length - (state.ranks rank).iteration +
        if (state.ranks rank).left then 0 else 1)

end TeacherState

section Remaining

variable {config : TeacherConfig} {state : TeacherState Uuid Payload}

theorem length_scatterEntries_lt (fits : config.fits)
    {queue : List (QueueEntry Uuid Payload)} (nonempty : queue ≠ []) :
    (scatterEntries config queue).2.length < queue.length := by
  obtain ⟨-, split⟩ := dealEntries_eq config.parallelDims
    (config.batchForThisStep queue.length) 0 (fun _ => []) queue
  have taken := takenEntries_ne_nil fits nonempty
  have length := congrArg List.length split
  rw [length_append, length_append, length_map] at length
  have someTaken : 0 < (beforeEnd (takenEntries config queue)).length +
      (endMarker (hasEnd (takenEntries config queue)) :
        List (QueueEntry Uuid Payload)).length := by
    cases entries : takenEntries config queue with
    | nil => exact absurd entries taken
    | cons entry rest =>
      cases entry with
      | rollout rollout => simp
      | isEnd => simp [endMarker]
  rw [takenEntries] at someTaken
  rw [scatterEntries]
  dsimp only
  omega

theorem sum_lt_of_rank {before after : Nat → Nat} {count rank : Nat} (isRank : rank < count)
    (less : after rank < before rank) (kept : ∀ other, other ≠ rank → after other = before other) :
    ∑ other ∈ Finset.range count, after other < ∑ other ∈ Finset.range count, before other := by
  apply Finset.sum_lt_sum
  · intro other _
    by_cases same : other = rank
    · rw [same]
      exact Nat.le_of_lt less
    · exact Nat.le_of_eq (kept other same)
  · exact ⟨rank, Finset.mem_range.mpr isRank, less⟩

theorem sum_succ (count : Nat) (value : Nat → Nat) :
    ∑ other ∈ Finset.range count, (value other + 1) =
      ∑ other ∈ Finset.range count, value other + count := by
  rw [Finset.sum_add_distrib]
  simp

theorem remaining_lt (fits : config.fits) {event : TeacherEvent Uuid Payload}
    (own : event.IsOwn) (allowed : state.Allowed config event) :
    (state.handle config event).remaining config < state.remaining config := by
  cases event with
  | fetch requests => exact False.elim own
  | dispatch =>
    have shorter := length_scatterEntries_lt fits allowed.2.2.2
    have room := Nat.mul_le_mul_right (config.parallelDims.worldSize + 1) shorter
    rw [Nat.succ_mul] at room
    rw [TeacherState.handle, TeacherState.dispatch, if_pos fits]
    dsimp only
    split
    · have grown : ∑ rank ∈ Finset.range config.parallelDims.worldSize,
          (state.scattered.length + 1 - (state.ranks rank).iteration +
            if (state.ranks rank).left then 0 else 1) ≤
        ∑ rank ∈ Finset.range config.parallelDims.worldSize,
          ((state.scattered.length - (state.ranks rank).iteration +
            if (state.ranks rank).left then 0 else 1) + 1) := by
        apply Finset.sum_le_sum
        intro rank _
        omega
      rw [sum_succ] at grown
      simp only [TeacherState.remaining, length_append, length_singleton]
      omega
    · simp only [TeacherState.remaining]
      omega
  | answer rank =>
    obtain ⟨isRank, -, behind⟩ := allowed
    rw [TeacherState.handle, TeacherState.answer, getElem?_eq_getElem behind]
    simp only [TeacherState.remaining, TeacherState.setRank]
    apply Nat.add_lt_add_left
    apply sum_lt_of_rank isRank
    · simp only [if_true]
      omega
    · intro other different
      simp only [different, if_false]
  | leave rank =>
    obtain ⟨isRank, -, stays⟩ := allowed
    simp only [TeacherState.handle, TeacherState.remaining, TeacherState.setRank]
    apply Nat.add_lt_add_left
    apply sum_lt_of_rank isRank
    · simp [stays]
    · intro other different
      simp only [different, if_false]

end Remaining

section Run

variable {config : TeacherConfig}

theorem Answering.answersAll {state : TeacherState Uuid Payload}
    {dispatches : List (List (TeacherRollout Uuid Payload) × Bool)}
    (answering : Answering config state dispatches) (wellFormed : config.WellFormed) :
    state.AnswersAll config := by
  refine ⟨answering.asserted, ⟨dispatches, answering.handed, answering.queued⟩, ?_, ?_, ?_⟩
  · intro one other isOne isOther oneLeft otherLeft
    rw [(answering.finished isOne (answering.left one isOne oneLeft)).1,
      (answering.finished isOther (answering.left other isOther otherLeft)).1]
  · intro allLeft rollout member
    have finished : ∀ rank (isRank : rank < config.parallelDims.worldSize),
        (state.ranks rank).iteration = state.scattered.length ∧
          ∃ dispatched ∈ dispatches, dispatched.2 = true := fun rank isRank =>
      answering.finished isRank (answering.left rank isRank (allLeft rank isRank))
    rw [answering.queued] at member
    obtain ⟨dispatched, known, inBatch⟩ :=
      mem_beforeEnd_entriesOf (.inl (finished 0 config.worldSize_pos).2) member
    exact answering.results_of_finished (fun rank isRank => (finished rank isRank).1) known inBatch
  · refine EventSystem.completes_of_measure (TeacherState.remaining config)
      (?_ : ∀ later event, (later.failed = true ∨
        ∃ dispatches, Answering config later dispatches) → _) ?_ ?_ (.inr ⟨dispatches, answering⟩)
    · intro later event kept own allowed
      rcases kept with failed | ⟨dispatches, answering⟩
      · left
        cases event with
        | fetch requests => exact False.elim own
        | dispatch =>
          rw [allowed.1] at failed
          cases failed
        | answer rank =>
          unfold teacherSystem TeacherState.handle TeacherState.answer
          dsimp only
          split
          · exact failed
          · exact failed
        | leave rank => exact failed
      · by_cases even : later.DispatchesEvenly config event
        · exact .inr (answering.handle wellFormed allowed even)
        · left
          cases event with
          | dispatch => exact failed_of_uneven wellFormed allowed.2.2.2 even
          | fetch requests => exact absurd trivial even
          | answer rank => exact absurd trivial even
          | leave rank => exact absurd trivial even
    · intro later event _ own allowed
      exact remaining_lt wellFormed.fits own allowed
    · intro later kept unfinished
      rcases kept with failed | ⟨dispatches, answering⟩
      · exact absurd (.inl failed) unfinished
      · by_contra none
        refine unfinished (.inr (answering.answered_of_stuck ?_))
        intro event own allowed
        exact none ⟨event, own, allowed⟩

/-- A reference replica answers every request in a run exactly if all its dispatches end
evenly. -/
theorem answersAll_iff (wellFormed : config.WellFormed) {events : List (TeacherEvent Uuid Payload)}
    (run : (teacherSystem Uuid Payload config).IsRun .initial events) :
    (teacherSystem Uuid Payload config).Throughout (TeacherState.AnswersAll config)
        .initial events ↔
      (teacherSystem Uuid Payload config).StepsMeet (TeacherState.DispatchesEvenly config)
        .initial events := by
  apply EventSystem.throughout_iff_stepsMeet
      (?_ : ∀ state, (∃ dispatches, Answering config state dispatches) → _) ?_ ?_
      ⟨[], Answering.initial config⟩ run
  · rintro state ⟨dispatches, answering⟩
    exact answering.answersAll wellFormed
  · rintro state event ⟨dispatches, answering⟩ allowed even
    exact answering.handle wellFormed allowed even
  · rintro state event ⟨dispatches, answering⟩ allowed uneven answersAll
    cases event with
    | dispatch =>
      have failed := failed_of_uneven wellFormed allowed.2.2.2 uneven
      have asserted := answersAll.asserted
      rw [show (teacherSystem Uuid Payload config).handle state .dispatch =
        state.dispatch config from rfl, failed] at asserted
      cases asserted
    | fetch requests => exact uneven trivial
    | answer rank => exact uneven trivial
    | leave rank => exact uneven trivial

theorem twoShards_positive :
    (0 : Nat) < 1 ∧ (0 : Nat) < 2 ∧ (0 : Nat) < 1 ∧ (0 : Nat) < 1 ∧ (0 : Nat) < 1 := by
  simp

def twoTeacherRanks : TeacherConfig where
  parallelDims :=
    { dpReplicate := 1, dpShard := 2, cp := 1, tp := 1, pp := 1, tpFusedWithDp := false
      positive := twoShards_positive }
  batchSize := 2
  miniBatch := 1
  positive := Nat.one_pos

theorem twoTeacherRanks_wellFormed : twoTeacherRanks.WellFormed where
  divides := by decide
  fits := by decide
  unfused := by decide

def requestFor (uuids : List Nat) (isEnd : Bool) : TeacherRequest Nat Unit where
  promptIdx := 0
  completions := uuids.map fun uuid => ((), uuid)
  promptTokenIds := none
  isEnd := isEnd

theorem answersAll_twoTeacherRanks :
    (teacherSystem Nat Unit twoTeacherRanks).Throughout
      (TeacherState.AnswersAll twoTeacherRanks) .initial
      [.fetch [requestFor [0, 1] false], .dispatch, .fetch [requestFor [] true], .answer 1,
        .answer 0, .dispatch, .answer 0, .leave 0, .answer 1, .leave 1] :=
  (answersAll_iff twoTeacherRanks_wellFormed (by decide)).mpr (by decide)

/-- The end marker comes right after a single rollout: rank 0 gets the rollout and the
marker, rank 1 only the marker. -/
theorem not_answersAll_cutRound :
    ¬ ∀ config : TeacherConfig, config.divides → config.fits →
      ∀ events, (teacherSystem Nat Unit config).IsRun .initial events →
        (teacherSystem Nat Unit config).Throughout (TeacherState.AnswersAll config)
          .initial events := by
  intro always
  have asserted := (always twoTeacherRanks (by decide) (by decide)
    [.fetch [requestFor [0] true], .dispatch] (by decide)).finish.asserted
  exact absurd asserted (by decide)

end Run

end CosmosRl.Worker
