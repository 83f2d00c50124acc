import CosmosRl.Worker.TeacherWorker

/-!
What one dispatch of a reference replica hands to its ranks.

The entries that are taken up to an end marker are dealt out evenly, and the marker
goes to every rank.  After padding, all ranks have the same number of entries except
when an end marker cuts a round of the deal short and the part of rank 0 with the
marker is longer than a mini-batch.
-/

namespace CosmosRl.Worker

open CosmosRl.Foundation List

universe u v

variable {Uuid : Type u} {Payload : Type v}

theorem ParallelDims.dpRank_zero (dims : ParallelDims) : dims.dpRank 0 = 0 := by
  rw [dpRank, Nat.zero_div, Nat.zero_mod]

section Entries

@[simp]
theorem rolloutsOf_nil : rolloutsOf ([] : List (QueueEntry Uuid Payload)) = [] := rfl

theorem rolloutsOf_append (front back : List (QueueEntry Uuid Payload)) :
    rolloutsOf (front ++ back) = rolloutsOf front ++ rolloutsOf back :=
  filterMap_append

@[simp]
theorem rolloutsOf_map (rollouts : List (TeacherRollout Uuid Payload)) :
    rolloutsOf (rollouts.map QueueEntry.rollout) = rollouts := by
  induction rollouts with
  | nil => rfl
  | cons rollout rest ih => exact congrArg (rollout :: ·) ih

@[simp]
theorem beforeEnd_isEnd (entries : List (QueueEntry Uuid Payload)) :
    beforeEnd (.isEnd :: entries) = [] := rfl

@[simp]
theorem beforeEnd_rollout (rollout : TeacherRollout Uuid Payload)
    (entries : List (QueueEntry Uuid Payload)) :
    beforeEnd (.rollout rollout :: entries) = rollout :: beforeEnd entries := rfl

@[simp]
theorem hasEnd_isEnd (entries : List (QueueEntry Uuid Payload)) :
    hasEnd (.isEnd :: entries) = true := rfl

@[simp]
theorem hasEnd_rollout (rollout : TeacherRollout Uuid Payload)
    (entries : List (QueueEntry Uuid Payload)) :
    hasEnd (.rollout rollout :: entries) = hasEnd entries := rfl

theorem hasEnd_append (front back : List (QueueEntry Uuid Payload)) :
    hasEnd (front ++ back) = (hasEnd front || hasEnd back) :=
  any_append

@[simp]
theorem hasEnd_map (rollouts : List (TeacherRollout Uuid Payload)) :
    hasEnd (rollouts.map QueueEntry.rollout) = false := by
  induction rollouts with
  | nil => rfl
  | cons rollout rest ih => exact ih

theorem beforeEnd_map_append (rollouts : List (TeacherRollout Uuid Payload))
    (entries : List (QueueEntry Uuid Payload)) :
    beforeEnd (rollouts.map QueueEntry.rollout ++ entries) = rollouts ++ beforeEnd entries := by
  induction rollouts with
  | nil => rfl
  | cons rollout rest ih => exact congrArg (rollout :: ·) ih

theorem eq_map_of_not_hasEnd {entries : List (QueueEntry Uuid Payload)}
    (noEnd : hasEnd entries = false) :
    entries = (beforeEnd entries).map QueueEntry.rollout := by
  induction entries with
  | nil => rfl
  | cons entry rest ih =>
    cases entry with
    | rollout rollout => exact congrArg (QueueEntry.rollout rollout :: ·) (ih noEnd)
    | isEnd => cases noEnd

end Entries

def endMarker (ended : Bool) : List (QueueEntry Uuid Payload) :=
  if ended then [.isEnd] else []

def dealtTo (dims : ParallelDims) (dpId : Nat) (batch : List (TeacherRollout Uuid Payload))
    (ended : Bool) (rank : Nat) : List (QueueEntry Uuid Payload) :=
  (deal dims.dpWorldSize dpId batch (dims.dpRank rank)).map QueueEntry.rollout ++ endMarker ended

/-- The rollouts of the next entries are dealt up to the first end marker. -/
theorem dealEntries_eq (dims : ParallelDims) (count dpId : Nat)
    (scattered : ScatteredEntries Uuid Payload) (queue : List (QueueEntry Uuid Payload)) :
    (dealEntries dims count dpId scattered queue).1 = (fun rank => scattered rank ++
        dealtTo dims dpId (beforeEnd (queue.take count)) (hasEnd (queue.take count)) rank) ∧
      queue = (beforeEnd (queue.take count)).map QueueEntry.rollout ++
        (endMarker (hasEnd (queue.take count)) ++
          (dealEntries dims count dpId scattered queue).2) := by
  induction count generalizing dpId scattered queue with
  | zero =>
    refine ⟨?_, ?_⟩
    · funext rank
      exact (append_nil _).symm
    · rfl
  | succ count ih =>
    cases queue with
    | nil =>
      refine ⟨?_, rfl⟩
      funext rank
      exact (append_nil _).symm
    | cons entry rest =>
      cases entry with
      | isEnd => exact ⟨rfl, rfl⟩
      | rollout rollout =>
        obtain ⟨lists, split⟩ := ih (nextTurn dims.dpWorldSize dpId)
          (fun rank => if dims.dpRank rank = dpId then scattered rank ++ [.rollout rollout]
            else scattered rank) rest
        rw [dealEntries, take_succ_cons, beforeEnd_rollout, hasEnd_rollout]
        refine ⟨?_, congrArg (QueueEntry.rollout rollout :: ·) split⟩
        rw [lists]
        funext rank
        unfold dealtTo
        rw [deal]
        by_cases turn : dims.dpRank rank = dpId
        · rw [if_pos turn, if_pos turn.symm]
          simp
        · rw [if_neg turn, if_neg (Ne.symm turn)]

namespace TeacherConfig

variable {config : TeacherConfig}

theorem batchForThisStep_pos (fits : config.fits) {size : Nat} (nonempty : 0 < size) :
    0 < config.batchForThisStep size := by
  have round := Nat.mul_pos config.parallelDims.dpWorldSize_pos config.positive
  unfold batchForThisStep
  dsimp only
  split
  · exact Nat.lt_of_lt_of_le round fits
  · split
    · exact nonempty
    · omega

theorem batchForThisStep_le (size : Nat) : config.batchForThisStep size ≤ size := by
  unfold batchForThisStep
  dsimp only
  split
  · assumption
  · split <;> omega

theorem batchForThisStep_even (divides : config.divides) (size : Nat) :
    config.parallelDims.dpWorldSize ∣ config.batchForThisStep size ∨
      (config.batchForThisStep size + config.parallelDims.dpWorldSize - 1) /
        config.parallelDims.dpWorldSize ≤ config.miniBatch := by
  have positive := config.parallelDims.dpWorldSize_pos
  unfold batchForThisStep
  dsimp only
  split
  · exact .inl divides
  · split
    · rename_i short
      right
      have few : size < config.parallelDims.dpWorldSize * config.miniBatch := by
        have below := Nat.mod_lt size (Nat.mul_pos positive config.positive)
        omega
      rw [Nat.div_le_iff_le_mul_add_pred positive]
      omega
    · left
      exact Nat.dvd_trans (Nat.dvd_mul_right _ config.miniBatch) (Nat.dvd_sub_mod size)

end TeacherConfig

section Lengths

variable {config : TeacherConfig} {queue : List (QueueEntry Uuid Payload)}

def takenEntries (config : TeacherConfig) (queue : List (QueueEntry Uuid Payload)) :
    List (QueueEntry Uuid Payload) :=
  queue.take (config.batchForThisStep queue.length)

/-- If an end marker is among the entries that are taken, it ends a round of the deal, or
with it no index has more entries than a mini-batch. -/
def EndsEvenly (config : TeacherConfig) (queue : List (QueueEntry Uuid Payload)) : Prop :=
  hasEnd (takenEntries config queue) = true →
    config.parallelDims.dpWorldSize ∣ (beforeEnd (takenEntries config queue)).length ∨
      ((beforeEnd (takenEntries config queue)).length + config.parallelDims.dpWorldSize - 1) /
        config.parallelDims.dpWorldSize < config.miniBatch

instance (config : TeacherConfig) (queue : List (QueueEntry Uuid Payload)) :
    Decidable (EndsEvenly config queue) :=
  inferInstanceAs (Decidable (_ → _))

def dealtBatch (config : TeacherConfig) (queue : List (QueueEntry Uuid Payload)) :
    List (TeacherRollout Uuid Payload) :=
  beforeEnd (takenEntries config queue)

def dealtEnd (config : TeacherConfig) (queue : List (QueueEntry Uuid Payload)) : Bool :=
  hasEnd (takenEntries config queue)

theorem takenEntries_ne_nil (fits : config.fits) (nonempty : queue ≠ []) :
    takenEntries config queue ≠ [] := by
  have positive := TeacherConfig.batchForThisStep_pos fits (length_pos_of_ne_nil nonempty)
  unfold takenEntries
  cases queue with
  | nil => exact absurd rfl nonempty
  | cons entry rest =>
    obtain ⟨count, isCount⟩ := Nat.exists_eq_succ_of_ne_zero (Nat.ne_of_gt positive)
    rw [isCount, take_succ_cons]
    exact cons_ne_nil _ _

theorem exists_first (fits : config.fits) (nonempty : queue ≠ []) :
    ∃ first rest, dealtTo config.parallelDims 0 (dealtBatch config queue)
      (dealtEnd config queue) 0 = first :: rest := by
  have rankZero := config.parallelDims.dpRank_zero
  have taken := takenEntries_ne_nil fits nonempty
  unfold dealtTo dealtBatch dealtEnd
  rw [rankZero]
  cases entries : takenEntries config queue with
  | nil => exact absurd entries taken
  | cons entry rest =>
    cases entry with
    | rollout rollout => exact ⟨_, _, rfl⟩
    | isEnd => exact ⟨_, _, rfl⟩

def paddingOf (config : TeacherConfig) (first : QueueEntry Uuid Payload)
    (entries : List (QueueEntry Uuid Payload)) : List (QueueEntry Uuid Payload) :=
  List.replicate (config.miniBatch - entries.length) first

variable {first : QueueEntry Uuid Payload} {rest : List (QueueEntry Uuid Payload)}

theorem scatterEntries_eq (config : TeacherConfig) (queue : List (QueueEntry Uuid Payload))
    (head : dealtTo config.parallelDims 0 (dealtBatch config queue) (dealtEnd config queue) 0 =
      first :: rest) (rank : Nat) :
    (scatterEntries config queue).1 rank =
      dealtTo config.parallelDims 0 (dealtBatch config queue) (dealtEnd config queue) rank ++
        paddingOf config first (dealtTo config.parallelDims 0 (dealtBatch config queue)
          (dealtEnd config queue) rank) := by
  have lists := (dealEntries_eq config.parallelDims (config.batchForThisStep queue.length) 0
    (fun _ => []) queue).1
  have atRank : ∀ rank, (dealEntries config.parallelDims
      (config.batchForThisStep queue.length) 0 (fun _ => []) queue).1 rank =
        dealtTo config.parallelDims 0 (dealtBatch config queue) (dealtEnd config queue) rank :=
    fun rank => congrFun lists rank
  rw [scatterEntries]
  dsimp only
  rw [padEntries, atRank, atRank, head]
  simp [paddingOf]

theorem length_scatterEntries
    (head : dealtTo config.parallelDims 0 (dealtBatch config queue) (dealtEnd config queue) 0 =
      first :: rest) (rank : Nat) :
    ((scatterEntries config queue).1 rank).length =
      max config.miniBatch ((deal config.parallelDims.dpWorldSize 0 (dealtBatch config queue)
        (config.parallelDims.dpRank rank)).length + if dealtEnd config queue then 1 else 0) := by
  rw [scatterEntries_eq config queue head, length_append, paddingOf, length_replicate]
  have length : (dealtTo config.parallelDims 0 (dealtBatch config queue) (dealtEnd config queue)
      rank).length = (deal config.parallelDims.dpWorldSize 0 (dealtBatch config queue)
        (config.parallelDims.dpRank rank)).length + if dealtEnd config queue then 1 else 0 := by
    unfold dealtTo endMarker
    split <;> simp
  rw [length]
  omega

/-- The assertion on the lengths holds exactly if the dispatch ends evenly. -/
theorem sameLengths_iff (unfused : config.parallelDims.tpFusedWithDp = true →
      config.parallelDims.tp = 1)
    (divides : config.divides) (fits : config.fits) (nonempty : queue ≠ []) :
    sameLengths config.parallelDims (scatterEntries config queue).1 ↔
      EndsEvenly config queue := by
  obtain ⟨first, rest, head⟩ := exists_first fits nonempty
  have positive := config.parallelDims.dpWorldSize_pos
  have size := config.parallelDims.dpWorldSize_eq unfused
  have rankZero := config.parallelDims.dpRank_zero
  have byIndex : sameLengths config.parallelDims (scatterEntries config queue).1 ↔
      ∀ index, index < config.parallelDims.dpWorldSize →
        max config.miniBatch ((deal config.parallelDims.dpWorldSize 0 (dealtBatch config queue)
          index).length + if dealtEnd config queue then 1 else 0) =
        max config.miniBatch ((deal config.parallelDims.dpWorldSize 0 (dealtBatch config queue)
          0).length + if dealtEnd config queue then 1 else 0) := by
    unfold sameLengths
    simp only [length_scatterEntries head, rankZero]
    constructor
    · intro same index isIndex
      obtain ⟨rank, isRank, hasIndex⟩ := config.parallelDims.exists_rank (size ▸ isIndex)
      have here := same rank isRank
      rwa [hasIndex] at here
    · intro same rank isRank
      apply same
      rw [size]
      exact Nat.mod_lt _ (Nat.mul_pos config.parallelDims.positive.1
        config.parallelDims.positive.2.1)
  rw [byIndex, even_parts_iff positive]
  cases ended : dealtEnd config queue with
  | true =>
    unfold EndsEvenly
    rw [dealtEnd] at ended
    simp only [ended, if_true, dealtBatch, Nat.add_one_le_iff, true_implies]
  | false =>
    have noEnd : hasEnd (takenEntries config queue) = false := ended
    have whole := congrArg List.length (eq_map_of_not_hasEnd noEnd)
    rw [length_map, takenEntries, length_take,
      Nat.min_eq_left (TeacherConfig.batchForThisStep_le queue.length)] at whole
    have even := TeacherConfig.batchForThisStep_even divides queue.length
    rw [whole] at even
    constructor
    · intro _ contradictory
      rw [noEnd] at contradictory
      cases contradictory
    · intro _
      simpa [dealtBatch, takenEntries] using even

end Lengths

end CosmosRl.Worker
