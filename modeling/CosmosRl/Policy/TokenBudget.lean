import CosmosRl.Policy.MiniBatches
import CosmosRl.Utils.PartitionSpread
import Mathlib.Order.Nat

/-!
The token budget of dynamic mini-batches.

The ranks agree on the ceiling of the tokens over the budget, which is the number of
mini-batches that would do if the tokens could be cut anywhere.  The samples are dealt by
the differencing method, which levels the mini-batches without looking at the budget, so
the budget is kept exactly if the fullest set the method ends with keeps it.
-/

namespace CosmosRl.Policy

open CosmosRl.Foundation CosmosRl.Utils List
open CosmosRl.Dispatcher (PyError)

structure RankedBatch (Sample : Type) where
  batch : List Sample
  seqLenEffective : List Nat
  sameLength : batch.length = seqLenEffective.length
  maxTokenLen : Int
  others : List (List Nat)
  equallyMany : ∀ lengths ∈ others, lengths.length = seqLenEffective.length

namespace RankedBatch

variable {Sample : Type} (ranked : RankedBatch Sample)

def limit : Nat := ranked.maxTokenLen.toNat

def gathered : Nat :=
  (ranked.others.map fun lengths => localMiniBatches lengths ranked.limit).foldr max 0

def arrangement : Except PyError (List (List Sample) × List (List Nat)) :=
  rearrangeMiniBatches ranked.batch ranked.seqLenEffective ranked.limit ranked.gathered

def budget : Nat := max ranked.limit (longestSeqlen ranked.seqLenEffective)

def numMiniBatches : Nat :=
  agreedMiniBatches ranked.seqLenEffective ranked.limit ranked.gathered

def fullestLoad : Nat :=
  match karmarkarKarp ranked.seqLenEffective ranked.numMiniBatches with
  | .error _ => 0
  | .ok partitions =>
    (partitions.map (partitionSum ranked.seqLenEffective)).foldr max 0

/-- The dynamic split of the batch: no assertion fails, a batch with tokens is split,
and the mini-batches are a cut of the batch of at most the budget each. -/
structure SplitsWithinBudget : Prop where
  asserted : ∀ message, ranked.arrangement ≠ .error (.assertionError message)
  returned : 0 < ranked.seqLenEffective.sum →
    ∃ arrangement, ranked.arrangement = .ok arrangement
  arranged : ∀ arrangement, ranked.arrangement = .ok arrangement →
    Arranges ranked.batch arrangement
  limited : ∀ arrangement, ranked.arrangement = .ok arrangement →
    ∀ indices ∈ arrangement.2, partitionSum ranked.seqLenEffective indices ≤ ranked.budget

section Agreement

variable {ranked} in
theorem budget_pos (tokens : 0 < ranked.seqLenEffective.sum) : 0 < ranked.budget := by
  obtain ⟨seqlen, member, positive⟩ := List.sum_pos_iff_exists_pos_nat.mp tokens
  exact Nat.lt_of_lt_of_le (Nat.lt_of_lt_of_le positive (le_longestSeqlen member))
    (Nat.le_max_right _ _)

theorem localMiniBatches_le_length (lengths : List Nat) (maxTokenLen : Nat) :
    localMiniBatches lengths maxTokenLen ≤ lengths.length :=
  Nat.min_le_left _ _

/-- When all ranks hold equally many samples, each of them has enough for the number of
mini-batches they agree on. -/
theorem numMiniBatches_le_length : ranked.numMiniBatches ≤ ranked.seqLenEffective.length := by
  apply Nat.max_le.mpr
  refine ⟨localMiniBatches_le_length _ _, ?_⟩
  have each : ∀ count ∈ ranked.others.map fun lengths =>
      localMiniBatches lengths ranked.limit, count ≤ ranked.seqLenEffective.length := by
    intro count member
    obtain ⟨lengths, isOther, rfl⟩ := mem_map.mp member
    rw [← ranked.equallyMany lengths isOther]
    exact localMiniBatches_le_length lengths ranked.limit
  exact max_le_of_forall_le _ _ each

variable {ranked}

theorem ne_nil_of_tokens (tokens : 0 < ranked.seqLenEffective.sum) :
    ranked.seqLenEffective ≠ [] := by
  intro none
  rw [none] at tokens
  exact Nat.lt_irrefl 0 tokens

theorem numMiniBatches_pos (tokens : 0 < ranked.seqLenEffective.sum) :
    0 < ranked.numMiniBatches := by
  have samples := length_pos_of_ne_nil (ne_nil_of_tokens tokens)
  have divisor : 0 < ranked.budget := budget_pos tokens
  refine Nat.lt_of_lt_of_le (Nat.lt_min.mpr ⟨samples, ?_⟩) (Nat.le_max_left _ _)
  apply Nat.div_pos ?_ divisor
  change ranked.budget ≤ ranked.seqLenEffective.sum + ranked.budget - 1
  omega

end Agreement

section Split

theorem exists_arrangement (divisor : 0 < ranked.budget)
    (nonempty : ranked.seqLenEffective ≠ []) (some : 0 < ranked.numMiniBatches) :
    ∃ arrangement, ranked.arrangement = .ok arrangement :=
  (exists_rearrangeMiniBatches_iff ranked.sameLength nonempty divisor).mpr
    ⟨some, ranked.numMiniBatches_le_length⟩

theorem arrangement_ne_assertionError (message : String) :
    ranked.arrangement ≠ .error (.assertionError message) := by
  intro failed
  rcases Decidable.em (ranked.seqLenEffective = []) with none | nonempty
  · rw [arrangement, rearrangeMiniBatches, if_pos none] at failed
    cases failed
  rcases Nat.eq_zero_or_pos ranked.budget with noTokens | divisor
  · change max _ _ = 0 at noTokens
    rw [longestSeqlen] at noTokens
    rw [arrangement, rearrangeMiniBatches, if_neg nonempty, if_pos noTokens] at failed
    cases failed
  rcases Nat.eq_zero_or_pos ranked.numMiniBatches with noneAgreed | some
  · rw [arrangement, rearrangeMiniBatches_eq nonempty divisor ranked.numMiniBatches_le_length]
      at failed
    change agreedMiniBatches _ _ _ = 0 at noneAgreed
    rw [noneAgreed, getSeqlenBalancedPartitions_zero nonempty] at failed
    cases failed
  · obtain ⟨arrangement, returned⟩ := ranked.exists_arrangement divisor nonempty some
    rw [returned] at failed
    cases failed

variable {arrangement : List (List Sample) × List (List Nat)}

theorem exists_loads_perm (returned : ranked.arrangement = .ok arrangement) :
    ∃ found, karmarkarKarp ranked.seqLenEffective ranked.numMiniBatches = .ok found ∧
      (arrangement.2.map (partitionSum ranked.seqLenEffective)).Perm
        (found.map (partitionSum ranked.seqLenEffective)) := by
  obtain ⟨_, _, partitions, partitioned, sorted, _⟩ := exists_balanced_of_rearranged returned
  obtain ⟨found, computed, rfl⟩ := exists_karmarkarKarp_of_balanced partitioned
  refine ⟨found, computed, ?_⟩
  rw [sorted]
  refine ((sortedByWorkload_perm _ _).map _).trans (List.Perm.of_eq ?_)
  rw [map_map]
  apply map_congr_left
  intro partition _
  exact ((perm_insertionSort (· ≤ ·) partition).map _).sum_eq

theorem loads_le_iff (returned : ranked.arrangement = .ok arrangement) (bound : Nat) :
    (∀ indices ∈ arrangement.2, partitionSum ranked.seqLenEffective indices ≤ bound) ↔
      ranked.fullestLoad ≤ bound := by
  obtain ⟨found, computed, loads⟩ := ranked.exists_loads_perm returned
  rw [fullestLoad, computed]
  constructor
  · intro limited
    apply max_le_of_forall_le
    intro load member
    obtain ⟨indices, isPart, rfl⟩ := mem_map.mp (loads.mem_iff.mpr member)
    exact limited indices isPart
  · intro limited indices member
    refine Nat.le_trans (le_max_of_le' 0 ?_ (Nat.le_refl _)) limited
    exact loads.mem_iff.mp (mem_map_of_mem member)

theorem sum_pos_of_partitionSum_pos {indices : List Nat}
    (loaded : 0 < partitionSum ranked.seqLenEffective indices) :
    0 < ranked.seqLenEffective.sum := by
  obtain ⟨seqlen, member, positive⟩ := List.sum_pos_iff_exists_pos_nat.mp loaded
  obtain ⟨idx, _, rfl⟩ := mem_map.mp member
  rw [getD_eq_getElem?_getD] at positive
  cases found : ranked.seqLenEffective[idx]? with
  | none => simp [found] at positive
  | some seqlen =>
    rw [found] at positive
    exact List.sum_pos_iff_exists_pos_nat.mpr ⟨seqlen, mem_of_getElem? found, positive⟩

theorem exists_arrangement_of_tokens (tokens : 0 < ranked.seqLenEffective.sum) :
    ∃ arrangement, ranked.arrangement = .ok arrangement :=
  ranked.exists_arrangement (budget_pos tokens) (ne_nil_of_tokens tokens)
    (numMiniBatches_pos tokens)

theorem sum_pos_of_fullestLoad_pos (loaded : 0 < ranked.fullestLoad) :
    0 < ranked.seqLenEffective.sum := by
  by_contra noTokens
  rw [fullestLoad] at loaded
  cases computed : karmarkarKarp ranked.seqLenEffective ranked.numMiniBatches with
  | error exn => simp [computed] at loaded
  | ok found =>
    rw [computed] at loaded
    refine Nat.not_le_of_gt loaded (max_le_of_forall_le _ _ ?_)
    intro load member
    obtain ⟨indices, _, rfl⟩ := mem_map.mp member
    by_contra positive
    exact noTokens (ranked.sum_pos_of_partitionSum_pos (Nat.lt_of_not_le positive))

theorem limited_iff :
    (∀ arrangement, ranked.arrangement = .ok arrangement → ∀ indices ∈ arrangement.2,
        partitionSum ranked.seqLenEffective indices ≤ ranked.budget) ↔
      ranked.fullestLoad ≤ ranked.budget := by
  constructor
  · intro limited
    rcases Nat.eq_zero_or_pos ranked.fullestLoad with none | loaded
    · rw [none]
      exact Nat.zero_le _
    · obtain ⟨arrangement, returned⟩ :=
        ranked.exists_arrangement_of_tokens (ranked.sum_pos_of_fullestLoad_pos loaded)
      exact (ranked.loads_le_iff returned _).mp (limited arrangement returned)
  · intro within arrangement returned
    exact (ranked.loads_le_iff returned _).mpr within

end Split

section Bounds

variable {parts : List (List Nat)}

theorem length_le_length_flatten
    (nonempty : ∀ part ∈ parts, part ≠ []) : parts.length ≤ parts.flatten.length := by
  induction parts with
  | nil => exact Nat.le_refl 0
  | cons part parts ih =>
    rw [forall_mem_cons] at nonempty
    rw [length_cons, flatten_cons, length_append, Nat.add_comm]
    exact Nat.add_le_add (length_pos_of_ne_nil nonempty.1) (ih nonempty.2)

theorem length_eq_one_of_flatten
    (nonempty : ∀ part ∈ parts, part ≠ []) (shared : parts.flatten.length = parts.length)
    {part : List Nat} (member : part ∈ parts) : part.length = 1 := by
  obtain ⟨front, back, rfl⟩ := append_of_mem member
  rw [forall_mem_append, forall_mem_cons] at nonempty
  obtain ⟨frontFull, full, backFull⟩ := nonempty
  have some := length_pos_of_ne_nil full
  have frontShare := length_le_length_flatten frontFull
  have backShare := length_le_length_flatten backFull
  simp only [flatten_append, flatten_cons, length_append, length_cons] at shared
  omega

theorem fullestLoad_le_of_singles
    (singles : ranked.numMiniBatches = ranked.seqLenEffective.length) :
    ranked.fullestLoad ≤ ranked.budget := by
  rw [← limited_iff]
  intro arrangement returned indices member
  obtain ⟨length, covered, nonempty, _⟩ := rearrangeMiniBatches_spec returned
  have shared : arrangement.2.flatten.length = arrangement.2.length := by
    rw [covered.length_eq, length_range, length]
    exact singles.symm
  have one := length_eq_one_of_flatten nonempty shared member
  obtain ⟨idx, rfl⟩ := length_eq_one_iff.mp one
  have load : partitionSum ranked.seqLenEffective [idx] = ranked.seqLenEffective.getD idx 0 := by
    simp [partitionSum]
  rw [load, getD_eq_getElem?_getD]
  cases found : ranked.seqLenEffective[idx]? with
  | none => exact Nat.zero_le _
  | some seqlen =>
    exact Nat.le_trans (le_longestSeqlen (mem_of_getElem? found)) (Nat.le_max_right _ _)

theorem fullestLoad_le_of_room
    (room : ranked.seqLenEffective.sum +
        (ranked.numMiniBatches - 1) * longestSeqlen ranked.seqLenEffective ≤
      ranked.numMiniBatches * ranked.budget) :
    ranked.fullestLoad ≤ ranked.budget := by
  rw [← limited_iff]
  intro arrangement returned indices member
  obtain ⟨nonempty, enough, partitions, partitioned, sorted, _⟩ :=
    exists_balanced_of_rearranged returned
  have positive := pos_of_getSeqlenBalancedPartitions nonempty partitioned
  obtain ⟨found, computed, balanced⟩ := exists_balancedPartition positive enough
  obtain rfl := Except.ok.inj (computed.symm.trans partitioned)
  rw [sorted] at member
  have isPart := (sortedByWorkload_perm _ _).mem_iff.mp member
  have level := length_nsmul_le_of_withinSpread balanced.level (mem_map_of_mem isPart)
  rw [length_map, balanced.length, nsmul_eq_mul, nsmul_eq_mul, Nat.cast_id, Nat.cast_id,
    balanced.sum_eq] at level
  exact Nat.le_of_mul_le_mul_left (Nat.le_trans level room) positive

end Bounds

/-- The dynamic split keeps the budget exactly if the fullest set of the differencing
method is within it.  One sample for each mini-batch is enough for this, and so is room for
the spread of the mini-batches, which is the longest length. -/
theorem splitsWithinBudget_iff (ranked : RankedBatch Sample) :
    (ranked.SplitsWithinBudget ↔ ranked.fullestLoad ≤ ranked.budget) ∧
      (ranked.numMiniBatches = ranked.seqLenEffective.length → ranked.SplitsWithinBudget) ∧
      (ranked.seqLenEffective.sum +
          (ranked.numMiniBatches - 1) * longestSeqlen ranked.seqLenEffective ≤
        ranked.numMiniBatches * ranked.budget → ranked.SplitsWithinBudget) := by
  have kept : ranked.SplitsWithinBudget ↔ ranked.fullestLoad ≤ ranked.budget := by
    rw [← limited_iff]
    constructor
    · exact SplitsWithinBudget.limited
    · intro limited
      refine ⟨ranked.arrangement_ne_assertionError, ranked.exists_arrangement_of_tokens, ?_,
        limited⟩
      exact fun arrangement => rearrangeMiniBatches_arranges ranked.sameLength
  refine ⟨kept, ?_, ?_⟩
  · intro singles
    exact kept.mpr (ranked.fullestLoad_le_of_singles singles)
  · intro room
    exact kept.mpr (ranked.fullestLoad_le_of_room room)

def threeSamples : RankedBatch Nat where
  batch := [0, 1, 2]
  seqLenEffective := [3, 3, 3]
  sameLength := rfl
  maxTokenLen := 5
  others := []
  equallyMany := fun _ isOther => absurd isOther List.not_mem_nil

/-- Nine tokens ask for two mini-batches, and one of them gets six tokens. -/
theorem not_splitsWithinBudget_threeSamples : ¬ threeSamples.SplitsWithinBudget := by
  intro splits
  have returned : threeSamples.arrangement = .ok ([[0, 1], [2]], [[0, 1], [2]]) := by decide
  exact absurd (splits.limited _ returned [0, 1] mem_cons_self) (by decide)

end RankedBatch

end CosmosRl.Policy
