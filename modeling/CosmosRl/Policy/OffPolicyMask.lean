import CosmosRl.Foundation.Cutting
import CosmosRl.Foundation.Offsets
import CosmosRl.Policy.GrpoLoss
import CosmosRl.Utils.BalancedPartitions
import Mathlib.Algebra.Field.Rat
import Mathlib.Data.Set.List

/-!
The off-policy mask of a batch of sequences.

The sums of the sequences come from prefix sums at the ends and the starts, the advantages
are read at the starts, and the masks are repeated as often as the sequences have tokens.
A start in front of an empty sequence is that of the next one, whose advantage is read in
its place, but the mask made of it is repeated for no token.  Behind the last token there is
no advantage to read.
-/

namespace CosmosRl.Policy

open CosmosRl.Foundation CosmosRl.Utils List
open CosmosRl.Dispatcher (PyError)

section Tensors

variable {Value : Type} [Field Value] [LinearOrder Value]

/-- `_apply_off_policy_mask` with its tensor operations. -/
def applyOffPolicyMaskOfPrefixSums (perTokenLoss : List Value)
    (rolloutPerTokenLogps : Option (List Value)) (oldPerTokenLogps currentTokenLogps
    currentAdvantages : List Value) (cuSeqlens shiftedLength : List Nat)
    (offPolicyMaskingDelta : Value) : Except PyError (List Value) := do
  let maskingSourceLogps := rolloutPerTokenLogps.getD oldPerTokenLogps
  let logprobDiff := List.zipWith (fun source current => source - current)
    maskingSourceLogps currentTokenLogps
  let prefixSumForLogprobDiff := logprobDiff.scanl (· + ·) 0
  let upTo ← gather prefixSumForLogprobDiff cuSeqlens.tail
  let before ← gather prefixSumForLogprobDiff cuSeqlens.dropLast
  let sumDiff := List.zipWith (fun upTo before => upTo - before) upTo before
  let denom : List Value := shiftedLength.map fun length => ((max length 1 : Nat) : Value)
  let seqMeanLogprobDiff := List.zipWith (fun sum length => sum / length) sumDiff denom
  let advantageBySequence ← gather currentAdvantages cuSeqlens.dropLast
  let seqMask := List.zipWith (fun (advantage mean : Value) =>
    if 0 ≤ advantage ∨ mean ≤ offPolicyMaskingDelta then (1 : Value) else 0)
      advantageBySequence seqMeanLogprobDiff
  .ok (List.zipWith (· * ·) perTokenLoss
    (List.zipWith List.replicate shiftedLength seqMask).flatten)

omit [Field Value] [LinearOrder Value] in
theorem gather_eq_ok_iff (values : List Value) (positions : List Nat) (found : List Value) :
    gather values positions = .ok found ↔
      (positions.map fun position => values[position]?) = found.map some :=
  takeItems_eq_ok_iff values positions found

omit [LinearOrder Value] in
theorem gather_prefixSums (values : List Value) (offsets : List Nat)
    (inside : ∀ offset ∈ offsets, offset ≤ values.length) :
    gather (values.scanl (· + ·) 0) offsets =
      .ok (offsets.map fun offset => (values.take offset).sum) := by
  rw [gather_eq_ok_iff, map_map]
  apply map_congr_left
  intro offset member
  exact getElem?_prefixSums values (inside offset member)

/-- With the cumulative lengths of the sequences, the differences of the prefix sums are the
sums of the sequences. -/
theorem applyOffPolicyMaskOfPrefixSums_eq (perTokenLoss : List Value)
    (rolloutPerTokenLogps : Option (List Value)) (oldPerTokenLogps currentTokenLogps
    currentAdvantages : List Value) (seqlens : List Nat) (delta : Value)
    (sourceLength : (rolloutPerTokenLogps.getD oldPerTokenLogps).length = seqlens.sum)
    (currentLength : currentTokenLogps.length = seqlens.sum) :
    applyOffPolicyMaskOfPrefixSums perTokenLoss rolloutPerTokenLogps oldPerTokenLogps
        currentTokenLogps currentAdvantages (seqlens.scanl (· + ·) 0) seqlens delta =
      applyOffPolicyMask delta seqlens perTokenLoss
        (rolloutPerTokenLogps.getD oldPerTokenLogps) currentTokenLogps currentAdvantages := by
  rw [applyOffPolicyMaskOfPrefixSums, applyOffPolicyMask]
  generalize isDiff : List.zipWith (fun source current => source - current)
    (rolloutPerTokenLogps.getD oldPerTokenLogps) currentTokenLogps = logprobDiff
  have diffLength : logprobDiff.length = seqlens.sum := by
    rw [← isDiff, length_zipWith, sourceLength, currentLength, Nat.min_self]
  generalize isParts : seqlens.splitLengths logprobDiff = parts
  have joined : parts.flatten = logprobDiff := by
    rw [← isParts, flatten_splitLengths _ _ (Nat.le_of_eq diffLength)]
  have lengths : parts.map List.length = seqlens := by
    rw [← isParts, map_splitLengths_length _ _ (Nat.le_of_eq diffLength.symm)]
  have tails := tail_scanl_lengths 0 parts
  have begins := dropLast_scanl_lengths 0 parts
  rw [lengths] at tails begins
  have upTo := gather_prefixSums logprobDiff (ends 0 parts) fun offset member =>
    joined ▸ @le_length_of_mem_offsets Value [] parts offset (.inr member)
  have before := gather_prefixSums logprobDiff (starts 0 parts) fun offset member =>
    joined ▸ @le_length_of_mem_offsets Value [] parts offset (.inl member)
  have sums := zipWith_sub_prefixSums [] parts
  rw [nil_append, length_nil, joined] at sums
  simp only [begins, tails, upTo, before, bind, Except.bind]
  rw [sums, zipWith_map_right]
  cases gather currentAdvantages (starts 0 parts) <;> rfl

end Tensors

section Sequences

structure MaskToken (Value : Type) where
  perTokenLoss : Value
  rolloutLogp : Value
  oldLogp : Value
  currentLogp : Value
  advantage : Value

structure MaskBatch (Value : Type) where
  sequences : List (List (MaskToken Value))
  rolloutKnown : Bool
  delta : Value

/-- `shifted_length` in `compute_loss`. -/
def shiftedLength (cuSeqlens : List Nat) : List Nat :=
  List.zipWith (fun upTo start => upTo - start) cuSeqlens.tail cuSeqlens.dropLast

variable {Value : Type} [Field Value] [LinearOrder Value]

namespace MaskBatch

variable (batch : MaskBatch Value)

def tokens : List (MaskToken Value) := batch.sequences.flatten

def cuSeqlens : List Nat := (batch.sequences.map List.length).scanl (· + ·) 0

/-- The masked losses of the tokens, as `compute_loss` calls for them. -/
def maskedLosses : Except PyError (List Value) :=
  applyOffPolicyMaskOfPrefixSums (batch.tokens.map MaskToken.perTokenLoss)
    (if batch.rolloutKnown then some (batch.tokens.map MaskToken.rolloutLogp) else none)
    (batch.tokens.map MaskToken.oldLogp) (batch.tokens.map MaskToken.currentLogp)
    (batch.tokens.map MaskToken.advantage) batch.cuSeqlens (shiftedLength batch.cuSeqlens)
    batch.delta

def logprobDiff (token : MaskToken Value) : Value :=
  (if batch.rolloutKnown then token.rolloutLogp else token.oldLogp) - token.currentLogp

def meanDiff (sequence : List (MaskToken Value)) : Value :=
  (sequence.map batch.logprobDiff).sum / (sequence.length : Value)

def documentedMask (advantage : Value) (sequence : List (MaskToken Value)) : Value :=
  if advantage < 0 ∧ batch.delta < batch.meanDiff sequence then 0 else 1

/-- The documented losses of the tokens of a sequence.  The tokens of a sequence share its
advantage, which is the one of its first token. -/
def documentedLosses : List (MaskToken Value) → List Value
  | [] => []
  | first :: others =>
    (first :: others).map fun token =>
      token.perTokenLoss * batch.documentedMask first.advantage (first :: others)

def MaskedPerSequence : Prop :=
  batch.maskedLosses = .ok (batch.sequences.flatMap batch.documentedLosses)

omit [Field Value] [LinearOrder Value] in
theorem shiftedLength_cuSeqlens : shiftedLength batch.cuSeqlens =
    batch.sequences.map List.length := by
  rw [shiftedLength, cuSeqlens, tail_scanl_lengths, dropLast_scanl_lengths, zipWith_sub_offsets]

def advantages : List (List Value) := batch.sequences.map (List.map MaskToken.advantage)

omit [Field Value] [LinearOrder Value] in
theorem lengths_advantages : batch.advantages.map List.length =
    batch.sequences.map List.length := by
  rw [advantages, map_map]
  apply map_congr_left
  exact fun sequence _ => length_map _

def masksOf (sequences : List (List (MaskToken Value))) (advantageBySequence : List Value) :
    List (List Value) :=
  List.zipWith List.replicate (sequences.map List.length)
    (List.zipWith (fun (advantage mean : Value) =>
      if 0 ≤ advantage ∨ mean ≤ batch.delta then (1 : Value) else 0) advantageBySequence
        (sequences.map fun sequence =>
          (sequence.map batch.logprobDiff).sum / ((max sequence.length 1 : Nat) : Value)))

theorem maskedLosses_eq :
    batch.maskedLosses =
      (gather (batch.tokens.map MaskToken.advantage) (starts 0 batch.advantages)).map
        fun advantageBySequence => List.zipWith (· * ·)
          (batch.tokens.map MaskToken.perTokenLoss)
          (batch.masksOf batch.sequences advantageBySequence).flatten := by
  have count : batch.tokens.length = (batch.sequences.map List.length).sum := by
    rw [tokens, length_flatten]
  have source : (if batch.rolloutKnown then some (batch.tokens.map MaskToken.rolloutLogp)
      else none).getD (batch.tokens.map MaskToken.oldLogp) =
      batch.tokens.map fun token =>
        if batch.rolloutKnown then token.rolloutLogp else token.oldLogp := by
    cases batch.rolloutKnown <;> rfl
  have diffs : List.zipWith (fun source current => source - current)
      (batch.tokens.map fun token =>
        if batch.rolloutKnown then token.rolloutLogp else token.oldLogp)
      (batch.tokens.map MaskToken.currentLogp) =
      (batch.sequences.map (List.map batch.logprobDiff)).flatten := by
    rw [zipWith_map, zipWith_self, ← map_flatten]
    rfl
  have lengths : batch.sequences.map List.length =
      (batch.sequences.map (List.map batch.logprobDiff)).map List.length := by
    rw [map_map]
    apply map_congr_left
    exact fun sequence _ => (length_map _).symm
  rw [maskedLosses, shiftedLength_cuSeqlens, cuSeqlens, applyOffPolicyMaskOfPrefixSums_eq]
  · rw [applyOffPolicyMask, source, diffs]
    have sums : (batch.sequences.map List.length).splitLengths
        (batch.sequences.map (List.map batch.logprobDiff)).flatten =
        batch.sequences.map (List.map batch.logprobDiff) := by
      rw [lengths, splitLengths_flatten]
    rw [sums, ← lengths_advantages, dropLast_scanl_lengths, lengths_advantages]
    simp only [map_map, zipWith_map, zipWith_self]
    rfl
  · rw [source, length_map, count]
  · rw [length_map, count]

theorem mask_eq_documented (first : MaskToken Value) (others : List (MaskToken Value)) :
    (if 0 ≤ first.advantage ∨
        ((first :: others).map batch.logprobDiff).sum /
          ((max (first :: others).length 1 : Nat) : Value) ≤ batch.delta then (1 : Value) else 0) =
      batch.documentedMask first.advantage (first :: others) := by
  have filled : max (first :: others).length 1 = (first :: others).length :=
    Nat.max_eq_left (Nat.succ_pos _)
  rw [filled, ← meanDiff, documentedMask]
  by_cases kept : 0 ≤ first.advantage ∨ batch.meanDiff (first :: others) ≤ batch.delta
  · have notBoth : ¬ (first.advantage < 0 ∧ batch.delta < batch.meanDiff (first :: others)) := by
      rw [not_and_or, not_lt, not_lt]
      exact kept
    rw [if_pos kept, if_neg notBoth]
  · have both : first.advantage < 0 ∧ batch.delta < batch.meanDiff (first :: others) := by
      rw [not_or, not_le, not_le] at kept
      exact kept
    rw [if_neg kept, if_pos both]

/-- When an advantage was read for every sequence, the tokens get their documented losses:
by induction on the sequences, an empty one taking no token. -/
theorem masked_eq_documented {sequences : List (List (MaskToken Value))} {found : List Value}
    (read : nextItems (sequences.map (List.map MaskToken.advantage)) = found.map some) :
    List.zipWith (· * ·) (sequences.flatten.map MaskToken.perTokenLoss)
        (batch.masksOf sequences found).flatten =
      sequences.flatMap batch.documentedLosses := by
  induction sequences generalizing found with
  | nil => rfl
  | cons sequence sequences ih =>
    cases found with
    | nil => cases read
    | cons advantage found =>
      rw [map_cons, nextItems, map_cons, List.cons.injEq] at read
      have others := ih read.2
      rw [masksOf] at others
      rw [masksOf, map_cons, map_cons, zipWith_cons_cons, zipWith_cons_cons, flatten_cons,
        flatten_cons, map_append, zipWith_append (by rw [length_map, length_replicate]),
        others, flatMap_cons]
      congr 1
      cases sequence with
      | nil => rfl
      | cons first tokens =>
        obtain rfl : first.advantage = advantage := Option.some.inj read.1
        rw [mask_eq_documented, documentedLosses, ← map_const', zipWith_map, zipWith_self]

section

omit [Field Value] [LinearOrder Value]

theorem gather_starts_eq_ok_iff (found : List Value) :
    gather (batch.tokens.map MaskToken.advantage) (starts 0 batch.advantages) = .ok found ↔
      nextItems batch.advantages = found.map some := by
  have read := getElem?_starts [] batch.advantages
  rw [length_nil, nil_append] at read
  rw [gather_eq_ok_iff, ← read, tokens, advantages, map_flatten]

theorem exists_gather_iff :
    (∃ found, gather (batch.tokens.map MaskToken.advantage) (starts 0 batch.advantages) =
        .ok found) ↔
      batch.sequences.getLast? ≠ some [] := by
  have lastEmpty : batch.advantages.getLast? = some [] ↔ batch.sequences.getLast? = some [] := by
    rw [advantages, getLast?_map]
    cases batch.sequences.getLast? <;> simp
  simp only [gather_starts_eq_ok_iff]
  rw [Ne, ← lastEmpty, ← none_mem_nextItems_iff]
  constructor
  · rintro ⟨found, read⟩ outside
    rw [read] at outside
    obtain ⟨advantage, _, isNone⟩ := mem_map.mp outside
    cases isNone
  · intro inside
    have all : nextItems batch.advantages ∈ Set.range (List.map (some : Value → _)) := by
      rw [Set.range_list_map]
      intro entry member
      cases entry with
      | none => exact absurd member inside
      | some advantage => exact ⟨advantage, rfl⟩
    obtain ⟨found, read⟩ := all
    exact ⟨found, read.symm⟩

end

end MaskBatch

/-- The mask is applied sequence by sequence exactly if the last sequence of the batch has a
trained token; the sequences in front of it may be empty. -/
theorem maskedPerSequence_iff (batch : MaskBatch Value) :
    batch.MaskedPerSequence ↔ ∀ last, batch.sequences.getLast? = some last → last ≠ [] := by
  have filled : (∀ last, batch.sequences.getLast? = some last → last ≠ []) ↔
      batch.sequences.getLast? ≠ some [] := by
    constructor
    · exact fun full isLast => full [] isLast rfl
    · rintro full last isLast rfl
      exact full isLast
  rw [filled, ← batch.exists_gather_iff, MaskBatch.MaskedPerSequence, batch.maskedLosses_eq]
  constructor
  · intro masked
    cases read : gather (batch.tokens.map MaskToken.advantage) (starts 0 batch.advantages) with
    | error exn => simp [read, Except.map] at masked
    | ok found => exact ⟨found, rfl⟩
  · rintro ⟨found, read⟩
    rw [read]
    exact congrArg Except.ok
      (batch.masked_eq_documented ((batch.gather_starts_eq_ok_iff found).mp read))

def trailingEmpty : MaskBatch Rat where
  sequences := [[⟨1, 0, 0, 0, 1⟩], []]
  rolloutKnown := false
  delta := 0

/-- The advantage of the last sequence is read behind the last token. -/
theorem not_maskedPerSequence_trailingEmpty : ¬ trailingEmpty.MaskedPerSequence := by
  intro masked
  rw [MaskBatch.MaskedPerSequence, trailingEmpty.maskedLosses_eq] at masked
  cases masked

end Sequences

end CosmosRl.Policy
