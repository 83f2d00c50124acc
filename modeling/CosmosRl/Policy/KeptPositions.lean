import CosmosRl.Policy.LossRows

/-!
Selecting by masks in rows that are cut to a width.

Whatever the layout, the masks of a mini-batch select in every row, at the marked positions
that its width keeps.
-/

namespace CosmosRl.Policy

open CosmosRl.Data CosmosRl.Foundation CosmosRl.Utils List
open CosmosRl.Dispatcher (PyError)

section Selection

variable {Item Alpha : Type} (padTokenId seqLenMultiple : Nat) (packingSeq : Bool)

/-- The marked positions among the first `width` ones. -/
def keptPositions (mask : List Bool) (width : Nat) : List Nat :=
  (maskedPositions 0 mask).filter (· < width)

theorem mem_keptPositions {mask : List Bool} {width position : Nat} :
    position ∈ keptPositions mask width ↔ position < width ∧ mask[position]? = some true := by
  rw [keptPositions, mem_filter, mem_maskedPositions_iff, decide_eq_true_iff, Nat.sub_zero,
    and_comm]
  exact and_congr_right fun _ => and_iff_right (Nat.zero_le position)

theorem selectMasked_kept (mask : List Bool) (width : Nat) (entries : Nat → Alpha) :
    selectMasked (collateRow false width mask) ((List.range width).map entries) =
      (keptPositions mask width).map entries := by
  rw [selectMasked_eq_filterMap, maskedPositions_collateRow, ← keptPositions]
  conv_rhs => rw [← filterMap_eq_map]
  apply filterMap_congr
  intro position member
  rw [getElem?_map, getElem?_range (mem_keptPositions.mp member).1]
  rfl

theorem layoutWidths_le (miniBatch : List RLPolicyInput) :
    ∀ width ∈ layoutWidths padTokenId seqLenMultiple packingSeq miniBatch,
      width ≤ paddedLen seqLenMultiple miniBatch := by
  intro width member
  rw [layoutWidths, validLengths] at member
  cases packingSeq with
  | false =>
    obtain ⟨sample, -, rfl⟩ := mem_map.mp member
    exact Nat.le_refl _
  | true =>
    refine packSequencesInfoCollect_le ?_ padTokenId seqLenMultiple width member
    intro row inRows
    obtain ⟨sample, -, rfl⟩ := mem_map.mp inRows
    exact length_collateRow _ _ _

/-- The masks of a mini-batch select in every row, among the positions that are kept. -/
theorem layoutSignals_items (items : List Item) (sample : Item → RLPolicyInput)
    (width : Item → Nat) (entries : Item → Nat → Alpha)
    (widths : layoutWidths padTokenId seqLenMultiple packingSeq (items.map sample) =
      items.map width) :
    layoutSignals padTokenId seqLenMultiple packingSeq (items.map sample)
        (items.map fun item =>
          (List.range (paddedLen seqLenMultiple (items.map sample))).map (entries item)) =
      items.flatMap fun item =>
        (keptPositions (sample item).logprobMasks (width item)).map (entries item) := by
  obtain ⟨maxLen, isMaxLen⟩ : ∃ maxLen, paddedLen seqLenMultiple (items.map sample) = maxLen :=
    ⟨_, rfl⟩
  have within : ∀ item ∈ items, width item ≤ maxLen := by
    intro item member
    rw [← isMaxLen]
    apply layoutWidths_le padTokenId seqLenMultiple packingSeq
    rw [widths]
    exact mem_map_of_mem member
  rw [layoutSignals, layoutMasks, isMaxLen, map_map]
  cases packingSeq with
  | false =>
    have full : ∀ item ∈ items, width item = maxLen := by
      have padded : items.map (fun _ => maxLen) = items.map width := by
        rw [← widths, layoutWidths, isMaxLen, map_map]
        rfl
      intro item member
      exact (map_inj_left.mp padded item member).symm
    simp only [validLengths, layOut, selectTokens, Bool.false_eq_true, if_false]
    rw [zipWith_map, zipWith_self, flatMap_def]
    congr 1
    apply map_congr_left
    intro item member
    rw [full item member]
    exact selectMasked_kept _ maxLen _
  | true =>
    have lengths : validLengths padTokenId seqLenMultiple true (items.map sample) =
        some (items.map width) := by
      rw [← widths, layoutWidths, validLengths]
      rfl
    have sameLength : ∀ item ∈ items,
        ((collateRow false maxLen (sample item).logprobMasks).take (width item)).length =
          (((List.range maxLen).map (entries item)).take (width item)).length := by
      intro item _
      rw [length_take, length_take, length_collateRow, length_map, length_range]
    rw [lengths]
    simp only [layOut, selectTokens, Function.comp_def, packSequences_map, zipWith_cons_cons,
      zipWith_nil_left, flatten_singleton]
    rw [selectMasked_flatMap items _ _ sameLength]
    apply flatMap_congr
    intro item member
    rw [take_collateRow (within item member), ← map_take, take_range,
      Nat.min_eq_left (within item member)]
    exact selectMasked_kept _ _ _

end Selection

section Logprobs

variable {Logit Value Row : Type}

theorem shiftPacked_flatMap {Entry : Type} (zero : Entry) (rows : List Row)
    (entries : Row → List Entry) [Decidable (∀ row ∈ rows, entries row ≠ [])] :
    shiftPacked zero (inputPackingMask (rows.map fun row => (entries row).length))
        (labelPackingMask (rows.map fun row => (entries row).length))
        (rows.flatMap entries) =
      if ∀ row ∈ rows, entries row ≠ [] then
        .ok (rows.flatMap fun row => shiftInputIds zero (entries row))
      else .error .indexError := by
  split
  case isTrue filled => exact (shiftPacked_eq_ok_iff zero rows entries _).mpr ⟨filled, rfl⟩
  case isFalse empty =>
    cases shifted : shiftPacked zero (inputPackingMask (rows.map fun row => (entries row).length))
        (labelPackingMask (rows.map fun row => (entries row).length))
        (rows.flatMap entries) with
    | ok result =>
      exact absurd ((shiftPacked_eq_ok_iff zero rows entries result).mp shifted).1 empty
    | error exn =>
      rw [shiftPacked] at shifted
      split at shifted
      case isTrue => cases shifted
      case isFalse =>
        cases shifted
        rfl

variable (logProb : Logit → Nat → Value) (padTokenId : Nat) (logit : Nat → Nat → Logit)

def keptLogprobs (rows : List LossRow) : List Value :=
  rows.flatMap fun row =>
    (keptPositions row.sample.logprobMasks row.width).map fun position =>
      logProb (logit row.index position) (tokenLabel padTokenId row.width row.sample position)

theorem selectMasked_shiftInputIds (sample : RLPolicyInput) (width : Nat) :
    selectMasked (collateRow false width sample.logprobMasks)
        (shiftInputIds 0 (collateRow padTokenId width sample.inputIds)) =
      (keptPositions sample.logprobMasks width).map (tokenLabel padTokenId width sample) := by
  rw [shiftInputIds_collateRow, selectMasked_kept]

theorem zipWith_kept (rows : List LossRow) :
    List.zipWith logProb
        (rows.flatMap fun row =>
          (keptPositions row.sample.logprobMasks row.width).map (logit row.index))
        (rows.flatMap fun row => (keptPositions row.sample.logprobMasks row.width).map
          (tokenLabel padTokenId row.width row.sample)) =
      keptLogprobs logProb padTokenId logit rows := by
  rw [zipWith_flatMap, keptLogprobs]
  · simp only [zipWith_map, zipWith_self]
  · intro row _
    rw [length_map, length_map]

/-- On padded rows, `compute_logprobs` keeps all positions. -/
theorem computeLogprobs_padded {rows : List LossRow} {maxLen : Nat}
    (full : ∀ row ∈ rows, row.width = maxLen) :
    (computeLogprobs logProb none
        (rows.map fun row => collateRow padTokenId maxLen row.sample.inputIds)
        (rows.map fun row => collateRow false maxLen row.sample.logprobMasks)
        (rows.map fun row => (List.range maxLen).map (logit row.index))).map Prod.fst =
      .ok (keptLogprobs logProb padTokenId logit rows) := by
  have logits : selectTokens
      (rows.map fun row => collateRow false maxLen row.sample.logprobMasks)
      (rows.map fun row => (List.range maxLen).map (logit row.index)) =
        rows.flatMap fun row =>
          (keptPositions row.sample.logprobMasks row.width).map (logit row.index) := by
    rw [selectTokens, zipWith_map, zipWith_self, flatMap_def]
    congr 1
    apply map_congr_left
    intro row member
    rw [full row member, selectMasked_kept]
  have labels : selectTokens
      (rows.map fun row => collateRow false maxLen row.sample.logprobMasks)
      (rows.map fun row => shiftInputIds 0 (collateRow padTokenId maxLen row.sample.inputIds)) =
        rows.flatMap fun row => (keptPositions row.sample.logprobMasks row.width).map
          (tokenLabel padTokenId row.width row.sample) := by
    rw [selectTokens, zipWith_map, zipWith_self, flatMap_def]
    congr 1
    apply map_congr_left
    intro row member
    rw [full row member, selectMasked_shiftInputIds]
  simp only [computeLogprobs, bind, Except.bind, Except.map, map_map, Function.comp_def]
  rw [logits, labels, zipWith_kept]

/-- On packed rows, `compute_logprobs` keeps the positions within the widths, unless a row
is empty. -/
theorem computeLogprobs_packed {rows : List LossRow} {maxLen : Nat}
    (within : ∀ row ∈ rows, row.width ≤ maxLen) :
    (computeLogprobs logProb (some (rows.map LossRow.width))
        (layOut (some (rows.map LossRow.width))
          (rows.map fun row => collateRow padTokenId maxLen row.sample.inputIds))
        (layOut (some (rows.map LossRow.width))
          (rows.map fun row => collateRow false maxLen row.sample.logprobMasks))
        (layOut (some (rows.map LossRow.width))
          (rows.map fun row => (List.range maxLen).map (logit row.index)))).map Prod.fst =
      if ∀ row ∈ rows, 0 < row.width then
        .ok (keptLogprobs logProb padTokenId logit rows)
      else .error .indexError := by
  have packed : ∀ {Entry : Type} (filler : Entry) (entries : LossRow → List Entry),
      (rows.flatMap fun row => (collateRow filler maxLen (entries row)).take row.width) =
        rows.flatMap fun row => collateRow filler row.width (entries row) := by
    intro Entry filler entries
    apply flatMap_congr
    intro row member
    exact take_collateRow (within row member)
  have packedLogits : (rows.flatMap fun row =>
      ((List.range maxLen).map (logit row.index)).take row.width) =
        rows.flatMap fun row => (List.range row.width).map (logit row.index) := by
    apply flatMap_congr
    intro row member
    rw [← map_take, take_range, Nat.min_eq_left (within row member)]
  have filled : (∀ row ∈ rows, collateRow padTokenId row.width row.sample.inputIds ≠ []) ↔
      ∀ row ∈ rows, 0 < row.width := by
    refine forall_congr' fun row => forall_congr' fun _ => ?_
    rw [← length_pos_iff, length_collateRow]
  have shifted := shiftPacked_flatMap 0 rows fun row =>
    collateRow padTokenId row.width row.sample.inputIds
  simp only [length_collateRow, filled] at shifted
  simp only [computeLogprobs, layOut, packSequences_map, packed, packedLogits, bind, Except.bind,
    mapM_except_cons, mapM_nil, pure, Except.pure, shifted]
  by_cases positive : ∀ row ∈ rows, 0 < row.width
  · rw [if_pos positive, if_pos positive]
    simp only [Except.map, selectTokens, zipWith_cons_cons, zipWith_nil_left,
      flatten_cons, flatten_nil, append_nil]
    rw [selectMasked_flatMap rows _ _ fun row _ => by
        rw [length_collateRow, length_map, length_range],
      selectMasked_flatMap rows _ _ fun row _ => by
        rw [length_collateRow, length_shiftInputIds, length_collateRow]]
    simp only [selectMasked_kept, selectMasked_shiftInputIds, zipWith_kept]
  · rw [if_neg positive, if_neg positive]
    rfl

end Logprobs

end CosmosRl.Policy
