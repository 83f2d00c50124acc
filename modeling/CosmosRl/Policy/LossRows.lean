import CosmosRl.Policy.LossLayout

/-!
The trained tokens of a mini-batch, row by row.

A row keeps some positions of its sample, all of the padded length or the valid part of
it.  As soon as it keeps the tokens, its trained tokens are those of its sample, and only
the label of the last token depends on the layout.
-/

namespace CosmosRl.Policy

open CosmosRl.Data CosmosRl.Foundation CosmosRl.Utils List
open CosmosRl.Dispatcher (PyError)

def trainedPositions (sample : RLPolicyInput) : List Nat :=
  maskedPositions 0 sample.logprobMasks

structure Packable (padTokenId : Nat) (sample : RLPolicyInput) : Prop where
  unpadded : padTokenId ∉ sample.inputIds
  marksTokens : ∀ position ∈ trainedPositions sample, position < sample.inputIds.length

structure LossRow where
  sample : RLPolicyInput
  index : Nat
  width : Nat

def LossRow.trained (row : LossRow) : Nat := (trainedPositions row.sample).length

/-- The label of a position in a row that keeps `width` of its positions. -/
def tokenLabel (padTokenId width : Nat) (sample : RLPolicyInput) (position : Nat) : Nat :=
  if position + 1 < width then sample.inputIds.getD (position + 1) padTokenId else 0

/-- The rows of a layout of tensors with `maxLen` positions. -/
structure LaidOut (validInputLen : Option (List Nat)) (maxLen : Nat) (rows : List LossRow) :
    Prop where
  widths : validInputLen = some (rows.map LossRow.width) ∨
    (validInputLen = none ∧ ∀ row ∈ rows, row.width = maxLen)
  within : ∀ row ∈ rows, row.width ≤ maxLen
  keepsTokens : ∀ row ∈ rows, row.sample.inputIds.length ≤ row.width

section Rows

variable {Alpha : Type}

theorem collateRow_eq_map (pad : Alpha) (width : Nat) (row : List Alpha) :
    collateRow pad width row = (List.range width).map fun position => row.getD position pad := by
  apply ext_getElem?
  intro position
  rw [collateRow, getElem?_append, length_take, getElem?_map]
  by_cases inside : position < width
  · rw [getElem?_range inside, Option.map_some, getD_eq_getElem?_getD]
    by_cases present : position < row.length
    · rw [if_pos (by omega), getElem?_take_of_lt inside, getElem?_eq_getElem present,
        Option.getD_some]
    · rw [if_neg (by omega), getElem?_replicate, if_pos (by omega),
        getElem?_eq_none_iff.mpr (by omega), Option.getD_none]
  · have outside : (List.range width)[position]? = none :=
      getElem?_eq_none_iff.mpr (by simpa using inside)
    rw [outside, Option.map_none, if_neg (by omega), getElem?_replicate, if_neg (by omega)]

variable {width : Nat} {sample : RLPolicyInput}

theorem take_collateRow {pad : Alpha} {maxLen : Nat} {row : List Alpha} (within : width ≤ maxLen) :
    (collateRow pad maxLen row).take width = collateRow pad width row := by
  rw [collateRow_eq_map, collateRow_eq_map, ← map_take, take_range, Nat.min_eq_left within]

theorem selectMasked_map
    (marked : ∀ position ∈ trainedPositions sample, position < width) (entries : Nat → Alpha) :
    selectMasked (collateRow false width sample.logprobMasks)
        ((List.range width).map entries) =
      (trainedPositions sample).map entries := by
  rw [selectMasked_eq_filterMap, maskedPositions_collateRow]
  have all : (maskedPositions 0 sample.logprobMasks).filter (· < width) =
      trainedPositions sample := by
    rw [trainedPositions, filter_eq_self]
    exact fun position member => decide_eq_true (marked position member)
  rw [all]
  conv_rhs => rw [← filterMap_eq_map]
  apply filterMap_congr
  intro position member
  rw [getElem?_map, getElem?_range (marked position member)]
  rfl

theorem shiftInputIds_collateRow {padTokenId : Nat} (sample : RLPolicyInput) :
    shiftInputIds 0 (collateRow padTokenId width sample.inputIds) =
      (List.range width).map (tokenLabel padTokenId width sample) := by
  apply ext_getElem?
  intro position
  rw [getElem?_shiftInputIds, length_collateRow, getElem?_map]
  by_cases inside : position < width
  · rw [getElem?_range inside, Option.map_some, tokenLabel]
    by_cases inner : position + 1 < width
    · rw [if_pos inner, if_pos inner, collateRow_eq_map, getElem?_map,
        getElem?_range inner, Option.map_some]
    · rw [if_neg inner, if_neg inner, if_pos inside]
  · have outside : (List.range width)[position]? = none :=
      getElem?_eq_none_iff.mpr (by simpa using inside)
    rw [outside, Option.map_none, if_neg (by omega), if_neg inside]

theorem count_true_eq_length (offset : Nat) (mask : List Bool) :
    mask.count true = (maskedPositions offset mask).length := by
  induction mask generalizing offset with
  | nil => rfl
  | cons marked mask ih =>
    cases marked with
    | false => rw [maskedPositions_false, ← ih (offset + 1)]; simp
    | true =>
      rw [maskedPositions_true, length_cons, ← ih (offset + 1)]
      simp

theorem count_collateRow (marked : ∀ position ∈ trainedPositions sample, position < width) :
    (collateRow false width sample.logprobMasks).count true =
      (trainedPositions sample).length := by
  rw [count_true_eq_length 0, maskedPositions_collateRow, trainedPositions]
  congr 1
  rw [filter_eq_self]
  exact fun position member => decide_eq_true (marked position member)

end Rows

section Layouts

variable {Alpha : Type} {validInputLen : Option (List Nat)} {maxLen : Nat}
  {rows : List LossRow}

def layoutSeqlens (validInputLen : Option (List Nat)) (rows : List LossRow) : List Nat :=
  match validInputLen with
  | some _ => [(rows.map LossRow.trained).sum]
  | none => rows.map LossRow.trained

theorem selectTokens_layOut (laidOut : LaidOut validInputLen maxLen rows)
    (masks : LossRow → List Bool) (entries : LossRow → List Alpha)
    (masksLength : ∀ row ∈ rows, (masks row).length = maxLen)
    (entriesLength : ∀ row ∈ rows, (entries row).length = maxLen) :
    selectTokens (layOut validInputLen (rows.map masks))
        (layOut validInputLen (rows.map entries)) =
      rows.flatMap fun row =>
        selectMasked ((masks row).take row.width) ((entries row).take row.width) := by
  rcases laidOut.widths with rfl | ⟨rfl, padded⟩
  · rw [layOut, layOut, packSequences_map, packSequences_map, selectTokens, zipWith_cons_cons,
      zipWith_nil_left, flatten_cons, flatten_nil, append_nil]
    apply selectMasked_flatMap
    intro row member
    rw [length_take, length_take, masksLength row member, entriesLength row member]
  · rw [layOut, layOut, selectTokens, zipWith_map, zipWith_self, flatMap_def]
    congr 1
    apply map_congr_left
    intro row member
    rw [padded row member, take_of_length_le (Nat.le_of_eq (masksLength row member)),
      take_of_length_le (Nat.le_of_eq (entriesLength row member))]

variable {padTokenId : Nat} (packable : ∀ row ∈ rows, Packable padTokenId row.sample)
include packable

section

variable (laidOut : LaidOut validInputLen maxLen rows)

include laidOut

theorem marked_of_laidOut {row : LossRow}
    (member : row ∈ rows) : ∀ position ∈ trainedPositions row.sample, position < row.width :=
  fun position trained => Nat.lt_of_lt_of_le
    ((packable row member).marksTokens position trained) (laidOut.keepsTokens row member)

theorem selectTokens_positions (entries : LossRow → Nat → Alpha) :
    selectTokens
        (layOut validInputLen (rows.map fun row =>
          collateRow false maxLen row.sample.logprobMasks))
        (layOut validInputLen (rows.map fun row => (List.range maxLen).map (entries row))) =
      rows.flatMap fun row => (trainedPositions row.sample).map (entries row) := by
  rw [selectTokens_layOut laidOut _ _ (fun row _ => length_collateRow _ _ _)
    (fun row _ => by rw [length_map, length_range]), flatMap_def,
    flatMap_def]
  congr 1
  apply map_congr_left
  intro row member
  have within := laidOut.within row member
  rw [take_collateRow within, ← map_take, take_range, Nat.min_eq_left within,
    selectMasked_map (marked_of_laidOut packable laidOut member)]

theorem count_layOut :
    (layOut validInputLen (rows.map fun row =>
        collateRow false maxLen row.sample.logprobMasks)).map (fun mask => mask.count true) =
      layoutSeqlens validInputLen rows := by
  have counted : ∀ row ∈ rows,
      ((collateRow false maxLen row.sample.logprobMasks).take row.width).count true =
        row.trained := by
    intro row member
    rw [take_collateRow (laidOut.within row member),
      count_collateRow (marked_of_laidOut packable laidOut member), LossRow.trained]
  rcases laidOut.widths with rfl | ⟨rfl, padded⟩
  · rw [layOut, layoutSeqlens, packSequences_map, map_cons, map_nil, count_flatMap]
    congr 2
    exact map_congr_left counted
  · rw [layOut, layoutSeqlens, map_map]
    apply map_congr_left
    intro row member
    rw [← counted row member, padded row member,
      take_of_length_le (Nat.le_of_eq (length_collateRow _ _ _))]
    rfl

end

/-- Every layout computes the log probabilities of the trained tokens, row by row. -/
theorem computeLogprobs_layOut {Logit Value : Type} (logProb : Logit → Nat → Value)
    (laidOut : LaidOut validInputLen maxLen rows)
    (filled : validInputLen ≠ none → ∀ row ∈ rows, 0 < row.width) (logit : Nat → Nat → Logit) :
    computeLogprobs logProb validInputLen
        (layOut validInputLen (rows.map fun row =>
          collateRow padTokenId maxLen row.sample.inputIds))
        (layOut validInputLen (rows.map fun row =>
          collateRow false maxLen row.sample.logprobMasks))
        (layOut validInputLen (rows.map fun row =>
          (List.range maxLen).map (logit row.index))) =
      .ok (rows.flatMap fun row => (trainedPositions row.sample).map fun position =>
          logProb (logit row.index position)
            (tokenLabel padTokenId row.width row.sample position),
        layoutSeqlens validInputLen rows) := by
  have logits := selectTokens_positions packable laidOut fun row => logit row.index
  have counts := count_layOut packable laidOut
  have labels : ∀ row ∈ rows,
      selectMasked ((collateRow false maxLen row.sample.logprobMasks).take row.width)
          (shiftInputIds 0 ((collateRow padTokenId maxLen row.sample.inputIds).take row.width)) =
        (trainedPositions row.sample).map (tokenLabel padTokenId row.width row.sample) := by
    intro row member
    have within := laidOut.within row member
    rw [take_collateRow within, take_collateRow within, shiftInputIds_collateRow,
      selectMasked_map (marked_of_laidOut packable laidOut member)]
  have combined : List.zipWith logProb
        (rows.flatMap fun row => (trainedPositions row.sample).map (logit row.index))
        (rows.flatMap fun row => (trainedPositions row.sample).map
          (tokenLabel padTokenId row.width row.sample)) =
      rows.flatMap fun row => (trainedPositions row.sample).map fun position =>
        logProb (logit row.index position)
          (tokenLabel padTokenId row.width row.sample position) := by
    rw [zipWith_flatMap]
    · simp only [zipWith_map, zipWith_self]
    · intro row _
      rw [length_map, length_map]
  unfold computeLogprobs
  rw [counts, logits, ← combined]
  rcases laidOut.widths with rfl | ⟨rfl, padded⟩
  · have kept : ∀ row ∈ rows,
        ((collateRow padTokenId maxLen row.sample.inputIds).take row.width).length =
          row.width := by
      intro row member
      rw [take_collateRow (laidOut.within row member), length_collateRow]
    have shifted := (shiftPacked_eq_ok_iff 0 rows (fun row =>
      (collateRow padTokenId maxLen row.sample.inputIds).take row.width) _).mpr
        ⟨fun row member empty => ?_, rfl⟩
    · rw [map_congr_left kept] at shifted
      have selected := selectMasked_flatMap rows
        (fun row => (collateRow false maxLen row.sample.logprobMasks).take row.width)
        (fun row => shiftInputIds 0
          ((collateRow padTokenId maxLen row.sample.inputIds).take row.width))
        (by
          intro row member
          rw [length_shiftInputIds, kept row member, take_collateRow (laidOut.within row member),
            length_collateRow])
      rw [flatMap_congr labels] at selected
      simp only [layOut, packSequences_map, bind, Except.bind, mapM_except_cons, mapM_nil,
        pure, Except.pure, shifted, selectTokens, zipWith_cons_cons, zipWith_nil_left,
        flatten_cons, flatten_nil, append_nil, selected]
    · have lengths := kept row member
      rw [empty] at lengths
      exact absurd lengths (Nat.ne_of_lt (filled (by simp) row member))
  · have selected : (rows.map fun row => selectMasked
          (collateRow false maxLen row.sample.logprobMasks)
          (shiftInputIds 0 (collateRow padTokenId maxLen row.sample.inputIds))) =
        rows.map fun row => (trainedPositions row.sample).map
          (tokenLabel padTokenId row.width row.sample) := by
      apply map_congr_left
      intro row member
      rw [← labels row member, padded row member,
        take_of_length_le (Nat.le_of_eq (length_collateRow _ _ _)),
        take_of_length_le (Nat.le_of_eq (length_collateRow _ _ _))]
    simp only [layOut, bind, Except.bind, map_map, Function.comp_def, selectTokens,
      zipWith_map, zipWith_self, selected, flatMap_def]

end Layouts

section Widths

def paddingNeeded (seqLenMultiple : Nat) (miniBatch : List RLPolicyInput) : Nat :=
  let total := (miniBatch.map fun sample => sample.inputIds.length).sum
  (total + seqLenMultiple - 1) / seqLenMultiple * seqLenMultiple - total

def roomBefore (seqLenMultiple : Nat) (miniBatch : List RLPolicyInput) (index : Nat) : Nat :=
  ((miniBatch.take index).map fun sample =>
    paddedLen seqLenMultiple miniBatch - sample.inputIds.length).sum

def ReceivesPadding (seqLenMultiple : Nat) (miniBatch : List RLPolicyInput) (index : Nat)
    (sample : RLPolicyInput) : Prop :=
  sample.inputIds.length < paddedLen seqLenMultiple miniBatch ∧
    roomBefore seqLenMultiple miniBatch index < paddingNeeded seqLenMultiple miniBatch

theorem validLength_collateRow {padTokenId maxLen : Nat} {sample : RLPolicyInput}
    (unpadded : padTokenId ∉ sample.inputIds) (fits : sample.inputIds.length ≤ maxLen) :
    validLength padTokenId (collateRow padTokenId maxLen sample.inputIds) =
      sample.inputIds.length := by
  rw [validLength, collateRow, take_of_length_le fits, reverse_append,
    reverse_replicate, dropWhile_append_of_pos (by simp)]
  rcases eq_nil_or_concat sample.inputIds with tokens | ⟨front, last, tokens⟩
  · rw [tokens]
    rfl
  · have notPad : (last == padTokenId) = false := by
      rw [beq_eq_false_iff_ne]
      rintro rfl
      exact unpadded (by rw [tokens]; simp)
    rw [tokens, concat_eq_append, reverse_append, reverse_singleton,
      singleton_append, dropWhile_cons_of_neg (by simp [notPad])]
    simp

def layoutWidths (padTokenId seqLenMultiple : Nat) (packingSeq : Bool)
    (miniBatch : List RLPolicyInput) : List Nat :=
  (validLengths padTokenId seqLenMultiple packingSeq miniBatch).getD
    (miniBatch.map fun _ => paddedLen seqLenMultiple miniBatch)

def lossRows (padTokenId seqLenMultiple : Nat) (packingSeq : Bool)
    (miniBatch : List RLPolicyInput) : List LossRow :=
  (miniBatch.zip ((List.range miniBatch.length).zip
    (layoutWidths padTokenId seqLenMultiple packingSeq miniBatch))).map fun entry =>
      ⟨entry.1, entry.2.1, entry.2.2⟩

variable (padTokenId seqLenMultiple : Nat) (packingSeq : Bool) (miniBatch : List RLPolicyInput)

theorem length_layoutWidths :
    (layoutWidths padTokenId seqLenMultiple packingSeq miniBatch).length =
      miniBatch.length := by
  rw [layoutWidths, validLengths]
  cases packingSeq with
  | false => simp
  | true =>
    rw [if_pos rfl, Option.getD_some, length_packSequencesInfoCollect, length_map]

theorem map_sample_lossRows :
    (lossRows padTokenId seqLenMultiple packingSeq miniBatch).map LossRow.sample =
      miniBatch := by
  rw [lossRows, map_map]
  apply map_fst_zip
  rw [length_zip, length_range, length_layoutWidths, Nat.min_self]

theorem map_layout_lossRows :
    (lossRows padTokenId seqLenMultiple packingSeq miniBatch).map
        (fun row => (row.index, row.width)) =
      (List.range miniBatch.length).zip
        (layoutWidths padTokenId seqLenMultiple packingSeq miniBatch) := by
  rw [lossRows, map_map]
  apply map_snd_zip
  rw [length_zip, length_range, length_layoutWidths, Nat.min_self]

theorem map_index_lossRows :
    (lossRows padTokenId seqLenMultiple packingSeq miniBatch).map LossRow.index =
      List.range miniBatch.length := by
  have layout := map_layout_lossRows padTokenId seqLenMultiple packingSeq miniBatch
  have indices := congrArg (List.map Prod.fst) layout
  rw [map_map, map_fst_zip] at indices
  · exact indices
  · rw [length_range, length_layoutWidths]

theorem map_width_lossRows :
    (lossRows padTokenId seqLenMultiple packingSeq miniBatch).map LossRow.width =
      layoutWidths padTokenId seqLenMultiple packingSeq miniBatch := by
  have layout := map_layout_lossRows padTokenId seqLenMultiple packingSeq miniBatch
  have widths := congrArg (List.map Prod.snd) layout
  rw [map_map, map_snd_zip] at widths
  · exact widths
  · rw [length_range, length_layoutWidths]

theorem map_samples {Alpha : Type} (entries : RLPolicyInput → Alpha) :
    (lossRows padTokenId seqLenMultiple packingSeq miniBatch).map
        (fun row => entries row.sample) = miniBatch.map entries := by
  conv_rhs => rw [← map_sample_lossRows padTokenId seqLenMultiple packingSeq miniBatch]
  rw [map_map]
  rfl

theorem map_indices {Alpha : Type} (entries : Nat → Alpha) :
    (lossRows padTokenId seqLenMultiple packingSeq miniBatch).map
        (fun row => entries row.index) = (List.range miniBatch.length).map entries := by
  conv_rhs => rw [← map_index_lossRows padTokenId seqLenMultiple packingSeq miniBatch]
  rw [map_map]
  rfl

variable {row : LossRow}

variable {miniBatch} in
theorem sample_mem_of_lossRows
    (member : row ∈ lossRows padTokenId seqLenMultiple packingSeq miniBatch) :
    row.sample ∈ miniBatch := by
  rw [← map_sample_lossRows padTokenId seqLenMultiple packingSeq miniBatch]
  exact mem_map_of_mem member

variable {padTokenId seqLenMultiple miniBatch}

theorem getElem?_lossRows (index : Nat) (row : LossRow) :
    (lossRows padTokenId seqLenMultiple packingSeq miniBatch)[index]? = some row ↔
      row.index = index ∧ miniBatch[index]? = some row.sample ∧
        (layoutWidths padTokenId seqLenMultiple packingSeq miniBatch)[index]? =
          some row.width := by
  rw [lossRows, getElem?_map, Option.map_eq_some_iff]
  constructor
  · rintro ⟨⟨sample, position, width⟩, found, rfl⟩
    obtain ⟨sampleAt, rest⟩ := getElem?_zip_eq_some.mp found
    obtain ⟨positionAt, widthAt⟩ := getElem?_zip_eq_some.mp rest
    obtain ⟨_, same⟩ := List.getElem?_eq_some_iff.mp positionAt
    rw [getElem_range] at same
    exact ⟨same.symm, sampleAt, widthAt⟩
  · rintro ⟨rfl, sampleAt, widthAt⟩
    obtain ⟨inside, _⟩ := List.getElem?_eq_some_iff.mp sampleAt
    refine ⟨(row.sample, row.index, row.width), ?_, rfl⟩
    exact getElem?_zip_eq_some.mpr ⟨sampleAt,
      getElem?_zip_eq_some.mpr ⟨getElem?_range inside, widthAt⟩⟩

theorem getElem?_of_mem_lossRows
    (member : row ∈ lossRows padTokenId seqLenMultiple packingSeq miniBatch) :
    (lossRows padTokenId seqLenMultiple packingSeq miniBatch)[row.index]? = some row := by
  obtain ⟨index, rowAt⟩ := mem_iff_getElem?.mp member
  rwa [((getElem?_lossRows packingSeq index row).mp rowAt).1]

section

variable (positive : 0 < seqLenMultiple)

include positive

theorem layoutWidths_packed (packable : ∀ sample ∈ miniBatch, Packable padTokenId sample) :
    layoutWidths padTokenId seqLenMultiple true miniBatch =
      spreadPadding (paddedLen seqLenMultiple miniBatch) (paddingNeeded seqLenMultiple miniBatch)
        (miniBatch.map fun sample => sample.inputIds.length) := by
  have valid : computeValidLengths (miniBatch.map fun sample =>
        collateRow padTokenId (paddedLen seqLenMultiple miniBatch) sample.inputIds) padTokenId =
      miniBatch.map fun sample => sample.inputIds.length := by
    rw [computeValidLengths, map_map]
    apply map_congr_left
    intro sample member
    exact validLength_collateRow (packable sample member).unpadded
      (length_le_computedMaxLen positive member)
  rw [layoutWidths, validLengths, if_pos rfl, Option.getD_some, packSequencesInfoCollect, valid]
  cases miniBatch with
  | nil => rfl
  | cons sample miniBatch =>
    rw [map_cons, headD_cons, length_collateRow]
    rfl

theorem width_packed (packable : ∀ sample ∈ miniBatch, Packable padTokenId sample)
    (member : row ∈ lossRows padTokenId seqLenMultiple true miniBatch) :
    row.width = row.sample.inputIds.length +
      min (paddingNeeded seqLenMultiple miniBatch - roomBefore seqLenMultiple miniBatch row.index)
        (paddedLen seqLenMultiple miniBatch - row.sample.inputIds.length) := by
  obtain ⟨-, sampleAt, widthAt⟩ := (getElem?_lossRows true row.index row).mp
    (getElem?_of_mem_lossRows true member)
  rw [layoutWidths_packed positive packable, getElem?_spreadPadding, getElem?_map,
    sampleAt, Option.map_some, Option.map_some, Option.some.injEq] at widthAt
  rw [← widthAt, ← map_take, map_map]
  rfl

theorem lt_width_packed_iff (packable : ∀ sample ∈ miniBatch, Packable padTokenId sample)
    (member : row ∈ lossRows padTokenId seqLenMultiple true miniBatch) :
    row.sample.inputIds.length < row.width ↔
      ReceivesPadding seqLenMultiple miniBatch row.index row.sample := by
  rw [width_packed positive packable member, ReceivesPadding]
  omega

/-- The rows of a mini-batch of packable samples keep all tokens in both layouts. -/
theorem lossRows_laidOut (packable : ∀ sample ∈ miniBatch, Packable padTokenId sample) :
    LaidOut (validLengths padTokenId seqLenMultiple packingSeq miniBatch)
      (paddedLen seqLenMultiple miniBatch)
      (lossRows padTokenId seqLenMultiple packingSeq miniBatch) := by
  have widths := map_width_lossRows padTokenId seqLenMultiple packingSeq miniBatch
  have kept : ∀ row ∈ lossRows padTokenId seqLenMultiple packingSeq miniBatch,
      row.width ∈ layoutWidths padTokenId seqLenMultiple packingSeq miniBatch := by
    intro row member
    rw [← widths]
    exact mem_map_of_mem member
  cases packingSeq with
  | false =>
    have padded : ∀ row ∈ lossRows padTokenId seqLenMultiple false miniBatch,
        row.width = paddedLen seqLenMultiple miniBatch := by
      intro row member
      obtain ⟨_, _, same⟩ := mem_map.mp (kept row member)
      exact same.symm
    refine ⟨Or.inr ⟨rfl, padded⟩, fun row member => Nat.le_of_eq (padded row member), ?_⟩
    intro row member
    rw [padded row member]
    exact length_le_computedMaxLen positive
      (sample_mem_of_lossRows padTokenId seqLenMultiple false member)
  | true =>
    refine ⟨Or.inl (congrArg some widths.symm), ?_, ?_⟩
    · intro row member
      apply packSequencesInfoCollect_le _ padTokenId seqLenMultiple row.width (kept row member)
      intro ids idsMember
      obtain ⟨sample, _, rfl⟩ := mem_map.mp idsMember
      exact length_collateRow _ _ _
    · intro row member
      rw [width_packed positive packable member]
      exact Nat.le_add_right _ _

end

end Widths

section Signals

variable {Value : Type} [Field Value] [LinearOrder Value] (exp : Value → Value)
  (options : LossOptions Value) (tuning : LossTuning Value) {padTokenId seqLenMultiple : Nat}
  {Logit : Type} (logProb : Logit → Nat → Value) (entropy : Logit → Value)

variable (padTokenId) in
def rowLogps (rows : List LossRow) (logit : Nat → Nat → Logit) : List Value :=
  rows.flatMap fun row => (trainedPositions row.sample).map fun position =>
    logProb (logit row.index position)
      (tokenLabel padTokenId row.width row.sample position)

variable (padTokenId) in
def rowSignals (rows : List LossRow) (values : MiniBatchValues Logit Value) :
    LossSignals Value where
  currentTokenLogps := rowLogps padTokenId logProb rows values.logit
  oldPerTokenLogps :=
    match values.oldPolicy with
    | .current => rowLogps padTokenId logProb rows values.logit
    | .computed logit => rowLogps padTokenId logProb rows logit
    | .rollout logprobs => logprobs.flatten
  refPerTokenLogps := values.refLogit.map (rowLogps padTokenId logProb rows)
  rolloutPerTokenLogps := values.rolloutLogprobs
  advantages := rows.flatMap fun row =>
    (trainedPositions row.sample).map fun _ => values.advantage row.index
  teacherLogprobs := rows.flatMap fun row => (trainedPositions row.sample).map fun position =>
    (values.teacherLogprobs row.index ++ [0]).getD position 0
  entropies := rows.flatMap fun row => (trainedPositions row.sample).map fun position =>
    entropy (values.logit row.index position)

omit [Field Value] [LinearOrder Value] in
theorem packedAdvantages_eq {maxLen : Nat} {rows : List LossRow}
    (within : ∀ row ∈ rows, row.width ≤ maxLen) (advantage : Nat → Value) :
    [(List.zipWith (fun length index => List.replicate length (advantage index))
        (rows.map LossRow.width) (rows.map LossRow.index)).flatten] =
      layOut (some (rows.map LossRow.width))
        (rows.map fun row => (List.range maxLen).map fun _ => advantage row.index) := by
  rw [layOut, packSequences_map, zipWith_map, zipWith_self, flatMap_def]
  congr 2
  apply map_congr_left
  intro row member
  rw [map_const', length_range, take_replicate, Nat.min_eq_left (within row member)]

section Reading

variable (positive : 0 < seqLenMultiple) {miniBatch : List RLPolicyInput}
  (packable : ∀ sample ∈ miniBatch, Packable padTokenId sample) (packingSeq : Bool)
include positive packable

omit positive in
theorem packable_lossRows :
    ∀ row ∈ lossRows padTokenId seqLenMultiple packingSeq miniBatch,
      Packable padTokenId row.sample := fun row member =>
  packable row.sample (sample_mem_of_lossRows padTokenId seqLenMultiple packingSeq member)

omit [Field Value] [LinearOrder Value] in
theorem evaluateModel_eq
    (filled : packingSeq = true →
      ∀ row ∈ lossRows padTokenId seqLenMultiple packingSeq miniBatch, 0 < row.width)
    (logit : Nat → Nat → Logit) :
    evaluateModel padTokenId seqLenMultiple packingSeq miniBatch logProb logit =
      .ok (rowLogps padTokenId logProb
          (lossRows padTokenId seqLenMultiple packingSeq miniBatch) logit,
        layoutSeqlens (validLengths padTokenId seqLenMultiple packingSeq miniBatch)
          (lossRows padTokenId seqLenMultiple packingSeq miniBatch)) := by
  have packs : validLengths padTokenId seqLenMultiple packingSeq miniBatch ≠ none →
      packingSeq = true := by
    intro packed
    by_contra unpacked
    exact packed (if_neg unpacked)
  have computed := computeLogprobs_layOut (packable_lossRows packable packingSeq) logProb
    (lossRows_laidOut packingSeq positive packable) (fun packed => filled (packs packed)) logit
  have ids := map_samples padTokenId seqLenMultiple packingSeq miniBatch fun sample =>
    collateRow padTokenId (paddedLen seqLenMultiple miniBatch) sample.inputIds
  have masks := map_samples padTokenId seqLenMultiple packingSeq miniBatch fun sample =>
    collateRow false (paddedLen seqLenMultiple miniBatch) sample.logprobMasks
  have logits := map_indices padTokenId seqLenMultiple packingSeq miniBatch fun index =>
    (List.range (paddedLen seqLenMultiple miniBatch)).map (logit index)
  rw [ids, masks, logits] at computed
  exact computed

section

omit [LinearOrder Value] [Field Value]

theorem layoutSignals_eq {Alpha : Type} (entries : Nat → Nat → Alpha) :
    layoutSignals padTokenId seqLenMultiple packingSeq miniBatch
        ((List.range miniBatch.length).map fun index =>
          (List.range (paddedLen seqLenMultiple miniBatch)).map (entries index)) =
      (lossRows padTokenId seqLenMultiple packingSeq miniBatch).flatMap fun row =>
        (trainedPositions row.sample).map (entries row.index) := by
  have selected := selectTokens_positions (packable_lossRows packable packingSeq)
    (lossRows_laidOut packingSeq positive packable) fun row => entries row.index
  have masks := map_samples padTokenId seqLenMultiple packingSeq miniBatch fun sample =>
    collateRow false (paddedLen seqLenMultiple miniBatch) sample.logprobMasks
  have signals := map_indices padTokenId seqLenMultiple packingSeq miniBatch fun index =>
    (List.range (paddedLen seqLenMultiple miniBatch)).map (entries index)
  rw [masks, signals] at selected
  exact selected

theorem minibatchedAdvantages_eq (advantage : Nat → Value) :
    minibatchedAdvantages padTokenId seqLenMultiple packingSeq miniBatch advantage =
      layOut (validLengths padTokenId seqLenMultiple packingSeq miniBatch)
        ((List.range miniBatch.length).map fun index =>
          (List.range (paddedLen seqLenMultiple miniBatch)).map fun _ => advantage index) := by
  have laidOut := lossRows_laidOut packingSeq positive packable
  cases packingSeq with
  | false =>
    simp only [minibatchedAdvantages, validLengths, layOut, map_const', length_range,
      Bool.false_eq_true, if_false]
  | true =>
    have packed := packedAdvantages_eq laidOut.within advantage
    rw [map_width_lossRows, map_index_lossRows,
      map_indices padTokenId seqLenMultiple true miniBatch fun index =>
        (List.range (paddedLen seqLenMultiple miniBatch)).map fun _ => advantage index] at packed
    exact packed

end

omit [Field Value] [LinearOrder Value] in
theorem evaluateModel_of_empty {row : LossRow}
    (member : row ∈ lossRows padTokenId seqLenMultiple true miniBatch)
    (empty : row.width = 0) (logit : Nat → Nat → Logit) :
    evaluateModel padTokenId seqLenMultiple true miniBatch logProb logit =
      .error .indexError := by
  have laidOut := lossRows_laidOut true positive packable
  have widths : validLengths padTokenId seqLenMultiple true miniBatch =
      some ((lossRows padTokenId seqLenMultiple true miniBatch).map LossRow.width) := by
    rcases laidOut.widths with given | ⟨given, -⟩
    · exact given
    · cases given
  have kept : ∀ other ∈ lossRows padTokenId seqLenMultiple true miniBatch,
      ((collateRow padTokenId (paddedLen seqLenMultiple miniBatch)
        other.sample.inputIds).take other.width).length = other.width := by
    intro other otherMember
    rw [length_take, length_collateRow, Nat.min_eq_left (laidOut.within other otherMember)]
  have ids := map_samples padTokenId seqLenMultiple true miniBatch fun sample =>
    collateRow padTokenId (paddedLen seqLenMultiple miniBatch) sample.inputIds
  have shifted := shiftPacked_of_empty 0 (fun other : LossRow =>
    (collateRow padTokenId (paddedLen seqLenMultiple miniBatch)
      other.sample.inputIds).take other.width) member
    (length_eq_zero_iff.mp ((kept row member).trans empty))
  rw [map_congr_left kept] at shifted
  unfold evaluateModel computeLogprobs
  dsimp only
  rw [widths, ← ids]
  simp only [layOut, packSequences_map, bind, Except.bind, mapM_except_cons, shifted]

/-- Both layouts compute the loss of the signals of their rows. -/
theorem miniBatchLoss_eq
    (filled : packingSeq = true →
      ∀ row ∈ lossRows padTokenId seqLenMultiple packingSeq miniBatch, 0 < row.width)
    (workers : DpWorkers) (lossScalingFactor : Value) (values : MiniBatchValues Logit Value) :
    miniBatchLoss exp options tuning padTokenId seqLenMultiple logProb entropy packingSeq
        workers lossScalingFactor miniBatch values =
      trainingLoss exp options tuning workers lossScalingFactor
        ((List.range miniBatch.length).map values.positiveFlag)
        (layoutSeqlens (validLengths padTokenId seqLenMultiple packingSeq miniBatch)
          (lossRows padTokenId seqLenMultiple packingSeq miniBatch))
        (rowSignals padTokenId logProb entropy
          (lossRows padTokenId seqLenMultiple packingSeq miniBatch) values) := by
  have evaluates := evaluateModel_eq logProb positive packable packingSeq filled
  have old : oldLogps padTokenId seqLenMultiple packingSeq miniBatch logProb
      (rowLogps padTokenId logProb
        (lossRows padTokenId seqLenMultiple packingSeq miniBatch) values.logit)
      values.oldPolicy = .ok (rowSignals padTokenId logProb entropy
        (lossRows padTokenId seqLenMultiple packingSeq miniBatch) values).oldPerTokenLogps := by
    cases policy : values.oldPolicy with
    | current => rw [oldLogps, rowSignals, policy]
    | computed logit =>
      rw [oldLogps, evaluates, rowSignals, policy]
      rfl
    | rollout logprobs => rw [oldLogps, rowSignals, policy]
  have ref : refLogps padTokenId seqLenMultiple packingSeq miniBatch logProb
      values.refLogit = .ok (rowSignals padTokenId logProb entropy
        (lossRows padTokenId seqLenMultiple packingSeq miniBatch) values).refPerTokenLogps := by
    cases policy : values.refLogit with
    | none => rw [refLogps, rowSignals, policy]; rfl
    | some logit =>
      rw [refLogps, evaluates, rowSignals, policy]
      rfl
  have advantages : selectTokens (layoutMasks padTokenId seqLenMultiple packingSeq miniBatch)
      (minibatchedAdvantages padTokenId seqLenMultiple packingSeq miniBatch values.advantage) =
        (rowSignals padTokenId logProb entropy
          (lossRows padTokenId seqLenMultiple packingSeq miniBatch) values).advantages := by
    rw [minibatchedAdvantages_eq positive packable]
    exact layoutSignals_eq positive packable packingSeq fun index _ => values.advantage index
  have teachers : layoutSignals padTokenId seqLenMultiple packingSeq miniBatch
      ((List.range miniBatch.length).map fun index =>
        collateRow 0 (paddedLen seqLenMultiple miniBatch) (values.teacherLogprobs index ++ [0])) =
        (rowSignals padTokenId logProb entropy
          (lossRows padTokenId seqLenMultiple packingSeq miniBatch) values).teacherLogprobs := by
    simp only [collateRow_eq_map]
    exact layoutSignals_eq positive packable packingSeq fun index position =>
      (values.teacherLogprobs index ++ [0]).getD position 0
  have entropies : layoutSignals padTokenId seqLenMultiple packingSeq miniBatch
      ((List.range miniBatch.length).map fun index =>
        (List.range (paddedLen seqLenMultiple miniBatch)).map fun position =>
          entropy (values.logit index position)) =
        (rowSignals padTokenId logProb entropy
          (lossRows padTokenId seqLenMultiple packingSeq miniBatch) values).entropies :=
    layoutSignals_eq positive packable packingSeq fun index position =>
      entropy (values.logit index position)
  unfold miniBatchLoss
  dsimp only
  rw [evaluates, advantages, teachers, entropies]
  simp only [bind, Except.bind, old, ref]
  rfl

end Reading

end Signals

end CosmosRl.Policy
