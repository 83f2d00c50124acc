import CosmosRl.Reference.TorchEngine
import CosmosRl.Foundation.Collecting

/-!
The log probabilities of a mini-batch, row by row.

A row is a sample with its position in the batch and the number of its positions that a
layout keeps.  Both layouts compute the same function of these rows; they differ in the
positions they keep and in the lengths by which the flat result is cut.
-/

namespace CosmosRl.Reference

open List

open CosmosRl.Data CosmosRl.Foundation CosmosRl.Policy CosmosRl.Utils
open CosmosRl.Dispatcher (PyError)

structure TeacherRow where
  sample : TeacherSample
  index : Nat
  width : Nat

section Cells

variable (config : EngineConfig) {Logit Row : Type} (logit : Nat → Nat → Logit)
  (logProb : Logit → Label → Row) (maxLen : Nat)

def labelRow (sample : TeacherSample) : List Label :=
  if 0 < config.topK then collateRow (topkFiller config) maxLen sample.topkIndices
  else (collateRow config.tokenizer.padTokenId maxLen sample.input.inputIds).map
    fun (token : Nat) => [(token : Int)]

def TeacherRow.selected (row : TeacherRow) : Nat := min row.sample.marked row.width

def rowLogprobs (row : TeacherRow) : List Row :=
  List.zipWith logProb ((List.range row.selected).map (logit row.index))
    ((shiftInputIds (zeroLabel config)
      ((labelRow config maxLen row.sample).take row.width)).take row.selected)

theorem length_labelRow (sample : TeacherSample) :
    (labelRow config maxLen sample).length = maxLen := by
  rw [labelRow]
  split
  · exact length_collateRow _ _ _
  · rw [length_map, length_collateRow]

variable {config maxLen}

variable {row : TeacherRow}

section

variable (within : row.width ≤ maxLen)

include within

theorem length_labelRow_take :
    ((labelRow config maxLen row.sample).take row.width).length = row.width := by
  rw [length_take, length_labelRow, Nat.min_eq_left within]

theorem length_rowLogprobs :
    (rowLogprobs config logit logProb maxLen row).length = row.selected := by
  have bound : row.selected ≤ row.width := Nat.min_le_right _ _
  simp only [rowLogprobs, length_zipWith, length_map, length_range,
    length_take, length_shiftInputIds, length_labelRow]
  omega

theorem collatedMask_take :
    (collateRow false maxLen row.sample.input.logprobMasks).take row.width =
      List.replicate row.selected true ++ List.replicate (row.width - row.selected) false := by
  have bound : row.selected = min row.sample.marked row.width := rfl
  apply ext_getElem?
  intro position
  rw [row.sample.allMarked, getElem?_take, collateRow]
  simp only [getElem?_append, getElem?_take, getElem?_replicate,
    length_take, length_append, length_replicate, length_singleton]
  by_cases kept : position < row.width
  · by_cases marked : position < row.sample.marked
    · have inMaxLen : position < maxLen := by omega
      have selected : position < row.selected := by omega
      simp [kept, marked, inMaxLen, selected]
      omega
    · have unselected : ¬ position < row.selected := by omega
      have early : position < maxLen := by omega
      have rest : position - row.selected < row.width - row.selected := by omega
      by_cases last : position - row.sample.marked = 0
      · simp [kept, marked, early, unselected, rest, last]
        omega
      · have afterMask : ¬ position < min maxLen (row.sample.marked + 1) := by omega
        have padded : position - min maxLen (row.sample.marked + 1) <
            maxLen - (row.sample.marked + 1) := by omega
        simp [kept, unselected, rest, afterMask, padded]
  · have unselected : ¬ position < row.selected := by omega
    have noRest : ¬ position - row.selected < row.width - row.selected := by omega
    simp [kept, unselected, noRest]

theorem selectMasked_logits :
    selectMasked ((collateRow false maxLen row.sample.input.logprobMasks).take row.width)
        (((List.range maxLen).map (logit row.index)).take row.width) =
      (List.range row.selected).map (logit row.index) := by
  have bound : row.selected ≤ row.width := Nat.min_le_right _ _
  rw [collatedMask_take within, selectMasked_prefix, take_take, ← map_take, take_range]
  · rw [Nat.min_eq_left bound, Nat.min_eq_left (Nat.le_trans bound within)]
  · rw [length_take, length_map, length_range]
    omega

theorem selectMasked_labels :
    selectMasked ((collateRow false maxLen row.sample.input.logprobMasks).take row.width)
        (shiftInputIds (zeroLabel config)
          ((labelRow config maxLen row.sample).take row.width)) =
      (shiftInputIds (zeroLabel config)
        ((labelRow config maxLen row.sample).take row.width)).take row.selected := by
  have bound : row.selected ≤ row.width := Nat.min_le_right _ _
  rw [collatedMask_take within, selectMasked_prefix]
  rw [length_shiftInputIds, length_labelRow_take within]
  omega

theorem count_collatedMask_take :
    ((collateRow false maxLen row.sample.input.logprobMasks).take row.width).count true =
      row.selected := by
  rw [collatedMask_take within, count_append, count_replicate_self,
    count_eq_zero.mpr, Nat.add_zero]
  simp

end

end Cells

section Layouts

variable (config : EngineConfig) {Logit Row : Type} (logit : Nat → Nat → Logit)
  (logProb : Logit → Label → Row) (maxLen : Nat) {rows : List TeacherRow}

theorem zipWith_selected (within : ∀ row ∈ rows, row.width ≤ maxLen) :
    List.zipWith logProb
        (rows.flatMap fun row =>
          selectMasked ((collateRow false maxLen row.sample.input.logprobMasks).take row.width)
            (((List.range maxLen).map (logit row.index)).take row.width))
        (rows.flatMap fun row =>
          selectMasked ((collateRow false maxLen row.sample.input.logprobMasks).take row.width)
            (shiftInputIds (zeroLabel config)
              ((labelRow config maxLen row.sample).take row.width))) =
      rows.flatMap (rowLogprobs config logit logProb maxLen) := by
  rw [zipWith_flatMap]
  · rw [flatMap_def, flatMap_def]
    congr 1
    apply map_congr_left
    intro row member
    rw [selectMasked_logits logit (within row member), selectMasked_labels (within row member)]
    rfl
  · intro row member
    have bound : row.selected ≤ row.width := Nat.min_le_right _ _
    rw [selectMasked_logits logit (within row member), selectMasked_labels (within row member),
      length_map, length_range, length_take, length_shiftInputIds,
      length_labelRow_take (within row member), Nat.min_eq_left bound]

/-- The packed layout works exactly if every row keeps a position. -/
theorem computeLogprobs_packed (within : ∀ row ∈ rows, row.width ≤ maxLen)
    (result : List Row × List Nat) :
    computeLogprobsForTopKIndices logProb (zeroLabel config)
        (some (inputPackingMask (rows.map TeacherRow.width),
          labelPackingMask (rows.map TeacherRow.width)))
        [rows.flatMap fun row => (labelRow config maxLen row.sample).take row.width]
        [rows.flatMap fun row =>
          (collateRow false maxLen row.sample.input.logprobMasks).take row.width]
        [rows.flatMap fun row => ((List.range maxLen).map (logit row.index)).take row.width] =
          .ok result ↔
      (∀ row ∈ rows, 0 < row.width) ∧
        rows.flatMap (rowLogprobs config logit logProb maxLen) ≠ [] ∧
        (rows.flatMap (rowLogprobs config logit logProb maxLen),
          [(rows.map TeacherRow.selected).sum]) = result := by
  have widths : rows.map TeacherRow.width = rows.map fun row =>
      ((labelRow config maxLen row.sample).take row.width).length :=
    map_congr_left fun row member => (length_labelRow_take (within row member)).symm
  have shifts := shiftPacked_eq_ok_iff (zeroLabel config) rows fun row =>
    (labelRow config maxLen row.sample).take row.width
  have kept : (∀ row ∈ rows, (labelRow config maxLen row.sample).take row.width ≠ []) ↔
      ∀ row ∈ rows, 0 < row.width := by
    refine forall₂_congr fun row member => ?_
    rw [← length_pos_iff, length_labelRow_take (within row member)]
  rw [kept, ← widths] at shifts
  have counted : (rows.flatMap fun row =>
        (collateRow false maxLen row.sample.input.logprobMasks).take row.width).count true =
      (rows.map TeacherRow.selected).sum := by
    rw [count_flatMap]
    congr 1
    exact map_congr_left fun row member => count_collatedMask_take (within row member)
  have logits : ∀ row ∈ rows,
      ((collateRow false maxLen row.sample.input.logprobMasks).take row.width).length =
        (((List.range maxLen).map (logit row.index)).take row.width).length := by
    intro row member
    simp
  have labels : ∀ row ∈ rows,
      ((collateRow false maxLen row.sample.input.logprobMasks).take row.width).length =
        (shiftInputIds (zeroLabel config)
          ((labelRow config maxLen row.sample).take row.width)).length := by
    intro row member
    rw [length_shiftInputIds, length_labelRow_take (within row member), length_take,
      length_collateRow, Nat.min_eq_left (within row member)]
  rw [computeLogprobsForTopKIndices]
  dsimp only
  rw [mapM_except_cons]
  cases outcome : shiftPacked (zeroLabel config) (inputPackingMask (rows.map TeacherRow.width))
      (labelPackingMask (rows.map TeacherRow.width))
      (rows.flatMap fun row => (labelRow config maxLen row.sample).take row.width) with
  | error exn =>
    refine iff_of_false (fun impossible => nomatch impossible) fun computes => ?_
    have shifted := (shifts _).mpr ⟨computes.1, rfl⟩
    rw [outcome] at shifted
    cases shifted
  | ok shifted =>
    obtain ⟨allKept, rfl⟩ := (shifts shifted).mp outcome
    simp only [mapM_nil, pure, Except.pure, bind, Except.bind, zipWith_cons_cons,
      zipWith_nil_left, flatten_cons, flatten_nil, append_nil, map_cons, map_nil,
      selectMasked_flatMap rows _ _ logits, selectMasked_flatMap rows _ _ labels,
      zipWith_selected config logit logProb maxLen within, counted, length_eq_zero_iff]
    rw [and_iff_right allKept]
    split
    next empty =>
      exact iff_of_false (fun impossible => nomatch impossible) fun computes => computes.1 empty
    next nonempty => rw [Except.ok.injEq, and_iff_right nonempty]

/-- The padded layout, whose rows keep all positions. -/
theorem computeLogprobs_padded (padded : ∀ row ∈ rows, row.width = maxLen)
    (result : List Row × List Nat) :
    computeLogprobsForTopKIndices logProb (zeroLabel config) none
        (rows.map fun row => labelRow config maxLen row.sample)
        (rows.map fun row => collateRow false maxLen row.sample.input.logprobMasks)
        (rows.map fun row => (List.range maxLen).map (logit row.index)) = .ok result ↔
      rows.flatMap (rowLogprobs config logit logProb maxLen) ≠ [] ∧
        (rows.flatMap (rowLogprobs config logit logProb maxLen),
          rows.map TeacherRow.selected) = result := by
  have within : ∀ row ∈ rows, row.width ≤ maxLen := fun row member =>
    Nat.le_of_eq (padded row member)
  have whole : ∀ {Entry : Type} (entries : TeacherRow → List Entry),
      (∀ row ∈ rows, (entries row).length = maxLen) →
      rows.map entries = rows.map fun row => (entries row).take row.width := by
    intro Entry entries lengths
    apply map_congr_left
    intro row member
    rw [padded row member, ← lengths row member, take_length]
  have masks := whole (fun row => collateRow false maxLen row.sample.input.logprobMasks)
    fun row _ => length_collateRow _ _ _
  have logits := whole (fun row => (List.range maxLen).map (logit row.index))
    fun row _ => by rw [length_map, length_range]
  have labels := whole (fun row => labelRow config maxLen row.sample)
    fun row _ => length_labelRow config maxLen row.sample
  have counted : (rows.map fun row =>
        (collateRow false maxLen row.sample.input.logprobMasks).take row.width).map
          (fun mask => mask.count true) = rows.map TeacherRow.selected := by
    rw [map_map]
    exact map_congr_left fun row member => count_collatedMask_take (within row member)
  have computed := zipWith_selected config logit logProb maxLen within
  rw [flatMap_def, flatMap_def] at computed
  rw [computeLogprobsForTopKIndices, masks, logits, labels]
  simp only [bind, Except.bind, counted, map_map, Function.comp_def, zipWith_map,
    zipWith_self, computed, length_eq_zero_iff]
  split
  next empty =>
    exact iff_of_false (fun impossible => nomatch impossible) fun computes => computes.1 empty
  next nonempty => rw [Except.ok.injEq, and_iff_right nonempty]

end Layouts

section Forward

variable (config : EngineConfig) {Logit Row : Type} (logit : Nat → Nat → Logit)
  (logProb : Logit → Label → Row) {samples : List TeacherSample} {rows : List TeacherRow}

def paddedLength (miniBatch : List TeacherSample) : Nat :=
  computedMaxLen none config.seqLenMultiple (miniBatch.map TeacherSample.input)

/-- `valid_input_len` of a mini-batch. -/
def validInputLen (miniBatch : List TeacherSample) : List Nat :=
  packSequencesInfoCollect
    (miniBatch.map fun sample => collateRow config.tokenizer.padTokenId
      (paddedLength config miniBatch) sample.input.inputIds)
    config.tokenizer.padTokenId config.seqLenMultiple

theorem length_validInputLen (miniBatch : List TeacherSample) :
    (validInputLen config miniBatch).length = miniBatch.length := by
  rw [validInputLen, length_packSequencesInfoCollect, length_map]

theorem validInputLen_le (miniBatch : List TeacherSample) :
    ∀ width ∈ validInputLen config miniBatch, width ≤ paddedLength config miniBatch := by
  apply packSequencesInfoCollect_le
  intro row member
  obtain ⟨sample, _, rfl⟩ := mem_map.mp member
  exact length_collateRow _ _ _

theorem minibatchedTopkIndices_eq (maxLen : Nat) (selected : List TeacherSample) :
    minibatchedTopkIndices config maxLen selected (selected.map fun sample =>
        collateRow config.tokenizer.padTokenId maxLen sample.input.inputIds) =
      selected.map (labelRow config maxLen) := by
  rw [minibatchedTopkIndices]
  split
  next topk =>
    apply map_congr_left
    intro sample _
    rw [labelRow, if_pos topk]
  next tokens =>
    rw [map_map]
    apply map_congr_left
    intro sample _
    rw [labelRow, if_neg tokens]
    rfl

theorem length_flatMap_rowLogprobs {maxLen : Nat} (within : ∀ row ∈ rows, row.width ≤ maxLen) :
    (rows.flatMap (rowLogprobs config logit logProb maxLen)).length =
      (rows.map TeacherRow.selected).sum := by
  rw [length_flatMap]
  congr 1
  exact map_congr_left fun row member => length_rowLogprobs logit logProb (within row member)

/-- The results of a packed mini-batch. -/
theorem forwardMiniBatch_packed (packs : packsSequences config = true)
    (taken : takeItems samples (rows.map TeacherRow.index) =
      .ok (rows.map TeacherRow.sample))
    (widths : validInputLen config (rows.map TeacherRow.sample) = rows.map TeacherRow.width)
    (data : List (TeacherResult Row)) :
    forwardMiniBatch config logit logProb samples (rows.map TeacherRow.sample)
        (rows.map TeacherRow.index) = .ok data ↔
      (∀ row ∈ rows, 0 < row.width) ∧
        rows.flatMap (rowLogprobs config logit logProb
          (paddedLength config (rows.map TeacherRow.sample))) ≠ [] ∧
        List.zipWith TeacherResult.mk
          ((rows.map TeacherRow.width).splitLengths
            (rows.flatMap (rowLogprobs config logit logProb
              (paddedLength config (rows.map TeacherRow.sample)))))
          (rows.map fun row => row.sample.teacherResultUuid) = data := by
  have within : ∀ row ∈ rows,
      row.width ≤ paddedLength config (rows.map TeacherRow.sample) := by
    intro row member
    apply validInputLen_le config (rows.map TeacherRow.sample)
    rw [widths]
    exact mem_map_of_mem member
  have computes := computeLogprobs_packed config logit logProb
    (paddedLength config (rows.map TeacherRow.sample)) within
  have total := length_flatMap_rowLogprobs config logit logProb within
  rw [validInputLen] at widths
  rw [forwardMiniBatch]
  dsimp only
  rw [← paddedLength, taken, packs]
  simp only [bind, Except.bind, if_true]
  rw [minibatchedTopkIndices_eq, widths]
  simp only [map_map, Function.comp_def]
  rw [packSequences_map, packSequences_map, packSequences_map]
  cases outcome : computeLogprobsForTopKIndices logProb (zeroLabel config)
      (some (inputPackingMask (rows.map TeacherRow.width),
        labelPackingMask (rows.map TeacherRow.width)))
      [rows.flatMap fun row => (labelRow config
        (paddedLength config (rows.map TeacherRow.sample)) row.sample).take row.width]
      [rows.flatMap fun row => (collateRow false
        (paddedLength config (rows.map TeacherRow.sample))
        row.sample.input.logprobMasks).take row.width]
      [rows.flatMap fun row => ((List.range
        (paddedLength config (rows.map TeacherRow.sample))).map
          (logit row.index)).take row.width] with
  | error exn =>
    refine iff_of_false (fun impossible => nomatch impossible) fun computed => ?_
    have result := (computes _).mpr ⟨computed.1, computed.2.1, rfl⟩
    rw [outcome] at result
    cases result
  | ok result =>
    obtain ⟨kept, nonempty, rfl⟩ := (computes result).mp outcome
    dsimp only
    rw [total, sum_singleton, if_pos rfl, Except.ok.injEq, and_iff_right kept,
      and_iff_right nonempty]

/-- The results of a padded mini-batch: every row's own log probabilities. -/
theorem forwardMiniBatch_padded (padded : packsSequences config = false)
    (taken : takeItems samples (rows.map TeacherRow.index) =
      .ok (rows.map TeacherRow.sample))
    (widths : ∀ row ∈ rows, row.width = paddedLength config (rows.map TeacherRow.sample))
    (data : List (TeacherResult Row)) :
    forwardMiniBatch config logit logProb samples (rows.map TeacherRow.sample)
        (rows.map TeacherRow.index) = .ok data ↔
      rows.flatMap (rowLogprobs config logit logProb
          (paddedLength config (rows.map TeacherRow.sample))) ≠ [] ∧
        (rows.map fun row => TeacherResult.mk
          (rowLogprobs config logit logProb
            (paddedLength config (rows.map TeacherRow.sample)) row)
          row.sample.teacherResultUuid) = data := by
  have within : ∀ row ∈ rows,
      row.width ≤ paddedLength config (rows.map TeacherRow.sample) := fun row member =>
    Nat.le_of_eq (widths row member)
  have computes := computeLogprobs_padded config logit logProb
    (paddedLength config (rows.map TeacherRow.sample)) widths
  have total := length_flatMap_rowLogprobs config logit logProb within
  have lengths : rows.map TeacherRow.selected =
      (rows.map (rowLogprobs config logit logProb
        (paddedLength config (rows.map TeacherRow.sample)))).map List.length := by
    rw [map_map]
    exact map_congr_left fun row member =>
      (length_rowLogprobs logit logProb (within row member)).symm
  rw [forwardMiniBatch]
  dsimp only
  rw [← paddedLength, taken, padded]
  simp only [bind, Except.bind, Bool.false_eq_true, if_false]
  rw [minibatchedTopkIndices_eq]
  simp only [map_map, Function.comp_def]
  cases outcome : computeLogprobsForTopKIndices logProb (zeroLabel config) none
      (rows.map fun row => labelRow config
        (paddedLength config (rows.map TeacherRow.sample)) row.sample)
      (rows.map fun row => collateRow false
        (paddedLength config (rows.map TeacherRow.sample)) row.sample.input.logprobMasks)
      (rows.map fun row => (List.range
        (paddedLength config (rows.map TeacherRow.sample))).map (logit row.index)) with
  | error exn =>
    refine iff_of_false (fun impossible => nomatch impossible) fun computed => ?_
    have result := (computes _).mpr ⟨computed.1, rfl⟩
    rw [outcome] at result
    cases result
  | ok result =>
    obtain ⟨nonempty, rfl⟩ := (computes result).mp outcome
    dsimp only
    rw [if_pos total, Except.ok.injEq, and_iff_right nonempty]
    rw [lengths, flatMap_def, splitLengths_flatten, zipWith_map, zipWith_self]

end Forward

end CosmosRl.Reference
