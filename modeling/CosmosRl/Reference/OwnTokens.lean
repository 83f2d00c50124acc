import CosmosRl.Policy.MiniBatches
import CosmosRl.Reference.TeacherLogprobs
import Mathlib.Algebra.Order.BigOperators.Group.List
import Mathlib.Data.List.Flatten

/-!
Which batches store every rollout's own log probabilities.

A padded mini-batch does if the masks fit the tokens.  A packed one cuts the flat result
by the padded lengths of the inputs, one more than a rollout has log probabilities, so
that in general only a rollout with nothing after it in its mini-batch gets its own.
-/

namespace CosmosRl.Reference

open List

open CosmosRl.Data CosmosRl.Foundation CosmosRl.Policy CosmosRl.Utils
open CosmosRl.Dispatcher (PyError)

section Own

variable (config : EngineConfig)

def TeacherSample.predicted (sample : TeacherSample) : Nat := sample.input.inputIds.length - 1

def ownLabel (sample : TeacherSample) (position : Nat) : Label :=
  if 0 < config.topK then sample.topkIndices.getD position (topkFiller config)
  else [((sample.input.inputIds.getD position 0 : Nat) : Int)]

variable {Logit Row : Type} (logit : Nat → Nat → Logit) (logProb : Logit → Label → Row)

def ownLogprobs (index : Nat) (sample : TeacherSample) : List Row :=
  (List.range sample.predicted).map fun position =>
    logProb (logit index position) (ownLabel config sample (position + 1))

def ownResult (index : Nat) (sample : TeacherSample) : TeacherResult Row where
  teacherLogprobs := ownLogprobs config logit logProb index sample
  teacherResultUuid := sample.teacherResultUuid

/-- Every rollout of a batch is stored once, under its uuid, with the log probabilities
of its own tokens, whatever model and softmax are used. -/
def StoresOwnLogprobs (rollouts : List TeacherRollout) (gathered : Nat) : Prop :=
  ∃ samples miniBatches, processedSamples config rollouts = .ok samples ∧
    splitBatch config samples gathered = .ok miniBatches ∧
    miniBatches.2.flatten.Perm (List.range samples.length) ∧
    ∀ (Logit Row : Type) (logit : Nat → Nat → Logit) (logProb : Logit → Label → Row),
      stepForward config logit logProb rollouts gathered =
        .ok (miniBatches.2.flatten.filterMap fun index =>
          samples[index]?.map (ownResult config logit logProb index))

/-- A row of `width` positions gives the log probabilities of all tokens and no others.
A row that ends with the token before the last has no label for the last. -/
def RowFits (sample : TeacherSample) (width : Nat) : Prop :=
  min sample.marked width = sample.predicted ∧
    (width = sample.predicted → 0 < width →
      ownLabel config sample sample.predicted = zeroLabel config)

instance (sample : TeacherSample) (width : Nat) : Decidable (RowFits config sample width) :=
  inferInstanceAs (Decidable (min sample.marked width = sample.predicted ∧
    (width = sample.predicted → 0 < width →
      ownLabel config sample sample.predicted = zeroLabel config)))

/-- The condition on a mini-batch: there is something to compute and every row fits.  In
a packed one a row keeps a position, and is cut behind its last log probability unless
only single tokens follow. -/
def MiniBatchFits (miniBatch : List TeacherSample) : Prop :=
  (∃ sample ∈ miniBatch, 0 < sample.predicted) ∧
    if packsSequences config then
      (∀ entry ∈ miniBatch.zip (validInputLen config miniBatch),
        0 < entry.2 ∧ RowFits config entry.1 entry.2) ∧
      (miniBatch.zip (validInputLen config miniBatch)).Pairwise fun entry later =>
        entry.2 = entry.1.predicted ∨ later.1.predicted = 0
    else ∀ sample ∈ miniBatch, RowFits config sample (paddedLength config miniBatch)

instance (miniBatch : List TeacherSample) : Decidable (MiniBatchFits config miniBatch) :=
  inferInstanceAs (Decidable ((∃ sample ∈ miniBatch, 0 < sample.predicted) ∧
    if packsSequences config then
      (∀ entry ∈ miniBatch.zip (validInputLen config miniBatch),
        0 < entry.2 ∧ RowFits config entry.1 entry.2) ∧
      (miniBatch.zip (validInputLen config miniBatch)).Pairwise fun entry later =>
        entry.2 = entry.1.predicted ∨ later.1.predicted = 0
    else ∀ sample ∈ miniBatch, RowFits config sample (paddedLength config miniBatch)))

end Own

section Rows

variable (config : EngineConfig) {Logit Row : Type} (logit : Nat → Nat → Logit)
  (logProb : Logit → Label → Row) {maxLen : Nat}

def shiftedLabel (maxLen : Nat) (row : TeacherRow) (position : Nat) : Label :=
  if position + 1 < row.width then
    (labelRow config maxLen row.sample).getD (position + 1) (zeroLabel config)
  else zeroLabel config

variable {row : TeacherRow}

theorem rowLogprobs_eq_map (within : row.width ≤ maxLen) :
    rowLogprobs config logit logProb maxLen row =
      (List.range row.selected).map fun position =>
        logProb (logit row.index position) (shiftedLabel config maxLen row position) := by
  have bound : row.selected ≤ row.width := Nat.min_le_right _ _
  have labels : (shiftInputIds (zeroLabel config)
        ((labelRow config maxLen row.sample).take row.width)).take row.selected =
      (List.range row.selected).map (shiftedLabel config maxLen row) := by
    apply ext_getElem?
    intro position
    rw [getElem?_take, getElem?_shiftInputIds, length_labelRow_take within, getElem?_map]
    by_cases selected : position < row.selected
    · rw [if_pos selected, getElem?_range selected, Option.map_some, shiftedLabel]
      by_cases inner : position + 1 < row.width
      · have present : position + 1 < (labelRow config maxLen row.sample).length := by
          rw [length_labelRow]
          omega
        rw [if_pos inner, if_pos inner, getElem?_take_of_lt inner, getD_eq_getElem?_getD,
          getElem?_eq_getElem present, Option.getD_some]
      · rw [if_neg inner, if_neg inner, if_pos (Nat.lt_of_lt_of_le selected bound)]
    · rw [if_neg selected, getElem?_eq_none_iff.mpr (by simpa using selected), Option.map_none]
  rw [rowLogprobs, labels, zipWith_map, zipWith_self]

theorem getElem?_labelRow {sample : TeacherSample} {position : Nat}
    (token : position < sample.input.inputIds.length) (within : position < maxLen) :
    (labelRow config maxLen sample)[position]? = some (ownLabel config sample position) := by
  have early : position < min maxLen sample.input.inputIds.length := by omega
  rw [labelRow, ownLabel]
  split
  next topk =>
    rw [collateRow, getElem?_append, length_take, getD_eq_getElem?_getD]
    by_cases given : position < sample.topkIndices.length
    · rw [if_pos (by omega), getElem?_take_of_lt within, getElem?_eq_getElem given,
        Option.getD_some]
    · rw [if_neg (by omega), getElem?_replicate, if_pos (by omega),
        getElem?_eq_none_iff.mpr (by omega), Option.getD_none]
  next tokens =>
    rw [getElem?_map, collateRow, getElem?_append, length_take, if_pos early,
      getElem?_take_of_lt within, getD_eq_getElem?_getD,
      getElem?_eq_getElem token, Option.getD_some, Option.map_some]

theorem shiftedLabel_eq {position : Nat} (within : row.width ≤ maxLen)
    (token : position < row.sample.predicted) :
    shiftedLabel config maxLen row position =
      if position + 1 < row.width then ownLabel config row.sample (position + 1)
      else zeroLabel config := by
  have counted : row.sample.predicted = row.sample.input.inputIds.length - 1 := rfl
  rw [shiftedLabel]
  split
  next inner =>
    rw [getD_eq_getElem?_getD, getElem?_labelRow config (by omega) (by omega),
      Option.getD_some]
  next last => rfl

theorem rowLogprobs_eq_own (within : row.width ≤ maxLen)
    (fits : RowFits config row.sample row.width) :
    rowLogprobs config logit logProb maxLen row =
      ownLogprobs config logit logProb row.index row.sample := by
  obtain ⟨all, lastLabel⟩ := fits
  have selected : row.selected = row.sample.predicted := all
  have bound : row.selected ≤ row.width := Nat.min_le_right _ _
  rw [rowLogprobs_eq_map config logit logProb within, ownLogprobs, selected]
  apply map_congr_left
  intro position member
  have token : position < row.sample.predicted := mem_range.mp member
  congr 1
  rw [shiftedLabel_eq config within token]
  split
  next inner => rfl
  next last =>
    -- the row ends with the token before the last
    have cut : row.width = row.sample.predicted := by omega
    have next : position + 1 = row.sample.predicted := by omega
    rw [next, lastLabel cut (by omega)]

/-- With log probabilities that tell all positions and labels apart, only a row that
fits gives the own ones. -/
theorem rowFits_of_eq (within : row.width ≤ maxLen)
    (same : rowLogprobs config Prod.mk Prod.mk maxLen row =
      ownLogprobs config Prod.mk Prod.mk row.index row.sample) :
    RowFits config row.sample row.width := by
  rw [rowLogprobs_eq_map config Prod.mk Prod.mk within, ownLogprobs] at same
  have selected : row.selected = row.sample.predicted := by
    have lengths := congrArg List.length same
    rwa [length_map, length_map, length_range, length_range] at lengths
  refine ⟨selected, fun cut positive => ?_⟩
  rw [selected, map_inj_left] at same
  have last := same (row.sample.predicted - 1) (mem_range.mpr (by omega))
  have labels := (Prod.mk.inj last).2
  rw [shiftedLabel_eq config within (by omega), if_neg (by omega)] at labels
  have next : row.sample.predicted - 1 + 1 = row.sample.predicted := by omega
  rw [next] at labels
  exact labels.symm

end Rows

section MiniBatches

variable (config : EngineConfig) {samples miniBatch : List TeacherSample} {indices : List Nat}

theorem exists_rows {widths : List Nat} (indexed : indices.length = miniBatch.length)
    (kept : widths.length = miniBatch.length) :
    ∃ rows : List TeacherRow, rows.map TeacherRow.sample = miniBatch ∧
      rows.map TeacherRow.index = indices ∧ rows.map TeacherRow.width = widths := by
  refine ⟨(miniBatch.zip (indices.zip widths)).map fun entry =>
    ⟨entry.1, entry.2.1, entry.2.2⟩, ?_, ?_, ?_⟩
  · rw [map_map]
    exact map_fst_zip (by rw [length_zip]; omega)
  · rw [map_map]
    have inner : (miniBatch.zip (indices.zip widths)).map Prod.snd = indices.zip widths :=
      map_snd_zip (by rw [length_zip]; omega)
    have outer : (indices.zip widths).map Prod.fst = indices := map_fst_zip (by omega)
    rw [← inner, map_map] at outer
    exact outer
  · rw [map_map]
    have inner : (miniBatch.zip (indices.zip widths)).map Prod.snd = indices.zip widths :=
      map_snd_zip (by rw [length_zip]; omega)
    have outer : (indices.zip widths).map Prod.snd = widths := map_snd_zip (by omega)
    rw [← inner, map_map] at outer
    exact outer

theorem exists_paddedRows (indexed : indices.length = miniBatch.length) :
    ∃ rows : List TeacherRow, rows.map TeacherRow.sample = miniBatch ∧
      rows.map TeacherRow.index = indices ∧
      ∀ row ∈ rows, row.width = paddedLength config miniBatch := by
  have kept : (miniBatch.map fun _ => paddedLength config miniBatch).length =
      miniBatch.length := length_map _
  obtain ⟨rows, rfl, rfl, widths⟩ := exists_rows indexed kept
  rw [map_map] at widths
  exact ⟨rows, rfl, rfl, map_inj_left.mp widths⟩

variable {Logit Row : Type} (logit : Nat → Nat → Logit) (logProb : Logit → Label → Row)
  {rows : List TeacherRow} {maxLen : Nat}

theorem flatMap_rowLogprobs_ne_nil_iff
    (own : ∀ row ∈ rows, rowLogprobs config logit logProb maxLen row =
      ownLogprobs config logit logProb row.index row.sample) :
    rows.flatMap (rowLogprobs config logit logProb maxLen) ≠ [] ↔
      ∃ sample ∈ rows.map TeacherRow.sample, 0 < sample.predicted := by
  have empty : ∀ row ∈ rows, rowLogprobs config logit logProb maxLen row = [] ↔
      row.sample.predicted = 0 := by
    intro row member
    rw [own row member, ownLogprobs, map_eq_nil_iff, range_eq_nil]
  rw [ne_eq, flatMap_eq_nil_iff]
  simp only [mem_map, not_forall, exists_prop, exists_exists_and_eq_and]
  refine exists_congr fun row => and_congr_right fun member => ?_
  rw [empty row member, Nat.pos_iff_ne_zero]

/-- The slices of a packed result are the own log probabilities exactly if the flat
result holds these and every slice but those before single tokens has their number. -/
theorem splitLengths_eq_own_iff (within : ∀ row ∈ rows, row.width ≤ maxLen)
    (own : ∀ row ∈ rows, rowLogprobs config logit logProb maxLen row =
      ownLogprobs config logit logProb row.index row.sample) :
    (rows.map TeacherRow.width).splitLengths
        (rows.flatMap (rowLogprobs config logit logProb maxLen)) =
      (rows.map fun row => ownLogprobs config logit logProb row.index row.sample) ↔
    rows.Pairwise fun row later =>
      row.width = row.sample.predicted ∨ later.sample.predicted = 0 := by
  have lengths : ∀ row ∈ rows,
      (ownLogprobs config logit logProb row.index row.sample).length = row.sample.predicted := by
    intro row _
    rw [ownLogprobs, length_map, length_range]
  have wide : ∀ cut ∈ rows.map fun row =>
      (ownLogprobs config logit logProb row.index row.sample, row.width),
        cut.1.length ≤ cut.2 := by
    intro cut member
    obtain ⟨row, rowMember, rfl⟩ := mem_map.mp member
    rw [← own row rowMember, length_rowLogprobs logit logProb (within row rowMember)]
    exact Nat.min_le_right _ _
  have cut := splitLengths_flatten_eq_iff wide
  rw [map_map, map_map] at cut
  have flat : rows.flatMap (rowLogprobs config logit logProb maxLen) =
      (rows.map fun row => ownLogprobs config logit logProb row.index row.sample).flatten := by
    rw [flatMap_def, map_congr_left own]
  rw [flat]
  refine Iff.trans cut ?_
  rw [pairwise_map]
  apply List.Pairwise.iff_of_mem
  intro row later rowMember laterMember
  rw [lengths row rowMember, ← length_eq_zero_iff, lengths later laterMember]

theorem zip_validInputLen
    (widths : validInputLen config (rows.map TeacherRow.sample) = rows.map TeacherRow.width) :
    (rows.map TeacherRow.sample).zip (validInputLen config (rows.map TeacherRow.sample)) =
      rows.map fun row => (row.sample, row.width) := by
  rw [widths, zip_map']

theorem widths_le
    (widths : validInputLen config (rows.map TeacherRow.sample) = rows.map TeacherRow.width) :
    ∀ row ∈ rows, row.width ≤ paddedLength config (rows.map TeacherRow.sample) := by
  intro row member
  apply validInputLen_le config (rows.map TeacherRow.sample)
  rw [widths]
  exact mem_map_of_mem member

/-- A mini-batch that fits gives every rollout its own log probabilities. -/
theorem forwardMiniBatch_own (taken : takeItems samples indices = .ok miniBatch)
    (fits : MiniBatchFits config miniBatch) :
    forwardMiniBatch config logit logProb samples miniBatch indices =
      .ok ((miniBatch.zip indices).map fun entry =>
        ownResult config logit logProb entry.2 entry.1) := by
  obtain ⟨something, allFit⟩ := fits
  have indexed : indices.length = miniBatch.length := (length_of_mapM_ok taken).symm
  cases packing : packsSequences config with
  | true =>
    rw [packing, if_pos rfl] at allFit
    obtain ⟨rows, rfl, rfl, widths⟩ := exists_rows indexed (length_validInputLen config miniBatch)
    have within := widths_le config widths.symm
    rw [zip_validInputLen config widths.symm, forall_mem_map, pairwise_map] at allFit
    obtain ⟨rowsFit, cuts⟩ := allFit
    have own : ∀ row ∈ rows, rowLogprobs config logit logProb
        (paddedLength config (rows.map TeacherRow.sample)) row =
          ownLogprobs config logit logProb row.index row.sample := fun row member =>
      rowLogprobs_eq_own config logit logProb (within row member) (rowsFit row member).2
    rw [forwardMiniBatch_packed config logit logProb packing taken widths.symm]
    refine ⟨fun row member => (rowsFit row member).1,
      (flatMap_rowLogprobs_ne_nil_iff config logit logProb own).mpr something, ?_⟩
    rw [(splitLengths_eq_own_iff config logit logProb within own).mpr cuts, zipWith_map,
      zipWith_self, zip_map', map_map]
    rfl
  | false =>
    rw [packing, if_neg (by simp)] at allFit
    obtain ⟨rows, rfl, rfl, padded⟩ := exists_paddedRows config indexed
    have own : ∀ row ∈ rows, rowLogprobs config logit logProb
        (paddedLength config (rows.map TeacherRow.sample)) row =
          ownLogprobs config logit logProb row.index row.sample := by
      intro row member
      apply rowLogprobs_eq_own config logit logProb (Nat.le_of_eq (padded row member))
      rw [padded row member]
      exact allFit row.sample (mem_map_of_mem member)
    rw [forwardMiniBatch_padded config logit logProb packing taken padded]
    refine ⟨(flatMap_rowLogprobs_ne_nil_iff config logit logProb own).mpr something, ?_⟩
    rw [zip_map', map_map]
    apply map_congr_left
    intro row member
    rw [own row member]
    rfl

/-- Entries of a row carry its index, when logits and log probabilities are the
positions and labels themselves. -/
theorem tagged_rows (distinct : (rows.map TeacherRow.index).Nodup)
    (within : ∀ row ∈ rows, row.width ≤ maxLen)
    (same : rows.flatMap (rowLogprobs config Prod.mk Prod.mk maxLen) =
      rows.flatMap fun row => ownLogprobs config Prod.mk Prod.mk row.index row.sample) :
    ∀ row ∈ rows, rowLogprobs config Prod.mk Prod.mk maxLen row =
      ownLogprobs config Prod.mk Prod.mk row.index row.sample := by
  have computed : List.Forall₂ (fun name part => ∀ entry ∈ part, entry.1.1 = name)
      (rows.map TeacherRow.index)
      (rows.map (rowLogprobs config Prod.mk Prod.mk maxLen)) := by
    rw [forall₂_map_left_iff, forall₂_map_right_iff, forall₂_same]
    intro row member entry entryMember
    rw [rowLogprobs_eq_map config Prod.mk Prod.mk (within row member)] at entryMember
    obtain ⟨position, _, rfl⟩ := mem_map.mp entryMember
    rfl
  have own : List.Forall₂ (fun name part => ∀ entry ∈ part, entry.1.1 = name)
      (rows.map TeacherRow.index)
      (rows.map fun row => ownLogprobs config Prod.mk Prod.mk row.index row.sample) := by
    rw [forall₂_map_left_iff, forall₂_map_right_iff, forall₂_same]
    intro row _ entry entryMember
    obtain ⟨position, _, rfl⟩ := mem_map.mp entryMember
    rfl
  rw [flatMap_def, flatMap_def] at same
  exact map_inj_left.mp
    (eq_of_flatten_eq (fun entry : (Nat × Nat) × Label => entry.1.1) distinct computed own same)

/-- A mini-batch that gives every rollout its own log probabilities fits. -/
theorem miniBatchFits_of_forward (taken : takeItems samples indices = .ok miniBatch)
    (distinct : indices.Nodup)
    (same : forwardMiniBatch config Prod.mk Prod.mk samples miniBatch indices =
      .ok ((miniBatch.zip indices).map fun entry =>
        ownResult config Prod.mk Prod.mk entry.2 entry.1)) :
    MiniBatchFits config miniBatch := by
  have indexed : indices.length = miniBatch.length := (length_of_mapM_ok taken).symm
  cases packing : packsSequences config with
  | true =>
    obtain ⟨rows, rfl, rfl, widths⟩ := exists_rows indexed (length_validInputLen config miniBatch)
    have within := widths_le config widths.symm
    rw [forwardMiniBatch_packed config Prod.mk Prod.mk packing taken widths.symm] at same
    obtain ⟨kept, nonempty, results⟩ := same
    have slices : (rows.map TeacherRow.width).splitLengths
        (rows.flatMap (rowLogprobs config Prod.mk Prod.mk
          (paddedLength config (rows.map TeacherRow.sample)))) =
        rows.map fun row => ownLogprobs config Prod.mk Prod.mk row.index row.sample := by
      have logprobs := congrArg (List.map TeacherResult.teacherLogprobs) results
      rw [map_zipWith, ← map_uncurry_zip_eq_zipWith, zip_map', map_map, map_map] at logprobs
      have sameLength : ((rows.map TeacherRow.width).splitLengths
          (rows.flatMap (rowLogprobs config Prod.mk Prod.mk
            (paddedLength config (rows.map TeacherRow.sample))))).length =
          (rows.map fun row => row.sample.teacherResultUuid).length := by
        rw [length_splitLengths, length_map, length_map]
      rw [← map_fst_zip (Nat.le_of_eq sameLength)]
      exact logprobs
    have flat : rows.flatMap (rowLogprobs config Prod.mk Prod.mk
          (paddedLength config (rows.map TeacherRow.sample))) =
        rows.flatMap fun row => ownLogprobs config Prod.mk Prod.mk row.index row.sample := by
      have wide : (rows.flatMap (rowLogprobs config Prod.mk Prod.mk
            (paddedLength config (rows.map TeacherRow.sample)))).length ≤
          (rows.map TeacherRow.width).sum := by
        rw [length_flatMap_rowLogprobs config Prod.mk Prod.mk within]
        exact sum_le_sum fun row _ => Nat.min_le_right _ _
      have joined := congrArg List.flatten slices
      rwa [flatten_splitLengths _ _ wide, ← flatMap_def] at joined
    have own := tagged_rows config distinct within flat
    refine ⟨(flatMap_rowLogprobs_ne_nil_iff config Prod.mk Prod.mk own).mp nonempty, ?_⟩
    rw [packing, if_pos rfl, zip_validInputLen config widths.symm, forall_mem_map,
      pairwise_map]
    exact ⟨fun row member =>
        ⟨kept row member, rowFits_of_eq config (within row member) (own row member)⟩,
      (splitLengths_eq_own_iff config Prod.mk Prod.mk within own).mp slices⟩
  | false =>
    obtain ⟨rows, rfl, rfl, padded⟩ := exists_paddedRows config indexed
    rw [forwardMiniBatch_padded config Prod.mk Prod.mk packing taken padded] at same
    obtain ⟨nonempty, results⟩ := same
    rw [zip_map', map_map, map_inj_left] at results
    have own : ∀ row ∈ rows, rowLogprobs config Prod.mk Prod.mk
        (paddedLength config (rows.map TeacherRow.sample)) row =
          ownLogprobs config Prod.mk Prod.mk row.index row.sample := fun row member =>
      congrArg TeacherResult.teacherLogprobs (results row member)
    refine ⟨(flatMap_rowLogprobs_ne_nil_iff config Prod.mk Prod.mk own).mp nonempty, ?_⟩
    rw [packing, if_neg (by simp), forall_mem_map]
    intro row member
    rw [← padded row member]
    exact rowFits_of_eq config (Nat.le_of_eq (padded row member)) (own row member)

theorem length_forwardMiniBatch (taken : takeItems samples indices = .ok miniBatch)
    {data : List (TeacherResult Row)}
    (forwarded : forwardMiniBatch config logit logProb samples miniBatch indices = .ok data) :
    data.length = miniBatch.length := by
  have indexed : indices.length = miniBatch.length := (length_of_mapM_ok taken).symm
  cases packing : packsSequences config with
  | true =>
    obtain ⟨rows, rfl, rfl, widths⟩ := exists_rows indexed (length_validInputLen config miniBatch)
    rw [forwardMiniBatch_packed config logit logProb packing taken widths.symm] at forwarded
    obtain ⟨-, -, rfl⟩ := forwarded
    rw [length_zipWith, length_splitLengths, length_map, length_map, length_map, Nat.min_self]
  | false =>
    obtain ⟨rows, rfl, rfl, padded⟩ := exists_paddedRows config indexed
    rw [forwardMiniBatch_padded config logit logProb packing taken padded] at forwarded
    obtain ⟨-, rfl⟩ := forwarded
    rw [length_map, length_map]

end MiniBatches

section Batches

variable (config : EngineConfig) {samples : List TeacherSample}
  {miniBatches : List (List TeacherSample) × List (List Nat)} {gathered : Nat}

theorem splitBatch_arranges (split : splitBatch config samples gathered = .ok miniBatches) :
    Arranges samples miniBatches := by
  have static : ∀ {arrangement},
      splitBatch.splitStatic config samples = .ok arrangement → Arranges samples arrangement := by
    intro arrangement isStatic
    rw [splitBatch.splitStatic] at isStatic
    split at isStatic
    next => cases isStatic
    next nonzero =>
      cases isStatic
      exact splitMiniBatches_arranges samples (Nat.pos_of_ne_zero nonzero)
  rw [splitBatch] at split
  split at split
  next maxTokenLen _ =>
    by_cases dynamic : 0 < maxTokenLen
    · rw [if_pos dynamic] at split
      exact rearrangeMiniBatches_arranges (length_map _).symm split
    · rw [if_neg dynamic] at split
      exact static split
  next => exact static split

theorem takeItems_of_arranges (arranges : Arranges samples miniBatches)
    {entry : List TeacherSample × List Nat} (member : entry ∈ miniBatches.1.zip miniBatches.2) :
    takeItems samples entry.2 = .ok entry.1 := by
  rw [takeItems_eq_ok_iff]
  exact arranges.aligned entry member

theorem nodup_of_arranges (arranges : Arranges samples miniBatches) {indices : List Nat}
    (member : indices ∈ miniBatches.2) : indices.Nodup := by
  have all : miniBatches.2.flatten.Nodup := arranges.covered.nodup_iff.mpr nodup_range
  exact (nodup_flatten.mp all).1 indices member

variable {Logit Row : Type} (logit : Nat → Nat → Logit) (logProb : Logit → Label → Row)

def ownResults (miniBatch : List TeacherSample × List Nat) : List (TeacherResult Row) :=
  (miniBatch.1.zip miniBatch.2).map fun entry =>
    ownResult config logit logProb entry.2 entry.1

theorem filterMap_ownResult (arranges : Arranges samples miniBatches) :
    (miniBatches.2.flatten.filterMap fun index =>
        samples[index]?.map (ownResult config logit logProb index)) =
      ((miniBatches.1.zip miniBatches.2).map (ownResults config logit logProb)).flatten := by
  have indices : miniBatches.2.map (fun indices => indices.filterMap fun index =>
        samples[index]?.map (ownResult config logit logProb index)) =
      (miniBatches.1.zip miniBatches.2).map fun miniBatch => miniBatch.2.filterMap fun index =>
        samples[index]?.map (ownResult config logit logProb index) := by
    conv_lhs => rw [← arranges.map_snd, map_map]
    rfl
  rw [filterMap_flatten, indices]
  congr 1
  apply map_congr_left
  rintro ⟨miniBatch, indices⟩ member
  have aligned := arranges.aligned (miniBatch, indices) member
  dsimp only at aligned
  clear member
  rw [ownResults]
  dsimp only
  induction indices generalizing miniBatch with
  | nil => simp
  | cons index indices ih =>
    cases miniBatch with
    | nil => simp at aligned
    | cons sample miniBatch =>
      obtain ⟨head, rest⟩ := List.cons.inj aligned
      have found : samples[index]? = some sample := head
      rw [filterMap_cons, found, Option.map_some, zip_cons_cons, map_cons, ih miniBatch rest]

variable {rollouts : List TeacherRollout}

theorem stepForward_eq_ok_iff (processed : processedSamples config rollouts = .ok samples)
    (split : splitBatch config samples gathered = .ok miniBatches)
    (data : List (TeacherResult Row)) :
    stepForward config logit logProb rollouts gathered = .ok data ↔
      ∃ results : List (List (TeacherResult Row)),
        ((miniBatches.1.zip miniBatches.2).map fun entry =>
          forwardMiniBatch config logit logProb samples entry.1 entry.2) =
            results.map .ok ∧ results.flatten = data := by
  rw [stepForward, processed]
  simp only [bind, Except.bind, split]
  cases outcome : (miniBatches.1.zip miniBatches.2).mapM fun entry =>
      forwardMiniBatch config logit logProb samples entry.1 entry.2 with
  | error exn =>
    refine iff_of_false (fun impossible => nomatch impossible) ?_
    rintro ⟨results, computed, -⟩
    rw [← mapM_eq_ok_iff, outcome] at computed
    cases computed
  | ok results =>
    have computed := (mapM_eq_ok_iff _ _ _).mp outcome
    dsimp only
    rw [Except.ok.injEq]
    constructor
    · rintro rfl
      exact ⟨results, computed, rfl⟩
    · rintro ⟨others, same, rfl⟩
      rw [computed] at same
      rw [map_injective_iff.mpr (fun _ _ => Except.ok.inj) same]

theorem fits_of_storesOwnLogprobs (stores : StoresOwnLogprobs config rollouts gathered) :
    ∃ samples miniBatches, processedSamples config rollouts = .ok samples ∧
      splitBatch config samples gathered = .ok miniBatches ∧
      ∀ miniBatch ∈ miniBatches.1, MiniBatchFits config miniBatch := by
  obtain ⟨samples, miniBatches, processed, split, -, stores⟩ := stores
  refine ⟨samples, miniBatches, processed, split, ?_⟩
  have arranges := splitBatch_arranges config split
  have stored := stores (Nat × Nat) ((Nat × Nat) × Label) Prod.mk Prod.mk
  rw [stepForward_eq_ok_iff config Prod.mk Prod.mk processed split,
    filterMap_ownResult config Prod.mk Prod.mk arranges] at stored
  obtain ⟨results, computed, joined⟩ := stored
  have lengths : results.map List.length =
      ((miniBatches.1.zip miniBatches.2).map
        (ownResults config Prod.mk Prod.mk)).map List.length := by
    rw [map_map]
    apply map_results_eq computed
    intro entry member data forwarded
    rw [length_forwardMiniBatch config Prod.mk Prod.mk
      (takeItems_of_arranges arranges member) forwarded, Function.comp_apply, ownResults,
      length_map, length_zip, ← arranges.length_eq member, Nat.min_self]
  have same : results = (miniBatches.1.zip miniBatches.2).map
      (ownResults config Prod.mk Prod.mk) := eq_iff_flatten_eq.mpr ⟨joined, lengths⟩
  rw [same, map_map, map_inj_left] at computed
  intro miniBatch member
  rw [← map_fst_zip (Nat.le_of_eq arranges.sameLength)] at member
  obtain ⟨entry, entryMember, rfl⟩ := mem_map.mp member
  exact miniBatchFits_of_forward config (takeItems_of_arranges arranges entryMember)
    (nodup_of_arranges arranges (of_mem_zip entryMember).2) (computed entry entryMember)

/-- A batch stores every rollout's own log probabilities exactly if all its mini-batches
fit. -/
theorem storesOwnLogprobs_iff (rollouts : List TeacherRollout) (gathered : Nat) :
    StoresOwnLogprobs config rollouts gathered ↔
      ∃ samples miniBatches, processedSamples config rollouts = .ok samples ∧
        splitBatch config samples gathered = .ok miniBatches ∧
        ∀ miniBatch ∈ miniBatches.1, MiniBatchFits config miniBatch := by
  refine ⟨fits_of_storesOwnLogprobs config, ?_⟩
  rintro ⟨samples, miniBatches, processed, split, allFit⟩
  have arranges := splitBatch_arranges config split
  refine ⟨samples, miniBatches, processed, split, arranges.covered, ?_⟩
  intro Logit Row logit logProb
  rw [stepForward_eq_ok_iff config logit logProb processed split,
    filterMap_ownResult config logit logProb arranges]
  refine ⟨_, ?_, rfl⟩
  rw [map_map]
  apply map_congr_left
  intro entry member
  exact forwardMiniBatch_own config logit logProb (takeItems_of_arranges arranges member)
    (allFit entry.1 (of_mem_zip member).1)

def packedPairConfig : EngineConfig where
  sequencePacking := true
  packingCompatible := true
  miniBatch := 2
  miniBatchPositive := Nat.two_pos
  maxTokenLenPerMiniBatch := none
  topK := 0
  seqLenMultiple := 1
  multiplePositive := Nat.one_pos
  multiTurn := false
  tokenizer := characterTokenizer
  studentTokenizer := characterTokenizer
  tokenizerMapping := some
  maxValidTokenId := 127

/-- A rollout of two tokens: the character `a` and a completion of one token. -/
def twoTokens (completion : Nat) (uuid : String) : TeacherRollout where
  prompt := .text "a"
  completionTokenIds := [[completion]]
  promptTokenIds := none
  nIgnorePrefixTokens := 0
  teacherResultUuid := uuid

/-- Of two packed rollouts `ab` and `ac` the first gets the log probabilities of both. -/
theorem not_storesOwnLogprobs_packedPair :
    ¬ StoresOwnLogprobs packedPairConfig [twoTokens 98 "first", twoTokens 99 "second"] 0 := by
  intro stores
  obtain ⟨samples, miniBatches, processed, split, fits⟩ :=
    fits_of_storesOwnLogprobs packedPairConfig stores
  cases processed
  cases split
  exact absurd (fits _ mem_cons_self) (by decide)

end Batches

end CosmosRl.Reference
