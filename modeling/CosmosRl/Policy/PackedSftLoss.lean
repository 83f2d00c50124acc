import CosmosRl.Policy.SftLoss

/-!
Packed and padded, a batch of labeled rows is scored at the same labels.

A row that is cut to its valid length or beyond loses ignored labels only, and the two
packing masks pair every output with the label behind it.
-/

namespace CosmosRl.Policy

open CosmosRl.Data CosmosRl.Foundation CosmosRl.Utils List
open CosmosRl.Dispatcher (PyError)

section Widths

def LabeledBatch.filledLength (batch : LabeledBatch) (row : LabeledRow) : Nat :=
  max (trimmedLength batch.ignoreLabelId row.labelIds)
    (trimmedLength batch.padTokenId row.inputIds)

variable {batch : LabeledBatch} {row : LabeledRow}

theorem LabeledBatch.filledLength_pos (member : row ∈ batch.rows) : 0 < batch.filledLength row := by
  rcases batch.filled row member with ⟨token, isToken, real⟩ | ⟨label, isLabel, counts⟩
  · refine Nat.lt_of_lt_of_le (Nat.pos_of_ne_zero fun nothing => ?_) (Nat.le_max_right _ _)
    exact real (trimmedLength_eq_zero_iff.mp nothing token isToken)
  · refine Nat.lt_of_lt_of_le (Nat.pos_of_ne_zero fun nothing => ?_) (Nat.le_max_left _ _)
    exact counts (trimmedLength_eq_zero_iff.mp nothing label isLabel)

theorem LabeledBatch.filledLength_le (member : row ∈ batch.rows) :
    batch.filledLength row ≤ batch.seqLen := by
  have labels := trimmedLength_le batch.ignoreLabelId row.labelIds
  have inputs := trimmedLength_le batch.padTokenId row.inputIds
  rw [batch.labelLength row member] at labels
  rw [batch.inputLength row member] at inputs
  exact Nat.max_le.mpr ⟨labels, inputs⟩

/-- The valid lengths contain what counts of every row and stay within the batch. -/
theorem LabeledBatch.exists_widths (batch : LabeledBatch) :
    ∃ width : LabeledRow × Nat → Nat,
      batch.validInputLen true = .ok (some (batch.rows.zipIdx.map width)) ∧
        ∀ entry ∈ batch.rows.zipIdx,
          batch.filledLength entry.1 ≤ width entry ∧ width entry ≤ batch.seqLen := by
  have lengths : List.zipWith max
      ((batch.rows.map LabeledRow.labelIds).map (validLabelLength batch.ignoreLabelId))
      (computeValidLengths (batch.rows.map LabeledRow.inputIds) batch.padTokenId) =
        batch.rows.map batch.filledLength := by
    rw [computeValidLengths, map_map, map_map, zipWith_map, zipWith_self]
    apply map_congr_left
    intro row _
    rw [Function.comp_apply, Function.comp_apply, validLabelLength, validLength,
      length_dropWhile_reverse, length_dropWhile_reverse]
    rfl
  have sameShape : (batch.rows.map LabeledRow.inputIds).map List.length =
      (batch.rows.map LabeledRow.labelIds).map List.length := by
    rw [map_map, map_map]
    apply map_congr_left
    intro row member
    rw [Function.comp_apply, Function.comp_apply, batch.inputLength row member,
      batch.labelLength row member]
  rw [validInputLen, if_pos rfl, packLabeledInfoCollect, if_pos sameShape, lengths]
  obtain ⟨needed, isNeeded⟩ : ∃ needed,
      ((batch.rows.map batch.filledLength).sum + batch.seqLenMultiple - 1) /
          batch.seqLenMultiple * batch.seqLenMultiple -
        (batch.rows.map batch.filledLength).sum = needed := ⟨_, rfl⟩
  refine ⟨fun entry => batch.filledLength entry.1 +
    min (needed - (((batch.rows.map batch.filledLength).take entry.2).map fun other =>
      batch.seqLen - other).sum) (batch.seqLen - batch.filledLength entry.1), ?_, ?_⟩
  · simp only [isNeeded, Except.map]
    congr 2
    apply ext_getElem?
    intro index
    rw [getElem?_spreadPadding, getElem?_map, getElem?_map, getElem?_zipIdx,
      Option.map_map, Option.map_map, Nat.zero_add]
    cases found : batch.rows[index]? with
    | none => rfl
    | some row =>
      have origin : ((batch.rows.map LabeledRow.inputIds).headD []).length =
          batch.seqLen := by
        cases isRows : batch.rows with
        | nil => simp [isRows] at found
        | cons first others =>
          exact batch.inputLength first (by rw [isRows]; exact mem_cons_self)
      rw [origin]
      rfl
  · intro entry member
    have within := batch.filledLength_le (fst_mem_of_mem_zipIdx member)
    simp only
    omega

end Widths

section Pairs

variable {batch : LabeledBatch} {Logit Value : Type} (logit : Nat → Nat → Logit)

def rowPairs (ignoreLabelId : Int) (entry : LabeledRow × Nat) (width : Nat) :
    List (Logit × Int) :=
  (List.range (width - 1)).map fun position =>
    (logit entry.2 position, entry.1.labelIds.getD (position + 1) ignoreLabelId)

theorem drop_take_labelIds {labelIds : List Int} {width : Nat}
    (within : width ≤ labelIds.length) (ignoreLabelId : Int) :
    (labelIds.take width).drop 1 =
      (List.range (width - 1)).map fun position =>
        labelIds.getD (position + 1) ignoreLabelId := by
  apply ext_getElem?
  intro position
  rw [getElem?_drop, getElem?_map, Nat.add_comm]
  rcases Nat.lt_or_ge position (width - 1) with inside | outside
  · have present : position + 1 < labelIds.length := by omega
    rw [getElem?_take_of_lt (by omega), getElem?_range inside, Option.map_some,
      getD_eq_getElem?_getD, getElem?_eq_getElem present, Option.getD_some]
  · rw [getElem?_eq_none (by rw [length_take]; omega),
      getElem?_eq_none (by rw [length_range]; exact outside)]
    rfl

theorem dropLast_map_range (width : Nat) (entries : Nat → Logit) :
    ((List.range width).map entries).dropLast = (List.range (width - 1)).map entries := by
  rw [← map_dropLast, dropLast_eq_take, length_range, take_range,
    Nat.min_eq_left (Nat.sub_le _ _)]

theorem LabeledBatch.logits_eq :
    batch.logits logit = batch.rows.zipIdx.map fun entry =>
      (List.range batch.seqLen).map (logit entry.2) := by
  have indices : List.range batch.rows.length = batch.rows.zipIdx.map Prod.snd := by
    rw [zipIdx_map_snd, range_eq_range']
  rw [logits, indices, map_map]
  rfl

theorem LabeledBatch.labelIds_eq :
    batch.rows.map LabeledRow.labelIds =
      batch.rows.zipIdx.map fun entry => entry.1.labelIds := by
  conv_lhs => rw [← zipIdx_map_fst 0 batch.rows, map_map]
  rfl

theorem zip_flatMap_pairs (entries : List (LabeledRow × Nat)) (ignoreLabelId : Int)
    (width : LabeledRow × Nat → Nat) :
    (entries.flatMap fun entry => (List.range (width entry - 1)).map (logit entry.2)).zip
        (entries.flatMap fun entry => (List.range (width entry - 1)).map fun position =>
          entry.1.labelIds.getD (position + 1) ignoreLabelId) =
      entries.flatMap fun entry => rowPairs logit ignoreLabelId entry (width entry) := by
  rw [List.zip, zipWith_flatMap]
  · apply flatMap_congr
    intro entry _
    rw [rowPairs, zipWith_map, zipWith_self]
  · intro entry _
    rw [length_map, length_map]

theorem length_flatMap_pairs (entries : List (LabeledRow × Nat)) (ignoreLabelId : Int)
    (width : LabeledRow × Nat → Nat) :
    (entries.flatMap fun entry =>
        (List.range (width entry - 1)).map (logit entry.2)).length =
      (entries.flatMap fun entry => (List.range (width entry - 1)).map fun position =>
        entry.1.labelIds.getD (position + 1) ignoreLabelId).length := by
  rw [length_flatMap, length_flatMap]
  simp only [length_map]

theorem LabeledBatch.scored_padded :
    batch.scored false logit = .ok (batch.rows.zipIdx.flatMap fun entry =>
      rowPairs logit batch.ignoreLabelId entry batch.seqLen) := by
  have targets : (batch.rows.map LabeledRow.labelIds).flatMap (List.drop 1) =
      batch.rows.zipIdx.flatMap fun entry =>
        (List.range (batch.seqLen - 1)).map fun position =>
          entry.1.labelIds.getD (position + 1) batch.ignoreLabelId := by
    rw [labelIds_eq, flatMap_map]
    apply flatMap_congr
    intro entry member
    have length := batch.labelLength entry.1 (fst_mem_of_mem_zipIdx member)
    rw [← drop_take_labelIds (Nat.le_of_eq length.symm), take_of_length_le
      (Nat.le_of_eq length)]
  have outputs : (batch.logits logit).flatMap List.dropLast =
      batch.rows.zipIdx.flatMap fun entry =>
        (List.range (batch.seqLen - 1)).map (logit entry.2) := by
    rw [logits_eq, flatMap_map]
    apply flatMap_congr
    intro entry _
    rw [dropLast_map_range]
  have sameLength := length_flatMap_pairs logit batch.rows.zipIdx batch.ignoreLabelId
    fun _ => batch.seqLen
  have pairs := zip_flatMap_pairs logit batch.rows.zipIdx batch.ignoreLabelId fun _ => batch.seqLen
  simp only [scored, validInputLen, scoredPairs, scoredOutputs, scoredTargets, layOut, bind,
    Except.bind, Option.map_none, Bool.false_eq_true, if_false, outputs, targets]
  rw [if_pos sameLength, pairs]

theorem indexPacked_flatMap {Alpha Row : Type} (rows : List Row) (masks : Row → List Bool)
    (entries : Row → List Alpha)
    (sameLength : ∀ row ∈ rows, (masks row).length = (entries row).length) :
    indexPacked (rows.flatMap masks) [rows.flatMap entries] =
      .ok (rows.flatMap fun row => selectMasked (masks row) (entries row)) := by
  have lengths : (rows.flatMap masks).length = (rows.flatMap entries).length := by
    rw [length_flatMap, length_flatMap, map_congr_left sameLength]
  rw [indexPacked, if_pos lengths, selectMasked_flatMap rows masks entries sameLength]

/-- On the packed batch every row is scored up to its valid length. -/
theorem LabeledBatch.scored_packed {width : LabeledRow × Nat → Nat}
    (lengths : batch.validInputLen true = .ok (some (batch.rows.zipIdx.map width)))
    (filled : ∀ entry ∈ batch.rows.zipIdx, 0 < width entry)
    (within : ∀ entry ∈ batch.rows.zipIdx, width entry ≤ batch.seqLen) :
    batch.scored true logit = .ok (batch.rows.zipIdx.flatMap fun entry =>
      rowPairs logit batch.ignoreLabelId entry (width entry)) := by
  have outputs : indexPacked (inputPackingMask (batch.rows.zipIdx.map width))
      [packSequences (batch.logits logit) (batch.rows.zipIdx.map width)] =
        .ok (batch.rows.zipIdx.flatMap fun entry =>
          (List.range (width entry - 1)).map (logit entry.2)) := by
    rw [inputPackingMask, flatMap_map, logits_eq, packSequences_map, indexPacked_flatMap]
    · congr 1
      apply flatMap_congr
      intro entry member
      have widthPos := filled entry member
      rw [← map_take, take_range, Nat.min_eq_left (within entry member)]
      have split : width entry - 1 + 1 =
          ((List.range (width entry)).map (logit entry.2)).length := by
        rw [length_map, length_range]
        omega
      have selected := selectMasked_prefix split
      rw [replicate_one] at selected
      rw [selected, ← map_take, take_range, Nat.min_eq_left (Nat.sub_le _ _)]
    · intro entry member
      have widthPos := filled entry member
      have widthWithin := within entry member
      simp only [length_append, length_replicate, length_singleton,
        length_take, length_map, length_range]
      omega
  have targets : indexPacked (labelPackingMask (batch.rows.zipIdx.map width))
      [packSequences (batch.rows.map LabeledRow.labelIds) (batch.rows.zipIdx.map width)] =
        .ok (batch.rows.zipIdx.flatMap fun entry =>
          (List.range (width entry - 1)).map fun position =>
            entry.1.labelIds.getD (position + 1) batch.ignoreLabelId) := by
    have labelLength : ∀ entry ∈ batch.rows.zipIdx,
        (entry.1.labelIds.take (width entry)).length = width entry := by
      intro entry member
      rw [length_take, batch.labelLength entry.1 (fst_mem_of_mem_zipIdx member),
        Nat.min_eq_left (within entry member)]
    rw [labelPackingMask, flatMap_map, labelIds_eq, packSequences_map, indexPacked_flatMap]
    · congr 1
      apply flatMap_congr
      intro entry member
      have rowLength := labelLength entry member
      have isLong : width entry ≤ entry.1.labelIds.length := by
        rw [batch.labelLength entry.1 (fst_mem_of_mem_zipIdx member)]
        exact within entry member
      rw [← drop_take_labelIds isLong]
      obtain ⟨first, others, isRow⟩ := exists_cons_of_length_pos
        (Nat.lt_of_lt_of_eq (filled entry member) rowLength.symm)
      rw [isRow] at rowLength ⊢
      rw [selectMasked_false, selectMasked_replicate_true (by
        rw [length_cons] at rowLength
        omega)]
      rfl
    · intro entry member
      have widthPos := filled entry member
      rw [labelLength entry member, length_cons, length_replicate]
      omega
  have sameLength := length_flatMap_pairs logit batch.rows.zipIdx batch.ignoreLabelId width
  simp only [scored, lengths, scoredPairs, scoredOutputs, scoredTargets, layOut, bind,
    Except.bind, Option.map_some, outputs, targets]
  rw [if_pos sameLength, zip_flatMap_pairs]

theorem labeledPairs_rowPairs {ignoreLabelId : Int} {entry : LabeledRow × Nat}
    {width maxLen : Nat} (within : width ≤ maxLen)
    (counted : trimmedLength ignoreLabelId entry.1.labelIds ≤ width) :
    labeledPairs ignoreLabelId (rowPairs logit ignoreLabelId entry width) =
      labeledPairs ignoreLabelId (rowPairs logit ignoreLabelId entry maxLen) := by
  obtain ⟨rest, isRest⟩ := Nat.exists_eq_add_of_le (Nat.sub_le_sub_right within 1)
  have ignored : ∀ position ∈ List.range' (width - 1) rest,
      entry.1.labelIds.getD (position + 1) ignoreLabelId = ignoreLabelId := by
    intro position member
    have behind := (mem_range'_1.mp member).1
    rw [getD_eq_getElem?_getD]
    cases found : entry.1.labelIds[position + 1]? with
    | none => rfl
    | some label => exact eq_filler_of_trimmedLength_le (by omega) found
  have split : List.range (maxLen - 1) =
      List.range (width - 1) ++ List.range' (width - 1) rest := by
    have joined := @range'_append_1 0 (width - 1) rest
    rw [Nat.zero_add] at joined
    rw [isRest, range_eq_range', range_eq_range', joined]
  have nothing : labeledPairs ignoreLabelId
      ((List.range' (width - 1) rest).map fun position =>
        (logit entry.2 position, entry.1.labelIds.getD (position + 1) ignoreLabelId)) = [] := by
    rw [labeledPairs, filter_eq_nil_iff]
    intro pair member
    obtain ⟨position, inRest, rfl⟩ := mem_map.mp member
    simp only [ignored position inRest]
    simp
  rw [rowPairs, rowPairs, split, map_append, labeledPairs, labeledPairs, filter_append]
  rw [labeledPairs] at nothing
  rw [nothing, append_nil]

end Pairs

section Loss

variable {Logit Value : Type}

theorem labeledPairs_flatMap {Row : Type} (ignoreIndex : Int) (rows : List Row)
    (pairs : Row → List (Logit × Int)) :
    labeledPairs ignoreIndex (rows.flatMap pairs) =
      rows.flatMap fun row => labeledPairs ignoreIndex (pairs row) := by
  rw [labeledPairs, filter_flatMap]
  rfl

theorem LabeledBatch.exists_scored (batch : LabeledBatch) (logit : Nat → Nat → Logit) :
    ∃ packed padded, batch.scored true logit = .ok packed ∧
      batch.scored false logit = .ok padded ∧
      labeledPairs batch.ignoreLabelId packed = labeledPairs batch.ignoreLabelId padded := by
  obtain ⟨width, lengths, bounds⟩ := batch.exists_widths
  refine ⟨_, _, scored_packed logit lengths (fun entry member => ?_)
    (fun entry member => (bounds entry member).2), scored_padded logit, ?_⟩
  · exact Nat.lt_of_lt_of_le (filledLength_pos (fst_mem_of_mem_zipIdx member))
      (bounds entry member).1
  · rw [labeledPairs_flatMap, labeledPairs_flatMap]
    apply flatMap_congr
    intro entry member
    exact labeledPairs_rowPairs logit (bounds entry member).2
      (Nat.le_trans (Nat.le_max_left _ _) (bounds entry member).1)

variable [Field Value] (ignoreIndex : Int) (crossEntropy : Logit → Int → Value)

theorem sum_pairLosses_labeledPairs (pairs : List (Logit × Int)) :
    (pairLosses ignoreIndex crossEntropy (labeledPairs ignoreIndex pairs)).sum =
      (pairLosses ignoreIndex crossEntropy pairs).sum := by
  induction pairs with
  | nil => rfl
  | cons pair pairs ih =>
    simp only [pairLosses, labeledPairs] at ih ⊢
    by_cases ignored : pair.2 = ignoreIndex
    · rw [filter_cons_of_neg (by simp [ignored]), map_cons, sum_cons,
        if_pos ignored, zero_add, ih]
    · rw [filter_cons_of_pos (by simp [ignored]), map_cons, map_cons, sum_cons, sum_cons, ih]

theorem ceLoss_labeledPairs (options : CeOptions Value) (pairs : List (Logit × Int)) :
    ceLoss ignoreIndex crossEntropy options (labeledPairs ignoreIndex pairs) =
      ceLoss ignoreIndex crossEntropy options pairs := by
  have twice : labeledPairs ignoreIndex (labeledPairs ignoreIndex pairs) =
      labeledPairs ignoreIndex pairs := by
    rw [labeledPairs, labeledPairs, filter_filter]
    simp only [Bool.and_self]
  rw [ceLoss, ceLoss, twice, sum_pairLosses_labeledPairs]

variable {ignoreIndex crossEntropy} in
theorem LabeledBatch.sftLoss_eq (batch : LabeledBatch) (options : CeOptions Value)
    (packingSeq : Bool) (logit : Nat → Nat → Logit) :
    batch.sftLoss crossEntropy options packingSeq logit =
      (batch.scored packingSeq logit).map
        (ceLoss batch.ignoreLabelId crossEntropy options) := by
  simp only [sftLoss, scored, asyncSafeCe, bind, Except.bind]
  cases batch.validInputLen packingSeq <;> rfl

/-- Packed and padded, a batch whose rows are not only padding and ignored labels is scored
at the same rows, positions and labels, in order, and has the same loss whenever the model
gives the same logits. -/
theorem packedScores_eq_padded (batch : LabeledBatch) :
    (∃ triples, batch.scoredTriples true = .ok triples ∧
      batch.scoredTriples false = .ok triples) ∧
      ∀ (Logit Value : Type) [Field Value] (crossEntropy : Logit → Int → Value)
        (options : CeOptions Value) (logit : Nat → Nat → Logit),
        ∃ loss, batch.sftLoss crossEntropy options true logit = .ok loss ∧
          batch.sftLoss crossEntropy options false logit = .ok loss := by
  constructor
  · obtain ⟨packed, padded, isPacked, isPadded, same⟩ :=
      batch.exists_scored (Prod.mk : Nat → Nat → Nat × Nat)
    refine ⟨labeledPairs batch.ignoreLabelId padded, ?_, ?_⟩
    · rw [LabeledBatch.scoredTriples, isPacked, Except.map, same]
    · rw [LabeledBatch.scoredTriples, isPadded, Except.map]
  · intro Logit Value _ crossEntropy options logit
    obtain ⟨packed, padded, isPacked, isPadded, same⟩ := batch.exists_scored logit
    refine ⟨ceLoss batch.ignoreLabelId crossEntropy options padded, ?_, ?_⟩
    · rw [LabeledBatch.sftLoss_eq, isPacked, Except.map, ← ceLoss_labeledPairs, same,
        ceLoss_labeledPairs]
    · rw [LabeledBatch.sftLoss_eq, isPadded, Except.map]

example : (LabeledBatch.mk [⟨[5, 0, 0], [-100, 7, -100]⟩, ⟨[3, 4, 0], [-100, -100, -100]⟩]
    3 0 (-100) 1 (by decide) (by decide) (by decide) (by decide)).scoredTriples true =
      .ok [((0, 0), 7)] := by rfl

end Loss

end CosmosRl.Policy
