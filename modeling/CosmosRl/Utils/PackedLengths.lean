import CosmosRl.Foundation.TrailingFiller
import CosmosRl.Utils.SequencePacking

/-!
The lengths of a packed batch: the valid lengths, the packed rows, the packing masks and
`cu_seqlens`.

The padding that fills up the tokens to a multiple fits into the batch, so that it is spread
in full.  The packing masks have an entry for every row, also for one of which nothing is
kept.
-/

namespace CosmosRl.Utils

open CosmosRl.Foundation List

/-- `cu_seqlens` of `pack_sequences_for_inputs`: the beginnings of the rows and their end. -/
def cuSeqlens (validInputLen : List Nat) : List Nat :=
  let prefillStartPos :=
    List.zipWith (· - ·) (validInputLen.scanl (· + ·) 0).tail validInputLen
  prefillStartPos ++ [validInputLen.sum]

structure PaddedBatch where
  inputIds : List (List Nat)
  width : Nat
  seqLenMultiple : Nat
  rectangular : ∀ row ∈ inputIds, row.length = width
  multiplePositive : 0 < seqLenMultiple
  aligned : seqLenMultiple ∣ width

namespace PaddedBatch

variable (batch : PaddedBatch) (padTokenId : Nat)

/-- `valid_input_len`. -/
def validInputLen : List Nat :=
  packSequencesInfoCollect batch.inputIds padTokenId batch.seqLenMultiple

def alignment : Nat :=
  let total := (batch.inputIds.map (trimmedLength padTokenId)).sum
  (total + batch.seqLenMultiple - 1) / batch.seqLenMultiple * batch.seqLenMultiple - total

def roomBefore (index : Nat) : Nat :=
  ((batch.inputIds.take index).map fun row =>
    batch.width - trimmedLength padTokenId row).sum

structure LengthsAgree : Prop where
  between : ∀ (index : Nat) (row : List Nat), batch.inputIds[index]? = some row →
    ∃ validLen, (batch.validInputLen padTokenId)[index]? = some validLen ∧
      validLength padTokenId row ≤ validLen ∧ validLen ≤ batch.width
  multiple : batch.seqLenMultiple ∣ (batch.validInputLen padTokenId).sum
  packedInputs : (packSequences batch.inputIds (batch.validInputLen padTokenId)).length =
    (batch.validInputLen padTokenId).sum
  inputMask : (inputPackingMask (batch.validInputLen padTokenId)).length =
    (batch.validInputLen padTokenId).sum
  labelMask : (labelPackingMask (batch.validInputLen padTokenId)).length =
    (batch.validInputLen padTokenId).sum
  lastSeqlen : (cuSeqlens (batch.validInputLen padTokenId)).getLast? =
    some (batch.validInputLen padTokenId).sum
  sameSelected : (inputPackingMask (batch.validInputLen padTokenId)).count true =
    (labelPackingMask (batch.validInputLen padTokenId)).count true

def KeepsEveryRow : Prop :=
  ∀ (index : Nat) (row : List Nat), batch.inputIds[index]? = some row →
    (∃ token ∈ row, token ≠ padTokenId) ∨
      (0 < batch.width ∧ batch.roomBefore padTokenId index < batch.alignment padTokenId)

end PaddedBatch

section Spreading

variable {seqLens : List Nat}

theorem sum_spreadPadding {originSeqLen padNeeded : Nat}
    (room : padNeeded ≤ (seqLens.map fun seqLen => originSeqLen - seqLen).sum) :
    (spreadPadding originSeqLen padNeeded seqLens).sum = seqLens.sum + padNeeded := by
  induction seqLens generalizing padNeeded with
  | nil =>
    rw [map_nil, sum_nil, Nat.le_zero] at room
    rw [room]
    rfl
  | cons seqLen seqLens ih =>
    rw [map_cons, sum_cons] at room
    have restRoom : padNeeded - min padNeeded (originSeqLen - seqLen) ≤
        (seqLens.map fun other => originSeqLen - other).sum := by omega
    rw [spreadPadding, sum_cons, sum_cons, ih restRoom]
    omega

theorem sum_room {originSeqLen : Nat} (within : ∀ seqLen ∈ seqLens, seqLen ≤ originSeqLen) :
    (seqLens.map fun seqLen => originSeqLen - seqLen).sum + seqLens.sum =
      seqLens.length * originSeqLen := by
  induction seqLens with
  | nil => simp
  | cons seqLen seqLens ih =>
    obtain ⟨first, others⟩ := forall_mem_cons.mp within
    have rest := ih others
    rw [map_cons, sum_cons, sum_cons, length_cons, Nat.succ_mul]
    omega

theorem roundUp_le {multiple total bound : Nat} (positive : 0 < multiple)
    (isMultiple : multiple ∣ bound) (within : total ≤ bound) :
    (total + multiple - 1) / multiple * multiple ≤ bound := by
  obtain ⟨count, rfl⟩ := isMultiple
  have few : (total + multiple - 1) / multiple ≤ count := by
    rw [← Nat.lt_succ_iff, Nat.div_lt_iff_lt_mul positive, Nat.succ_mul, Nat.mul_comm count]
    omega
  rw [Nat.mul_comm multiple]
  exact Nat.mul_le_mul_right multiple few

theorem le_roundUp {multiple : Nat} (positive : 0 < multiple) (total : Nat) :
    total ≤ (total + multiple - 1) / multiple * multiple := by
  have split := Nat.div_add_mod (total + multiple - 1) multiple
  have remainder := Nat.mod_lt (total + multiple - 1) positive
  rw [Nat.mul_comm] at split
  omega

end Spreading

section Masks

theorem count_inputPackingMask (validInputLen : List Nat) :
    (inputPackingMask validInputLen).count true =
      (validInputLen.map fun validLen => validLen - 1).sum := by
  rw [inputPackingMask, count_flatMap]
  congr 1
  apply map_congr_left
  intro validLen _
  simp

theorem count_labelPackingMask (validLabelLen : List Nat) :
    (labelPackingMask validLabelLen).count true =
      (validLabelLen.map fun validLen => validLen - 1).sum := by
  rw [labelPackingMask, count_flatMap]
  congr 1
  apply map_congr_left
  intro validLen _
  simp

theorem getLast?_cuSeqlens (validInputLen : List Nat) :
    (cuSeqlens validInputLen).getLast? = some validInputLen.sum := by
  rw [cuSeqlens, getLast?_append]
  rfl

end Masks

section Batch

namespace PaddedBatch

variable {batch : PaddedBatch} {padTokenId : Nat}

theorem computeValidLengths_eq :
    computeValidLengths batch.inputIds padTokenId =
      batch.inputIds.map (trimmedLength padTokenId) := by
  rw [computeValidLengths]
  apply map_congr_left
  intro row _
  rw [validLength, length_dropWhile_reverse]

theorem trimmed_le {row : List Nat} (member : row ∈ batch.inputIds) :
    trimmedLength padTokenId row ≤ batch.width := by
  rw [← batch.rectangular row member]
  exact trimmedLength_le padTokenId row

theorem validInputLen_eq :
    batch.validInputLen padTokenId =
      spreadPadding batch.width (batch.alignment padTokenId)
        (batch.inputIds.map (trimmedLength padTokenId)) := by
  rw [validInputLen, packSequencesInfoCollect, computeValidLengths_eq]
  cases isRows : batch.inputIds with
  | nil => rfl
  | cons first others =>
    have origin : first.length = batch.width := by
      apply batch.rectangular
      rw [isRows]
      exact mem_cons_self
    rw [headD_cons, origin, alignment, isRows]

theorem alignment_le_room :
    batch.alignment padTokenId ≤
      ((batch.inputIds.map (trimmedLength padTokenId)).map fun seqLen =>
        batch.width - seqLen).sum := by
  have within : ∀ seqLen ∈ batch.inputIds.map (trimmedLength padTokenId),
      seqLen ≤ batch.width := by
    intro seqLen member
    obtain ⟨row, isRow, rfl⟩ := mem_map.mp member
    exact trimmed_le isRow
  have room := sum_room within
  rw [length_map] at room
  have filled := roundUp_le batch.multiplePositive
    (Dvd.dvd.mul_left batch.aligned batch.inputIds.length)
    (Nat.le_trans (Nat.le_add_left _ _) (Nat.le_of_eq room))
  rw [alignment]
  omega

theorem sum_validInputLen :
    (batch.validInputLen padTokenId).sum =
      ((batch.inputIds.map (trimmedLength padTokenId)).sum + batch.seqLenMultiple - 1) /
        batch.seqLenMultiple * batch.seqLenMultiple := by
  have enough := le_roundUp batch.multiplePositive
    (batch.inputIds.map (trimmedLength padTokenId)).sum
  rw [validInputLen_eq, sum_spreadPadding alignment_le_room, alignment]
  omega

theorem getElem?_validInputLen (index : Nat) :
    (batch.validInputLen padTokenId)[index]? = (batch.inputIds[index]?).map fun row =>
      trimmedLength padTokenId row +
        min (batch.alignment padTokenId - batch.roomBefore padTokenId index)
          (batch.width - trimmedLength padTokenId row) := by
  rw [validInputLen_eq, getElem?_spreadPadding, getElem?_map, Option.map_map,
    ← map_take, map_map]
  rfl

theorem packedLength :
    (packSequences batch.inputIds (batch.validInputLen padTokenId)).length =
      (batch.validInputLen padTokenId).sum := by
  have within := packSequencesInfoCollect_le batch.rectangular padTokenId batch.seqLenMultiple
  have sameLength := length_packSequencesInfoCollect batch.inputIds padTokenId batch.seqLenMultiple
  have taken : List.zipWith (fun row validLen => (row.take validLen).length) batch.inputIds
      (batch.validInputLen padTokenId) = batch.validInputLen padTokenId := by
    apply ext_getElem?
    intro index
    rw [getElem?_zipWith]
    cases found : (batch.validInputLen padTokenId)[index]? with
    | none => cases batch.inputIds[index]? <;> rfl
    | some validLen =>
      obtain ⟨inside, _⟩ := List.getElem?_eq_some_iff.mp found
      have inRows : index < batch.inputIds.length := by
        rw [← sameLength]
        exact inside
      have fits := within validLen (mem_of_getElem? found)
      have isWidth := batch.rectangular _ (getElem_mem inRows)
      rw [getElem?_eq_getElem inRows]
      simp only [length_take, isWidth, Nat.min_eq_left fits]
  rw [packSequences, length_flatten, map_zipWith, taken]

theorem zero_notMem_validInputLen_iff :
    0 ∉ batch.validInputLen padTokenId ↔ batch.KeepsEveryRow padTokenId := by
  have keeps : ∀ (index : Nat) (row : List Nat), batch.inputIds[index]? = some row →
      (trimmedLength padTokenId row +
          min (batch.alignment padTokenId - batch.roomBefore padTokenId index)
            (batch.width - trimmedLength padTokenId row) ≠ 0 ↔
        (∃ token ∈ row, token ≠ padTokenId) ∨
          (0 < batch.width ∧
            batch.roomBefore padTokenId index < batch.alignment padTokenId)) := by
    intro index row _
    have someToken : (∃ token ∈ row, token ≠ padTokenId) ↔
        trimmedLength padTokenId row ≠ 0 := by
      rw [Ne, trimmedLength_eq_zero_iff, not_forall]
      simp only [Classical.not_imp]
    rw [someToken]
    omega
  constructor
  · intro noneZero index row found
    refine (keeps index row found).mp fun isZero => noneZero ?_
    apply mem_of_getElem? (i := index)
    rw [getElem?_validInputLen, found, Option.map_some, isZero]
  · intro keepsAll member
    obtain ⟨index, found⟩ := mem_iff_getElem?.mp member
    rw [getElem?_validInputLen, Option.map_eq_some_iff] at found
    obtain ⟨row, isRow, isZero⟩ := found
    exact (keeps index row isRow).mpr (keepsAll index row isRow) isZero

end PaddedBatch

/-- The lengths of a packed batch agree exactly if something is kept of every row. -/
theorem lengthsAgree_iff (batch : PaddedBatch) (padTokenId : Nat) :
    batch.LengthsAgree padTokenId ↔ batch.KeepsEveryRow padTokenId := by
  have masks : (inputPackingMask (batch.validInputLen padTokenId)).length =
      (batch.validInputLen padTokenId).sum ↔ batch.KeepsEveryRow padTokenId := by
    rw [length_inputPackingMask, sum_pred_succ_eq_iff, PaddedBatch.zero_notMem_validInputLen_iff]
  constructor
  · intro agree
    exact masks.mp agree.inputMask
  · intro keeps
    refine ⟨?_, ?_, PaddedBatch.packedLength, masks.mpr keeps, ?_, getLast?_cuSeqlens _, ?_⟩
    · intro index row found
      have fits := @PaddedBatch.trimmed_le batch padTokenId row (mem_of_getElem? found)
      refine ⟨_, by rw [PaddedBatch.getElem?_validInputLen, found]; rfl, ?_, ?_⟩
      · rw [validLength, length_dropWhile_reverse]
        exact Nat.le_add_right _ _
      · simp only
        omega
    · rw [PaddedBatch.sum_validInputLen]
      exact Nat.dvd_mul_left _ _
    · rw [length_labelPackingMask, ← length_inputPackingMask]
      exact masks.mpr keeps
    · rw [count_inputPackingMask, count_labelPackingMask]

def paddingRow : List (List Nat) := [[5, 6], [0, 0]]

theorem paddingRow_rectangular : ∀ row ∈ paddingRow, row.length = 2 := by decide

def paddingRowBatch : PaddedBatch where
  inputIds := paddingRow
  width := 2
  seqLenMultiple := 1
  rectangular := paddingRow_rectangular
  multiplePositive := Nat.one_pos
  aligned := Nat.one_dvd 2

/-- The masks of this batch have an entry more than the packed row. -/
theorem not_lengthsAgree_paddingRow :
    paddingRowBatch.validInputLen 0 = [2, 0] ∧
      (inputPackingMask (paddingRowBatch.validInputLen 0)).length = 3 ∧
      ¬ ∀ (batch : PaddedBatch) (padTokenId : Nat), batch.LengthsAgree padTokenId := by
  refine ⟨by decide, by decide, fun claim => ?_⟩
  have lengths := (claim paddingRowBatch 0).inputMask
  revert lengths
  decide

end Batch

end CosmosRl.Utils
