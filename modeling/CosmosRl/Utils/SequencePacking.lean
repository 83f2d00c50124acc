import CosmosRl.Data.TrainedTokens

/-!
Sequence packing: the rows of a padded mini-batch cut to their valid lengths and put
one after the other.

A tensor of two dimensions is the list of its rows, and a packed tensor, whose batch
dimension is one, is its only row.
-/

namespace CosmosRl.Utils

open CosmosRl.Data List
open CosmosRl.Dispatcher (PyError)

section Model

variable {Alpha : Type}

def validLength (padTokenId : Nat) (row : List Nat) : Nat :=
  (row.reverse.dropWhile fun token => token == padTokenId).length

def computeValidLengths (inputIds : List (List Nat)) (padTokenId : Nat) : List Nat :=
  inputIds.map (validLength padTokenId)

def spreadPadding (originSeqLen : Nat) : Nat → List Nat → List Nat
  | _, [] => []
  | padNeeded, seqLen :: seqLens =>
    (seqLen + min padNeeded (originSeqLen - seqLen)) ::
      spreadPadding originSeqLen (padNeeded - min padNeeded (originSeqLen - seqLen)) seqLens

/-- `pack_sequences_info_collect` without labels: `valid_input_len`. -/
def packSequencesInfoCollect (inputIds : List (List Nat)) (padTokenId seqLenMultiple : Nat) :
    List Nat :=
  let validInputLen := computeValidLengths inputIds padTokenId
  let totalValidInputLen := validInputLen.sum
  let originSeqLen := (inputIds.headD []).length
  spreadPadding originSeqLen
    ((totalValidInputLen + seqLenMultiple - 1) / seqLenMultiple * seqLenMultiple -
      totalValidInputLen)
    validInputLen

/-- The entries of the rows at the positions of `generate_mask`, in one row. -/
def packSequences (rows : List (List Alpha)) (validInputLen : List Nat) : List Alpha :=
  (List.zipWith (fun row validLen => row.take validLen) rows validInputLen).flatten

/-- The two masks of `pack_sequences_for_masks`. -/
def inputPackingMask (validInputLen : List Nat) : List Bool :=
  validInputLen.flatMap fun validLen => List.replicate (validLen - 1) true ++ [false]

def labelPackingMask (validLabelLen : List Nat) : List Bool :=
  validLabelLen.flatMap fun validLen => false :: List.replicate (validLen - 1) true

def assignMasked : List Bool → List Alpha → List Alpha → List Alpha
  | true :: mask, value :: values, _ :: row => value :: assignMasked mask values row
  | false :: mask, values, entry :: row => entry :: assignMasked mask values row
  | _, _, row => row

def shiftPacked (zero : Alpha) (inputMask labelMask : List Bool) (packed : List Alpha) :
    Except PyError (List Alpha) :=
  if inputMask.length = packed.length ∧ labelMask.length = packed.length then
    .ok (assignMasked inputMask (selectMasked labelMask packed)
      (List.replicate packed.length zero))
  else .error .indexError

end Model

section Lengths

theorem length_spreadPadding (originSeqLen padNeeded : Nat) (seqLens : List Nat) :
    (spreadPadding originSeqLen padNeeded seqLens).length = seqLens.length := by
  induction seqLens generalizing padNeeded with
  | nil => rfl
  | cons seqLen seqLens ih =>
    rw [spreadPadding, length_cons, length_cons, ih]

theorem spreadPadding_le {originSeqLen : Nat} (padNeeded : Nat) {seqLens : List Nat}
    (within : ∀ seqLen ∈ seqLens, seqLen ≤ originSeqLen) :
    ∀ padded ∈ spreadPadding originSeqLen padNeeded seqLens, padded ≤ originSeqLen := by
  induction seqLens generalizing padNeeded with
  | nil => simp [spreadPadding]
  | cons seqLen seqLens ih =>
    have headWithin := within seqLen mem_cons_self
    intro padded member
    rw [spreadPadding, mem_cons] at member
    rcases member with rfl | later
    · omega
    · exact ih _
        (fun other otherMember => within other (mem_cons_of_mem _ otherMember))
        padded later

theorem getElem?_spreadPadding (originSeqLen padNeeded : Nat) (seqLens : List Nat) (index : Nat) :
    (spreadPadding originSeqLen padNeeded seqLens)[index]? =
      seqLens[index]?.map fun seqLen =>
        seqLen + min (padNeeded - ((seqLens.take index).map fun other =>
          originSeqLen - other).sum) (originSeqLen - seqLen) := by
  induction seqLens generalizing padNeeded index with
  | nil => rfl
  | cons seqLen seqLens ih =>
    rw [spreadPadding]
    cases index with
    | zero => simp
    | succ index =>
      rw [getElem?_cons_succ, getElem?_cons_succ, ih]
      congr 1
      funext later
      rw [take_succ_cons, map_cons, sum_cons]
      omega

theorem validLength_le (padTokenId : Nat) (row : List Nat) :
    validLength padTokenId row ≤ row.length := by
  have bound : (row.reverse.dropWhile fun token => token == padTokenId).length ≤
      row.reverse.length := (dropWhile_suffix _).length_le
  rwa [length_reverse] at bound

theorem length_packSequencesInfoCollect (inputIds : List (List Nat))
    (padTokenId seqLenMultiple : Nat) :
    (packSequencesInfoCollect inputIds padTokenId seqLenMultiple).length =
      inputIds.length := by
  rw [packSequencesInfoCollect, length_spreadPadding, computeValidLengths, length_map]

theorem packSequencesInfoCollect_le {inputIds : List (List Nat)} {width : Nat}
    (rectangular : ∀ row ∈ inputIds, row.length = width) (padTokenId seqLenMultiple : Nat) :
    ∀ validLen ∈ packSequencesInfoCollect inputIds padTokenId seqLenMultiple,
      validLen ≤ width := by
  cases inputIds with
  | nil => simp [packSequencesInfoCollect, computeValidLengths, spreadPadding]
  | cons first inputIds =>
    have origin : ((first :: inputIds).headD []).length = width :=
      rectangular first mem_cons_self
    rw [packSequencesInfoCollect, origin]
    apply spreadPadding_le
    intro seqLen member
    obtain ⟨row, rowMember, rfl⟩ := mem_map.mp member
    rw [← rectangular row rowMember]
    exact validLength_le padTokenId row

end Lengths

section Rows

variable {Row Alpha : Type}

theorem packSequences_map (rows : List Row) (entries : Row → List Alpha) (validLen : Row → Nat) :
    packSequences (rows.map entries) (rows.map validLen) =
      rows.flatMap fun row => (entries row).take (validLen row) := by
  rw [packSequences, zipWith_map, zipWith_self, flatMap_def]

variable {row : List Alpha} {mask : List Bool}

theorem selectMasked_append
    (sameLength : mask.length = row.length) (otherMask : List Bool) (otherRow : List Alpha) :
    selectMasked (mask ++ otherMask) (row ++ otherRow) =
      selectMasked mask row ++ selectMasked otherMask otherRow := by
  rw [selectMasked, zip_append sameLength, filter_append, map_append]
  rfl

theorem selectMasked_flatMap (rows : List Row) (mask : Row → List Bool) (entries : Row → List Alpha)
    (sameLength : ∀ row ∈ rows, (mask row).length = (entries row).length) :
    selectMasked (rows.flatMap mask) (rows.flatMap entries) =
      rows.flatMap fun row => selectMasked (mask row) (entries row) := by
  induction rows with
  | nil => rfl
  | cons row rows ih =>
    rw [flatMap_cons, flatMap_cons, flatMap_cons,
      selectMasked_append (sameLength row mem_cons_self),
      ih fun other member => sameLength other (mem_cons_of_mem _ member)]

theorem zipWith_flatMap {Beta Gamma : Type} (combine : Alpha → Beta → Gamma) (rows : List Row)
    (entries : Row → List Alpha) (others : Row → List Beta)
    (sameLength : ∀ row ∈ rows, (entries row).length = (others row).length) :
    List.zipWith combine (rows.flatMap entries) (rows.flatMap others) =
      rows.flatMap fun row => List.zipWith combine (entries row) (others row) := by
  induction rows with
  | nil => rfl
  | cons row rows ih =>
    rw [flatMap_cons, flatMap_cons, flatMap_cons,
      zipWith_append (sameLength row mem_cons_self),
      ih fun other member => sameLength other (mem_cons_of_mem _ member)]

theorem selectMasked_replicate_true {count : Nat} (sameLength : row.length = count) :
    selectMasked (List.replicate count true) row = row := by
  subst sameLength
  induction row with
  | nil => rfl
  | cons entry row ih =>
    rw [length_cons, replicate_succ, selectMasked_true, ih]

theorem selectMasked_replicate_false (count : Nat) (row : List Alpha) :
    selectMasked (List.replicate count false) row = [] := by
  induction row generalizing count with
  | nil => simp [selectMasked]
  | cons entry row ih =>
    cases count with
    | zero => simp [selectMasked]
    | succ count => rw [replicate_succ, selectMasked_false, ih]

theorem selectMasked_prefix {count rest : Nat} (inside : count + rest = row.length) :
    selectMasked (List.replicate count true ++ List.replicate rest false) row =
      row.take count := by
  have firstLength : (row.take count).length = count := by
    rw [length_take]
    omega
  rw [← take_append_drop count row, selectMasked_append (by simp [firstLength]),
    selectMasked_replicate_true firstLength, selectMasked_replicate_false, append_nil,
    take_append_drop]

theorem assignMasked_append {values : List Alpha}
    (sameLength : mask.length = row.length) (enough : values.length = mask.count true)
    (otherMask : List Bool) (otherValues otherRow : List Alpha) :
    assignMasked (mask ++ otherMask) (values ++ otherValues) (row ++ otherRow) =
      assignMasked mask values row ++ assignMasked otherMask otherValues otherRow := by
  induction mask generalizing values row with
  | nil =>
    rw [eq_nil_of_length_eq_zero sameLength.symm, eq_nil_of_length_eq_zero enough]
    rfl
  | cons marked mask ih =>
    cases row with
    | nil => simp at sameLength
    | cons entry row =>
      have restLength := Nat.succ.inj sameLength
      cases marked with
      | false =>
        have restEnough : values.length = mask.count true := by simpa using enough
        have rest := ih restLength restEnough
        simp only [cons_append, assignMasked, rest]
      | true =>
        cases values with
        | nil => simp at enough
        | cons value values =>
          have restEnough : values.length = mask.count true := by simpa using enough
          have rest := ih restLength restEnough
          simp only [cons_append, assignMasked, rest]

theorem assignMasked_replicate (zero : Alpha) (values : List Alpha) :
    assignMasked (List.replicate values.length true ++ [false]) values
        (List.replicate (values.length + 1) zero) = values ++ [zero] := by
  induction values with
  | nil => rfl
  | cons value values ih =>
    rw [length_cons, replicate_succ, cons_append, replicate_succ,
      assignMasked, ih, cons_append]

theorem assignMasked_flatMap (zero : Alpha) (rows : List Row) (entries : Row → List Alpha)
    (nonempty : ∀ row ∈ rows, entries row ≠ []) :
    assignMasked (inputPackingMask (rows.map fun row => (entries row).length))
        (selectMasked (labelPackingMask (rows.map fun row => (entries row).length))
          (rows.flatMap entries))
        (List.replicate (rows.flatMap entries).length zero) =
      rows.flatMap fun row => shiftInputIds zero (entries row) := by
  induction rows with
  | nil => rfl
  | cons row rows ih =>
    have restNonempty := fun other member =>
      nonempty other (mem_cons_of_mem row member)
    cases first : entries row with
    | nil => exact False.elim (nonempty row mem_cons_self first)
    | cons entry others =>
      have labels : selectMasked (false :: List.replicate others.length true)
          (entry :: others) = others := by
        rw [selectMasked_false, selectMasked_replicate_true rfl]
      rw [map_cons, flatMap_cons, flatMap_cons, first, length_cons,
        inputPackingMask, labelPackingMask, flatMap_cons, flatMap_cons,
        Nat.add_sub_cancel, selectMasked_append (by simp), labels, length_append,
        length_cons, ← replicate_append_replicate,
        assignMasked_append (by simp) (by simp), assignMasked_replicate, shiftInputIds]
      exact congrArg _ (ih restNonempty)

theorem length_inputPackingMask (validInputLen : List Nat) :
    (inputPackingMask validInputLen).length =
      (validInputLen.map fun validLen => validLen - 1 + 1).sum := by
  rw [inputPackingMask, length_flatMap]
  simp

theorem length_labelPackingMask (validLabelLen : List Nat) :
    (labelPackingMask validLabelLen).length =
      (validLabelLen.map fun validLen => validLen - 1 + 1).sum := by
  rw [labelPackingMask, length_flatMap]
  simp

theorem sum_pred_succ_eq_iff (lengths : List Nat) :
    (lengths.map fun length => length - 1 + 1).sum = lengths.sum ↔ 0 ∉ lengths := by
  have atLeast : ∀ lengths : List Nat,
      lengths.sum ≤ (lengths.map fun length => length - 1 + 1).sum := by
    intro lengths
    induction lengths with
    | nil => exact Nat.le_refl 0
    | cons length lengths ih =>
      rw [map_cons, sum_cons, sum_cons]
      omega
  induction lengths with
  | nil => simp
  | cons length lengths ih =>
    have restAtLeast := atLeast lengths
    rw [map_cons, sum_cons, sum_cons, mem_cons, not_or]
    constructor
    · intro same
      exact ⟨by omega, ih.mp (by omega)⟩
    · rintro ⟨positive, restPositive⟩
      have rest := ih.mpr restPositive
      omega

theorem shiftPacked_eq_ok_iff (zero : Alpha) (rows : List Row) (entries : Row → List Alpha)
    (shifted : List Alpha) :
    shiftPacked zero (inputPackingMask (rows.map fun row => (entries row).length))
        (labelPackingMask (rows.map fun row => (entries row).length))
        (rows.flatMap entries) = .ok shifted ↔
      (∀ row ∈ rows, entries row ≠ []) ∧
        (rows.flatMap fun row => shiftInputIds zero (entries row)) = shifted := by
  have total : (rows.flatMap entries).length =
      (rows.map fun row => (entries row).length).sum := length_flatMap
  have noneEmpty : 0 ∉ (rows.map fun row => (entries row).length) ↔
      ∀ row ∈ rows, entries row ≠ [] := by
    simp
  have fits : (inputPackingMask (rows.map fun row => (entries row).length)).length =
        (rows.flatMap entries).length ∧
      (labelPackingMask (rows.map fun row => (entries row).length)).length =
        (rows.flatMap entries).length ↔ ∀ row ∈ rows, entries row ≠ [] := by
    rw [length_inputPackingMask, length_labelPackingMask, total, and_self_iff,
      sum_pred_succ_eq_iff, noneEmpty]
  rw [shiftPacked]
  by_cases nonempty : ∀ row ∈ rows, entries row ≠ []
  · rw [if_pos (fits.mpr nonempty), assignMasked_flatMap zero rows entries nonempty,
      Except.ok.injEq, and_iff_right nonempty]
  · rw [if_neg fun fitting => nonempty (fits.mp fitting)]
    exact iff_of_false (fun impossible => nomatch impossible) fun shifts => nonempty shifts.1

theorem shiftPacked_of_empty (zero : Alpha) (entries : Row → List Alpha) {rows : List Row}
    {row : Row} (member : row ∈ rows) (empty : entries row = []) :
    shiftPacked zero (inputPackingMask (rows.map fun row => (entries row).length))
        (labelPackingMask (rows.map fun row => (entries row).length))
        (rows.flatMap entries) = .error .indexError := by
  have notShifted := fun shifted => mt (shiftPacked_eq_ok_iff zero rows entries shifted).mp
    fun shifts => shifts.1 row member empty
  rw [shiftPacked] at notShifted ⊢
  split
  next fitting =>
    rw [if_pos fitting] at notShifted
    exact absurd rfl (notShifted _)
  next => rfl

end Rows

end CosmosRl.Utils
