import CosmosRl.Foundation.TrailingFiller
import CosmosRl.Policy.KeptPositions

/-!
The targets that `compute_logprobs` selects from a packed and from a padded batch.

The valid length of a row is inferred from its last token that is not padding.  Where
completions end with a token that is also the padding token, the last tokens of a row are
taken for padding.
-/

namespace CosmosRl.Policy

open CosmosRl.Data CosmosRl.Foundation CosmosRl.Utils List
open CosmosRl.Dispatcher (PyError)

/-- A batch of token rows: they fit into the padded length, and every marked position has a
token behind it, which is its target. -/
structure TokenBatch where
  samples : List RLPolicyInput
  maxLen : Nat
  seqLenMultiple : Nat
  fits : ∀ sample ∈ samples, sample.inputIds.length ≤ maxLen
  marksBeforeLast : ∀ sample ∈ samples, ∀ position ∈ trainedPositions sample,
    position + 1 < sample.inputIds.length
  multiplePositive : 0 < seqLenMultiple

abbrev SelectedTarget : Type := (Nat × Nat) × Nat

namespace TokenBatch

variable (batch : TokenBatch) (padTokenId : Nat)

def inputIds : List (List Nat) :=
  batch.samples.map fun sample => collateRow padTokenId batch.maxLen sample.inputIds

def logprobMasks : List (List Bool) :=
  batch.samples.map fun sample => collateRow false batch.maxLen sample.logprobMasks

def positions : List (List (Nat × Nat)) :=
  (List.range batch.samples.length).map fun row => (List.range batch.maxLen).map (row, ·)

/-- `valid_input_len`. -/
def validInputLen : List Nat :=
  packSequencesInfoCollect (batch.inputIds padTokenId) padTokenId batch.seqLenMultiple

/-- What `compute_logprobs` selects in a layout: every position is its own logit. -/
def targetsIn (validInputLen : Option (List Nat)) : Except PyError (List SelectedTarget) :=
  (computeLogprobs Prod.mk validInputLen (layOut validInputLen (batch.inputIds padTokenId))
    (layOut validInputLen batch.logprobMasks)
    (layOut validInputLen batch.positions)).map Prod.fst

def paddedTargets : Except PyError (List SelectedTarget) := batch.targetsIn padTokenId none

def packedTargets : Except PyError (List SelectedTarget) :=
  batch.targetsIn padTokenId (some (batch.validInputLen padTokenId))

def tokensBeforePadding : List Nat :=
  batch.samples.map fun sample => trimmedLength padTokenId sample.inputIds

def alignmentPadding : Nat :=
  let total := (batch.tokensBeforePadding padTokenId).sum
  (total + batch.seqLenMultiple - 1) / batch.seqLenMultiple * batch.seqLenMultiple - total

def keptLength (index tokens : Nat) : Nat :=
  tokens + min
    (batch.alignmentPadding padTokenId -
      (((batch.tokensBeforePadding padTokenId).take index).map fun other =>
        batch.maxLen - other).sum)
    (batch.maxLen - tokens)

/-- No row is empty, and every target lies within the kept length of its row, or directly
behind it and is the token 0. -/
def KeepsTargets : Prop :=
  ∀ (index : Nat) (sample : RLPolicyInput), batch.samples[index]? = some sample →
    0 < batch.keptLength padTokenId index (trimmedLength padTokenId sample.inputIds) ∧
      ∀ position ∈ trainedPositions sample,
        position + 1 <
            batch.keptLength padTokenId index (trimmedLength padTokenId sample.inputIds) ∨
          (position + 1 =
              batch.keptLength padTokenId index (trimmedLength padTokenId sample.inputIds) ∧
            sample.inputIds[position + 1]? = some 0)

end TokenBatch

section Widths

variable {batch : TokenBatch} {padTokenId : Nat}

theorem TokenBatch.computeValidLengths_eq :
    computeValidLengths (batch.inputIds padTokenId) padTokenId =
      batch.tokensBeforePadding padTokenId := by
  rw [computeValidLengths, TokenBatch.inputIds, TokenBatch.tokensBeforePadding, map_map]
  apply map_congr_left
  intro sample member
  rw [Function.comp_apply, validLength, length_dropWhile_reverse, collateRow,
    take_of_length_le (batch.fits sample member), trimmedLength_append_replicate]

theorem TokenBatch.getElem?_validInputLen (index : Nat) :
    (batch.validInputLen padTokenId)[index]? = (batch.samples[index]?).map fun sample =>
      batch.keptLength padTokenId index (trimmedLength padTokenId sample.inputIds) := by
  rw [TokenBatch.validInputLen, packSequencesInfoCollect, TokenBatch.computeValidLengths_eq,
    getElem?_spreadPadding]
  rcases Nat.eq_zero_or_pos batch.samples.length with empty | nonempty
  · have noSamples := eq_nil_of_length_eq_zero empty
    simp [TokenBatch.tokensBeforePadding, noSamples]
  · obtain ⟨first, others, isSamples⟩ := exists_cons_of_length_pos nonempty
    have origin : ((batch.inputIds padTokenId).headD []).length = batch.maxLen := by
      rw [TokenBatch.inputIds, isSamples, map_cons, headD_cons, length_collateRow]
    rw [origin]
    have tokens : (batch.tokensBeforePadding padTokenId)[index]? =
        (batch.samples[index]?).map fun sample =>
          trimmedLength padTokenId sample.inputIds := getElem?_map
    rw [tokens, Option.map_map]
    rfl

end Widths

section Targets

namespace TokenBatch

variable (batch : TokenBatch) (padTokenId : Nat)

def rows (width : Nat → RLPolicyInput → Nat) : List LossRow :=
  batch.samples.zipIdx.map fun entry => ⟨entry.1, entry.2, width entry.2 entry.1⟩

variable {batch} {padTokenId} {width : Nat → RLPolicyInput → Nat}

theorem mem_rows {row : LossRow} :
    row ∈ batch.rows width ↔
      batch.samples[row.index]? = some row.sample ∧ row.width = width row.index row.sample := by
  rw [rows, mem_map]
  constructor
  · rintro ⟨⟨sample, index⟩, member, rfl⟩
    exact ⟨mem_zipIdx_iff_getElem?.mp member, rfl⟩
  · rintro ⟨found, isWidth⟩
    obtain ⟨sample, index, rowWidth⟩ := row
    exact ⟨(sample, index), mem_zipIdx_iff_getElem?.mpr found,
      congrArg (LossRow.mk sample index) isWidth.symm⟩

theorem map_sample_rows {Entry : Type} (entries : RLPolicyInput → Entry) :
    ((batch.rows width).map fun row => entries row.sample) = batch.samples.map entries := by
  rw [rows, map_map]
  conv_rhs => rw [← zipIdx_map_fst 0 batch.samples, map_map]
  rfl

theorem map_index_rows {Entry : Type} (entries : Nat → Entry) :
    ((batch.rows width).map fun row => entries row.index) =
      (List.range batch.samples.length).map entries := by
  rw [rows, map_map, range_eq_range', ← zipIdx_map_snd 0 batch.samples, map_map]
  rfl

theorem mem_keptLogprobs {row position label : Nat} :
    ((row, position), label) ∈
        keptLogprobs Prod.mk padTokenId Prod.mk (batch.rows width) ↔
      ∃ sample, batch.samples[row]? = some sample ∧ position ∈ trainedPositions sample ∧
        position < width row sample ∧
        label = tokenLabel padTokenId (width row sample) sample position := by
  rw [keptLogprobs, mem_flatMap]
  constructor
  · rintro ⟨⟨sample, index, rowWidth⟩, member, kept⟩
    obtain ⟨found, isWidth⟩ := mem_rows.mp member
    obtain ⟨marked, isKept, isTarget⟩ := mem_map.mp kept
    cases isTarget
    simp only at found isWidth isKept
    subst isWidth
    obtain ⟨isMarked, within⟩ := mem_filter.mp isKept
    exact ⟨sample, found, isMarked, of_decide_eq_true within, rfl⟩
  · rintro ⟨sample, found, marked, within, rfl⟩
    refine ⟨⟨sample, row, width row sample⟩, mem_rows.mpr ⟨found, rfl⟩, ?_⟩
    exact mem_map.mpr ⟨position, mem_filter.mpr ⟨marked, decide_eq_true within⟩, rfl⟩

theorem paddedTargets_eq :
    batch.paddedTargets padTokenId = .ok (keptLogprobs Prod.mk padTokenId Prod.mk
      (batch.rows fun _ _ => batch.maxLen)) := by
  have padded := @computeLogprobs_padded (Nat × Nat) SelectedTarget Prod.mk padTokenId Prod.mk
    (batch.rows fun _ _ => batch.maxLen) batch.maxLen fun row member => (mem_rows.mp member).2
  rw [map_sample_rows fun sample => collateRow padTokenId batch.maxLen sample.inputIds,
    map_sample_rows fun sample => collateRow false batch.maxLen sample.logprobMasks,
    map_index_rows fun row => (List.range batch.maxLen).map (Prod.mk row)] at padded
  exact padded

variable (batch padTokenId) in
def keptWidth (index : Nat) (sample : RLPolicyInput) : Nat :=
  batch.keptLength padTokenId index (trimmedLength padTokenId sample.inputIds)

theorem keptWidth_le {index : Nat} {sample : RLPolicyInput} (member : sample ∈ batch.samples) :
    batch.keptWidth padTokenId index sample ≤ batch.maxLen := by
  have trimmed := trimmedLength_le padTokenId sample.inputIds
  have fits := batch.fits sample member
  rw [keptWidth, keptLength]
  omega

theorem map_width_rows :
    (batch.rows (batch.keptWidth padTokenId)).map LossRow.width =
      batch.validInputLen padTokenId := by
  apply ext_getElem?
  intro index
  rw [getElem?_validInputLen, rows, map_map, getElem?_map, getElem?_zipIdx,
    Option.map_map, Nat.zero_add]
  rfl

theorem packedTargets_eq :
    batch.packedTargets padTokenId =
      if ∀ row ∈ batch.rows (batch.keptWidth padTokenId), 0 < row.width then
        .ok (keptLogprobs Prod.mk padTokenId Prod.mk
          (batch.rows (batch.keptWidth padTokenId)))
      else .error .indexError := by
  have within : ∀ row ∈ batch.rows (batch.keptWidth padTokenId), row.width ≤ batch.maxLen := by
    intro row member
    obtain ⟨found, isWidth⟩ := mem_rows.mp member
    rw [isWidth]
    exact keptWidth_le (mem_of_getElem? found)
  have packed := @computeLogprobs_packed (Nat × Nat) SelectedTarget Prod.mk padTokenId Prod.mk
    (batch.rows (batch.keptWidth padTokenId)) batch.maxLen within
  rw [map_sample_rows fun sample => collateRow padTokenId batch.maxLen sample.inputIds,
    map_sample_rows fun sample => collateRow false batch.maxLen sample.logprobMasks,
    map_index_rows fun row => (List.range batch.maxLen).map (Prod.mk row),
    map_width_rows] at packed
  exact packed

theorem tokenLabel_maxLen {sample : RLPolicyInput} (member : sample ∈ batch.samples)
    {position : Nat} (marked : position ∈ trainedPositions sample) :
    sample.inputIds[position + 1]? =
      some (tokenLabel padTokenId batch.maxLen sample position) := by
  have inside := batch.marksBeforeLast sample member position marked
  have fits := batch.fits sample member
  rw [tokenLabel, if_pos (by omega), getD_eq_getElem?_getD,
    getElem?_eq_getElem inside, Option.getD_some]

/-- A row cut to a width keeps a target exactly if the target lies within the width, or is
the token 0 directly behind. -/
theorem keeps_iff {sample : RLPolicyInput} (member : sample ∈ batch.samples)
    {position : Nat} (marked : position ∈ trainedPositions sample) (cut : Nat) :
    (position < cut ∧ tokenLabel padTokenId batch.maxLen sample position =
        tokenLabel padTokenId cut sample position) ↔
      position + 1 < cut ∨
        (position + 1 = cut ∧ sample.inputIds[position + 1]? = some 0) := by
  have isLabel := @tokenLabel_maxLen batch padTokenId sample member position marked
  have inside := batch.marksBeforeLast sample member position marked
  have fits := batch.fits sample member
  rcases Nat.lt_trichotomy (position + 1) cut with within | atEnd | beyond
  · refine iff_of_true ⟨by omega, ?_⟩ (.inl within)
    rw [tokenLabel, tokenLabel, if_pos within, if_pos (by omega)]
  · have atZero : tokenLabel padTokenId cut sample position = 0 := by
      rw [tokenLabel, if_neg (by omega)]
    rw [atZero, isLabel, Option.some_inj]
    constructor
    · rintro ⟨-, isZero⟩
      exact .inr ⟨atEnd, isZero⟩
    · rintro (within | ⟨-, isZero⟩)
      · omega
      · exact ⟨by omega, isZero⟩
  · exact iff_of_false (by omega) (by omega)

theorem keptLogprobs_eq_iff :
    keptLogprobs Prod.mk padTokenId Prod.mk (batch.rows (batch.keptWidth padTokenId)) =
        keptLogprobs Prod.mk padTokenId Prod.mk (batch.rows fun _ _ => batch.maxLen) ↔
      ∀ (index : Nat) (sample : RLPolicyInput), batch.samples[index]? = some sample →
        ∀ position ∈ trainedPositions sample,
          position < batch.keptWidth padTokenId index sample ∧
            tokenLabel padTokenId batch.maxLen sample position =
              tokenLabel padTokenId (batch.keptWidth padTokenId index sample) sample
                position := by
  constructor
  · intro same index sample found position marked
    have member := mem_of_getElem? found
    have inside := batch.marksBeforeLast sample member position marked
    have fits := batch.fits sample member
    have selected : ((index, position), tokenLabel padTokenId batch.maxLen sample position) ∈
        keptLogprobs Prod.mk padTokenId Prod.mk (batch.rows fun _ _ => batch.maxLen) :=
      mem_keptLogprobs.mpr ⟨sample, found, marked, by omega, rfl⟩
    rw [← same] at selected
    obtain ⟨other, otherFound, -, within, isLabel⟩ := mem_keptLogprobs.mp selected
    cases found.symm.trans otherFound
    exact ⟨within, isLabel⟩
  · intro keeps
    rw [keptLogprobs, keptLogprobs, rows, rows, flatMap_map, flatMap_map]
    apply flatMap_congr
    rintro ⟨sample, index⟩ entry
    have found := mem_zipIdx_iff_getElem?.mp entry
    have member := mem_of_getElem? found
    have all : ∀ cut, (∀ position ∈ trainedPositions sample, position < cut) →
        keptPositions sample.logprobMasks cut = trainedPositions sample := by
      intro cut within
      exact filter_eq_self.mpr fun position marked =>
        decide_eq_true (within position marked)
    have keptAll := all (batch.keptWidth padTokenId index sample) fun position marked =>
      (keeps index sample found position marked).1
    have paddedAll := all batch.maxLen fun position marked => by
      have inside := batch.marksBeforeLast sample member position marked
      have fits := batch.fits sample member
      omega
    simp only [keptAll, paddedAll]
    apply map_congr_left
    intro position marked
    rw [(keeps index sample found position marked).2]

end TokenBatch

/-- Packing keeps the selected targets of a batch exactly if no row is empty and no target
lies in the padding behind its row. -/
theorem packedTargets_eq_padded_iff (batch : TokenBatch) (padTokenId : Nat) :
    batch.packedTargets padTokenId = batch.paddedTargets padTokenId ↔
      batch.KeepsTargets padTokenId := by
  have filled : (∀ row ∈ batch.rows (batch.keptWidth padTokenId), 0 < row.width) ↔
      ∀ (index : Nat) (sample : RLPolicyInput), batch.samples[index]? = some sample →
        0 < batch.keptWidth padTokenId index sample := by
    constructor
    · intro positive index sample found
      exact positive ⟨sample, index, _⟩ (TokenBatch.mem_rows.mpr ⟨found, rfl⟩)
    · intro positive row member
      obtain ⟨found, isWidth⟩ := TokenBatch.mem_rows.mp member
      rw [isWidth]
      exact positive row.index row.sample found
  rw [TokenBatch.packedTargets_eq, TokenBatch.paddedTargets_eq]
  split
  case isTrue positive =>
    rw [Except.ok.injEq, TokenBatch.keptLogprobs_eq_iff]
    refine forall_congr' fun index => forall_congr' fun sample => forall_congr' fun found => ?_
    have member := mem_of_getElem? found
    have width := filled.mp positive index sample found
    refine Iff.trans ?_ (and_iff_right width).symm
    exact forall_congr' fun position => forall_congr' fun marked =>
      TokenBatch.keeps_iff member marked _
  case isFalse empty =>
    refine iff_of_false (by simp) fun keeps => empty (filled.mpr fun index sample found => ?_)
    exact (keeps index sample found).1

theorem TokenBatch.keepsTargets_of_unpadded {batch : TokenBatch} {padTokenId : Nat}
    (unpadded : ∀ sample ∈ batch.samples, ∃ last,
      sample.inputIds.getLast? = some last ∧ last ≠ padTokenId) :
    batch.KeepsTargets padTokenId := by
  intro index sample found
  have member := mem_of_getElem? found
  obtain ⟨last, isLast, real⟩ := unpadded sample member
  have whole : trimmedLength padTokenId sample.inputIds = sample.inputIds.length := by
    apply trimmedLength_eq_length
    intro token isToken
    cases isLast.symm.trans isToken
    exact real
  have nonempty : 0 < sample.inputIds.length := by
    rw [length_pos_iff]
    intro empty
    rw [empty] at isLast
    cases isLast
  rw [whole, TokenBatch.keptLength]
  refine ⟨by omega, fun position marked => .inl ?_⟩
  have inside := batch.marksBeforeLast sample member position marked
  omega

def endedSample : RLPolicyInput := ⟨[5, 7, 2], [true, true, false]⟩

theorem endedSample_fits : ∀ sample ∈ [endedSample], sample.inputIds.length ≤ 3 := by decide

theorem endedSample_marksBeforeLast :
    ∀ sample ∈ [endedSample], ∀ position ∈ trainedPositions sample,
      position + 1 < sample.inputIds.length := by decide

def endedByPadding : TokenBatch where
  samples := [endedSample]
  maxLen := 3
  seqLenMultiple := 1
  fits := endedSample_fits
  marksBeforeLast := endedSample_marksBeforeLast
  multiplePositive := Nat.one_pos

/-- The packed batch scores the filler instead of the token that ends the completion. -/
theorem not_packedTargets_eq_padded :
    endedByPadding.packedTargets 2 = .ok [((0, 0), 7), ((0, 1), 0)] ∧
      endedByPadding.paddedTargets 2 = .ok [((0, 0), 7), ((0, 1), 2)] ∧
      ¬ ∀ (batch : TokenBatch) (padTokenId : Nat),
        batch.packedTargets padTokenId = batch.paddedTargets padTokenId := by
  have packed : endedByPadding.packedTargets 2 = .ok [((0, 0), 7), ((0, 1), 0)] := by rfl
  have padded : endedByPadding.paddedTargets 2 = .ok [((0, 0), 7), ((0, 1), 2)] := by rfl
  refine ⟨packed, padded, fun claim => ?_⟩
  have same := claim endedByPadding 2
  rw [packed, padded] at same
  cases same

end Targets

end CosmosRl.Policy
