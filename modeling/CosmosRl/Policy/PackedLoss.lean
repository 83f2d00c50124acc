import CosmosRl.Policy.LossRows
import CosmosRl.Policy.LossSeparation

/-!
When sequence packing preserves the loss of a mini-batch.

The rows of both layouts have the same samples and indices.  They differ in the labels of
last tokens and in the grouping, and a packed row must keep a position.
-/

namespace CosmosRl.Policy

open CosmosRl.Data CosmosRl.Foundation List
open CosmosRl.Dispatcher (PyError)

def trainedCounts (miniBatch : List RLPolicyInput) : List Nat :=
  miniBatch.map fun sample => (trainedPositions sample).length

/-- The options and mini-batches for which packing does not change the loss: every packed
row keeps a position, the last token of a row has the same label in both layouts if it is
trained, and one row gives the loss of all rows. -/
structure LossKept (options : LossOptions ℝ) (padTokenId seqLenMultiple : Nat)
    (miniBatch : List RLPolicyInput) : Prop where
  filled : ∀ index sample, miniBatch[index]? = some sample → sample.inputIds = [] →
    ReceivesPadding seqLenMultiple miniBatch index sample
  labels : ∀ index sample, miniBatch[index]? = some sample →
    sample.inputIds.length - 1 ∈ trainedPositions sample →
      padTokenId = 0 ∨ sample.inputIds.length = paddedLen seqLenMultiple miniBatch ∨
        ReceivesPadding seqLenMultiple miniBatch index sample
  grouping : GroupingKept options (trainedCounts miniBatch)

def PreservesLoss (options : LossOptions ℝ) (padTokenId seqLenMultiple : Nat)
    (miniBatch : List RLPolicyInput) : Prop :=
  ∀ (Logit : Type) (logProb : Logit → Nat → ℝ) (entropy : Logit → ℝ) (tuning : LossTuning ℝ)
    (workers : DpWorkers) (lossScalingFactor : ℝ) (values : MiniBatchValues Logit ℝ),
    miniBatchLoss Real.exp options tuning padTokenId seqLenMultiple logProb entropy true workers
        lossScalingFactor miniBatch values =
      miniBatchLoss Real.exp options tuning padTokenId seqLenMultiple logProb entropy false
        workers lossScalingFactor miniBatch values

section Layouts

variable {padTokenId seqLenMultiple : Nat} (packingSeq : Bool) {miniBatch : List RLPolicyInput}

theorem map_pair_lossRows :
    (lossRows padTokenId seqLenMultiple packingSeq miniBatch).map
        (fun row => (row.sample, row.index)) = miniBatch.zipIdx := by
  have samples := map_sample_lossRows padTokenId seqLenMultiple packingSeq miniBatch
  have indices := map_index_lossRows padTokenId seqLenMultiple packingSeq miniBatch
  have zipped : ((lossRows padTokenId seqLenMultiple packingSeq miniBatch).map
        LossRow.sample).zip
      ((lossRows padTokenId seqLenMultiple packingSeq miniBatch).map LossRow.index) =
      (lossRows padTokenId seqLenMultiple packingSeq miniBatch).map fun row =>
        (row.sample, row.index) := zip_map'
  rw [samples, indices] at zipped
  rw [zipIdx_eq_zip_range', ← range_eq_range', zipped]

theorem flatMap_lossRows {Alpha : Type} (entries : RLPolicyInput → Nat → List Alpha) :
    ((lossRows padTokenId seqLenMultiple packingSeq miniBatch).flatMap fun row =>
        entries row.sample row.index) =
      miniBatch.zipIdx.flatMap fun entry => entries entry.1 entry.2 := by
  rw [← map_pair_lossRows packingSeq, flatMap_map]

theorem layoutSeqlens_packed :
    layoutSeqlens (validLengths padTokenId seqLenMultiple true miniBatch)
        (lossRows padTokenId seqLenMultiple true miniBatch) =
      [(trainedCounts miniBatch).sum] := by
  have counts := map_samples padTokenId seqLenMultiple true miniBatch fun sample =>
    (trainedPositions sample).length
  rw [trainedCounts, ← counts]
  rfl

theorem layoutSeqlens_padded :
    layoutSeqlens (validLengths padTokenId seqLenMultiple false miniBatch)
        (lossRows padTokenId seqLenMultiple false miniBatch) = trainedCounts miniBatch := by
  have counts := map_samples padTokenId seqLenMultiple false miniBatch fun sample =>
    (trainedPositions sample).length
  rw [trainedCounts, ← counts]
  rfl

theorem rowSignals_eq {Logit : Type} {logProb : Logit → Nat → ℝ}
    (logps : ∀ logit, rowLogps padTokenId logProb
        (lossRows padTokenId seqLenMultiple true miniBatch) logit =
      rowLogps padTokenId logProb (lossRows padTokenId seqLenMultiple false miniBatch) logit)
    (entropy : Logit → ℝ) (values : MiniBatchValues Logit ℝ) :
    rowSignals padTokenId logProb entropy (lossRows padTokenId seqLenMultiple true miniBatch)
        values =
      rowSignals padTokenId logProb entropy
        (lossRows padTokenId seqLenMultiple false miniBatch) values := by
  have entries (entry : Nat → Nat → ℝ) :
      ((lossRows padTokenId seqLenMultiple true miniBatch).flatMap fun row =>
        (trainedPositions row.sample).map (entry row.index)) =
      (lossRows padTokenId seqLenMultiple false miniBatch).flatMap fun row =>
        (trainedPositions row.sample).map (entry row.index) :=
    (flatMap_lossRows true fun sample index => (trainedPositions sample).map (entry index)).trans
      (flatMap_lossRows false fun sample index =>
        (trainedPositions sample).map (entry index)).symm
  have advantages := entries fun index _ => values.advantage index
  have teachers := entries fun index position =>
    (values.teacherLogprobs index ++ [0]).getD position 0
  have entropies := entries fun index position => entropy (values.logit index position)
  rw [rowSignals, rowSignals, advantages, teachers, entropies, funext logps]

theorem length_rowLogps {Logit : Type} (logProb : Logit → Nat → ℝ) (logit : Nat → Nat → Logit) :
    (rowLogps padTokenId logProb (lossRows padTokenId seqLenMultiple packingSeq miniBatch)
      logit).length = (trainedCounts miniBatch).sum := by
  have counts := map_samples padTokenId seqLenMultiple packingSeq miniBatch fun sample =>
    (trainedPositions sample).length
  rw [rowLogps, length_flatMap, trainedCounts, ← counts]
  simp only [length_map]

end Layouts

section Labels

variable {padTokenId seqLenMultiple : Nat} {miniBatch : List RLPolicyInput}

theorem tokenLabel_eq {width maxLen : Nat} {sample : RLPolicyInput} {position : Nat}
    (keepsTokens : sample.inputIds.length ≤ width) (within : width ≤ maxLen)
    (inside : position < sample.inputIds.length)
    (last : position = sample.inputIds.length - 1 → padTokenId = 0 ∨
      sample.inputIds.length = maxLen ∨ sample.inputIds.length < width) :
    tokenLabel padTokenId width sample position =
      tokenLabel padTokenId maxLen sample position := by
  rw [tokenLabel, tokenLabel]
  by_cases inner : position + 1 < sample.inputIds.length
  · rw [if_pos (by omega), if_pos (by omega)]
  · have beyond : sample.inputIds[position + 1]? = none := getElem?_eq_none_iff.mpr (by omega)
    rw [getD_eq_getElem?_getD, beyond, Option.getD_none]
    rcases last (by omega) with rfl | full | padded
    · rw [ite_self, ite_self]
    · rw [if_neg (by omega), if_neg (by omega)]
    · rw [if_pos (by omega), if_pos (by omega)]

variable (positive : 0 < seqLenMultiple)
  (packable : ∀ sample ∈ miniBatch, Packable padTokenId sample)
include positive packable

theorem width_padded {row : LossRow}
    (member : row ∈ lossRows padTokenId seqLenMultiple false miniBatch) :
    row.width = paddedLen seqLenMultiple miniBatch := by
  rcases (lossRows_laidOut false positive packable).widths with given | ⟨-, padded⟩
  · cases given
  · exact padded row member

theorem rowLogps_eq {Logit : Type} (logProb : Logit → Nat → ℝ) (packingSeq : Bool)
    (labels : ∀ row ∈ lossRows padTokenId seqLenMultiple packingSeq miniBatch,
      row.sample.inputIds.length - 1 ∈ trainedPositions row.sample →
        padTokenId = 0 ∨ row.sample.inputIds.length = paddedLen seqLenMultiple miniBatch ∨
          row.sample.inputIds.length < row.width) (logit : Nat → Nat → Logit) :
    rowLogps padTokenId logProb (lossRows padTokenId seqLenMultiple packingSeq miniBatch)
        logit =
      miniBatch.zipIdx.flatMap fun entry => (trainedPositions entry.1).map fun position =>
        logProb (logit entry.2 position)
          (tokenLabel padTokenId (paddedLen seqLenMultiple miniBatch) entry.1 position) := by
  have laidOut := lossRows_laidOut packingSeq positive packable
  rw [← flatMap_lossRows packingSeq fun sample index => (trainedPositions sample).map
    fun position => logProb (logit index position)
      (tokenLabel padTokenId (paddedLen seqLenMultiple miniBatch) sample position), rowLogps]
  apply flatMap_congr
  intro row member
  apply map_congr_left
  intro position trained
  have marks := (packable_lossRows packable packingSeq row member).marksTokens
  rw [tokenLabel_eq (laidOut.keepsTokens row member) (laidOut.within row member)
    (marks position trained)]
  intro last
  exact labels row member (last ▸ trained)

theorem filled_packed (filled : ∀ index sample, miniBatch[index]? = some sample →
      sample.inputIds = [] → ReceivesPadding seqLenMultiple miniBatch index sample) :
    ∀ row ∈ lossRows padTokenId seqLenMultiple true miniBatch, 0 < row.width := by
  intro row member
  obtain ⟨-, sampleAt, -⟩ := (getElem?_lossRows true row.index row).mp
    (getElem?_of_mem_lossRows true member)
  rcases Nat.eq_zero_or_pos row.sample.inputIds.length with empty | some
  · have receives := filled row.index row.sample sampleAt (length_eq_zero_iff.mp empty)
    exact Nat.zero_lt_of_lt ((lt_width_packed_iff positive packable member).mpr receives)
  · rw [width_packed positive packable member]
    exact Nat.add_pos_left some _

theorem preservesLoss_of_lossKept {options : LossOptions ℝ} (nonempty : miniBatch ≠ [])
    (kept : LossKept options padTokenId seqLenMultiple miniBatch) :
    PreservesLoss options padTokenId seqLenMultiple miniBatch := by
  intro Logit logProb entropy tuning workers lossScalingFactor values
  have packedLogps := rowLogps_eq positive packable logProb true (by
    intro row member trained
    obtain ⟨-, sampleAt, -⟩ := (getElem?_lossRows true row.index row).mp
      (getElem?_of_mem_lossRows true member)
    rw [lt_width_packed_iff positive packable member]
    exact kept.labels row.index row.sample sampleAt trained)
  have paddedLogps := rowLogps_eq positive packable logProb false (by
    intro row member trained
    have within := (lossRows_laidOut false positive packable).keepsTokens row member
    rw [width_padded positive packable member] at within ⊢
    exact Or.inr (Nat.lt_or_eq_of_le within).symm)
  have logps := fun logit => (packedLogps logit).trans (paddedLogps logit).symm
  have countsNonempty : trainedCounts miniBatch ≠ [] := by
    rw [trainedCounts]
    exact fun empty => nonempty (map_eq_nil_iff.mp empty)
  rw [miniBatchLoss_eq Real.exp options tuning logProb entropy positive packable true
      (fun _ => filled_packed positive packable kept.filled),
    miniBatchLoss_eq Real.exp options tuning logProb entropy positive packable false
      (fun impossible => absurd impossible Bool.false_ne_true),
    rowSignals_eq logps, layoutSeqlens_packed, layoutSeqlens_padded]
  exact (trainingLoss_single Real.exp tuning workers kept.grouping countsNonempty
    lossScalingFactor _ (length_rowLogps false logProb values.logit)).symm

end Labels

end CosmosRl.Policy
