import CosmosRl.Policy.OwnSignals
import CosmosRl.Policy.TaughtTokens

/-!
Distillation of mini-batches in which some samples have no teacher result.

A sample without a result is to contribute no token, and the others are to be trained on
their own results.  `include_prompt` marks all tokens of a sample after its mask has been
cleared, and the rollouts of a chunk are counted from the beginning of the batch.
-/

namespace CosmosRl.Policy

open CosmosRl.Data CosmosRl.Foundation CosmosRl.Utils List
open CosmosRl.Dispatcher (PyError)

section Runs

variable {Value : Type}
  {config : GrpoConfig} {rollouts : List (Rollout Value)}
  {results : String → Option (List (List Value))}
  {policyInput : Rollout Value → RLPolicyInput} {gathered : Nat → Nat}

theorem paired_of_mem_miniBatchRows {rows : List BatchRow}
    (member : rows ∈ miniBatchRows config rollouts policyInput gathered) :
    ∀ row ∈ rows, row.index = row.position % perOptimizeBatchSize config rollouts.length := by
  intro row inRows
  obtain ⟨⟨i, step⟩, isChunk, inChunk⟩ := mem_flatMap.mp member
  cases arranged : arrangementOf config rollouts policyInput gathered i step with
  | error exn => simp [arranged] at inChunk
  | ok arrangement =>
    simp only [arranged] at inChunk
    obtain ⟨miniBatch, isMiniBatch, rfl⟩ := mem_map.mp inChunk
    rcases arrangeMiniBatches_cases config arranged with arranges | nothing
    · rw [← map_uncurry_zip_eq_zipWith] at inRows
      obtain ⟨⟨sample, index⟩, paired, rfl⟩ := mem_map.mp inRows
      obtain ⟨isPosition, within⟩ := position_of_getElem?_chunkAt
        (getElem?_of_mem_zip (arranges.aligned miniBatch isMiniBatch) paired)
      obtain ⟨-, turn, rfl⟩ :=
        (mem_stridedRange (Nat.zero_lt_of_lt within)).mp (fst_mem_of_mem_zipIdx isChunk)
      show index = sample.position % perOptimizeBatchSize config rollouts.length
      rw [isPosition, Nat.zero_add, Nat.mul_add_mod, Nat.mod_eq_of_lt within]
    · rw [nothing] at isMiniBatch
      cases isMiniBatch

/-- The first visits of a step collate all their mini-batches from the samples of the data
packer. -/
theorem runVisits_fromPacker (count : Nat) :
    ∀ collated ∈ (runVisits config rollouts results policyInput
        ((stepVisits config rollouts policyInput gathered).take count)).state.collated,
      FromPacker config rollouts results policyInput collated := by
  have initially : MasksKept config rollouts results policyInput
      (· % perOptimizeBatchSize config rollouts.length) (rollouts.map policyInput) :=
    fun _ => .inl rfl
  refine (@Outcome.forEach_preserves PyError (DistillationState Value) MiniBatchVisit
    (fun state =>
      MasksKept config rollouts results policyInput
          (· % perOptimizeBatchSize config rollouts.length) state.processedSamples ∧
        ∀ collated ∈ state.collated,
          FromPacker config rollouts results policyInput collated)
    _ _ ?_ _ ⟨initially, by simp⟩).2
  rintro visit member state ⟨kept, sound⟩
  refine visitMiniBatch_fromPacker ?_ kept sound
  obtain ⟨pass, -, inPass⟩ := mem_flatMap.mp (mem_of_mem_take member)
  obtain ⟨rows, isRows, rfl⟩ := mem_map.mp inPass
  exact paired_of_mem_miniBatchRows isRows

end Runs

section Condition

variable {Value : Type} [Zero Value] (config : GrpoConfig) (rollouts : List (Rollout Value))
  (results : String → Option (List (List Value)))
  (policyInput : Rollout Value → RLPolicyInput)

def MiniBatchVisit.Mixed (visit : MiniBatchVisit) : Prop :=
  (∃ row ∈ visit.rows, teacherOf rollouts results row.position = none) ∧
    ∃ row ∈ visit.rows, teacherOf rollouts results row.position ≠ none

def Marked (row : BatchRow) (width position : Nat) : Prop :=
  position < width ∧
    if config.includePrompt then
      position + 1 < (packedSample rollouts policyInput row.position).logprobMasks.length
    else
      teacherOf rollouts results row.index ≠ none ∧
        (packedSample rollouts policyInput row.position).logprobMasks[position]? = some true

variable (padTokenId seqLenMultiple topK : Nat) (packingSeq : Bool)

def teacherEntry (maxLen : Nat) (teacherLogprobs : Option (List (List Value)))
    (position : Nat) : List Value :=
  (teacherRow topK maxLen teacherLogprobs).getD position (zeroEntry topK)

/-- The samples without a result contribute no token, and at the tokens of the others the
tensors of the teacher and of the policy hold their own entries. -/
structure TaughtOnly (collated : CollatedMiniBatch Value) : Prop where
  taught : ∀ token ∈ collated.tokens padTokenId seqLenMultiple packingSeq,
    teacherOf rollouts results token.1 ≠ none
  teacherAligned : collated.teacherTokens padTokenId seqLenMultiple topK packingSeq =
    (collated.tokens padTokenId seqLenMultiple packingSeq).map fun token =>
      teacherEntry topK (paddedLen seqLenMultiple collated.samples)
        (teacherOf rollouts results token.1) token.2
  currentAligned : ∀ (Logit : Type) (logit : Nat → Nat → Logit),
    (collated.select padTokenId seqLenMultiple packingSeq fun row position =>
        logit row.position position) =
      (collated.tokens padTokenId seqLenMultiple packingSeq).map fun token =>
        logit token.1 token.2

/-- A sample without a result has no marked position, and a sample is taken with a rollout
whose result is its own at the marked positions. -/
structure RowSuits (maxLen : Nat) (row : BatchRow) (width : Nat) : Prop where
  missing : teacherOf rollouts results row.position = none →
    ∀ position,
      ¬ Marked config rollouts results policyInput row width position
  paired : ∀ position,
    Marked config rollouts results policyInput row width position →
      teacherEntry topK maxLen (teacherOf rollouts results row.index) position =
        teacherEntry topK maxLen (teacherOf rollouts results row.position)
          position

def packedSamples (visit : MiniBatchVisit) : List RLPolicyInput :=
  visit.rows.map fun row => packedSample rollouts policyInput row.position

def rowWidths (visit : MiniBatchVisit) : List (BatchRow × Nat) :=
  visit.rows.zip (layoutWidths padTokenId seqLenMultiple packingSeq
    (packedSamples rollouts policyInput visit))

def SuitsMasks (visit : MiniBatchVisit) : Prop :=
  ∀ entry ∈ rowWidths rollouts policyInput padTokenId seqLenMultiple packingSeq visit,
    RowSuits config rollouts results policyInput topK
      (paddedLen seqLenMultiple (packedSamples rollouts policyInput visit)) entry.1 entry.2

end Condition

section Tokens

variable {Value : Type} {config : GrpoConfig} {rollouts : List (Rollout Value)}
  {results : String → Option (List (List Value))}
  {policyInput : Rollout Value → RLPolicyInput} {padTokenId seqLenMultiple topK : Nat}
  {packingSeq : Bool}

theorem paddedLen_congr {first second : List RLPolicyInput}
    (same : first.map RLPolicyInput.inputIds = second.map RLPolicyInput.inputIds) :
    paddedLen seqLenMultiple first = paddedLen seqLenMultiple second := by
  have lengths : ∀ miniBatch : List RLPolicyInput,
      (miniBatch.map fun sample => sample.inputIds.length) =
        (miniBatch.map RLPolicyInput.inputIds).map List.length := by
    intro miniBatch
    rw [map_map]
    rfl
  rw [paddedLen, paddedLen, computedMaxLen, computedMaxLen, policyComputeMaxLen,
    policyComputeMaxLen, lengths first, lengths second, same]

theorem layoutWidths_congr {first second : List RLPolicyInput}
    (same : first.map RLPolicyInput.inputIds = second.map RLPolicyInput.inputIds) :
    layoutWidths padTokenId seqLenMultiple packingSeq first =
      layoutWidths padTokenId seqLenMultiple packingSeq second := by
  have rows : ∀ miniBatch : List RLPolicyInput,
      (miniBatch.map fun sample =>
          collateRow padTokenId (paddedLen seqLenMultiple miniBatch) sample.inputIds) =
        (miniBatch.map RLPolicyInput.inputIds).map
          (collateRow padTokenId (paddedLen seqLenMultiple miniBatch)) := by
    intro miniBatch
    rw [map_map]
    rfl
  have unpacked : ∀ miniBatch : List RLPolicyInput,
      (miniBatch.map fun _ => paddedLen seqLenMultiple miniBatch) =
        (miniBatch.map RLPolicyInput.inputIds).map fun _ =>
          paddedLen seqLenMultiple miniBatch := by
    intro miniBatch
    rw [map_map]
    rfl
  rw [layoutWidths, layoutWidths, validLengths, validLengths, rows first, rows second,
    unpacked first, unpacked second, same, paddedLen_congr same]

variable (config rollouts results policyInput padTokenId seqLenMultiple
  packingSeq) in
def markedEntries (visit : MiniBatchVisit) : List ((BatchRow × Nat) × Nat) :=
  (rowWidths rollouts policyInput padTokenId seqLenMultiple packingSeq visit).flatMap
    fun entry =>
      (keptPositions
        (collatedSample config rollouts results policyInput
          entry.1).logprobMasks entry.2).map (entry, ·)

theorem mem_keptPositions_collatedSample {row : BatchRow} {width position : Nat} :
    position ∈ keptPositions
        (collatedSample config rollouts results policyInput row).logprobMasks
        width ↔
      Marked config rollouts results policyInput row width position := by
  rw [mem_keptPositions, Marked]
  refine and_congr_right fun _ => ?_
  show (maskLeft config rollouts results row
    (packedSample rollouts policyInput row.position).logprobMasks)[position]? = some true ↔ _
  obtain ⟨mask, isMask⟩ : ∃ mask,
      (packedSample rollouts policyInput row.position).logprobMasks = mask := ⟨_, rfl⟩
  rw [isMask, maskLeft]
  cases config.includePrompt with
  | true =>
    rw [if_pos rfl, if_pos rfl, getElem?_append, length_replicate]
    split
    case isTrue inside =>
      rw [getElem?_replicate, if_pos inside]
      exact iff_of_true rfl (by omega)
    case isFalse outside =>
      refine iff_of_false ?_ (by omega)
      intro marked
      have member := mem_singleton.mp (mem_of_getElem? marked)
      cases member
  | false =>
    rw [if_neg Bool.false_ne_true, if_neg Bool.false_ne_true]
    by_cases missing : teacherOf rollouts results row.index = none
    · rw [if_pos missing]
      refine iff_of_false ?_ fun both => both.1 missing
      intro marked
      cases eq_of_mem_replicate (mem_of_getElem? marked)
    · rw [if_neg missing]
      exact (and_iff_right missing).symm

theorem mem_markedEntries {visit : MiniBatchVisit} {entry : BatchRow × Nat} {position : Nat} :
    (entry, position) ∈ markedEntries config rollouts results policyInput
        padTokenId seqLenMultiple packingSeq visit ↔
      entry ∈ rowWidths rollouts policyInput padTokenId seqLenMultiple packingSeq visit ∧
        Marked config rollouts results policyInput entry.1 entry.2 position := by
  rw [markedEntries, mem_flatMap]
  constructor
  · rintro ⟨other, member, kept⟩
    obtain ⟨same, isKept, isEntry⟩ := mem_map.mp kept
    cases isEntry
    exact ⟨member, mem_keptPositions_collatedSample.mp isKept⟩
  · rintro ⟨member, marked⟩
    exact ⟨entry, member, mem_map_of_mem (mem_keptPositions_collatedSample.mpr marked)⟩

variable {collated : CollatedMiniBatch Value}

theorem FromPacker.sameInputs
    (sound : FromPacker config rollouts results policyInput collated) :
    collated.samples.map RLPolicyInput.inputIds =
      (packedSamples rollouts policyInput collated.visit).map RLPolicyInput.inputIds := by
  rw [sound.samples, packedSamples, map_map, map_map]
  rfl

/-- The masks select every tensor at the marked positions. -/
theorem FromPacker.select_rows
    (sound : FromPacker config rollouts results policyInput collated)
    {Alpha : Type} (entries : BatchRow → Nat → Alpha) :
    collated.select padTokenId seqLenMultiple packingSeq entries =
      (markedEntries config rollouts results policyInput padTokenId
        seqLenMultiple packingSeq collated.visit).map fun marked =>
          entries marked.1.1 marked.2 := by
  obtain ⟨items, isItems⟩ : ∃ items, rowWidths rollouts policyInput padTokenId seqLenMultiple
      packingSeq collated.visit = items := ⟨_, rfl⟩
  have sameWidths := @layoutWidths_congr padTokenId seqLenMultiple packingSeq _ _ sound.sameInputs
  have lengths : (layoutWidths padTokenId seqLenMultiple packingSeq
      (packedSamples rollouts policyInput collated.visit)).length =
        collated.visit.rows.length := by
    rw [length_layoutWidths, packedSamples, length_map]
  have rows : items.map Prod.fst = collated.visit.rows := by
    rw [← isItems, rowWidths]
    exact map_fst_zip (Nat.le_of_eq lengths.symm)
  have widths : items.map Prod.snd =
      layoutWidths padTokenId seqLenMultiple packingSeq collated.samples := by
    rw [← isItems, rowWidths, sameWidths]
    exact map_snd_zip (Nat.le_of_eq lengths)
  have samples : items.map (fun item => collatedSample config rollouts results
      policyInput item.1) = collated.samples := by
    rw [sound.samples, ← rows, map_map]
    rfl
  have selected := layoutSignals_items padTokenId seqLenMultiple packingSeq items
    (fun item => collatedSample config rollouts results policyInput item.1)
    Prod.snd (fun item position => entries item.1 position) (by rw [samples, widths])
  have tensor : (items.map fun item =>
      (List.range (paddedLen seqLenMultiple collated.samples)).map fun position =>
        entries item.1 position) =
      collated.visit.rows.map fun row =>
        (List.range (paddedLen seqLenMultiple collated.samples)).map (entries row) := by
    rw [← rows, map_map]
    rfl
  rw [samples, tensor] at selected
  rw [CollatedMiniBatch.select, selected, markedEntries, isItems, map_flatMap]
  apply flatMap_congr
  intro item _
  rw [map_map]
  rfl

variable [Zero Value]

theorem FromPacker.teacherTokens_eq
    (sound : FromPacker config rollouts results policyInput collated) :
    collated.teacherTokens padTokenId seqLenMultiple topK packingSeq =
      (markedEntries config rollouts results policyInput padTokenId
        seqLenMultiple packingSeq collated.visit).map fun marked =>
          teacherEntry topK (paddedLen seqLenMultiple collated.samples)
            (teacherOf rollouts results marked.1.1.index) marked.2 := by
  rw [← sound.select_rows fun row position =>
    teacherEntry topK (paddedLen seqLenMultiple collated.samples)
      (teacherOf rollouts results row.index) position]
  rw [CollatedMiniBatch.teacherTokens, CollatedMiniBatch.select, sound.teacherLogprobs,
    map_map]
  congr 1
  apply map_congr_left
  intro row _
  apply ext_getElem?
  intro position
  rw [Function.comp_apply, getElem?_map]
  rcases Nat.lt_or_ge position (paddedLen seqLenMultiple collated.samples) with inside | outside
  · have within : position < (teacherRow topK (paddedLen seqLenMultiple collated.samples)
        (teacherOf rollouts results row.index)).length := by
      rw [teacherRow, length_collateRow]
      exact inside
    rw [getElem?_range inside, Option.map_some, teacherEntry, getD_eq_getElem?_getD,
      getElem?_eq_getElem within, Option.getD_some]
  · rw [getElem?_eq_none (by rw [teacherRow, length_collateRow]; exact outside),
      getElem?_eq_none (by rw [length_range]; exact outside)]
    rfl

/-- A mini-batch trains only on the results of its samples exactly if they suit its masks. -/
theorem FromPacker.taughtOnly_iff
    (sound : FromPacker config rollouts results policyInput collated) :
    TaughtOnly rollouts results padTokenId seqLenMultiple topK packingSeq
        collated ↔
      SuitsMasks config rollouts results policyInput padTokenId seqLenMultiple
        topK packingSeq collated.visit := by
  have tokens : collated.tokens padTokenId seqLenMultiple packingSeq =
      (markedEntries config rollouts results policyInput padTokenId
        seqLenMultiple packingSeq collated.visit).map fun marked =>
          (marked.1.1.position, marked.2) := sound.select_rows _
  have maxLen := @paddedLen_congr seqLenMultiple _ _ sound.sameInputs
  constructor
  · intro taughtOnly entry member
    refine ⟨fun missing position marked => ?_, fun position marked => ?_⟩
    · refine taughtOnly.taught (entry.1.position, position) ?_ missing
      rw [tokens]
      exact mem_map.mpr ⟨(entry, position), mem_markedEntries.mpr ⟨member, marked⟩, rfl⟩
    · have aligned := taughtOnly.teacherAligned
      rw [sound.teacherTokens_eq, tokens, map_map, map_inj_left, maxLen] at aligned
      exact aligned (entry, position) (mem_markedEntries.mpr ⟨member, marked⟩)
  · intro suits
    refine ⟨?_, ?_, ?_⟩
    · intro token member
      rw [tokens] at member
      obtain ⟨⟨entry, position⟩, isMarked, rfl⟩ := mem_map.mp member
      obtain ⟨inRows, marked⟩ := mem_markedEntries.mp isMarked
      exact fun missing => (suits entry inRows).missing missing position marked
    · rw [sound.teacherTokens_eq, tokens, map_map, maxLen]
      apply map_congr_left
      rintro ⟨entry, position⟩ isMarked
      obtain ⟨inRows, marked⟩ := mem_markedEntries.mp isMarked
      exact (suits entry inRows).paired position marked
    · intro Logit logit
      rw [sound.select_rows, tokens, map_map]
      rfl

end Tokens

section Settled

variable {Value : Type} [Zero Value] (config : GrpoConfig) (rollouts : List (Rollout Value))
  (results : String → Option (List (List Value)))
  (policyInput : Rollout Value → RLPolicyInput) (gathered : Nat → Nat)
  (padTokenId seqLenMultiple topK : Nat) (packingSeq : Bool)

/-- Without the prompt, and with every sample taken with its own rollout, the mask of a
sample without a result is cleared. -/
theorem rowSuits_of_completion (maxLen : Nat) {row : BatchRow} (width : Nat)
    (completion : config.includePrompt = false) (own : row.index = row.position) :
    RowSuits config rollouts results policyInput topK maxLen row width := by
  refine ⟨fun missing position marked => ?_, fun position _ => by rw [own]⟩
  have kept := marked.2
  rw [completion, if_neg Bool.false_ne_true, own] at kept
  exact kept.1 missing

/-- In the first visits of a step, every mini-batch in which some samples have a result and
some have none is trained only on the results of its samples exactly if they suit its
masks. -/
theorem mixedTaughtOnly_iff (count : Nat) :
    (∀ collated ∈ (runVisits config rollouts results policyInput
        ((stepVisits config rollouts policyInput gathered).take count)).state.collated,
      collated.visit.Mixed rollouts results →
        TaughtOnly rollouts results padTokenId seqLenMultiple topK packingSeq
          collated) ↔
      ∀ collated ∈ (runVisits config rollouts results policyInput
          ((stepVisits config rollouts policyInput gathered).take count)).state.collated,
        collated.visit.Mixed rollouts results →
          SuitsMasks config rollouts results policyInput padTokenId
            seqLenMultiple topK packingSeq collated.visit := by
  apply forall_congr'
  intro collated
  apply forall_congr'
  intro member
  exact imp_congr_right fun _ => (runVisits_fromPacker count collated member).taughtOnly_iff

end Settled

def promptDistillation : GrpoConfig where
  batchSizePerOptimize := none
  miniBatch := 2
  maxTokenLenPerMiniBatch := none
  cpSize := 1
  cpPositive := Nat.one_pos
  muIterations := 1
  needComputeRef := false
  useDecoupledLoss := false
  useRolloutLogprobsForLoss := false
  collectRolloutLogprobs := true
  positiveNll := false
  distillation := true
  includePrompt := true

def promptedRollout (teacherResultUuid : String) : Rollout Int where
  advantage := 1
  reward := 1
  completion := .tokenIds [7, 8]
  completionLogprobs := some [[-3], [-3]]
  promptLogprobs := some []
  teacherResultUuid := teacherResultUuid
  nIgnorePrefixTokens := 0

def promptedRollouts : List (Rollout Int) :=
  [promptedRollout "taught", promptedRollout "missing"]

def distilledInput (_ : Rollout Int) : RLPolicyInput :=
  ⟨[5, 7, 8], [true, true, false]⟩

def distilledResults (teacherResultUuid : String) : Option (List (List Int)) :=
  if teacherResultUuid = "taught" then some [[-1], [-2]] else none

/-- The sample without a result is trained on the tokens before its last one. -/
theorem not_mixedTaughtOnly_includePrompt :
    ¬ ∀ collated ∈ (runVisits promptDistillation promptedRollouts distilledResults
        distilledInput (stepVisits promptDistillation promptedRollouts distilledInput
          fun _ => 0)).state.collated,
      collated.visit.Mixed promptedRollouts distilledResults →
        TaughtOnly promptedRollouts distilledResults 0 1 0 false collated := by
  intro claim
  have ran : ((runVisits promptDistillation promptedRollouts distilledResults
      distilledInput (stepVisits promptDistillation promptedRollouts distilledInput
        fun _ => 0)).state.collated.map fun collated =>
      (collated.visit.rows, collated.tokens 0 1 false)) =
        [([⟨0, 0⟩, ⟨1, 1⟩], [(0, 0), (0, 1), (1, 0), (1, 1)])] := by decide
  obtain ⟨collated, others, isRun, isCollated, -⟩ := map_eq_cons_iff.mp ran
  obtain ⟨rows, tokens⟩ := Prod.mk.inj isCollated
  have mixed : collated.visit.Mixed promptedRollouts distilledResults := by
    rw [MiniBatchVisit.Mixed, rows]
    exact ⟨⟨⟨1, 1⟩, by simp, by decide⟩, ⟨⟨0, 0⟩, by simp, by decide⟩⟩
  refine (claim collated (by rw [isRun]; simp) mixed).taught (1, 0) ?_ (by decide)
  rw [tokens]
  simp

end CosmosRl.Policy
