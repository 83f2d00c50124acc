import CosmosRl.Policy.OptimizeChunks

/-!
When every sample of a batch is trained once in a mu-iteration, with the signals of its
own rollout, and what follows from it: the batch is one optimize chunk that splits into as
many mini-batches as there are slots for.

The indices of a chunk's mini-batches count from the beginning of the chunk, while the
signals are read from the whole batch.
-/

namespace CosmosRl.Policy

open CosmosRl.Data CosmosRl.Foundation CosmosRl.Utils List
open CosmosRl.Dispatcher (PyError)

section Condition

variable {Value : Type} [Zero Value] [LT Value] [DecidableLT Value]
  (config : GrpoConfig) (rollouts : List (Rollout Value))
  (results : String → Option (List (List Value)))
  (policyInput : Rollout Value → RLPolicyInput) (gathered : Nat → Nat)

def OwnSignals (entry : TrainedSample Value) : Prop :=
  ∃ sample ∈ processedSamples rollouts policyInput,
    sample.position = entry.position ∧
      signalsOf config rollouts results sample sample.position =
        .ok entry.signals ∧
      freshOldLogps config [sample] [entry.signals] = [entry.oldPerTokenLogps]

/-- In mu-iteration `iMu` of a step every sample of the batch is trained once, with the
signals of its own rollout. -/
def TrainsOwn (iMu : Nat) : Prop :=
  ∃ iterations trained,
    stepTraining config rollouts results policyInput gathered =
        .ok iterations ∧
      iterations[iMu]? = some trained ∧
      (trained.map TrainedSample.position).Perm (List.range rollouts.length) ∧
      ∀ entry ∈ trained, OwnSignals config rollouts results policyInput entry

def SplitsStatically : Prop :=
  0 < config.miniBatch ∧
    (config.miniBatch.toNat ∣ rollouts.length ∨ rollouts.length ≤ config.miniBatch.toNat)

def dynamicMiniBatches (maxTokenLen : Int) : Nat :=
  agreedMiniBatches
    ((processedSamples rollouts policyInput).map fun sample =>
      policyComputeMaxLen [sample.input])
    (maxTokenLen.toNat * config.cpSize) (gathered 0)

def SplitsWithinSlots : Prop :=
  match config.maxTokenLenPerMiniBatch with
  | some maxTokenLen =>
    if 0 < maxTokenLen then
      0 < dynamicMiniBatches config rollouts policyInput gathered maxTokenLen ∧
        dynamicMiniBatches config rollouts policyInput gathered maxTokenLen ≤
          numMiniBatch config rollouts.length
    else SplitsStatically config rollouts
  | none => SplitsStatically config rollouts

structure OwnSignalsCondition : Prop where
  nonempty : rollouts ≠ []
  oneChunk : ∀ size, config.batchSizePerOptimize = some size →
    size ≤ 0 ∨ rollouts.length ≤ size.toNat
  splits : SplitsWithinSlots config rollouts policyInput gathered
  /-- In distillation no mini-batch is without any teacher's log probabilities. -/
  taught : ∀ arrangement,
    arrangeMiniBatches config (processedSamples rollouts policyInput) (gathered 0) =
      .ok arrangement →
    ∀ indices ∈ arrangement.2,
      skipsMiniBatch config rollouts results indices = false
  /-- The log probabilities of every rollout have the lengths the step asserts. -/
  complete : ∀ sample ∈ processedSamples rollouts policyInput, ∃ signals,
    signalsOf config rollouts results sample sample.position = .ok signals

end Condition

section Batch

variable {Value : Type} {config : GrpoConfig} {rollouts : List (Rollout Value)}
  {policyInput : Rollout Value → RLPolicyInput} {gathered : Nat → Nat} {sample : ProcessedSample}

theorem length_processedSamples :
    (processedSamples rollouts policyInput).length = rollouts.length := by
  rw [processedSamples, length_map, length_zipIdx]

theorem position_of_getElem?_processedSamples {index : Nat}
    (found : (processedSamples rollouts policyInput)[index]? = some sample) :
    sample.position = index := by
  rw [processedSamples, getElem?_map, Option.map_eq_some_iff] at found
  obtain ⟨⟨rollout, position⟩, entry, rfl⟩ := found
  rw [getElem?_zipIdx, Option.map_eq_some_iff] at entry
  obtain ⟨_, _, equal⟩ := entry
  have same := (Prod.mk.inj equal).2
  simpa using same.symm

theorem perOptimizeBatchSize_le (batchSize : Nat) :
    perOptimizeBatchSize config batchSize ≤ batchSize := by
  rw [perOptimizeBatchSize]
  split
  · split
    · exact Nat.min_le_right _ _
    · exact Nat.le_refl _
  · exact Nat.le_refl _

theorem perOptimizeBatchSize_eq_iff (batchSize : Nat) :
    perOptimizeBatchSize config batchSize = batchSize ↔
      ∀ size, config.batchSizePerOptimize = some size →
        size ≤ 0 ∨ batchSize ≤ size.toNat := by
  rw [perOptimizeBatchSize]
  cases config.batchSizePerOptimize with
  | none => simp
  | some size =>
    by_cases positive : 0 < size
    · simp only [positive, if_true, Option.some.injEq, forall_eq']
      omega
    · simp only [positive, if_false]
      refine iff_of_true trivial ?_
      intro other same
      cases same
      exact Or.inl (Int.not_lt.mp positive)

theorem position_of_getElem?_chunkAt {i index : Nat}
    (found : (chunkAt config rollouts policyInput i)[index]? = some sample) :
    sample.position = i + index ∧ index < perOptimizeBatchSize config rollouts.length := by
  rw [chunkAt, getElem?_take] at found
  split at found
  case isFalse => cases found
  case isTrue within =>
    rw [getElem?_drop] at found
    exact ⟨position_of_getElem?_processedSamples found, within⟩

theorem chunkAt_zero (whole : perOptimizeBatchSize config rollouts.length =
    rollouts.length) :
    chunkAt config rollouts policyInput 0 = processedSamples rollouts policyInput := by
  rw [chunkAt, drop_zero, whole, take_of_length_le]
  rw [length_processedSamples]

theorem chunkStarts_whole (nonempty : rollouts ≠ [])
    (whole : perOptimizeBatchSize config rollouts.length = rollouts.length) :
    chunkStarts config rollouts = [0] := by
  have positive : 0 < rollouts.length := length_pos_of_ne_nil nonempty
  have one : (rollouts.length - 0 + rollouts.length - 1) / rollouts.length = 1 := by
    rw [Nat.div_eq_iff positive]
    omega
  rw [chunkStarts, whole, stridedRange, one]
  rfl

theorem Arranges.pairs_perm {chunk : List ProcessedSample}
    {arrangement : List (List ProcessedSample) × List (List Nat)}
    (arranges : Arranges chunk arrangement) (positions : ∀ (index : Nat) (sample : ProcessedSample),
      chunk[index]? = some sample → sample.position = index) :
    (pairsOf (arrangement.1.zip arrangement.2)).Perm
      ((List.range chunk.length).map fun index => (index, index)) := by
  have same : pairsOf (arrangement.1.zip arrangement.2) =
      arrangement.2.flatten.map fun index => (index, index) := by
    have listed : arrangement.2.flatten =
        ((arrangement.1.zip arrangement.2).map Prod.snd).flatten := by
      rw [arranges.map_snd]
    rw [listed, map_flatten, map_map, pairsOf, List.flatMap]
    congr 1
    apply map_congr_left
    intro miniBatch member
    have aligned := arranges.aligned miniBatch member
    have lengths := arranges.length_eq member
    have second : miniBatch.2 = (miniBatch.1.zip miniBatch.2).map Prod.snd :=
      (map_snd_zip (Nat.le_of_eq lengths.symm)).symm
    rw [Function.comp, second, map_map, ← second]
    apply map_congr_left
    rintro ⟨sample, index⟩ entryMember
    have found := getElem?_of_mem_zip aligned entryMember
    rw [Function.comp, positions index sample found]
  rw [same]
  exact arranges.covered.map _

theorem ceil_le_div_min_iff {batchSize miniBatch : Nat} (some : 0 < batchSize)
    (positive : 0 < miniBatch) :
    (batchSize + miniBatch - 1) / miniBatch ≤ batchSize / min miniBatch batchSize ↔
      miniBatch ∣ batchSize ∨ batchSize ≤ miniBatch := by
  rcases Nat.le_total batchSize miniBatch with small | large
  · rw [Nat.min_eq_right small, Nat.div_self some]
    refine iff_of_true ?_ (Or.inr small)
    rw [← Nat.lt_succ_iff, Nat.div_lt_iff_lt_mul positive]
    omega
  · rw [Nat.min_eq_left large]
    have split := Nat.div_add_mod batchSize miniBatch
    have remainder := Nat.mod_lt batchSize positive
    constructor
    · intro fits
      by_contra uneven
      rw [not_or] at uneven
      have left : 0 < batchSize % miniBatch := by
        rw [Nat.dvd_iff_mod_eq_zero] at uneven
        omega
      have more : batchSize / miniBatch + 1 ≤
          (batchSize + miniBatch - 1) / miniBatch := by
        rw [Nat.le_div_iff_mul_le positive, Nat.add_mul, Nat.one_mul, Nat.mul_comm]
        omega
      omega
    · rintro (even | small)
      · have none := Nat.mod_eq_zero_of_dvd even
        rw [← Nat.lt_succ_iff, Nat.div_lt_iff_lt_mul positive, Nat.succ_mul, Nat.mul_comm]
        omega
      · have same : batchSize = miniBatch := by omega
        subst same
        rw [← Nat.lt_succ_iff, Nat.div_lt_iff_lt_mul positive, Nat.div_self some]
        omega

theorem numMiniBatch_whole (whole : perOptimizeBatchSize config rollouts.length =
    rollouts.length) (positive : 0 < config.miniBatch) :
    numMiniBatch config rollouts.length =
      rollouts.length / min config.miniBatch.toNat rollouts.length := by
  rw [numMiniBatch, miniBatchSize, if_pos positive, whole]

/-- The static split succeeds, with a slot for every mini-batch, exactly if it is even or
leaves the batch whole. -/
theorem splitStatic_iff (nonempty : rollouts ≠ [])
    (whole : perOptimizeBatchSize config rollouts.length = rollouts.length) :
    (∃ arrangement,
      arrangeMiniBatches.splitStatic config (processedSamples rollouts policyInput) =
          .ok arrangement ∧
        Arranges (processedSamples rollouts policyInput) arrangement ∧
        arrangement.2.length ≤ numMiniBatch config rollouts.length) ↔
      SplitsStatically config rollouts := by
  have some : 0 < rollouts.length := length_pos_of_ne_nil nonempty
  rw [SplitsStatically, arrangeMiniBatches.splitStatic]
  by_cases zero : config.miniBatch = 0
  · rw [if_pos zero]
    refine iff_of_false ?_ (by omega)
    rintro ⟨arrangement, split, _⟩
    cases split
  · rw [if_neg zero]
    by_cases negative : config.miniBatch < 0
    · rw [if_pos negative]
      refine iff_of_false ?_ (by omega)
      rintro ⟨arrangement, split, arranges, _⟩
      cases split
      have empty := arranges.covered.length_eq
      rw [length_range, length_processedSamples] at empty
      simp only [flatten_nil, length_nil] at empty
      omega
    · have positive : 0 < config.miniBatch := by omega
      have count := length_splitMiniBatches (processedSamples rollouts policyInput)
        config.miniBatch.toNat
      rw [length_processedSamples] at count
      have enough := @ceil_le_div_min_iff rollouts.length config.miniBatch.toNat some (by omega)
      rw [← numMiniBatch_whole whole positive, ← count] at enough
      rw [if_neg negative, ← enough]
      constructor
      · rintro ⟨arrangement, split, _, fits⟩
        cases split
        exact ⟨positive, fits⟩
      · rintro ⟨_, fits⟩
        exact ⟨_, rfl, splitMiniBatches_arranges _ (by omega), fits⟩

/-- The whole batch is cut into mini-batches that all have a slot exactly under the
condition of its split. -/
theorem splitsWithinSlots_iff (nonempty : rollouts ≠ [])
    (whole : perOptimizeBatchSize config rollouts.length = rollouts.length) :
    (∃ arrangement,
      arrangeMiniBatches config (processedSamples rollouts policyInput) (gathered 0) =
          .ok arrangement ∧
        Arranges (processedSamples rollouts policyInput) arrangement ∧
        arrangement.2.length ≤ numMiniBatch config rollouts.length) ↔
      SplitsWithinSlots config rollouts policyInput gathered := by
  rw [SplitsWithinSlots, arrangeMiniBatches]
  cases config.maxTokenLenPerMiniBatch with
  | none => exact splitStatic_iff nonempty whole
  | some maxTokenLen =>
    by_cases positive : 0 < maxTokenLen
    · simp only [positive, if_true]
      have someTokens : 0 < maxTokenLen.toNat * config.cpSize :=
        Nat.mul_pos (by omega) config.cpPositive
      have sameLength : (processedSamples rollouts policyInput).length =
          ((processedSamples rollouts policyInput).map fun sample =>
            policyComputeMaxLen [sample.input]).length := by
        rw [length_map]
      have someLengths : ((processedSamples rollouts policyInput).map fun sample =>
          policyComputeMaxLen [sample.input]) ≠ [] := by
        intro empty
        have lengths := congrArg List.length empty
        rw [length_map, length_processedSamples, length_nil] at lengths
        exact nonempty (eq_nil_of_length_eq_zero lengths)
      constructor
      · rintro ⟨arrangement, arranged, _, fits⟩
        have count := (rearrangeMiniBatches_spec arranged).1
        have agreed := (exists_rearrangeMiniBatches_iff sameLength someLengths
          (Nat.lt_of_lt_of_le someTokens (Nat.le_max_left _ _))).mp ⟨arrangement, arranged⟩
        refine ⟨agreed.1, ?_⟩
        rw [dynamicMiniBatches, ← count]
        exact fits
      · rintro ⟨some, fits⟩
        have enough : numMiniBatch config rollouts.length ≤ rollouts.length := Nat.div_le_self _ _
        have within : dynamicMiniBatches config rollouts policyInput gathered maxTokenLen ≤
            ((processedSamples rollouts policyInput).map fun sample =>
              policyComputeMaxLen [sample.input]).length := by
          rw [← sameLength, length_processedSamples]
          omega
        obtain ⟨arrangement, arranged⟩ := (exists_rearrangeMiniBatches_iff sameLength
          someLengths (Nat.lt_of_lt_of_le someTokens (Nat.le_max_left _ _))).mpr ⟨some, within⟩
        refine ⟨arrangement, arranged, rearrangeMiniBatches_arranges sameLength arranged, ?_⟩
        rw [(rearrangeMiniBatches_spec arranged).1]
        exact fits
    · simp only [positive, if_false]
      exact splitStatic_iff nonempty whole

end Batch

section Necessary

variable {Value : Type} [Zero Value] [LT Value] [DecidableLT Value]
  {config : GrpoConfig} {rollouts : List (Rollout Value)}
  {results : String → Option (List (List Value))}
  {policyInput : Rollout Value → RLPolicyInput} {gathered : Nat → Nat}

theorem OwnSignals.origin {entry : TrainedSample Value}
    (own : OwnSignals config rollouts results policyInput entry) :
    entry.origin = (entry.position, entry.position) := by
  obtain ⟨sample, _, position, read, _⟩ := own
  rw [TrainedSample.origin, signalsOf_rollout config rollouts results read, position]

section

omit [Zero Value] [LT Value] [DecidableLT Value]

theorem ChunksArranged.mem_pairsOf
    {arrangements : List (List (List ProcessedSample) × List (List Nat))}
    (all : ChunksArranged config rollouts policyInput gathered arrangements) {pair : Nat × Nat}
    (member : pair ∈ pairsOf
      (arrangements.flatMap fun arrangement => arrangement.1.zip arrangement.2)) :
    ∃ i, pair.1 = i + pair.2 ∧ pair.2 < perOptimizeBatchSize config rollouts.length := by
  obtain ⟨miniBatch, miniBatchMember, inMiniBatch⟩ := mem_flatMap.mp member
  obtain ⟨arrangement, arrangementMember, inArrangement⟩ := mem_flatMap.mp miniBatchMember
  obtain ⟨⟨sample, index⟩, entryMember, rfl⟩ := mem_map.mp inMiniBatch
  obtain ⟨i, _, step, arranged⟩ := all.of_mem config rollouts policyInput gathered arrangementMember
  rcases arrangeMiniBatches_cases config arranged with arranges | none
  · have found := getElem?_of_mem_zip (arranges.aligned miniBatch inArrangement) entryMember
    exact ⟨i, position_of_getElem?_chunkAt found⟩
  · rw [none] at inArrangement
    cases inArrangement

theorem length_pairsOf_kept (miniBatches : List (List ProcessedSample × List Nat)) :
    (pairsOf (keptMiniBatches config rollouts results miniBatches)).length +
        (pairsOf (miniBatches.filter fun miniBatch =>
          skipsMiniBatch config rollouts results miniBatch.2)).length =
      (pairsOf miniBatches).length := by
  induction miniBatches with
  | nil => rfl
  | cons miniBatch miniBatches ih =>
    rw [keptMiniBatches] at ih ⊢
    simp only [pairsOf] at ih ⊢
    rw [flatMap_cons, length_append]
    cases skipped : skipsMiniBatch config rollouts results miniBatch.2 with
    | false =>
      rw [filter_cons_of_pos (by simp [skipped]), filter_cons_of_neg (by simp [skipped]),
        flatMap_cons, length_append]
      omega
    | true =>
      rw [filter_cons_of_neg (by simp [skipped]), filter_cons_of_pos (by simp [skipped]),
        flatMap_cons, length_append]
      omega

/-- When the kept mini-batches of a cut hold as many samples as the chunk has, none was
skipped. -/
theorem Arranges.unskipped {chunk : List ProcessedSample}
    {arrangement : List (List ProcessedSample) × List (List Nat)}
    (arranges : Arranges chunk arrangement) (positions : ∀ (index : Nat) (sample : ProcessedSample),
      chunk[index]? = some sample → sample.position = index)
    (complete : chunk.length ≤ (pairsOf (keptMiniBatches config rollouts
      results (arrangement.1.zip arrangement.2))).length) :
    ∀ miniBatch ∈ arrangement.1.zip arrangement.2,
      skipsMiniBatch config rollouts results miniBatch.2 = false := by
  intro miniBatch member
  by_contra skipped
  rw [Bool.not_eq_false] at skipped
  have all := (arranges.pairs_perm positions).length_eq
  rw [length_map, length_range] at all
  have parts := @length_pairsOf_kept _ config rollouts results
    (arrangement.1.zip arrangement.2)
  have missing : miniBatch ∈ (arrangement.1.zip arrangement.2).filter fun miniBatch =>
      skipsMiniBatch config rollouts results miniBatch.2 :=
    mem_filter.mpr ⟨member, skipped⟩
  have someIndex : miniBatch.2 ≠ [] := by
    apply arranges.nonempty
    rw [← arranges.map_snd]
    exact mem_map.mpr ⟨miniBatch, member, rfl⟩
  have counted : 0 < (pairsOf ((arrangement.1.zip arrangement.2).filter fun miniBatch =>
      skipsMiniBatch config rollouts results miniBatch.2)).length := by
    have lengths := arranges.length_eq member
    have nonzero := length_pos_of_ne_nil someIndex
    obtain ⟨sample, index, entry⟩ : ∃ sample index,
        (sample, index) ∈ miniBatch.1.zip miniBatch.2 := by
      obtain ⟨samples, indices⟩ := miniBatch
      cases samples with
      | nil => exact absurd lengths.symm (Nat.ne_of_gt nonzero)
      | cons sample samples =>
        cases indices with
        | nil => cases nonzero
        | cons index indices => exact ⟨sample, index, by simp⟩
    apply length_pos_of_mem
    exact mem_flatMap.mpr ⟨miniBatch, missing, mem_map.mpr ⟨_, entry, rfl⟩⟩
  omega

end

/-- Training every sample with its own signals takes one chunk: a sample of a later chunk
gets the signals of an earlier one. -/
theorem TrainsOwn.whole {iMu : Nat}
    (trainsOwn : TrainsOwn config rollouts results policyInput gathered iMu) :
    rollouts ≠ [] ∧ perOptimizeBatchSize config rollouts.length = rollouts.length := by
  obtain ⟨iterations, trained, stepped, found, covered, own⟩ := trainsOwn
  obtain ⟨nonzero, trainedBy⟩ := stepTraining_trainedBy config rollouts
    results policyInput gathered stepped
  obtain ⟨iMu', steps, steps', arrangements, arranged, slots, zero, none, forwarded, rfl⟩ :=
    trainedBy trained (mem_of_getElem? found)
  have nonempty : rollouts ≠ [] := by
    rintro rfl
    have small := @perOptimizeBatchSize_le config 0
    rw [miniBatchSize] at nonzero
    split at nonzero <;> simp only [length_nil] at nonzero <;> omega
  refine ⟨nonempty, ?_⟩
  obtain ⟨_, _, _, entriesOf⟩ := forwardMiniBatches_ok config rollouts results
    (arranged.sameLength config rollouts policyInput gathered) slots (by omega) forwarded
  obtain ⟨entries, appended, origins⟩ := entriesOf rfl
  rw [none, nil_append] at appended
  rw [appended] at covered own
  have some := length_pos_of_ne_nil nonempty
  have last : rollouts.length - 1 ∈ entries.map TrainedSample.position :=
    covered.mem_iff.mpr (mem_range.mpr (by omega))
  obtain ⟨entry, entryMember, position⟩ := mem_map.mp last
  have kept := origins.subset (mem_map.mpr ⟨entry, entryMember, rfl⟩)
  have inPairs : entry.origin ∈ pairsOf
      (arrangements.flatMap fun arrangement => arrangement.1.zip arrangement.2) := by
    obtain ⟨miniBatch, keptMember, inMiniBatch⟩ := mem_flatMap.mp kept
    exact mem_flatMap.mpr ⟨miniBatch, (mem_filter.mp keptMember).1, inMiniBatch⟩
  obtain ⟨i, offset, within⟩ := arranged.mem_pairsOf inPairs
  rw [(own entry entryMember).origin, position] at within
  have small := @perOptimizeBatchSize_le config rollouts.length
  simp only at within
  omega

theorem TrainsOwn.condition {iMu : Nat}
    (trainsOwn : TrainsOwn config rollouts results policyInput gathered iMu) :
    OwnSignalsCondition config rollouts results policyInput gathered := by
  obtain ⟨nonempty, whole⟩ := trainsOwn.whole
  obtain ⟨iterations, trained, stepped, found, covered, own⟩ := trainsOwn
  obtain ⟨_, trainedBy⟩ := stepTraining_trainedBy config rollouts
    results policyInput gathered stepped
  obtain ⟨iMu', steps, steps', arrangements, arranged, slots, zero, none, forwarded, rfl⟩ :=
    trainedBy trained (mem_of_getElem? found)
  obtain ⟨_, bound, readable, entriesOf⟩ := forwardMiniBatches_ok config rollouts
    results (arranged.sameLength config rollouts policyInput gathered) slots
    (by omega) forwarded
  obtain ⟨entries, appended, origins⟩ := entriesOf rfl
  rw [none, nil_append] at appended
  rw [appended] at covered
  -- the batch has one arrangement
  rw [ChunksArranged, chunkStarts_whole nonempty whole] at arranged
  obtain ⟨arrangement, rfl⟩ : ∃ arrangement, arrangements = [arrangement] := by
    have lengths := congrArg List.length arranged
    rw [length_map, length_map] at lengths
    exact length_eq_one_iff.mp lengths.symm
  have arrangedWhole : arrangeMiniBatches config (processedSamples rollouts policyInput)
      (gathered 0) = .ok arrangement := by
    rw [← chunkAt_zero whole]
    exact (List.cons.inj arranged).1
  rw [flatMap_cons, flatMap_nil, append_nil] at bound readable origins
  have positions : ∀ (index : Nat) (sample : ProcessedSample),
      (processedSamples rollouts policyInput)[index]? = some sample → sample.position = index :=
    fun _ _ located => position_of_getElem?_processedSamples located
  have enough : (processedSamples rollouts policyInput).length ≤
      (pairsOf (keptMiniBatches config rollouts results
        (arrangement.1.zip arrangement.2))).length := by
    have trainedLength := covered.length_eq
    have keptLength := origins.length_le
    rw [length_map, length_range] at trainedLength
    rw [length_map] at keptLength
    rw [length_processedSamples]
    omega
  have arranges : Arranges (processedSamples rollouts policyInput) arrangement := by
    rcases arrangeMiniBatches_cases config arrangedWhole with arranges | nothing
    · exact arranges
    · rw [nothing, length_processedSamples] at enough
      have some := length_pos_of_ne_nil nonempty
      simp only [zip_nil_left, keptMiniBatches, filter_nil, pairsOf,
        flatMap_nil, length_nil] at enough
      omega
  have unskipped := arranges.unskipped positions enough
  have keptAll : keptMiniBatches config rollouts results
      (arrangement.1.zip arrangement.2) = arrangement.1.zip arrangement.2 := by
    rw [keptMiniBatches, filter_eq_self]
    intro miniBatch member
    rw [unskipped miniBatch member]
    rfl
  rw [keptAll] at bound readable
  have count : (arrangement.1.zip arrangement.2).length = arrangement.2.length := by
    rw [← arranges.map_snd, length_map, arranges.map_snd]
  refine ⟨nonempty, (perOptimizeBatchSize_eq_iff _).mp whole, ?_, ?_, ?_⟩
  · exact (splitsWithinSlots_iff nonempty whole).mp ⟨arrangement, arrangedWhole, arranges, by omega⟩
  · intro other otherArranged indices member
    have same : arrangement = other := Except.ok.inj (arrangedWhole.symm.trans otherArranged)
    rw [← same, ← arranges.map_snd] at member
    obtain ⟨miniBatch, miniBatchMember, rfl⟩ := mem_map.mp member
    exact unskipped miniBatch miniBatchMember
  · intro sample member
    obtain ⟨index, located⟩ := getElem?_of_mem member
    have position := positions index sample located
    have inRange : index ∈ arrangement.2.flatten := by
      apply arranges.covered.mem_iff.mpr
      exact List.mem_range.mpr (List.getElem?_eq_some_iff.mp located).1
    obtain ⟨indices, indicesMember, indexMember⟩ := mem_flatten.mp inRange
    rw [← arranges.map_snd] at indicesMember
    obtain ⟨miniBatch, miniBatchMember, rfl⟩ := mem_map.mp indicesMember
    have lengths := arranges.length_eq miniBatchMember
    rw [← map_snd_zip (Nat.le_of_eq lengths.symm)] at indexMember
    obtain ⟨⟨other, index'⟩, entryMember, rfl⟩ := mem_map.mp indexMember
    have otherLocated := getElem?_of_mem_zip (arranges.aligned miniBatch miniBatchMember)
      entryMember
    have same : sample = other := Option.some.inj (located.symm.trans otherLocated)
    rw [position, same]
    exact (readable_iff config rollouts results lengths).mp
      (readable miniBatch miniBatchMember) _ entryMember

end Necessary

end CosmosRl.Policy
