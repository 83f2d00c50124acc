import CosmosRl.Policy.OptimizeChunks
import CosmosRl.Policy.SampleLosses

/-!
When the losses of a step do not depend on how its batch is cut into mini-batches.

`loss_scaling_factor` counts samples, so that means over sequences add up to the mean over
the batch.  A mean over tokens is weighted by samples, and a sum over tokens is divided by
the number of mini-batches.
-/

namespace CosmosRl.Policy

open CosmosRl.Foundation CosmosRl.Utils List
open CosmosRl.Dispatcher (PyError)

section Cuts

theorem samplesAt_range (batch : List (SampleTerms ℝ)) :
    samplesAt batch (List.range batch.length) = batch := by
  apply ext_getElem
  · rw [samplesAt, length_map, length_range]
  · intro index _ inside
    simp only [samplesAt, getElem_map, getElem_range]
    rw [getD_eq_getElem?_getD, getElem?_eq_getElem inside, Option.getD_some]

theorem Cut.samples_perm (batch : List (SampleTerms ℝ)) (cut : Cut batch.length) :
    ((cut.miniBatchIndex.map (samplesAt batch)).flatten).Perm batch := by
  have perm := cut.covered.map fun index => batch.getD index []
  rw [map_flatten] at perm
  exact perm.trans (List.Perm.of_eq (samplesAt_range batch))

theorem Cut.sample_mem {batch : List (SampleTerms ℝ)} (cut : Cut batch.length)
    {indices : List Nat} (member : indices ∈ cut.miniBatchIndex) {sample : SampleTerms ℝ}
    (inside : sample ∈ samplesAt batch indices) : sample ∈ batch :=
  (cut.samples_perm batch).mem_iff.mp
    (mem_flatten.mpr ⟨_, mem_map.mpr ⟨indices, member, rfl⟩, inside⟩)

/-- The mini-batches of a chunk are a cut of it, whichever way it is split; a negative
`mini_batch` gives none. -/
theorem exists_cut_of_arrangeMiniBatches (config : GrpoConfig) {chunk : List ProcessedSample}
    {gathered : Nat} {arrangement : List (List ProcessedSample) × List (List Nat)}
    (arranged : arrangeMiniBatches config chunk gathered = .ok arrangement) :
    (∃ cut : Cut chunk.length, cut.miniBatchIndex = arrangement.2) ∨
      arrangement = ([], []) := by
  have static : ∀ found, arrangeMiniBatches.splitStatic config chunk = .ok found →
      ∀ indices ∈ found.2, indices.Pairwise (· ≤ ·) := by
    intro found split indices member
    rw [arrangeMiniBatches.splitStatic] at split
    split at split
    case isTrue => cases split
    case isFalse =>
      split at split
      · rw [← Except.ok.inj split] at member
        cases member
      · rw [← Except.ok.inj split, splitMiniBatches] at member
        obtain ⟨start, -, rfl⟩ := mem_map.mp member
        exact pairwise_le_range'
  have sorted : ∀ indices ∈ arrangement.2, indices.Pairwise (· ≤ ·) := by
    rw [arrangeMiniBatches] at arranged
    split at arranged
    · split at arranged
      · exact sorted_of_rearrangeMiniBatches arranged
      · exact static _ arranged
    · exact static _ arranged
  refine (arrangeMiniBatches_cases config arranged).imp_left fun arranges => ?_
  have distinct : arrangement.2.flatten.Nodup := arranges.covered.nodup_iff.mpr nodup_range
  refine ⟨⟨arrangement.2, arranges.nonempty, fun indices member => ?_, arranges.covered⟩, rfl⟩
  exact (sorted indices member).imp₂ (fun _ _ below different => Nat.lt_of_le_of_ne below different)
    ((nodup_flatten.mp distinct).1 indices member)

end Cuts

section Means

variable {options : LossOptions ℝ} (tuning : LossTuning ℝ) (useDecoupledLoss : Bool)

/-- Means over sequences add up to the mean over the batch. -/
theorem accumulatedLoss_of_averages (averages : AveragesSequences options)
    (numDpWorkers : Nat) (otherTokens : Nat → Nat) {batch : List (SampleTerms ℝ)}
    (maskable : ∀ sample ∈ batch, Maskable options sample) (cut : Cut batch.length) :
    accumulatedLoss Real.exp options tuning useDecoupledLoss numDpWorkers otherTokens batch
        cut =
      .ok (totalOf ((batch.map (sampleLoss options tuning useDecoupledLoss)).map
        (Option.map fun value => value / (batch.length : ℝ)))) := by
  let share (sample : SampleTerms ℝ) : Option ℝ :=
    (sampleLoss options tuning useDecoupledLoss sample).map fun value =>
      value / (batch.length : ℝ)
  have losses : ∀ indices ∈ cut.miniBatchIndex, ∀ workers : DpWorkers,
      scaledLoss Real.exp options tuning useDecoupledLoss workers batch.length
          (samplesAt batch indices) =
        .ok (totalOf ((samplesAt batch indices).map share)) := by
    intro indices member workers
    have several : ((samplesAt batch indices).length : ℝ) ≠ 0 := by
      rw [samplesAt, length_map, Nat.cast_ne_zero]
      exact fun none => cut.nonempty indices member (eq_nil_of_length_eq_zero none)
    have shares := totalOf_map_div ((samplesAt batch indices).map
      (sampleLoss options tuning useDecoupledLoss)) (batch.length : ℝ)
    rw [map_map] at shares
    rw [scaledLoss, computeLoss_samples tuning useDecoupledLoss averages workers
      fun sample inside => maskable sample (cut.sample_mem member inside)]
    simp only [Except.map, Option.map_map]
    congr 1
    refine Eq.trans ?_ shares
    congr 1
    funext total
    simp only [Function.comp_apply]
    field_simp
  have collected : (cut.miniBatchIndex.zipIdx.mapM fun entry =>
      scaledLoss Real.exp options tuning useDecoupledLoss ⟨numDpWorkers, otherTokens entry.2⟩
        batch.length (samplesAt batch entry.1)) =
      .ok (cut.miniBatchIndex.map fun indices =>
        totalOf ((samplesAt batch indices).map share)) := by
    rw [mapM_eq_ok_iff, map_map]
    have numbered := map_map (l := cut.miniBatchIndex.zipIdx) (f := Prod.fst)
      (g := (@Except.ok PyError (Option ℝ)) ∘ fun indices =>
        totalOf ((samplesAt batch indices).map share))
    rw [zipIdx_map_fst] at numbered
    rw [numbered]
    exact map_congr_left fun entry member =>
      losses entry.1 (fst_mem_of_mem_zipIdx member) _
  rw [accumulatedLoss, collected]
  simp only [Except.map]
  congr 1
  have parts := totalOf_flatten ((cut.miniBatchIndex.map (samplesAt batch)).map (List.map share))
  rw [map_map, map_map, ← map_flatten] at parts
  rw [map_map]
  exact parts.trans (totalOf_perm ((cut.samples_perm batch).map share))

end Means

section Alike

variable (options : LossOptions ℝ)

/-- The losses do not depend on the cut: there is only one, or no trained token; every cut
fails at a last sample without tokens; or the loss is a mean over sequences, and the
off-policy mask can be applied to each of them. -/
def SplitsAlike (seqlens : List Nat) : Prop :=
  seqlens.length ≤ 1 ∨ seqlens.sum = 0 ∨
    (options.offPolicyMaskingDelta.isSome ∧ seqlens.getLast? = some 0) ∨
    (AveragesSequences options ∧ (options.offPolicyMaskingDelta.isSome → 0 ∉ seqlens))

variable {options} (tuning : LossTuning ℝ) (useDecoupledLoss : Bool) (numDpWorkers : Nat)
  (otherTokens : Nat → Nat)

theorem Cut.eq_of_length_le_one {batchSize : Nat} (small : batchSize ≤ 1)
    (first second : Cut batchSize) : first.miniBatchIndex = second.miniBatchIndex := by
  have only : ∀ cut : Cut batchSize,
      cut.miniBatchIndex = if batchSize = 0 then [] else [[0]] := by
    intro cut
    have covered := cut.covered
    have filled := cut.nonempty
    rcases Nat.le_one_iff_eq_zero_or_eq_one.mp small with rfl | rfl
    · rw [range_zero, perm_nil] at covered
      cases minis : cut.miniBatchIndex with
      | nil => rfl
      | cons indices rest =>
        rw [minis] at covered filled
        exact absurd (append_eq_nil_iff.mp covered).1 (filled _ mem_cons_self)
    · rw [show List.range 1 = [0] from rfl, perm_singleton] at covered
      cases minis : cut.miniBatchIndex with
      | nil =>
        rw [minis] at covered
        cases covered
      | cons indices rest =>
        rw [minis, flatten_cons] at covered
        rw [minis] at filled
        obtain ⟨index, others, rfl⟩ :=
          exists_cons_of_ne_nil (filled indices mem_cons_self)
        obtain ⟨rfl, none⟩ := List.cons.inj covered
        obtain ⟨rfl, none⟩ := append_eq_nil_iff.mp none
        cases rest with
        | nil => rfl
        | cons later rest =>
          exact absurd (flatten_eq_nil_iff.mp none later mem_cons_self)
            (filled later (mem_cons_of_mem _ mem_cons_self))
  rw [only first, only second]

theorem gather_cases (values : List ℝ) (positions : List Nat) :
    (∃ found, gather values positions = .ok found) ∨
      gather values positions = .error .indexError := by
  induction positions with
  | nil => exact .inl ⟨[], rfl⟩
  | cons position positions ih =>
    rw [gather_cons]
    cases values[position]? with
    | none => exact .inr rfl
    | some value =>
      rcases ih with ⟨found, isFound⟩ | failed
      · exact .inl ⟨value :: found, by rw [isFound]; rfl⟩
      · exact .inr (by rw [failed]; rfl)

theorem applyOffPolicyMask_cases (delta : ℝ) (seqlens : List Nat)
    (perTokenLoss maskingSource current advantages : List ℝ) :
    (∃ masked, applyOffPolicyMask delta seqlens perTokenLoss maskingSource current advantages =
      .ok masked) ∨
      applyOffPolicyMask delta seqlens perTokenLoss maskingSource current advantages =
        .error .indexError := by
  rcases gather_cases advantages (List.scanl (· + ·) 0 seqlens).dropLast with
    ⟨found, isFound⟩ | failed
  · exact .inl ⟨_, congrArg (Except.map _) isFound⟩
  · exact .inr (congrArg (Except.map _) failed)

theorem maskedLoss_cases (seqlens : List Nat) (signals : LossSignals ℝ) :
    (∃ masked, maskedLoss Real.exp options tuning seqlens signals = .ok masked) ∨
      maskedLoss Real.exp options tuning seqlens signals = .error .indexError := by
  rw [maskedLoss]
  split
  · exact applyOffPolicyMask_cases _ _ _ _ _ _
  · exact .inl ⟨_, rfl⟩

theorem scaledLoss_cases (workers : DpWorkers) (batchSize : Nat)
    (miniBatch : List (SampleTerms ℝ)) :
    (∃ loss, scaledLoss Real.exp options tuning useDecoupledLoss workers batchSize miniBatch =
      .ok loss) ∨
      scaledLoss Real.exp options tuning useDecoupledLoss workers batchSize miniBatch =
        .error .indexError := by
  rw [scaledLoss, computeLoss, checkShapes_signals, klLossOfTokens_signals]
  rcases @maskedLoss_cases options tuning (miniBatch.map List.length)
    (miniBatchSignals tuning useDecoupledLoss miniBatch) with ⟨masked, isMasked⟩ | failed
  · rw [isMasked]
    exact .inl ⟨_, rfl⟩
  · rw [failed]
    exact .inr rfl

theorem scaledLoss_of_empty_last (isMasked : options.offPolicyMaskingDelta.isSome)
    (workers : DpWorkers) (batchSize : Nat) (front : List (SampleTerms ℝ)) :
    scaledLoss Real.exp options tuning useDecoupledLoss workers batchSize (front ++ [[]]) =
      .error .indexError := by
  obtain ⟨delta, isDelta⟩ := Option.isSome_iff_exists.mp isMasked
  have advantages : (miniBatchSignals tuning useDecoupledLoss (front ++ [[]])).advantages.length =
      (front.map List.length ++ [0]).sum := by
    simp only [miniBatchSignals, length_map, length_flatten, map_append,
      map_cons, map_nil, length_nil]
  rw [scaledLoss, computeLoss, checkShapes_signals, maskedLoss, isDelta, map_append]
  simp only [bind, Except.bind, map_cons, map_nil, length_nil,
    applyOffPolicyMask_of_empty_last delta advantages]
  rfl

theorem mapM_error {Item Exn Result : Type} {compute : Item → Except Exn Result} {exn : Exn}
    {items : List Item}
    (settled : ∀ item ∈ items, (∃ result, compute item = .ok result) ∨ compute item = .error exn)
    (failing : ∃ item ∈ items, compute item = .error exn) :
    items.mapM compute = .error exn := by
  induction items with
  | nil =>
    obtain ⟨item, member, -⟩ := failing
    cases member
  | cons item items ih =>
    obtain ⟨first, others⟩ := forall_mem_cons.mp settled
    rw [mapM_except_cons]
    rcases first with ⟨result, computed⟩ | failed
    · obtain ⟨other, member, failed⟩ := failing
      rcases mem_cons.mp member with rfl | later
      · rw [failed] at computed
        cases computed
      · rw [computed, ih others ⟨other, later, failed⟩]
    · rw [failed]

variable {batch : List (SampleTerms ℝ)}

theorem Cut.exists_last (cut : Cut batch.length)
    {sample : SampleTerms ℝ} (isLast : batch.getLast? = some sample) :
    ∃ entry ∈ cut.miniBatchIndex.zipIdx, ∃ front, samplesAt batch entry.1 = front ++ [sample] := by
  have several : 0 < batch.length := by
    refine length_pos_of_ne_nil fun none => ?_
    rw [none] at isLast
    cases isLast
  have last : batch.length - 1 ∈ cut.miniBatchIndex.flatten :=
    cut.covered.mem_iff.mpr (mem_range.mpr (Nat.sub_lt several Nat.one_pos))
  obtain ⟨indices, member, inside⟩ := mem_flatten.mp last
  obtain ⟨number, numbered⟩ : ∃ number, (indices, number) ∈ cut.miniBatchIndex.zipIdx := by
    obtain ⟨number, found⟩ := getElem?_of_mem member
    exact ⟨number, mem_zipIdx_iff_getElem?.mpr found⟩
  obtain ⟨before, after, rfl⟩ := append_of_mem inside
  -- nothing comes after the last index in ascending order
  have noneAfter : after = [] := by
    rw [eq_nil_iff_forall_not_mem]
    intro index later
    have greater := (pairwise_cons.mp
      (pairwise_append.mp (cut.ascending _ member)).2.1).1 index later
    have within := mem_range.mp (cut.covered.mem_iff.mp (mem_flatten.mpr
      ⟨_, member, mem_append_right _ (mem_cons_of_mem _ later)⟩))
    omega
  subst noneAfter
  refine ⟨_, numbered, samplesAt batch before, ?_⟩
  rw [getLast?_eq_getElem?] at isLast
  rw [samplesAt, map_append, map_cons, map_nil, getD_eq_getElem?_getD, isLast,
    Option.getD_some, samplesAt]

theorem accumulatedLoss_of_empty_last (isMasked : options.offPolicyMaskingDelta.isSome)
    (isLast : batch.getLast? = some []) (cut : Cut batch.length) :
    accumulatedLoss Real.exp options tuning useDecoupledLoss numDpWorkers otherTokens batch
        cut = .error .indexError := by
  obtain ⟨entry, member, front, samples⟩ := cut.exists_last isLast
  rw [accumulatedLoss, mapM_error (fun entry _ => scaledLoss_cases tuning useDecoupledLoss _ _ _)
    ⟨entry, member, by rw [samples, scaledLoss_of_empty_last tuning useDecoupledLoss isMasked]⟩]
  rfl

/-- Without tokens, sums over tokens are zero. -/
theorem accumulatedLoss_of_no_tokens (unmasked : options.offPolicyMaskingDelta = none)
    (averages : ¬AveragesSequences options)
    (empty : ∀ sample ∈ batch, sample = []) (cut : Cut batch.length) :
    accumulatedLoss Real.exp options tuning useDecoupledLoss numDpWorkers otherTokens batch
        cut = .ok (some 0) := by
  have zero : ∀ entry ∈ cut.miniBatchIndex.zipIdx,
      scaledLoss Real.exp options tuning useDecoupledLoss ⟨numDpWorkers, otherTokens entry.2⟩
        batch.length (samplesAt batch entry.1) = .ok (some 0) := by
    intro entry member
    obtain ⟨count, samples⟩ : ∃ count, samplesAt batch entry.1 = List.replicate count [] :=
      ⟨_, eq_replicate_iff.mpr ⟨rfl, fun sample inside => empty sample
        (cut.sample_mem (fst_mem_of_mem_zipIdx member) inside)⟩⟩
    have flat : (List.replicate count ([] : SampleTerms ℝ)).flatten = [] := by
      simp
    have sums (seqlens : List Nat) : ((seqlens.splitLengths ([] : List ℝ)).map List.sum).sum =
        0 := by
      induction seqlens with
      | nil => rfl
      | cons length seqlens ih =>
        rw [splitLengths_cons, take_nil, drop_nil, map_cons, sum_cons, ih]
        simp
    have noLoss (workers : DpWorkers) (seqlens : List Nat) :
        aggregateLoss options tuning workers seqlens [] = some 0 := by
      cases lossTypeIs : options.lossType with
      | seqMeanTokenMean => exact absurd (.inl lossTypeIs) averages
      | seqMeanTokenSum => exact absurd (.inr lossTypeIs) averages
      | tokenMean =>
        simp only [aggregateLoss, lossTypeIs, sums, zero_div, zero_mul]
        split <;> rfl
      | tokenSum => simp only [aggregateLoss, lossTypeIs, sums]
    rw [samples, scaledLoss, computeLoss, checkShapes_signals, klLossOfTokens_signals, maskedLoss,
      unmasked, weightedLoss_signals, flatMap_def, ← map_flatten, flat]
    simp only [bind, Except.bind, zipWith_nil_right, map_nil, noLoss, Option.bind_some,
      zero_mul, add_zero, Except.map, Option.map_some]
  have collected : (cut.miniBatchIndex.zipIdx.mapM fun entry =>
      scaledLoss Real.exp options tuning useDecoupledLoss ⟨numDpWorkers, otherTokens entry.2⟩
        batch.length (samplesAt batch entry.1)) =
      .ok (cut.miniBatchIndex.zipIdx.map fun _ => some 0) := by
    rw [mapM_eq_ok_iff, map_map]
    exact map_congr_left zero
  rw [accumulatedLoss, collected]
  have nothing := totalOf_map_some (cut.miniBatchIndex.zipIdx.map fun _ => (0 : ℝ))
  rw [map_map, sum_eq_zero (by simp)] at nothing
  exact congrArg Except.ok nothing

/-- If the samples of a batch are alike for the loss, all cuts have one accumulated loss. -/
theorem splitInvariant_of_alike {seqlens : List Nat} (alike : SplitsAlike options seqlens) :
    SplitInvariant Real.exp options seqlens := by
  intro tuning useDecoupledLoss numDpWorkers otherTokens batch lengths first second
  subst lengths
  -- a batch whose last sample is empty fails where the mask is applied
  have failing : options.offPolicyMaskingDelta.isSome → batch.getLast? = some [] →
      accumulatedLoss Real.exp options tuning useDecoupledLoss numDpWorkers otherTokens batch
          first =
        accumulatedLoss Real.exp options tuning useDecoupledLoss numDpWorkers otherTokens batch
          second := by
    intro isMasked isLast
    rw [accumulatedLoss_of_empty_last tuning useDecoupledLoss _ _ isMasked isLast,
      accumulatedLoss_of_empty_last tuning useDecoupledLoss _ _ isMasked isLast]
  have averaging : AveragesSequences options →
      (∀ sample ∈ batch, Maskable options sample) →
      accumulatedLoss Real.exp options tuning useDecoupledLoss numDpWorkers otherTokens batch
          first =
        accumulatedLoss Real.exp options tuning useDecoupledLoss numDpWorkers otherTokens batch
          second := by
    intro averages maskable
    rw [accumulatedLoss_of_averages tuning useDecoupledLoss averages _ _ maskable,
      accumulatedLoss_of_averages tuning useDecoupledLoss averages _ _ maskable]
  rcases alike with small | none | ⟨isMasked, isLast⟩ | ⟨averages, filled⟩
  · rw [length_map] at small
    rw [accumulatedLoss, accumulatedLoss, Cut.eq_of_length_le_one small first second]
  · have empty : ∀ sample ∈ batch, sample = [] := by
      intro sample member
      exact eq_nil_of_length_eq_zero
        (sum_eq_zero_iff.mp none _ (mem_map_of_mem member))
    cases isDelta : options.offPolicyMaskingDelta with
    | some delta =>
      cases isLast : batch.getLast? with
      | none =>
        rw [getLast?_eq_none_iff] at isLast
        rw [accumulatedLoss, accumulatedLoss, Cut.eq_of_length_le_one (by simp [isLast]) first
          second]
      | some sample =>
        have noTokens := empty sample (mem_of_getLast? isLast)
        exact failing (by rw [isDelta, Option.isSome_some]) (by rw [isLast, noTokens])
    | none =>
      by_cases averages : AveragesSequences options
      · exact averaging averages fun sample _ isMasked => by simp [isDelta] at isMasked
      · rw [accumulatedLoss_of_no_tokens tuning useDecoupledLoss _ _ isDelta averages empty,
          accumulatedLoss_of_no_tokens tuning useDecoupledLoss _ _ isDelta averages empty]
  · rw [getLast?_map, Option.map_eq_some_iff] at isLast
    obtain ⟨sample, isLast, noTokens⟩ := isLast
    exact failing isMasked (by rw [isLast, eq_nil_of_length_eq_zero noTokens])
  · refine averaging averages fun sample member isMasked none => filled isMasked ?_
    exact mem_map.mpr ⟨sample, member, length_eq_zero_iff.mpr none⟩

end Alike

end CosmosRl.Policy
