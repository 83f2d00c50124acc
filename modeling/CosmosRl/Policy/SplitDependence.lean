import CosmosRl.Policy.SplitInvariance

/-!
Batches whose accumulated loss depends on the cut.

The batches are compared in one mini-batch and in mini-batches of one sample each.
-/

namespace CosmosRl.Policy

open CosmosRl.Foundation List
open CosmosRl.Dispatcher (PyError)

section Cuts

def Cut.whole {batchSize : Nat} (positive : 0 < batchSize) : Cut batchSize where
  miniBatchIndex := [List.range batchSize]
  nonempty indices member := by
    rw [List.mem_singleton.mp member, ne_eq, List.range_eq_nil]
    exact Nat.ne_of_gt positive
  ascending indices member := by
    rw [List.mem_singleton.mp member]
    exact List.pairwise_lt_range
  covered := by rw [List.flatten_singleton]

def Cut.singles (batchSize : Nat) : Cut batchSize where
  miniBatchIndex := (List.range batchSize).map fun index => [index]
  nonempty indices member := by
    obtain ⟨index, -, rfl⟩ := List.mem_map.mp member
    exact List.cons_ne_nil _ _
  ascending indices member := by
    obtain ⟨index, -, rfl⟩ := List.mem_map.mp member
    exact List.pairwise_singleton _ _
  covered := by rw [← List.flatMap_def, List.flatMap_singleton']

end Cuts

section Units

variable (options : LossOptions ℝ)

def unitToken : TokenTerms ℝ := ⟨0, 0, 0, 0, 1⟩

def unitBatch (seqlens : List Nat) : List (SampleTerms ℝ) :=
  seqlens.map fun length => List.replicate length unitToken

@[simp] theorem length_unitBatch (seqlens : List Nat) :
    (unitBatch seqlens).length = seqlens.length := length_map _

theorem seqlens_unitBatch (seqlens : List Nat) : (unitBatch seqlens).map List.length = seqlens := by
  simp [unitBatch, Function.comp_def]

theorem signals_unitBatch (seqlens : List Nat) :
    miniBatchSignals probeTuning false (unitBatch seqlens) =
      probeSignals (List.replicate seqlens.sum 0) (List.replicate seqlens.sum 1) [] [] := by
  have flat : (unitBatch seqlens).flatten = List.replicate seqlens.sum unitToken := by
    induction seqlens with
    | nil => rfl
    | cons length seqlens ih =>
      rw [unitBatch, map_cons, flatten_cons, ← unitBatch, ih,
        replicate_append_replicate, sum_cons]
  simp only [miniBatchSignals, probeSignals, probeTuning, flat, map_replicate, if_true,
    Bool.false_eq_true, if_false, unitToken, length_replicate]

def LastFilled (seqlens : List Nat) : Prop :=
  options.offPolicyMaskingDelta.isSome → ∃ front last, seqlens = front ++ [last] ∧ 0 < last

variable {seqlens : List Nat}

theorem computeLoss_unitBatch (filled : LastFilled options seqlens) :
    computeLoss Real.exp options probeTuning probeWorkers seqlens
        (miniBatchSignals probeTuning false (unitBatch seqlens)) =
      .ok (aggregateLoss options probeTuning probeWorkers seqlens
        (List.replicate seqlens.sum (-1))) := by
  have weighted : weightedLoss Real.exp options probeTuning seqlens
      (probeSignals (List.replicate seqlens.sum 0) (List.replicate seqlens.sum 1) [] []) =
        List.replicate seqlens.sum (-1) := by
    rw [weightedLoss_probe, importanceRatio_replicate, ratioOf_zero, List.zipWith_replicate,
      Nat.min_self, tokenLoss_of_nonneg options 1 zero_le_one, one_mul]
  rw [signals_unitBatch, computeLoss_probe options (by
    rw [length_replicate, length_replicate]), maskedLoss, weighted]
  split
  case h_1 delta isDelta =>
    obtain ⟨front, last, rfl, positive⟩ := filled (by rw [isDelta, Option.isSome_some])
    rw [applyOffPolicyMask_of_nonneg delta positive length_replicate]
    · rfl
    · exact length_replicate
    · intro advantage member
      rw [eq_of_mem_replicate member]
      exact zero_le_one
  case h_2 => rfl

variable {options}

theorem accumulatedLoss_whole (filled : LastFilled options seqlens)
    (several : 0 < (unitBatch seqlens).length) :
    accumulatedLoss Real.exp options probeTuning false 1 (fun _ => 0) (unitBatch seqlens)
        (Cut.whole several) =
      .ok (aggregateLoss options probeTuning probeWorkers seqlens
        (List.replicate seqlens.sum (-1))) := by
  have whole : samplesAt (unitBatch seqlens) (List.range (unitBatch seqlens).length) =
      unitBatch seqlens := samplesAt_range _
  have loss : scaledLoss Real.exp options probeTuning false ⟨1, 0⟩ (unitBatch seqlens).length
      (unitBatch seqlens) = .ok (aggregateLoss options probeTuning probeWorkers seqlens
        (List.replicate seqlens.sum (-1))) := by
    have filledNe : ((unitBatch seqlens).length : ℝ) ≠ 0 :=
      Nat.cast_ne_zero.mpr (Nat.ne_of_gt several)
    have computed := computeLoss_unitBatch options filled
    rw [probeWorkers] at computed
    rw [scaledLoss, seqlens_unitBatch, computed, div_self filledNe]
    simp only [Except.map, mul_one, Option.map_id', probeWorkers]
  rw [accumulatedLoss]
  simp only [Cut.whole, zipIdx_singleton, mapM_except_cons, mapM_nil, pure, Except.pure,
    whole, loss, Except.map, totalOf_cons, totalOf_nil]
  exact congrArg Except.ok (Option.map₂_right_identity add_zero _)

theorem samplesAt_unitBatch (seqlens : List Nat) (index : Nat) :
    samplesAt (unitBatch seqlens) [index] = unitBatch [seqlens.getD index 0] := by
  simp only [samplesAt, map_cons, map_nil, unitBatch, getD_eq_getElem?_getD, getElem?_map]
  cases seqlens[index]? <;> rfl

theorem accumulatedLoss_singles_ne (isMasked : options.offPolicyMaskingDelta.isSome)
    (empty : 0 ∈ seqlens) (loss : Option ℝ) :
    accumulatedLoss Real.exp options probeTuning false 1 (fun _ => 0) (unitBatch seqlens)
      (Cut.singles (unitBatch seqlens).length) ≠ .ok loss := by
  obtain ⟨index, inside, isEmpty⟩ := getElem_of_mem empty
  have member : ([index], index) ∈
      (Cut.singles (unitBatch seqlens).length).miniBatchIndex.zipIdx := by
    rw [mem_zipIdx_iff_getElem?, Cut.singles, getElem?_map, getElem?_range
      (by rwa [length_unitBatch])]
    rfl
  have failed := @scaledLoss_of_empty_last options probeTuning false isMasked ⟨1, 0⟩
    (unitBatch seqlens).length []
  rw [accumulatedLoss, mapM_error (fun entry _ => scaledLoss_cases probeTuning false _ _ _)
    ⟨_, member, ?_⟩]
  · exact fun same => by cases same
  · rw [samplesAt_unitBatch, getD_eq_getElem?_getD, getElem?_eq_getElem inside,
      Option.getD_some, isEmpty]
    exact failed

noncomputable def tokenShare (options : LossOptions ℝ) (slack : ℝ) (count : Nat) : ℝ :=
  if options.lossType = .tokenMean then count / (count + slack) else count

variable {slack : ℝ}

theorem strictMono_tokenShare (positive : 0 < slack) : StrictMono (tokenShare options slack) := by
  intro fewer more less
  have cast : (fewer : ℝ) < (more : ℝ) := Nat.cast_lt.mpr less
  have nonneg : (0 : ℝ) ≤ (fewer : ℝ) := Nat.cast_nonneg fewer
  unfold tokenShare
  split
  · rw [div_lt_div_iff₀ (by positivity) (by positivity)]
    nlinarith
  · exact cast

theorem aggregateLoss_units (tokenwise : ¬AveragesSequences options) (seqlens : List Nat) :
    aggregateLoss options probeTuning probeWorkers seqlens (List.replicate seqlens.sum (-1)) =
      some (-tokenShare options (1 / 100000000) seqlens.sum) := by
  have units : (List.replicate seqlens.sum (-1 : ℝ)).length = seqlens.sum := length_replicate
  have sums := sum_splitLengths units
  rw [sum_replicate, nsmul_eq_mul, mul_neg_one] at sums
  cases lossTypeIs : options.lossType with
  | seqMeanTokenMean => exact absurd (.inl lossTypeIs) tokenwise
  | seqMeanTokenSum => exact absurd (.inr lossTypeIs) tokenwise
  | tokenMean =>
    simp only [aggregateLoss, lossTypeIs, sums, tokenShare, probeTuning, Bool.false_eq_true,
      if_false, if_true, neg_div]
  | tokenSum =>
    simp only [aggregateLoss, lossTypeIs, sums, tokenShare]
    rfl

theorem accumulatedLoss_singles (tokenwise : ¬AveragesSequences options)
    (filled : options.offPolicyMaskingDelta.isSome → 0 ∉ seqlens) :
    accumulatedLoss Real.exp options probeTuning false 1 (fun _ => 0) (unitBatch seqlens)
        (Cut.singles (unitBatch seqlens).length) =
      .ok (some (seqlens.map fun length =>
        -tokenShare options (1 / 100000000) length * (1 / (seqlens.length : ℝ))).sum) := by
  have losses : ∀ length ∈ seqlens,
      scaledLoss Real.exp options probeTuning false ⟨1, 0⟩ (unitBatch seqlens).length
        (unitBatch [length]) =
          .ok (some (-tokenShare options (1 / 100000000) length * (1 / (seqlens.length : ℝ)))) := by
    intro length member
    have last : LastFilled options [length] := fun isMasked => ⟨[], length, rfl,
      Nat.pos_of_ne_zero fun none => filled isMasked (none ▸ member)⟩
    have computed := computeLoss_unitBatch options last
    rw [aggregateLoss_units tokenwise, sum_singleton, probeWorkers] at computed
    rw [scaledLoss, seqlens_unitBatch, computed, length_unitBatch, length_unitBatch,
      length_singleton, Nat.cast_one]
    rfl
  have collected : ((Cut.singles (unitBatch seqlens).length).miniBatchIndex.zipIdx.mapM
      fun entry => scaledLoss Real.exp options probeTuning false ⟨1, 0⟩
        (unitBatch seqlens).length (samplesAt (unitBatch seqlens) entry.1)) =
      .ok (seqlens.map fun length =>
        some (-tokenShare options (1 / 100000000) length * (1 / (seqlens.length : ℝ)))) := by
    rw [mapM_eq_ok_iff, map_map]
    apply ext_getElem
    · simp [Cut.singles]
    · intro index _ inside
      rw [length_map] at inside
      simp only [Cut.singles, getElem_map, getElem_zipIdx, getElem_range, Function.comp_apply]
      rw [samplesAt_unitBatch, getD_eq_getElem?_getD, getElem?_eq_getElem inside,
        Option.getD_some, losses _ (getElem_mem inside)]
  have total := totalOf_map_some (seqlens.map fun length =>
    -tokenShare options (1 / 100000000) length * (1 / (seqlens.length : ℝ)))
  rw [map_map] at total
  rw [accumulatedLoss, collected]
  exact congrArg Except.ok total

theorem sum_shares_ne (several : 1 < seqlens.length)
    (tokens : seqlens.sum ≠ 0) (positive : 0 < slack) :
    (seqlens.map fun length => -tokenShare options slack length * (1 / (seqlens.length : ℝ))).sum ≠
      -tokenShare options slack seqlens.sum := by
  have rows : (0 : ℝ) < seqlens.length := Nat.cast_pos.mpr (Nat.lt_trans Nat.one_pos several)
  have within : ∀ length ∈ seqlens, length ≤ seqlens.sum := fun length member =>
    single_le_sum (fun _ _ => Nat.zero_le _) length member
  -- not every sample has all tokens
  have smaller : ∃ length ∈ seqlens, length < seqlens.sum := by
    by_contra none
    have all : ∀ length ∈ seqlens, length = seqlens.sum := by
      intro length member
      by_contra other
      exact none ⟨length, member, Nat.lt_of_le_of_ne (within length member) other⟩
    have total := sum_eq_card_nsmul seqlens seqlens.sum all
    rw [smul_eq_mul] at total
    have once : 1 * seqlens.sum < seqlens.length * seqlens.sum :=
      Nat.mul_lt_mul_of_pos_right several (Nat.pos_of_ne_zero tokens)
    omega
  have less : (seqlens.map fun length => tokenShare options slack length).sum <
      (seqlens.map fun _ => tokenShare options slack seqlens.sum).sum := by
    refine sum_lt_sum _ _ (fun length member => ?_) ?_
    · exact (strictMono_tokenShare positive).monotone (within length member)
    · obtain ⟨length, member, isLess⟩ := smaller
      exact ⟨length, member, strictMono_tokenShare positive isLess⟩
  rw [map_const', sum_replicate, nsmul_eq_mul] at less
  intro same
  simp only [neg_mul_comm] at same
  rw [sum_map_mul_right, mul_neg, neg_inj, mul_one_div, div_eq_iff (ne_of_gt rows)] at same
  rw [same, mul_comm] at less
  exact lt_irrefl _ less

/-- A batch whose samples are not alike for the loss has two cuts with different losses. -/
theorem not_splitInvariant (different : ¬SplitsAlike options seqlens) :
    ¬SplitInvariant Real.exp options seqlens := by
  intro invariant
  simp only [SplitsAlike, not_or, Nat.not_le] at different
  obtain ⟨several, tokens, lastKept, notMeans⟩ := different
  have positive : 0 < (unitBatch seqlens).length := by
    rw [length_unitBatch]
    exact Nat.lt_trans Nat.one_pos several
  have filled : LastFilled options seqlens := by
    intro isMasked
    obtain ⟨front, last, rfl⟩ := eq_nil_or_concat seqlens |>.resolve_left
      (ne_nil_of_length_pos (Nat.lt_trans Nat.one_pos several))
    refine ⟨front, last, concat_eq_append, Nat.pos_of_ne_zero fun none => lastKept ?_⟩
    rw [none, concat_eq_append, getLast?_concat]
    exact ⟨isMasked, rfl⟩
  have same := invariant probeTuning false 1 (fun _ => 0) (unitBatch seqlens)
    (seqlens_unitBatch seqlens) (Cut.whole positive) (Cut.singles (unitBatch seqlens).length)
  rw [accumulatedLoss_whole filled] at same
  by_cases empty : options.offPolicyMaskingDelta.isSome ∧ 0 ∈ seqlens
  · exact accumulatedLoss_singles_ne empty.1 empty.2 _ same.symm
  · have allFilled : options.offPolicyMaskingDelta.isSome → 0 ∉ seqlens := not_and.mp empty
    have tokenwise : ¬AveragesSequences options := fun averages =>
      notMeans ⟨averages, allFilled⟩
    rw [accumulatedLoss_singles tokenwise allFilled, aggregateLoss_units tokenwise,
      Except.ok.injEq, Option.some.injEq] at same
    exact sum_shares_ne several tokens (by norm_num) same.symm

end Units

/-- The accumulated loss of a step is the same for all cuts of its batch exactly if there is
only one cut or no trained token, every cut fails, or the loss is a mean over sequences. -/
theorem splitInvariant_iff (options : LossOptions ℝ) (seqlens : List Nat) :
    SplitInvariant Real.exp options seqlens ↔ SplitsAlike options seqlens :=
  ⟨fun invariant => by_contra fun different => not_splitInvariant different invariant,
    splitInvariant_of_alike⟩

def tokenwiseOptions (lossType : LossType) : LossOptions ℝ where
  variant := .grpo
  lossType := lossType
  unbiasedLossMaxTokens := none
  offPolicyMaskingDelta := none
  positiveNllCoef := none
  distillation := false
  klDiscountFactor := 0

/-- Samples of one and of three trained tokens: the sum over tokens is four in one mini-batch
and two in two mini-batches, and the mean over tokens differs as well. -/
theorem not_splitInvariant_twoSamples :
    accumulatedLoss Real.exp (tokenwiseOptions .tokenSum) probeTuning false 1 (fun _ => 0)
        (unitBatch [1, 3]) (Cut.whole Nat.two_pos) = .ok (some (-4)) ∧
      accumulatedLoss Real.exp (tokenwiseOptions .tokenSum) probeTuning false 1 (fun _ => 0)
        (unitBatch [1, 3]) (Cut.singles 2) = .ok (some (-2)) ∧
      ¬SplitInvariant Real.exp (tokenwiseOptions .tokenSum) [1, 3] ∧
      ¬SplitInvariant Real.exp (tokenwiseOptions .tokenMean) [1, 3] := by
  have tokenwise : ∀ lossType, lossType = .tokenSum ∨ lossType = .tokenMean →
      ¬AveragesSequences (tokenwiseOptions lossType) := by
    rintro _ (rfl | rfl) <;> simp [AveragesSequences, tokenwiseOptions]
  have different : ∀ lossType, lossType = .tokenSum ∨ lossType = .tokenMean →
      ¬SplitsAlike (tokenwiseOptions lossType) [1, 3] := by
    rintro lossType isTokenwise (small | none | ⟨isMasked, -⟩ | ⟨averages, -⟩)
    · exact absurd small (by decide)
    · exact absurd none (by decide)
    · cases isMasked
    · exact tokenwise lossType isTokenwise averages
  have unmasked : ∀ lossType, LastFilled (tokenwiseOptions lossType) [1, 3] :=
    fun lossType isMasked => by cases isMasked
  have summed : (tokenwiseOptions .tokenSum).lossType ≠ .tokenMean := by decide
  refine ⟨?_, ?_, not_splitInvariant (different _ (.inl rfl)),
    not_splitInvariant (different _ (.inr rfl))⟩
  · refine (accumulatedLoss_whole (unmasked .tokenSum) Nat.two_pos).trans ?_
    rw [aggregateLoss_units (tokenwise _ (.inl rfl))]
    norm_num [tokenShare, summed]
  · refine (accumulatedLoss_singles (tokenwise .tokenSum (.inl rfl))
      fun isMasked => by cases isMasked).trans ?_
    norm_num [tokenShare, summed]

end CosmosRl.Policy
