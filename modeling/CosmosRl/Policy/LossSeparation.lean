import CosmosRl.Policy.LossProbes

/-!
The groupings that the probes do not tell from one row.

If every probe has the same loss for the rows of a mini-batch and for all tokens in one
row, then the grouping is kept: whatever part of the loss reads the rows, some probe
notices them.
-/

namespace CosmosRl.Policy

open CosmosRl.Foundation List
open CosmosRl.Dispatcher (PyError)

section Probes

/-- The teacher's signal of a row: `lead` at its first token. -/
def headed (count : Nat) (lead : ℝ) : List ℝ :=
  (lead :: List.replicate count 0).take count

theorem length_headed (count : Nat) (lead : ℝ) : (headed count lead).length = count := by
  rw [headed, length_take, length_cons, length_replicate]
  omega

theorem headed_succ (count : Nat) (lead : ℝ) :
    headed (count + 1) lead = lead :: List.replicate count 0 := by
  rw [headed, take_succ_cons, take_replicate]
  congr 2
  omega

theorem headed_zero (count : Nat) : headed count 0 = List.replicate count 0 := by
  rw [headed, ← replicate_succ, take_replicate]
  congr 1
  omega

structure ProbeValues where
  currentOther : ℝ
  currentMarked : ℝ
  advantageOther : ℝ
  advantageMarked : ℝ
  lead : ℝ

/-- The signals of a probe that marks the row between `before` and `after`. -/
noncomputable def probeOf (values : ProbeValues) (before : List Nat) (count : Nat)
    (after : List Nat) : LossSignals ℝ :=
  probeSignals
    (marked before.sum count after.sum values.currentOther values.currentMarked)
    (marked before.sum count after.sum values.advantageOther values.advantageMarked)
    (List.replicate before.sum 0 ++ (headed count values.lead ++ List.replicate after.sum 0))
    (marked before.sum count after.sum 0 0)

def ProbesAgree (options : LossOptions ℝ) (seqlens : List Nat) : Prop :=
  ∀ before count after, seqlens = before ++ count :: after → ∀ values,
    probeLoss options seqlens.length seqlens (probeOf values before count after) =
      probeLoss options seqlens.length [seqlens.sum] (probeOf values before count after)

def EndsFilled (seqlens : List Nat) : Prop :=
  ∃ front last, seqlens = front ++ [last] ∧ 0 < last

theorem endsFilled_single {total : Nat} (filled : 0 < total) : EndsFilled [total] :=
  ⟨[], total, rfl, filled⟩

end Probes

section Still

variable (options : LossOptions ℝ) {seqlens : List Nat} {total : Nat}
  {advantages entropies : List ℝ}

theorem zipWith_congr_right {First Second Result : Type} {combine other : First → Second → Result}
    (firsts : List First) {seconds : List Second}
    (same : ∀ first, ∀ second ∈ seconds, combine first second = other first second) :
    List.zipWith combine firsts seconds = List.zipWith other firsts seconds := by
  induction firsts generalizing seconds with
  | nil => rfl
  | cons first firsts ih =>
    cases seconds with
    | nil => rfl
    | cons second seconds =>
      rw [zipWith_cons_cons, zipWith_cons_cons, same first second
        mem_cons_self, ih fun other later member =>
          same other later (mem_cons_of_mem _ member)]

theorem maskedLoss_of_nonneg {current teacher : List ℝ} (totalIs : seqlens.sum = total)
    (masks : options.offPolicyMaskingDelta.isSome → EndsFilled seqlens)
    (currentLength : current.length = total) (advantagesLength : advantages.length = total)
    (nonneg : ∀ advantage ∈ advantages, 0 ≤ advantage) :
    maskedLoss Real.exp options probeTuning seqlens
        (probeSignals current advantages teacher entropies) =
      .ok (List.zipWith (fun ratio advantage => -(ratio * advantage))
        (importanceRatio Real.exp options seqlens current) advantages) := by
  subst totalIs
  have weighted : weightedLoss Real.exp options probeTuning seqlens
      (probeSignals current advantages teacher entropies) =
      List.zipWith (fun ratio advantage => -(ratio * advantage))
        (importanceRatio Real.exp options seqlens current) advantages := by
    rw [weightedLoss_probe]
    exact zipWith_congr_right _ fun ratio advantage member =>
      tokenLoss_of_nonneg options ratio (nonneg advantage member)
  have weightedLength : (weightedLoss Real.exp options probeTuning seqlens
      (probeSignals current advantages teacher entropies)).length = seqlens.sum := by
    rw [weighted, length_zipWith, length_importanceRatio Real.exp options currentLength,
      advantagesLength, Nat.min_self]
  rw [maskedLoss]
  cases deltaIs : options.offPolicyMaskingDelta with
  | none => exact congrArg _ weighted
  | some delta =>
    obtain ⟨front, last, rfl, filled⟩ := masks (by rw [deltaIs]; rfl)
    dsimp only
    rw [← weighted]
    exact applyOffPolicyMask_of_nonneg delta filled weightedLength advantagesLength nonneg

/-- Without negative advantages and differences to the old policy, every token's loss is
its negative advantage. -/
theorem maskedLoss_still (totalIs : seqlens.sum = total)
    (masks : options.offPolicyMaskingDelta.isSome → EndsFilled seqlens)
    (advantagesLength : advantages.length = total)
    (nonneg : ∀ advantage ∈ advantages, 0 ≤ advantage) :
    maskedLoss Real.exp options probeTuning seqlens
        (probeSignals (List.replicate total 0) advantages (List.replicate total 0)
          entropies) =
      .ok (advantages.map fun advantage => -advantage) := by
  rw [maskedLoss_of_nonneg options totalIs masks length_replicate advantagesLength nonneg]
  subst totalIs
  rw [importanceRatio_replicate, ratioOf_zero, ← advantagesLength, zipWith_comm,
    zipWith_replicate]
  simp only [one_mul]

theorem probeLoss_still {rows : Nat} (totalIs : seqlens.sum = total)
    (masks : options.offPolicyMaskingDelta.isSome → EndsFilled seqlens)
    (rowsFit : UsesPositives options → rows = seqlens.length)
    (advantagesLength : advantages.length = total)
    (nonneg : ∀ advantage ∈ advantages, 0 ≤ advantage) :
    probeLoss options rows seqlens
        (probeSignals (List.replicate total 0) advantages (List.replicate total 0)
          entropies) =
      .ok (aggregateLoss options probeTuning probeWorkers seqlens
        (advantages.map fun advantage => -advantage)) := by
  rw [probeLoss_eq options (by rw [advantagesLength, length_replicate])
    (teacherAdvantages_zeros options totalIs length_replicate advantagesLength) rowsFit,
    maskedLoss_still options totalIs masks advantagesLength nonneg]
  rfl

theorem probeLoss_single_ne {rows : Nat} (someRow : 0 < rows)
    (masks : options.offPolicyMaskingDelta.isSome → 0 < total)
    (advantagesLength : advantages.length = total)
    (nonneg : ∀ advantage ∈ advantages, 0 ≤ advantage) :
    probeLoss options rows [total]
        (probeSignals (List.replicate total 0) advantages (List.replicate total 0)
          entropies) ≠ .error .indexError := by
  have masksEnd := fun isMasked => endsFilled_single (masks isMasked)
  by_cases misfit : UsesPositives options ∧ 1 < rows
  · rw [probeLoss_misfit options (by rw [advantagesLength, length_replicate])
      (teacherAdvantages_zeros options sum_singleton length_replicate advantagesLength)
      (maskedLoss_still options sum_singleton masksEnd advantagesLength nonneg)
      misfit.1 misfit.2]
    exact fun same => nomatch same
  · have rowsFit : UsesPositives options → rows = [total].length := by
      intro uses
      have notSeveral : ¬1 < rows := fun several => misfit ⟨uses, several⟩
      rw [length_singleton]
      omega
    rw [probeLoss_still options sum_singleton masksEnd rowsFit advantagesLength nonneg]
    exact fun same => nomatch same

end Still

section Separation

variable {options : LossOptions ℝ} {seqlens : List Nat}

variable {after : List Nat} {count : Nat}

theorem sum_of_split (before : List Nat) (split : seqlens = before ++ count :: after) :
    before.sum + (count + after.sum) = seqlens.sum := by
  rw [split, sum_append, sum_cons]

theorem probeOf_silent (before : List Nat) (split : seqlens = before ++ count :: after)
    (currentOther currentMarked advantageOther advantageMarked : ℝ) :
    probeOf ⟨currentOther, currentMarked, advantageOther, advantageMarked, 0⟩ before count
        after =
      probeSignals (marked before.sum count after.sum currentOther currentMarked)
        (marked before.sum count after.sum advantageOther advantageMarked)
        (List.replicate seqlens.sum 0) (List.replicate seqlens.sum 0) := by
  rw [probeOf, headed_zero, replicate_append_replicate, replicate_append_replicate,
    marked_self, sum_of_split before split]

theorem probeOf_still (before : List Nat)
    (split : seqlens = before ++ count :: after) (other value : ℝ) :
    probeOf ⟨0, 0, other, value, 0⟩ before count after =
      probeSignals (List.replicate seqlens.sum 0)
        (marked before.sum count after.sum other value) (List.replicate seqlens.sum 0)
        (List.replicate seqlens.sum 0) := by
  rw [probeOf_silent before split, marked_self, sum_of_split before split]

theorem marked_nonneg (before count after : Nat) {other value : ℝ} (otherNonneg : 0 ≤ other)
    (valueNonneg : 0 ≤ value) :
    ∀ advantage ∈ marked before count after other value, 0 ≤ advantage := by
  intro advantage member
  rcases mem_marked member with rfl | rfl
  · exact otherNonneg
  · exact valueNonneg

variable (agree : ProbesAgree options seqlens)
  (masks : options.offPolicyMaskingDelta.isSome → 0 < seqlens.sum)
include agree masks

theorem endsFilled_of_probesAgree (isMasked : options.offPolicyMaskingDelta.isSome) :
    EndsFilled seqlens := by
  obtain ⟨delta, deltaIs⟩ := Option.isSome_iff_exists.mp isMasked
  have filled := masks isMasked
  rcases eq_nil_or_concat seqlens with rfl | ⟨front, last, split⟩
  · cases filled
  · rw [concat_eq_append] at split
    rcases Nat.eq_zero_or_pos last with rfl | lastFilled
    · have same := agree front 0 [] split ⟨0, 0, 0, 0, 0⟩
      have advantagesLength : (marked front.sum 0 ([] : List Nat).sum (0 : ℝ) 0).length =
          seqlens.sum := by
        rw [length_marked, sum_of_split front split]
      have outside : maskedLoss Real.exp options probeTuning seqlens
          (probeSignals (List.replicate seqlens.sum 0)
            (marked front.sum 0 ([] : List Nat).sum (0 : ℝ) 0) (List.replicate seqlens.sum 0)
            (List.replicate seqlens.sum 0)) = .error .indexError := by
        rw [maskedLoss, deltaIs, split]
        exact applyOffPolicyMask_of_empty_last delta (advantagesLength.trans (by rw [split]))
      rw [probeOf_still front split, probeLoss_eq options
        (by rw [advantagesLength, length_replicate])
        (teacherAdvantages_zeros options rfl length_replicate advantagesLength) (fun _ => rfl),
        outside] at same
      exact absurd same.symm (probeLoss_single_ne options (by rw [split]; simp) (fun _ => filled)
        advantagesLength (marked_nonneg _ _ _ (le_refl 0) (le_refl 0)))
    · exact ⟨front, last, split, lastFilled⟩

theorem positives_of_probesAgree (nonempty : seqlens ≠ []) (uses : UsesPositives options) :
    seqlens.length = 1 := by
  obtain ⟨count, after, split⟩ := exists_cons_of_ne_nil nonempty
  have ends := endsFilled_of_probesAgree agree masks
  have someRow : 0 < seqlens.length := length_pos_iff.mpr nonempty
  by_contra several
  have same := agree [] count after split ⟨0, 0, 0, 0, 0⟩
  have advantagesLength : (marked ([] : List Nat).sum count after.sum (0 : ℝ) 0).length =
      seqlens.sum := by
    rw [length_marked, sum_of_split [] split]
  have nonneg := marked_nonneg ([] : List Nat).sum count after.sum (le_refl (0 : ℝ))
    (le_refl (0 : ℝ))
  rw [probeOf_still [] split,
    probeLoss_still options rfl ends (fun _ => rfl) advantagesLength nonneg,
    probeLoss_misfit options (by rw [advantagesLength, length_replicate])
      (teacherAdvantages_zeros options sum_singleton length_replicate advantagesLength)
      (maskedLoss_still options sum_singleton
        (fun isMasked => endsFilled_single (masks isMasked)) advantagesLength nonneg)
      uses (by omega)] at same
  cases same

theorem aggregateLoss_of_probesAgree (nonempty : seqlens ≠ []) (before after : List Nat)
    (count : Nat) (split : seqlens = before ++ count :: after) {other value : ℝ}
    (otherNonneg : 0 ≤ other) (valueNonneg : 0 ≤ value) :
    aggregateLoss options probeTuning probeWorkers seqlens
        (marked before.sum count after.sum (-other) (-value)) =
      aggregateLoss options probeTuning probeWorkers [seqlens.sum]
        (marked before.sum count after.sum (-other) (-value)) := by
  have same := agree before count after split ⟨0, 0, other, value, 0⟩
  have advantagesLength : (marked before.sum count after.sum other value).length =
      seqlens.sum := by
    rw [length_marked, sum_of_split before split]
  have nonneg := marked_nonneg before.sum count after.sum otherNonneg valueNonneg
  have negated : (marked before.sum count after.sum other value).map (fun entry => -entry) =
      marked before.sum count after.sum (-other) (-value) := by
    simp [marked]
  have rowsFit := positives_of_probesAgree agree masks nonempty
  rwa [probeOf_still before split,
    probeLoss_still options rfl (endsFilled_of_probesAgree agree masks) (fun _ => rfl)
      advantagesLength nonneg,
    probeLoss_still options sum_singleton
      (fun isMasked => endsFilled_single (masks isMasked)) rowsFit advantagesLength nonneg,
    negated, Except.ok.injEq] at same

end Separation

section Means

variable {options : LossOptions ℝ} {seqlens : List Nat}

theorem lossTypeKeeps_of_sum_zero (noTokens : seqlens.sum = 0) : LossTypeKeeps options seqlens := by
  rw [LossTypeKeeps]
  split
  · split
    · exact Or.inr noTokens
    · have empty : ∀ length ∈ seqlens, length = 0 := sum_eq_zero_iff.mp noTokens
      exact pairwise_of_forall_mem_list fun first firstMember second secondMember =>
        (empty first firstMember).trans (empty second secondMember).symm
  · exact Or.inr noTokens
  · trivial
  · trivial

theorem sum_of_means (before after : List Nat) {count : Nat} (filled : 0 < count) (value : ℝ) :
    (List.zipWith (fun (sum : ℝ) (length : Nat) => sum / (length : ℝ))
      (((before ++ count :: after).splitLengths
        (marked before.sum count after.sum 0 value)).map List.sum)
      (before ++ count :: after)).sum = value := by
  have zeros (lengths : List Nat) : (List.zipWith
      (fun (sum : ℝ) (length : Nat) => sum / (length : ℝ))
      ((lengths.splitLengths (List.replicate lengths.sum (0 : ℝ))).map List.sum)
      lengths).sum = 0 := by
    induction lengths with
    | nil => rfl
    | cons length lengths ih =>
      rw [sum_cons, ← replicate_append_replicate, splitLengths_cons,
        take_left' length_replicate, drop_left' length_replicate, map_cons, zipWith_cons_cons,
        sum_cons, ih, sum_replicate, nsmul_zero, zero_div, add_zero]
  have countNe : (count : ℝ) ≠ 0 := Nat.cast_ne_zero.mpr (Nat.ne_of_gt filled)
  rw [marked, splitLengths_append length_replicate, map_append,
    zipWith_append (by rw [length_map, length_splitLengths]), sum_append, zeros, zero_add,
    splitLengths_cons, take_left' length_replicate, drop_left' length_replicate, map_cons,
    zipWith_cons_cons, sum_cons, zeros, add_zero, sum_replicate, nsmul_eq_mul,
    mul_div_cancel_left₀ value countNe]

theorem eq_one_of_div {total : ℝ} {rows : Nat} (totalNe : total ≠ 0) (rowsNe : (rows : ℝ) ≠ 0)
    (same : total / rows = total) : rows = 1 := by
  rw [div_eq_iff rowsNe, eq_comm, mul_eq_left₀ totalNe] at same
  exact_mod_cast same

/-- The means over rows that agree with those over one row. -/
theorem lossTypeKeeps_of_aggregateLoss (filled : 0 < seqlens.sum)
    (same : ∀ before after count, seqlens = before ++ count :: after → ∀ {other value : ℝ},
      0 ≤ other → 0 ≤ value →
      aggregateLoss options probeTuning probeWorkers seqlens
          (marked before.sum count after.sum (-other) (-value)) =
        aggregateLoss options probeTuning probeWorkers [seqlens.sum]
          (marked before.sum count after.sum (-other) (-value))) :
    LossTypeKeeps options seqlens := by
  have nonempty : seqlens ≠ [] := by
    rintro rfl
    cases filled
  have totalNe : (seqlens.sum : ℝ) ≠ 0 := Nat.cast_ne_zero.mpr (Nat.ne_of_gt filled)
  have rowsNe : (seqlens.length : ℝ) ≠ 0 :=
    Nat.cast_ne_zero.mpr (Nat.ne_of_gt (length_pos_iff.mpr nonempty))
  obtain ⟨count, after, split⟩ := exists_cons_of_ne_nil nonempty
  have lengths := sum_of_split [] split
  have uniform := same [] after count split zero_le_one zero_le_one
  have tokensLength : (marked ([] : List Nat).sum count after.sum (-1 : ℝ) (-1)).length =
      seqlens.sum := by
    rw [length_marked, lengths]
  have tokensSum : (marked ([] : List Nat).sum count after.sum (-1 : ℝ) (-1)).sum =
      -(seqlens.sum : ℝ) := by
    rw [marked_self, lengths, sum_replicate, nsmul_eq_mul, mul_neg, mul_one]
  have rowsSum := (sum_splitLengths tokensLength).trans tokensSum
  rw [LossTypeKeeps]
  cases lossTypeIs : options.lossType with
  | tokenMean => trivial
  | tokenSum => trivial
  | seqMeanTokenSum =>
    simp only [aggregateLoss, lossTypeIs, splitLengths_single tokensLength, rowsSum,
      map_cons, map_nil, sum_singleton, tokensSum, length_singleton,
      Option.some.injEq, Nat.cast_one, div_one] at uniform
    exact Or.inl (eq_one_of_div (neg_ne_zero.mpr totalNe) rowsNe uniform)
  | seqMeanTokenMean =>
    dsimp only
    split
    next bounded =>
      have boundNe : ((options.unbiasedLossMaxTokens.getD 0).toNat : ℝ) ≠ 0 :=
        Nat.cast_ne_zero.mpr (by omega)
      simp only [aggregateLoss, lossTypeIs, if_pos bounded, splitLengths_single tokensLength,
        sum_map_div, rowsSum, map_cons, map_nil, sum_singleton, tokensSum,
        length_singleton, Option.some.injEq, Nat.cast_one, div_one] at uniform
      exact Or.inl (eq_one_of_div (div_ne_zero (neg_ne_zero.mpr totalNe) boundNe) rowsNe uniform)
    next unbounded =>
      have singleNe : 0 ∉ [seqlens.sum] := by
        rw [mem_singleton]
        exact Nat.ne_of_lt filled
      have notEmpty : 0 ∉ seqlens := by
        intro empty
        simp only [aggregateLoss, lossTypeIs, if_neg unbounded, if_pos empty,
          if_neg singleNe] at uniform
        cases uniform
      have share : ∀ length ∈ seqlens, (length : ℝ) * seqlens.length = seqlens.sum := by
        intro length member
        obtain ⟨front, back, lengthSplit⟩ := append_of_mem member
        have lengthFilled : 0 < length := Nat.pos_of_ne_zero fun empty => notEmpty (empty ▸ member)
        have means := same front back length lengthSplit (le_refl 0) zero_le_one
        have markedLength : (marked front.sum length back.sum (-0 : ℝ) (-1)).length =
            seqlens.sum := by
          rw [length_marked, sum_of_split front lengthSplit]
        have rowMeans := sum_of_means front back lengthFilled (-1)
        rw [← lengthSplit, ← neg_zero] at rowMeans
        simp only [aggregateLoss, lossTypeIs, if_neg unbounded, if_neg notEmpty,
          if_neg singleNe, splitLengths_single markedLength, map_cons, map_nil,
          zipWith_cons_cons, zipWith_nil_left, sum_singleton, length_singleton, Nat.cast_one,
          div_one, rowMeans, Option.some.injEq, sum_marked] at means
        rw [div_eq_div_iff rowsNe totalNe] at means
        linarith
      exact pairwise_of_forall_mem_list fun first firstMember second secondMember => by
        have equal := (share first firstMember).trans (share second secondMember).symm
        exact_mod_cast mul_right_cancel₀ rowsNe equal

/-- A loss of all tokens is a multiple of their sum. -/
theorem aggregateLoss_single_eq (options : LossOptions ℝ) {total : Nat} (filled : 0 < total) :
    ∃ factor : ℝ, factor ≠ 0 ∧ ∀ tokens : List ℝ, tokens.length = total →
      aggregateLoss options probeTuning probeWorkers [total] tokens =
        some (factor * tokens.sum) := by
  have totalNe : (total : ℝ) ≠ 0 := Nat.cast_ne_zero.mpr (Nat.ne_of_gt filled)
  cases lossTypeIs : options.lossType with
  | tokenSum =>
    refine ⟨1, one_ne_zero, fun tokens sameLength => ?_⟩
    simp only [aggregateLoss, lossTypeIs, splitLengths_single sameLength, map_cons,
      map_nil, sum_singleton, one_mul]
  | seqMeanTokenSum =>
    refine ⟨1, one_ne_zero, fun tokens sameLength => ?_⟩
    simp only [aggregateLoss, lossTypeIs, splitLengths_single sameLength, map_cons,
      map_nil, sum_singleton, length_singleton, Nat.cast_one, div_one, one_mul]
  | tokenMean =>
    have shiftedNe : (total : ℝ) + 1 / 100000000 ≠ 0 := by positivity
    refine ⟨1 / ((total : ℝ) + 1 / 100000000), one_div_ne_zero shiftedNe,
      fun tokens sameLength => ?_⟩
    simp only [aggregateLoss, lossTypeIs, probeTuning, splitLengths_single sameLength,
      map_cons, map_nil, sum_singleton, Bool.false_eq_true, if_false]
    rw [one_div_mul_eq_div]
  | seqMeanTokenMean =>
    by_cases bounded : 0 < options.unbiasedLossMaxTokens.getD 0
    · have boundNe : ((options.unbiasedLossMaxTokens.getD 0).toNat : ℝ) ≠ 0 :=
        Nat.cast_ne_zero.mpr (by omega)
      refine ⟨1 / ((options.unbiasedLossMaxTokens.getD 0).toNat : ℝ),
        one_div_ne_zero boundNe, fun tokens sameLength => ?_⟩
      simp only [aggregateLoss, lossTypeIs, if_pos bounded, splitLengths_single sameLength,
        map_cons, map_nil, sum_singleton, length_singleton, Nat.cast_one, div_one]
      rw [one_div_mul_eq_div]
    · have singleNe : 0 ∉ [total] := by
        rw [mem_singleton]
        exact Nat.ne_of_lt filled
      refine ⟨1 / (total : ℝ), one_div_ne_zero totalNe, fun tokens sameLength => ?_⟩
      simp only [aggregateLoss, lossTypeIs, if_neg bounded, if_neg singleNe,
        splitLengths_single sameLength, map_cons, map_nil, zipWith_cons_cons, zipWith_nil_left,
        sum_singleton, length_singleton, Nat.cast_one, div_one]
      rw [one_div_mul_eq_div]

theorem sum_eq_of_aggregateLoss (means : LossTypeKeeps options seqlens)
    (filled : 0 < seqlens.sum) {tokens others : List ℝ}
    (tokensLength : tokens.length = seqlens.sum) (othersLength : others.length = seqlens.sum)
    (same : aggregateLoss options probeTuning probeWorkers seqlens tokens =
      aggregateLoss options probeTuning probeWorkers [seqlens.sum] others) :
    tokens.sum = others.sum := by
  have nonempty : seqlens ≠ [] := by
    rintro rfl
    cases filled
  obtain ⟨factor, factorNe, single⟩ := aggregateLoss_single_eq options filled
  rw [aggregateLoss_single options probeTuning probeWorkers tokensLength nonempty means,
    single tokens tokensLength, single others othersLength, Option.some.injEq] at same
  exact mul_left_cancel₀ factorNe same

end Means

section Masking

variable {options : LossOptions ℝ} {seqlens : List Nat}

theorem exists_first_filled (filled : 0 < seqlens.sum) :
    ∃ empty count rest, seqlens = List.replicate empty 0 ++ count :: rest ∧ 0 < count := by
  induction seqlens with
  | nil => cases filled
  | cons length seqlens ih =>
    rcases Nat.eq_zero_or_pos length with rfl | lengthFilled
    · rw [sum_cons, Nat.zero_add] at filled
      obtain ⟨empty, count, rest, rfl, countFilled⟩ := ih filled
      exact ⟨empty + 1, count, rest, by rw [replicate_succ, cons_append], countFilled⟩
    · exact ⟨0, length, seqlens, rfl, lengthFilled⟩

theorem getD_marked_after {count others start : Nat} {other value : ℝ} (late : count ≤ start)
    (inside : start < count + others) :
    (marked 0 count others other value).getD start 0 = other := by
  rw [marked, replicate_zero, nil_append, getD_eq_getElem?_getD,
    getElem?_append_right (by rwa [length_replicate]), length_replicate,
    getElem?_replicate, if_pos (by omega), Option.getD_some]

theorem drop_marked {count others : Nat} (other value : ℝ) :
    (marked 0 count others other value).drop count = List.replicate others other := by
  rw [marked, replicate_zero, nil_append, drop_left' length_replicate]

/-- The probe of the first row with tokens: it alone has a negative advantage, and all
tokens differ from the old policy by `divergence`. -/
theorem maskedLoss_of_divergence {delta divergence : ℝ}
    (deltaIs : options.offPolicyMaskingDelta = some delta) (large : delta < divergence)
    (empty : Nat) {count others : Nat} (countFilled : 0 < count) {first : Nat} {rest : List Nat}
    (firstFilled : 0 < first) (total : first + rest.sum = count + others)
    (starts : ∀ start ∈ (List.scanl (· + ·) first rest).dropLast,
      count ≤ start ∧ start < count + others) (teacher entropies : List ℝ) :
    maskedLoss Real.exp options probeTuning (List.replicate empty 0 ++ first :: rest)
        (probeSignals (List.replicate (count + others) (-divergence))
          (marked 0 count others 1 (-1)) teacher entropies) =
      .ok (List.replicate first 0 ++
        (marked 0 count others (-ratioOf options (-divergence))
          (tokenLoss options probeTuning (ratioOf options (-divergence)) (-1))).drop first) := by
  have sums : (List.replicate empty 0 ++ first :: rest).sum = count + others := by
    rw [sum_append, sum_replicate_nat, Nat.mul_zero, Nat.zero_add, sum_cons, total]
  have weighted : weightedLoss Real.exp options probeTuning
      (List.replicate empty 0 ++ first :: rest)
      (probeSignals (List.replicate (count + others) (-divergence))
        (marked 0 count others 1 (-1)) teacher entropies) =
      marked 0 count others (-ratioOf options (-divergence))
        (tokenLoss options probeTuning (ratioOf options (-divergence)) (-1)) := by
    have uniform (value : ℝ) : List.replicate (count + others) value =
        marked 0 count others value value := by
      rw [marked_self, Nat.zero_add]
    rw [weightedLoss_probe, ← sums, importanceRatio_replicate, sums, uniform, zipWith_marked,
      tokenLoss_of_nonneg options _ zero_le_one, mul_one]
  rw [maskedLoss, deltaIs, weighted]
  dsimp only
  rw [applyOffPolicyMask_of_empty_front delta empty (cons_ne_nil _ _)]
  have firstAt : (marked 0 count others (1 : ℝ) (-1))[0]? = some (-1 : ℝ) := by
    obtain ⟨more, rfl⟩ := Nat.exists_eq_succ_of_ne_zero (Nat.ne_of_gt countFilled)
    rfl
  refine applyOffPolicyMask_of_negative delta firstFilled firstAt (by norm_num) ?_ large
    (by rw [length_marked, Nat.zero_add, total]) (by simp [probeSignals, total])
  intro start member
  obtain ⟨late, inside⟩ := starts start member
  rw [probeSignals, getD_marked_after late inside, length_marked, Nat.zero_add]
  exact ⟨inside, zero_le_one⟩

/-- With kept means, only the last row has tokens if tokens are masked. -/
theorem masking_of_probesAgree (agree : ProbesAgree options seqlens)
    (masks : options.offPolicyMaskingDelta.isSome → 0 < seqlens.sum)
    (means : LossTypeKeeps options seqlens) (isMasked : options.offPolicyMaskingDelta.isSome) :
    ∀ length ∈ seqlens.dropLast, length = 0 := by
  have filled := masks isMasked
  obtain ⟨front, last, endsIn, lastFilled⟩ := endsFilled_of_probesAgree agree masks isMasked
  obtain ⟨delta, deltaIs⟩ := Option.isSome_iff_exists.mp isMasked
  obtain ⟨empty, count, rest, split, countFilled⟩ := exists_first_filled filled
  have lengths := sum_of_split _ split
  rw [sum_replicate_nat, Nat.mul_zero, Nat.zero_add] at lengths
  rcases eq_nil_or_concat rest with rfl | ⟨inner, final, restSplit⟩
  · rw [split, dropLast_concat]
    exact fun length member => eq_of_mem_replicate member
  · rw [concat_eq_append] at restSplit
    have finalIs : final = last := by
      have ends := endsIn.symm.trans split
      rw [restSplit, ← cons_append, ← append_assoc] at ends
      exact (append_inj_right' ends rfl |> List.cons.inj).1.symm
    subst finalIs
    have large : delta < |delta| + 1 := lt_of_le_of_lt (le_abs_self delta) (lt_add_one _)
    have restSum : rest.sum = inner.sum + final := by
      rw [restSplit, sum_append, sum_singleton]
    have ratioPos := ratioOf_pos options (-(|delta| + 1))
    have signals : probeOf ⟨-(|delta| + 1), -(|delta| + 1), 1, -1, 0⟩
        (List.replicate empty 0) count rest =
        probeSignals (List.replicate (count + rest.sum) (-(|delta| + 1)))
          (marked 0 count rest.sum 1 (-1)) (List.replicate (count + rest.sum) 0)
          (List.replicate (count + rest.sum) 0) := by
      rw [probeOf, sum_replicate_nat, Nat.mul_zero, headed_zero, marked_self, marked_self,
        replicate_zero, nil_append, replicate_append_replicate, Nat.zero_add]
    have advantagesLength : (marked 0 count rest.sum (1 : ℝ) (-1)).length =
        count + rest.sum := by
      rw [length_marked, Nat.zero_add]
    have rowsFit := positives_of_probesAgree agree masks (by rw [split]; simp)
    have starts : ∀ start ∈ (List.scanl (· + ·) count rest).dropLast,
        count ≤ start ∧ start < count + rest.sum := by
      intro start member
      rw [restSplit, starts_append] at member
      have bounds := le_of_mem_scanl member
      omega
    have rowsMasked : maskedLoss Real.exp options probeTuning seqlens
        (probeSignals (List.replicate (count + rest.sum) (-(|delta| + 1)))
          (marked 0 count rest.sum 1 (-1)) (List.replicate (count + rest.sum) 0)
          (List.replicate (count + rest.sum) 0)) =
        .ok (List.replicate count 0 ++
          List.replicate rest.sum (-ratioOf options (-(|delta| + 1)))) := by
      rw [split, maskedLoss_of_divergence deltaIs large empty countFilled countFilled rfl starts,
        drop_marked]
    have allMasked : maskedLoss Real.exp options probeTuning [seqlens.sum]
        (probeSignals (List.replicate (count + rest.sum) (-(|delta| + 1)))
          (marked 0 count rest.sum 1 (-1)) (List.replicate (count + rest.sum) 0)
          (List.replicate (count + rest.sum) 0)) =
        .ok (List.replicate seqlens.sum 0) := by
      have masked := @maskedLoss_of_divergence options delta (|delta| + 1) deltaIs large 0 count
        rest.sum countFilled seqlens.sum [] filled lengths.symm (fun start member => nomatch member)
        (List.replicate (count + rest.sum) 0) (List.replicate (count + rest.sum) 0)
      rw [drop_of_length_le (by rw [length_marked, Nat.zero_add, lengths]),
        append_nil] at masked
      exact masked
    have same := agree _ count rest split ⟨-(|delta| + 1), -(|delta| + 1), 1, -1, 0⟩
    rw [signals, probeLoss_eq options (by rw [advantagesLength, length_replicate])
      (teacherAdvantages_zeros options lengths.symm length_replicate advantagesLength)
      (fun _ => rfl), probeLoss_eq options (by rw [advantagesLength, length_replicate])
      (teacherAdvantages_zeros options (sum_singleton.trans lengths.symm)
        length_replicate advantagesLength)
      rowsFit, rowsMasked, allMasked] at same
    have sums := sum_eq_of_aggregateLoss means filled
      (by rw [length_append, length_replicate, length_replicate, lengths])
      length_replicate (Except.ok.inj same)
    rw [sum_append, sum_replicate, sum_replicate, sum_replicate, nsmul_zero,
      nsmul_zero, zero_add, nsmul_eq_mul, mul_neg, neg_eq_zero, mul_eq_zero] at sums
    rcases sums with noOthers | noRatio
    · have others : rest.sum = 0 := by exact_mod_cast noOthers
      omega
    · exact absurd noRatio (ne_of_gt ratioPos)

end Masking

section Mixing

variable {options : LossOptions ℝ} {seqlens : List Nat}

theorem atMostOneFilled_of_dropLast (empty : ∀ length ∈ seqlens.dropLast, length = 0) :
    AtMostOneFilled seqlens := by
  rcases eq_nil_or_concat seqlens with rfl | ⟨front, last, split⟩
  · exact List.Pairwise.nil
  · rw [concat_eq_append] at split
    rw [split, dropLast_concat] at empty
    rw [split, AtMostOneFilled, pairwise_append]
    refine ⟨?_, pairwise_singleton _ _, fun first member _ _ => Or.inl (empty first member)⟩
    exact pairwise_of_forall_mem_list fun first member _ _ => Or.inl (empty first member)

theorem exists_filled_after_tokens (several : ¬AtMostOneFilled seqlens) :
    ∃ before count after, seqlens = before ++ (count + 1) :: after ∧ 0 < before.sum := by
  induction seqlens with
  | nil => exact absurd List.Pairwise.nil several
  | cons length seqlens ih =>
    rw [AtMostOneFilled, pairwise_cons, not_and_or] at several
    rcases several with headFilled | restSeveral
    · simp only [not_forall, not_or] at headFilled
      obtain ⟨other, member, lengthNe, otherNe⟩ := headFilled
      obtain ⟨more, rfl⟩ := Nat.exists_eq_succ_of_ne_zero otherNe
      obtain ⟨front, after, rfl⟩ := append_of_mem member
      exact ⟨length :: front, more, after, rfl, by rw [sum_cons]; omega⟩
    · obtain ⟨before, count, after, rfl, filled⟩ := ih restSeveral
      exact ⟨length :: before, count, after, rfl, by rw [sum_cons]; omega⟩

variable (unmasked : options.offPolicyMaskingDelta = none)
include unmasked

theorem probeLoss_unmasked {rows : Nat} {lengths : List Nat}
    {current advantages given teacher entropies : List ℝ}
    (sameLength : advantages.length = current.length)
    (distilled : teacherAdvantages options probeTuning lengths
      (probeSignals current given teacher entropies) = .ok advantages)
    (rowsFit : UsesPositives options → rows = lengths.length) :
    probeLoss options rows lengths (probeSignals current given teacher entropies) =
      .ok (aggregateLoss options probeTuning probeWorkers lengths
        (List.zipWith (tokenLoss options probeTuning)
          (importanceRatio Real.exp options lengths current) advantages)) := by
  rw [probeLoss_eq options sameLength distilled rowsFit, maskedLoss, unmasked]
  dsimp only
  rw [weightedLoss_probe]
  rfl

/-- A sequence's ratio is not that of all tokens, if the other ones differ. -/
theorem tokenwise_of_probesAgree (agree : ProbesAgree options seqlens)
    (means : LossTypeKeeps options seqlens) (several : ¬AtMostOneFilled seqlens) :
    options.variant ≠ .gspo := by
  intro sequences
  obtain ⟨before, count, after, split, filledBefore⟩ := exists_filled_after_tokens several
  have lengths := sum_of_split before split
  have filled : 0 < seqlens.sum := by omega
  have masks : options.offPolicyMaskingDelta.isSome → 0 < seqlens.sum := fun _ => filled
  have rowsFit := positives_of_probesAgree agree masks (by rw [split]; simp)
  have currentLength : (marked before.sum (count + 1) after.sum (1 : ℝ) 0).length =
      seqlens.sum := by
    rw [length_marked, lengths]
  have advantagesLength : (marked before.sum (count + 1) after.sum (0 : ℝ) 1).length =
      seqlens.sum := by
    rw [length_marked, lengths]
  -- the ratio of all tokens as one sequence
  obtain ⟨ratio, ratioIs⟩ : ∃ ratio, ratio = sequenceRatio Real.exp
    ((marked before.sum (count + 1) after.sum (1 : ℝ) 0).sum / seqlens.sum) := ⟨_, rfl⟩
  have uniform : List.replicate seqlens.sum ratio =
      marked before.sum (count + 1) after.sum ratio ratio := by
    rw [marked_self, lengths]
  have same := agree before (count + 1) after split ⟨1, 0, 0, 1, 0⟩
  rw [probeOf_silent before split,
    probeLoss_unmasked unmasked (by rw [advantagesLength, currentLength])
      (teacherAdvantages_zeros options rfl currentLength advantagesLength) (fun _ => rfl),
    probeLoss_unmasked unmasked (by rw [advantagesLength, currentLength])
      (teacherAdvantages_zeros options sum_singleton currentLength advantagesLength)
      rowsFit,
    importanceRatio_single_gspo options sequences currentLength, ← ratioIs, uniform,
    zipWith_marked] at same
  conv at same => lhs; rw [split, importanceRatio_marked, ← split, zipWith_marked, ratioOf_zero]
  have sums := sum_eq_of_aggregateLoss means filled (by rw [length_marked, lengths])
    (by rw [length_marked, lengths]) (Except.ok.inj same)
  rw [tokenLoss_of_nonneg options _ (le_refl 0), tokenLoss_of_nonneg options _ zero_le_one,
    tokenLoss_of_nonneg options _ (le_refl 0), tokenLoss_of_nonneg options _ zero_le_one,
    sum_marked, sum_marked] at sums
  have countNe : ((count + 1 : Nat) : ℝ) ≠ 0 := Nat.cast_ne_zero.mpr (Nat.succ_ne_zero count)
  have ratioOne : ratio = 1 := by
    apply mul_left_cancel₀ countNe
    linarith
  have meanPos : 0 < (marked before.sum (count + 1) after.sum (1 : ℝ) 0).sum / seqlens.sum := by
    have beforePos : (0 : ℝ) < before.sum := Nat.cast_pos.mpr filledBefore
    have totalPos : (0 : ℝ) < seqlens.sum := Nat.cast_pos.mpr filled
    rw [sum_marked]
    positivity
  have clampPos : 0 < clamp none (some 10)
      ((marked before.sum (count + 1) after.sum (1 : ℝ) 0).sum / seqlens.sum) :=
    lt_min meanPos (by norm_num)
  rw [ratioIs, sequenceRatio, Real.exp_eq_one_iff] at ratioOne
  exact absurd ratioOne (ne_of_gt clampPos)

end Mixing

section Discounting

noncomputable def positiveSum (advantages : List ℝ) : ℝ :=
  (advantages.map fun advantage => max advantage 0).sum

theorem positiveSum_cons_ge (advantage : ℝ) (advantages : List ℝ) :
    positiveSum advantages ≤ positiveSum (advantage :: advantages) := by
  rw [positiveSum, positiveSum, map_cons, sum_cons]
  exact le_add_of_nonneg_left (le_max_right _ _)

theorem positiveSum_zeros (count : Nat) (advantages : List ℝ) :
    positiveSum (List.replicate count 0 ++ advantages) = positiveSum advantages := by
  rw [positiveSum, positiveSum, map_append, sum_append, map_replicate,
    sum_replicate, max_self, nsmul_zero, zero_add]

theorem length_discountedFutureSum (gamma : ℝ) (values : List ℝ) :
    (discountedFutureSum gamma values).length = values.length := by
  induction values with
  | nil => rfl
  | cons value values ih =>
    rw [discountedFutureSum, length_cons, ih, length_cons]

theorem discountedFutureSum_lead (gamma lead : ℝ) (count : Nat) :
    discountedFutureSum gamma (lead :: List.replicate count 0) =
      lead :: List.replicate count 0 := by
  rw [discountedFutureSum, discountedFutureSum_zeros]
  cases count <;> simp [replicate_succ]

theorem positiveSum_lt_discounted {gamma : ℝ} (discounts : gamma ≠ 0) (before count : Nat) :
    positiveSum (gamma :: List.replicate count 0) <
      positiveSum (discountedFutureSum gamma
        (List.replicate (before + 1) 0 ++ gamma :: List.replicate count 0)) := by
  induction before with
  | zero =>
    have received : 0 < gamma * gamma := mul_self_pos.mpr discounts
    rw [replicate_one, singleton_append, discountedFutureSum,
      discountedFutureSum_lead, headD_cons, zero_add]
    conv_rhs => rw [positiveSum, map_cons, sum_cons, max_eq_left (le_of_lt received)]
    exact lt_add_of_pos_left _ received
  | succ before ih =>
    rw [replicate_succ, cons_append, discountedFutureSum]
    exact lt_of_lt_of_le ih (positiveSum_cons_ge _ _)

variable {options : LossOptions ℝ} {seqlens : List Nat} {lengths : List Nat} {advantages : List ℝ}

theorem discounted_rows (gamma lead : ℝ) (before after : List Nat) (count : Nat) :
    ((before ++ (count + 1) :: after).splitLengths (List.replicate before.sum 0 ++
        (headed (count + 1) lead ++ List.replicate after.sum 0))).flatMap
      (discountedFutureSum gamma) =
    List.replicate before.sum 0 ++ (headed (count + 1) lead ++ List.replicate after.sum 0) := by
  have single := discountedFutureSum_lead gamma lead count
  rw [← headed_succ] at single
  rw [splitLengths_append length_replicate, flatMap_append, discounted_zeros,
    splitLengths_cons, take_left' (length_headed _ _),
    drop_left' (length_headed _ _), flatMap_cons, discounted_zeros, single]

variable (options) in
theorem length_tokenLoss_still {total : Nat} (totalIs : lengths.sum = total)
    (advantagesLength : advantages.length = total) :
    (List.zipWith (tokenLoss options probeTuning)
      (importanceRatio Real.exp options lengths (List.replicate total 0))
      advantages).length = total := by
  subst totalIs
  rw [length_zipWith, importanceRatio_replicate, length_replicate, advantagesLength,
    Nat.min_self]

/-- Without clipping and differences to the old policy, only positive advantages have a
loss. -/
theorem sum_tokenLoss_still (tokenwise : options.variant ≠ .gspo)
    {total : Nat} (totalIs : lengths.sum = total) (advantagesLength : advantages.length = total) :
    (List.zipWith (tokenLoss options probeTuning)
        (importanceRatio Real.exp options lengths (List.replicate total 0))
        advantages).sum = -positiveSum advantages := by
  subst totalIs
  have losses : (fun advantage => tokenLoss options probeTuning 1 advantage) =
      fun advantage => -max advantage 0 := funext (tokenLoss_one options tokenwise)
  rw [importanceRatio_replicate, ratioOf_zero, ← advantagesLength, zipWith_comm,
    zipWith_replicate, losses, positiveSum, sum_neg, map_map]
  rfl

/-- Tokens of other rows receive the signals of the teacher in one row. -/
theorem undiscounted_of_probesAgree (agree : ProbesAgree options seqlens)
    (unmasked : options.offPolicyMaskingDelta = none) (means : LossTypeKeeps options seqlens)
    (tokenwise : options.variant ≠ .gspo) (several : ¬AtMostOneFilled seqlens)
    (distills : options.distillation = true) : options.klDiscountFactor = 0 := by
  by_contra discounts
  obtain ⟨before, count, after, split, filledBefore⟩ := exists_filled_after_tokens several
  have lengths := sum_of_split before split
  have filled : 0 < seqlens.sum := by omega
  have masks : options.offPolicyMaskingDelta.isSome → 0 < seqlens.sum := fun _ => filled
  have rowsFit := positives_of_probesAgree agree masks (by rw [split]; simp)
  -- the signals of the teacher, as the rows leave them and as one row discounts them
  obtain ⟨teacher, teacherIs⟩ : ∃ teacher, teacher = List.replicate before.sum 0 ++
    (headed (count + 1) options.klDiscountFactor ++ List.replicate after.sum 0) := ⟨_, rfl⟩
  have teacherLength : teacher.length = seqlens.sum := by
    rw [teacherIs, length_append, length_append, length_replicate,
      length_replicate, length_headed, lengths]
  have zeros : marked before.sum (count + 1) after.sum (0 : ℝ) 0 =
      List.replicate seqlens.sum 0 := by
    rw [marked_self, lengths]
  have added {values : List ℝ} (sameLength : values.length = seqlens.sum) :
      List.zipWith (· + ·) (List.replicate seqlens.sum 0) values = values := by
    rw [← sameLength, zipWith_comm, zipWith_replicate]
    simp
  have signals : probeOf ⟨0, 0, 0, 0, options.klDiscountFactor⟩ before (count + 1) after =
      probeSignals (List.replicate seqlens.sum 0) (List.replicate seqlens.sum 0) teacher
        (List.replicate seqlens.sum 0) := by
    rw [probeOf, ← teacherIs, zeros]
  have rowsDiscounted : teacherAdvantages options probeTuning seqlens
      (probeSignals (List.replicate seqlens.sum 0) (List.replicate seqlens.sum 0) teacher
        (List.replicate seqlens.sum 0)) = .ok teacher := by
    have discounted := discounted_rows options.klDiscountFactor options.klDiscountFactor before
      after count
    rw [← teacherIs, ← split] at discounted
    rw [teacherAdvantages_probe options length_replicate length_replicate
      teacherLength, if_pos distills, if_neg discounts, discounted, added teacherLength]
  have rowDiscounted : teacherAdvantages options probeTuning [seqlens.sum]
      (probeSignals (List.replicate seqlens.sum 0) (List.replicate seqlens.sum 0) teacher
        (List.replicate seqlens.sum 0)) =
      .ok (discountedFutureSum options.klDiscountFactor teacher) := by
    have single := @teacherAdvantages_probe options [seqlens.sum]
      (List.replicate seqlens.sum 0) (List.replicate seqlens.sum 0) teacher
      (List.replicate seqlens.sum 0) (by rw [length_replicate, sum_singleton])
      (by rw [length_replicate, sum_singleton])
      (by rw [teacherLength, sum_singleton])
    rw [single, if_pos distills, if_neg discounts, splitLengths_single teacherLength,
      flatMap_singleton, added ((length_discountedFutureSum _ _).trans teacherLength)]
  have discountedLength := (length_discountedFutureSum options.klDiscountFactor teacher).trans
    teacherLength
  have same := agree before (count + 1) after split ⟨0, 0, 0, 0, options.klDiscountFactor⟩
  rw [signals,
    probeLoss_unmasked unmasked (by rw [teacherLength, length_replicate]) rowsDiscounted
      (fun _ => rfl),
    probeLoss_unmasked unmasked (by rw [discountedLength, length_replicate]) rowDiscounted
      rowsFit] at same
  have sums := sum_eq_of_aggregateLoss means filled
    (length_tokenLoss_still options rfl teacherLength)
    (length_tokenLoss_still options sum_singleton discountedLength) (Except.ok.inj same)
  rw [sum_tokenLoss_still tokenwise rfl teacherLength,
    sum_tokenLoss_still tokenwise sum_singleton discountedLength, neg_inj] at sums
  obtain ⟨more, moreIs⟩ := Nat.exists_eq_succ_of_ne_zero (Nat.ne_of_gt filledBefore)
  have larger := positiveSum_lt_discounted discounts more (count + after.sum)
  have tail : headed (count + 1) options.klDiscountFactor ++ List.replicate after.sum 0 =
      options.klDiscountFactor :: List.replicate (count + after.sum) 0 := by
    rw [headed_succ, cons_append, replicate_append_replicate]
  rw [teacherIs, tail, positiveSum_zeros, moreIs] at sums
  exact absurd sums (ne_of_lt larger)

theorem groupingKept_of_probesAgree (nonempty : seqlens ≠ [])
    (agree : ProbesAgree options seqlens) : GroupingKept options seqlens := by
  by_cases undecided : options.offPolicyMaskingDelta.isSome ∧ seqlens.sum = 0
  · have empty : ∀ length ∈ seqlens, length = 0 := sum_eq_zero_iff.mp undecided.2
    have masking : ∀ length ∈ seqlens.dropLast, length = 0 := fun length member =>
      empty length (dropLast_subset seqlens member)
    exact ⟨fun _ => Or.inr undecided, fun _ => masking,
      fun _ => atMostOneFilled_of_dropLast masking, lossTypeKeeps_of_sum_zero undecided.2⟩
  · have masks : options.offPolicyMaskingDelta.isSome → 0 < seqlens.sum := fun isMasked =>
      Nat.pos_of_ne_zero fun noTokens => undecided ⟨isMasked, noTokens⟩
    have means : LossTypeKeeps options seqlens := by
      rcases Nat.eq_zero_or_pos seqlens.sum with noTokens | filled
      · exact lossTypeKeeps_of_sum_zero noTokens
      · exact lossTypeKeeps_of_aggregateLoss filled fun before after count split _ _ =>
          aggregateLoss_of_probesAgree agree masks nonempty before after count split
    have masking := masking_of_probesAgree agree masks means
    refine ⟨fun uses => Or.inl (positives_of_probesAgree agree masks nonempty uses), masking,
      ?_, means⟩
    intro mixes
    cases deltaIs : options.offPolicyMaskingDelta with
    | some delta => exact atMostOneFilled_of_dropLast (masking (by rw [deltaIs]; rfl))
    | none =>
      by_contra several
      have tokenwise := tokenwise_of_probesAgree deltaIs agree means several
      rcases mixes with sequences | ⟨distills, discounts⟩
      · exact tokenwise sequences
      · exact discounts (undiscounted_of_probesAgree agree deltaIs means tokenwise several distills)

end Discounting

end CosmosRl.Policy
