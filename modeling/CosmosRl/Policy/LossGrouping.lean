import CosmosRl.Policy.GrpoLoss
import Mathlib.Algebra.Order.BigOperators.Group.List
import Mathlib.Tactic.FieldSimp
import Mathlib.Tactic.Ring

/-!
When the loss does not depend on how the trained tokens are grouped into rows.

Packing makes one row of all rows.  Every part of the loss that reads the rows has its
own condition on their numbers of tokens under which it does not notice.
-/

namespace CosmosRl.Policy

open CosmosRl.Dispatcher (PyError)
open List

section Conditions

variable {Value : Type} [Field Value] [LinearOrder Value] (options : LossOptions Value)

def AtMostOneFilled (seqlens : List Nat) : Prop :=
  seqlens.Pairwise fun first second => first = 0 ∨ second = 0

instance (seqlens : List Nat) : Decidable (AtMostOneFilled seqlens) :=
  inferInstanceAs (Decidable (seqlens.Pairwise fun first second => first = 0 ∨ second = 0))

def LossTypeKeeps (seqlens : List Nat) : Prop :=
  match options.lossType with
  | .seqMeanTokenMean =>
    if 0 < options.unbiasedLossMaxTokens.getD 0 then seqlens.length = 1 ∨ seqlens.sum = 0
    else seqlens.Pairwise fun first second => first = second
  | .seqMeanTokenSum => seqlens.length = 1 ∨ seqlens.sum = 0
  | .tokenMean | .tokenSum => True

def UsesPositives : Prop := ∃ coefficient, options.positiveNllCoef = some coefficient ∧
  0 < coefficient

def MixesTokens : Prop :=
  options.variant = .gspo ∨ (options.distillation = true ∧ options.klDiscountFactor ≠ 0)

/-- The options and the numbers of tokens for which one row gives the loss of all rows.
Without any tokens to mask, both fail before they come to the flags. -/
structure GroupingKept (seqlens : List Nat) : Prop where
  positives : UsesPositives options →
    seqlens.length = 1 ∨ (options.offPolicyMaskingDelta.isSome ∧ seqlens.sum = 0)
  masking : options.offPolicyMaskingDelta.isSome → ∀ length ∈ seqlens.dropLast, length = 0
  mixing : MixesTokens options → AtMostOneFilled seqlens
  means : LossTypeKeeps options seqlens

end Conditions

section Segments

variable {Entry Result : Type}

variable {tokens : List Entry}

theorem splitLengths_single {count : Nat}
    (sameLength : tokens.length = count) : [count].splitLengths tokens = [tokens] := by
  rw [splitLengths_cons, splitLengths_nil, take_of_length_le (Nat.le_of_eq sameLength)]

theorem flatMap_splitLengths {seqlens : List Nat} (single : AtMostOneFilled seqlens)
    (sameLength : tokens.length = seqlens.sum)
    {transform : List Entry → List Result} (emptyRow : transform [] = []) :
    (seqlens.splitLengths tokens).flatMap transform = transform tokens := by
  induction seqlens generalizing tokens with
  | nil =>
    rw [sum_nil, length_eq_zero_iff] at sameLength
    rw [sameLength, splitLengths_nil, emptyRow]
    rfl
  | cons length seqlens ih =>
    obtain ⟨others, restSingle⟩ := pairwise_cons.mp single
    rw [sum_cons] at sameLength
    rw [splitLengths_cons, flatMap_cons]
    rcases Nat.eq_zero_or_pos length with rfl | filled
    · rw [take_zero, emptyRow, nil_append, drop_zero, ih restSingle (by omega)]
    · have restEmpty : seqlens.sum = 0 := by
        apply sum_eq_zero
        exact fun other member => (others other member).resolve_left (Nat.ne_of_gt filled)
      rw [take_of_length_le (by omega), drop_eq_nil_of_le (by omega),
        ih restSingle (by simp [restEmpty]), emptyRow, append_nil]

end Segments

section Parts

variable {Value : Type} [Field Value] [LinearOrder Value] [IsStrictOrderedRing Value]
  (exp : Value → Value) (options : LossOptions Value) (tuning : LossTuning Value)
  {seqlens : List Nat}

omit [IsStrictOrderedRing Value]

omit [LinearOrder Value] in
theorem sum_splitLengths {tokens : List Value} (sameLength : tokens.length = seqlens.sum) :
    ((seqlens.splitLengths tokens).map List.sum).sum = tokens.sum := by
  rw [← sum_flatten, flatten_splitLengths _ _ (Nat.le_of_eq sameLength)]

theorem importanceRatio_single (mixing : MixesTokens options → AtMostOneFilled seqlens)
    {negativeApproxKl : List Value} (sameLength : negativeApproxKl.length = seqlens.sum) :
    importanceRatio exp options seqlens negativeApproxKl =
      importanceRatio exp options [seqlens.sum] negativeApproxKl := by
  cases variantIs : options.variant with
  | grpo => simp only [importanceRatio, variantIs]
  | dapo => simp only [importanceRatio, variantIs]
  | gspo =>
    have single := mixing (Or.inl variantIs)
    simp only [importanceRatio, variantIs]
    rw [flatMap_splitLengths single sameLength (by simp), splitLengths_single sameLength,
      flatMap_singleton]

theorem starts_cons (length : Nat) (seqlens : List Nat) :
    (List.scanl (· + ·) 0 (length :: seqlens)).dropLast =
      0 :: (List.scanl (· + ·) length seqlens).dropLast := by
  rw [scanl_cons, Nat.zero_add, dropLast_cons_of_ne_nil]
  exact ne_nil_of_length_pos (by rw [length_scanl]; omega)

omit [Field Value] [LinearOrder Value] in
theorem gather_cons (values : List Value) (position : Nat) (positions : List Nat) :
    gather values (position :: positions) =
      match values[position]? with
      | none => .error .indexError
      | some value => (gather values positions).map fun rest => value :: rest := by
  rw [gather, mapM_cons]
  cases values[position]? with
  | none => rfl
  | some value =>
    rw [gather]
    cases (positions.mapM _ : Except PyError (List Value)) <;> rfl

theorem applyOffPolicyMask_cons_zero (delta : Value) (nonempty : seqlens ≠ [])
    (perTokenLoss maskingSource current advantages : List Value) :
    applyOffPolicyMask delta (0 :: seqlens) perTokenLoss maskingSource current advantages =
      applyOffPolicyMask delta seqlens perTokenLoss maskingSource current advantages := by
  obtain ⟨length, rest, rfl⟩ := exists_cons_of_ne_nil nonempty
  rw [applyOffPolicyMask, applyOffPolicyMask, starts_cons, starts_cons, gather_cons, gather_cons]
  cases advantages[0]? with
  | none => rfl
  | some first =>
    dsimp only
    cases gather advantages (List.scanl (· + ·) length rest).dropLast with
    | error exn => rfl
    | ok others =>
      simp [Except.map, splitLengths_cons]

theorem applyOffPolicyMask_single (delta : Value) (nonempty : seqlens ≠ [])
    (masking : ∀ length ∈ seqlens.dropLast, length = 0)
    (perTokenLoss maskingSource current advantages : List Value) :
    applyOffPolicyMask delta seqlens perTokenLoss maskingSource current advantages =
      applyOffPolicyMask delta [seqlens.sum] perTokenLoss maskingSource current advantages := by
  induction seqlens with
  | nil => exact absurd rfl nonempty
  | cons length seqlens ih =>
    cases seqlens with
    | nil => rw [sum_cons, sum_nil, Nat.add_zero]
    | cons next rest =>
      have empty : length = 0 := masking length (by simp)
      subst empty
      rw [applyOffPolicyMask_cons_zero delta (cons_ne_nil _ _),
        ih (cons_ne_nil _ _), sum_cons (a := 0), Nat.zero_add]
      intro other member
      exact masking other (by
        rw [dropLast_cons_of_ne_nil (cons_ne_nil _ _)]
        exact mem_cons_of_mem _ member)

theorem computeTeacherKlAdvantages_single
    (mixing : options.distillation = true ∧ options.klDiscountFactor ≠ 0 →
      AtMostOneFilled seqlens) (distills : options.distillation = true)
    (currentLogprobs teacherLogprobs advantages : List Value) :
    computeTeacherKlAdvantages options tuning seqlens currentLogprobs teacherLogprobs
        advantages =
      computeTeacherKlAdvantages options tuning [seqlens.sum] currentLogprobs teacherLogprobs
        advantages := by
  rw [computeTeacherKlAdvantages, computeTeacherKlAdvantages, sum_singleton]
  by_cases shapes : currentLogprobs.length = teacherLogprobs.length ∧
      teacherLogprobs.length = advantages.length
  · rw [if_pos shapes, if_pos shapes]
    by_cases total : seqlens.sum = currentLogprobs.length
    · rw [if_pos total, if_pos total]
      dsimp only
      by_cases undiscounted : options.klDiscountFactor = 0
      · rw [if_pos undiscounted, if_pos undiscounted]
      · have sameLength : (List.zipWith
            (fun current teacher => -tuning.klPenaltyCoef * (current - teacher))
            currentLogprobs teacherLogprobs).length = seqlens.sum := by
          rw [length_zipWith, total]
          omega
        rw [if_neg undiscounted, if_neg undiscounted,
          flatMap_splitLengths (mixing ⟨distills, undiscounted⟩) sameLength rfl,
          splitLengths_single sameLength, flatMap_singleton]
    · rw [if_neg total, if_neg total]
  · rw [if_neg shapes, if_neg shapes]

end Parts

section Means

variable {Value : Type} [Field Value] [LinearOrder Value] [IsStrictOrderedRing Value]
  (options : LossOptions Value) (tuning : LossTuning Value) (workers : DpWorkers)
  {seqlens : List Nat} {tokens : List Value}

omit [LinearOrder Value] [IsStrictOrderedRing Value] in
theorem sum_map_div (values : List Value) (divisor : Value) :
    (values.map fun value => value / divisor).sum = values.sum / divisor := by
  induction values with
  | nil => simp
  | cons value values ih =>
    rw [map_cons, sum_cons, sum_cons, ih, add_div]

theorem zipWith_replicate {First Second Result : Type} (combine : First → Second → Result)
    (values : List First) (other : Second) :
    List.zipWith combine values (List.replicate values.length other) =
      values.map fun value => combine value other := by
  induction values with
  | nil => rfl
  | cons value values ih =>
    rw [length_cons, replicate_succ, zipWith_cons_cons, ih, map_cons]

/-- The loss of all tokens taken as one row. -/
theorem aggregateLoss_single (sameLength : tokens.length = seqlens.sum)
    (nonempty : seqlens ≠ []) (means : LossTypeKeeps options seqlens) :
    aggregateLoss options tuning workers seqlens tokens =
      aggregateLoss options tuning workers [seqlens.sum] tokens := by
  have total := sum_splitLengths sameLength
  have single := splitLengths_single sameLength
  have oneRow : seqlens.length = 1 → seqlens = [seqlens.sum] := by
    intro one
    obtain ⟨length, rfl⟩ := length_eq_one_iff.mp one
    rw [sum_singleton]
  have noTokens : seqlens.sum = 0 → tokens.sum = 0 := by
    intro none
    rw [length_eq_zero_iff.mp (sameLength.trans none), sum_nil]
  rw [LossTypeKeeps] at means
  cases lossTypeIs : options.lossType with
  | tokenSum =>
    simp only [aggregateLoss, lossTypeIs, single, total, map_cons, map_nil, sum_singleton]
  | tokenMean =>
    simp only [aggregateLoss, lossTypeIs, single, total, map_cons, map_nil, sum_singleton]
  | seqMeanTokenSum =>
    rw [lossTypeIs] at means
    rcases means with one | none
    · rw [← oneRow one]
    · simp only [aggregateLoss, lossTypeIs, single, total, map_cons, map_nil,
        sum_singleton, noTokens none, zero_div]
  | seqMeanTokenMean =>
    rw [lossTypeIs] at means
    dsimp only at means
    split at means
    next bounded =>
      rcases means with one | none
      · rw [← oneRow one]
      · simp only [aggregateLoss, lossTypeIs, if_pos bounded, single, sum_map_div, total,
          map_cons, map_nil, sum_singleton, noTokens none, zero_div]
    next unbounded =>
      obtain ⟨length, rest, rfl⟩ := exists_cons_of_ne_nil nonempty
      have same : ∀ other ∈ length :: rest, other = length := by
        intro other member
        rcases mem_cons.mp member with rfl | later
        · rfl
        · exact (rel_of_pairwise_cons means later).symm
      generalize seqlensIs : length :: rest = seqlens at *
      have equal : seqlens = List.replicate seqlens.length length :=
        eq_replicate_iff.mpr ⟨rfl, same⟩
      have member : length ∈ seqlens := seqlensIs ▸ mem_cons_self
      have sum : seqlens.sum = seqlens.length * length := by
        conv_lhs => rw [equal]
        rw [sum_replicate_nat]
      simp only [aggregateLoss, lossTypeIs, if_neg unbounded, single, map_cons,
        map_nil, zipWith_cons_cons, zipWith_nil_left, sum_singleton,
        length_singleton, Nat.cast_one, div_one, mem_singleton]
      rcases Nat.eq_zero_or_pos length with rfl | filled
      · rw [if_pos member, if_pos (by rw [sum, Nat.mul_zero])]
      · have rows : 0 < seqlens.length := length_pos_of_mem member
        have notEmpty : 0 ∉ seqlens := fun empty => absurd (same 0 empty) (Nat.ne_of_lt filled)
        have sumPositive : 0 < seqlens.sum := by
          rw [sum]
          exact Nat.mul_pos rows filled
        have divided := zipWith_replicate (fun (value : Value) (count : Nat) =>
          value / (count : Value)) ((seqlens.splitLengths tokens).map List.sum) length
        rw [length_map, length_splitLengths, ← equal] at divided
        rw [if_neg notEmpty, if_neg (Nat.ne_of_lt sumPositive), divided, sum_map_div, total, sum]
        have lengthNe : (length : Value) ≠ 0 := Nat.cast_ne_zero.mpr (Nat.ne_of_gt filled)
        have rowsNe : (seqlens.length : Value) ≠ 0 := Nat.cast_ne_zero.mpr (Nat.ne_of_gt rows)
        push_cast
        field_simp

end Means

section Whole

variable {Value : Type} [Field Value] [LinearOrder Value] [IsStrictOrderedRing Value]
  (exp : Value → Value) (options : LossOptions Value) (tuning : LossTuning Value)
  (workers : DpWorkers) {seqlens : List Nat}

section Lengths

omit [IsStrictOrderedRing Value]

variable {signals : LossSignals Value}

omit [Field Value] [LinearOrder Value] in
theorem lengths_of_checkShapes (checked : checkShapes signals = .ok ()) :
    signals.advantages.length = signals.currentTokenLogps.length ∧
      signals.oldPerTokenLogps.length = signals.currentTokenLogps.length ∧
      (∀ ref ∈ signals.refPerTokenLogps, ref.length = signals.currentTokenLogps.length) ∧
      ∀ rollout ∈ signals.rolloutPerTokenLogps,
        rollout.flatten.length = signals.currentTokenLogps.length := by
  rw [checkShapes] at checked
  split at checked
  next => cases checked
  next advantages =>
    split at checked
    next => cases checked
    next old =>
      split at checked
      next => cases checked
      next ref =>
        split at checked
        next => cases checked
        next rollout =>
          refine ⟨not_not.mp advantages, not_not.mp old, ?_, ?_⟩
          · intro given isGiven
            rw [Option.mem_def.mp isGiven] at ref
            simpa using ref
          · intro given isGiven
            rw [Option.mem_def.mp isGiven] at rollout
            simpa using rollout

theorem length_importanceRatio {negativeApproxKl : List Value}
    (sameLength : negativeApproxKl.length = seqlens.sum) :
    (importanceRatio exp options seqlens negativeApproxKl).length = seqlens.sum := by
  have segments : ((seqlens.splitLengths negativeApproxKl).map List.length).sum =
      seqlens.sum := by
    rw [← length_flatten, flatten_splitLengths _ _ (Nat.le_of_eq sameLength), sameLength]
  rw [importanceRatio]
  split
  · rw [length_flatMap]
    simpa using segments
  · rw [length_map, sameLength]

omit [LinearOrder Value] in
theorem length_negativeApproxKl (checked : checkShapes signals = .ok ())
    (count : signals.currentTokenLogps.length = seqlens.sum) :
    (List.zipWith (fun now before => now - before) signals.currentTokenLogps
      signals.oldPerTokenLogps).length = seqlens.sum := by
  obtain ⟨-, old, -, -⟩ := lengths_of_checkShapes checked
  rw [length_zipWith, old, Nat.min_self, count]

theorem length_weightedLoss (checked : checkShapes signals = .ok ())
    (count : signals.currentTokenLogps.length = seqlens.sum) :
    (weightedLoss exp options tuning seqlens signals).length = seqlens.sum := by
  obtain ⟨advantages, old, -, rollout⟩ := lengths_of_checkShapes checked
  have ratio := length_importanceRatio exp options (length_negativeApproxKl checked count)
  rw [weightedLoss]
  split
  next lists isGiven =>
    rw [length_zipWith, length_zipWith, length_zipWith, ratio, advantages, old,
      rollout lists isGiven, count, Nat.min_self, Nat.min_self]
  next => rw [length_zipWith, ratio, advantages, count, Nat.min_self]

theorem length_applyOffPolicyMask {delta : Value}
    {perTokenLoss maskingSource current advantages masked : List Value}
    (sameLength : perTokenLoss.length = seqlens.sum)
    (applied : applyOffPolicyMask delta [seqlens.sum] perTokenLoss maskingSource current
      advantages = .ok masked) :
    masked.length = seqlens.sum := by
  rw [applyOffPolicyMask, starts_cons, scanl_nil, gather_cons] at applied
  cases first : advantages[0]? with
  | none =>
    rw [first] at applied
    cases applied
  | some advantage =>
    rw [first] at applied
    cases applied
    simp [sameLength]

theorem length_klLossOfTokens {klLoss : List Value} (checked : checkShapes signals = .ok ())
    (computed : klLossOfTokens exp tuning signals.currentTokenLogps signals.oldPerTokenLogps
      signals.refPerTokenLogps = .ok klLoss) :
    klLoss.length = signals.currentTokenLogps.length := by
  obtain ⟨-, old, ref, -⟩ := lengths_of_checkShapes checked
  unfold klLossOfTokens at computed
  split at computed
  next =>
    cases computed
    rw [length_map]
  next =>
    cases given : signals.refPerTokenLogps with
    | none =>
      rw [given] at computed
      cases computed
    | some reference =>
      rw [given] at computed
      cases computed
      rw [length_zipWith, length_zip, old, ref reference given, Nat.min_self, Nat.min_self]

end Lengths

omit [IsStrictOrderedRing Value] in
theorem computeLoss_of_empty (signals : LossSignals Value)
    (isMasked : options.offPolicyMaskingDelta.isSome)
    (empty : signals.currentTokenLogps = []) (loss : Option Value) :
    computeLoss exp options tuning workers [0] signals ≠ .ok loss := by
  obtain ⟨delta, deltaIs⟩ := Option.isSome_iff_exists.mp isMasked
  rw [computeLoss]
  simp only [bind, Except.bind]
  cases checked : checkShapes signals with
  | error exn => exact fun impossible => nomatch impossible
  | ok =>
    have noAdvantages : signals.advantages = [] := by
      rw [← length_eq_zero_iff, (lengths_of_checkShapes checked).1, empty, length_nil]
    have outside : maskedLoss exp options tuning [0] signals = .error .indexError := by
      rw [maskedLoss, deltaIs, noAdvantages]
      dsimp only
      rw [applyOffPolicyMask, starts_cons, gather_cons]
      rfl
    rw [outside]
    exact fun impossible => nomatch impossible

section Plain

omit [IsStrictOrderedRing Value]

variable {options} (kept : GroupingKept options seqlens)
include kept

variable {signals : LossSignals Value}

theorem maskedLoss_single (nonempty : seqlens ≠ []) (checked : checkShapes signals = .ok ())
    (count : signals.currentTokenLogps.length = seqlens.sum) :
    maskedLoss exp options tuning seqlens signals =
      maskedLoss exp options tuning [seqlens.sum] signals := by
  have ratio := importanceRatio_single exp options kept.mixing
    (length_negativeApproxKl checked count)
  have weighted : weightedLoss exp options tuning seqlens signals =
      weightedLoss exp options tuning [seqlens.sum] signals := by
    rw [weightedLoss, weightedLoss, ratio]
  rw [maskedLoss, maskedLoss, weighted]
  split
  next delta isGiven =>
    exact applyOffPolicyMask_single delta nonempty (kept.masking (by rw [isGiven]; rfl)) _ _ _ _
  next => rfl

theorem length_maskedLoss (nonempty : seqlens ≠ [])
    {perTokenLoss : List Value} (checked : checkShapes signals = .ok ())
    (count : signals.currentTokenLogps.length = seqlens.sum)
    (masked : maskedLoss exp options tuning seqlens signals = .ok perTokenLoss) :
    perTokenLoss.length = seqlens.sum := by
  have single : signals.currentTokenLogps.length = [seqlens.sum].sum := by
    rw [sum_singleton, count]
  have weighted := length_weightedLoss exp options tuning checked single
  rw [maskedLoss_single exp tuning kept nonempty checked count, maskedLoss] at masked
  rw [sum_singleton] at weighted
  split at masked
  next => exact length_applyOffPolicyMask weighted masked
  next =>
    cases masked
    exact weighted

theorem teacherAdvantages_single (signals : LossSignals Value) :
    teacherAdvantages options tuning seqlens signals =
      teacherAdvantages options tuning [seqlens.sum] signals := by
  rw [teacherAdvantages, teacherAdvantages]
  cases distills : options.distillation with
  | false => rfl
  | true =>
    rw [if_pos rfl, if_pos rfl]
    exact computeTeacherKlAdvantages_single options tuning
      (fun discounts => kept.mixing (Or.inr discounts)) distills _ _ _

omit kept in
theorem withPositives_single (positives : UsesPositives options → seqlens.length = 1)
    (positiveFlags : List Bool) (currentTokenLogps : List Value) (loss : Option Value) :
    withPositives options positiveFlags seqlens currentTokenLogps loss =
      withPositives options positiveFlags [seqlens.sum] currentTokenLogps loss := by
  by_cases uses : UsesPositives options
  · obtain ⟨length, rfl⟩ := length_eq_one_iff.mp (positives uses)
    rw [sum_singleton]
  · rw [withPositives, withPositives]
    cases coefficientIs : options.positiveNllCoef with
    | none => rfl
    | some coefficient =>
      have notPositive : ¬0 < coefficient := fun positive =>
        uses ⟨coefficient, coefficientIs, positive⟩
      dsimp only
      rw [if_neg notPositive, if_neg notPositive]

end Plain

section Single

variable {options} (kept : GroupingKept options seqlens)
include kept

theorem computeLoss_single (nonempty : seqlens ≠ []) (signals : LossSignals Value)
    (count : signals.currentTokenLogps.length = seqlens.sum) :
    computeLoss exp options tuning workers seqlens signals =
      computeLoss exp options tuning workers [seqlens.sum] signals := by
  rw [computeLoss, computeLoss]
  simp only [bind, Except.bind]
  cases checked : checkShapes signals with
  | error exn => rfl
  | ok =>
    dsimp only
    rw [← maskedLoss_single exp tuning kept nonempty checked count]
    cases masked : maskedLoss exp options tuning seqlens signals with
    | error exn => rfl
    | ok perTokenLoss =>
      dsimp only
      cases divergence : klLossOfTokens exp tuning signals.currentTokenLogps
          signals.oldPerTokenLogps signals.refPerTokenLogps with
      | error exn => rfl
      | ok klLoss =>
        have klLength : klLoss.length = seqlens.sum :=
          (length_klLossOfTokens exp tuning checked divergence).trans count
        dsimp only
        rw [aggregateLoss_single options tuning workers
            (length_maskedLoss exp tuning kept nonempty checked count masked) nonempty
            kept.means,
          aggregateLoss_single options tuning workers klLength nonempty kept.means]

theorem trainingLoss_single (nonempty : seqlens ≠ []) (lossScalingFactor : Value)
    (positiveFlags : List Bool) {signals : LossSignals Value}
    (count : signals.currentTokenLogps.length = seqlens.sum) :
    trainingLoss exp options tuning workers lossScalingFactor positiveFlags seqlens signals =
      trainingLoss exp options tuning workers lossScalingFactor positiveFlags [seqlens.sum]
        signals := by
  rw [trainingLoss, trainingLoss, teacherAdvantages_single tuning kept signals]
  congr 1
  funext advantages
  rw [computeLoss_single exp tuning workers kept nonempty
    { signals with advantages := advantages } count]
  cases computed : computeLoss exp options tuning workers [seqlens.sum]
      { signals with advantages := advantages } with
  | error exn => rfl
  | ok loss =>
    have positives : UsesPositives options → seqlens.length = 1 := by
      intro uses
      apply (kept.positives uses).resolve_right
      rintro ⟨isMasked, noTokens⟩
      rw [noTokens] at computed
      exact computeLoss_of_empty exp options tuning workers
        { signals with advantages := advantages } isMasked
        (length_eq_zero_iff.mp (count.trans noTokens)) loss computed
    simp only [bind, Except.bind, withPositives_single positives]

end Single

end Whole

end CosmosRl.Policy
