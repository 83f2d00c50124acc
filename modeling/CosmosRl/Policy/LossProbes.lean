import CosmosRl.Foundation.Cutting
import CosmosRl.Policy.LossGrouping
import Mathlib.Analysis.SpecialFunctions.Exp

/-!
Mini-batches that tell the rows of the trained tokens apart.

The probes mark one row: their signals have one value on its tokens and another one on
all others.  Without clipping, penalties and old log probabilities, the loss of such
signals can be computed for every grouping.
-/

namespace CosmosRl.Policy

open CosmosRl.Foundation List
open CosmosRl.Dispatcher (PyError)

section Marked

variable {Entry Other Result : Type}

/-- A list with `value` at `count` places after the first `before` ones. -/
def marked (before count after : Nat) (other value : Entry) : List Entry :=
  List.replicate before other ++ (List.replicate count value ++ List.replicate after other)

variable {before count after : Nat}

@[simp] theorem length_marked (other value : Entry) :
    (marked before count after other value).length = before + (count + after) := by
  simp [marked]

theorem marked_self (value : Entry) :
    marked before count after value value = List.replicate (before + (count + after)) value := by
  rw [marked, replicate_append_replicate, replicate_append_replicate]

theorem zipWith_marked (combine : Entry → Other → Result) (first second : Entry)
    (third fourth : Other) :
    List.zipWith combine (marked before count after first second)
        (marked before count after third fourth) =
      marked before count after (combine first third) (combine second fourth) := by
  rw [marked, marked, marked, zipWith_append (by simp), zipWith_append (by simp)]
  simp only [List.zipWith_replicate, Nat.min_self]

theorem mem_marked {other value entry : Entry}
    (member : entry ∈ marked before count after other value) : entry = other ∨ entry = value := by
  rw [marked, mem_append, mem_append] at member
  rcases member with first | second | third
  · exact Or.inl (eq_of_mem_replicate first)
  · exact Or.inr (eq_of_mem_replicate second)
  · exact Or.inl (eq_of_mem_replicate third)

theorem sum_marked (other value : ℝ) :
    (marked before count after other value).sum = (before + after) * other + count * value := by
  rw [marked, sum_append, sum_append, sum_replicate, sum_replicate, sum_replicate]
  simp only [nsmul_eq_mul]
  ring

end Marked

section Tuning

noncomputable def probeTuning : LossTuning ℝ where
  aipoRho := none
  epsilonLow := -1
  epsilonHigh := -1
  lowerBoundRatio := 0
  behavImpWeightCap := none
  klBeta := 0
  unbiasedKlEstimate := false
  balanceDpToken := false
  entropyCoeff := 0
  klPenaltyCoef := 1

def probeWorkers : DpWorkers := ⟨1, 0⟩

noncomputable def probeSignals (current advantages teacher entropies : List ℝ) :
    LossSignals ℝ where
  currentTokenLogps := current
  oldPerTokenLogps := List.replicate current.length 0
  refPerTokenLogps := none
  rolloutPerTokenLogps := none
  advantages := advantages
  teacherLogprobs := teacher
  entropies := entropies

variable (options : LossOptions ℝ)

/-- The loss that `step_training` propagates for the probe of a grouping. -/
noncomputable def probeLoss (rows : Nat) (seqlens : List Nat) (signals : LossSignals ℝ) :
    Except PyError (Option ℝ) :=
  trainingLoss Real.exp options probeTuning probeWorkers 1 (List.replicate rows false) seqlens
    signals

noncomputable def ratioOf (value : ℝ) : ℝ :=
  if options.variant = .gspo then sequenceRatio Real.exp value else tokenRatio Real.exp value

theorem ratioOf_pos (value : ℝ) : 0 < ratioOf options value := by
  rw [ratioOf]
  split <;> exact Real.exp_pos _

theorem ratioOf_zero : ratioOf options 0 = 1 := by
  rw [ratioOf]
  split
  · norm_num [sequenceRatio, clamp]
  · norm_num [tokenRatio, clamp]

theorem tokenLoss_of_nonneg (ratio : ℝ) {advantage : ℝ} (nonneg : 0 ≤ advantage) :
    tokenLoss options probeTuning ratio advantage = -(ratio * advantage) := by
  have unclipped : clamp (none : Option ℝ) none ratio = ratio := rfl
  have notNegative : ¬advantage < 0 := not_lt.mpr nonneg
  rw [tokenLoss, probeTuning]
  norm_num [unclipped, notNegative]
  split <;> rfl

theorem tokenLoss_one (tokenwise : options.variant ≠ .gspo) (advantage : ℝ) :
    tokenLoss options probeTuning 1 advantage = -max advantage 0 := by
  rcases le_or_gt 0 advantage with nonneg | negative
  · rw [tokenLoss_of_nonneg options 1 nonneg, max_eq_left nonneg, one_mul]
  · have unclipped : clamp (none : Option ℝ) none 1 = 1 := rfl
    have noLoss : max advantage 0 = 0 := max_eq_right (le_of_lt negative)
    rw [tokenLoss, probeTuning, noLoss]
    norm_num [unclipped, negative]
    split
    next sequences => exact absurd sequences tokenwise
    next => exact min_eq_left (le_of_lt (neg_pos.mpr negative))

end Tuning

section Ratios

variable (options : LossOptions ℝ)

theorem importanceRatio_append {first second : List Nat} {front back : List ℝ}
    (frontLength : front.length = first.sum) :
    importanceRatio Real.exp options (first ++ second) (front ++ back) =
      importanceRatio Real.exp options first front ++
        importanceRatio Real.exp options second back := by
  rw [importanceRatio, importanceRatio, importanceRatio]
  split
  · rw [splitLengths_append frontLength second back, flatMap_append]
  · rw [map_append]

theorem importanceRatio_replicate (value : ℝ) (seqlens : List Nat) :
    importanceRatio Real.exp options seqlens (List.replicate seqlens.sum value) =
      List.replicate seqlens.sum (ratioOf options value) := by
  cases variantIs : options.variant with
  | grpo => simp [importanceRatio, ratioOf, variantIs]
  | dapo => simp [importanceRatio, ratioOf, variantIs]
  | gspo =>
    simp only [importanceRatio, ratioOf, variantIs, if_true]
    induction seqlens with
    | nil => rfl
    | cons length seqlens ih =>
      rw [sum_cons, ← replicate_append_replicate, splitLengths_cons,
        take_left' (length_replicate), drop_left' (length_replicate), flatMap_cons, ih,
        length_replicate, sum_replicate, nsmul_eq_mul, ← replicate_append_replicate]
      congr 1
      rcases Nat.eq_zero_or_pos length with rfl | filled
      · rfl
      · have lengthNe : (length : ℝ) ≠ 0 := Nat.cast_ne_zero.mpr (Nat.ne_of_gt filled)
        rw [mul_div_cancel_left₀ value lengthNe]

theorem importanceRatio_marked (before after : List Nat) (count : Nat) (other value : ℝ) :
    importanceRatio Real.exp options (before ++ count :: after)
        (marked before.sum count after.sum other value) =
      marked before.sum count after.sum (ratioOf options other) (ratioOf options value) := by
  have single : importanceRatio Real.exp options [count] (List.replicate count value) =
      List.replicate count (ratioOf options value) := by
    have ratios := importanceRatio_replicate options value [count]
    rwa [sum_singleton] at ratios
  have rest : importanceRatio Real.exp options ([count] ++ after)
        (List.replicate count value ++ List.replicate after.sum other) =
      List.replicate count (ratioOf options value) ++
        List.replicate after.sum (ratioOf options other) := by
    rw [importanceRatio_append options (by rw [length_replicate, sum_singleton]),
      single, importanceRatio_replicate]
  rw [singleton_append] at rest
  rw [marked, marked, importanceRatio_append options length_replicate, rest,
    importanceRatio_replicate]

theorem importanceRatio_single_gspo (sequences : options.variant = .gspo) {total : Nat}
    {tokens : List ℝ} (sameLength : tokens.length = total) :
    importanceRatio Real.exp options [total] tokens =
      List.replicate total (sequenceRatio Real.exp (tokens.sum / total)) := by
  simp only [importanceRatio, sequences]
  rw [splitLengths_single sameLength, flatMap_singleton, sameLength]

end Ratios

section Masks

variable {values : List ℝ} {count : Nat} {positions front : List Nat}

theorem gather_ok (inside : ∀ position ∈ positions, position < values.length) :
    gather values positions = .ok (positions.map fun position => values.getD position 0) := by
  induction positions with
  | nil => rfl
  | cons position positions ih =>
    have first := inside position mem_cons_self
    rw [gather_cons, getElem?_eq_getElem first, ih
      fun other member => inside other (mem_cons_of_mem _ member)]
    rw [map_cons, getD_eq_getElem?_getD, getElem?_eq_getElem first]
    rfl

theorem gather_error {position : Nat}
    (member : position ∈ positions) (outside : values.length ≤ position) :
    gather values positions = .error .indexError := by
  induction positions with
  | nil => cases member
  | cons other positions ih =>
    rw [gather_cons]
    cases found : values[other]? with
    | none => rfl
    | some value =>
      have otherInside := (List.getElem?_eq_some_iff.mp found).1
      rcases mem_cons.mp member with rfl | later
      · exact absurd otherInside (Nat.not_lt.mpr outside)
      · rw [ih later]
        rfl

theorem starts_append (offset : Nat) (front : List Nat) (last : Nat) :
    (List.scanl (· + ·) offset (front ++ [last])).dropLast =
      List.scanl (· + ·) offset front := by
  rw [scanl_append, scanl_singleton, tail_cons, dropLast_concat]

theorem le_of_mem_scanl {offset start : Nat} {lengths : List Nat}
    (member : start ∈ List.scanl (· + ·) offset lengths) :
    offset ≤ start ∧ start ≤ offset + lengths.sum := by
  induction lengths generalizing offset with
  | nil =>
    rw [scanl_nil, mem_singleton] at member
    rw [member, sum_nil]
    exact ⟨Nat.le_refl _, Nat.le_refl _⟩
  | cons length lengths ih =>
    rw [scanl_cons, mem_cons] at member
    rw [sum_cons]
    rcases member with rfl | later
    · omega
    · have bounds := ih later
      omega

theorem sum_mem_scanl (offset : Nat) (lengths : List Nat) :
    offset + lengths.sum ∈ List.scanl (· + ·) offset lengths := by
  induction lengths generalizing offset with
  | nil => simp
  | cons length lengths ih =>
    rw [scanl_cons, sum_cons, ← Nat.add_assoc]
    exact mem_cons_of_mem _ (ih _)

theorem zipWith_const {First Second Result : Type} {combine : First → Second → Result}
    {firsts : List First} {seconds : List Second} {result : Result}
    (sameLength : firsts.length = seconds.length)
    (constant : ∀ first ∈ firsts, ∀ second, combine first second = result) :
    List.zipWith combine firsts seconds = List.replicate firsts.length result := by
  induction firsts generalizing seconds with
  | nil => rfl
  | cons first firsts ih =>
    cases seconds with
    | nil => cases sameLength
    | cons second seconds =>
      rw [zipWith_cons_cons, constant first mem_cons_self,
        ih (Nat.succ.inj sameLength)
          (fun other member => constant other (mem_cons_of_mem _ member)),
        length_cons, replicate_succ]

theorem flatten_replicate_rows {Entry : Type} (seqlens : List Nat) (entry : Entry) :
    (List.zipWith List.replicate seqlens (List.replicate seqlens.length entry)).flatten =
      List.replicate seqlens.sum entry := by
  rw [zipWith_replicate]
  induction seqlens with
  | nil => rfl
  | cons length seqlens ih =>
    rw [map_cons, flatten_cons, ih, sum_cons, replicate_append_replicate]

theorem zipWith_mul_one (sameLength : values.length = count) :
    List.zipWith (· * ·) values (List.replicate count 1) = values := by
  rw [← sameLength, zipWith_replicate]
  simp

theorem zipWith_mul_zero (sameLength : values.length = count) :
    List.zipWith (· * ·) values (List.replicate count 0) = List.replicate count 0 := by
  rw [← sameLength, zipWith_replicate]
  simp

variable (delta : ℝ) {perTokenLoss maskingSource current advantages : List ℝ}

/-- Without negative advantages nothing is masked. -/
theorem applyOffPolicyMask_of_nonneg {last : Nat} (filled : 0 < last)
    (lossLength : perTokenLoss.length = (front ++ [last]).sum)
    (advantagesLength : advantages.length = (front ++ [last]).sum)
    (nonneg : ∀ advantage ∈ advantages, 0 ≤ advantage) :
    applyOffPolicyMask delta (front ++ [last]) perTokenLoss maskingSource current advantages =
      .ok perTokenLoss := by
  have inside : ∀ start ∈ List.scanl (· + ·) 0 front, start < advantages.length := by
    intro start member
    have bounds := le_of_mem_scanl member
    rw [advantagesLength, sum_append, sum_singleton]
    omega
  have kept : ∀ advantage ∈ (List.scanl (· + ·) 0 front).map
      (fun position => advantages.getD position 0), ∀ mean : ℝ,
      (if 0 ≤ advantage ∨ mean ≤ delta then (1 : ℝ) else 0) = 1 := by
    intro advantage member mean
    obtain ⟨start, startMember, rfl⟩ := mem_map.mp member
    have startInside := inside start startMember
    rw [getD_eq_getElem?_getD, getElem?_eq_getElem startInside, Option.getD_some,
      if_pos (Or.inl (nonneg _ (getElem_mem startInside)))]
  have sameLength : ((List.scanl (· + ·) 0 front).map
      fun position => advantages.getD position 0).length = (front ++ [last]).length := by
    rw [length_map, length_scanl, length_append, length_singleton]
  rw [applyOffPolicyMask, starts_append, gather_ok inside]
  simp only [Except.map]
  rw [zipWith_const (by
      rw [sameLength, length_zipWith, length_map, length_splitLengths,
        Nat.min_self]) kept, sameLength, flatten_replicate_rows, zipWith_mul_one lossLength]

theorem applyOffPolicyMask_of_empty_last
    (advantagesLength : advantages.length = (front ++ [0]).sum) :
    applyOffPolicyMask delta (front ++ [0]) perTokenLoss maskingSource current advantages =
      .error .indexError := by
  have last := sum_mem_scanl 0 front
  rw [Nat.zero_add] at last
  rw [sum_append, sum_singleton, Nat.add_zero] at advantagesLength
  rw [applyOffPolicyMask, starts_append, gather_error last (Nat.le_of_eq advantagesLength)]
  rfl

theorem applyOffPolicyMask_of_empty_front (empty : Nat) {seqlens : List Nat}
    (nonempty : seqlens ≠ []) :
    applyOffPolicyMask delta (List.replicate empty 0 ++ seqlens) perTokenLoss maskingSource
        current advantages =
      applyOffPolicyMask delta seqlens perTokenLoss maskingSource current advantages := by
  induction empty with
  | zero => rfl
  | succ empty ih =>
    rw [replicate_succ, cons_append,
      applyOffPolicyMask_cons_zero delta (append_ne_nil_of_right_ne_nil _ nonempty), ih]

/-- A first row with a negative advantage is masked if its divergence is too large. -/
theorem applyOffPolicyMask_of_negative (filled : 0 < count) {rest : List Nat}
    {first divergence : ℝ} (firstAt : advantages[0]? = some first) (negative : first < 0)
    (others : ∀ start ∈ (List.scanl (· + ·) count rest).dropLast,
      start < advantages.length ∧ 0 ≤ advantages.getD start 0)
    (large : delta < divergence) (lossLength : perTokenLoss.length = count + rest.sum)
    (diff : List.zipWith (fun source now => source - now) maskingSource current =
      List.replicate (count + rest.sum) divergence) :
    applyOffPolicyMask delta (count :: rest) perTokenLoss maskingSource current advantages =
      .ok (List.replicate count 0 ++ perTokenLoss.drop count) := by
  have mean : (List.replicate count divergence).sum / ((max count 1 : Nat) : ℝ) = divergence := by
    have countNe : (count : ℝ) ≠ 0 := Nat.cast_ne_zero.mpr (Nat.ne_of_gt filled)
    rw [sum_replicate, nsmul_eq_mul, Nat.max_eq_left filled,
      mul_div_cancel_left₀ divergence countNe]
  have masked : ¬(0 ≤ first ∨ divergence ≤ delta) := by
    rw [not_or]
    exact ⟨not_le.mpr negative, not_le.mpr large⟩
  have kept : ∀ advantage ∈ ((List.scanl (· + ·) count rest).dropLast).map
      (fun position => advantages.getD position 0), ∀ mean : ℝ,
      (if 0 ≤ advantage ∨ mean ≤ delta then (1 : ℝ) else 0) = 1 := by
    intro advantage member mean
    obtain ⟨start, startMember, rfl⟩ := mem_map.mp member
    exact if_pos (Or.inl (others start startMember).2)
  have sameLength : (((List.scanl (· + ·) count rest).dropLast).map
      fun position => advantages.getD position 0).length = rest.length := by
    rw [length_map, length_dropLast, length_scanl, Nat.add_sub_cancel]
  have takeLength : (perTokenLoss.take count).length = count := by
    rw [length_take, lossLength]
    omega
  have dropLength : (perTokenLoss.drop count).length = rest.sum := by
    rw [length_drop, lossLength, Nat.add_sub_cancel_left]
  rw [applyOffPolicyMask, starts_cons, gather_cons, firstAt]
  dsimp only
  rw [gather_ok fun start member => (others start member).1, diff,
    ← replicate_append_replicate, splitLengths_cons,
    take_left' length_replicate, drop_left' length_replicate]
  simp only [Except.map, map_cons, zipWith_cons_cons, mean, if_neg masked, flatten_cons]
  rw [zipWith_const (by
      rw [sameLength, length_zipWith, length_map, length_splitLengths,
        Nat.min_self]) kept, sameLength, flatten_replicate_rows]
  conv_lhs => rw [← take_append_drop count perTokenLoss]
  rw [zipWith_append (by rw [takeLength, length_replicate]),
    zipWith_mul_zero takeLength, zipWith_mul_one dropLength]

end Masks

section Losses

variable (options : LossOptions ℝ) {rows : Nat} {seqlens : List Nat}
  {current advantages given teacher entropies masked : List ℝ}

theorem checkShapes_probe (sameLength : advantages.length = current.length) :
    checkShapes (probeSignals current advantages teacher entropies) = .ok () := by
  simp [checkShapes, probeSignals, sameLength]

theorem weightedLoss_probe :
    weightedLoss Real.exp options probeTuning seqlens
        (probeSignals current advantages teacher entropies) =
      List.zipWith (tokenLoss options probeTuning)
        (importanceRatio Real.exp options seqlens current) advantages := by
  have unchanged : List.zipWith (fun now before : ℝ => now - before) current
      (List.replicate current.length 0) = current := by
    rw [zipWith_replicate]
    simp
  simp only [weightedLoss, probeSignals, unchanged]

variable (seqlens) in
theorem isSome_aggregateLoss (tuning : LossTuning ℝ) (workers : DpWorkers)
    (tokens others : List ℝ) :
    (aggregateLoss options tuning workers seqlens tokens).isSome =
      (aggregateLoss options tuning workers seqlens others).isSome := by
  cases lossTypeIs : options.lossType with
  | seqMeanTokenMean =>
    simp only [aggregateLoss, lossTypeIs]
    split
    · rfl
    · split <;> rfl
  | seqMeanTokenSum => simp only [aggregateLoss, lossTypeIs, Option.isSome_some]
  | tokenMean =>
    simp only [aggregateLoss, lossTypeIs]
    split <;> rfl
  | tokenSum => simp only [aggregateLoss, lossTypeIs, Option.isSome_some]

theorem computeLoss_probe (sameLength : advantages.length = current.length) :
    computeLoss Real.exp options probeTuning probeWorkers seqlens
        (probeSignals current advantages teacher entropies) =
      (maskedLoss Real.exp options probeTuning seqlens
        (probeSignals current advantages teacher entropies)).map
          (aggregateLoss options probeTuning probeWorkers seqlens) := by
  rw [computeLoss]
  simp only [bind, Except.bind]
  rw [checkShapes_probe sameLength]
  dsimp only
  cases maskedLoss Real.exp options probeTuning seqlens
      (probeSignals current advantages teacher entropies) with
  | error exn => rfl
  | ok masked =>
    have undiverged (tokens : List ℝ) : klLossOfTokens Real.exp probeTuning current tokens
        none = .ok (current.map fun _ => 0) := if_pos rfl
    simp only [probeSignals, undiverged, Except.map]
    have present := isSome_aggregateLoss options seqlens probeTuning probeWorkers masked
      (current.map fun _ => 0)
    cases policyTerm : aggregateLoss options probeTuning probeWorkers seqlens masked with
    | none => rfl
    | some total =>
      rw [policyTerm, Option.isSome_some, eq_comm, Option.isSome_iff_exists] at present
      obtain ⟨divergence, klTerm⟩ := present
      rw [klTerm]
      simp [probeTuning]

theorem withPositives_probe (rowsFit : UsesPositives options → rows = seqlens.length)
    (loss : Option ℝ) :
    withPositives options (List.replicate rows false) seqlens current loss = .ok loss := by
  rw [withPositives]
  cases coefficientIs : options.positiveNllCoef with
  | none => rfl
  | some coefficient =>
    dsimp only
    by_cases positive : 0 < coefficient
    · have fits := rowsFit ⟨coefficient, coefficientIs, positive⟩
      rw [if_pos positive, expandFlags, length_replicate, if_pos fits, fits,
        flatten_replicate_rows]
      simp [Except.map]
    · rw [if_neg positive]

theorem withPositives_misfit (uses : UsesPositives options) (several : 1 < rows)
    (total : Nat) (loss : Option ℝ) :
    withPositives options (List.replicate rows false) [total] current loss =
      .error (.runtimeError
        "The expanded size of the tensor must match the existing size") := by
  obtain ⟨coefficient, coefficientIs, positive⟩ := uses
  have notOne : rows ≠ 1 := Nat.ne_of_gt several
  rw [withPositives, coefficientIs]
  dsimp only
  rw [if_pos positive, expandFlags, length_replicate, length_singleton, if_neg notOne,
    if_neg notOne]
  rfl

theorem probeLoss_eq (sameLength : advantages.length = current.length)
    (distilled : teacherAdvantages options probeTuning seqlens
      (probeSignals current given teacher entropies) = .ok advantages)
    (rowsFit : UsesPositives options → rows = seqlens.length) :
    probeLoss options rows seqlens (probeSignals current given teacher entropies) =
      (maskedLoss Real.exp options probeTuning seqlens
        (probeSignals current advantages teacher entropies)).map
          (aggregateLoss options probeTuning probeWorkers seqlens) := by
  rw [probeLoss, trainingLoss, distilled]
  simp only [bind, Except.bind]
  rw [show ({ probeSignals current given teacher entropies with advantages := advantages } :
    LossSignals ℝ) = probeSignals current advantages teacher entropies from rfl,
    computeLoss_probe options sameLength]
  cases maskedLoss Real.exp options probeTuning seqlens
      (probeSignals current advantages teacher entropies) with
  | error exn => rfl
  | ok masked =>
    have noEntropy (loss : Option ℝ) : withEntropy probeTuning entropies loss = loss :=
      if_neg (lt_irrefl 0)
    simp only [Except.map, probeSignals, noEntropy,
      withPositives_probe options rowsFit, mul_one, Option.map_id']

theorem probeLoss_misfit (sameLength : advantages.length = current.length) {total : Nat}
    (distilled : teacherAdvantages options probeTuning [total]
      (probeSignals current given teacher entropies) = .ok advantages)
    (unmasked : maskedLoss Real.exp options probeTuning [total]
      (probeSignals current advantages teacher entropies) = .ok masked)
    (uses : UsesPositives options) (several : 1 < rows) :
    probeLoss options rows [total] (probeSignals current given teacher entropies) =
      .error (.runtimeError
        "The expanded size of the tensor must match the existing size") := by
  rw [probeLoss, trainingLoss, distilled]
  simp only [bind, Except.bind]
  rw [show ({ probeSignals current given teacher entropies with advantages := advantages } :
    LossSignals ℝ) = probeSignals current advantages teacher entropies from rfl,
    computeLoss_probe options sameLength, unmasked]
  simp only [Except.map, withPositives_misfit options uses several]

end Losses

section Distillation

variable (options : LossOptions ℝ)

theorem discountedFutureSum_zeros (gamma : ℝ) (count : Nat) :
    discountedFutureSum gamma (List.replicate count 0) = List.replicate count 0 := by
  induction count with
  | zero => rfl
  | succ count ih =>
    rw [replicate_succ, discountedFutureSum, ih]
    cases count <;> simp [replicate_succ]

theorem discounted_zeros (gamma : ℝ) (seqlens : List Nat) :
    (seqlens.splitLengths (List.replicate seqlens.sum (0 : ℝ))).flatMap
        (discountedFutureSum gamma) = List.replicate seqlens.sum 0 := by
  induction seqlens with
  | nil => rfl
  | cons length seqlens ih =>
    rw [sum_cons, ← replicate_append_replicate, splitLengths_cons, take_left' length_replicate,
      drop_left' length_replicate, flatMap_cons, ih, discountedFutureSum_zeros]

theorem teacherAdvantages_probe {seqlens : List Nat}
    {current given teacher entropies : List ℝ} (currentLength : current.length = seqlens.sum)
    (givenLength : given.length = seqlens.sum) (teacherLength : teacher.length = seqlens.sum) :
    teacherAdvantages options probeTuning seqlens
        (probeSignals current given teacher entropies) =
      .ok (if options.distillation then
          List.zipWith (· + ·) given
            (if options.klDiscountFactor = 0 then teacher
            else (seqlens.splitLengths teacher).flatMap
              (discountedFutureSum options.klDiscountFactor))
        else given) := by
  have divergence : List.zipWith
      (fun before expert : ℝ => -(1 : ℝ) * (before - expert)) (List.replicate seqlens.sum 0)
        teacher = teacher := by
    rw [← teacherLength, zipWith_comm, zipWith_replicate]
    simp
  rw [teacherAdvantages]
  cases options.distillation with
  | false => rfl
  | true =>
    simp only [if_true, computeTeacherKlAdvantages, probeSignals, length_replicate,
      currentLength, teacherLength, givenLength, and_self, probeTuning, divergence]

theorem teacherAdvantages_zeros {seqlens : List Nat} {total : Nat}
    {current given entropies : List ℝ} (totalIs : seqlens.sum = total)
    (currentLength : current.length = total) (givenLength : given.length = total) :
    teacherAdvantages options probeTuning seqlens
        (probeSignals current given (List.replicate total 0) entropies) = .ok given := by
  subst totalIs
  have unchanged : List.zipWith (· + ·) given (List.replicate seqlens.sum 0) = given := by
    rw [← givenLength, zipWith_replicate]
    simp
  rw [teacherAdvantages_probe options currentLength givenLength length_replicate,
    discounted_zeros]
  simp only [ite_self, unchanged]

end Distillation

end CosmosRl.Policy
