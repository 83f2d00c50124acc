import CosmosRl.Policy.GradientAccumulation
import CosmosRl.Policy.LossProbes

/-!
The tokens of a mini-batch have the losses that they have in a mini-batch of their sample
alone.

Only the off-policy mask needs more than the sample itself: for a sample without tokens it
reads the advantage at the place of the next one.
-/

namespace CosmosRl.Policy

open CosmosRl.Foundation List
open CosmosRl.Dispatcher (PyError)

section Masks

variable (delta : ℝ)

theorem scanl_offset (offset : Nat) (lengths : List Nat) :
    List.scanl (· + ·) offset lengths =
      (List.scanl (· + ·) 0 lengths).map (offset + ·) := by
  induction lengths generalizing offset with
  | nil => rfl
  | cons length lengths ih =>
    rw [scanl_cons, scanl_cons, map_cons, Nat.add_zero, Nat.zero_add,
      ih (offset + length), ih length, map_map]
    congr 1
    apply map_congr_left
    intro start _
    exact Nat.add_assoc offset length start

theorem gather_append (front back : List ℝ) (positions : List Nat) :
    gather (front ++ back) (positions.map (front.length + ·)) = gather back positions := by
  induction positions with
  | nil => rfl
  | cons position positions ih =>
    rw [map_cons, gather_cons, gather_cons, ih,
      getElem?_append_right (Nat.le_add_right _ _), Nat.add_sub_cancel_left]

/-- The mask of a first row with tokens does not depend on the rows after it. -/
theorem applyOffPolicyMask_cons {length : Nat} (filled : 0 < length) {seqlens : List Nat}
    {loss source current advantages : List ℝ} (lossLength : loss.length = length)
    (sourceLength : source.length = length) (currentLength : current.length = length)
    (advantagesLength : advantages.length = length)
    (laterLoss laterSource laterCurrent laterAdvantages : List ℝ) :
    applyOffPolicyMask delta (length :: seqlens) (loss ++ laterLoss) (source ++ laterSource)
        (current ++ laterCurrent) (advantages ++ laterAdvantages) =
      match applyOffPolicyMask delta [length] loss source current advantages,
        applyOffPolicyMask delta seqlens laterLoss laterSource laterCurrent laterAdvantages with
      | .ok masked, .ok later => .ok (masked ++ later)
      | .ok _, .error exn => .error exn
      | .error exn, _ => .error exn := by
  obtain ⟨first, others, rfl⟩ : ∃ first others, advantages = first :: others :=
    exists_cons_of_length_pos (advantagesLength ▸ filled)
  have behind : gather (first :: others ++ laterAdvantages)
      (List.scanl (· + ·) length seqlens).dropLast =
        gather laterAdvantages (List.scanl (· + ·) 0 seqlens).dropLast := by
    rw [scanl_offset, ← map_dropLast, ← advantagesLength, gather_append]
  have cut : (length :: seqlens).splitLengths (List.zipWith (fun source now => source - now)
      (source ++ laterSource) (current ++ laterCurrent)) =
        List.zipWith (fun source now => source - now) source current ::
          seqlens.splitLengths
            (List.zipWith (fun source now => source - now) laterSource laterCurrent) := by
    have diffLength : (List.zipWith (fun source now => source - now) source current).length =
        length := by
      rw [length_zipWith, sourceLength, currentLength, Nat.min_self]
    rw [zipWith_append (sourceLength.trans currentLength.symm), splitLengths_cons,
      take_left' diffLength, drop_left' diffLength]
  have alone : [length].splitLengths (List.zipWith (fun source now => source - now) source
      current) = [List.zipWith (fun source now => source - now) source current] := by
    apply splitLengths_single
    rw [length_zipWith, sourceLength, currentLength, Nat.min_self]
  rw [applyOffPolicyMask, applyOffPolicyMask, applyOffPolicyMask, cut, alone, starts_cons,
    starts_cons, gather_cons, gather_cons, behind]
  simp only [cons_append, getElem?_cons_zero, scanl_nil, dropLast_singleton]
  cases gather laterAdvantages (List.scanl (· + ·) 0 seqlens).dropLast with
  | error exn => rfl
  | ok later =>
    simp only [gather, mapM_nil, pure, Except.pure, Except.map, map_cons, map_nil,
      zipWith_cons_cons, zipWith_nil_left, flatten_cons, flatten_nil, append_nil]
    rw [zipWith_append (by rw [length_replicate, lossLength])]

end Masks

section Tokens

variable (options : LossOptions ℝ) (tuning : LossTuning ℝ) (useDecoupledLoss : Bool)

noncomputable def weightedTerm (ratio : ℝ) (token : TokenTerms ℝ) : ℝ :=
  tokenLoss options tuning ratio token.advantage *
    if useDecoupledLoss then behavImpWeight Real.exp tuning token.oldLogp token.rolloutLogp
    else 1

noncomputable def divergenceTerm (token : TokenTerms ℝ) : ℝ :=
  if tuning.klBeta = 0 then 0
  else klLossOfToken Real.exp tuning token.currentLogp token.oldLogp token.refLogp

theorem weightedLoss_signals (seqlens : List Nat) (miniBatch : List (SampleTerms ℝ)) :
    weightedLoss Real.exp options tuning seqlens
        (miniBatchSignals tuning useDecoupledLoss miniBatch) =
      List.zipWith (weightedTerm options tuning useDecoupledLoss)
        (importanceRatio Real.exp options seqlens
          (miniBatch.flatten.map fun token => token.currentLogp - token.oldLogp))
        miniBatch.flatten := by
  have approxKl : List.zipWith (fun now before : ℝ => now - before)
      (miniBatch.flatten.map TokenTerms.currentLogp) (miniBatch.flatten.map TokenTerms.oldLogp) =
        miniBatch.flatten.map fun token => token.currentLogp - token.oldLogp := by
    rw [zipWith_map, zipWith_self]
  rw [weightedLoss]
  cases useDecoupledLoss with
  | true =>
    have weights : List.zipWith (behavImpWeight Real.exp tuning)
        (miniBatch.flatten.map TokenTerms.oldLogp)
        (miniBatch.map (List.map TokenTerms.rolloutLogp)).flatten =
          miniBatch.flatten.map fun token =>
            behavImpWeight Real.exp tuning token.oldLogp token.rolloutLogp := by
      rw [← map_flatten, zipWith_map, zipWith_self]
    simp only [miniBatchSignals, approxKl, weights, if_true]
    generalize importanceRatio Real.exp options seqlens _ = ratios
    generalize miniBatch.flatten = tokens
    induction tokens generalizing ratios with
    | nil => cases ratios <;> rfl
    | cons token tokens ih =>
      cases ratios with
      | nil => rfl
      | cons ratio ratios =>
        simp only [map_cons, zipWith_cons_cons, ih, weightedTerm, if_true]
  | false =>
    simp only [miniBatchSignals, approxKl, Bool.false_eq_true, if_false, zipWith_map_right]
    congr 1
    funext ratio token
    simp only [weightedTerm, Bool.false_eq_true, if_false, mul_one]

theorem length_weightedLoss_signals (miniBatch : List (SampleTerms ℝ)) :
    (weightedLoss Real.exp options tuning (miniBatch.map List.length)
      (miniBatchSignals tuning useDecoupledLoss miniBatch)).length = miniBatch.flatten.length := by
  rw [weightedLoss_signals, length_zipWith,
    length_importanceRatio Real.exp options (by rw [length_map, length_flatten]),
    length_flatten, Nat.min_self]

theorem weightedLoss_cons (sample : SampleTerms ℝ) (miniBatch : List (SampleTerms ℝ)) :
    weightedLoss Real.exp options tuning ((sample :: miniBatch).map List.length)
        (miniBatchSignals tuning useDecoupledLoss (sample :: miniBatch)) =
      weightedLoss Real.exp options tuning [sample.length]
          (miniBatchSignals tuning useDecoupledLoss [sample]) ++
        weightedLoss Real.exp options tuning (miniBatch.map List.length)
          (miniBatchSignals tuning useDecoupledLoss miniBatch) := by
  have own : (sample.map fun token => token.currentLogp - token.oldLogp).length =
      [sample.length].sum := by
    rw [length_map, sum_singleton]
  rw [weightedLoss_signals, weightedLoss_signals, weightedLoss_signals, map_cons,
    ← singleton_append, flatten_cons, flatten_singleton, map_append,
    importanceRatio_append options own, zipWith_append]
  rw [length_importanceRatio Real.exp options own, sum_singleton]

theorem klLossOfTokens_signals (miniBatch : List (SampleTerms ℝ)) :
    klLossOfTokens Real.exp tuning
        (miniBatchSignals tuning useDecoupledLoss miniBatch).currentTokenLogps
        (miniBatchSignals tuning useDecoupledLoss miniBatch).oldPerTokenLogps
        (miniBatchSignals tuning useDecoupledLoss miniBatch).refPerTokenLogps =
      .ok (miniBatch.flatMap (List.map (divergenceTerm tuning))) := by
  rw [flatMap_def, ← map_flatten]
  unfold klLossOfTokens
  split
  case isTrue free =>
    simp only [miniBatchSignals, map_map]
    congr 1
    apply map_congr_left
    intro token _
    simp only [Function.comp_apply, divergenceTerm, if_pos free]
  case isFalse penalised =>
    simp only [miniBatchSignals, if_neg penalised, zip_map']
    rw [zipWith_map, zipWith_self]
    congr 1
    apply map_congr_left
    intro token _
    simp only [divergenceTerm, if_neg penalised]

theorem checkShapes_signals (miniBatch : List (SampleTerms ℝ)) :
    checkShapes (miniBatchSignals tuning useDecoupledLoss miniBatch) = .ok () := by
  have rollouts : (miniBatch.map (List.map TokenTerms.rolloutLogp)).flatten.length =
      miniBatch.flatten.length := by
    rw [← map_flatten, length_map]
  by_cases free : tuning.klBeta = 0 <;> cases useDecoupledLoss <;>
    simp only [checkShapes, miniBatchSignals, free, rollouts, length_map, ne_eq,
      not_true_eq_false, decide_false, Option.any_some, Option.any_none, if_true, if_false,
      Bool.false_eq_true]

def Maskable (sample : SampleTerms ℝ) : Prop :=
  options.offPolicyMaskingDelta.isSome → sample ≠ []

noncomputable def sampleMasked (sample : SampleTerms ℝ) : List ℝ :=
  match maskedLoss Real.exp options tuning [sample.length]
    (miniBatchSignals tuning useDecoupledLoss [sample]) with
  | .ok losses => losses
  | .error _ => []

variable {options} {sample : SampleTerms ℝ}

theorem maskedLoss_sample (maskable : Maskable options sample) :
    maskedLoss Real.exp options tuning [sample.length]
        (miniBatchSignals tuning useDecoupledLoss [sample]) =
      .ok (sampleMasked options tuning useDecoupledLoss sample) := by
  rw [sampleMasked]
  cases masked : maskedLoss Real.exp options tuning [sample.length]
      (miniBatchSignals tuning useDecoupledLoss [sample]) with
  | ok losses => rfl
  | error exn =>
    rw [maskedLoss] at masked
    split at masked
    case h_2 => cases masked
    case h_1 delta isDelta =>
      obtain ⟨first, others, rfl⟩ :=
        exists_cons_of_ne_nil (maskable (by rw [isDelta, Option.isSome_some]))
      rw [applyOffPolicyMask, starts_cons, scanl_nil, gather_cons] at masked
      cases masked

theorem length_sampleMasked (maskable : Maskable options sample) :
    (sampleMasked options tuning useDecoupledLoss sample).length = sample.length := by
  have masked := maskedLoss_sample tuning useDecoupledLoss maskable
  have weighted := length_weightedLoss_signals options tuning useDecoupledLoss [sample]
  rw [flatten_singleton, map_cons, map_nil] at weighted
  rw [maskedLoss] at masked
  split at masked
  case h_1 =>
    have total : [sample.length].sum = sample.length := sum_singleton
    rw [← total] at masked weighted
    exact (length_applyOffPolicyMask weighted masked).trans total
  case h_2 =>
    rw [← Except.ok.inj masked]
    exact weighted

theorem maskedLoss_signals {miniBatch : List (SampleTerms ℝ)}
    (maskable : ∀ sample ∈ miniBatch, Maskable options sample) :
    maskedLoss Real.exp options tuning (miniBatch.map List.length)
        (miniBatchSignals tuning useDecoupledLoss miniBatch) =
      .ok (miniBatch.flatMap (sampleMasked options tuning useDecoupledLoss)) := by
  induction miniBatch with
  | nil =>
    have none := eq_nil_of_length_eq_zero
      (length_weightedLoss_signals options tuning useDecoupledLoss [])
    rw [maskedLoss, none]
    split <;> rfl
  | cons sample miniBatch ih =>
    obtain ⟨first, others⟩ := forall_mem_cons.mp maskable
    have own := maskedLoss_sample tuning useDecoupledLoss first
    have later := ih others
    have source : ∀ samples : List (SampleTerms ℝ),
        ((miniBatchSignals tuning useDecoupledLoss samples).rolloutPerTokenLogps.map
          List.flatten).getD (miniBatchSignals tuning useDecoupledLoss
            samples).oldPerTokenLogps = samples.flatten.map fun token =>
              if useDecoupledLoss then token.rolloutLogp else token.oldLogp := by
      intro samples
      cases useDecoupledLoss with
      | true => exact map_flatten.symm
      | false => rfl
    rw [maskedLoss] at own later ⊢
    rw [flatMap_cons, weightedLoss_cons]
    cases isDelta : options.offPolicyMaskingDelta with
    | none =>
      rw [isDelta] at own later
      rw [← Except.ok.inj own, ← Except.ok.inj later]
    | some delta =>
      have filled := length_pos_of_ne_nil (first (by rw [isDelta, Option.isSome_some]))
      have weighted := length_weightedLoss_signals options tuning useDecoupledLoss [sample]
      rw [flatten_singleton, map_cons, map_nil] at weighted
      rw [isDelta] at own later
      simp only [source] at own later ⊢
      simp only [miniBatchSignals, flatten_cons, flatten_nil, append_nil,
        map_append, map_cons] at own later weighted ⊢
      rw [applyOffPolicyMask_cons delta filled weighted (length_map _)
        (length_map _) (length_map _), own, later]

end Tokens

section Sequences

variable (options : LossOptions ℝ) (tuning : LossTuning ℝ) (useDecoupledLoss : Bool)

def AveragesSequences : Prop :=
  options.lossType = .seqMeanTokenMean ∨ options.lossType = .seqMeanTokenSum

noncomputable def sequenceLoss (losses : List ℝ) : Option ℝ :=
  match options.lossType with
  | .seqMeanTokenMean =>
    if 0 < options.unbiasedLossMaxTokens.getD 0 then
      some (losses.sum / ((options.unbiasedLossMaxTokens.getD 0).toNat : ℝ))
    else if losses = [] then none
    else some (losses.sum / (losses.length : ℝ))
  | _ => some losses.sum

noncomputable def sampleLoss (sample : SampleTerms ℝ) : Option ℝ :=
  Option.map₂ (· + ·)
    (sequenceLoss options (sampleMasked options tuning useDecoupledLoss sample))
    ((sequenceLoss options (sample.map (divergenceTerm tuning))).map fun divergence =>
      divergence * tuning.klBeta)

theorem totalOf_map_div (terms : List (Option ℝ)) (divisor : ℝ) :
    (totalOf terms).map (fun value => value / divisor) =
      totalOf (terms.map (Option.map fun value => value / divisor)) := by
  have scaled := map_totalOf (AddMonoidHom.mulRight divisor⁻¹) terms
  simpa only [AddMonoidHom.coe_mulRight, ← div_eq_mul_inv] using scaled

theorem totalOf_map_mul (terms : List (Option ℝ)) (factor : ℝ) :
    (totalOf terms).map (fun value => value * factor) =
      totalOf (terms.map (Option.map fun value => value * factor)) :=
  map_totalOf (AddMonoidHom.mulRight factor) terms

variable {options}

theorem aggregateLoss_samples (averages : AveragesSequences options) (workers : DpWorkers)
    {miniBatch : List (SampleTerms ℝ)} {losses : SampleTerms ℝ → List ℝ}
    (lengths : ∀ sample ∈ miniBatch, (losses sample).length = sample.length) :
    aggregateLoss options tuning workers (miniBatch.map List.length)
        (miniBatch.flatMap losses) =
      (totalOf (miniBatch.map fun sample => sequenceLoss options (losses sample))).map
        fun total => total / (miniBatch.length : ℝ) := by
  have sameLengths : miniBatch.map List.length = (miniBatch.map losses).map List.length := by
    rw [map_map]
    exact map_congr_left fun sample member => (lengths sample member).symm
  have cut : (miniBatch.map List.length).splitLengths (miniBatch.flatMap losses) =
      miniBatch.map losses := by
    rw [sameLengths, flatMap_def, splitLengths_flatten]
  have total (value : SampleTerms ℝ → ℝ) :
      totalOf (miniBatch.map fun sample => some (value sample)) =
        some (miniBatch.map value).sum := by
    rw [← totalOf_map_some, map_map]
    rfl
  rcases averages with lossTypeIs | lossTypeIs
  · simp only [aggregateLoss, sequenceLoss, lossTypeIs, cut]
    by_cases bounded : 0 < options.unbiasedLossMaxTokens.getD 0
    · simp only [if_pos bounded, total, map_map, length_map, Option.map_some]
      rfl
    · simp only [if_neg bounded]
      by_cases empty : 0 ∈ miniBatch.map List.length
      · obtain ⟨sample, member, isEmpty⟩ := mem_map.mp empty
        have noLosses : losses sample = [] :=
          eq_nil_of_length_eq_zero ((lengths sample member).trans isEmpty)
        rw [if_pos empty, totalOf_eq_none (mem_map.mpr ⟨sample, member, if_pos noLosses⟩)]
        rfl
      · have filled : ∀ sample ∈ miniBatch, losses sample ≠ [] := by
          intro sample member none
          apply empty
          rw [← length_eq_zero_iff, lengths sample member] at none
          exact mem_map.mpr ⟨sample, member, none⟩
        have means : (miniBatch.map fun sample => if losses sample = [] then none
            else some ((losses sample).sum / ((losses sample).length : ℝ))) =
              miniBatch.map fun sample =>
                some ((losses sample).sum / ((losses sample).length : ℝ)) :=
          map_congr_left fun sample member => if_neg (filled sample member)
        rw [if_neg empty, means, total, sameLengths, map_map, map_map,
          zipWith_map, zipWith_self, length_map]
        rfl
  · simp only [aggregateLoss, sequenceLoss, lossTypeIs, cut, total, map_map,
      length_map, Option.map_some]
    rfl

/-- The loss of a mini-batch is the mean of what its samples add. -/
theorem computeLoss_samples (averages : AveragesSequences options) (workers : DpWorkers)
    {miniBatch : List (SampleTerms ℝ)} (maskable : ∀ sample ∈ miniBatch, Maskable options sample) :
    computeLoss Real.exp options tuning workers (miniBatch.map List.length)
        (miniBatchSignals tuning useDecoupledLoss miniBatch) =
      .ok ((totalOf (miniBatch.map (sampleLoss options tuning useDecoupledLoss))).map
        fun total => total / (miniBatch.length : ℝ)) := by
  have policyTerm := aggregateLoss_samples tuning averages workers
    fun sample member => length_sampleMasked tuning useDecoupledLoss (maskable sample member)
  have klTerm := @aggregateLoss_samples options tuning averages workers miniBatch
    (List.map (divergenceTerm tuning)) fun sample _ => length_map _
  rw [computeLoss, checkShapes_signals, maskedLoss_signals tuning useDecoupledLoss maskable,
    klLossOfTokens_signals]
  simp only [bind, Except.bind, policyTerm, klTerm]
  congr 1
  have divergences := totalOf_map_mul (miniBatch.map fun sample =>
    sequenceLoss options (sample.map (divergenceTerm tuning))) tuning.klBeta
  rw [map_map] at divergences
  have parts : totalOf (miniBatch.map (sampleLoss options tuning useDecoupledLoss)) =
      Option.map₂ (· + ·)
        (totalOf (miniBatch.map fun sample =>
          sequenceLoss options (sampleMasked options tuning useDecoupledLoss sample)))
        ((totalOf (miniBatch.map fun sample =>
          sequenceLoss options (sample.map (divergenceTerm tuning)))).map
            fun divergence => divergence * tuning.klBeta) := by
    rw [divergences]
    exact totalOf_map_add _ _ _
  rw [parts]
  cases totalOf (miniBatch.map fun sample =>
      sequenceLoss options (sampleMasked options tuning useDecoupledLoss sample)) with
  | none => rfl
  | some policy =>
    cases totalOf (miniBatch.map fun sample =>
        sequenceLoss options (sample.map (divergenceTerm tuning))) with
    | none => rfl
    | some divergence =>
      simp only [Option.map_some, Option.bind_some, Option.map₂_some_some]
      rw [add_div, mul_div_right_comm]

end Sequences

end CosmosRl.Policy
