import CosmosRl.Policy.PackedLoss

/-!
Packing preserves the loss only if it keeps it.

Every probe of the groupings is the signals of some values of the mini-batch, in both
layouts.  A packed row without positions and a last token with another label show in
values of their own.
-/

namespace CosmosRl.Policy

open CosmosRl.Data CosmosRl.Foundation List
open CosmosRl.Dispatcher (PyError)

section Rows

variable {front back : List RLPolicyInput} {sample : RLPolicyInput} {value : Nat → Nat → ℝ}

theorem flatMap_zipIdx_const {samples : List RLPolicyInput} {start : Nat} {other : ℝ}
    (constant : ∀ entry ∈ samples.zipIdx start, ∀ position, value entry.2 position = other) :
    ((samples.zipIdx start).flatMap fun entry =>
        (trainedPositions entry.1).map (value entry.2)) =
      List.replicate (trainedCounts samples).sum other := by
  induction samples generalizing start with
  | nil => rfl
  | cons sample samples ih =>
    rw [zipIdx_cons] at constant ⊢
    have first : (trainedPositions sample).map (value start) =
        List.replicate (trainedPositions sample).length other := by
      rw [← map_const']
      exact map_congr_left fun position _ =>
        constant (sample, start) mem_cons_self position
    rw [flatMap_cons, ih fun entry member =>
      constant entry (mem_cons_of_mem _ member), first,
      replicate_append_replicate]
    rfl

theorem flatMap_zipIdx_marked {other : ℝ}
    (constant : ∀ index, index ≠ front.length → ∀ position, value index position = other) :
    ((front ++ sample :: back).zipIdx.flatMap fun entry =>
        (trainedPositions entry.1).map (value entry.2)) =
      List.replicate (trainedCounts front).sum other ++
        ((trainedPositions sample).map (value front.length) ++
          List.replicate (trainedCounts back).sum other) := by
  rw [zipIdx_append, flatMap_append, zipIdx_cons, flatMap_cons,
    flatMap_zipIdx_const, flatMap_zipIdx_const]
  · rw [Nat.zero_add]
  · intro entry member
    have later := le_snd_of_mem_zipIdx member
    exact constant entry.2 (by omega)
  · intro entry member
    have earlier := snd_lt_of_mem_zipIdx member
    exact constant entry.2 (by omega)

theorem head_lt_of_maskedPositions {offset first : Nat} {mask : List Bool} {rest : List Nat}
    (positions : maskedPositions offset mask = first :: rest) :
    ∀ position ∈ rest, first < position := by
  induction mask generalizing offset with
  | nil => cases positions
  | cons marked mask ih =>
    cases marked with
    | false =>
      rw [maskedPositions_false] at positions
      exact ih positions
    | true =>
      rw [maskedPositions_true, List.cons.injEq] at positions
      obtain ⟨rfl, rfl⟩ := positions
      intro position member
      exact offset_le_of_mem_maskedPositions member

theorem getD_lead (first position : Nat) (lead : ℝ) :
    ((List.replicate first 0 ++ [lead]) ++ [0]).getD position 0 =
      if position = first then lead else 0 := by
  rw [append_assoc, getD_eq_getElem?_getD]
  rcases Nat.lt_trichotomy position first with before | rfl | after
  · rw [getElem?_append_left (by rwa [length_replicate]), getElem?_replicate,
      if_pos before, if_neg (Nat.ne_of_lt before), Option.getD_some]
  · rw [getElem?_append_right (by rw [length_replicate]), length_replicate,
      Nat.sub_self, if_pos rfl]
    rfl
  · rw [getElem?_append_right (by rw [length_replicate]; omega),
      length_replicate, if_neg (Nat.ne_of_gt after)]
    obtain ⟨beyond, beyondIs⟩ := Nat.exists_eq_add_of_lt after
    rw [beyondIs, show first + beyond + 1 - first = beyond + 1 by omega]
    cases beyond <;> rfl

theorem map_lead (sample : RLPolicyInput) (lead : ℝ) :
    ((trainedPositions sample).map fun position =>
        ((List.replicate ((trainedPositions sample).headD 0) 0 ++ [lead]) ++ [0]).getD
          position 0) =
      headed (trainedPositions sample).length lead := by
  cases positionsAre : trainedPositions sample with
  | nil => rfl
  | cons first rest =>
    have later := head_lt_of_maskedPositions positionsAre
    rw [headD_cons, length_cons, headed_succ, map_cons, getD_lead, if_pos rfl, ← map_const']
    congr 1
    apply map_congr_left
    intro position member
    rw [getD_lead, if_neg (Nat.ne_of_gt (later position member))]

end Rows

section Misshaped

theorem trainingLoss_of_misshaped (options : LossOptions ℝ) (tuning : LossTuning ℝ)
    (workers : DpWorkers) (flags : List Bool) (seqlens : List Nat) {signals : LossSignals ℝ}
    (misshaped : signals.oldPerTokenLogps.length ≠ signals.currentTokenLogps.length)
    (teacherLength : signals.teacherLogprobs.length = signals.currentTokenLogps.length) :
    trainingLoss Real.exp options tuning workers 1 flags seqlens signals ≠
      .error .indexError := by
  rw [trainingLoss, teacherAdvantages]
  cases options.distillation with
  | true =>
    have differs : ¬(signals.oldPerTokenLogps.length = signals.teacherLogprobs.length ∧
        signals.teacherLogprobs.length = signals.advantages.length) := fun shapes =>
      misshaped (shapes.1.trans teacherLength)
    rw [if_pos rfl, computeTeacherKlAdvantages, if_neg differs]
    intro impossible
    cases impossible
  | false =>
    simp only [Bool.false_eq_true, if_false, bind, Except.bind, computeLoss]
    rw [checkShapes]
    dsimp only
    by_cases advantages : signals.advantages.length ≠ signals.currentTokenLogps.length
    · rw [if_pos advantages]
      intro impossible
      cases impossible
    · rw [if_neg advantages, if_pos misshaped]
      intro impossible
      cases impossible

end Misshaped

section Ratios

variable {total : Nat} {current : List ℝ}

theorem lt_sum_importanceRatio (options : LossOptions ℝ)
    (currentLength : current.length = total) (nonneg : ∀ logp ∈ current, 0 ≤ logp)
    {larger : ℝ} (member : larger ∈ current) (positive : 0 < larger) :
    (total : ℝ) < (importanceRatio Real.exp options [total] current).sum := by
  have filled : 0 < total := by
    rw [← currentLength]
    exact length_pos_of_mem member
  have totalPos : (0 : ℝ) < total := Nat.cast_pos.mpr filled
  by_cases sequences : options.variant = .gspo
  · have sumPos : 0 < current.sum :=
      lt_of_lt_of_le positive (single_le_sum nonneg larger member)
    have clampPos : 0 < clamp none (some 10) (current.sum / total) :=
      lt_min (div_pos sumPos totalPos) (by norm_num)
    have ratio := Real.one_lt_exp_iff.mpr clampPos
    rw [importanceRatio_single_gspo options sequences currentLength, sum_replicate,
      nsmul_eq_mul]
    exact lt_mul_of_one_lt_right totalPos ratio
  · have clamped (logp : ℝ) (logpNonneg : 0 ≤ logp) :
        0 ≤ clamp (some (-20)) (some 20) logp ∧
          (0 < logp → 0 < clamp (some (-20)) (some 20) logp) := by
      refine ⟨le_min (le_max_of_le_left logpNonneg) (by norm_num), fun logpPos => ?_⟩
      exact lt_min (lt_max_of_lt_left logpPos) (by norm_num)
    have ratios : importanceRatio Real.exp options [total] current =
        current.map (tokenRatio Real.exp) := by
      rw [importanceRatio]
      split
      next isSequence => exact absurd isSequence sequences
      next => rfl
    have ones : (total : ℝ) = (current.map fun _ => (1 : ℝ)).sum := by
      rw [map_const', sum_replicate, currentLength, nsmul_one]
    rw [ratios, ones]
    apply sum_lt_sum
    · intro logp logpMember
      exact Real.one_le_exp (clamped logp (nonneg logp logpMember)).1
    · exact ⟨larger, member,
        Real.one_lt_exp_iff.mpr ((clamped larger (nonneg larger member)).2 positive)⟩

theorem zipWith_neg_one {ratios : List ℝ} (ratiosLength : ratios.length = total) :
    List.zipWith (fun ratio advantage => -(ratio * advantage)) ratios
      (List.replicate total 1) = ratios.map fun ratio => -ratio := by
  rw [← ratiosLength, zipWith_replicate]
  simp only [mul_one]

/-- One row of tokens with other ratios has another loss. -/
theorem probeLoss_single_lt (options : LossOptions ℝ) {rows : Nat}
    (rowsFit : UsesPositives options → rows = 1)
    (currentLength : current.length = total) (nonneg : ∀ logp ∈ current, 0 ≤ logp)
    {larger : ℝ} (member : larger ∈ current) (positive : 0 < larger) :
    probeLoss options rows [total] (probeSignals current (List.replicate total 1)
        (List.replicate total 0) (List.replicate total 0)) ≠
      probeLoss options rows [total] (probeSignals (List.replicate total 0)
        (List.replicate total 1) (List.replicate total 0) (List.replicate total 0)) := by
  have filled : 0 < total := by
    rw [← currentLength]
    exact length_pos_of_mem member
  have advantagesNonneg : ∀ advantage ∈ List.replicate total (1 : ℝ), 0 ≤ advantage := by
    intro advantage advantageMember
    rw [eq_of_mem_replicate advantageMember]
    exact zero_le_one
  have ratiosLength {tokens : List ℝ} (tokensLength : tokens.length = total) :
      (importanceRatio Real.exp options [total] tokens).length = total := by
    rw [length_importanceRatio Real.exp options (tokensLength.trans sum_singleton.symm),
      sum_singleton]
  have lossOf {tokens : List ℝ} (tokensLength : tokens.length = total) :
      probeLoss options rows [total] (probeSignals tokens (List.replicate total 1)
          (List.replicate total 0) (List.replicate total 0)) =
        .ok (aggregateLoss options probeTuning probeWorkers [total]
          ((importanceRatio Real.exp options [total] tokens).map fun ratio => -ratio)) := by
    rw [probeLoss_eq options (by rw [tokensLength, length_replicate])
      (teacherAdvantages_zeros options sum_singleton tokensLength length_replicate)
      rowsFit,
      maskedLoss_of_nonneg options sum_singleton (fun _ => endsFilled_single filled)
        tokensLength length_replicate advantagesNonneg]
    rw [zipWith_neg_one (ratiosLength tokensLength)]
    rfl
  intro same
  rw [lossOf currentLength, lossOf length_replicate, Except.ok.injEq] at same
  obtain ⟨factor, factorNe, single⟩ := aggregateLoss_single_eq options filled
  have still : importanceRatio Real.exp options [total] (List.replicate total 0) =
      List.replicate total 1 := by
    have ratios := importanceRatio_replicate options 0 [total]
    rwa [sum_singleton, ratioOf_zero] at ratios
  rw [single _ ((length_map _).trans (ratiosLength currentLength)),
    single _ ((length_map _).trans (ratiosLength length_replicate)), Option.some.injEq] at same
  have sums := mul_left_cancel₀ factorNe same
  rw [← sum_neg, ← sum_neg, neg_inj, still, sum_replicate, nsmul_one] at sums
  exact absurd sums (ne_of_gt (lt_sum_importanceRatio options currentLength nonneg member positive))

end Ratios

section Probes

noncomputable def probeBatch (values : ProbeValues) (index firstPosition total : Nat) :
    MiniBatchValues (Nat × Nat) ℝ where
  logit row position := (row, position)
  oldPolicy := .rollout [List.replicate total 0]
  refLogit := none
  rolloutLogprobs := none
  advantage row := if row = index then values.advantageMarked else values.advantageOther
  positiveFlag _ := false
  teacherLogprobs row :=
    if row = index then List.replicate firstPosition 0 ++ [values.lead] else []

noncomputable def probeLogProb (values : ProbeValues) (index : Nat) (logit : Nat × Nat)
    (_ : Nat) : ℝ :=
  if logit.1 = index then values.currentMarked else values.currentOther

variable {padTokenId seqLenMultiple : Nat} {miniBatch front back : List RLPolicyInput}
  {sample : RLPolicyInput}

theorem rowSignals_probeBatch (split : miniBatch = front ++ sample :: back)
    (packingSeq : Bool) (values : ProbeValues) :
    rowSignals padTokenId (probeLogProb values front.length) (fun _ => 0)
        (lossRows padTokenId seqLenMultiple packingSeq miniBatch)
        (probeBatch values front.length ((trainedPositions sample).headD 0)
          (trainedCounts miniBatch).sum) =
      probeOf values (trainedCounts front) (trainedPositions sample).length
        (trainedCounts back) := by
  have entries (value : Nat → Nat → ℝ) (other : ℝ)
      (constant : ∀ index, index ≠ front.length → ∀ position, value index position = other) :
      ((lossRows padTokenId seqLenMultiple packingSeq miniBatch).flatMap fun row =>
        (trainedPositions row.sample).map (value row.index)) =
      List.replicate (trainedCounts front).sum other ++
        ((trainedPositions sample).map (value front.length) ++
          List.replicate (trainedCounts back).sum other) := by
    rw [← flatMap_zipIdx_marked constant, ← split]
    exact flatMap_lossRows packingSeq fun sample index =>
      (trainedPositions sample).map (value index)
  have byRow (other value : ℝ) :
      ((lossRows padTokenId seqLenMultiple packingSeq miniBatch).flatMap fun row =>
        (trainedPositions row.sample).map fun _ =>
          if row.index = front.length then value else other) =
      marked (trainedCounts front).sum (trainedPositions sample).length
        (trainedCounts back).sum other value := by
    rw [entries (fun index _ => if index = front.length then value else other) other
      fun index different _ => if_neg different, marked]
    simp only [if_true, map_const']
  have current := byRow values.currentOther values.currentMarked
  have advantages := byRow values.advantageOther values.advantageMarked
  have entropies := byRow 0 0
  have teachers := entries (fun index position =>
    ((if index = front.length then
      List.replicate ((trainedPositions sample).headD 0) 0 ++ [values.lead] else []) ++
        [0]).getD position 0) 0 (by
      intro index different position
      rw [if_neg different]
      cases position <;> rfl)
  simp only [if_true, map_lead] at teachers
  have lengths : (trainedCounts miniBatch).sum =
      (marked (trainedCounts front).sum (trainedPositions sample).length
        (trainedCounts back).sum values.currentOther values.currentMarked).length := by
    rw [length_marked, split, trainedCounts, map_append, sum_append, map_cons, sum_cons]
    rfl
  simp only [ite_self] at entropies
  unfold rowSignals probeOf probeSignals probeBatch rowLogps probeLogProb
  dsimp only
  rw [current, advantages, teachers, entropies, ← lengths]
  simp

variable (positive : 0 < seqLenMultiple)
  (packable : ∀ sample ∈ miniBatch, Packable padTokenId sample)
  {options : LossOptions ℝ}
  (preserves : PreservesLoss options padTokenId seqLenMultiple miniBatch)
include positive packable preserves

theorem probesAgree_of_preservesLoss
    (filled : ∀ row ∈ lossRows padTokenId seqLenMultiple true miniBatch, 0 < row.width) :
    ProbesAgree options (trainedCounts miniBatch) := by
  intro before count after split values
  obtain ⟨front, rest, batchSplit, rfl, restCounts⟩ := map_eq_append_iff.mp split
  obtain ⟨sample, back, rfl, rfl, rfl⟩ := map_eq_cons_iff.mp restCounts
  have same := preserves (Nat × Nat) (probeLogProb values front.length) (fun _ => 0) probeTuning
    probeWorkers 1 (probeBatch values front.length ((trainedPositions sample).headD 0)
      (trainedCounts miniBatch).sum)
  have flags : (List.range miniBatch.length).map (fun _ => false) =
      List.replicate (trainedCounts miniBatch).length false := by
    rw [map_const', length_range, trainedCounts, length_map]
  rw [miniBatchLoss_eq Real.exp options probeTuning _ _ positive packable true
      (fun _ => filled),
    miniBatchLoss_eq Real.exp options probeTuning _ _ positive packable false
      (fun impossible => absurd impossible Bool.false_ne_true),
    layoutSeqlens_packed, layoutSeqlens_padded, rowSignals_probeBatch batchSplit,
    rowSignals_probeBatch batchSplit] at same
  simp only [probeBatch, flags] at same
  exact same.symm

/-- A packed row without positions is an index error, which a padded mini-batch whose old
log probabilities have another length does not have. -/
theorem filled_of_preservesLoss :
    ∀ row ∈ lossRows padTokenId seqLenMultiple true miniBatch, 0 < row.width := by
  intro row member
  by_contra empty
  have same := preserves (Nat × Nat) (fun _ _ => 0) (fun _ => 0) probeTuning probeWorkers 1
    { logit := fun index position => (index, position)
      oldPolicy := .rollout [List.replicate ((trainedCounts miniBatch).sum + 1) 0]
      refLogit := none
      rolloutLogprobs := none
      advantage := fun _ => 0
      positiveFlag := fun _ => false
      teacherLogprobs := fun _ => [] }
  rw [miniBatchLoss_eq Real.exp options probeTuning _ _ positive packable false
      (fun impossible => absurd impossible Bool.false_ne_true)] at same
  have indexError : miniBatchLoss Real.exp options probeTuning padTokenId seqLenMultiple
      (fun (_ : Nat × Nat) _ => (0 : ℝ)) (fun _ => 0) true probeWorkers 1 miniBatch
      { logit := fun index position => (index, position)
        oldPolicy := .rollout [List.replicate ((trainedCounts miniBatch).sum + 1) 0]
        refLogit := none
        rolloutLogprobs := none
        advantage := fun _ => 0
        positiveFlag := fun _ => false
        teacherLogprobs := fun _ => [] } = .error .indexError := by
    unfold miniBatchLoss
    rw [evaluateModel_of_empty _ positive packable member (Nat.eq_zero_of_not_pos empty)]
    rfl
  rw [indexError] at same
  refine trainingLoss_of_misshaped options probeTuning _ _ _ ?_ ?_ same.symm
  · have count : (rowLogps padTokenId (fun (_ : Nat × Nat) _ => (0 : ℝ))
        (lossRows padTokenId seqLenMultiple false miniBatch)
        fun index position => (index, position)).length = (trainedCounts miniBatch).sum :=
      length_rowLogps false _ _
    simp [rowSignals, count]
  · simp [rowSignals, rowLogps, length_flatMap]

omit positive packable preserves in
/-- The signals of advantages 1 and old log probabilities 0. -/
theorem rowSignals_uniform (packingSeq : Bool) (logProb : Nat × Nat → Nat → ℝ) :
    rowSignals padTokenId logProb (fun _ => 0)
        (lossRows padTokenId seqLenMultiple packingSeq miniBatch)
        (probeBatch ⟨0, 0, 1, 1, 0⟩ 0 0 (trainedCounts miniBatch).sum) =
      probeSignals
        (rowLogps padTokenId logProb (lossRows padTokenId seqLenMultiple packingSeq miniBatch)
          fun index position => (index, position))
        (List.replicate (trainedCounts miniBatch).sum 1)
        (List.replicate (trainedCounts miniBatch).sum 0)
        (List.replicate (trainedCounts miniBatch).sum 0) := by
  have count := map_samples padTokenId seqLenMultiple packingSeq miniBatch fun sample =>
    (trainedPositions sample).length
  have constant (value : LossRow → Nat → ℝ) (other : ℝ)
      (same : ∀ row position, value row position = other) :
      ((lossRows padTokenId seqLenMultiple packingSeq miniBatch).flatMap fun row =>
        (trainedPositions row.sample).map (value row)) =
      List.replicate (trainedCounts miniBatch).sum other := by
    rw [eq_replicate_iff, length_flatMap, trainedCounts, ← count]
    refine ⟨by simp only [length_map], fun entry member => ?_⟩
    obtain ⟨row, -, rowMember⟩ := mem_flatMap.mp member
    obtain ⟨position, -, rfl⟩ := mem_map.mp rowMember
    exact same row position
  have advantages := constant (fun row _ => if row.index = 0 then (1 : ℝ) else 1) 1
    fun row position => ite_self _
  have entropies := constant (fun _ _ => 0) 0 fun row position => rfl
  have teachers := constant (fun row position =>
    ((if row.index = 0 then List.replicate 0 0 ++ [(0 : ℝ)] else []) ++ [0]).getD position 0)
    0 (by
      intro row position
      split
      · rw [getD_lead, ite_self]
      · cases position <;> rfl)
  have lengths : (rowLogps padTokenId logProb
      (lossRows padTokenId seqLenMultiple packingSeq miniBatch)
      fun index position => (index, position)).length = (trainedCounts miniBatch).sum :=
    length_rowLogps packingSeq logProb _
  unfold rowSignals probeSignals probeBatch
  dsimp only
  rw [advantages, teachers, entropies, lengths]
  simp

/-- A trained last token with another label in the packed row shows. -/
theorem labels_of_preservesLoss (nonempty : miniBatch ≠ [])
    (filled : ∀ row ∈ lossRows padTokenId seqLenMultiple true miniBatch, 0 < row.width)
    (kept : GroupingKept options (trainedCounts miniBatch)) {row : LossRow}
    (member : row ∈ lossRows padTokenId seqLenMultiple true miniBatch)
    (trained : row.sample.inputIds.length - 1 ∈ trainedPositions row.sample) :
    padTokenId = 0 ∨ row.sample.inputIds.length = paddedLen seqLenMultiple miniBatch ∨
      row.sample.inputIds.length < row.width := by
  by_contra labelled
  simp only [not_or] at labelled
  obtain ⟨padNe, notFull, notPadded⟩ := labelled
  have inside := (packable_lossRows packable true row member).marksTokens _ trained
  have laidOut := lossRows_laidOut true positive packable
  have keeps := laidOut.keepsTokens row member
  have within := laidOut.within row member
  have sampleAt := ((getElem?_lossRows true row.index row).mp
    (getElem?_of_mem_lossRows true member)).2.1
  -- the log probability is 1 for the label of the packed row only
  obtain ⟨logProb, logProbIs⟩ : ∃ logProb : Nat × Nat → Nat → ℝ, logProb = fun logit label =>
    if logit.1 = row.index ∧ logit.2 = row.sample.inputIds.length - 1 ∧ label = 0 then 1
    else 0 := ⟨_, rfl⟩
  obtain ⟨packed, packedIs⟩ : ∃ packed, packed = rowLogps padTokenId logProb
      (lossRows padTokenId seqLenMultiple true miniBatch) fun index position =>
        (index, position) := ⟨_, rfl⟩
  have packedLength : packed.length = (trainedCounts miniBatch).sum := by
    rw [packedIs]
    exact length_rowLogps true logProb _
  have packedNonneg : ∀ logp ∈ packed, 0 ≤ logp := by
    intro logp logpMember
    rw [packedIs] at logpMember
    obtain ⟨other, -, otherMember⟩ := mem_flatMap.mp logpMember
    obtain ⟨position, -, rfl⟩ := mem_map.mp otherMember
    rw [logProbIs]
    dsimp only
    split
    · exact zero_le_one
    · exact le_refl 0
  have packedOne : (1 : ℝ) ∈ packed := by
    rw [packedIs]
    refine mem_flatMap.mpr ⟨row, member, mem_map.mpr ⟨_, trained, ?_⟩⟩
    rw [logProbIs, tokenLabel, if_neg (by omega)]
    exact if_pos ⟨rfl, rfl, rfl⟩
  have padded : rowLogps padTokenId logProb
      (lossRows padTokenId seqLenMultiple false miniBatch) (fun index position =>
        (index, position)) = List.replicate (trainedCounts miniBatch).sum 0 := by
    refine eq_replicate_iff.mpr ⟨length_rowLogps false logProb _, fun logp logpMember => ?_⟩
    obtain ⟨other, otherRow, otherMember⟩ := mem_flatMap.mp logpMember
    obtain ⟨position, -, rfl⟩ := mem_map.mp otherMember
    rw [logProbIs]
    refine if_neg ?_
    rintro ⟨sameIndex, rfl, label⟩
    have otherAt := ((getElem?_lossRows false other.index other).mp
      (getElem?_of_mem_lossRows false otherRow)).2.1
    dsimp only at sameIndex label
    rw [sameIndex, sampleAt, Option.some.injEq] at otherAt
    have beyond : row.sample.inputIds[row.sample.inputIds.length - 1 + 1]? = none :=
      getElem?_eq_none_iff.mpr (by omega)
    rw [width_padded positive packable otherRow, ← otherAt, tokenLabel, if_pos (by omega),
      getD_eq_getElem?_getD, beyond, Option.getD_none] at label
    exact padNe label
  have flags : (List.range miniBatch.length).map (fun _ => false) =
      List.replicate (trainedCounts miniBatch).length false := by
    rw [map_const', length_range, trainedCounts, length_map]
  have countsNonempty : trainedCounts miniBatch ≠ [] := by
    rw [trainedCounts]
    exact fun empty => nonempty (map_eq_nil_iff.mp empty)
  have filledTotal : (trainedCounts miniBatch).sum ≠ 0 := by
    rw [← packedLength]
    exact Nat.ne_of_gt (length_pos_of_mem packedOne)
  have rowsFit : UsesPositives options → (trainedCounts miniBatch).length = 1 := fun uses =>
    (kept.positives uses).resolve_right fun undecided => filledTotal undecided.2
  have same := preserves (Nat × Nat) logProb (fun _ => 0) probeTuning probeWorkers 1
    (probeBatch ⟨0, 0, 1, 1, 0⟩ 0 0 (trainedCounts miniBatch).sum)
  rw [miniBatchLoss_eq Real.exp options probeTuning _ _ positive packable true
      (fun _ => filled),
    miniBatchLoss_eq Real.exp options probeTuning _ _ positive packable false
      (fun impossible => absurd impossible Bool.false_ne_true),
    layoutSeqlens_packed, layoutSeqlens_padded, rowSignals_uniform, rowSignals_uniform,
    ← packedIs, padded,
    trainingLoss_single Real.exp probeTuning probeWorkers kept countsNonempty 1 _
      (length_replicate)] at same
  simp only [probeBatch, flags] at same
  exact probeLoss_single_lt options rowsFit packedLength packedNonneg packedOne zero_lt_one same

omit preserves in
/-- Packing preserves the loss of exactly the mini-batches whose rows keep a position, whose
trained last tokens keep their labels and whose grouping is kept. -/
theorem preservesLoss_iff (nonempty : miniBatch ≠ []) :
    PreservesLoss options padTokenId seqLenMultiple miniBatch ↔
      LossKept options padTokenId seqLenMultiple miniBatch := by
  refine ⟨fun preserves => ?_, preservesLoss_of_lossKept positive packable nonempty⟩
  have filled := filled_of_preservesLoss positive packable preserves
  have countsNonempty : trainedCounts miniBatch ≠ [] := by
    rw [trainedCounts]
    exact fun empty => nonempty (map_eq_nil_iff.mp empty)
  have kept := groupingKept_of_probesAgree countsNonempty
    (probesAgree_of_preservesLoss positive packable preserves filled)
  have rowAt {index : Nat} {sample : RLPolicyInput} (found : miniBatch[index]? = some sample) :
      ∃ row ∈ lossRows padTokenId seqLenMultiple true miniBatch,
        row.index = index ∧ row.sample = sample := by
    have samples := map_sample_lossRows padTokenId seqLenMultiple true miniBatch
    rw [← samples, getElem?_map, Option.map_eq_some_iff] at found
    obtain ⟨row, rowIs, sampleIs⟩ := found
    exact ⟨row, mem_of_getElem? rowIs, ((getElem?_lossRows true index row).mp rowIs).1,
      sampleIs⟩
  refine ⟨?_, ?_, kept⟩
  · intro index sample found empty
    obtain ⟨row, member, rfl, rfl⟩ := rowAt found
    have someWidth := filled row member
    rw [← lt_width_packed_iff positive packable member, empty]
    exact someWidth
  · intro index sample found trained
    obtain ⟨row, member, rfl, rfl⟩ := rowAt found
    rw [← lt_width_packed_iff positive packable member]
    exact labels_of_preservesLoss positive packable preserves nonempty filled kept member trained

end Probes

section Inputs

theorem lt_of_mem_maskedPositions {position : Nat} {mask : List Bool}
    (member : position ∈ maskedPositions 0 mask) : position < mask.length := by
  have taken := maskedPositions_take 0 mask.length mask
  rw [take_length, Nat.zero_add] at taken
  rw [taken, mem_filter] at member
  exact of_decide_eq_true member.2

theorem packable_of_getPolicyInput {tokenizer : Tokenizer} {multiTurn : Bool}
    {sample : PromptSample} {completion : Completion} {nIgnorePrefixTokens padTokenId : Nat}
    {packed : RLPolicyInput}
    (input : getPolicyInput tokenizer multiTurn sample completion nIgnorePrefixTokens =
      .ok packed) (unpadded : padTokenId ∉ packed.inputIds) : Packable padTokenId packed := by
  refine ⟨unpadded, fun position trained => ?_⟩
  rw [trainedPositions] at trained
  cases multiTurn with
  | false =>
    obtain ⟨tokens, positions⟩ := getPolicyInput_singleTurn input
    rw [positions, mem_range'_1] at trained
    rw [tokens, length_append]
    omega
  | true =>
    rw [← length_logprobMasks_multiTurn input]
    exact lt_of_mem_maskedPositions trained

end Inputs

section Examples

def pairedRows : List RLPolicyInput :=
  [⟨[5, 6], [true, false]⟩, ⟨[5, 7], [true, false]⟩]

noncomputable def sequenceSums : LossOptions ℝ :=
  ⟨.grpo, .seqMeanTokenSum, none, none, none, false, 0⟩

theorem packable_pairedRows : ∀ sample ∈ pairedRows, Packable 0 sample := by
  intro sample member
  rw [pairedRows, mem_pair] at member
  rcases member with rfl | rfl
  · exact ⟨by decide, by decide⟩
  · exact ⟨by decide, by decide⟩

/-- Packing two rows does not average their sums. -/
theorem not_preservesLoss_pairedRows : ¬PreservesLoss sequenceSums 0 1 pairedRows := by
  intro preserves
  have filled := filled_of_preservesLoss Nat.zero_lt_one packable_pairedRows preserves
  have agree := probesAgree_of_preservesLoss Nat.zero_lt_one packable_pairedRows preserves filled
  have kept := groupingKept_of_probesAgree (by decide) agree
  rcases kept.means with single | empty
  · exact absurd single (by decide)
  · exact absurd empty (by decide)

/-- A single row is packed without a change. -/
theorem preservesLoss_oneRow : PreservesLoss sequenceSums 0 1 [⟨[5, 6], [true, false]⟩] := by
  refine (preservesLoss_iff Nat.zero_lt_one (fun sample member =>
    packable_pairedRows sample (mem_cons.mpr (Or.inl (mem_singleton.mp member))))
    (by decide)).mpr ⟨?_, fun _ _ _ _ => Or.inl rfl, ?_⟩
  · intro index sample found empty
    cases index with
    | zero =>
      rw [getElem?_cons_zero, Option.some.injEq] at found
      rw [← found] at empty
      cases empty
    | succ index => cases found
  · exact ⟨fun _ => Or.inl rfl, fun isMasked => absurd isMasked Bool.false_ne_true,
      fun _ => pairwise_singleton _ _, Or.inl rfl⟩

end Examples

end CosmosRl.Policy
