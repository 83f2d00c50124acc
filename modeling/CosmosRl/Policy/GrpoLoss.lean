import CosmosRl.Dispatcher.Protocol
import Mathlib.Algebra.Order.Field.Basic
import Mathlib.Data.List.SplitLengths

/-!
`compute_loss` and the terms `step_training` adds to it, in exact arithmetic.

A tensor over the trained tokens of a mini-batch is one list, whatever the layout; the
layout shows in the numbers of trained tokens of the rows, which `cu_seqlens` sums up.
Values come from an ordered field with an exponential function.  A result that is not a
number is `none`.
-/

namespace CosmosRl.Policy

open CosmosRl.Dispatcher (PyError)

inductive GrpoVariant where
  | grpo
  | gspo
  | dapo
  deriving DecidableEq, Repr

inductive LossType where
  | seqMeanTokenMean
  | seqMeanTokenSum
  | tokenMean
  | tokenSum
  deriving DecidableEq, Repr

structure LossOptions (Value : Type) where
  variant : GrpoVariant
  lossType : LossType
  unbiasedLossMaxTokens : Option Int
  offPolicyMaskingDelta : Option Value
  positiveNllCoef : Option Value
  distillation : Bool
  klDiscountFactor : Value

structure LossTuning (Value : Type) where
  aipoRho : Option Value
  epsilonLow : Value
  epsilonHigh : Value
  lowerBoundRatio : Value
  behavImpWeightCap : Option Value
  klBeta : Value
  unbiasedKlEstimate : Bool
  balanceDpToken : Bool
  entropyCoeff : Value
  klPenaltyCoef : Value

structure DpWorkers where
  numDpWorkers : Nat
  otherTokens : Nat

structure LossSignals (Value : Type) where
  currentTokenLogps : List Value
  oldPerTokenLogps : List Value
  refPerTokenLogps : Option (List Value)
  rolloutPerTokenLogps : Option (List (List Value))
  advantages : List Value
  teacherLogprobs : List Value
  entropies : List Value

section Tokens

variable {Value : Type} [Field Value] [LinearOrder Value] (exp : Value → Value)
  (options : LossOptions Value) (tuning : LossTuning Value)

/-- `torch.clamp` with optional bounds. -/
def clamp (min? max? : Option Value) (value : Value) : Value :=
  let raised :=
    match min? with
    | some bound => max value bound
    | none => value
  match max? with
  | some bound => min raised bound
  | none => raised

def tokenRatio (negativeApproxKl : Value) : Value :=
  exp (clamp (some (-20)) (some 20) negativeApproxKl)

def sequenceRatio (negativeApproxKl : Value) : Value :=
  exp (clamp none (some 10) negativeApproxKl)

/-- `importance_ratio`.  A sequence without tokens has no ratio. -/
def importanceRatio (seqlens : List Nat) (negativeApproxKl : List Value) : List Value :=
  match options.variant with
  | .gspo =>
    (seqlens.splitLengths negativeApproxKl).flatMap fun seqTokens =>
      List.replicate seqTokens.length
        (sequenceRatio exp (seqTokens.sum / seqTokens.length))
  | _ => negativeApproxKl.map (tokenRatio exp)

def tokenLoss (ratio advantage : Value) : Value :=
  match tuning.aipoRho with
  | some rho => -clamp none (some rho) ratio * advantage
  | none =>
    let minClipped := if 0 ≤ tuning.epsilonLow then some (1 - tuning.epsilonLow) else none
    let maxClipped := if 0 ≤ tuning.epsilonHigh then some (1 + tuning.epsilonHigh) else none
    let loss1 := ratio * advantage
    let loss2 := clamp minClipped maxClipped ratio * advantage
    match options.variant with
    | .gspo => -min loss1 loss2
    | _ =>
      let loss3 := -tuning.lowerBoundRatio * advantage
      let clipLosses1 := -min loss1 loss2
      if advantage < 0 then min loss3 clipLosses1 else clipLosses1

def behavImpWeight (old rollout : Value) : Value :=
  let weight := exp (old - rollout)
  match tuning.behavImpWeightCap with
  | some cap => if weight ≤ cap then weight else 0
  | none => weight

def gather (values : List Value) (positions : List Nat) : Except PyError (List Value) :=
  positions.mapM fun position =>
    match values[position]? with
    | some value => .ok value
    | none => .error .indexError

/-- `_apply_off_policy_mask`.  The difference of two prefix sums is the sum of the tokens
between them. -/
def applyOffPolicyMask (delta : Value) (seqlens : List Nat) (perTokenLoss maskingSource
    current advantages : List Value) : Except PyError (List Value) :=
  let logprobDiff := List.zipWith (fun source now => source - now) maskingSource current
  let seqMeanLogprobDiff := List.zipWith
    (fun (sum : Value) (length : Nat) => sum / ((max length 1 : Nat) : Value))
    ((seqlens.splitLengths logprobDiff).map List.sum) seqlens
  -- the first token of every sequence, in `cu_seqlens[:-1]`
  let starts := (seqlens.scanl (· + ·) 0).dropLast
  (gather advantages starts).map fun advantageBySequence =>
    let seqMask := List.zipWith (fun (advantage mean : Value) =>
      if 0 ≤ advantage ∨ mean ≤ delta then (1 : Value) else 0) advantageBySequence
        seqMeanLogprobDiff
    List.zipWith (· * ·) perTokenLoss (List.zipWith List.replicate seqlens seqMask).flatten

def klLossOfToken (current old ref : Value) : Value :=
  let klRatio := clamp (some (-20)) (some 20) (ref - current)
  let estimate := exp klRatio - klRatio - 1
  clamp (some (-10)) (some 10)
    (if tuning.unbiasedKlEstimate then exp (current - old) * estimate else estimate)

/-- `kl_loss` of the tokens. -/
def klLossOfTokens (current old : List Value) (ref : Option (List Value)) :
    Except PyError (List Value) :=
  if tuning.klBeta = 0 then .ok (current.map fun _ => 0)
  else
    match ref with
    | none => .error .attributeError
    | some ref =>
      .ok (List.zipWith (fun pair reference =>
        klLossOfToken exp tuning pair.1 pair.2 reference) (current.zip old) ref)

/-- A loss of the tokens taken together by `loss_type`. -/
def aggregateLoss (workers : DpWorkers) (seqlens : List Nat) (tokens : List Value) :
    Option Value :=
  let seqSum := (seqlens.splitLengths tokens).map List.sum
  match options.lossType with
  | .seqMeanTokenMean =>
    if 0 < options.unbiasedLossMaxTokens.getD 0 then
      some ((seqSum.map fun sum =>
        sum / ((options.unbiasedLossMaxTokens.getD 0).toNat : Value)).sum / seqlens.length)
    else if 0 ∈ seqlens then none
    else some ((List.zipWith (fun sum (length : Nat) => sum / (length : Value)) seqSum
      seqlens).sum / seqlens.length)
  | .seqMeanTokenSum => some (seqSum.sum / seqlens.length)
  | .tokenMean =>
    if tuning.balanceDpToken then
      some (seqSum.sum / ((seqlens.sum + workers.otherTokens : Nat) + 1 / 100000000) *
        workers.numDpWorkers)
    else some (seqSum.sum / ((seqlens.sum : Nat) + 1 / 100000000))
  | .tokenSum => some seqSum.sum

/-- The shapes that `compute_loss` asserts. -/
def checkShapes (signals : LossSignals Value) : Except PyError Unit :=
  let count := signals.currentTokenLogps.length
  if signals.advantages.length ≠ count then
    .error (.assertionError "current_token_logps and current_advantages should have the same shape")
  else if signals.oldPerTokenLogps.length ≠ count then
    .error (.assertionError "old_per_token_logps and current_token_logps should have the same shape")
  else if (signals.refPerTokenLogps.any fun ref => ref.length ≠ count) then
    .error (.assertionError "ref_per_token_logps and current_token_logps should have the same shape")
  else if (signals.rolloutPerTokenLogps.any fun rollout => rollout.flatten.length ≠ count) then
    .error (.assertionError
      "rollout_per_token_logps and current_token_logps should have the same shape")
  else .ok ()

/-- `per_token_loss` with the importance weights of the rollouts' policy. -/
def weightedLoss (seqlens : List Nat) (signals : LossSignals Value) : List Value :=
  let negativeApproxKl := List.zipWith (fun now before => now - before)
    signals.currentTokenLogps signals.oldPerTokenLogps
  let clippedLoss := List.zipWith (tokenLoss options tuning)
    (importanceRatio exp options seqlens negativeApproxKl) signals.advantages
  match signals.rolloutPerTokenLogps with
  | some rollout =>
    List.zipWith (· * ·) clippedLoss (List.zipWith (behavImpWeight exp tuning)
      signals.oldPerTokenLogps rollout.flatten)
  | none => clippedLoss

/-- `per_token_loss` after the off-policy mask, which compares with the rollouts' policy
if it is known. -/
def maskedLoss (seqlens : List Nat) (signals : LossSignals Value) :
    Except PyError (List Value) :=
  match options.offPolicyMaskingDelta with
  | some delta =>
    applyOffPolicyMask delta seqlens (weightedLoss exp options tuning seqlens signals)
      ((signals.rolloutPerTokenLogps.map List.flatten).getD signals.oldPerTokenLogps)
      signals.currentTokenLogps signals.advantages
  | none => .ok (weightedLoss exp options tuning seqlens signals)

/-- `compute_loss`; a row of the batch is a number in `seqlens`. -/
def computeLoss (workers : DpWorkers) (seqlens : List Nat) (signals : LossSignals Value) :
    Except PyError (Option Value) := do
  checkShapes signals
  let perTokenLoss ← maskedLoss exp options tuning seqlens signals
  let klLoss ← klLossOfTokens exp tuning signals.currentTokenLogps signals.oldPerTokenLogps
    signals.refPerTokenLogps
  .ok (do
    let policyTerm ← aggregateLoss options tuning workers seqlens perTokenLoss
    let klTerm ← aggregateLoss options tuning workers seqlens klLoss
    some (policyTerm + klTerm * tuning.klBeta))

/-- `discounted_future_sum_loop`. -/
def discountedFutureSum (gamma : Value) : List Value → List Value
  | [] => []
  | value :: rest =>
    let returns := discountedFutureSum gamma rest
    (value + gamma * returns.headD 0) :: returns

/-- `compute_teacher_kl_advantages`: the advantages with the discounted divergence from
the teacher. -/
def computeTeacherKlAdvantages (seqlens : List Nat) (currentLogprobs teacherLogprobs
    advantages : List Value) : Except PyError (List Value) :=
  if currentLogprobs.length = teacherLogprobs.length ∧
      teacherLogprobs.length = advantages.length then
    if seqlens.sum = currentLogprobs.length then
      let klAdvantages := List.zipWith
        (fun current teacher => -tuning.klPenaltyCoef * (current - teacher)) currentLogprobs
        teacherLogprobs
      let discounted :=
        if options.klDiscountFactor = 0 then klAdvantages
        else (seqlens.splitLengths klAdvantages).flatMap
          (discountedFutureSum options.klDiscountFactor)
      .ok (List.zipWith (· + ·) advantages discounted)
    else .error (.assertionError "cu_seqlens[-1] != kl_advantages.shape[0]")
  else .error (.assertionError "current_logprobs.shape != teacher_logprobs.shape")

def meanOf (values : List Value) : Option Value :=
  if values = [] then none else some (values.sum / values.length)

def expandFlags (flags : List Bool) (seqlens : List Nat) : Except PyError (List Bool) :=
  if flags.length = seqlens.length then
    .ok (List.zipWith List.replicate seqlens flags).flatten
  else if flags.length = 1 then .ok (List.replicate seqlens.sum (flags.headD false))
  else .error (.runtimeError "The expanded size of the tensor must match the existing size")

def withEntropy (entropies : List Value) (loss : Option Value) : Option Value :=
  if 0 < tuning.entropyCoeff then do
    let total ← loss
    let entropy ← meanOf entropies
    some (total + -tuning.entropyCoeff * entropy)
  else loss

def withPositives (positiveFlags : List Bool) (seqlens : List Nat)
    (currentTokenLogps : List Value) (loss : Option Value) : Except PyError (Option Value) :=
  match options.positiveNllCoef with
  | some coefficient =>
    if 0 < coefficient then
      (expandFlags positiveFlags seqlens).map fun flatMask =>
        if flatMask.any id then do
          let total ← loss
          let mean ← meanOf (((flatMask.zip currentTokenLogps).filter fun entry =>
            entry.1).map Prod.snd)
          some (total + coefficient * -mean)
        else loss
    else .ok loss
  | none => .ok loss

def teacherAdvantages (seqlens : List Nat) (signals : LossSignals Value) :
    Except PyError (List Value) :=
  if options.distillation then
    computeTeacherKlAdvantages options tuning seqlens signals.oldPerTokenLogps
      signals.teacherLogprobs signals.advantages
  else .ok signals.advantages

/-- The loss of a mini-batch as `step_training` propagates it. -/
def trainingLoss (workers : DpWorkers) (lossScalingFactor : Value) (positiveFlags : List Bool)
    (seqlens : List Nat) (signals : LossSignals Value) : Except PyError (Option Value) := do
  let advantages ← teacherAdvantages options tuning seqlens signals
  let loss ← computeLoss exp options tuning workers seqlens
    { signals with advantages := advantages }
  let total ← withPositives options positiveFlags seqlens signals.currentTokenLogps
    (withEntropy tuning signals.entropies loss)
  .ok (total.map fun value => value * lossScalingFactor)

end Tokens

end CosmosRl.Policy
