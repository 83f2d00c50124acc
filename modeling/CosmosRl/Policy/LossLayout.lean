import CosmosRl.Foundation.Collecting
import CosmosRl.Policy.GrpoLoss
import CosmosRl.Utils.SequencePacking

/-!
The loss of a mini-batch in the padded and in the packed layout.

The models are evaluated outside of this development: a position of a row has one logit,
whatever the layout.  Both layouts read the same signals for the same trained tokens,
apart from the label of a row's last token, and differ in the numbers of trained tokens
that `cu_seqlens` sums up.
-/

namespace CosmosRl.Policy

open CosmosRl.Data CosmosRl.Foundation CosmosRl.Utils
open CosmosRl.Dispatcher (PyError)

/-- Where `old_per_token_logps` of a mini-batch comes from: this evaluation, an earlier
one in the same layout, or the rollouts. -/
inductive OldPolicy (Logit Value : Type) where
  | current
  | computed (logit : Nat → Nat → Logit)
  | rollout (logprobs : List (List Value))

structure MiniBatchValues (Logit Value : Type) where
  logit : Nat → Nat → Logit
  oldPolicy : OldPolicy Logit Value
  refLogit : Option (Nat → Nat → Logit)
  rolloutLogprobs : Option (List (List Value))
  advantage : Nat → Value
  positiveFlag : Nat → Bool
  teacherLogprobs : Nat → List Value

section Layout

def layOut {Alpha : Type} (validInputLen : Option (List Nat)) (rows : List (List Alpha)) :
    List (List Alpha) :=
  match validInputLen with
  | some lengths => [packSequences rows lengths]
  | none => rows

def selectTokens {Alpha : Type} (logprobMasks : List (List Bool)) (rows : List (List Alpha)) :
    List Alpha :=
  (List.zipWith selectMasked logprobMasks rows).flatten

variable {Logit Value : Type} (logProb : Logit → Nat → Value)

/-- `compute_logprobs`: the log probabilities of the masked positions and the number of
them in every row.  A model that returns the logits of the masked positions only has
selected them by the same mask. -/
def computeLogprobs (validInputLen : Option (List Nat)) (inputIdsBatch : List (List Nat))
    (logprobMasks : List (List Bool)) (logits : List (List Logit)) :
    Except PyError (List Value × List Nat) := do
  let shiftedInputIds ←
    match validInputLen with
    | some lengths =>
      inputIdsBatch.mapM (shiftPacked 0 (inputPackingMask lengths) (labelPackingMask lengths))
    | none => .ok (inputIdsBatch.map (shiftInputIds 0))
  .ok (List.zipWith logProb (selectTokens logprobMasks logits)
      (selectTokens logprobMasks shiftedInputIds),
    logprobMasks.map fun mask => mask.count true)

end Layout

section MiniBatch

variable (padTokenId seqLenMultiple : Nat) (packingSeq : Bool) (miniBatch : List RLPolicyInput)

def paddedLen : Nat := computedMaxLen none seqLenMultiple miniBatch

/-- `valid_input_len`, if the mini-batch is packed. -/
def validLengths : Option (List Nat) :=
  if packingSeq then
    some (packSequencesInfoCollect
      (miniBatch.map fun sample =>
        collateRow padTokenId (paddedLen seqLenMultiple miniBatch) sample.inputIds)
      padTokenId seqLenMultiple)
  else none

/-- `logprob_masks` of the layout. -/
def layoutMasks : List (List Bool) :=
  layOut (validLengths padTokenId seqLenMultiple packingSeq miniBatch)
    (miniBatch.map fun sample =>
      collateRow false (paddedLen seqLenMultiple miniBatch) sample.logprobMasks)

variable {Logit Value : Type} (logProb : Logit → Nat → Value)

/-- `compute_logprobs` on the logits of a model. -/
def evaluateModel (logit : Nat → Nat → Logit) : Except PyError (List Value × List Nat) :=
  let validInputLen := validLengths padTokenId seqLenMultiple packingSeq miniBatch
  computeLogprobs logProb validInputLen
    (layOut validInputLen (miniBatch.map fun sample =>
      collateRow padTokenId (paddedLen seqLenMultiple miniBatch) sample.inputIds))
    (layoutMasks padTokenId seqLenMultiple packingSeq miniBatch)
    (layOut validInputLen ((List.range miniBatch.length).map fun index =>
      (List.range (paddedLen seqLenMultiple miniBatch)).map (logit index)))

/-- `old_per_token_logps`. -/
def oldLogps (current : List Value) :
    OldPolicy Logit Value → Except PyError (List Value)
  | .current => .ok current
  | .computed logit =>
    (evaluateModel padTokenId seqLenMultiple packingSeq miniBatch logProb logit).map Prod.fst
  | .rollout logprobs => .ok logprobs.flatten

/-- `ref_per_token_logps`. -/
def refLogps : Option (Nat → Nat → Logit) → Except PyError (Option (List Value))
  | some logit =>
    (evaluateModel padTokenId seqLenMultiple packingSeq miniBatch logProb logit).map
      fun result => some result.1
  | none => .ok none

/-- `minibatched_advantages`: an advantage stands at all positions of its row, which
`pack_sequences_for_logprobs` repeats for the valid length. -/
def minibatchedAdvantages (advantage : Nat → Value) : List (List Value) :=
  let indices := List.range miniBatch.length
  match validLengths padTokenId seqLenMultiple packingSeq miniBatch with
  | some lengths => [(List.zipWith (fun length index =>
    List.replicate length (advantage index)) lengths indices).flatten]
  | none => indices.map fun index =>
    List.replicate (paddedLen seqLenMultiple miniBatch) (advantage index)

def layoutSignals {Alpha : Type} (rows : List (List Alpha)) : List Alpha :=
  selectTokens (layoutMasks padTokenId seqLenMultiple packingSeq miniBatch)
    (layOut (validLengths padTokenId seqLenMultiple packingSeq miniBatch) rows)

end MiniBatch

section Loss

variable {Value : Type} [Field Value] [LinearOrder Value] (exp : Value → Value)
  (options : LossOptions Value) (tuning : LossTuning Value) (padTokenId seqLenMultiple : Nat)
  {Logit : Type} (logProb : Logit → Nat → Value) (entropy : Logit → Value)

/-- The loss of a mini-batch in `step_training`, from the collation on. -/
def miniBatchLoss (packingSeq : Bool) (workers : DpWorkers) (lossScalingFactor : Value)
    (miniBatch : List RLPolicyInput) (values : MiniBatchValues Logit Value) :
    Except PyError (Option Value) := do
  let indices := List.range miniBatch.length
  let maxLen := paddedLen seqLenMultiple miniBatch
  let (current, seqlens) ←
    evaluateModel padTokenId seqLenMultiple packingSeq miniBatch logProb values.logit
  let old ← oldLogps padTokenId seqLenMultiple packingSeq miniBatch logProb current
    values.oldPolicy
  let ref ← refLogps padTokenId seqLenMultiple packingSeq miniBatch logProb values.refLogit
  trainingLoss exp options tuning workers lossScalingFactor (indices.map values.positiveFlag)
    seqlens
    { currentTokenLogps := current
      oldPerTokenLogps := old
      refPerTokenLogps := ref
      rolloutPerTokenLogps := values.rolloutLogprobs
      advantages := selectTokens (layoutMasks padTokenId seqLenMultiple packingSeq miniBatch)
        (minibatchedAdvantages padTokenId seqLenMultiple packingSeq miniBatch values.advantage)
      teacherLogprobs := layoutSignals padTokenId seqLenMultiple packingSeq miniBatch
        (indices.map fun index => collateRow 0 maxLen (values.teacherLogprobs index ++ [0]))
      entropies := layoutSignals padTokenId seqLenMultiple packingSeq miniBatch
        (indices.map fun index =>
          (List.range maxLen).map fun position => entropy (values.logit index position)) }

end Loss

end CosmosRl.Policy
