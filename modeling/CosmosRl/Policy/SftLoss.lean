import CosmosRl.Foundation.TrailingFiller
import CosmosRl.Policy.LossRows

/-!
The loss of `SFTTrainer.step_training`, on a padded and on a packed batch.

A row's valid length is the larger one of the lengths inferred from its tokens and from its
labels.  Packed, the outputs and the labels are selected by two masks, one of which leaves
out the last position of every row and the other the first.
-/

namespace CosmosRl.Policy

open CosmosRl.Data CosmosRl.Foundation CosmosRl.Utils
open CosmosRl.Dispatcher (PyError)

section Packing

def validLabelLength (ignoreLabelId : Int) (row : List Int) : Nat :=
  (row.reverse.dropWhile fun label => label == ignoreLabelId).length

/-- `pack_sequences_info_collect` with labels: `valid_input_len`. -/
def packLabeledInfoCollect (inputIds : List (List Nat)) (labelIds : List (List Int))
    (padTokenId : Nat) (ignoreLabelId : Int) (seqLenMultiple : Nat) :
    Except PyError (List Nat) :=
  if inputIds.map List.length = labelIds.map List.length then
    let validInputLen := List.zipWith max (labelIds.map (validLabelLength ignoreLabelId))
      (computeValidLengths inputIds padTokenId)
    let totalValidInputLen := validInputLen.sum
    .ok (spreadPadding (inputIds.headD []).length
      ((totalValidInputLen + seqLenMultiple - 1) / seqLenMultiple * seqLenMultiple -
        totalValidInputLen)
      validInputLen)
  else .error (.assertionError "Input IDs and label IDs must have the same shape")

end Packing

section CrossEntropy

variable {Alpha Logit Value : Type}

def indexPacked (mask : List Bool) : List (List Alpha) → Except PyError (List Alpha)
  | [row] => if mask.length = row.length then .ok (selectMasked mask row) else .error .indexError
  | _ => .error .indexError

def scoredOutputs (outputPackingMask : Option (List Bool)) (output : List (List Logit)) :
    Except PyError (List Logit) :=
  match outputPackingMask with
  | some mask => indexPacked mask output
  | none => .ok (output.flatMap List.dropLast)

def scoredTargets (targetPackingMask : Option (List Bool)) (target : List (List Int)) :
    Except PyError (List Int) :=
  match targetPackingMask with
  | some mask => indexPacked mask target
  | none => .ok (target.flatMap (List.drop 1))

def scoredPairs (outputPackingMask targetPackingMask : Option (List Bool))
    (output : List (List Logit)) (target : List (List Int)) :
    Except PyError (List (Logit × Int)) := do
  let outputs ← scoredOutputs outputPackingMask output
  let targets ← scoredTargets targetPackingMask target
  if outputs.length = targets.length then .ok (outputs.zip targets)
  else .error (.exception "Expected input batch_size to match target batch_size")

/-- What `async_safe_ce` reads besides its tensors: whether there is a context-parallel group
of several ranks, the ranks of the data-parallel group and the labels that the others of them
score, the number that keeps the divisor from being zero, and the scaling factor. -/
structure CeOptions (Value : Type) where
  contextParallel : Bool
  numDpWorkers : Nat
  otherValidTokens : Nat
  epsilon : Value
  lossScalingFactor : Value

variable (ignoreIndex : Int)

def labeledPairs (pairs : List (Logit × Int)) : List (Logit × Int) :=
  pairs.filter fun pair => pair.2 ≠ ignoreIndex

variable [Field Value] (crossEntropy : Logit → Int → Value) (options : CeOptions Value)

def pairLosses (pairs : List (Logit × Int)) : List Value :=
  pairs.map fun pair => if pair.2 = ignoreIndex then 0 else crossEntropy pair.1 pair.2

def ceLoss (pairs : List (Logit × Int)) : Value :=
  let nValidTokens := (labeledPairs ignoreIndex pairs).length
  let total := (pairLosses ignoreIndex crossEntropy pairs).sum
  if options.contextParallel then
    if nValidTokens = 0 then 0 else total / (nValidTokens : Value) * options.lossScalingFactor
  else
    total / (((nValidTokens + options.otherValidTokens : Nat) : Value) + options.epsilon) *
      ((options.numDpWorkers : Value) * options.lossScalingFactor)

def asyncSafeCe (outputPackingMask targetPackingMask : Option (List Bool))
    (output : List (List Logit)) (target : List (List Int)) : Except PyError Value :=
  (scoredPairs outputPackingMask targetPackingMask output target).map
    (ceLoss ignoreIndex crossEntropy options)

end CrossEntropy

structure LabeledRow where
  inputIds : List Nat
  labelIds : List Int

/-- A collated batch: every row has `seqLen` tokens and labels, and not only padding and
ignored labels. -/
structure LabeledBatch where
  rows : List LabeledRow
  seqLen : Nat
  padTokenId : Nat
  ignoreLabelId : Int
  seqLenMultiple : Nat
  inputLength : ∀ row ∈ rows, row.inputIds.length = seqLen
  labelLength : ∀ row ∈ rows, row.labelIds.length = seqLen
  filled : ∀ row ∈ rows, (∃ token ∈ row.inputIds, token ≠ padTokenId) ∨
    ∃ label ∈ row.labelIds, label ≠ ignoreLabelId
  multiplePositive : 0 < seqLenMultiple

namespace LabeledBatch

variable (batch : LabeledBatch) {Logit Value : Type} [Field Value]

/-- `valid_input_len`, if the batch is packed. -/
def validInputLen (packingSeq : Bool) : Except PyError (Option (List Nat)) :=
  if packingSeq then
    (packLabeledInfoCollect (batch.rows.map LabeledRow.inputIds)
      (batch.rows.map LabeledRow.labelIds) batch.padTokenId batch.ignoreLabelId
      batch.seqLenMultiple).map some
  else .ok none

def logits (logit : Nat → Nat → Logit) : List (List Logit) :=
  (List.range batch.rows.length).map fun row => (List.range batch.seqLen).map (logit row)

/-- The pairs that `async_safe_ce` scores. -/
def scored (packingSeq : Bool) (logit : Nat → Nat → Logit) :
    Except PyError (List (Logit × Int)) := do
  let lengths ← batch.validInputLen packingSeq
  scoredPairs (lengths.map inputPackingMask) (lengths.map labelPackingMask)
    (layOut lengths (batch.logits logit))
    (layOut lengths (batch.rows.map LabeledRow.labelIds))

def scoredTriples (packingSeq : Bool) : Except PyError (List ((Nat × Nat) × Int)) :=
  (batch.scored packingSeq Prod.mk).map (labeledPairs batch.ignoreLabelId)

def sftLoss (crossEntropy : Logit → Int → Value) (options : CeOptions Value)
    (packingSeq : Bool) (logit : Nat → Nat → Logit) : Except PyError Value := do
  let lengths ← batch.validInputLen packingSeq
  asyncSafeCe batch.ignoreLabelId crossEntropy options
    (lengths.map inputPackingMask) (lengths.map labelPackingMask)
    (layOut lengths (batch.logits logit))
    (layOut lengths (batch.rows.map LabeledRow.labelIds))

end LabeledBatch

end CosmosRl.Policy
