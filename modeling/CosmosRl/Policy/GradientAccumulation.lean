import CosmosRl.Foundation.Collecting
import CosmosRl.Foundation.Totals
import CosmosRl.Policy.GrpoLoss

/-!
The losses that the mini-batches of one optimizer step add up to.

A batch is a list of samples, and a sample is the list of its trained tokens.  The terms of
a token do not depend on the mini-batch that holds it; the model is evaluated outside of
this development.
-/

namespace CosmosRl.Policy

open CosmosRl.Foundation
open CosmosRl.Dispatcher (PyError)

structure TokenTerms (Value : Type) where
  currentLogp : Value
  oldLogp : Value
  refLogp : Value
  rolloutLogp : Value
  advantage : Value

abbrev SampleTerms (Value : Type) := List (TokenTerms Value)

/-- A way of cutting a batch: every index is in one mini-batch, no mini-batch is empty, and
the samples of a mini-batch keep their order. -/
structure Cut (batchSize : Nat) where
  miniBatchIndex : List (List Nat)
  nonempty : ∀ indices ∈ miniBatchIndex, indices ≠ []
  ascending : ∀ indices ∈ miniBatchIndex, indices.Pairwise (· < ·)
  covered : miniBatchIndex.flatten.Perm (List.range batchSize)

section Accumulation

variable {Value : Type} [Field Value] [LinearOrder Value] (exp : Value → Value)
  (options : LossOptions Value) (tuning : LossTuning Value) (useDecoupledLoss : Bool)

/-- The tensors of a mini-batch.  There are reference values if `kl_beta` is not zero. -/
def miniBatchSignals (miniBatch : List (SampleTerms Value)) : LossSignals Value where
  currentTokenLogps := miniBatch.flatten.map TokenTerms.currentLogp
  oldPerTokenLogps := miniBatch.flatten.map TokenTerms.oldLogp
  refPerTokenLogps :=
    if tuning.klBeta = 0 then none else some (miniBatch.flatten.map TokenTerms.refLogp)
  rolloutPerTokenLogps :=
    if useDecoupledLoss then some (miniBatch.map (List.map TokenTerms.rolloutLogp)) else none
  advantages := miniBatch.flatten.map TokenTerms.advantage
  teacherLogprobs := []
  entropies := []

/-- `loss * loss_scaling_factor` of a mini-batch. -/
def scaledLoss (workers : DpWorkers) (batchSize : Nat) (miniBatch : List (SampleTerms Value)) :
    Except PyError (Option Value) :=
  (computeLoss exp options tuning workers (miniBatch.map List.length)
    (miniBatchSignals tuning useDecoupledLoss miniBatch)).map fun loss =>
      loss.map fun value => value * ((miniBatch.length : Value) / (batchSize : Value))

def samplesAt (batch : List (SampleTerms Value)) (indices : List Nat) :
    List (SampleTerms Value) :=
  indices.map fun index => batch.getD index []

/-- What the mini-batches of a step propagate.  `otherTokens` are the tokens that the other
data-parallel ranks have in their mini-batch of the same number. -/
def accumulatedLoss (numDpWorkers : Nat) (otherTokens : Nat → Nat)
    (batch : List (SampleTerms Value)) (cut : Cut batch.length) :
    Except PyError (Option Value) :=
  ((cut.miniBatchIndex.zipIdx.mapM fun entry =>
    scaledLoss exp options tuning useDecoupledLoss ⟨numDpWorkers, otherTokens entry.2⟩
      batch.length (samplesAt batch entry.1))).map totalOf

/-- The accumulated loss of a batch whose samples have the given numbers of trained tokens
is the same for every cut. -/
def SplitInvariant (seqlens : List Nat) : Prop :=
  ∀ (tuning : LossTuning Value) (useDecoupledLoss : Bool) (numDpWorkers : Nat)
    (otherTokens : Nat → Nat) (batch : List (SampleTerms Value)),
    batch.map List.length = seqlens → ∀ first second : Cut batch.length,
      accumulatedLoss exp options tuning useDecoupledLoss numDpWorkers otherTokens batch
          first =
        accumulatedLoss exp options tuning useDecoupledLoss numDpWorkers otherTokens batch
          second

end Accumulation

end CosmosRl.Policy
