import CosmosRl.Policy.LossLayout
import CosmosRl.Policy.OptimizeChunks

/-!
Distillation in `GRPOTrainer.step_training`: the masks that `collate_teacher_logprobs` writes
into the processed samples, and the tensors that are selected by them.

The samples keep their masks from one phase and mu-iteration to the next.  A run of a step
visits its mini-batches in order; whatever else ends it, the visits made are the first ones.
-/

namespace CosmosRl.Policy

open CosmosRl.Data CosmosRl.Foundation
open CosmosRl.Dispatcher (PyError)

/-- A sample of a mini-batch: its position in the batch, and the index of the rollout that
the step takes with it. -/
structure BatchRow where
  position : Nat
  index : Nat
  deriving DecidableEq

structure MiniBatchVisit where
  phase : TrainerPhase
  iMu : Nat
  rows : List BatchRow

/-- A mini-batch after `collate_teacher_logprobs`. -/
structure CollatedMiniBatch (Value : Type) where
  visit : MiniBatchVisit
  samples : List RLPolicyInput
  teacherLogprobs : List (Option (List (List Value)))

structure DistillationState (Value : Type) where
  processedSamples : List RLPolicyInput
  collated : List (CollatedMiniBatch Value) := []

section Collate

variable {Value : Type}
  (config : GrpoConfig) (rollouts : List (Rollout Value))
  (teacherInteractResults : String → Option (List (List Value)))

/-- The loop of `collate_teacher_logprobs` over the samples of a mini-batch. -/
def collateTeacherRows :
    List BatchRow → List RLPolicyInput →
      Except PyError (List RLPolicyInput × List (Option (List (List Value))))
  | [], samples => .ok (samples, [])
  | row :: rows, samples =>
    match samples[row.position]? with
    | none => .error .indexError
    | some input =>
      match collateTeacherLogprobs config rollouts teacherInteractResults
          ⟨row.position, input⟩ row.index with
      | .error exn => .error exn
      | .ok (teacherLogprobs, masks) =>
        (collateTeacherRows rows
          (samples.set row.position { input with logprobMasks := masks })).map
            fun collated => (collated.1, teacherLogprobs :: collated.2)

def visitMiniBatch (visit : MiniBatchVisit) (state : DistillationState Value) :
    Outcome PyError (DistillationState Value) :=
  if skipsMiniBatch config rollouts teacherInteractResults
      (visit.rows.map BatchRow.index) then .ok state
  else
    match collateTeacherRows config rollouts teacherInteractResults visit.rows
        state.processedSamples with
    | .error exn => .raise state exn
    | .ok (samples, teacherLogprobs) =>
      .ok
        { processedSamples := samples
          collated := state.collated ++
            [{ visit := visit
               samples := visit.rows.filterMap fun row => samples[row.position]?
               teacherLogprobs := teacherLogprobs }] }

variable (policyInput : Rollout Value → RLPolicyInput) (gathered : Nat → Nat)

def miniBatchRows : List (List BatchRow) :=
  (chunkStarts config rollouts).zipIdx.flatMap fun chunk =>
    match arrangementOf config rollouts policyInput gathered chunk.1 chunk.2 with
    | .error _ => []
    | .ok arrangement => (arrangement.1.zip arrangement.2).map fun miniBatch =>
      List.zipWith (fun sample index => ⟨sample.position, index⟩) miniBatch.1 miniBatch.2

def stepVisits : List MiniBatchVisit :=
  ((trainerPhases config rollouts).flatMap fun phase =>
    (List.range (if phase = .train then config.muIterations else 1)).map (phase, ·)).flatMap
      fun pass => (miniBatchRows config rollouts policyInput gathered).map fun rows =>
        ⟨pass.1, pass.2, rows⟩

def runVisits (visits : List MiniBatchVisit) : Outcome PyError (DistillationState Value) :=
  Outcome.forEach (visitMiniBatch config rollouts teacherInteractResults) visits
    { processedSamples := rollouts.map policyInput }

end Collate

section Tensors

variable {Value : Type} [Zero Value] (padTokenId seqLenMultiple topK : Nat) (packingSeq : Bool)

/-- `[0] * (top_k or 1)` -/
def zeroEntry : List Value := List.replicate (if topK = 0 then 1 else topK) 0

def teacherRow (maxLen : Nat) (teacherLogprobs : Option (List (List Value))) :
    List (List Value) :=
  collateRow (zeroEntry topK) maxLen
    (teacherLogprobs.getD (List.replicate maxLen (zeroEntry topK)) ++ [zeroEntry topK])

variable (collated : CollatedMiniBatch Value)

def CollatedMiniBatch.select {Alpha : Type} (entries : BatchRow → Nat → Alpha) : List Alpha :=
  layoutSignals padTokenId seqLenMultiple packingSeq collated.samples
    (collated.visit.rows.map fun row =>
      (List.range (paddedLen seqLenMultiple collated.samples)).map (entries row))

def CollatedMiniBatch.tokens : List (Nat × Nat) :=
  collated.select padTokenId seqLenMultiple packingSeq fun row position =>
    (row.position, position)

def CollatedMiniBatch.teacherTokens : List (List Value) :=
  layoutSignals padTokenId seqLenMultiple packingSeq collated.samples
    (collated.teacherLogprobs.map
      (teacherRow topK (paddedLen seqLenMultiple collated.samples)))

end Tensors

end CosmosRl.Policy
