import CosmosRl.Foundation.Segments
import CosmosRl.Policy.GrpoLoss
import CosmosRl.Policy.OptimizeChunks

/-!
`GRPOTrainer.step_training` with the operations the ranks have to do together: the model
forwards, the token counts of a balanced loss, and the gradient reductions, which stand
after a number of mini-batches and at the end of a chunk.

The loops are those of `stepTraining`; a step here also records the operations, up to the
point where it raises.
-/

namespace CosmosRl.Policy

open CosmosRl.Data CosmosRl.Foundation
open CosmosRl.Dispatcher (PyError)

inductive Collective where
  | forward
  /-- The reductions of `compute_loss` over the ranks and over the replicas. -/
  | reduceTokens
  | backward
  | allReduceStates
  deriving DecidableEq, Repr

structure CollectiveConfig where
  grpo : GrpoConfig
  /-- `COSMOS_GRPO_STEP_INTERVAL`. -/
  stepInterval : Option Int
  lossType : LossType
  balanceDpToken : Bool

structure TracedProgress (Value : Type) where
  progress : Progress Value
  /-- The variable `all_reduced`, once it has been assigned. -/
  allReduced : Option Bool := none
  collectives : List Collective := []

section StepTraining

variable {Value : Type} [Zero Value] [LT Value] [DecidableLT Value]
  (config : CollectiveConfig) (rollouts : List (Rollout Value))
  (teacherInteractResults : String → Option (List (List Value)))

def TracedProgress.record (collectives : List Collective) (traced : TracedProgress Value) :
    TracedProgress Value :=
  { traced with collectives := traced.collectives ++ collectives }

def lossCollectives : List Collective :=
  (if config.balanceDpToken && decide (config.lossType = .tokenMean) then [.reduceTokens]
    else []) ++ [.backward]

def intervalReached (localMiniStep : Nat) : Except PyError Bool :=
  match config.stepInterval with
  | none => .ok false
  | some interval =>
    if interval = 0 then .error .zeroDivisionError
    else .ok (decide ((localMiniStep : Int) % interval = 0) && decide (1 < localMiniStep))

def reduceAtInterval (traced : TracedProgress Value) :
    Outcome PyError (TracedProgress Value) :=
  match intervalReached config traced.progress.miniSteps.localMiniStep with
  | .error exn => .raise traced exn
  | .ok true => .ok { traced.record [.allReduceStates] with allReduced := some true }
  | .ok false => .ok { traced with allReduced := some false }

def tracedMiniBatch (phase : TrainerPhase) (iMu : Nat)
    (miniBatch : List ProcessedSample × List Nat) (traced : TracedProgress Value) :
    Outcome PyError (TracedProgress Value) :=
  if skipsMiniBatch config.grpo rollouts teacherInteractResults miniBatch.2 then .ok traced
  else
    match readSignals config.grpo rollouts teacherInteractResults miniBatch.1 miniBatch.2 with
    | .error exn => .raise traced exn
    | .ok _ =>
      match forwardMiniBatch config.grpo rollouts teacherInteractResults phase iMu
          traced.progress.miniSteps miniBatch.1 miniBatch.2 with
      | .error exn => .raise (traced.record [.forward]) exn
      | .ok miniSteps =>
        let forwarded := { traced.record [.forward] with
          progress := { traced.progress with miniSteps := miniSteps } }
        if phase = .train then
          reduceAtInterval config (forwarded.record (lossCollectives config))
        else .ok forwarded

def reduceLeftover (traced : TracedProgress Value) : Outcome PyError (TracedProgress Value) :=
  match traced.allReduced with
  | none => .raise traced
      (.exception "local variable 'all_reduced' referenced before assignment")
  | some true => .ok traced
  | some false => .ok (traced.record [.allReduceStates])

variable (policyInput : Rollout Value → RLPolicyInput) (gathered : Nat → Nat)

def tracedChunk (phase : TrainerPhase) (iMu i : Nat) (traced : TracedProgress Value) :
    Outcome PyError (TracedProgress Value) :=
  match cachedArrangement config.grpo rollouts policyInput gathered traced.progress i with
  | .error exn => .raise traced exn
  | .ok (progress, arrangement) =>
    ((Outcome.forEach (tracedMiniBatch config rollouts teacherInteractResults phase iMu)
        (arrangement.1.zip arrangement.2) { traced with progress := progress }).andThen
      fun ran => if phase = .train then reduceLeftover ran else .ok ran).andThen fun ran =>
        .ok { ran with
          progress := { ran.progress with
            localOptimizeStep := ran.progress.localOptimizeStep + 1 } }

def tracedIteration (phase : TrainerPhase) (iMu : Nat) (traced : TracedProgress Value) :
    Outcome PyError (TracedProgress Value) :=
  (Outcome.forEach (tracedChunk config rollouts teacherInteractResults policyInput gathered
      phase iMu) (chunkStarts config.grpo rollouts)
    { traced with progress := iterationStart traced.progress }).andThen fun ran =>
      .ok (if phase = .train then
        { ran with
          progress := { ran.progress with
            iterations := ran.progress.iterations ++ [ran.progress.miniSteps.trained] } }
      else ran)

def tracedPhase (phase : TrainerPhase) (traced : TracedProgress Value) :
    Outcome PyError (TracedProgress Value) :=
  Outcome.forEach (tracedIteration config rollouts teacherInteractResults policyInput gathered
    phase) (List.range (if phase = .train then config.grpo.muIterations else 1)) traced

/-- `step_training` of one rank. -/
def tracedStep : Outcome PyError (TracedProgress Value) :=
  let start : TracedProgress Value := { progress := initialProgress config.grpo rollouts }
  if miniBatchSize config.grpo rollouts.length = 0 then .raise start .zeroDivisionError
  else
    Outcome.forEach (tracedPhase config rollouts teacherInteractResults policyInput gathered)
      (trainerPhases config.grpo rollouts) start

end StepTraining

end CosmosRl.Policy
