import CosmosRl.Policy.OptimizeChunks

/-!
`GRPOTrainer.step_training` with the slots of `old_per_token_logps` and
`ref_per_token_logps` that its mini-batches read and write, with and without pipeline
parallelism.

The loops are those of `stepTraining`.  A slot is represented by the number of micro-batches
whose log probabilities it holds, one without pipeline parallelism.
-/

namespace CosmosRl.Policy

open CosmosRl.Data CosmosRl.Foundation
open CosmosRl.Dispatcher (PyError)

/-- A rank of a pipeline.  `microBatchCalls` are the micro-batches in the order in which the
scheduler runs them through the last stage; during the warm-up, the first may be run several
times. -/
structure Pipeline where
  pp : Nat
  ppMicroBatchSize : Nat
  isLastStage : Bool
  microBatchCalls : List Nat
  startsWithFirst : microBatchCalls.head? = some 0

structure SlotConfig where
  grpo : GrpoConfig
  /-- `COSMOS_GRPO_STEP_INTERVAL`. -/
  stepInterval : Option Int
  pipeline : Option Pipeline

abbrev MiniBatchId := Nat × Nat

structure SlotUse where
  phase : TrainerPhase
  iMu : Nat
  miniBatch : MiniBatchId
  index : Nat
  deriving DecidableEq

/-- The variables of a step.  Of `progress` only the counters, the cache and `all_reduced`
are used. -/
structure StepSlots (Value : Type) where
  progress : Progress Value
  oldPerTokenLogps : List (Option Nat)
  refPerTokenLogps : List (Option Nat)
  uses : List SlotUse := []

section StepTraining

variable {Value : Type} [Zero Value] [LT Value] [DecidableLT Value]
  (config : SlotConfig) (rollouts : List (Rollout Value))
  (teacherInteractResults : String → Option (List (List Value)))

def StepSlots.localMiniStep (slots : StepSlots Value) : Nat :=
  slots.progress.miniSteps.localMiniStep

/-- A mini-batch uses the slot of the current `local_mini_step`. -/
def StepSlots.use (phase : TrainerPhase) (iMu : Nat) (miniBatch : MiniBatchId)
    (slots : StepSlots Value) : StepSlots Value :=
  { slots with uses := slots.uses ++ [⟨phase, iMu, miniBatch, slots.localMiniStep⟩] }

def StepSlots.setOld (stored : Nat) (slots : StepSlots Value) : StepSlots Value :=
  { slots with
    oldPerTokenLogps := slots.oldPerTokenLogps.set slots.localMiniStep (some stored) }

def StepSlots.setRef (stored : Nat) (slots : StepSlots Value) : StepSlots Value :=
  { slots with
    refPerTokenLogps := slots.refPerTokenLogps.set slots.localMiniStep (some stored) }

/-- `local_mini_step += 1` -/
def StepSlots.advance (slots : StepSlots Value) : StepSlots Value :=
  { slots with
    progress := { slots.progress with
      miniSteps := { slots.progress.miniSteps with
        localMiniStep := slots.localMiniStep + 1 } } }

def useSlot (phase : TrainerPhase) (iMu : Nat) (miniBatch : MiniBatchId)
    (slots : StepSlots Value) : Outcome PyError (StepSlots Value) :=
  let used := slots.use phase iMu miniBatch
  match phase with
  | .refCompute =>
    if slots.localMiniStep < slots.refPerTokenLogps.length then .ok (used.setRef 1)
    else .raise used .indexError
  | .oldLogpCompute =>
    if slots.localMiniStep < slots.oldPerTokenLogps.length then .ok (used.setOld 1)
    else .raise used .indexError
  | .train =>
    match slots.oldPerTokenLogps[slots.localMiniStep]? with
    | none => .raise used .indexError
    | some none =>
      if iMu = 0 ∧ needComputeOldAhead config.grpo rollouts.length = false then
        .ok (used.setOld 1)
      else .raise used (.assertionError
        "Only first iteration should append `old_per_token_logps`")
    | some (some _) =>
      if 0 < iMu ∨ needComputeOldAhead config.grpo rollouts.length = true then .ok used
      else .raise used (.assertionError
        "Only inner iteration should reuse `old_per_token_logps`")

/-- `_swizzle_pp_grpo_forward`: a micro-batch in the last stage. -/
def ppGrpoForward (phase : TrainerPhase) (iMu : Nat) (miniBatch : MiniBatchId)
    (microBatch : Nat) (slots : StepSlots Value) : Outcome PyError (StepSlots Value) :=
  let used := slots.use phase iMu miniBatch
  match phase with
  | .refCompute =>
    match slots.refPerTokenLogps[slots.localMiniStep]? with
    | none => .raise used .indexError
    | some stored => .ok (used.setRef (stored.getD 0 + 1))
  | .oldLogpCompute =>
    match slots.oldPerTokenLogps[slots.localMiniStep]? with
    | none => .raise used .indexError
    | some stored => .ok (used.setOld (stored.getD 0 + 1))
  | .train =>
    let appended : Outcome PyError (StepSlots Value) :=
      match slots.oldPerTokenLogps[slots.localMiniStep]? with
      | none => .raise used .indexError
      | some none =>
        if microBatch = 0 then .ok (used.setOld 1)
        else .raise used (.assertionError "")
      | some (some stored) =>
        if microBatch < stored then .ok used
        else if microBatch = 0 then .ok (used.setOld 1)
        else .ok (used.setOld (stored + 1))
    appended.andThen fun used =>
      match used.refPerTokenLogps[slots.localMiniStep]? with
      | none => .raise used .indexError
      | some none => .ok used
      | some (some stored) =>
        if microBatch < stored then .ok used else .raise used .indexError

def checkOldLogps (pipeline : Pipeline) (iMu : Nat) (slots : StepSlots Value) :
    Option PyError :=
  match slots.oldPerTokenLogps[slots.localMiniStep]? with
  | none => some .indexError
  | some none =>
    if iMu = 0 then none
    else some (.assertionError
      "Only first `mu_iteration` should append `old_per_token_logps`")
  | some (some stored) =>
    if 0 < iMu then
      if stored = miniBatchSize config.grpo rollouts.length / pipeline.ppMicroBatchSize then
        none
      else some (.assertionError "")
    else some (.assertionError
      "Only `mu_iteration > 0` should reuse `old_per_token_logps`")

def usePipelineSlots (pipeline : Pipeline) (phase : TrainerPhase) (iMu : Nat)
    (miniBatch : MiniBatchId) (slots : StepSlots Value) :
    Outcome PyError (StepSlots Value) :=
  if pipeline.isLastStage then
    let used := slots.use phase iMu miniBatch
    match checkOldLogps config rollouts pipeline iMu slots with
    | some exn => .raise used exn
    | none => Outcome.forEach (ppGrpoForward phase iMu miniBatch) pipeline.microBatchCalls used
  else .ok slots

def useSlots (phase : TrainerPhase) (iMu : Nat) (miniBatch : MiniBatchId)
    (slots : StepSlots Value) : Outcome PyError (StepSlots Value) :=
  match config.pipeline with
  | none => useSlot config rollouts phase iMu miniBatch slots
  | some pipeline => usePipelineSlots config rollouts pipeline phase iMu miniBatch slots

/-- The end of a round.  In a pipeline, `continue` comes before the counter. -/
def endRound (phase : TrainerPhase) (slots : StepSlots Value) :
    Outcome PyError (StepSlots Value) :=
  if phase = .train then
    let next := slots.advance
    if config.stepInterval = some 0 then .raise next .zeroDivisionError
    else .ok { next with
      progress := { next.progress with
        miniSteps := { next.progress.miniSteps with allReducedBound := true } } }
  else if config.pipeline.isSome then .ok slots
  else .ok slots.advance

def slotRound (phase : TrainerPhase) (iMu : Nat)
    (round : MiniBatchId × List ProcessedSample × List Nat) (slots : StepSlots Value) :
    Outcome PyError (StepSlots Value) :=
  if skipsMiniBatch config.grpo rollouts teacherInteractResults round.2.2 then .ok slots
  else
    match readSignals config.grpo rollouts teacherInteractResults round.2.1 round.2.2 with
    | .error exn => .raise slots exn
    | .ok _ =>
      (useSlots config rollouts phase iMu round.1 slots).andThen (endRound config phase)

def roundsOf (step : Nat) (arrangement : List (List ProcessedSample) × List (List Nat)) :
    List (MiniBatchId × List ProcessedSample × List Nat) :=
  (arrangement.1.zip arrangement.2).zipIdx.map fun entry => ((step, entry.2), entry.1)

variable (policyInput : Rollout Value → RLPolicyInput) (gathered : Nat → Nat)

/-- The end of a chunk: `all_reduced` is read, and the next chunk is counted. -/
def endChunk (phase : TrainerPhase) (slots : StepSlots Value) :
    Outcome PyError (StepSlots Value) :=
  if phase = .train ∧ slots.progress.miniSteps.allReducedBound = false then
    .raise slots (.exception "local variable 'all_reduced' referenced before assignment")
  else .ok { slots with
    progress := { slots.progress with
      localOptimizeStep := slots.progress.localOptimizeStep + 1 } }

def slotChunk (phase : TrainerPhase) (iMu i : Nat) (slots : StepSlots Value) :
    Outcome PyError (StepSlots Value) :=
  match cachedArrangement config.grpo rollouts policyInput gathered slots.progress i with
  | .error exn => .raise slots exn
  | .ok (progress, arrangement) =>
    (Outcome.forEach (slotRound config rollouts teacherInteractResults phase iMu)
      (roundsOf slots.progress.localOptimizeStep arrangement)
      { slots with progress := progress }).andThen (endChunk phase)

def slotPass (pass : TrainerPhase × Nat) (slots : StepSlots Value) :
    Outcome PyError (StepSlots Value) :=
  Outcome.forEach
    (slotChunk config rollouts teacherInteractResults policyInput gathered pass.1 pass.2)
    (chunkStarts config.grpo rollouts)
    { slots with progress := iterationStart slots.progress }

def slotPasses : List (TrainerPhase × Nat) :=
  (trainerPhases config.grpo rollouts).flatMap fun phase =>
    (List.range (if phase = .train then config.grpo.muIterations else 1)).map (phase, ·)

def checkSizes : Option PyError :=
  if miniBatchSize config.grpo rollouts.length = 0 then some .zeroDivisionError
  else
    match config.pipeline with
    | none => none
    | some pipeline =>
      if pipeline.ppMicroBatchSize = 0 ∨ pipeline.pp = 0 then some .zeroDivisionError
      else if miniBatchSize config.grpo rollouts.length / pipeline.ppMicroBatchSize %
          pipeline.pp = 0 then none
      else some (.assertionError
        (s!"n_microbatches {miniBatchSize config.grpo rollouts.length / pipeline.ppMicroBatchSize}" ++
          s!" should be divided evenly by pp size of {pipeline.pp}"))

def initialSlots : StepSlots Value where
  progress := initialProgress config.grpo rollouts
  oldPerTokenLogps := List.replicate (numMiniBatch config.grpo rollouts.length) none
  refPerTokenLogps := List.replicate (numMiniBatch config.grpo rollouts.length) none

/-- `step_training` -/
def slotStep : Outcome PyError (StepSlots Value) :=
  match checkSizes config rollouts with
  | some exn => .raise (initialSlots config rollouts) exn
  | none =>
    Outcome.forEach (slotPass config rollouts teacherInteractResults policyInput gathered)
      (slotPasses config rollouts) (initialSlots config rollouts)

end StepTraining

end CosmosRl.Policy
