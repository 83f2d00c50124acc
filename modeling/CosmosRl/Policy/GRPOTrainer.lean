import CosmosRl.Data.DecoderOnlyLLMDataPacker
import CosmosRl.Foundation.Strided
import CosmosRl.Utils.BalanceSeqlen

/-!
`GRPOTrainer.step_training`: the cut of a batch into optimize chunks and mini-batches,
the signals each mini-batch reads, and the loops over phases and mu-iterations.

The model is evaluated and differentiated outside of this development; a step returns,
for every mu-iteration, the samples whose loss was propagated with the signals paired
with them.  A sample and a signal carry the position of their rollout in the batch.
Distillation is modelled with `top_k = 0` and without pipeline parallelism.
-/

namespace CosmosRl.Policy

open CosmosRl.Data CosmosRl.Foundation CosmosRl.Utils
open CosmosRl.Dispatcher (PyError)

/-- The fields of a rollout that training reads.  `completion` is the rollout's entry of
`completions_list`. -/
structure Rollout (Value : Type) where
  advantage : Value
  reward : Value
  completion : Completion
  completionLogprobs : Option (List (List Value))
  promptLogprobs : Option (List (List Value))
  teacherResultUuid : String
  nIgnorePrefixTokens : Nat

/-- The configuration `step_training` reads. -/
structure GrpoConfig where
  batchSizePerOptimize : Option Int
  miniBatch : Int
  maxTokenLenPerMiniBatch : Option Int
  cpSize : Nat
  cpPositive : 0 < cpSize
  muIterations : Nat
  needComputeRef : Bool
  useDecoupledLoss : Bool
  useRolloutLogprobsForLoss : Bool
  collectRolloutLogprobs : Bool
  positiveNll : Bool
  distillation : Bool
  includePrompt : Bool

structure ProcessedSample where
  position : Nat
  input : RLPolicyInput
  deriving DecidableEq

structure Signals (Value : Type) where
  rollout : Nat
  advantage : Value
  teacherLogprobs : Option (List (List Value))
  rolloutLogprobs : Option (List Value)
  rolloutEffectiveLogprobs : Option (List Value)
  positiveFlag : Option Bool
  deriving DecidableEq

/-- Whose log probabilities stand in `old_per_token_logps` for a sample: those the model
computes for it, or those of a rollout. -/
inductive OldLogps (Value : Type) where
  | current (position : Nat)
  | rollout (index : Nat) (logprobs : List Value)
  deriving DecidableEq

structure TrainedSample (Value : Type) where
  position : Nat
  signals : Signals Value
  oldPerTokenLogps : OldLogps Value
  deriving DecidableEq

section Sizes

variable (config : GrpoConfig)

def perOptimizeBatchSize (batchSize : Nat) : Nat :=
  match config.batchSizePerOptimize with
  | some size => if 0 < size then min size.toNat batchSize else batchSize
  | none => batchSize

def miniBatchSize (batchSize : Nat) : Nat :=
  if 0 < config.miniBatch then
    min config.miniBatch.toNat (perOptimizeBatchSize config batchSize)
  else perOptimizeBatchSize config batchSize

def numMiniBatch (batchSize : Nat) : Nat :=
  batchSize / miniBatchSize config batchSize

def needComputeOldAhead (batchSize : Nat) : Bool :=
  perOptimizeBatchSize config batchSize < batchSize && !config.useRolloutLogprobsForLoss

end Sizes

section Split

def splitMiniBatches {Sample : Type} (batch : List Sample) (miniBatch : Nat) :
    List (List Sample) × List (List Nat) :=
  ((stridedRange 0 batch.length miniBatch).map fun i => (batch.drop i).take miniBatch,
    (stridedRange 0 batch.length miniBatch).map fun i =>
      List.range' i (min (i + miniBatch) batch.length - i))

/-- The mini-batches of a chunk; `gathered` is the largest number of mini-batches the
other ranks announce. -/
def arrangeMiniBatches (config : GrpoConfig) (chunk : List ProcessedSample)
    (gathered : Nat) : Except PyError (List (List ProcessedSample) × List (List Nat)) :=
  match config.maxTokenLenPerMiniBatch with
  | some maxTokenLen =>
    if 0 < maxTokenLen then
      rearrangeMiniBatches chunk
        (chunk.map fun sample => policyComputeMaxLen [sample.input])
        (maxTokenLen.toNat * config.cpSize) gathered
    else splitStatic
  | none => splitStatic
where
  splitStatic : Except PyError (List (List ProcessedSample) × List (List Nat)) :=
    if config.miniBatch = 0 then .error (.exception "range() arg 3 must not be zero")
    else if config.miniBatch < 0 then .ok ([], [])
    else .ok (splitMiniBatches chunk config.miniBatch.toNat)

end Split

section MiniBatch

variable {Value : Type} [Zero Value] [LT Value] [DecidableLT Value]
  (config : GrpoConfig) (rollouts : List (Rollout Value))
  (teacherInteractResults : String → Option (List (List Value)))

/-- `t[0]` of the entries of a list of log probabilities. -/
def firstEntries (logprobs : List (List Value)) : Except PyError (List Value) :=
  logprobs.mapM fun entry =>
    match entry with
    | [] => .error .indexError
    | first :: _ => .ok first

def completionLength : Completion → Nat
  | .text text => text.length
  | .tokenIds ids => ids.length

def rolloutAt (index : Nat) : Except PyError (Rollout Value) :=
  match rollouts[index]? with
  | some rollout => .ok rollout
  | none => .error .indexError

def sampledLogprobs (rollout : Rollout Value) : Except PyError (List (List Value)) :=
  match rollout.promptLogprobs, rollout.completionLogprobs with
  | some prompt, some completion => .ok (prompt ++ completion)
  | _, _ => .error .typeError

/-- The check of `collate_teacher_logprobs` for one sample, and the mask it leaves. -/
def collateTeacherLogprobs (sample : ProcessedSample) (index : Nat) :
    Except PyError (Option (List (List Value)) × List Bool) :=
  match rolloutAt rollouts index with
  | .error exn => .error exn
  | .ok rollout =>
    let teacherLogprobs := teacherInteractResults rollout.teacherResultUuid
    let masks := sample.input.logprobMasks
    let checked : Except PyError Unit :=
      match teacherLogprobs with
      | none => .ok ()
      | some logprobs =>
        if config.collectRolloutLogprobs then
          match sampledLogprobs rollout with
          | .error exn => .error exn
          | .ok sampled =>
            if sampled.length = logprobs.length then .ok ()
            else .error (.assertionError ("sampled_logprobs: " ++
              toString sampled.length ++ " != teacher_logprobs: " ++
              toString logprobs.length))
        else .ok ()
    match checked with
    | .error exn => .error exn
    | .ok _ =>
      if config.includePrompt then
        if masks = [] then .error .indexError
        else .ok (teacherLogprobs, List.replicate (masks.length - 1) true ++ [false])
      else if teacherLogprobs.isNone then
        .ok (none, List.replicate masks.length false)
      else .ok (teacherLogprobs, masks)

def teacherSignal (sample : ProcessedSample) (index : Nat) :
    Except PyError (Option (List (List Value)) × List Bool) :=
  if config.distillation then
    collateTeacherLogprobs config rollouts teacherInteractResults sample index
  else .ok (none, sample.input.logprobMasks)

def rolloutLogprobs (index : Nat) : Except PyError (Option (List Value)) :=
  if config.useDecoupledLoss then
    match rolloutAt rollouts index with
    | .error exn => .error exn
    | .ok rollout =>
      match rollout.completionLogprobs with
      | none => .error .typeError
      | some logprobs =>
        if logprobs.length = completionLength rollout.completion then
          (firstEntries (logprobs.drop rollout.nIgnorePrefixTokens)).map some
        else .error (.assertionError ("Unexpected completion_logprobs length " ++
          toString logprobs.length ++ " vs completion length " ++
          toString (completionLength rollout.completion)))
  else .ok none

def rolloutEffectiveLogprobs (masks : List Bool) (index : Nat) :
    Except PyError (Option (List Value)) :=
  if config.useRolloutLogprobsForLoss then
    match rolloutAt rollouts index with
    | .error exn => .error exn
    | .ok rollout =>
      match sampledLogprobs rollout with
      | .error exn => .error exn
      | .ok sampled =>
        match firstEntries sampled with
        | .error exn => .error exn
        | .ok logprobs =>
          if (logprobs ++ [0]).length = masks.length then
            .ok (some (selectMasked masks (logprobs ++ [0])))
          else .error (.assertionError
            "Mismatch in length between sampled_logprobs and mask")
  else .ok none

def advantageAndFlag (index : Nat) : Except PyError (Value × Option Bool) :=
  (rolloutAt rollouts index).map fun rollout =>
    (rollout.advantage, if config.positiveNll then some (decide (0 < rollout.reward)) else none)

def skipsMiniBatch (indices : List Nat) : Bool :=
  config.distillation && indices.all fun index =>
    match rollouts[index]? with
    | some rollout => (teacherInteractResults rollout.teacherResultUuid).isNone
    | none => false

def readSignals (samples : List ProcessedSample) (indices : List Nat) :
    Except PyError (List (Signals Value)) :=
  match indices.mapM (advantageAndFlag config rollouts) with
  | .error exn => .error exn
  | .ok advantages =>
    match (samples.zip indices).mapM fun (sample, index) =>
        teacherSignal config rollouts teacherInteractResults sample index with
    | .error exn => .error exn
    | .ok teachers =>
      match indices.mapM (rolloutLogprobs config rollouts) with
      | .error exn => .error exn
      | .ok decoupled =>
        match (teachers.zip indices).mapM fun (teacher, index) =>
            rolloutEffectiveLogprobs config rollouts teacher.2 index with
        | .error exn => .error exn
        | .ok effective =>
          .ok ((indices.zip (advantages.zip (teachers.zip
            (decoupled.zip effective)))).map
              fun (index, (advantage, flag), teacher, decoupled, effective) =>
                { rollout := index
                  advantage := advantage
                  teacherLogprobs := teacher.1
                  rolloutLogprobs := decoupled
                  rolloutEffectiveLogprobs := effective
                  positiveFlag := flag })

end MiniBatch

inductive TrainerPhase where
  | refCompute
  | oldLogpCompute
  | train
  deriving DecidableEq

structure MiniSteps (Value : Type) where
  oldPerTokenLogps : List (Option (List (OldLogps Value)))
  localMiniStep : Nat
  /-- The variable `all_reduced` has been assigned. -/
  allReducedBound : Bool
  /-- The samples trained in the current mu-iteration. -/
  trained : List (TrainedSample Value)

structure Progress (Value : Type) where
  cachedMinibatchArrangements : List (List (List ProcessedSample) × List (List Nat))
  localOptimizeStep : Nat
  miniSteps : MiniSteps Value
  /-- The samples trained in each mu-iteration that is over. -/
  iterations : List (List (TrainedSample Value))

section StepTraining

variable {Value : Type} [Zero Value] [LT Value] [DecidableLT Value]
  (config : GrpoConfig) (rollouts : List (Rollout Value))
  (teacherInteractResults : String → Option (List (List Value)))

/-- `old_per_token_logps` of a mini-batch in the first mu-iteration. -/
def freshOldLogps (samples : List ProcessedSample) (signals : List (Signals Value)) :
    List (OldLogps Value) :=
  if config.useRolloutLogprobsForLoss then
    signals.map fun signal =>
      .rollout signal.rollout (signal.rolloutEffectiveLogprobs.getD [])
  else samples.map fun sample => .current sample.position

def trainMiniBatch (steps : MiniSteps Value) (samples : List ProcessedSample)
    (signals : List (Signals Value)) (oldPerTokenLogps : List (OldLogps Value)) :
    MiniSteps Value :=
  { steps with
    localMiniStep := steps.localMiniStep + 1
    allReducedBound := true
    trained := steps.trained ++ (samples.zip (signals.zip oldPerTokenLogps)).map
      fun (sample, signals, oldLogps) => ⟨sample.position, signals, oldLogps⟩ }

def forwardMiniBatch (phase : TrainerPhase) (iMu : Nat) (steps : MiniSteps Value)
    (samples : List ProcessedSample) (indices : List Nat) :
    Except PyError (MiniSteps Value) :=
  if skipsMiniBatch config rollouts teacherInteractResults indices then .ok steps
  else
    match readSignals config rollouts teacherInteractResults samples indices with
    | .error exn => .error exn
    | .ok signals =>
      match phase with
      | .refCompute =>
        -- `ref_per_token_logps` is as long as the other list
        if steps.localMiniStep < numMiniBatch config rollouts.length then
          .ok { steps with localMiniStep := steps.localMiniStep + 1 }
        else .error .indexError
      | .oldLogpCompute =>
        if steps.localMiniStep < steps.oldPerTokenLogps.length then
          .ok { steps with
            oldPerTokenLogps := steps.oldPerTokenLogps.set steps.localMiniStep
              (some (samples.map fun sample => .current sample.position))
            localMiniStep := steps.localMiniStep + 1 }
        else .error .indexError
      | .train =>
        match steps.oldPerTokenLogps[steps.localMiniStep]? with
        | none => .error .indexError
        | some none =>
          if iMu = 0 ∧ needComputeOldAhead config rollouts.length = false then
            let oldLogps := freshOldLogps config samples signals
            .ok (trainMiniBatch
              { steps with
                oldPerTokenLogps := steps.oldPerTokenLogps.set
                  steps.localMiniStep (some oldLogps) }
              samples signals oldLogps)
          else .error (.assertionError
            "Only first iteration should append `old_per_token_logps`")
        | some (some oldLogps) =>
          if 0 < iMu ∨ needComputeOldAhead config rollouts.length = true then
            .ok (trainMiniBatch steps samples signals oldLogps)
          else .error (.assertionError
            "Only inner iteration should reuse `old_per_token_logps`")

def forwardMiniBatches (phase : TrainerPhase) (iMu : Nat) :
    MiniSteps Value → List (List ProcessedSample × List Nat) →
      Except PyError (MiniSteps Value)
  | steps, [] => .ok steps
  | steps, (samples, indices) :: miniBatches =>
    match forwardMiniBatch config rollouts teacherInteractResults phase iMu steps
        samples indices with
    | .error exn => .error exn
    | .ok steps => forwardMiniBatches phase iMu steps miniBatches

variable (policyInput : Rollout Value → RLPolicyInput) (gathered : Nat → Nat)

/-- `processed_samples`. -/
def processedSamples : List ProcessedSample :=
  rollouts.zipIdx.map fun (rollout, position) => ⟨position, policyInput rollout⟩

/-- `processed_samples_for_optimize` of the chunk that begins at `i`. -/
def chunkAt (i : Nat) : List ProcessedSample :=
  ((processedSamples rollouts policyInput).drop i).take
    (perOptimizeBatchSize config rollouts.length)

def cachedArrangement (progress : Progress Value) (i : Nat) :
    Except PyError (Progress Value × (List (List ProcessedSample) × List (List Nat))) :=
  match progress.cachedMinibatchArrangements[progress.localOptimizeStep]? with
  | some arrangement => .ok (progress, arrangement)
  | none =>
    (arrangeMiniBatches config (chunkAt config rollouts policyInput i)
      (gathered progress.cachedMinibatchArrangements.length)).map fun arrangement =>
        ({ progress with
          cachedMinibatchArrangements :=
            progress.cachedMinibatchArrangements ++ [arrangement] }, arrangement)

def optimizeChunk (phase : TrainerPhase) (iMu : Nat) (progress : Progress Value) (i : Nat) :
    Except PyError (Progress Value) :=
  match cachedArrangement config rollouts policyInput gathered progress i with
  | .error exn => .error exn
  | .ok (progress, arrangement) =>
    match forwardMiniBatches config rollouts teacherInteractResults phase iMu
        progress.miniSteps (arrangement.1.zip arrangement.2) with
    | .error exn => .error exn
    | .ok miniSteps =>
      if phase = .train ∧ miniSteps.allReducedBound = false then
        .error (.exception "local variable 'all_reduced' referenced before assignment")
      else
        .ok { progress with
          localOptimizeStep := progress.localOptimizeStep + 1
          miniSteps := miniSteps }

def optimizeChunks (phase : TrainerPhase) (iMu : Nat) :
    Progress Value → List Nat → Except PyError (Progress Value)
  | progress, [] => .ok progress
  | progress, i :: starts =>
    match optimizeChunk config rollouts teacherInteractResults policyInput gathered phase
        iMu progress i with
    | .error exn => .error exn
    | .ok progress => optimizeChunks phase iMu progress starts

/-- `range(0, batch_size, per_optimize_batch_size)`. -/
def chunkStarts : List Nat :=
  stridedRange 0 rollouts.length (perOptimizeBatchSize config rollouts.length)

/-- The mu-iterations of a phase, from `iMu` on. -/
def muIterations (phase : TrainerPhase) : Nat → Nat → Progress Value →
    Except PyError (Progress Value)
  | 0, _, progress => .ok progress
  | rounds + 1, iMu, progress =>
    match optimizeChunks config rollouts teacherInteractResults policyInput gathered phase
        iMu
        { progress with
          localOptimizeStep := 0
          miniSteps := { progress.miniSteps with localMiniStep := 0, trained := [] } }
        (chunkStarts config rollouts) with
    | .error exn => .error exn
    | .ok progress =>
      muIterations phase rounds (iMu + 1)
        (if phase = .train then
          { progress with
            iterations := progress.iterations ++ [progress.miniSteps.trained] }
        else progress)

def trainerPhases : List TrainerPhase :=
  (if config.needComputeRef then [.refCompute] else []) ++
    (if needComputeOldAhead config rollouts.length then [.oldLogpCompute] else []) ++
      [.train]

def runPhases : Progress Value → List TrainerPhase → Except PyError (Progress Value)
  | progress, [] => .ok progress
  | progress, phase :: phases =>
    match muIterations config rollouts teacherInteractResults policyInput gathered phase
        (if phase = .train then config.muIterations else 1) 0 progress with
    | .error exn => .error exn
    | .ok progress => runPhases progress phases

/-- `step_training`: the samples trained in each mu-iteration. -/
def stepTraining : Except PyError (List (List (TrainedSample Value))) :=
  if miniBatchSize config rollouts.length = 0 then .error .zeroDivisionError
  else
    (runPhases config rollouts teacherInteractResults policyInput gathered
      { cachedMinibatchArrangements := []
        localOptimizeStep := 0
        miniSteps :=
          { oldPerTokenLogps := List.replicate (numMiniBatch config rollouts.length) none
            localMiniStep := 0
            allReducedBound := false
            trained := [] }
        iterations := [] }
      (trainerPhases config rollouts)).map Progress.iterations

end StepTraining

end CosmosRl.Policy
