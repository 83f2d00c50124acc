import CosmosRl.Foundation.Cutting
import CosmosRl.Policy.GRPOTrainer
import CosmosRl.Utils.SequencePacking

/-!
`TorchEngine.step_forward`: the log probabilities a teacher stores for the rollouts of a
batch, with and without sequence packing.

The model and the softmax are outside of this development.  A position of a rollout has
one logit, whatever the layout: a padded layout holds the logits of all positions, a
packed one those of the positions it keeps.  There is no pipeline, tensor or context
parallelism.
-/

namespace CosmosRl.Reference

open CosmosRl.Data CosmosRl.Policy CosmosRl.Utils
open CosmosRl.Dispatcher (PyError)

/-- The configuration and the tokenizers `step_forward` reads. -/
structure EngineConfig where
  sequencePacking : Bool
  /-- `check_sequence_packing_compatible`, true for a model without it. -/
  packingCompatible : Bool
  miniBatch : Nat
  miniBatchPositive : 0 < miniBatch
  maxTokenLenPerMiniBatch : Option Int
  topK : Int
  seqLenMultiple : Nat
  multiplePositive : 0 < seqLenMultiple
  multiTurn : Bool
  tokenizer : Tokenizer
  studentTokenizer : Tokenizer
  /-- `tokenizer_mapping` and `max_valid_token_id`. -/
  tokenizerMapping : Nat → Option Nat
  maxValidTokenId : Nat

structure TeacherRollout where
  prompt : PromptSample
  completionTokenIds : List (List Nat)
  promptTokenIds : Option (List (List Nat))
  nIgnorePrefixTokens : Nat
  teacherResultUuid : String

abbrev Label := List Int

structure TeacherSample where
  input : RLPolicyInput
  marked : Nat
  allMarked : input.logprobMasks = List.replicate marked true ++ [false]
  topkIndices : List Label
  teacherResultUuid : String

structure TeacherResult (Row : Type) where
  teacherLogprobs : List Row
  teacherResultUuid : String
  deriving DecidableEq

section Samples

variable (config : EngineConfig)

def mapStudentTokenIds (tokens : List Nat) : Except PyError (List Nat) :=
  tokens.mapM fun token =>
    match config.tokenizerMapping token with
    | some mapped => .ok mapped
    | none =>
      if config.maxValidTokenId < token then .ok token
      else .error (.assertionError ("Token " ++ toString token ++
        " is less than max valid token id " ++ toString config.maxValidTokenId))

/-- `map_student_text_to_tokenizer_student_token_ids_and_check`. -/
def checkPrompt (prompt : PromptSample) : Except PyError Unit := do
  let studentInput ← getPolicyInput config.studentTokenizer config.multiTurn prompt (.text "") 0
  let mapped ← mapStudentTokenIds config studentInput.inputIds
  let input ← getPolicyInput config.tokenizer config.multiTurn prompt (.text "") 0
  if mapped = input.inputIds then .ok ()
  else .error (.assertionError ("Input ids mapped: " ++ toString mapped ++
    " != input ids new: " ++ toString input.inputIds))

/-- The ids of one token in `collate_topk_indices`. -/
def topkTokenIds (tokenId : List Nat) : Except PyError Label :=
  if tokenId.length = 0 then .error (.assertionError "Token ids should not be empty")
  else if config.topK < tokenId.length then
    if (tokenId.length : Int) = config.topK + 1 then
      -- the first id is the selected token
      (mapStudentTokenIds config tokenId.tail).map fun ids => ids.map Int.ofNat
    else .error (.assertionError ("Token ids length " ++ toString tokenId.length ++
      " should be equal to top_k " ++ toString config.topK ++ " + 1"))
  else if (tokenId.length : Int) = config.topK then
    (mapStudentTokenIds config tokenId).map fun ids => ids.map Int.ofNat
  else .error (.assertionError ("Token ids length " ++ toString tokenId.length ++
    " should be equal to top_k " ++ toString config.topK))

def topkFiller : Label := List.replicate config.topK.toNat (-100)

/-- The row of a rollout in `collate_topk_indices` before it is cut and padded.  The
first token has no log probability, so that the prompt's ids begin with the second. -/
def topkIndices (rollout : TeacherRollout) : Except PyError (List Label) :=
  if config.topK ≤ 0 then .ok []
  else
    match rollout.promptTokenIds with
    | none => .error .typeError
    | some promptTokenIds =>
      ((promptTokenIds ++ rollout.completionTokenIds).mapM (topkTokenIds config)).map
        fun updated => topkFiller config :: updated

def markSample (input : RLPolicyInput) (topkIndices : List Label) (uuid : String) :
    Except PyError TeacherSample :=
  match input.logprobMasks.length with
  | 0 => .error .indexError
  | marked + 1 =>
    .ok
      { input := { input with logprobMasks := List.replicate marked true ++ [false] }
        marked := marked
        allMarked := rfl
        topkIndices := topkIndices
        teacherResultUuid := uuid }

def processRollout (rollout : TeacherRollout) : Except PyError TeacherSample := do
  let selected ← rollout.completionTokenIds.mapM fun tokenId =>
    match tokenId with
    | [] => Except.error PyError.indexError
    | first :: _ => .ok first
  let completion ← mapStudentTokenIds config selected
  let input ← getPolicyInput config.tokenizer config.multiTurn rollout.prompt
    (.tokenIds completion) rollout.nIgnorePrefixTokens
  let indices ← topkIndices config rollout
  markSample input indices rollout.teacherResultUuid

/-- `processed_samples`. -/
def processedSamples (rollouts : List TeacherRollout) : Except PyError (List TeacherSample) :=
  if rollouts.all fun rollout => !rollout.completionTokenIds.isEmpty then
    (rollouts.mapM fun rollout => checkPrompt config rollout.prompt).bind fun _ =>
      rollouts.mapM (processRollout config)
  else .error (.assertionError "All rollouts should have a valid completion token ids")

def splitBatch (samples : List TeacherSample) (gathered : Nat) :
    Except PyError (List (List TeacherSample) × List (List Nat)) :=
  match config.maxTokenLenPerMiniBatch with
  | some maxTokenLen =>
    if 0 < maxTokenLen then
      rearrangeMiniBatches samples
        (samples.map fun sample => policyComputeMaxLen [sample.input])
        maxTokenLen.toNat gathered
    else splitStatic
  | none => splitStatic
where
  splitStatic : Except PyError (List (List TeacherSample) × List (List Nat)) :=
    if min config.miniBatch samples.length = 0 then
      .error (.exception "range() arg 3 must not be zero")
    else .ok (splitMiniBatches samples (min config.miniBatch samples.length))

end Samples

section Logprobs

variable {Logit Row : Type} (logProb : Logit → Label → Row)

/-- `compute_logprobs_for_top_k_indices`: the rows of the masked positions and the number
of them in every row of the batch.  A model that returns the logits of the masked
positions only has selected them by the same mask. -/
def computeLogprobsForTopKIndices (zero : Label) (packingMasks : Option (List Bool × List Bool))
    (inputIds : List (List Label)) (logprobMasks : List (List Bool))
    (logits : List (List Logit)) : Except PyError (List Row × List Nat) := do
  let shiftedInputIds ←
    match packingMasks with
    | some (inputMask, labelMask) => inputIds.mapM (shiftPacked zero inputMask labelMask)
    | none => .ok (inputIds.map (shiftInputIds zero))
  let effectiveLogits := (List.zipWith selectMasked logprobMasks logits).flatten
  let effectiveInputIds := (List.zipWith selectMasked logprobMasks shiftedInputIds).flatten
  let perTokenLogps := List.zipWith logProb effectiveLogits effectiveInputIds
  if perTokenLogps.length = 0 then
    .error (.runtimeError "stack expects a non-empty TensorList")
  else .ok (perTokenLogps, logprobMasks.map fun mask => mask.count true)

end Logprobs

section MiniBatch

variable (config : EngineConfig) {Logit Row : Type} (logit : Nat → Nat → Logit)
  (logProb : Logit → Label → Row)

def packsSequences : Bool := config.sequencePacking && config.packingCompatible

def zeroLabel : Label := if 0 < config.topK then List.replicate config.topK.toNat 0 else [0]

/-- `minibatched_topk_indices`, before packing. -/
def minibatchedTopkIndices (computedMaxLen : Nat) (selected : List TeacherSample)
    (inputIds : List (List Nat)) : List (List Label) :=
  if 0 < config.topK then
    selected.map fun sample =>
      collateRow (topkFiller config) computedMaxLen sample.topkIndices
  else inputIds.map fun row => row.map fun (token : Nat) => [(token : Int)]

def forwardMiniBatch (samples : List TeacherSample) (miniBatch : List TeacherSample)
    (indices : List Nat) : Except PyError (List (TeacherResult Row)) := do
  let computedMaxLen :=
    computedMaxLen none config.seqLenMultiple (miniBatch.map TeacherSample.input)
  let inputIds := miniBatch.map fun sample =>
    collateRow config.tokenizer.padTokenId computedMaxLen sample.input.inputIds
  let logprobMasks := miniBatch.map fun sample =>
    collateRow false computedMaxLen sample.input.logprobMasks
  let selected ← takeItems samples indices
  let topkIndices := minibatchedTopkIndices config computedMaxLen selected inputIds
  let rawLogits := indices.map fun index => (List.range computedMaxLen).map (logit index)
  let uuids := selected.map TeacherSample.teacherResultUuid
  if packsSequences config then
    let validInputLen :=
      packSequencesInfoCollect inputIds config.tokenizer.padTokenId config.seqLenMultiple
    let (logprobs, seqlens) ← computeLogprobsForTopKIndices logProb (zeroLabel config)
      (some (inputPackingMask validInputLen, labelPackingMask validInputLen))
      [packSequences topkIndices validInputLen] [packSequences logprobMasks validInputLen]
      [packSequences rawLogits validInputLen]
    if logprobs.length = seqlens.sum then
      -- the flat result is cut by the padded lengths of the inputs
      .ok (List.zipWith TeacherResult.mk (validInputLen.splitLengths logprobs) uuids)
    else .error (.assertionError "current_per_token_logprobs.shape")
  else
    let (logprobs, seqlens) ← computeLogprobsForTopKIndices logProb (zeroLabel config) none
      topkIndices logprobMasks rawLogits
    if logprobs.length = seqlens.sum then
      .ok (List.zipWith TeacherResult.mk (seqlens.splitLengths logprobs) uuids)
    else .error (.assertionError "current_per_token_logprobs.shape")

/-- `step_forward`; `logit` gives the model's output at a position of a rollout. -/
def stepForward (rollouts : List TeacherRollout) (gathered : Nat) :
    Except PyError (List (TeacherResult Row)) := do
  let samples ← processedSamples config rollouts
  let (miniBatches, miniBatchIndex) ← splitBatch config samples gathered
  let data ← (miniBatches.zip miniBatchIndex).mapM fun (miniBatch, indices) =>
    forwardMiniBatch config logit logProb samples miniBatch indices
  .ok data.flatten

end MiniBatch

end CosmosRl.Reference
