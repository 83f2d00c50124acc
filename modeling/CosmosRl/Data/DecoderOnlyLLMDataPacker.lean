import CosmosRl.Dispatcher.Protocol

/-!
`DecoderOnlyLLMDataPacker`: the token ids and the logprob mask of a sample, the
collation of a mini-batch, and the tokens that `compute_logprobs` selects.

The tokenizer with its chat template is a library outside the repository and enters
as a parameter.
-/

namespace CosmosRl.Data

open CosmosRl.Dispatcher (PyError)

inductive ChatRole where
  | system
  | user
  | assistant
  | tool
  | unknown (name : String)
  deriving DecidableEq, Repr

structure ChatMessage where
  role : ChatRole
  content : String
  deriving DecidableEq, Repr

abbrev ConversationType := List ChatMessage

/-- What the packer uses of a tokenizer: `encode` adds no special tokens, and the
template functions carry the tools and flags of the configuration. -/
structure Tokenizer where
  encode : String → List Nat
  renderChatTemplate : ConversationType → String
  tokenizeChatTemplate : ConversationType → List Nat
  padToken : String
  padTokenId : Nat

inductive PromptSample where
  | text (text : String)
  | conversation (messages : ConversationType)

inductive Completion where
  | text (text : String)
  | tokenIds (ids : List Nat)

/-- `RLPolicyInput`. -/
structure RLPolicyInput where
  inputIds : List Nat
  logprobMasks : List Bool
  deriving DecidableEq, Repr

section MultiTurn

variable (tokenizer : Tokenizer)

def padRunLength : Nat := 10

/-- `tokenizer.pad_token * pad_run_length`. -/
def placeholderTokens : String :=
  String.join (List.replicate padRunLength tokenizer.padToken)

def placeholderTokenIds : List Nat := List.replicate padRunLength tokenizer.padTokenId

/-- Check the conversation and replace the assistant's messages by placeholders: the
contents replaced and the conversation left. -/
def replaceUnmaskedRoles : Nat → ConversationType →
    Except PyError (List String × ConversationType)
  | _, [] => .ok ([], [])
  | i, msg :: rest =>
    match msg.role with
    | .unknown name => .error (.assertionError ("Unknown role: " ++ name))
    | .system =>
      if i = 0 then
        (replaceUnmaskedRoles (i + 1) rest).map fun (contents, messages) =>
          (contents, msg :: messages)
      else .error (.assertionError "System message should be the first message")
    | .assistant =>
      (replaceUnmaskedRoles (i + 1) rest).map fun (contents, messages) =>
        (msg.content :: contents,
          { msg with content := placeholderTokens tokenizer } :: messages)
    | .user | .tool =>
      (replaceUnmaskedRoles (i + 1) rest).map fun (contents, messages) =>
        (contents, msg :: messages)

/-- The loop that splits the template at the placeholders, from position `idx` with
the current part beginning at `lastIdx`.  Every round moves on, so that the length of
the template bounds the rounds. -/
def splitTemplate (template : List Nat) : Nat → Nat → Nat → List (List Nat)
  | 0, _, lastIdx => [template.drop lastIdx]
  | rounds + 1, idx, lastIdx =>
    if idx + padRunLength < template.length then
      if (template.drop idx).take padRunLength = placeholderTokenIds tokenizer then
        (template.take idx).drop lastIdx ::
          splitTemplate template rounds (idx + padRunLength) (idx + padRunLength)
      else splitTemplate template rounds (idx + 1) lastIdx
    else [template.drop lastIdx]

def concatParts : List (List Nat) → List (List Nat) → List Nat × List Bool
  | part :: parts, content :: contents =>
    match concatParts parts contents with
    | (ids, mask) =>
      (part ++ content ++ ids,
        List.replicate part.length false ++ List.replicate content.length true ++ mask)
  | part :: _, [] => (part, List.replicate part.length false)
  | [], _ => ([], [])

def templateParts (conversation : ConversationType) :
    Except PyError (List (List Nat) × List (List Nat)) :=
  (replaceUnmaskedRoles tokenizer 0 conversation).map fun (contents, messages) =>
    let template := tokenizer.tokenizeChatTemplate messages
    (splitTemplate tokenizer template template.length 0 0, contents.map tokenizer.encode)

/-- `get_token_ids_and_loss_mask_from_conversation`.  When the spliced ids differ from
those of the full template, the spliced ids are the ones returned. -/
def getTokenIdsAndLossMaskFromConversation (conversation : ConversationType) :
    Except PyError (List Nat × List Bool) :=
  match templateParts tokenizer conversation with
  | .error exn => .error exn
  | .ok (parts, contents) =>
    if contents = [] then
      let fullTokenIds := tokenizer.tokenizeChatTemplate conversation
      .ok (fullTokenIds, List.replicate fullTokenIds.length false)
    else if parts.length = contents.length + 1 then .ok (concatParts parts contents)
    else .error (.assertionError ("Number of token ids parts should be the same as the " ++
      "number of unmasked role contents + 1"))

end MultiTurn

section GetPolicyInput

variable (tokenizer : Tokenizer) (multiTurn : Bool)

/-- The prompt ids of single-turn training: `get_rollout_input`, tokenized. -/
def promptIds : PromptSample → List Nat
  | .text text => tokenizer.encode text
  | .conversation messages => tokenizer.encode (tokenizer.renderChatTemplate messages)

def completionIds : Completion → List Nat
  | .text text => tokenizer.encode text
  | .tokenIds ids => ids

/-- `get_policy_input`. -/
def getPolicyInput (sample : PromptSample) (completion : Completion)
    (nIgnorePrefixTokens : Nat) : Except PyError RLPolicyInput :=
  if multiTurn then
    match sample with
    | .text _ => .error .attributeError
    | .conversation messages =>
      match getTokenIdsAndLossMaskFromConversation tokenizer messages with
      | .error exn => .error exn
      | .ok (inputIds, lossMask) =>
        if lossMask.any id then .ok ⟨inputIds, lossMask⟩
        else .error (.assertionError
          "Should not mask all tokens, this sample is not valid")
  else
    let prompt := promptIds tokenizer sample
    let completed := completionIds tokenizer completion
    .ok
      { inputIds := prompt ++ completed
        -- a list repeated a negative number of times is empty
        logprobMasks := List.replicate (prompt.length + nIgnorePrefixTokens - 1) false ++
          List.replicate (completed.length - nIgnorePrefixTokens) true ++ [false] }

end GetPolicyInput

section Collate

/-- `policy_compute_max_len`. -/
def policyComputeMaxLen (processedSamples : List RLPolicyInput) : Nat :=
  (processedSamples.map fun sample => sample.inputIds.length).foldr max 0

/-- `computed_max_len` of a mini-batch: the model's length with pipeline parallelism,
else that of the longest sample, rounded up. -/
def computedMaxLen (pipelineMaxLength : Option Nat) (seqLenMultiple : Nat)
    (processedSamples : List RLPolicyInput) : Nat :=
  (pipelineMaxLength.getD (policyComputeMaxLen processedSamples) + seqLenMultiple - 1) /
    seqLenMultiple * seqLenMultiple

/-- One row of `policy_collate_fn`: cut or padded to the length. -/
def collateRow {Alpha : Type} (pad : Alpha) (length : Nat) (row : List Alpha) : List Alpha :=
  row.take length ++ List.replicate (length - row.length) pad

end Collate

section ComputeLogprobs

/-- The shifted row of `compute_logprobs`, whose last entry is a filler. -/
def shiftInputIds {Alpha : Type} (filler : Alpha) (row : List Alpha) : List Alpha :=
  match row with
  | [] => []
  | _ :: rest => rest ++ [filler]

def selectMasked {Alpha : Type} (mask : List Bool) (row : List Alpha) : List Alpha :=
  ((mask.zip row).filter fun entry => entry.1).map Prod.snd

/-- The row's part of `effective_input_ids`: the targets of the masked positions. -/
def effectiveInputIds {Alpha : Type} (filler : Alpha) (row : List Alpha) (mask : List Bool) :
    List Alpha :=
  selectMasked mask (shiftInputIds filler row)

end ComputeLogprobs

end CosmosRl.Data
