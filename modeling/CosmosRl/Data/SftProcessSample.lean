import CosmosRl.Data.DecoderOnlyLLMDataPacker

/-!
`DecoderOnlyLLMDataPacker.sft_process_sample`: the token ids and the labels of a
supervised sample, and what the call leaves of the sample itself.

The messages of the sample are edited in place.  A failure after that is caught, and the
sample is then trained on as a whole from a copy made before.
-/

namespace CosmosRl.Data

open CosmosRl.Dispatcher (PyError)

structure SftMessage where
  role : Option ChatRole
  content : String
  deriving DecidableEq, Repr

inductive SftSample where
  | text (text : String)
  | conversation (messages : List SftMessage)
  deriving DecidableEq, Repr

/-- What `sft_process_sample` uses of a tokenizer.  The template can refuse a
conversation, and any of the special tokens can be unset. -/
structure SftTokenizer where
  encode : String → List Nat
  applyChatTemplate : List SftMessage → Except PyError (List Nat)
  padToken : Option String
  padTokenId : Option Nat
  eosTokenId : Option Nat

structure SftItem where
  tokenIds : List Nat
  labelIds : List Int
  deriving DecidableEq, Repr

/-- `IGNORE_LABEL_ID`. -/
def ignoreLabelId : Int := -100

section ReplaceAssistantContent

variable (padTokenId : Nat) (eosTokenId : Option Nat)

def firstRun (tokenIds : List Nat) : Option Nat :=
  (List.range (tokenIds.length + 1 - padRunLength)).find? fun i =>
    (tokenIds.drop i).take padRunLength = List.replicate padRunLength padTokenId

/-- `_replace_assistant_content`. -/
def replaceAssistantContent (tokenIds : List Nat) (labelIds : List Int)
    (replacementIds : List Nat) : Bool × List Nat × List Int :=
  match firstRun padTokenId tokenIds with
  | some i =>
    (true, tokenIds.take i ++ replacementIds ++ tokenIds.drop (i + padRunLength),
      if i + padRunLength < tokenIds.length ∧ tokenIds[i + padRunLength]? = eosTokenId then
        labelIds.take i ++ replacementIds.map Int.ofNat ++ eosTokenId.toList.map Int.ofNat ++
          labelIds.drop (i + padRunLength + 1)
      else
        labelIds.take i ++ replacementIds.map Int.ofNat ++ labelIds.drop (i + padRunLength))
  | none => (false, tokenIds, labelIds)

def replaceAssistantContents : List (List Nat) → List Nat → List Int → Except PyError SftItem
  | [], tokenIds, labelIds => .ok ⟨tokenIds, labelIds⟩
  | replacementIds :: rest, tokenIds, labelIds =>
    match replaceAssistantContent padTokenId eosTokenId tokenIds labelIds replacementIds with
    | (false, _, _) => .error (.exception "No assistant content to replace")
    | (true, tokenIds, labelIds) =>
      if tokenIds.length ≠ labelIds.length then
        .error (.exception "token_ids and label_ids should have the same length")
      else replaceAssistantContents rest tokenIds labelIds

end ReplaceAssistantContent

section SftProcessSample

def maskAssistants (padToken : String) : List SftMessage → List String × List SftMessage
  | [] => ([], [])
  | x :: rest =>
    match maskAssistants padToken rest with
    | (contents, messages) =>
      match x.role with
      | some .assistant =>
        (x.content :: contents,
          { x with content := String.join (List.replicate padRunLength padToken) } ::
            messages)
      | none => (contents, { x with role := some .assistant } :: messages)
      | some _ => (contents, x :: messages)

variable (tokenizer : SftTokenizer)

def assistantMasked (padTokenId : Nat) (contents : List String)
    (messages : List SftMessage) : Except PyError SftItem :=
  match tokenizer.applyChatTemplate messages with
  | .error exn => .error exn
  | .ok tokenIds =>
    replaceAssistantContents padTokenId tokenizer.eosTokenId
      (contents.map tokenizer.encode) tokenIds
      (List.replicate tokenIds.length ignoreLabelId)

def wholeTemplate (originalSample : List SftMessage) : Except PyError SftItem :=
  (tokenizer.applyChatTemplate originalSample).map fun tokenIds =>
    ⟨tokenIds, tokenIds.map Int.ofNat⟩

def checkItem (item : SftItem) : Except PyError SftItem :=
  if item.tokenIds = [] then .error .indexError else .ok item

/-- The body of the `try` for a conversation, with its fallback. -/
def processConversation (sample : List SftMessage) :
    List SftMessage × Except PyError SftItem :=
  match tokenizer.padToken, tokenizer.padTokenId with
  | some padToken, some padTokenId =>
    match maskAssistants padToken sample with
    | (contents, messages) =>
      (messages,
        match assistantMasked tokenizer padTokenId contents messages with
        | .ok item => .ok item
        | .error _ => wholeTemplate tokenizer sample)
  | _, _ => (sample, wholeTemplate tokenizer sample)

/-- `sft_process_sample`: what is left of the sample, and what is returned or raised. -/
def sftProcessSample : SftSample → SftSample × Except PyError SftItem
  | .text text =>
    (.text text,
      checkItem ⟨tokenizer.encode text, (tokenizer.encode text).map Int.ofNat⟩)
  | .conversation messages =>
    match processConversation tokenizer messages with
    | (left, outcome) => (.conversation left, outcome.bind checkItem)

end SftProcessSample

end CosmosRl.Data
