import CosmosRl.Reward.RolloutGroup

/-!
The results of a rollout engine: which of them are valid, and the payloads that are reported
with them.
-/

namespace CosmosRl.Rollout

open CosmosRl.Foundation
open CosmosRl.Data (ChatRole)
open CosmosRl.Dispatcher (PyError)
open CosmosRl.Reward (ChatMessage Contents ExtraInfo RLPayload)

variable {contents : Contents}

structure RolloutResult (contents : Contents) where
  completions : Option (List contents.Completion) := none
  completedConversations : Option (List contents.Conversation) := none
  completionLogprobs : Option (List (List (List contents.Value))) := none
  promptLogprobs : Option (List (List contents.Value)) := none
  completionTokenIds : Option (List (List (List Nat))) := none
  cumulativeLogprob : Option (List (Option contents.Value)) := none
  promptTokenIds : Option (List (List Nat)) := none
  extraInfo : Option (Dict String (ExtraInfo contents.Info)) := none

/-- What a rollout worker knows when it filters results.  Only the first rank of a replica's
tensor-parallel group reports. -/
structure ResultFilter (contents : Contents) where
  nonText : Bool := false
  multiTurn : Bool := false
  localDataset : Bool := false
  shouldReport : Bool := true
  emptyCompletion : contents.Completion
  eosToken : contents.Completion
  currentWeightVersion : Int := 0
  queryReferenceAnswer : Int → Except PyError (Option String)

section Filtering

variable [DecidableEq contents.Content] [DecidableEq contents.Completion]

def isAnswer (msg : ChatMessage contents.Content) : Bool :=
  decide (msg.role = ChatRole.assistant) && decide (msg.content ≠ contents.emptyText)

def hasAnswer (conversation : contents.Conversation) : Bool := conversation.any isAnswer

def validConversations : Bool → List contents.Conversation → List contents.Conversation
  | _, [] => []
  | flag, conversation :: rest =>
    if flag || hasAnswer conversation then conversation :: validConversations true rest
    else validConversations false rest

namespace ResultFilter

variable (worker : ResultFilter contents)

def validResult (result : RolloutResult contents) :
    Except PyError (Option (RolloutResult contents)) :=
  if worker.nonText then
    match result.completions with
    | some (_ :: _) => .ok (some result)
    | _ => .ok none
  else if worker.multiTurn then
    match result.completedConversations with
    | none => .error .typeError
    | some conversations =>
      if 0 < (validConversations false conversations).length then
        .ok (some { result with
          completedConversations := some (validConversations false conversations) })
      else .ok none
  else
    match result.completions with
    | none => .error .typeError
    | some completions =>
      if completions.length = 0 then .ok none
      else
        .ok (some { result with
          completions := some (completions.map fun outputText =>
            if outputText ≠ worker.emptyCompletion then outputText else worker.eosToken) })

def referenceAnswer (payload : RLPayload contents) : Except PyError (Option String) :=
  if worker.localDataset then worker.queryReferenceAnswer payload.promptIdx
  else .ok payload.referenceAnswer

def updatedPayload (entry : RLPayload contents × RolloutResult contents) :
    Except PyError (RLPayload contents) :=
  match worker.referenceAnswer entry.1 with
  | .error exn => .error exn
  | .ok referenceAnswer =>
    .ok { entry.1 with
      completions := entry.2.completions
      completionLogprobs := entry.2.completionLogprobs
      completionTokenIds := entry.2.completionTokenIds
      promptLogprobs := entry.2.promptLogprobs
      promptTokenIds := entry.2.promptTokenIds
      weightVersion := worker.currentWeightVersion
      cumulativeLogprob := entry.2.cumulativeLogprob
      extraInfo := entry.2.extraInfo
      completedConversations :=
        if worker.multiTurn then entry.2.completedConversations
        else entry.1.completedConversations
      referenceAnswer := referenceAnswer }

def validEntry (entry : RLPayload contents × RolloutResult contents) :
    Except PyError (Option (RLPayload contents × RolloutResult contents)) :=
  (worker.validResult entry.2).map fun valid => valid.map fun result => (entry.1, result)

/-- `_filter_valid_rollout_results_and_report`: the valid payloads with their results, and the
payloads that are enqueued for their rewards. -/
def filterValidRolloutResultsAndReport (rolloutResults : List (RolloutResult contents))
    (payloadsList : List (RLPayload contents)) :
    Except PyError (List (RLPayload contents × RolloutResult contents) ×
      List (RLPayload contents)) := do
  let entries ← (payloadsList.zip rolloutResults).mapM worker.validEntry
  if worker.shouldReport && decide (0 < entries.reduceOption.length) then
    let validPayloads ← entries.reduceOption.mapM worker.updatedPayload
    .ok (entries.reduceOption, validPayloads)
  else .ok (entries.reduceOption, [])

end ResultFilter

end Filtering

end CosmosRl.Rollout
