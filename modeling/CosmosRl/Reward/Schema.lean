import CosmosRl.Data.DecoderOnlyLLMDataPacker

/-!
`RLPayload` and `Rollout` with all fields that the reward pipeline passes on.

Prompts, completions, numbers and other Python objects are only moved around, so their
types are parameters.
-/

namespace CosmosRl.Reward

open CosmosRl.Foundation
open CosmosRl.Data (ChatRole)
open CosmosRl.Dispatcher (PyError)

/-- The types of the objects in a payload, and the objects that the code itself writes.
The content of a message is a text or a list of parts, and a completion may be `None`. -/
structure Contents where
  Prompt : Type
  Content : Type
  Completion : Type
  Value : Type
  Info : Type
  emptyText : Content
  noCompletion : Completion
  ofValue : Value → Info

structure ChatMessage (Content : Type) where
  role : ChatRole
  content : Content

abbrev Contents.Conversation (contents : Contents) := List (ChatMessage contents.Content)

/-- A value of `extra_info`: a sequence, which may have an entry for every rollout, or
another object. -/
inductive ExtraInfo (Info : Type) where
  | sequence (values : List Info)
  | object (value : Info)

abbrev ReportMetrics (Info : Type) := Dict String Info

structure RLPayload (contents : Contents) where
  prompt : Option contents.Prompt := none
  promptIdx : Int := -1
  conversation : Option contents.Conversation := none
  referenceAnswer : Option String := none
  weightVersion : Int := 0
  completions : Option (List contents.Completion) := none
  completedConversations : Option (List contents.Conversation) := none
  nIgnorePrefixTokens : Option (List Nat) := none
  rewards : Option (List contents.Value) := none
  advantages : Option (List contents.Value) := none
  valid : Option Bool := some true
  filterRewards : Option (List contents.Value) := none
  completionTokenIds : Option (List (List (List Nat))) := none
  completionLogprobs : Option (List (List (List contents.Value))) := none
  promptLogprobs : Option (List (List contents.Value)) := none
  promptTokenIds : Option (List (List Nat)) := none
  cumulativeLogprob : Option (List (Option contents.Value)) := none
  extraInfo : Option (Dict String (ExtraInfo contents.Info)) := none
  reportMetrics : Option (List (ReportMetrics contents.Info)) := none
  teacherResultUuids : Option (List String) := none

structure Rollout (contents : Contents) where
  prompt : Option contents.Prompt := none
  promptIdx : Int := -1
  conversation : Option contents.Conversation := none
  completion : contents.Completion
  completedConversation : Option contents.Conversation := none
  isEnd : Bool := false
  reward : contents.Value
  advantage : contents.Value
  nIgnorePrefixTokens : Nat := 0
  filterReward : contents.Value
  completionTokenIds : Option (List (List Nat)) := none
  completionLogprobs : Option (List (List contents.Value)) := none
  weightVersion : Int := 0
  reportMetrics : Option (ReportMetrics contents.Info) := none
  teacherResultUuid : String := ""
  promptLogprobs : Option (List (List contents.Value)) := none
  promptTokenIds : Option (List (List Nat)) := none
  extraInfo : Option (Dict String (ExtraInfo contents.Info)) := none

structure RewardTask (contents : Contents) where
  payloads : List (RLPayload contents)
  isValidation : Bool
  step : Int

/-- An entry of the task queue: the identifier of a request to the reward service, a result,
or a task that a worker may have done. -/
inductive QueuedTask (contents : Contents) where
  | uuid (uuid : String)
  | result (task : RewardTask contents)
  | future (task : RewardTask contents) (done : Option (Except PyError (RewardTask contents)))

end CosmosRl.Reward
