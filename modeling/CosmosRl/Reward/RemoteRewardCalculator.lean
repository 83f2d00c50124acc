import CosmosRl.Reward.LocalRewardCalculator
import Mathlib.Data.List.DropRight

/-!
`RemoteRewardCalculator`: the rewards are fetched from a service.

Every payload is one request, which the service names.  The rewards of a request are the
sum of the scores of all reward functions, and the payloads are rebuilt from the ones that
were kept for the requests.
-/

namespace CosmosRl.Reward

open CosmosRl.Foundation
open CosmosRl.Dispatcher (PyError)

variable {contents : Contents}

structure RewardFunctionConfig (Value : Type) where
  name : String
  weight : Value
  scoreKey : String
  clipMin : Value
  clipMax : Value

structure RemoteRewardConfig (contents : Contents) where
  scale : contents.Value
  rewardFns : List (RewardFunctionConfig contents.Value)
  rewardClipMin : contents.Value
  rewardClipMax : contents.Value
  sqrt : contents.Value → contents.Value

/-- The scores that the service has for a request and the name of a reward function; there
are none if the request fails or its answer has no scores. -/
abbrev Responses (contents : Contents) :=
  String → String → Option (Dict String (List contents.Value))

def strip (text : List Char) : List Char :=
  (text.dropWhile Char.isWhitespace).rdropWhile Char.isWhitespace

def compositeKeys (scoreKey : String) : List String :=
  (((scoreKey.toList.splitOn '+').map strip).filter fun key => ¬ key.isEmpty).map String.ofList

def addTensors [Add contents.Value] (first second : List contents.Value) :
    Except PyError (List contents.Value) :=
  if first.length = second.length then .ok (first.zipWith (· + ·) second)
  else match first, second with
    | [value], _ => .ok (second.map (value + ·))
    | _, [value] => .ok (first.map (· + value))
    | _, _ => .error (.runtimeError "The size of tensor a must match the size of tensor b")

def addToTotal [Add contents.Value] (total : Option (List contents.Value))
    (tensor : List contents.Value) : Except PyError (Option (List contents.Value)) :=
  match total with
  | none => .ok (some tensor)
  | some total => (addTensors total tensor).map some

section Model

variable [Field contents.Value] [LinearOrder contents.Value]

def partOf (scores : Dict String (List contents.Value)) (key : String) :
    Except PyError (List contents.Value) :=
  match scores.get? key with
  | some score => .ok score
  | none => .error .keyError

def compositeScore (scores : Dict String (List contents.Value)) (scoreKey : String) :
    Except PyError (List contents.Value) := do
  let parts ← (compositeKeys scoreKey).mapM (partOf scores)
  match ← parts.foldlM addToTotal none with
  | some score => .ok score
  | none => .error (.exception "[RemoteRewardCalculator] Invalid composite score_key")

def scoreOf (scores : Dict String (List contents.Value)) (scoreKey : String) :
    Except PyError (List contents.Value) :=
  if (strip scoreKey.toList).isEmpty then
    .error (.exception "[RemoteRewardCalculator] Invalid score_key")
  else match scores.get? scoreKey with
    | some score => .ok score
    | none => compositeScore scores scoreKey

def clamp (minimum maximum value : contents.Value) : contents.Value :=
  min (max value minimum) maximum

def weightedScore (responses : String → Option (Dict String (List contents.Value)))
    (rewardFn : RewardFunctionConfig contents.Value) : Except PyError (List contents.Value) :=
  match responses rewardFn.name with
  | none => .error .keyError
  | some scores => do
    let score ← scoreOf scores rewardFn.scoreKey
    .ok (score.map fun value =>
      clamp rewardFn.clipMin rewardFn.clipMax value * rewardFn.weight)

/-- `fetch_reward`. -/
def fetchReward (config : RemoteRewardConfig contents)
    (responses : String → Option (Dict String (List contents.Value))) :
    Except PyError (List contents.Value) := do
  let tensors ← config.rewardFns.mapM (weightedScore responses)
  match ← tensors.foldlM addToTotal none with
  | none => .error .typeError
  | some total => .ok (total.map fun value =>
    clamp config.rewardClipMin config.rewardClipMax value * config.scale)

def sampleStd (config : RemoteRewardConfig contents) (values : List contents.Value) :
    contents.Value :=
  config.sqrt ((values.map fun value => (value - mean values) ^ 2).sum / (values.length - 1))

def remoteAdvantages (config : RemoteRewardConfig contents) (rewards : List contents.Value) :
    List contents.Value :=
  rewards.map fun reward => (reward - mean rewards) / (sampleStd config rewards + 1 / 10000)

def remotePayload (config : RemoteRewardConfig contents) (payload : RLPayload contents)
    (rewards : List contents.Value) : RLPayload contents :=
  { prompt := payload.prompt
    promptIdx := payload.promptIdx
    completions := payload.completions
    rewards := some rewards
    advantages := some (remoteAdvantages config rewards)
    extraInfo := payload.extraInfo }

structure Fetched (contents : Contents) where
  results : List (List contents.Value)
  payloads : List (RLPayload contents)
  queue : List (QueuedTask contents)
  uuid2payload : Dict String (RLPayload contents)

/-- The loop of `get_results`: the rewards of the first requests, until one has none.  An
entry that is no identifier raises, as a key of a dictionary, and so do identifiers that
are not known; the latter have left the queue. -/
def fetchReady (config : RemoteRewardConfig contents) (responses : Responses contents) :
    List (QueuedTask contents) → Dict String (RLPayload contents) → Fetched contents
  | .uuid uuid :: rest, uuid2payload =>
    match fetchReward config (responses uuid) with
    | .error _ => ⟨[], [], .uuid uuid :: rest, uuid2payload⟩
    | .ok rewards =>
      match uuid2payload.get? uuid with
      | none => ⟨[rewards], [], rest, uuid2payload⟩
      | some payload =>
        let later := fetchReady config responses rest (uuid2payload.erase uuid)
        { later with
          results := rewards :: later.results
          payloads := payload :: later.payloads }
  | queue, uuid2payload => ⟨[], [], queue, uuid2payload⟩

/-- The payloads of `get_results`; validation and step are not kept. -/
def Fetched.task (config : RemoteRewardConfig contents) (fetched : Fetched contents) :
    Except PyError (RewardTask contents) := do
  checkPromptIdx fetched.payloads
  .ok ⟨(fetched.payloads.zip fetched.results).map fun (payload, rewards) =>
    remotePayload config payload rewards, false, 0⟩

end Model

section Fetching

variable [Field contents.Value]
  {config : RemoteRewardConfig contents}

variable {count : Nat} {scores : Dict String (List contents.Value)} {scoreKey : String}
  {score rewards : List contents.Value}

theorem addToTotal_length {total after : Option (List contents.Value)}
    {tensor : List contents.Value} (totalLength : ∀ values ∈ total, values.length = count)
    (tensorLength : tensor.length = count) (added : addToTotal total tensor = .ok after) :
    ∀ values ∈ after, values.length = count := by
  cases total with
  | none =>
    cases added
    exact fun values isTensor => Option.mem_some_iff.mp isTensor ▸ tensorLength
  | some total =>
    have same : total.length = tensor.length := (totalLength total rfl).trans tensorLength.symm
    have summed : addTensors total tensor = .ok (total.zipWith (· + ·) tensor) := by
      unfold addTensors
      exact if_pos same
    rw [addToTotal, summed] at added
    cases added
    intro values isSum
    rw [← Option.mem_some_iff.mp isSum, List.length_zipWith, same, min_self, tensorLength]

theorem foldlM_addToTotal_length {tensors : List (List contents.Value)}
    {total after : Option (List contents.Value)}
    (totalLength : ∀ values ∈ total, values.length = count)
    (tensorsLength : ∀ tensor ∈ tensors, tensor.length = count)
    (added : tensors.foldlM addToTotal total = .ok after) :
    ∀ values ∈ after, values.length = count := by
  induction tensors generalizing total with
  | nil =>
    cases added
    exact totalLength
  | cons tensor tensors ih =>
    rw [List.foldlM_cons] at added
    rw [List.forall_mem_cons] at tensorsLength
    cases next : addToTotal total tensor with
    | error exn =>
      rw [next] at added
      cases added
    | ok between =>
      rw [next] at added
      exact ih (addToTotal_length totalLength tensorsLength.1 next) tensorsLength.2 added

theorem compositeScore_length
    (scoresLength : ∀ key score, scores.get? key = some score → score.length = count)
    (found : compositeScore scores scoreKey = .ok score) : score.length = count := by
  rw [compositeScore] at found
  cases collected : (compositeKeys scoreKey).mapM (partOf scores) with
  | error exn => simp [collected, bind, Except.bind] at found
  | ok parts =>
    have partsLength : ∀ part ∈ parts, part.length = count := by
      intro part isPart
      obtain ⟨key, -, looked⟩ := exists_item_of_mapM_ok collected isPart
      rw [partOf] at looked
      split at looked
      next isScore => exact Except.ok.inj looked ▸ scoresLength key _ isScore
      next => cases looked
    cases summed : parts.foldlM addToTotal none with
    | error exn => simp [collected, summed, bind, Except.bind] at found
    | ok total =>
      have totalLength :=
        foldlM_addToTotal_length (fun _ impossible => by cases impossible) partsLength summed
      cases total with
      | none => simp [collected, summed, bind, Except.bind] at found
      | some total =>
        simp only [collected, summed, bind, Except.bind, Except.ok.injEq] at found
        rw [← found]
        exact totalLength total rfl

theorem scoreOf_length
    (scoresLength : ∀ key score, scores.get? key = some score → score.length = count)
    (found : scoreOf scores scoreKey = .ok score) : score.length = count := by
  rw [scoreOf] at found
  split at found
  next => cases found
  next =>
    split at found
    next isScore => exact Except.ok.inj found ▸ scoresLength _ _ isScore
    next => exact compositeScore_length scoresLength found

variable [LinearOrder contents.Value]

/-- Fetched rewards have as many entries as the scores of the service. -/
theorem fetchReward_length {responses : String → Option (Dict String (List contents.Value))}
    (scoresLength : ∀ name scores, responses name = some scores →
      ∀ key score, scores.get? key = some score → score.length = count)
    (fetched : fetchReward config responses = .ok rewards) : rewards.length = count := by
  rw [fetchReward] at fetched
  cases collected : config.rewardFns.mapM (weightedScore responses) with
  | error exn => simp [collected, bind, Except.bind] at fetched
  | ok tensors =>
    have tensorsLength : ∀ tensor ∈ tensors, tensor.length = count := by
      intro tensor isTensor
      obtain ⟨rewardFn, -, weighted⟩ := exists_item_of_mapM_ok collected isTensor
      rw [weightedScore] at weighted
      split at weighted
      next => cases weighted
      next scores answered =>
        cases found : scoreOf scores rewardFn.scoreKey with
        | error exn => simp [found, bind, Except.bind] at weighted
        | ok score =>
          simp only [found, bind, Except.bind, Except.ok.injEq] at weighted
          rw [← weighted, List.length_map]
          exact scoreOf_length (scoresLength _ _ answered) found
    cases summed : tensors.foldlM addToTotal none with
    | error exn => simp [collected, summed, bind, Except.bind] at fetched
    | ok total =>
      have totalLength := foldlM_addToTotal_length
        (fun _ impossible => by cases impossible) tensorsLength summed
      cases total with
      | none => simp [collected, summed, bind, Except.bind] at fetched
      | some total =>
        simp only [collected, summed, bind, Except.bind, Except.ok.injEq] at fetched
        rw [← fetched, List.length_map]
        exact totalLength total rfl

omit [LinearOrder contents.Value] in
theorem keepsIdentity_remotePayload {payload : RLPayload contents}
    (rewardsLength : rewards.length = (payload.completions.getD []).length) :
    KeepsIdentity payload (remotePayload config payload rewards) ↔
      payload.weightVersion = 0 := by
  constructor
  · intro keeps
    exact keeps.weightVersion.symm
  · intro initial
    refine ⟨rfl, rfl, initial.symm, fun _ _ _ => by rw [initial]; rfl,
      ⟨rewards, rfl, rewardsLength⟩, ⟨_, rfl, ?_⟩⟩
    rw [remoteAdvantages, List.length_map, rewardsLength]

end Fetching

end CosmosRl.Reward
