import CosmosRl.Reward.Schema
import Mathlib.Algebra.Order.Field.Basic

/-!
`GRPO` and `RolloutGroup`: the rewards and advantages of the completions of a prompt.

The rollouts of a group are the rows of eight columns, as many as the shortest column has.
Values come from an ordered field, in which the square root is a parameter.
-/

namespace CosmosRl.Reward

open CosmosRl.Foundation
open CosmosRl.Dispatcher (PyError)

variable {contents : Contents}

/-- What a reward function returns for the completions of a prompt: the rewards, the filter
rewards and the metrics. -/
structure RewardLists (contents : Contents) where
  rewards : List contents.Value
  filterRewards : List contents.Value
  metrics : List (ReportMetrics contents.Info)

/-- `GRPO` with the reward function of the user. -/
structure GRPO (contents : Contents) where
  computeReward : List contents.Completion → String → Option contents.Prompt →
    Except PyError (RewardLists contents)
  unbiased : Bool := false
  eps : contents.Value
  sqrt : contents.Value → contents.Value

section Model

variable [Field contents.Value] [LinearOrder contents.Value]

def mean (values : List contents.Value) : contents.Value := values.sum / values.length

/-- `np.std`: the divisor is the number of values. -/
def GRPO.std (algo : GRPO contents) (values : List contents.Value) : contents.Value :=
  algo.sqrt (mean (values.map fun value => (value - mean values) ^ 2))

/-- `compute_advantage`. -/
def GRPO.computeAdvantage (algo : GRPO contents) (rewards : List contents.Value) :
    List contents.Value :=
  if algo.unbiased then rewards.map fun reward => reward - mean rewards
  else rewards.map fun reward => (reward - mean rewards) / (algo.std rewards + algo.eps)

def betterOf (best : Option (contents.Value × contents.Value))
    (next : contents.Value × Option contents.Value) :
    Option (contents.Value × contents.Value) :=
  match next.2, best with
  | none, best => best
  | some logprob, none => some (next.1, logprob)
  | some logprob, some best => if best.2 < logprob then some (next.1, logprob) else some best

def markMostLikely (rewards : List contents.Value)
    (cumulativeLogprob : List (Option contents.Value))
    (metrics : List (ReportMetrics contents.Info)) : List (ReportMetrics contents.Info) :=
  match (rewards.zip cumulativeLogprob).foldl betterOf none, metrics with
  | some (bestReward, _), first :: rest =>
    ((first.set "most_likely_mode_reward_mean" (contents.ofValue bestReward)).set
      "most_likely_mode_reward_count" (contents.ofValue 1)) :: rest
  | _, metrics => metrics

def groupMetrics (payload : RLPayload contents) (scores : RewardLists contents) :
    Except PyError (List (ReportMetrics contents.Info)) :=
  match payload.cumulativeLogprob with
  | none => .ok scores.metrics
  | some cumulativeLogprob =>
    if cumulativeLogprob.length = scores.rewards.length then
      .ok (markMostLikely scores.rewards cumulativeLogprob scores.metrics)
    else .error (.assertionError
      "[RolloutGroup] The length of cumulative_logprob should be the same as the length of completions")

def columnOr {Entry : Type} (completions : List contents.Completion)
    (column : Option (List (List Entry))) : List (List Entry) :=
  column.getD (completions.map fun _ => [])

def zipRollouts (payload : RLPayload contents) (isEnd : Bool)
    (completions : List contents.Completion) (scores : RewardLists contents)
    (metrics : List (ReportMetrics contents.Info)) (advantages : List contents.Value) :
    List (Rollout contents) :=
  (completions.zip <|
    (columnOr completions payload.completedConversations).zip <|
    scores.rewards.zip <| scores.filterRewards.zip <| metrics.zip <| advantages.zip <|
    (columnOr completions payload.completionLogprobs).zip
      (columnOr completions payload.completionTokenIds)).map
      fun (completion, completedConversation, reward, filterReward, rewardMetrics, advantage,
          logprobs, tokenIds) =>
        { prompt := payload.prompt
          conversation := payload.conversation
          completion := completion
          completedConversation := some completedConversation
          isEnd := isEnd
          reward := reward
          advantage := advantage
          promptIdx := payload.promptIdx
          filterReward := filterReward
          completionLogprobs := some logprobs
          completionTokenIds := some tokenIds
          reportMetrics := some rewardMetrics }

/-- `compute_rollouts` of the group of a payload. -/
def computeRollouts (algo : GRPO contents) (isEnd : Bool) (payload : RLPayload contents) :
    Except PyError (List (Rollout contents)) :=
  match payload.referenceAnswer, payload.completions with
  | none, _ => .error (.assertionError "[RolloutGroup] Reference answer is not provided")
  | some _, none | some _, some [] => .error (.assertionError
      "[RolloutGroup] Completions are not provided correctly, please check the `rollout_generation` to make sure its returned `RolloutResult.completions` has a length of the number of generated samples.")
  | some referenceAnswer, some completions => do
    let scores ← algo.computeReward completions referenceAnswer payload.prompt
    if scores.rewards.length = scores.filterRewards.length ∧
        scores.filterRewards.length = scores.metrics.length ∧
        scores.metrics.length = completions.length then
      let metrics ← groupMetrics payload scores
      .ok (zipRollouts payload isEnd completions scores metrics
        (algo.computeAdvantage scores.rewards))
    else .error (.assertionError
      "[RolloutGroup] The length of rewards, filter_rewards, reward_metrics should be the same as the length of completions")

end Model

section Advantages

variable [Field contents.Value] {algo : GRPO contents}

theorem length_computeAdvantage (rewards : List contents.Value) :
    (algo.computeAdvantage rewards).length = rewards.length := by
  rw [GRPO.computeAdvantage]
  split
  · exact List.length_map ..
  · exact List.length_map ..

end Advantages

section Zipping

variable {payload : RLPayload contents} {isEnd : Bool} {completions : List contents.Completion}
  {scores : RewardLists contents} {metrics : List (ReportMetrics contents.Info)}
  {advantages : List contents.Value}

theorem le_length_zipRollouts_iff (payload : RLPayload contents) (isEnd : Bool)
    (completions : List contents.Completion) (scores : RewardLists contents)
    (metrics : List (ReportMetrics contents.Info)) (advantages : List contents.Value)
    (count : Nat) :
    count ≤ (zipRollouts payload isEnd completions scores metrics advantages).length ↔
      count ≤ completions.length ∧
        count ≤ (columnOr completions payload.completedConversations).length ∧
        count ≤ scores.rewards.length ∧ count ≤ scores.filterRewards.length ∧
        count ≤ metrics.length ∧ count ≤ advantages.length ∧
        count ≤ (columnOr completions payload.completionLogprobs).length ∧
        count ≤ (columnOr completions payload.completionTokenIds).length := by
  simp only [zipRollouts, List.length_map, List.length_zip, le_min_iff]

/-- A row has the entries of its index. -/
theorem getElem?_zipRollouts {index : Nat} {rollout : Rollout contents}
    (found : (zipRollouts payload isEnd completions scores metrics advantages)[index]? =
      some rollout) :
    completions[index]? = some rollout.completion ∧
      ((columnOr completions payload.completedConversations)[index]?).map some =
        some rollout.completedConversation ∧
      scores.rewards[index]? = some rollout.reward ∧
      scores.filterRewards[index]? = some rollout.filterReward ∧
      (metrics[index]?).map some = some rollout.reportMetrics ∧
      advantages[index]? = some rollout.advantage ∧
      ((columnOr completions payload.completionLogprobs)[index]?).map some =
        some rollout.completionLogprobs ∧
      ((columnOr completions payload.completionTokenIds)[index]?).map some =
        some rollout.completionTokenIds ∧
      rollout.promptIdx = payload.promptIdx := by
  rw [zipRollouts, List.getElem?_map, Option.map_eq_some_iff] at found
  obtain ⟨row, found, rfl⟩ := found
  simp only [List.getElem?_zip_eq_some] at found
  obtain ⟨completion, conversation, reward, filterReward, rewardMetrics, advantage, logprobs,
    tokenIds⟩ := found
  refine ⟨completion, ?_, reward, filterReward, ?_, advantage, ?_, ?_, rfl⟩
  · rw [conversation, Option.map_some]
  · rw [rewardMetrics, Option.map_some]
  · rw [logprobs, Option.map_some]
  · rw [tokenIds, Option.map_some]

end Zipping

section Rollouts

variable [Field contents.Value] [LinearOrder contents.Value] {algo : GRPO contents}
  {payload : RLPayload contents} {isEnd : Bool} {rollouts : List (Rollout contents)}

theorem length_markMostLikely (rewards : List contents.Value)
    (cumulativeLogprob : List (Option contents.Value))
    (metrics : List (ReportMetrics contents.Info)) :
    (markMostLikely rewards cumulativeLogprob metrics).length = metrics.length := by
  unfold markMostLikely
  split
  · rfl
  · rfl

theorem length_groupMetrics {scores : RewardLists contents}
    {metrics : List (ReportMetrics contents.Info)}
    (grouped : groupMetrics payload scores = .ok metrics) :
    metrics.length = scores.metrics.length := by
  rw [groupMetrics] at grouped
  split at grouped
  next => rw [Except.ok.inj grouped]
  next cumulativeLogprob =>
    split at grouped
    next =>
      rw [← Except.ok.inj grouped]
      exact length_markMostLikely ..
    next => cases grouped

/-- The rollouts of a group are rows of columns all but three of which have an entry for
every completion. -/
theorem computeRollouts_ok (computed : computeRollouts algo isEnd payload = .ok rollouts) :
    ∃ completions scores metrics, payload.completions = some completions ∧
      completions ≠ [] ∧ scores.rewards.length = completions.length ∧
      scores.filterRewards.length = completions.length ∧ metrics.length = completions.length ∧
      (∃ referenceAnswer, payload.referenceAnswer = some referenceAnswer ∧
        algo.computeReward completions referenceAnswer payload.prompt = .ok scores) ∧
      rollouts = zipRollouts payload isEnd completions scores metrics
        (algo.computeAdvantage scores.rewards) := by
  rw [computeRollouts] at computed
  split at computed
  next => cases computed
  next => cases computed
  next => cases computed
  next referenceAnswer completions notEmpty answerIs completionsIs =>
    cases rewarded : algo.computeReward completions referenceAnswer payload.prompt with
    | error exn =>
      rw [rewarded] at computed
      cases computed
    | ok scores =>
      rw [rewarded] at computed
      simp only [bind, Except.bind] at computed
      split at computed
      next sameLengths =>
        obtain ⟨rewardsSame, filterSame, metricsSame⟩ := sameLengths
        cases grouped : groupMetrics payload scores with
        | error exn =>
          rw [grouped] at computed
          cases computed
        | ok metrics =>
          rw [grouped] at computed
          refine ⟨completions, scores, metrics, completionsIs, ?_,
            rewardsSame.trans (filterSame.trans metricsSame),
            filterSame.trans metricsSame, (length_groupMetrics grouped).trans metricsSame,
            ⟨referenceAnswer, answerIs, rewarded⟩, (Except.ok.inj computed).symm⟩
          exact notEmpty
      next => cases computed

end Rollouts

end CosmosRl.Reward
