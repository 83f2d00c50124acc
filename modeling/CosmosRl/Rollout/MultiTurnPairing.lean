import CosmosRl.Foundation.Collecting
import CosmosRl.Foundation.Misaligned
import CosmosRl.Rollout.RolloutResults
import Mathlib.Algebra.Order.Ring.Rat
import Mathlib.Algebra.Field.Rat

/-!
Multi-turn results: which rollouts come of the generations of a prompt.

The filter drops conversations, but none of the other lists of a result; the rollouts are
the rows of all lists.  The loop keeps every conversation after the first valid one, so what
it drops is a prefix.
-/

namespace CosmosRl.Rollout

open CosmosRl.Foundation
open CosmosRl.Dispatcher (PyError)
open CosmosRl.Reward (Contents GRPO RLPayload RewardLists Rollout columnOr computeRollouts
  computeRollouts_ok getElem?_zipRollouts le_length_zipRollouts_iff length_computeAdvantage
  zipRollouts)
open List

variable {contents : Contents}

structure ScoredCompletion (contents : Contents) where
  completion : contents.Completion
  reward : contents.Value
  advantage : contents.Value
  logprobs : List (List contents.Value)
  tokenIds : List (List Nat)

section Rows

variable [Field contents.Value]

def scoredRows (algo : GRPO contents) (payload : RLPayload contents)
    (completions : List contents.Completion) (scores : RewardLists contents) :
    List (ScoredCompletion contents) :=
  (completions.zip <| scores.rewards.zip <| (algo.computeAdvantage scores.rewards).zip <|
    (columnOr completions payload.completionLogprobs).zip
      (columnOr completions payload.completionTokenIds)).map
    fun (completion, reward, advantage, logprobs, tokenIds) =>
      ⟨completion, reward, advantage, logprobs, tokenIds⟩

def scoredCompletions (worker : ResultFilter contents) (algo : GRPO contents)
    (entry : RLPayload contents × RolloutResult contents) : List (ScoredCompletion contents) :=
  match worker.updatedPayload entry with
  | .error _ => []
  | .ok payload =>
    match payload.completions, payload.referenceAnswer with
    | some completions, some referenceAnswer =>
      match algo.computeReward completions referenceAnswer payload.prompt with
      | .error _ => []
      | .ok scores => scoredRows algo payload completions scores
    | _, _ => []

end Rows

def RolloutResult.conversations (result : RolloutResult contents) :
    List contents.Conversation :=
  result.completedConversations.getD []

structure CarriesGeneration (rollout : Rollout contents)
    (generation : contents.Conversation × ScoredCompletion contents) : Prop where
  conversation : rollout.completedConversation = some generation.1
  completion : rollout.completion = generation.2.completion
  reward : rollout.reward = generation.2.reward
  advantage : rollout.advantage = generation.2.advantage
  logprobs : rollout.completionLogprobs = some generation.2.logprobs
  tokenIds : rollout.completionTokenIds = some generation.2.tokenIds

theorem carriesGeneration_unique : Relator.RightUnique (@CarriesGeneration contents) := by
  intro rollout first second isFirst isSecond
  obtain ⟨firstConversation, firstCompletion⟩ := first
  obtain ⟨secondConversation, secondCompletion⟩ := second
  have conversation : some firstConversation = some secondConversation :=
    isFirst.conversation.symm.trans isSecond.conversation
  have logprobs : some firstCompletion.logprobs = some secondCompletion.logprobs :=
    isFirst.logprobs.symm.trans isSecond.logprobs
  have tokenIds : some firstCompletion.tokenIds = some secondCompletion.tokenIds :=
    isFirst.tokenIds.symm.trans isSecond.tokenIds
  have completion : firstCompletion.completion = secondCompletion.completion :=
    isFirst.completion.symm.trans isSecond.completion
  have reward : firstCompletion.reward = secondCompletion.reward :=
    isFirst.reward.symm.trans isSecond.reward
  have advantage : firstCompletion.advantage = secondCompletion.advantage :=
    isFirst.advantage.symm.trans isSecond.advantage
  cases firstCompletion
  cases secondCompletion
  cases conversation
  cases logprobs
  cases tokenIds
  cases completion
  cases reward
  cases advantage
  rfl

section Filtering

variable [DecidableEq contents.Content]

theorem validConversations_true (conversations : List contents.Conversation) :
    validConversations true conversations = conversations := by
  induction conversations with
  | nil => rfl
  | cons conversation rest ih =>
    rw [validConversations, Bool.true_or, if_pos rfl, ih]

theorem validConversations_false (conversations : List contents.Conversation) :
    validConversations false conversations = fromFirst hasAnswer conversations := by
  induction conversations with
  | nil => rfl
  | cons conversation rest ih =>
    rw [validConversations, Bool.false_or, fromFirst]
    split
    next valid =>
      rw [validConversations_true, dropWhile_cons_of_neg]
      rw [valid]
      exact Bool.false_ne_true
    next invalid =>
      rw [ih, fromFirst, dropWhile_cons_of_pos]
      rw [Bool.eq_false_of_not_eq_true invalid]
      rfl

variable [DecidableEq contents.Completion]

theorem validResult_multiTurn {worker : ResultFilter contents} (text : worker.nonText = false)
    (multiTurn : worker.multiTurn = true) {result : RolloutResult contents}
    {kept : Option (RolloutResult contents)} (filtered : worker.validResult result = .ok kept) :
    kept = if fromFirst hasAnswer result.conversations = [] then none
      else some { result with
        completedConversations := some (fromFirst hasAnswer result.conversations) } := by
  rw [ResultFilter.validResult, text, if_neg Bool.false_ne_true, if_pos multiTurn] at filtered
  split at filtered
  next => cases filtered
  next conversations areConversations =>
    rw [RolloutResult.conversations, areConversations, Option.getD_some]
    rw [validConversations_false] at filtered
    split at filtered
    next some =>
      rw [if_neg (ne_nil_of_length_pos some)]
      exact (Except.ok.inj filtered).symm
    next none =>
      rw [if_pos (eq_nil_of_length_eq_zero (Nat.eq_zero_of_not_pos none))]
      exact (Except.ok.inj filtered).symm

end Filtering

section Rollouts

variable [Field contents.Value]

/-- The rollouts of a group carry the conversations and the completions at their index. -/
theorem forall₂_zipRollouts {algo : GRPO contents} {payload : RLPayload contents} {isEnd : Bool}
    {completions : List contents.Completion} {scores : RewardLists contents}
    {metrics : List (Reward.ReportMetrics contents.Info)}
    (filterRewards : scores.filterRewards.length = completions.length)
    (metricsLength : metrics.length = completions.length) :
    List.Forall₂ CarriesGeneration
      (zipRollouts payload isEnd completions scores metrics
        (algo.computeAdvantage scores.rewards))
      ((columnOr completions payload.completedConversations).zip
        (scoredRows algo payload completions scores)) := by
  refine forall₂_iff_get.mpr ⟨?_, ?_⟩
  · simp only [zipRollouts, scoredRows, length_map, length_zip, filterRewards, metricsLength]
    ac_rfl
  · intro index isRollout isGeneration
    have atRollout := getElem?_eq_getElem isRollout
    have atGeneration := getElem?_eq_getElem isGeneration
    rw [get_eq_getElem, get_eq_getElem]
    generalize (zipRollouts payload isEnd completions scores metrics
      (algo.computeAdvantage scores.rewards))[index] = rollout at atRollout ⊢
    generalize ((columnOr completions payload.completedConversations).zip
      (scoredRows algo payload completions scores))[index] = generation at atGeneration ⊢
    obtain ⟨completion, conversation, reward, -, -, advantage, logprobs, tokenIds, -⟩ :=
      getElem?_zipRollouts atRollout
    obtain ⟨ownConversation, ownCompletion⟩ := generation
    obtain ⟨sameConversation, scored⟩ := getElem?_zip_eq_some.mp atGeneration
    obtain ⟨row, found, same⟩ := Option.map_eq_some_iff.mp (getElem?_map ▸ scored)
    simp only [getElem?_zip_eq_some] at found
    obtain ⟨sameCompletion, sameReward, sameAdvantage, sameLogprobs, sameTokenIds⟩ := found
    dsimp only at same
    subst same
    rw [sameConversation] at conversation
    rw [sameLogprobs] at logprobs
    rw [sameTokenIds] at tokenIds
    exact
      { conversation := (Option.some.inj conversation).symm
        completion := Option.some.inj (completion.symm.trans sameCompletion)
        reward := Option.some.inj (reward.symm.trans sameReward)
        advantage := Option.some.inj (advantage.symm.trans sameAdvantage)
        logprobs := (Option.some.inj logprobs).symm
        tokenIds := (Option.some.inj tokenIds).symm }

variable [DecidableEq contents.Content]

/-- The rollouts of a result are exactly its generations with a valid conversation, each with
its own scores, log probabilities and tokens. -/
def PairsGenerations (worker : ResultFilter contents) (algo : GRPO contents)
    (entry : RLPayload contents × RolloutResult contents) (rollouts : List (Rollout contents)) :
    Prop :=
  List.Forall₂ CarriesGeneration rollouts
    (goodPairs hasAnswer entry.2.conversations (scoredCompletions worker algo entry))

/-- No conversation of the result is valid, or all of those with a completion are, or the
completions at the front are worth the same as those of the valid conversations at the end. -/
def AnswersFirst (worker : ResultFilter contents) (algo : GRPO contents)
    (entry : RLPayload contents × RolloutResult contents) : Prop :=
  WellPlaced hasAnswer entry.2.conversations (scoredCompletions worker algo entry)

def answers (entry : RLPayload contents × RolloutResult contents) : Bool :=
  ! (fromFirst hasAnswer entry.2.conversations).isEmpty

/-- What is promised of all results and of the groups of rollouts that come of them: a result
that is dropped has no valid generation, and the others pair their generations. -/
structure PairsAll (worker : ResultFilter contents) (algo : GRPO contents)
    (entries : List (RLPayload contents × RolloutResult contents))
    (groups : List (List (Rollout contents))) : Prop where
  dropped : ∀ entry ∈ entries, answers entry = false →
    goodPairs hasAnswer entry.2.conversations (scoredCompletions worker algo entry) = []
  paired : List.Forall₂ (PairsGenerations worker algo)
    (entries.filter answers) groups

variable {worker : ResultFilter contents} {result : RolloutResult contents}
  {entry : RLPayload contents × RolloutResult contents} {algo : GRPO contents}

omit [Field contents.Value] [DecidableEq contents.Content] in
theorem updatedPayload_filtered
    (multiTurn : worker.multiTurn = true) {payload updated : RLPayload contents}
    {left : List contents.Conversation}
    (updates : worker.updatedPayload
      (payload, { result with completedConversations := some left }) = .ok updated) :
    ∃ whole, worker.updatedPayload (payload, result) = .ok whole ∧
      updated = { whole with completedConversations := some left } := by
  rw [ResultFilter.updatedPayload] at updates
  rw [ResultFilter.updatedPayload]
  split at updates
  next => cases updates
  next referenceAnswer answered =>
    rw [answered]
    refine ⟨_, rfl, ?_⟩
    rw [← Except.ok.inj updates, multiTurn]
    rfl

theorem answersFirst_of_dropped (dropped : answers entry = false) :
    AnswersFirst worker algo entry ∧
      goodPairs hasAnswer entry.2.conversations (scoredCompletions worker algo entry) = [] := by
  have none : fromFirst hasAnswer entry.2.conversations = [] := by
    rw [answers, Bool.not_eq_false', List.isEmpty_iff] at dropped
    exact dropped
  have first : AnswersFirst worker algo entry := .inl (fromFirst_eq_nil_iff.mp none)
  refine ⟨first, ?_⟩
  rw [← (zip_fromFirst_eq_goodPairs_iff _ _ _).mpr first, none, zip_nil_left]

variable [LinearOrder contents.Value]

theorem pairsGenerations_iff_answersFirst (multiTurn : worker.multiTurn = true) {isEnd : Bool}
    {payload updated : RLPayload contents}
    {rollouts : List (Rollout contents)} (updates : worker.updatedPayload (payload, { result with
      completedConversations := some (fromFirst hasAnswer result.conversations) }) = .ok updated)
    (computed : computeRollouts algo isEnd updated = .ok rollouts) :
    PairsGenerations worker algo (payload, result) rollouts ↔
      AnswersFirst worker algo (payload, result) := by
  obtain ⟨whole, wholeUpdates, rfl⟩ := updatedPayload_filtered multiTurn updates
  obtain ⟨completions, scores, metrics, areCompletions, -, -, filterRewards, metricsLength,
    ⟨referenceAnswer, answers, scored⟩, rfl⟩ := computeRollouts_ok computed
  have rows : scoredCompletions worker algo (payload, result) =
      scoredRows algo whole completions scores := by
    rw [scoredCompletions, wholeUpdates]
    dsimp only at areCompletions answers scored ⊢
    rw [areCompletions, answers]
    dsimp only
    rw [scored]
  have carried : List.Forall₂ CarriesGeneration _
      ((fromFirst hasAnswer result.conversations).zip (scoredRows algo whole completions scores)) :=
    @forall₂_zipRollouts contents _ algo { whole with
      completedConversations := some (fromFirst hasAnswer result.conversations) } isEnd
      completions scores metrics filterRewards metricsLength
  rw [PairsGenerations, AnswersFirst, ← zip_fromFirst_eq_goodPairs_iff, rows]
  constructor
  · exact fun paired => carriesGeneration_unique.forall₂ carried paired
  · exact fun same => same ▸ carried

variable [DecidableEq contents.Completion]

section

omit [Field contents.Value] [LinearOrder contents.Value]

theorem validEntry_multiTurn (text : worker.nonText = false) (multiTurn : worker.multiTurn = true)
    {option : Option (RLPayload contents × RolloutResult contents)}
    (filtered : worker.validEntry entry = .ok option) :
    answers entry = option.isSome ∧ ∀ valid ∈ option, valid = (entry.1, { entry.2 with
      completedConversations := some (fromFirst hasAnswer entry.2.conversations) }) := by
  rw [ResultFilter.validEntry] at filtered
  cases result : worker.validResult entry.2 with
  | error exn =>
    rw [result] at filtered
    cases filtered
  | ok kept =>
    rw [result] at filtered
    have keptIs := validResult_multiTurn text multiTurn result
    have optionIs : kept.map (fun result => (entry.1, result)) = option := Except.ok.inj filtered
    by_cases none : fromFirst hasAnswer entry.2.conversations = []
    · rw [if_pos none] at keptIs
      rw [keptIs, Option.map_none] at optionIs
      rw [answers, none, ← optionIs]
      exact ⟨rfl, fun valid isValid => absurd isValid (Option.not_mem_none valid)⟩
    · rw [if_neg none] at keptIs
      rw [keptIs, Option.map_some] at optionIs
      rw [answers, isEmpty_eq_false_iff.mpr none, ← optionIs]
      exact ⟨rfl, fun valid isValid => (Option.some.inj isValid).symm⟩

theorem reported_of_filtered
    (reports : worker.shouldReport = true) {rolloutResults : List (RolloutResult contents)}
    {payloadsList reported : List (RLPayload contents)}
    {valid : List (RLPayload contents × RolloutResult contents)}
    (filtered : worker.filterValidRolloutResultsAndReport rolloutResults payloadsList =
      .ok (valid, reported)) :
    ∃ options, (payloadsList.zip rolloutResults).mapM worker.validEntry = .ok options ∧
      options.reduceOption.mapM worker.updatedPayload = .ok reported := by
  rw [ResultFilter.filterValidRolloutResultsAndReport] at filtered
  cases entries : (payloadsList.zip rolloutResults).mapM worker.validEntry with
  | error exn =>
    rw [entries] at filtered
    cases filtered
  | ok options =>
    rw [entries] at filtered
    simp only [bind, Except.bind, reports, Bool.true_and, decide_eq_true_eq] at filtered
    refine ⟨options, rfl, ?_⟩
    split at filtered
    next =>
      cases updates : options.reduceOption.mapM worker.updatedPayload with
      | error exn =>
        rw [updates] at filtered
        cases filtered
      | ok validPayloads =>
        rw [updates] at filtered
        cases filtered
        rfl
    next empty =>
      cases filtered
      rw [eq_nil_of_length_eq_zero (Nat.eq_zero_of_not_pos empty)]
      rfl

end

/-- In multi-turn mode the rollouts of all results are exactly their generations with a valid
conversation, each with what belongs to it, exactly if in every result the answers come
first. -/
theorem pairsAll_iff_answersFirst (worker : ResultFilter contents) (algo : GRPO contents)
    (isEnd : Bool) (text : worker.nonText = false) (multiTurn : worker.multiTurn = true)
    (reports : worker.shouldReport = true) (rolloutResults : List (RolloutResult contents))
    (payloadsList reported : List (RLPayload contents))
    (valid : List (RLPayload contents × RolloutResult contents))
    (groups : List (List (Rollout contents)))
    (filtered : worker.filterValidRolloutResultsAndReport rolloutResults payloadsList =
      .ok (valid, reported)) (computed : reported.mapM (computeRollouts algo isEnd) = .ok groups) :
    PairsAll worker algo (payloadsList.zip rolloutResults) groups ↔
      ∀ entry ∈ payloadsList.zip rolloutResults, AnswersFirst worker algo entry := by
  obtain ⟨options, entries, updates⟩ := reported_of_filtered reports filtered
  have kept := forall₂_reduceOption (forall₂_of_mapM_ok entries)
    fun entry option filteredTo => (validEntry_multiTurn text multiTurn filteredTo).1
  have chain := forall₂_comp (forall₂_comp kept (forall₂_of_mapM_ok updates))
    (forall₂_of_mapM_ok computed)
  have paired : List.Forall₂ (PairsGenerations worker algo)
      ((payloadsList.zip rolloutResults).filter answers) groups ↔
      ∀ entry ∈ (payloadsList.zip rolloutResults).filter answers,
        AnswersFirst worker algo entry := by
    refine forall₂_iff_of_related chain ?_
    rintro entry group ⟨payload, ⟨left, filteredTo, update⟩, groupComputed⟩
    rw [(validEntry_multiTurn text multiTurn filteredTo).2 left rfl] at update
    exact pairsGenerations_iff_answersFirst multiTurn update groupComputed
  constructor
  · intro pairs entry isEntry
    cases answered : answers entry with
    | false => exact (answersFirst_of_dropped answered).1
    | true => exact paired.mp pairs.paired entry (mem_filter.mpr ⟨isEntry, answered⟩)
  · intro first
    exact
      { dropped := fun entry _ dropped => (answersFirst_of_dropped dropped).2
        paired := paired.mpr fun entry isKept => first entry (mem_filter.mp isKept).1 }

end Rollouts

section Example

abbrev textContents : Contents where
  Prompt := String
  Content := String
  Completion := String
  Value := ℚ
  Info := ℚ
  emptyText := ""
  noCompletion := ""
  ofValue := id

abbrev multiTurnWorker : ResultFilter textContents where
  multiTurn := true
  emptyCompletion := ""
  eosToken := "</s>"
  queryReferenceAnswer := fun _ => .ok none

abbrev yesIsRight : GRPO textContents where
  computeReward := fun completions _ _ =>
    .ok ⟨completions.map fun completion => if completion = "yes" then 1 else 0,
      completions.map fun _ => 0, completions.map fun _ => ∅⟩
  unbiased := true
  eps := 0
  sqrt := id

abbrev askedPayload : RLPayload textContents :=
  { promptIdx := 0
    referenceAnswer := some "yes" }

abbrev endingWith (first second : String) : RolloutResult textContents :=
  { completions := some [first, second]
    completedConversations := some
      [[⟨.user, "Is it?"⟩, ⟨.assistant, first⟩], [⟨.user, "Is it?"⟩, ⟨.assistant, second⟩]] }

/-- Both generations answer. -/
theorem pairsAll_bothAnswer :
    ∃ valid reported groups,
      multiTurnWorker.filterValidRolloutResultsAndReport [endingWith "no" "yes"]
        [askedPayload] = .ok (valid, reported) ∧
      reported.mapM (computeRollouts yesIsRight false) = .ok groups ∧
      PairsAll multiTurnWorker yesIsRight [(askedPayload, endingWith "no" "yes")] groups := by
  refine ⟨_, _, _, rfl, rfl, (pairsAll_iff_answersFirst multiTurnWorker yesIsRight false rfl rfl
    rfl [endingWith "no" "yes"] [askedPayload] _ _ _ rfl rfl).mpr ?_⟩
  intro entry isEntry
  obtain rfl := mem_singleton.mp isEntry
  refine .inr (.inl fun conversation member => ?_)
  rcases mem_cons.mp (mem_of_mem_take member) with rfl | later
  · decide
  · rw [mem_singleton.mp later]
    decide

/-- Only the second generation answers: its conversation goes with the empty completion of the
first one. -/
theorem not_pairsAll_secondAnswers :
    ∃ valid reported groups,
      multiTurnWorker.filterValidRolloutResultsAndReport [endingWith "" "yes"]
        [askedPayload] = .ok (valid, reported) ∧
      reported.mapM (computeRollouts yesIsRight false) = .ok groups ∧
      ¬ PairsAll multiTurnWorker yesIsRight [(askedPayload, endingWith "" "yes")] groups := by
  refine ⟨_, _, _, rfl, rfl, fun pairs => ?_⟩
  cases pairs.paired with
  | cons group _ =>
    cases group with
    | cons rollout _ =>
      have completion : "" = "yes" := rollout.completion
      exact absurd completion (by decide)

end Example

end CosmosRl.Rollout
