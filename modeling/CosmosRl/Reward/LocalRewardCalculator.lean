import CosmosRl.Dispatcher.PolicyStatusManager
import CosmosRl.Foundation.Collecting
import CosmosRl.Reward.RolloutGroup

/-!
`LocalRewardCalculator`: the rewards and advantages are computed in a worker.

Every payload is rebuilt from its rollouts.  In training the tokens of a prefix that several
completions share are ignored if their rewards differ.
-/

namespace CosmosRl.Reward

open CosmosRl.Foundation List
open CosmosRl.Dispatcher (PyError)

variable {contents : Contents}

inductive TrieNode where
  | node (idxs : List Nat) (children : List (Nat × TrieNode))

namespace TrieNode

def idxs : TrieNode → List Nat
  | node idxs _ => idxs

def children : TrieNode → List (Nat × TrieNode)
  | node _ children => children

def setdefault (token : Nat) (change : TrieNode → TrieNode) :
    List (Nat × TrieNode) → List (Nat × TrieNode)
  | [] => [(token, change (node [] []))]
  | child :: rest =>
    if child.1 = token then (token, change child.2) :: rest
    else child :: setdefault token change rest

def insert (idx : Nat) : List Nat → TrieNode → TrieNode
  | [], node idxs children => node (idxs ++ [idx]) children
  | token :: rest, node idxs children =>
    node (idxs ++ [idx]) (setdefault token (insert idx rest) children)

/-- `build_trie`. -/
def buildTrie (seqs : List (List Nat)) : TrieNode :=
  seqs.zipIdx.foldl (fun root entry => root.insert entry.2 entry.1) (node [] [])

mutual

def groups (minimum : Nat) (start : List Nat) : TrieNode → List (List Nat × List Nat)
  | node idxs children =>
    groupsOfChildren minimum start children ++
      if minimum ≤ start.length ∧ 1 < idxs.length ∧
          ¬ children.any (fun child => decide (1 < child.2.idxs.length)) then
        [(start, idxs)]
      else []

def groupsOfChildren (minimum : Nat) (start : List Nat) :
    List (Nat × TrieNode) → List (List Nat × List Nat)
  | [] => []
  | (token, child) :: rest =>
    groupsOfChildren minimum start rest ++ groups minimum (start ++ [token]) child

end

end TrieNode

/-- `find_maximal_prefix_groups`: the longest shared prefixes of at least `minimum` tokens,
with the indices of the sequences that share them. -/
def findMaximalPrefixGroups (seqs : List (List Nat)) (minimum : Option Int) :
    List (List Nat × List Nat) :=
  match minimum with
  | none => []
  | some minimum =>
    if minimum < 1 then [] else (TrieNode.buildTrie seqs).groups minimum.toNat []

/-- The calculator of a worker.  `decodesTo` compares the text of tokens with a completion. -/
structure LocalRewardCalculator (contents : Contents) where
  rlAlgo : GRPO contents
  valRlAlgo : Option (GRPO contents)
  nonText : Bool
  rolloutAsTokenIds : Bool
  minFilterPrefixTokens : Option Int
  tokenize : contents.Completion → Except PyError (List Nat)
  decodesTo : List Nat → contents.Completion → Bool
  eosTokenId : Option Nat

def checkPromptIdx (payloads : List (RLPayload contents)) : Except PyError Unit :=
  if payloads.all fun payload => 0 ≤ payload.promptIdx then .ok ()
  else .error (.assertionError "[Reward] All payloads should have a valid prompt index")

def rebuiltPayload (payload : RLPayload contents) (first : Rollout contents)
    (group : List (Rollout contents)) : RLPayload contents :=
  { prompt := first.prompt
    promptIdx := first.promptIdx
    conversation := first.conversation
    completions := some (group.map Rollout.completion)
    completedConversations := some (group.map fun rollout =>
      rollout.completedConversation.getD [])
    referenceAnswer := none
    nIgnorePrefixTokens := some (group.map Rollout.nIgnorePrefixTokens)
    rewards := some (group.map Rollout.reward)
    advantages := some (group.map Rollout.advantage)
    filterRewards := some (group.map Rollout.filterReward)
    valid := some true
    weightVersion := payload.weightVersion
    reportMetrics := some (group.map fun rollout => rollout.reportMetrics.getD ∅)
    cumulativeLogprob := payload.cumulativeLogprob
    teacherResultUuids := payload.teacherResultUuids
    promptLogprobs := payload.promptLogprobs
    promptTokenIds := payload.promptTokenIds }

def validationPayload (payload : RLPayload contents) (group : List (Rollout contents)) :
    Except PyError (RLPayload contents) :=
  match group with
  | [] => .error .indexError
  | first :: _ => .ok (rebuiltPayload payload first group)

namespace LocalRewardCalculator

variable (calculator : LocalRewardCalculator contents)

def tokensOf (rollout : Rollout contents) : Except PyError (List Nat) :=
  if calculator.rolloutAsTokenIds then
    match rollout.completionTokenIds with
    | none => .error .typeError
    | some tokenIds => tokenIds.mapM fun candidates =>
      match candidates with
      | [] => .error .indexError
      | token :: _ => .ok token
  else calculator.tokenize rollout.completion

def rolloutTokens (group : List (Rollout contents)) : Except PyError (List (List Nat)) :=
  if calculator.nonText then .ok [] else group.mapM calculator.tokensOf

def shownPrefix (sharedPrefix : List Nat) : List Nat :=
  if sharedPrefix.getLast? = calculator.eosTokenId then sharedPrefix.dropLast
  else sharedPrefix

def ignorePrefix [DecidableEq contents.Value] (group : List (Rollout contents))
    (shared : List Nat × List Nat) : List (Rollout contents) :=
  let rewards := shared.2.filterMap fun index => group[index]?.map Rollout.reward
  if 1 < rewards.dedup.length then
    shared.2.foldl (fun group index => group.modify index fun rollout =>
      if calculator.decodesTo (calculator.shownPrefix shared.1) rollout.completion then rollout
      else { rollout with nIgnorePrefixTokens := shared.1.length }) group
  else group

def trainingPayload [DecidableEq contents.Value] (payload : RLPayload contents)
    (group : List (Rollout contents)) : Except PyError (RLPayload contents) := do
  let tokens ← calculator.rolloutTokens group
  let valid := decide (1 < (group.map Rollout.filterReward).dedup.length)
  let marked :=
    if valid then
      (findMaximalPrefixGroups tokens calculator.minFilterPrefixTokens).foldl
        calculator.ignorePrefix group
    else group
  match marked with
  | [] => .error .indexError
  | first :: _ =>
    .ok { rebuiltPayload payload first marked with
      valid := some valid
      completionLogprobs :=
        some (marked.map fun rollout => rollout.completionLogprobs.getD [])
      completionTokenIds :=
        some (marked.map fun rollout => rollout.completionTokenIds.getD []) }

variable [Field contents.Value] [LinearOrder contents.Value]

def rebuildAll (algo : GRPO contents) (isEnd : Bool)
    (rebuild : RLPayload contents → List (Rollout contents) →
      Except PyError (RLPayload contents))
    (payloads : List (RLPayload contents)) : Except PyError (List (RLPayload contents)) := do
  checkPromptIdx payloads
  let rolloutsList ← payloads.mapM (computeRollouts algo isEnd)
  (payloads.zip rolloutsList).mapM fun (payload, group) => rebuild payload group

/-- `compute_rewards`.  The algorithm of validation is there if validation is enabled. -/
def computeRewards (task : RewardTask contents) : Except PyError (RewardTask contents) :=
  if task.isValidation then
    match calculator.valRlAlgo with
    | none => .error .attributeError
    | some valRlAlgo => do
      let payloadList ← rebuildAll valRlAlgo true validationPayload task.payloads
      .ok ⟨payloadList, true, task.step⟩
  else do
    let payloadList ←
      rebuildAll calculator.rlAlgo false calculator.trainingPayload task.payloads
    .ok ⟨payloadList, false, task.step⟩

end LocalRewardCalculator

section Specification

def Covers {Entry : Type} (completions : Option (List contents.Completion))
    (column : Option (List Entry)) : Prop :=
  ∀ entries ∈ column, (completions.getD []).length ≤ entries.length

structure RLPayload.Aligned (payload : RLPayload contents) : Prop where
  completedConversations : Covers payload.completions payload.completedConversations
  completionLogprobs : Covers payload.completions payload.completionLogprobs
  completionTokenIds : Covers payload.completions payload.completionTokenIds

/-- The test of `filter_outdated_rollouts` for a rollout with a weight version. -/
def isFreshVersion (config : Dispatcher.Config) (idx : Nat) (version : Int)
    (controller : Dispatcher.Controller) : Bool :=
  decide ((Dispatcher.estimatedStep config idx controller : Int) - version ≤
    config.allowedOutdatedSteps)

theorem isFreshVersion_eq (config : Dispatcher.Config) (idx : Nat)
    (rollout : Dispatcher.Rollout) (controller : Dispatcher.Controller) :
    isFreshVersion config idx rollout.weightVersion controller =
      Dispatcher.isFresh config idx rollout controller := by
  rw [isFreshVersion, Dispatcher.isFresh, decide_eq_decide]
  omega

/-- A payload with one reward and one advantage for every completion, and with the prompt,
the completions and the version of the given one, so that the controller finds it as stale. -/
structure KeepsIdentity (payload rewarded : RLPayload contents) : Prop where
  promptIdx : rewarded.promptIdx = payload.promptIdx
  completions : rewarded.completions = payload.completions
  weightVersion : rewarded.weightVersion = payload.weightVersion
  stale : ∀ config idx controller, isFreshVersion config idx rewarded.weightVersion controller =
    isFreshVersion config idx payload.weightVersion controller
  rewards : ∃ rewards, rewarded.rewards = some rewards ∧
    rewards.length = (payload.completions.getD []).length
  advantages : ∃ advantages, rewarded.advantages = some advantages ∧
    advantages.length = (payload.completions.getD []).length

end Specification

section Rebuilding

variable {payload rewarded : RLPayload contents} {group : List (Rollout contents)}

structure RebuiltFrom (payload : RLPayload contents) (group : List (Rollout contents))
    (rewarded : RLPayload contents) : Prop where
  promptIdx : ∃ rollout ∈ group, rewarded.promptIdx = rollout.promptIdx
  completions : rewarded.completions = some (group.map Rollout.completion)
  weightVersion : rewarded.weightVersion = payload.weightVersion
  rewards : rewarded.rewards = some (group.map Rollout.reward)
  advantages : rewarded.advantages = some (group.map Rollout.advantage)

theorem validationPayload_ok (rebuilt : validationPayload payload group = .ok rewarded) :
    RebuiltFrom payload group rewarded := by
  cases group with
  | nil => cases rebuilt
  | cons first rest =>
    cases rebuilt
    exact ⟨⟨first, mem_cons_self, rfl⟩, rfl, rfl, rfl, rfl⟩

theorem map_modify_of_eq {Entry Field : Type} {field : Entry → Field} {change : Entry → Entry}
    (same : ∀ entry, field (change entry) = field entry) (entries : List Entry) (index : Nat) :
    (entries.modify index change).map field = entries.map field := by
  induction entries generalizing index with
  | nil => simp
  | cons entry entries ih =>
    cases index with
    | zero => simp [same]
    | succ index => simp [ih]

namespace LocalRewardCalculator

variable {calculator : LocalRewardCalculator contents} [DecidableEq contents.Value]

theorem map_ignorePrefix {Field : Type} {field : Rollout contents → Field}
    (same : ∀ rollout count, field { rollout with nIgnorePrefixTokens := count } =
      field rollout) (shared : List Nat × List Nat) :
    (calculator.ignorePrefix group shared).map field = group.map field := by
  rw [ignorePrefix]
  split
  next different =>
    clear different
    generalize shared.2 = indices
    induction indices generalizing group with
    | nil => rfl
    | cons index indices ih =>
      rw [foldl_cons, ih]
      refine map_modify_of_eq (fun rollout => ?_) group index
      split
      · rfl
      · exact same rollout _
  next => rfl

theorem map_foldl_ignorePrefix {Field : Type} {field : Rollout contents → Field}
    (same : ∀ rollout count, field { rollout with nIgnorePrefixTokens := count } =
      field rollout) (groups : List (List Nat × List Nat)) :
    (groups.foldl calculator.ignorePrefix group).map field = group.map field := by
  induction groups generalizing group with
  | nil => rfl
  | cons shared groups ih =>
    rw [foldl_cons, ih, map_ignorePrefix same]

theorem trainingPayload_ok (rebuilt : calculator.trainingPayload payload group = .ok rewarded) :
    RebuiltFrom payload group rewarded := by
  rw [trainingPayload] at rebuilt
  cases tokenized : calculator.rolloutTokens group with
  | error exn =>
    rw [tokenized] at rebuilt
    cases rebuilt
  | ok tokens =>
    rw [tokenized] at rebuilt
    simp only [bind, Except.bind] at rebuilt
    generalize markedIs : (if decide (1 < (group.map Rollout.filterReward).dedup.length) = true
      then (findMaximalPrefixGroups tokens calculator.minFilterPrefixTokens).foldl
        calculator.ignorePrefix group else group) = marked at rebuilt
    have unchanged {Field : Type} {field : Rollout contents → Field}
        (same : ∀ rollout count, field { rollout with nIgnorePrefixTokens := count } =
          field rollout) : marked.map field = group.map field := by
      rw [← markedIs]
      split
      · exact map_foldl_ignorePrefix same _
      · rfl
    cases marked with
    | nil => cases rebuilt
    | cons first rest =>
      cases rebuilt
      refine ⟨?_, ?_, rfl, ?_, ?_⟩
      · have isFirst : first.promptIdx ∈ group.map Rollout.promptIdx := by
          rw [← unchanged fun _ _ => rfl]
          exact mem_cons_self
        obtain ⟨rollout, isRollout, same⟩ := mem_map.mp isFirst
        exact ⟨rollout, isRollout, same.symm⟩
      · exact congrArg some (unchanged fun _ _ => rfl)
      · exact congrArg some (unchanged fun _ _ => rfl)
      · exact congrArg some (unchanged fun _ _ => rfl)

end LocalRewardCalculator

end Rebuilding

section Identity

variable [Field contents.Value] [LinearOrder contents.Value] {algo : GRPO contents}
  {payload rewarded : RLPayload contents} {isEnd : Bool} {group : List (Rollout contents)}

omit [Field contents.Value] [LinearOrder contents.Value] in
theorem le_length_columnOr_iff {Entry : Type} (completions : List contents.Completion)
    (column : Option (List (List Entry))) :
    completions.length ≤ (columnOr completions column).length ↔
      Covers (some completions) column := by
  cases column with
  | none => simp [columnOr, Covers]
  | some entries => simp [columnOr, Covers]

theorem length_group_iff (computed : computeRollouts algo isEnd payload = .ok group) :
    group.length = (payload.completions.getD []).length ↔ payload.Aligned := by
  obtain ⟨completions, scores, metrics, completionsIs, -, rewards, filterRewards,
    metricsLength, -, rfl⟩ := computeRollouts_ok computed
  have atMost := ((le_length_zipRollouts_iff payload isEnd completions scores metrics
    (algo.computeAdvantage scores.rewards) _).mp le_rfl).1
  have aligned : payload.Aligned ↔ Covers (some completions) payload.completedConversations ∧
      Covers (some completions) payload.completionLogprobs ∧
      Covers (some completions) payload.completionTokenIds := by
    rw [← completionsIs]
    exact ⟨fun aligned => ⟨aligned.1, aligned.2, aligned.3⟩,
      fun covers => ⟨covers.1, covers.2.1, covers.2.2⟩⟩
  rw [completionsIs, Option.getD_some, aligned, ← le_length_columnOr_iff,
    ← le_length_columnOr_iff, ← le_length_columnOr_iff]
  have atLeast := le_length_zipRollouts_iff payload isEnd completions scores metrics
    (algo.computeAdvantage scores.rewards) completions.length
  rw [length_computeAdvantage, rewards, filterRewards, metricsLength] at atLeast
  simp only [le_refl, true_and] at atLeast
  rw [← atLeast]
  exact ⟨fun same => same.ge, fun enough => le_antisymm atMost enough⟩

/-- The payload rebuilt from a group keeps the identity exactly if no other column is
shorter than the completions. -/
theorem keepsIdentity_iff (computed : computeRollouts algo isEnd payload = .ok group)
    (rebuilt : RebuiltFrom payload group rewarded) :
    KeepsIdentity payload rewarded ↔ payload.Aligned := by
  rw [← length_group_iff computed]
  constructor
  · intro keeps
    obtain ⟨rewards, rewardsAre, length⟩ := keeps.rewards
    rw [rebuilt.rewards, Option.some.injEq] at rewardsAre
    rw [← length, ← rewardsAre, length_map]
  · intro length
    obtain ⟨completions, scores, metrics, completionsIs, -, -, -, -, -, rfl⟩ :=
      computeRollouts_ok computed
    refine ⟨?_, ?_, rebuilt.weightVersion, fun _ _ _ => by rw [rebuilt.weightVersion],
      ⟨_, rebuilt.rewards, ?_⟩, ⟨_, rebuilt.advantages, ?_⟩⟩
    · obtain ⟨rollout, isRollout, same⟩ := rebuilt.promptIdx
      obtain ⟨index, found⟩ := mem_iff_getElem?.mp isRollout
      obtain ⟨-, -, -, -, -, -, -, -, promptIdx⟩ := getElem?_zipRollouts found
      rw [same, promptIdx]
    · rw [rebuilt.completions, completionsIs]
      rw [completionsIs, Option.getD_some] at length
      refine congrArg some (ext_getElem? fun index => ?_)
      rw [getElem?_map]
      cases found : (zipRollouts payload isEnd completions scores metrics
          (algo.computeAdvantage scores.rewards))[index]? with
      | some rollout => exact (getElem?_zipRollouts found).1.symm
      | none =>
        rw [getElem?_eq_none_iff] at found
        rw [length] at found
        exact (getElem?_eq_none_iff.mpr found).symm
    · rw [length_map, length]
    · rw [length_map, length]

theorem forall₂_rebuildAll {rebuild : RLPayload contents → List (Rollout contents) →
      Except PyError (RLPayload contents)} {payloads payloadList : List (RLPayload contents)}
    (rebuilds : ∀ payload group rewarded, rebuild payload group = .ok rewarded →
      RebuiltFrom payload group rewarded) (aligned : ∀ payload ∈ payloads, payload.Aligned)
    (computed : LocalRewardCalculator.rebuildAll algo isEnd rebuild payloads = .ok payloadList) :
    List.Forall₂ KeepsIdentity payloads payloadList := by
  rw [LocalRewardCalculator.rebuildAll] at computed
  cases checked : checkPromptIdx payloads with
  | error exn =>
    rw [checked] at computed
    cases computed
  | ok =>
    cases grouped : payloads.mapM (computeRollouts algo isEnd) with
    | error exn =>
      rw [checked, grouped] at computed
      cases computed
    | ok rolloutsList =>
      rw [checked, grouped] at computed
      have rebuilt := forall₂_of_mapM_ok computed
      have groups := forall₂_of_mapM_ok grouped
      clear computed grouped checked
      induction groups generalizing payloadList with
      | nil =>
        cases rebuilt
        exact .nil
      | @cons payload group payloads rolloutsList isGroup groups ih =>
        rw [zip_cons_cons] at rebuilt
        cases rebuilt with
        | cons head rest =>
          rw [forall_mem_cons] at aligned
          exact .cons ((keepsIdentity_iff isGroup (rebuilds _ _ _ head)).mpr aligned.1)
            (ih aligned.2 rest)

theorem LocalRewardCalculator.computeRewards_keeps
    {calculator : LocalRewardCalculator contents} {task done : RewardTask contents}
    (aligned : ∀ payload ∈ task.payloads, payload.Aligned)
    (computed : calculator.computeRewards task = .ok done) :
    List.Forall₂ KeepsIdentity task.payloads done.payloads := by
  rw [computeRewards] at computed
  split at computed
  next =>
    cases valRlAlgo : calculator.valRlAlgo with
    | none =>
      rw [valRlAlgo] at computed
      cases computed
    | some algo =>
      cases rebuilt : rebuildAll algo true validationPayload task.payloads with
      | error exn => simp [valRlAlgo, rebuilt, bind, Except.bind] at computed
      | ok given =>
        simp only [valRlAlgo, rebuilt, bind, Except.bind, Except.ok.injEq] at computed
        rw [← computed]
        exact forall₂_rebuildAll (fun _ _ _ => validationPayload_ok) aligned rebuilt
  next =>
    cases rebuilt : rebuildAll calculator.rlAlgo false calculator.trainingPayload
        task.payloads with
    | error exn => simp [rebuilt, bind, Except.bind] at computed
    | ok given =>
      simp only [rebuilt, bind, Except.bind, Except.ok.injEq] at computed
      rw [← computed]
      exact forall₂_rebuildAll (fun _ _ _ => trainingPayload_ok) aligned rebuilt

end Identity

end CosmosRl.Reward
