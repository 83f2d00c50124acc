import CosmosRl.Data.TrainedTokens
import CosmosRl.Reward.SharedPrefixes
import Mathlib.Algebra.Order.Ring.Rat
import Mathlib.Algebra.Field.Rat

/-!
The prefixes that the rollouts of a group ignore, and what is left of the samples.

A rollout ignores a maximal shared prefix whose rollouts have different rewards, unless the
text of the prefix is its completion.  The text is that of the prefix without an end of
sequence, so that a completion whose text has the end of sequence is not recognized, and is
ignored as a whole.
-/

namespace CosmosRl.Reward

open CosmosRl.Data
open CosmosRl.Dispatcher (PyError)
open CosmosRl.Foundation List

variable {contents : Contents}

section Marking

variable [DecidableEq contents.Value] {calculator : LocalRewardCalculator contents}
  {group : List (Rollout contents)} {rewards : List contents.Value} {idx : Nat}
  {rollout : Rollout contents}

def RewardsDiffer (rewards : List contents.Value) (indices : List Nat) : Prop :=
  1 < (indices.filterMap fun index => rewards[index]?).dedup.length

instance (rewards : List contents.Value) (indices : List Nat) :
    Decidable (RewardsDiffer rewards indices) :=
  inferInstanceAs (Decidable (_ < _))

def Marks (calculator : LocalRewardCalculator contents) (rewards : List contents.Value)
    (shared : List Nat × List Nat) (idx : Nat) (completion : contents.Completion) : Prop :=
  idx ∈ shared.2 ∧ RewardsDiffer rewards shared.2 ∧
    calculator.decodesTo (calculator.shownPrefix shared.1) completion = false

instance (rewards : List contents.Value) (shared : List Nat × List Nat) (idx : Nat)
    (completion : contents.Completion) :
    Decidable (Marks calculator rewards shared idx completion) :=
  inferInstanceAs (Decidable (_ ∧ _))

omit [DecidableEq contents.Value] in
theorem getElem?_foldl_modify {Entry : Type} {change : Entry → Entry}
    (again : ∀ entry, change (change entry) = change entry) (indices : List Nat)
    (entries : List Entry) (idx : Nat) :
    (indices.foldl (fun entries index => entries.modify index change) entries)[idx]? =
      entries[idx]?.map fun entry => if idx ∈ indices then change entry else entry := by
  induction indices generalizing entries with
  | nil => simp
  | cons index indices ih =>
    rw [foldl_cons, ih, getElem?_modify]
    cases found : entries[idx]? with
    | none => rfl
    | some entry =>
      by_cases here : index = idx
      · subst here
        by_cases later : index ∈ indices <;> simp [later, again]
      · have other : ¬ idx = index := fun same => here same.symm
        simp [here, other]

/-- After a group a rollout ignores its prefix if the group makes it do so, and what it
ignored before otherwise. -/
theorem getElem?_ignorePrefix (shared : List Nat × List Nat)
    (sameRewards : group.map Rollout.reward = rewards) (found : group[idx]? = some rollout) :
    (calculator.ignorePrefix group shared)[idx]? =
      some (if Marks calculator rewards shared idx rollout.completion then
        { rollout with nIgnorePrefixTokens := shared.1.length } else rollout) := by
  have rewardsAt : (shared.2.filterMap fun index => group[index]?.map Rollout.reward) =
      shared.2.filterMap fun index => rewards[index]? := by
    simp only [← sameRewards, getElem?_map]
  rw [LocalRewardCalculator.ignorePrefix]
  simp only [rewardsAt]
  by_cases differ : RewardsDiffer rewards shared.2
  · have taken : 1 < (shared.2.filterMap fun index => rewards[index]?).dedup.length := differ
    rw [if_pos taken, getElem?_foldl_modify, found, Option.map_some]
    · congr 1
      by_cases member : idx ∈ shared.2
      · cases shown : calculator.decodesTo (calculator.shownPrefix shared.1)
          rollout.completion with
        | true => simp [Marks, member, shown]
        | false => simp [Marks, member, differ, shown]
      · simp [Marks, member]
    · intro entry
      by_cases shown : calculator.decodesTo (calculator.shownPrefix shared.1)
          entry.completion = true <;> simp [shown]
  · have skipped : ¬ 1 < (shared.2.filterMap fun index => rewards[index]?).dedup.length := differ
    rw [if_neg skipped, found]
    simp [Marks, differ]

/-- After all groups a rollout ignores the prefix of a group that makes it do so, if there
is one. -/
theorem getElem?_foldl_ignorePrefix (groups : List (List Nat × List Nat))
    (sameRewards : group.map Rollout.reward = rewards) (found : group[idx]? = some rollout) :
    ∃ marked, (groups.foldl calculator.ignorePrefix group)[idx]? = some marked ∧
      ((∃ shared ∈ groups, Marks calculator rewards shared idx rollout.completion ∧
          marked.nIgnorePrefixTokens = shared.1.length) ∨
        ((∀ shared ∈ groups, ¬ Marks calculator rewards shared idx rollout.completion) ∧
          marked.nIgnorePrefixTokens = rollout.nIgnorePrefixTokens)) := by
  induction groups generalizing group rollout with
  | nil => exact ⟨rollout, found, Or.inr ⟨by simp, rfl⟩⟩
  | cons shared groups ih =>
    have rewardsAfter : (calculator.ignorePrefix group shared).map Rollout.reward =
        rewards := by
      rw [LocalRewardCalculator.map_ignorePrefix fun _ _ => rfl, sameRewards]
    have after := @getElem?_ignorePrefix _ _ calculator _ _ _ _ shared sameRewards found
    obtain ⟨marked, found, outcome⟩ := ih rewardsAfter after
    refine ⟨marked, found, ?_⟩
    have completionAfter : (if Marks calculator rewards shared idx rollout.completion then
        { rollout with nIgnorePrefixTokens := shared.1.length } else rollout).completion =
          rollout.completion := by
      split <;> rfl
    rw [completionAfter] at outcome
    rcases outcome with ⟨later, member, marks, count⟩ | ⟨unmarked, count⟩
    · exact Or.inl ⟨later, mem_cons_of_mem shared member, marks, count⟩
    · by_cases here : Marks calculator rewards shared idx rollout.completion
      · rw [if_pos here] at count
        exact Or.inl ⟨shared, mem_cons_self, here, count⟩
      · rw [if_neg here] at count
        exact Or.inr ⟨forall_mem_cons.mpr ⟨here, unmarked⟩, count⟩

end Marking

section RewardedGroup

variable [Field contents.Value] [LinearOrder contents.Value]

/-- A payload with its rollouts, their tokens and the payload of training, and how the
policy packs its completions.  Decoding the tokens of a completion gives it back. -/
structure RewardedGroup (contents : Contents) [Field contents.Value]
    [LinearOrder contents.Value] where
  calculator : LocalRewardCalculator contents
  isText : calculator.nonText = false
  threshold : Int
  positive : 1 ≤ threshold
  threshold_eq : calculator.minFilterPrefixTokens = some threshold
  payload : RLPayload contents
  group : List (Rollout contents)
  tokens : List (List Nat)
  rewarded : RLPayload contents
  computed : computeRollouts calculator.rlAlgo false payload = .ok group
  tokenized : calculator.rolloutTokens group = .ok tokens
  rebuilt : calculator.trainingPayload payload group = .ok rewarded
  roundTrip : ∀ (idx : Nat) rollout ids, group[idx]? = some rollout →
    tokens[idx]? = some ids → calculator.decodesTo ids rollout.completion = true
  packer : Tokenizer
  multiTurn : Bool
  samples : Nat → PromptSample
  completions : List Completion
  completions_eq : completions.map (completionIds packer) = tokens

namespace RewardedGroup

variable (rewarding : RewardedGroup contents)

def rewards : List contents.Value := rewarding.group.map Rollout.reward

def counts : List Nat := rewarding.rewarded.nIgnorePrefixTokens.getD []

def FilterRewardsDiffer : Prop :=
  1 < (rewarding.group.map Rollout.filterReward).dedup.length

/-- A rollout and the others that start with a maximal shared prefix have different
rewards, and the text of the prefix is not its completion. -/
structure Ignores (idx : Nat) (rollout : Rollout contents) (sharedPrefix : List Nat) :
    Prop where
  maximal : MaximalShared rewarding.tokens rewarding.threshold.toNat sharedPrefix
  starts : idx ∈ starters rewarding.tokens sharedPrefix
  differ : RewardsDiffer rewarding.rewards (starters rewarding.tokens sharedPrefix)
  unlike : rewarding.calculator.decodesTo
    (rewarding.calculator.shownPrefix sharedPrefix) rollout.completion = false

/-- All tokens of a rollout are a maximal shared prefix of rollouts with different rewards.
They end with the end of sequence, and the text without it is not the completion. -/
structure EndsIgnored (idx : Nat) : Prop where
  whole : ∃ rollout ids, rewarding.group[idx]? = some rollout ∧
    rewarding.tokens[idx]? = some ids ∧
    MaximalShared rewarding.tokens rewarding.threshold.toNat ids ∧
    RewardsDiffer rewarding.rewards (starters rewarding.tokens ids) ∧
    ids.getLast? = rewarding.calculator.eosTokenId ∧
    rewarding.calculator.decodesTo ids.dropLast rollout.completion = false

structure IgnoresSome (idx : Nat) : Prop where
  valid : rewarding.FilterRewardsDiffer
  ignored : ∃ rollout sharedPrefix, rewarding.group[idx]? = some rollout ∧
    rewarding.Ignores idx rollout sharedPrefix

/-- The groups are the maximal shared prefixes with the rollouts that start with them, and
have no rollout in common; every rollout that ignores tokens has one left; and every mask of
the policy is as long as the tokens that it masks. -/
structure KeepsTrainable : Prop where
  groups : ∀ found, found ∈ findMaximalPrefixGroups rewarding.tokens
      (some rewarding.threshold) ↔
    MaximalShared rewarding.tokens rewarding.threshold.toNat found.1 ∧
      found.2 = starters rewarding.tokens found.1
  disjoint : (findMaximalPrefixGroups rewarding.tokens
    (some rewarding.threshold)).Pairwise fun first second => List.Disjoint first.2 second.2
  keeps : ∀ (idx : Nat) ids count, rewarding.tokens[idx]? = some ids →
    rewarding.counts[idx]? = some count → 0 < count → count < ids.length
  masks : ∀ (idx : Nat) completion count packed,
    rewarding.completions[idx]? = some completion →
    rewarding.counts[idx]? = some count →
    getPolicyInput rewarding.packer rewarding.multiTurn (rewarding.samples idx) completion
      count = .ok packed →
    packed.logprobMasks.length = packed.inputIds.length

variable {rewarding} {idx count : Nat} {ids : List Nat} {rollout : Rollout contents}

theorem length_tokens : rewarding.tokens.length = rewarding.group.length := by
  have tokenized := rewarding.tokenized
  rw [LocalRewardCalculator.rolloutTokens, if_neg (by simp [rewarding.isText])] at tokenized
  exact length_of_mapM_ok tokenized

theorem nIgnorePrefixTokens_eq_zero (found : rewarding.group[idx]? = some rollout) :
    rollout.nIgnorePrefixTokens = 0 := by
  obtain ⟨completions, scores, metrics, -, -, -, -, -, -, rows⟩ :=
    computeRollouts_ok rewarding.computed
  rw [rows, zipRollouts, getElem?_map, Option.map_eq_some_iff] at found
  obtain ⟨row, -, rfl⟩ := found
  rfl

/-- The counts are those of the marked rollouts; nothing is marked if the filter rewards
agree. -/
theorem counts_eq :
    ∃ marked, rewarding.counts = marked.map Rollout.nIgnorePrefixTokens ∧
      ((rewarding.FilterRewardsDiffer ∧
          marked = (findMaximalPrefixGroups rewarding.tokens (some rewarding.threshold)).foldl
            rewarding.calculator.ignorePrefix rewarding.group) ∨
        (¬ rewarding.FilterRewardsDiffer ∧ marked = rewarding.group)) := by
  have rebuilt := rewarding.rebuilt
  rw [LocalRewardCalculator.trainingPayload, rewarding.tokenized] at rebuilt
  simp only [bind, Except.bind, rewarding.threshold_eq, decide_eq_true_eq] at rebuilt
  generalize markedIs : (if 1 < (rewarding.group.map Rollout.filterReward).dedup.length then
    (findMaximalPrefixGroups rewarding.tokens (some rewarding.threshold)).foldl
      rewarding.calculator.ignorePrefix rewarding.group else rewarding.group) = marked at rebuilt
  refine ⟨marked, ?_, ?_⟩
  · cases marked with
    | nil => cases rebuilt
    | cons first rest =>
      rw [counts, ← Except.ok.inj rebuilt]
      rfl
  · rw [← markedIs]
    by_cases differ : rewarding.FilterRewardsDiffer
    · exact Or.inl ⟨differ, if_pos differ⟩
    · exact Or.inr ⟨differ, if_neg differ⟩

theorem marks_iff (idx : Nat) (rollout : Rollout contents) (sharedPrefix : List Nat) :
    (∃ found ∈ findMaximalPrefixGroups rewarding.tokens (some rewarding.threshold),
        Marks rewarding.calculator rewarding.rewards found idx rollout.completion ∧
          found.1 = sharedPrefix) ↔
      rewarding.Ignores idx rollout sharedPrefix := by
  constructor
  · rintro ⟨found, isGroup, ⟨starts, differ, unlike⟩, rfl⟩
    obtain ⟨maximal, numbers⟩ := (mem_findMaximalPrefixGroups_iff rewarding.positive _).mp isGroup
    rw [numbers] at starts differ
    exact ⟨maximal, starts, differ, unlike⟩
  · rintro ⟨maximal, starts, differ, unlike⟩
    exact ⟨(sharedPrefix, starters rewarding.tokens sharedPrefix),
      (mem_findMaximalPrefixGroups_iff rewarding.positive _).mpr ⟨maximal, rfl⟩,
      ⟨starts, differ, unlike⟩, rfl⟩

theorem count_cases (found : rewarding.group[idx]? = some rollout) :
    ∃ count, rewarding.counts[idx]? = some count ∧
      ((rewarding.FilterRewardsDiffer ∧
          ∃ sharedPrefix, rewarding.Ignores idx rollout sharedPrefix ∧
            count = sharedPrefix.length) ∨
        ((rewarding.FilterRewardsDiffer → ∀ sharedPrefix,
            ¬ rewarding.Ignores idx rollout sharedPrefix) ∧ count = 0)) := by
  obtain ⟨marked, countsAre, ⟨differ, rfl⟩ | ⟨agree, rfl⟩⟩ := @counts_eq _ _ _ rewarding
  · obtain ⟨after, foundAfter, outcome⟩ := @getElem?_foldl_ignorePrefix _ _
      rewarding.calculator _ _ _ _
      (findMaximalPrefixGroups rewarding.tokens (some rewarding.threshold))
      (rfl : rewarding.group.map Rollout.reward = rewarding.rewards) found
    refine ⟨after.nIgnorePrefixTokens, ?_, ?_⟩
    · rw [countsAre, getElem?_map, foundAfter, Option.map_some]
    · rcases outcome with ⟨shared, isGroup, marks, count⟩ | ⟨unmarked, count⟩
      · exact Or.inl ⟨differ, shared.1, (marks_iff idx rollout _).mp ⟨shared, isGroup, marks, rfl⟩,
          count⟩
      · refine Or.inr ⟨?_, count.trans (nIgnorePrefixTokens_eq_zero found)⟩
        intro _ sharedPrefix ignores
        obtain ⟨shared, isGroup, marks, _⟩ := (marks_iff idx rollout _).mpr ignores
        exact unmarked shared isGroup marks
  · refine ⟨rollout.nIgnorePrefixTokens, ?_, Or.inr ⟨fun differ => absurd differ agree,
      nIgnorePrefixTokens_eq_zero found⟩⟩
    rw [countsAre, getElem?_map, found, Option.map_some]

theorem Ignores.length_pos {sharedPrefix : List Nat}
    (ignores : rewarding.Ignores idx rollout sharedPrefix) : 0 < sharedPrefix.length := by
  have enough := ignores.maximal.enough
  have positive := rewarding.positive
  omega

theorem Ignores.unique {first second : List Nat}
    (ignoresFirst : rewarding.Ignores idx rollout first)
    (ignoresSecond : rewarding.Ignores idx rollout second) : first = second :=
  ignoresFirst.maximal.eq_of_common ignoresSecond.maximal ignoresFirst.starts
    ignoresSecond.starts

theorem endsIgnored_of_ignores (found : rewarding.group[idx]? = some rollout)
    (tokensAt : rewarding.tokens[idx]? = some ids)
    (ignores : rewarding.Ignores idx rollout ids) : rewarding.EndsIgnored idx := by
  have unlike := ignores.unlike
  rw [LocalRewardCalculator.shownPrefix] at unlike
  split at unlike
  case isTrue ends =>
    exact ⟨rollout, ids, found, tokensAt, ignores.maximal, ignores.differ, ends, unlike⟩
  case isFalse =>
    rw [rewarding.roundTrip idx rollout ids found tokensAt] at unlike
    cases unlike

theorem EndsIgnored.ignores (ends : rewarding.EndsIgnored idx) :
    ∃ rollout ids, rewarding.group[idx]? = some rollout ∧
      rewarding.tokens[idx]? = some ids ∧ rewarding.Ignores idx rollout ids := by
  obtain ⟨rollout, ids, found, tokensAt, maximal, differ, isEnd, unlike⟩ := ends.whole
  refine ⟨rollout, ids, found, tokensAt, maximal, ?_, differ, ?_⟩
  · exact mem_starters_iff.mpr ⟨ids, tokensAt, prefix_rfl⟩
  · rwa [LocalRewardCalculator.shownPrefix, if_pos isEnd]

theorem keeps_iff :
    (∀ (idx : Nat) ids count, rewarding.tokens[idx]? = some ids →
        rewarding.counts[idx]? = some count → 0 < count → count < ids.length) ↔
      (rewarding.FilterRewardsDiffer → ∀ idx, ¬ rewarding.EndsIgnored idx) := by
  constructor
  · intro keeps differ idx ends
    obtain ⟨rollout, ids, found, tokensAt, ignores⟩ := ends.ignores
    obtain ⟨count, counted, ⟨_, other, ignoresOther, isLength⟩ | ⟨nothing, _⟩⟩ := count_cases found
    · rw [ignoresOther.unique ignores] at isLength
      have some_ignored := ignores.length_pos
      have fewer := keeps idx ids count tokensAt counted (by omega)
      omega
    · exact nothing differ ids ignores
  · intro unended idx ids count tokensAt counted some_ignored
    have inside := (List.getElem?_eq_some_iff.mp tokensAt).1
    rw [length_tokens] at inside
    have found := getElem?_eq_getElem inside
    obtain ⟨same, countedSame, ⟨differ, sharedPrefix, ignores, isLength⟩ | ⟨_, isZero⟩⟩ :=
      count_cases found
    · rw [countedSame, Option.some.injEq] at counted
      obtain ⟨seq, seqIs, starts⟩ := mem_starters_iff.mp ignores.starts
      rw [tokensAt, Option.some.injEq] at seqIs
      subst seqIs counted isLength
      -- a prefix of the same length is all of the tokens
      refine Nat.lt_of_le_of_ne starts.length_le fun whole => ?_
      obtain rfl := starts.eq_of_length whole
      exact unended differ idx (endsIgnored_of_ignores found tokensAt ignores)
    · rw [countedSame, Option.some.injEq] at counted
      omega

theorem tokens_of_completion {completion : Completion}
    (found : rewarding.completions[idx]? = some completion) :
    rewarding.tokens[idx]? = some (completionIds rewarding.packer completion) := by
  rw [← rewarding.completions_eq, List.getElem?_map, found, Option.map_some]

theorem count_le_length (tokensAt : rewarding.tokens[idx]? = some ids)
    (counted : rewarding.counts[idx]? = some count) : count ≤ ids.length := by
  have inside := (List.getElem?_eq_some_iff.mp tokensAt).1
  rw [length_tokens] at inside
  obtain ⟨same, countedSame, ⟨_, sharedPrefix, ignores, isLength⟩ | ⟨_, isZero⟩⟩ :=
    count_cases (getElem?_eq_getElem inside)
  · obtain ⟨seq, seqIs, starts⟩ := mem_starters_iff.mp ignores.starts
    rw [tokensAt, Option.some.injEq] at seqIs
    rw [countedSame, Option.some.injEq] at counted
    subst seqIs counted isLength
    exact starts.length_le
  · rw [countedSame, Option.some.injEq] at counted
    omega

theorem count_pos_iff (found : rewarding.group[idx]? = some rollout)
    (counted : rewarding.counts[idx]? = some count) :
    0 < count ↔ rewarding.IgnoresSome idx := by
  obtain ⟨same, countedSame, outcome⟩ := count_cases found
  rw [countedSame, Option.some.injEq] at counted
  subst counted
  constructor
  · intro some_ignored
    rcases outcome with ⟨differ, sharedPrefix, ignores, _⟩ | ⟨_, isZero⟩
    · exact ⟨differ, rollout, sharedPrefix, found, ignores⟩
    · omega
  · rintro ⟨differ, other, sharedPrefix, foundOther, ignores⟩
    rw [found, Option.some.injEq] at foundOther
    subst foundOther
    rcases outcome with ⟨_, one, ignoresOne, isLength⟩ | ⟨nothing, _⟩
    · rw [isLength]
      exact ignoresOne.length_pos
    · exact absurd ignores (nothing differ sharedPrefix)

/-- The masks fit exactly if every sample has a prompt token or ignores a token. -/
theorem masks_iff :
    (∀ (idx : Nat) completion count packed,
        rewarding.completions[idx]? = some completion →
        rewarding.counts[idx]? = some count →
        getPolicyInput rewarding.packer rewarding.multiTurn (rewarding.samples idx) completion
          count = .ok packed →
        packed.logprobMasks.length = packed.inputIds.length) ↔
      (rewarding.multiTurn = true ∨ ∀ idx < rewarding.group.length,
        0 < (promptIds rewarding.packer (rewarding.samples idx)).length ∨
          rewarding.IgnoresSome idx) := by
  cases isMultiTurn : rewarding.multiTurn with
  | true =>
    refine iff_of_true ?_ (Or.inl rfl)
    intro idx completion count packed _ _ input
    exact length_logprobMasks_multiTurn input
  | false =>
    simp only [Bool.false_eq_true, false_or]
    constructor
    · intro masks idx inside
      have found := getElem?_eq_getElem inside
      have tokenized : idx < rewarding.completions.length := by
        have same := congrArg List.length rewarding.completions_eq
        rw [length_map, length_tokens] at same
        omega
      have completed := getElem?_eq_getElem tokenized
      obtain ⟨count, counted, _⟩ := count_cases found
      have fits := count_le_length (tokens_of_completion completed) counted
      have positive := (length_logprobMasks_singleTurn_iff rfl fits).mp
        (masks idx _ count _ completed counted rfl)
      rcases Nat.eq_zero_or_pos (promptIds rewarding.packer (rewarding.samples idx)).length
        with noPrompt | prompted
      · rw [noPrompt, Nat.zero_add] at positive
        exact Or.inr ((count_pos_iff found counted).mp positive)
      · exact Or.inl prompted
    · intro preceded idx completion count packed completed counted input
      have tokensAt := tokens_of_completion completed
      have inside := (List.getElem?_eq_some_iff.mp tokensAt).1
      rw [length_tokens] at inside
      have fits := count_le_length tokensAt counted
      rw [length_logprobMasks_singleTurn_iff input fits]
      rcases preceded idx inside with prompted | ignored
      · omega
      · have positive := (count_pos_iff (getElem?_eq_getElem inside) counted).mpr ignored
        omega

end RewardedGroup

/-- The samples of a group stay trainable exactly if no rollout that is ignored as a whole
ends with the end of sequence, and every sample has a token before its trained ones. -/
theorem keepsTrainable_iff (rewarding : RewardedGroup contents) :
    rewarding.KeepsTrainable ↔
      (rewarding.FilterRewardsDiffer → ∀ idx, ¬ rewarding.EndsIgnored idx) ∧
        (rewarding.multiTurn = true ∨ ∀ idx < rewarding.group.length,
          0 < (promptIds rewarding.packer (rewarding.samples idx)).length ∨
            rewarding.IgnoresSome idx) := by
  rw [← RewardedGroup.keeps_iff, ← RewardedGroup.masks_iff]
  constructor
  · intro keeps
    exact ⟨keeps.keeps, keeps.masks⟩
  · rintro ⟨keeps, masks⟩
    exact ⟨mem_findMaximalPrefixGroups_iff rewarding.positive,
      pairwise_disjoint_findMaximalPrefixGroups rewarding.positive, keeps, masks⟩

end RewardedGroup

section Examples

abbrev answerContents : Contents where
  Prompt := String
  Content := String
  Completion := String
  Value := ℚ
  Info := ℚ
  emptyText := ""
  noCompletion := ""
  ofValue := id

abbrev firstIsBetter : GRPO answerContents where
  computeReward completions _ _ :=
    .ok ⟨completions.zipIdx.map fun entry => if entry.2 = 0 then 1 else 0,
      completions.zipIdx.map fun entry => if entry.2 = 0 then 1 else 0,
      completions.map fun _ => ∅⟩
  unbiased := true
  eps := 0
  sqrt := id

abbrev characterCalculator : LocalRewardCalculator answerContents where
  rlAlgo := firstIsBetter
  valRlAlgo := none
  nonText := false
  rolloutAsTokenIds := false
  minFilterPrefixTokens := some 1
  tokenize text := .ok (text.toList.map Char.toNat)
  decodesTo ids text := ids == text.toList.map Char.toNat
  eosTokenId := some 46

abbrev answeredPayload (first second : String) : RLPayload answerContents :=
  { promptIdx := 0
    prompt := some "?"
    referenceAnswer := some "ok"
    completions := some [first, second] }

def rolloutsOf (payload : RLPayload answerContents) : List (Rollout answerContents) :=
  (computeRollouts firstIsBetter false payload).toOption.getD []

def trainedPayload (payload : RLPayload answerContents) : RLPayload answerContents :=
  (characterCalculator.trainingPayload payload (rolloutsOf payload)).toOption.getD payload

theorem roundTrip_of_completions {first second : String} (idx : Nat)
    (rollout : Rollout answerContents) (ids : List Nat)
    (found : (rolloutsOf (answeredPayload first second))[idx]? = some rollout)
    (tokensAt : [first.toList.map Char.toNat, second.toList.map Char.toNat][idx]? = some ids) :
    characterCalculator.decodesTo ids rollout.completion = true := by
  have completed := congrArg (Option.map Rollout.completion) found
  rcases idx with _ | _ | idx
  · have same : some first = some rollout.completion := completed
    obtain rfl := Option.some.inj same
    obtain rfl := Option.some.inj tokensAt
    exact beq_self_eq_true _
  · have same : some second = some rollout.completion := completed
    obtain rfl := Option.some.inj same
    obtain rfl := Option.some.inj tokensAt
    exact beq_self_eq_true _
  · cases tokensAt

/-- Two rollouts `ok.` with the end of sequence in their text. -/
def endedAnswers : RewardedGroup answerContents where
  calculator := characterCalculator
  isText := rfl
  threshold := 1
  positive := by decide
  threshold_eq := rfl
  payload := answeredPayload "ok." "ok."
  group := rolloutsOf (answeredPayload "ok." "ok.")
  tokens := [[111, 107, 46], [111, 107, 46]]
  rewarded := trainedPayload (answeredPayload "ok." "ok.")
  computed := rfl
  tokenized := rfl
  rebuilt := rfl
  roundTrip := roundTrip_of_completions
  packer := characterTokenizer
  multiTurn := false
  samples _ := .text "?"
  completions := [.text "ok.", .text "ok."]
  completions_eq := by decide

def unpromptedAnswers : RewardedGroup answerContents where
  calculator := characterCalculator
  isText := rfl
  threshold := 1
  positive := by decide
  threshold_eq := rfl
  payload := answeredPayload "ok" "no"
  group := rolloutsOf (answeredPayload "ok" "no")
  tokens := [[111, 107], [110, 111]]
  rewarded := trainedPayload (answeredPayload "ok" "no")
  computed := rfl
  tokenized := rfl
  rebuilt := rfl
  roundTrip := roundTrip_of_completions
  packer := characterTokenizer
  multiTurn := false
  samples _ := .text ""
  completions := [.text "ok", .text "no"]
  completions_eq := by decide

/-- Both rollouts `ok.` ignore all of their three tokens, and the mask of `ok` without a
prompt has three entries for its two tokens. -/
theorem not_keepsTrainable_endedAnswers :
    endedAnswers.counts = [3, 3] ∧ ¬ endedAnswers.KeepsTrainable ∧
      unpromptedAnswers.counts = [0, 0] ∧
      getPolicyInput characterTokenizer false (.text "") (.text "ok") 0 =
        .ok ⟨[111, 107], [true, true, false]⟩ ∧
      ¬ unpromptedAnswers.KeepsTrainable := by
  have ended : endedAnswers.counts = [3, 3] := rfl
  have unprompted : unpromptedAnswers.counts = [0, 0] := rfl
  have packed : getPolicyInput characterTokenizer false (.text "") (.text "ok") 0 =
      .ok ⟨[111, 107], [true, true, false]⟩ := by decide
  refine ⟨ended, ?_, unprompted, packed, ?_⟩
  · intro keeps
    have fewer := keeps.keeps 0 [111, 107, 46] 3 rfl (by rw [ended]; rfl) (by decide)
    exact absurd fewer (by decide)
  · intro keeps
    have same := keeps.masks 0 (.text "ok") 0 _ rfl (by rw [unprompted]; rfl) packed
    exact absurd same (by decide)

end Examples

end CosmosRl.Reward
