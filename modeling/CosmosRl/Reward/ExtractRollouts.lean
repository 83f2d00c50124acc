import CosmosRl.Foundation.Collecting
import CosmosRl.Reward.Schema

/-!
`extract_rollouts`: the rollouts of reported payloads.

The rollouts of a payload are the rows of ten columns, as many as the shortest column
has.  Some columns are compared with the completions before, and missing ones are filled
with one entry for every reward.
-/

namespace CosmosRl.Reward

open CosmosRl.Foundation List
open CosmosRl.Dispatcher (PyError)

variable {contents : Contents}

section Model

variable [Zero contents.Value]

/-- The checks of training payloads.  The length of `None` is a type error. -/
def checkLengths (payload : RLPayload contents) : Except PyError Unit :=
  match payload.completions, payload.rewards, payload.advantages with
  | some completions, some rewards, some advantages =>
    if completions.length = rewards.length ∧ rewards.length = advantages.length then
      if (payload.completedConversations.any fun conversations =>
          completions.length ≠ conversations.length) then
        .error (.assertionError
          "Length of completions and completed_conversations must be the same")
      else if (payload.nIgnorePrefixTokens.any fun counts =>
          completions.length ≠ counts.length) then
        .error (.assertionError
          "Length of completions and n_ignore_prefix_tokens must be the same")
      else .ok ()
    else .error (.assertionError
      "Length of completions, rewards and advantages must be the same")
  | some completions, some rewards, none =>
    if completions.length = rewards.length then .error .typeError
    else .error (.assertionError
      "Length of completions, rewards and advantages must be the same")
  | _, _, _ => .error .typeError

structure Columns (contents : Contents) where
  completions : List contents.Completion
  completedConversations : List (Option contents.Conversation)
  rewards : List contents.Value
  advantages : List contents.Value
  nIgnorePrefixTokens : List Nat
  filterRewards : List contents.Value
  completionTokenIds : List (List (List Nat))
  completionLogprobs : List (List (List contents.Value))
  reportMetrics : List (ReportMetrics contents.Info)
  teacherResultUuids : List String

/-- `populate_for_none_fields`, and the columns after it. -/
def populateForNoneFields (payload : RLPayload contents) : Except PyError (Columns contents) :=
  match payload.rewards, payload.advantages with
  | some rewards, some advantages =>
    let lenOfRewards := rewards.length
    .ok
      { completions :=
          payload.completions.getD (List.replicate lenOfRewards contents.noCompletion)
        completedConversations := match payload.completedConversations with
          | some conversations => conversations.map some
          | none => List.replicate lenOfRewards none
        rewards := rewards
        advantages := advantages
        nIgnorePrefixTokens :=
          payload.nIgnorePrefixTokens.getD (List.replicate lenOfRewards 0)
        filterRewards := payload.filterRewards.getD (List.replicate lenOfRewards 0)
        completionTokenIds :=
          payload.completionTokenIds.getD (List.replicate lenOfRewards [])
        completionLogprobs :=
          payload.completionLogprobs.getD (List.replicate lenOfRewards [])
        reportMetrics := payload.reportMetrics.getD (List.replicate lenOfRewards ∅)
        teacherResultUuids :=
          payload.teacherResultUuids.getD (List.replicate lenOfRewards "") }
  | _, _ => .error .typeError

def zipColumns (payload : RLPayload contents) (isEnd : Bool) (columns : Columns contents) :
    List (Rollout contents) :=
  (columns.completions.zip <| columns.completedConversations.zip <| columns.rewards.zip <|
    columns.advantages.zip <| columns.nIgnorePrefixTokens.zip <| columns.filterRewards.zip <|
    columns.completionTokenIds.zip <| columns.completionLogprobs.zip <|
    columns.reportMetrics.zip columns.teacherResultUuids).map
      fun (completion, completedConversation, reward, advantage, nIgnorePrefixTokens,
          filterReward, completionTokenIds, completionLogprobs, reportMetrics,
          teacherResultUuid) =>
        { prompt := payload.prompt
          promptIdx := payload.promptIdx
          conversation := payload.conversation
          completion := completion
          completedConversation := completedConversation
          isEnd := isEnd
          reward := reward
          filterReward := filterReward
          advantage := advantage
          nIgnorePrefixTokens := nIgnorePrefixTokens
          completionTokenIds := some completionTokenIds
          completionLogprobs := some completionLogprobs
          weightVersion := payload.weightVersion
          reportMetrics := some reportMetrics
          teacherResultUuid := teacherResultUuid
          promptLogprobs := payload.promptLogprobs
          promptTokenIds := payload.promptTokenIds
          extraInfo := none }

/-- The value of `extra_info` for one of `count` rollouts. -/
def extraInfoOf (count idx : Nat) : ExtraInfo contents.Info → ExtraInfo contents.Info
  | .sequence values =>
    if values.length = count then
      match values[idx]? with
      | some value => .object value
      | none => .sequence values
    else .sequence values
  | .object value => .object value

/-- Every rollout gets its own part of `extra_info`. -/
def distributeExtraInfo (payload : RLPayload contents) (rollouts : List (Rollout contents)) :
    List (Rollout contents) :=
  rollouts.zipIdx.map fun (rollout, idx) =>
    { rollout with
      extraInfo := some (match payload.extraInfo with
        | some info => info.mapValues fun _ => extraInfoOf rollouts.length idx
        | none => ∅) }

def checkPayload (isValidation : Bool) (payload : RLPayload contents) : Except PyError Unit :=
  if isValidation then .ok () else checkLengths payload

def extractPayload (isEnd isValidation : Bool) (payload : RLPayload contents) :
    Except PyError (List (Rollout contents)) := do
  checkPayload isValidation payload
  let columns ← populateForNoneFields payload
  let rollouts := distributeExtraInfo payload (zipColumns payload isEnd columns)
  if rollouts.all fun rollout => 0 ≤ rollout.promptIdx then .ok rollouts
  else .error (.assertionError "All rollouts should have a valid prompt index")

/-- `extract_rollouts`. -/
def extractRollouts (payloads : List (RLPayload contents)) (isEnd isValidation : Bool) :
    Except PyError (List (List (Rollout contents))) :=
  payloads.mapM (extractPayload isEnd isValidation)

end Model

section Specification

def completionCount (payload : RLPayload contents) : Nat :=
  match payload.completions with
  | some completions => completions.length
  | none => (payload.rewards.getD []).length

def Carries {Entry : Type} (column : Option (List Entry)) (index : Nat) (entry : Entry) :
    Prop :=
  ∀ entries ∈ column, entries[index]? = some entry

structure CarriesEntries (payload : RLPayload contents) (index : Nat)
    (rollout : Rollout contents) : Prop where
  completion : Carries payload.completions index rollout.completion
  completedConversation : Carries (payload.completedConversations.map (List.map some)) index
    rollout.completedConversation
  reward : Carries payload.rewards index rollout.reward
  advantage : Carries payload.advantages index rollout.advantage
  nIgnorePrefixTokens : Carries payload.nIgnorePrefixTokens index rollout.nIgnorePrefixTokens
  filterReward : Carries payload.filterRewards index rollout.filterReward
  completionTokenIds : Carries (payload.completionTokenIds.map (List.map some)) index
    rollout.completionTokenIds
  completionLogprobs : Carries (payload.completionLogprobs.map (List.map some)) index
    rollout.completionLogprobs
  reportMetrics : Carries (payload.reportMetrics.map (List.map some)) index
    rollout.reportMetrics
  teacherResultUuid : Carries payload.teacherResultUuids index rollout.teacherResultUuid

structure RolloutsOf (payload : RLPayload contents) (rollouts : List (Rollout contents)) :
    Prop where
  count : rollouts.length = completionCount payload
  entries : ∀ index rollout, rollouts[index]? = some rollout →
    CarriesEntries payload index rollout

def ExtractsAll [Zero contents.Value] (payloads : List (RLPayload contents))
    (isEnd isValidation : Bool) : Prop :=
  (∃ exn, extractRollouts payloads isEnd isValidation = .error exn) ∨
    ∃ rolloutsList, extractRollouts payloads isEnd isValidation = .ok rolloutsList ∧
      List.Forall₂ RolloutsOf payloads rolloutsList

def uncheckedLengths (payload : RLPayload contents) : List Nat :=
  (payload.filterRewards.map List.length).toList ++
    (payload.completionTokenIds.map List.length).toList ++
    (payload.completionLogprobs.map List.length).toList ++
    (payload.reportMetrics.map List.length).toList ++
    (payload.teacherResultUuids.map List.length).toList

def checkedLengths (payload : RLPayload contents) : List Nat :=
  [(payload.rewards.getD []).length, (payload.advantages.getD []).length] ++
    (payload.completions.map List.length).toList ++
    (payload.completedConversations.map List.length).toList ++
    (payload.nIgnorePrefixTokens.map List.length).toList

def WellSized (payload : RLPayload contents) : Prop :=
  ∀ length ∈ checkedLengths payload ++ uncheckedLengths payload,
    completionCount payload ≤ length

/-- The payloads that extraction raises for: a missing column of numbers, in training also
a missing or wrongly sized one among the compared columns, or a negative prompt index of a
payload all of whose columns have an entry. -/
inductive Rejected (isValidation : Bool) (payload : RLPayload contents) : Prop where
  | rewards (missing : payload.rewards = none)
  | advantages (missing : payload.advantages = none)
  | completions (training : isValidation = false) (missing : payload.completions = none)
  | lengths (training : isValidation = false)
      (wrong : ∃ length ∈ checkedLengths payload, length ≠ completionCount payload)
  | promptIdx (negative : payload.promptIdx < 0)
      (some : ∀ length ∈ checkedLengths payload ++ uncheckedLengths payload, 0 < length)

end Specification

section Zipping

variable {payload : RLPayload contents} {isEnd : Bool} {columns : Columns contents}
  {rollout : Rollout contents}

def Columns.lengths (columns : Columns contents) : List Nat :=
  [columns.completions.length, columns.completedConversations.length, columns.rewards.length,
    columns.advantages.length, columns.nIgnorePrefixTokens.length, columns.filterRewards.length,
    columns.completionTokenIds.length, columns.completionLogprobs.length,
    columns.reportMetrics.length, columns.teacherResultUuids.length]

theorem le_length_zipColumns_iff (payload : RLPayload contents) (isEnd : Bool)
    (columns : Columns contents) (count : Nat) :
    count ≤ (zipColumns payload isEnd columns).length ↔
      ∀ length ∈ columns.lengths, count ≤ length := by
  simp only [zipColumns, length_map, length_zip, le_min_iff, Columns.lengths,
    forall_mem_cons, not_mem_nil, false_implies, implies_true, and_true]

theorem getElem?_zipColumns {index : Nat}
    (found : (zipColumns payload isEnd columns)[index]? = some rollout) :
    columns.completions[index]? = some rollout.completion ∧
      columns.completedConversations[index]? = some rollout.completedConversation ∧
      columns.rewards[index]? = some rollout.reward ∧
      columns.advantages[index]? = some rollout.advantage ∧
      columns.nIgnorePrefixTokens[index]? = some rollout.nIgnorePrefixTokens ∧
      columns.filterRewards[index]? = some rollout.filterReward ∧
      (columns.completionTokenIds[index]?).map some = some rollout.completionTokenIds ∧
      (columns.completionLogprobs[index]?).map some = some rollout.completionLogprobs ∧
      (columns.reportMetrics[index]?).map some = some rollout.reportMetrics ∧
      columns.teacherResultUuids[index]? = some rollout.teacherResultUuid ∧
      rollout.promptIdx = payload.promptIdx := by
  rw [zipColumns, getElem?_map, Option.map_eq_some_iff] at found
  obtain ⟨row, found, rfl⟩ := found
  simp only [getElem?_zip_eq_some] at found
  obtain ⟨completion, conversation, reward, advantage, ignored, filterReward, tokenIds,
    logprobs, metrics, uuid⟩ := found
  refine ⟨completion, conversation, reward, advantage, ignored, filterReward, ?_, ?_, ?_, uuid, rfl⟩
  · rw [tokenIds, Option.map_some]
  · rw [logprobs, Option.map_some]
  · rw [metrics, Option.map_some]

theorem length_distributeExtraInfo (payload : RLPayload contents)
    (rollouts : List (Rollout contents)) :
    (distributeExtraInfo payload rollouts).length = rollouts.length := by
  rw [distributeExtraInfo, length_map, length_zipIdx]

theorem getElem?_distributeExtraInfo {rollouts : List (Rollout contents)} {index : Nat}
    (found : (distributeExtraInfo payload rollouts)[index]? = some rollout) :
    ∃ original, rollouts[index]? = some original ∧
      rollout = { original with extraInfo := rollout.extraInfo } := by
  rw [distributeExtraInfo, getElem?_map, getElem?_zipIdx, Option.map_map,
    Option.map_eq_some_iff] at found
  obtain ⟨original, originalAt, rfl⟩ := found
  exact ⟨original, originalAt, rfl⟩

end Zipping

section Columns

variable [Zero contents.Value] {payload : RLPayload contents} {columns : Columns contents}

theorem le_length_getD_iff {Entry : Type} {count lenOfRewards : Nat}
    (rewardsFit : count ≤ lenOfRewards) (column : Option (List Entry)) (filler : Entry) :
    count ≤ (column.getD (List.replicate lenOfRewards filler)).length ↔
      ∀ length ∈ (column.map List.length).toList, count ≤ length := by
  cases column with
  | none => simp [rewardsFit]
  | some entries => simp

theorem le_columns_lengths_iff (populated : populateForNoneFields payload = .ok columns)
    (count : Nat) :
    (∀ length ∈ columns.lengths, count ≤ length) ↔
      ∀ length ∈ checkedLengths payload ++ uncheckedLengths payload, count ≤ length := by
  rw [populateForNoneFields] at populated
  split at populated
  next rewards advantages rewardsIs advantagesIs =>
    cases populated
    by_cases rewardsFit : count ≤ rewards.length
    · have conversations : count ≤ (match payload.completedConversations with
          | some conversations => conversations.map some
          | none => List.replicate rewards.length none).length ↔
          ∀ length ∈ (payload.completedConversations.map List.length).toList,
            count ≤ length := by
        cases payload.completedConversations <;> simp [rewardsFit]
      simp only [Columns.lengths, checkedLengths, uncheckedLengths, forall_mem_append,
        forall_mem_cons, not_mem_nil, false_implies, implies_true, and_true,
        conversations, le_length_getD_iff rewardsFit, rewardsIs, advantagesIs,
        Option.getD_some, rewardsFit, true_and]
      tauto
    · refine iff_of_false (fun fits => rewardsFit (fits _ ?_)) fun fits => rewardsFit (fits _ ?_)
      · simp [Columns.lengths]
      · simp [checkedLengths, rewardsIs]
  next => cases populated

theorem carriesEntries_of_row {isEnd : Bool} {index : Nat} {rollout : Rollout contents}
    (populated : populateForNoneFields payload = .ok columns)
    (found : (zipColumns payload isEnd columns)[index]? = some rollout) :
    CarriesEntries payload index rollout := by
  obtain ⟨completion, conversation, reward, advantage, ignored, filterReward, tokenIds,
    logprobs, metrics, uuid, -⟩ := getElem?_zipColumns found
  have filled {Entry : Type} {column : Option (List Entry)} {default : List Entry}
      {entry : Entry} (carried : (column.getD default)[index]? = some entry) :
      Carries column index entry := by
    intro entries isGiven
    rwa [Option.mem_def.mp isGiven] at carried
  have wrapped {Entry : Type} {column : Option (List Entry)} {default : List Entry}
      {entry : Option Entry}
      (carried : ((column.getD default)[index]?).map some = some entry) :
      Carries (column.map (List.map some)) index entry := by
    intro entries isGiven
    obtain ⟨given, isColumn, rfl⟩ := Option.map_eq_some_iff.mp (Option.mem_def.mp isGiven)
    rw [isColumn, Option.getD_some] at carried
    rw [getElem?_map, carried]
  rw [populateForNoneFields] at populated
  split at populated
  next rewards advantages rewardsIs advantagesIs =>
    cases populated
    refine ⟨filled completion, ?_, ?_, ?_, filled ignored, filled filterReward,
      wrapped tokenIds, wrapped logprobs, wrapped metrics, filled uuid⟩
    · intro entries isGiven
      obtain ⟨given, isColumn, rfl⟩ := Option.map_eq_some_iff.mp (Option.mem_def.mp isGiven)
      rwa [isColumn] at conversation
    · rw [rewardsIs]
      exact fun entries isGiven => (Option.mem_some_iff.mp isGiven) ▸ reward
    · rw [advantagesIs]
      exact fun entries isGiven => (Option.mem_some_iff.mp isGiven) ▸ advantage
  next => cases populated

end Columns

section Extraction

variable [Zero contents.Value] {payload : RLPayload contents} {isEnd isValidation : Bool}

omit [Zero contents.Value] in
/-- The checks pass for exactly the payloads with all compared columns of one length. -/
theorem checkLengths_ok_iff :
    checkLengths payload = .ok () ↔
      payload.rewards ≠ none ∧ payload.advantages ≠ none ∧ payload.completions ≠ none ∧
        ∀ length ∈ checkedLengths payload, length = completionCount payload := by
  have differs {Entry : Type} (column : Option (List Entry)) (count : Nat) :
      (column.any fun entries => decide (count ≠ entries.length)) = false ↔
        ∀ length ∈ (column.map List.length).toList, length = count := by
    cases column with
    | none => simp
    | some entries =>
      simp only [Option.any_some, ne_eq, decide_not, Bool.not_eq_false', decide_eq_true_eq,
        Option.map_some, Option.toList_some, forall_mem_singleton]
      exact eq_comm
  rw [checkLengths, checkedLengths, completionCount]
  cases payload.completions with
  | none => simp
  | some completions =>
    cases payload.rewards with
    | none => simp
    | some rewards =>
      cases payload.advantages with
      | none =>
        dsimp only
        split <;> simp
      | some advantages =>
        simp only [forall_mem_append, forall_mem_cons, not_mem_nil,
          false_implies, implies_true, and_true, Option.getD_some, Option.map_some,
          Option.toList_some, ← differs]
        split
        next same =>
          split
          next => simp_all
          next conversations =>
            split
            next => simp_all
            next counts => simp_all
        next different =>
          refine iff_of_false (by simp) ?_
          rintro ⟨-, -, -, compared⟩
          have ⟨rewardsSame, advantagesSame⟩ := compared.1.1
          exact different ⟨rewardsSame.symm, rewardsSame.trans advantagesSame.symm⟩

theorem exists_populateForNoneFields_iff :
    (∃ columns, populateForNoneFields payload = .ok columns) ↔
      payload.rewards ≠ none ∧ payload.advantages ≠ none := by
  rw [populateForNoneFields]
  cases payload.rewards with
  | none => simp
  | some rewards =>
    cases payload.advantages with
    | none => simp
    | some advantages => simp

omit [Zero contents.Value] in
theorem all_promptIdx_iff (isEnd : Bool) (columns : Columns contents) :
    ((distributeExtraInfo payload (zipColumns payload isEnd columns)).all fun rollout =>
        decide (0 ≤ rollout.promptIdx)) = true ↔
      (payload.promptIdx < 0 → ¬ 1 ≤ (zipColumns payload isEnd columns).length) := by
  have same : ∀ rollout ∈ distributeExtraInfo payload (zipColumns payload isEnd columns),
      rollout.promptIdx = payload.promptIdx := by
    intro rollout isRow
    obtain ⟨index, found⟩ := mem_iff_getElem?.mp isRow
    obtain ⟨original, originalAt, changed⟩ := getElem?_distributeExtraInfo found
    obtain ⟨-, -, -, -, -, -, -, -, -, -, promptIdx⟩ := getElem?_zipColumns originalAt
    rw [changed]
    exact promptIdx
  rw [all_eq_true]
  constructor
  · intro valid negative some
    rw [← length_distributeExtraInfo payload] at some
    obtain ⟨rollout, isRow⟩ := exists_mem_of_length_pos some
    have nonneg := of_decide_eq_true (valid rollout isRow)
    rw [same rollout isRow] at nonneg
    exact absurd negative (not_lt.mpr nonneg)
  · intro valid rollout isRow
    refine decide_eq_true (not_lt.mp fun negative => ?_)
    rw [same rollout isRow] at negative
    refine valid negative ?_
    rw [← length_distributeExtraInfo payload]
    exact length_pos_of_mem isRow

variable {rollouts : List (Rollout contents)}

theorem extractPayload_ok_iff :
    extractPayload isEnd isValidation payload = .ok rollouts ↔
      (isValidation = false → checkLengths payload = .ok ()) ∧
        ∃ columns, populateForNoneFields payload = .ok columns ∧
          (payload.promptIdx < 0 → ¬ 1 ≤ (zipColumns payload isEnd columns).length) ∧
          distributeExtraInfo payload (zipColumns payload isEnd columns) = rollouts := by
  have passes : checkPayload isValidation payload = .ok () ↔
      (isValidation = false → checkLengths payload = .ok ()) := by
    cases isValidation with
    | false => simp [checkPayload]
    | true => simp [checkPayload]
  rw [← passes, extractPayload]
  cases checkPayload isValidation payload with
  | error exn => simp [bind, Except.bind]
  | ok =>
    cases populateForNoneFields payload with
    | error exn => simp [bind, Except.bind]
    | ok columns =>
      simp only [bind, Except.bind, Except.ok.injEq, true_and, exists_eq_left',
        ← all_promptIdx_iff isEnd columns]
      split
      next valid => simp only [valid, true_and, Except.ok.injEq]
      next invalid => simp [invalid]

theorem extractPayload_error_iff :
    (∃ exn, extractPayload isEnd isValidation payload = .error exn) ↔
      Rejected isValidation payload := by
  have fails : (∃ exn, extractPayload isEnd isValidation payload = .error exn) ↔
      ¬ ∃ rollouts, extractPayload isEnd isValidation payload = .ok rollouts := by
    cases extractPayload isEnd isValidation payload with
    | error exn => simp
    | ok rollouts => simp
  rw [fails, not_iff_comm]
  simp only [extractPayload_ok_iff]
  constructor
  · intro notRejected
    have rewards : payload.rewards ≠ none := fun missing => notRejected (.rewards missing)
    have advantages : payload.advantages ≠ none := fun missing => notRejected (.advantages missing)
    obtain ⟨columns, populated⟩ := exists_populateForNoneFields_iff.mpr ⟨rewards, advantages⟩
    refine ⟨_, fun training => checkLengths_ok_iff.mpr ⟨rewards, advantages, ?_, ?_⟩, columns,
      populated, fun negative some => notRejected (.promptIdx negative ?_), rfl⟩
    · exact fun missing => notRejected (.completions training missing)
    · intro length isChecked
      by_contra wrong
      exact notRejected (.lengths training ⟨length, isChecked, wrong⟩)
    · rw [le_length_zipColumns_iff, le_columns_lengths_iff populated] at some
      exact some
  · rintro ⟨rollouts, passes, columns, populated, valid, -⟩ rejected
    have present := exists_populateForNoneFields_iff.mp ⟨columns, populated⟩
    cases rejected with
    | rewards missing => exact present.1 missing
    | advantages missing => exact present.2 missing
    | completions training missing =>
      exact (checkLengths_ok_iff.mp (passes training)).2.2.1 missing
    | lengths training wrong =>
      obtain ⟨length, isChecked, wrong⟩ := wrong
      exact wrong ((checkLengths_ok_iff.mp (passes training)).2.2.2 length isChecked)
    | promptIdx negative some =>
      refine valid negative ?_
      rw [le_length_zipColumns_iff, le_columns_lengths_iff populated]
      exact some

theorem length_zipColumns_le {columns : Columns contents}
    (populated : populateForNoneFields payload = .ok columns) :
    (zipColumns payload isEnd columns).length ≤ completionCount payload := by
  have completions : columns.completions.length = completionCount payload := by
    rw [populateForNoneFields] at populated
    split at populated
    next rewards advantages rewardsIs advantagesIs =>
      cases populated
      rw [completionCount]
      cases payload.completions with
      | none =>
        rw [rewardsIs]
        exact length_replicate
      | some completions => rfl
    next => cases populated
  rw [← completions]
  exact (le_length_zipColumns_iff payload isEnd columns _).mp le_rfl _ (mem_cons_self ..)

/-- Extraction gives the rollouts of a payload exactly if no column is shorter than its
completions. -/
theorem rolloutsOf_iff (extracted : extractPayload isEnd isValidation payload = .ok rollouts) :
    RolloutsOf payload rollouts ↔ WellSized payload := by
  obtain ⟨-, columns, populated, -, rfl⟩ := extractPayload_ok_iff.mp extracted
  rw [WellSized, ← le_columns_lengths_iff populated, ← le_length_zipColumns_iff payload isEnd]
  constructor
  · intro rolloutsOf
    rw [← length_distributeExtraInfo payload, rolloutsOf.count]
  · intro enough
    refine ⟨?_, ?_⟩
    · rw [length_distributeExtraInfo]
      exact le_antisymm (length_zipColumns_le populated) enough
    · intro index rollout found
      obtain ⟨original, originalAt, changed⟩ := getElem?_distributeExtraInfo found
      obtain ⟨completion, conversation, reward, advantage, ignored, filterReward, tokenIds,
        logprobs, metrics, uuid⟩ := carriesEntries_of_row populated originalAt
      rw [changed]
      exact ⟨completion, conversation, reward, advantage, ignored, filterReward, tokenIds,
        logprobs, metrics, uuid⟩

/-- Extraction raises or gives exactly the rollouts of all completions, if and only if it
rejects a payload or no payload has a column shorter than its completions. -/
theorem extractsAll_iff (payloads : List (RLPayload contents)) (isEnd isValidation : Bool) :
    ExtractsAll payloads isEnd isValidation ↔
      (∃ payload ∈ payloads, Rejected isValidation payload) ∨
        ∀ payload ∈ payloads, WellSized payload := by
  by_cases rejected : ∃ payload ∈ payloads, Rejected isValidation payload
  · refine iff_of_true (.inl ?_) (.inl rejected)
    obtain ⟨payload, isPayload, rejected⟩ := rejected
    obtain ⟨exn, raised⟩ := extractPayload_error_iff.mpr rejected
    cases extracted : extractRollouts payloads isEnd isValidation with
    | error exn => exact ⟨exn, rfl⟩
    | ok rolloutsList =>
      obtain ⟨rollouts, found⟩ :=
        (exists_mapM_ok_iff _ _).mp ⟨rolloutsList, extracted⟩ payload isPayload
      rw [raised] at found
      cases found
  · have succeeds : ∀ payload ∈ payloads,
        ∃ rollouts, extractPayload isEnd isValidation payload = .ok rollouts := by
      intro payload isPayload
      cases extracted : extractPayload isEnd isValidation payload with
      | ok rollouts => exact ⟨rollouts, rfl⟩
      | error exn =>
        have raised := extractPayload_error_iff.mp ⟨exn, extracted⟩
        exact absurd ⟨payload, isPayload, raised⟩ rejected
    obtain ⟨rolloutsList, collected⟩ := (exists_mapM_ok_iff _ _).mpr succeeds
    have extracted := forall₂_of_mapM_ok collected
    have all : ExtractsAll payloads isEnd isValidation ↔
        List.Forall₂ RolloutsOf payloads rolloutsList := by
      rw [ExtractsAll, extractRollouts, collected]
      simp
    rw [all, or_iff_right rejected]
    constructor
    · intro rolloutsOf
      have both : List.Forall₂ (fun payload rollouts => WellSized payload ∧
          extractPayload isEnd isValidation payload = .ok rollouts) payloads rolloutsList :=
        extracted.mp (fun payload rollouts found ofPayload =>
          ⟨(rolloutsOf_iff found).mp ofPayload, found⟩) rolloutsOf
      exact ((forall₂_and_left _ _).mp both).1
    · intro wellSized
      exact ((forall₂_and_left _ _).mpr ⟨wellSized, extracted⟩).imp
        fun payload rollouts ⟨fits, found⟩ => (rolloutsOf_iff found).mpr fits

end Extraction

abbrev numberContents : Contents where
  Prompt := Nat
  Content := Nat
  Completion := Nat
  Value := Int
  Info := Int
  emptyText := 0
  noCompletion := 0
  ofValue := id

abbrev shortFilterRewards : RLPayload numberContents :=
  { promptIdx := 0
    completions := some [1, 2]
    rewards := some [1, 0]
    advantages := some [1, -1]
    filterRewards := some [1] }

/-- The second completion of `shortFilterRewards` is dropped without an error. -/
theorem not_extractsAll_shortFilterRewards : ¬ ExtractsAll [shortFilterRewards] false false := by
  rintro (⟨exn, raised⟩ | ⟨rolloutsList, extracted, all⟩)
  · cases raised
  · cases extracted
    cases all with
    | cons rolloutsOf rest => cases rolloutsOf.count

end CosmosRl.Reward
