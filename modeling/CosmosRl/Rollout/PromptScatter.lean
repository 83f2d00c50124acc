import CosmosRl.Rollout.RolloutControl

/-!
Prompts are scattered to the data-parallel ranks in turn.

All ranks together get every prompt once, whatever the number of prompts.  With fewer
prompts than ranks the last ranks get an empty list, which is queued like the others; the
next look at its first prompt fails.
-/

namespace CosmosRl.Rollout

open CosmosRl.Foundation List
open CosmosRl.Dispatcher (PyError RLPayload)

variable {config : RolloutConfig}

def requests (config : RolloutConfig) (replica : RolloutReplica) : Bool :=
  (replica.fetching config).length = config.dpSize && (replica.ranks 0).promptQueue.isEmpty

def RolloutEvent.answer : RolloutEvent → Option (List RLPayload × Bool)
  | .synced _ | .report _ => none
  | .iterate answer _ | .feed answer => some answer

def ScattersPrompts (config : RolloutConfig) (replica : RolloutReplica)
    (answer : List RLPayload × Bool) : Prop :=
  ∃ batches : Nat → List (List RLPayload),
    (∀ rank, rank < config.dpSize →
      ((requestNewPrompts config answer replica).1.ranks rank).promptQueue =
        (replica.ranks rank).promptQueue ++ batches rank ∧
      (batches rank = [] ∨ ∃ batch, batch ≠ [] ∧ batches rank = [batch])) ∧
    ((List.range config.dpSize).flatMap fun rank => (batches rank).flatten).Perm
      ((promptsAndIsEnd answer replica).1.getD [])

/-- Every request of a step scatters its prompts, and the step does not look at the first
prompt of an empty batch. -/
def ScattersSafely (config : RolloutConfig) (replica : RolloutReplica) (event : RolloutEvent) :
    Prop :=
  (∀ answer ∈ event.answer, (replica.fetching config).length = config.dpSize →
    ScattersPrompts config replica answer) ∧
    (event.apply config replica).failed ≠ some .indexError

def EnoughPrompts (config : RolloutConfig) (replica : RolloutReplica) (event : RolloutEvent) :
    Prop :=
  ∀ answer ∈ event.answer, requests config replica = true →
    answer.1 = [] ∨ config.dpSize ≤ answer.1.length

section Scatter

variable {ranksToScatter : Nat}

theorem rankPrompts_eq_nil_iff (positive : 0 < ranksToScatter)
    (prompts : List RLPayload) (rank : Nat) :
    rankPrompts ranksToScatter prompts rank = [] ↔ prompts.length ≤ rank := by
  rw [← stridedRange_eq_nil_iff positive, rankPrompts, filterMap_eq_nil_iff]
  constructor
  · intro nothing
    rw [eq_nil_iff_forall_not_mem]
    intro index member
    have below := ((mem_stridedRange positive).mp member).1
    exact absurd (getElem?_eq_none_iff.mp (nothing index member)) (not_le.mpr below)
  · intro nothing index member
    rw [nothing] at member
    cases member

theorem filterMap_getElem?_range (prompts : List RLPayload) :
    ((List.range prompts.length).filterMap fun index => prompts[index]?) = prompts := by
  induction prompts with
  | nil => rfl
  | cons first rest ih =>
    have head : (first :: rest)[0]? = some first := rfl
    rw [length_cons, range_succ_eq_map, filterMap_cons_some head, filterMap_map]
    exact congrArg (first :: ·) ih

theorem flatMap_rankPrompts_perm (positive : 0 < ranksToScatter) (prompts : List RLPayload) :
    ((List.range ranksToScatter).flatMap (rankPrompts ranksToScatter prompts)).Perm
      prompts := by
  have together : (List.range ranksToScatter).flatMap (rankPrompts ranksToScatter prompts) =
      ((List.range ranksToScatter).flatMap fun rank =>
        stridedRange rank prompts.length ranksToScatter).filterMap
          fun index => prompts[index]? := filterMap_flatMap.symm
  rw [together]
  have dealt := (@flatMap_stridedRange_perm prompts.length _ positive).filterMap
    fun index => prompts[index]?
  rwa [filterMap_getElem?_range] at dealt

end Scatter

section Requests

variable {replica : RolloutReplica} {answer : List RLPayload × Bool}

def RolloutRank.Filled (rank : RolloutRank) : Prop := [] ∉ rank.promptQueue

def RolloutReplica.Filled (config : RolloutConfig) (replica : RolloutReplica) : Prop :=
  ∀ rank, rank < config.dpSize → (replica.ranks rank).Filled

theorem promptQueue_put (prompts : Option (List RLPayload)) (rank : RolloutRank) :
    (rank.put prompts).promptQueue = rank.promptQueue ++ prompts.toList := by
  cases prompts with
  | none => exact (append_nil _).symm
  | some prompts => rfl

theorem scatteredTo_ne_nil {prompts : List RLPayload} (some : prompts ≠ [])
    (enough : config.dpSize ≤ prompts.length) {rank : Nat} (isRank : rank < config.dpSize) :
    scatteredTo config (.some prompts) rank ≠ .some [] := by
  rw [scatteredTo]
  split
  · rw [Option.map_some]
    intro nothing
    have late := (rankPrompts_eq_nil_iff config.dpSize_pos prompts rank).mp
      (Option.some.inj nothing)
    exact absurd (isRank.trans_le enough) (not_lt.mpr late)
  · exact fun nothing => some (Option.some.inj nothing)

theorem scatteredTo_none (rank : Nat) : scatteredTo config none rank = none := by
  rw [scatteredTo]
  split
  · rfl
  · rfl

theorem flatMap_scatteredTo_perm (prompts : Option (List RLPayload)) :
    ((List.range config.dpSize).flatMap fun rank =>
        (scatteredTo config prompts rank).toList.flatten).Perm (prompts.getD []) := by
  cases prompts with
  | none =>
    simp only [scatteredTo_none, Option.toList_none, flatten_nil, Option.getD_none]
    rw [flatMap_eq_nil_iff.mpr fun _ _ => rfl]
  | some prompts =>
    by_cases several : 1 < config.dpSize
    · have dealt (rank : Nat) : scatteredTo config (some prompts) rank =
          some (rankPrompts config.dpSize prompts rank) := if_pos several
      simp only [dealt, Option.toList_some, flatten_singleton, Option.getD_some]
      exact flatMap_rankPrompts_perm config.dpSize_pos prompts
    · have single : config.dpSize = 1 := le_antisymm (not_lt.mp several) config.dpSize_pos
      have whole : scatteredTo config (some prompts) 0 = some prompts := if_neg several
      rw [single, range_one, flatMap_singleton, whole, Option.toList_some,
        flatten_singleton, Option.getD_some]

theorem promptQueue_requestNewPrompts (config : RolloutConfig) (rank : Nat) :
    ((requestNewPrompts config answer replica).1.ranks rank).promptQueue =
      (replica.ranks rank).promptQueue ++
        (scatteredTo config (promptsAndIsEnd answer replica).1 rank).toList :=
  promptQueue_put _ _

/-- A request scatters exactly if it has no prompts or enough of them. -/
theorem scattersPrompts_iff :
    ScattersPrompts config replica answer ↔
      ((replica.ranks 0).promptQueue.isEmpty = true →
        answer.1 = [] ∨ config.dpSize ≤ answer.1.length) := by
  constructor
  · rintro ⟨batches, entries, -⟩ asked
    by_contra fewer
    rw [not_or, not_le] at fewer
    obtain ⟨some, fewer⟩ := fewer
    have positive : 0 < answer.1.length := length_pos_of_ne_nil some
    have several : 1 < config.dpSize := Nat.lt_of_le_of_lt positive fewer
    -- The first rank after the last prompt gets an empty batch.
    have prompts : (promptsAndIsEnd answer replica).1 = .some answer.1 := by
      rw [promptsAndIsEnd, if_pos asked, if_pos positive]
    have empty : scatteredTo config (.some answer.1) answer.1.length = .some [] := by
      rw [scatteredTo, if_pos several, Option.map_some,
        (rankPrompts_eq_nil_iff config.dpSize_pos _ _).mpr le_rfl]
    obtain ⟨added, oneBatch⟩ := entries answer.1.length fewer
    rw [promptQueue_requestNewPrompts, prompts, empty, append_cancel_left_eq] at added
    rcases oneBatch with none | ⟨batch, filledBatch, one⟩
    · rw [none] at added
      cases added
    · rw [one] at added
      exact filledBatch (List.cons.inj added).1.symm
  · intro enough
    have batch (rank : Nat) (isRank : rank < config.dpSize) :
        scatteredTo config (promptsAndIsEnd answer replica).1 rank ≠ some [] := by
      rw [promptsAndIsEnd]
      split
      next asked =>
        by_cases positive : 0 < answer.1.length
        · have some := ne_nil_of_length_pos positive
          dsimp only
          rw [if_pos positive]
          exact scatteredTo_ne_nil some ((enough asked).resolve_left some) isRank
        · dsimp only
          rw [if_neg positive, scatteredTo_none]
          exact nofun
      next =>
        rw [scatteredTo_none]
        exact nofun
    refine ⟨fun rank => (scatteredTo config (promptsAndIsEnd answer replica).1 rank).toList,
      fun rank isRank => ⟨promptQueue_requestNewPrompts config rank, ?_⟩,
      flatMap_scatteredTo_perm _⟩
    cases received : scatteredTo config (promptsAndIsEnd answer replica).1 rank with
    | none =>
      dsimp only
      rw [received]
      exact .inl rfl
    | some prompts =>
      dsimp only
      rw [received]
      refine .inr ⟨prompts, ?_, rfl⟩
      rintro rfl
      exact batch rank isRank received

theorem ScattersPrompts.filled (scatters : ScattersPrompts config replica answer)
    (filled : replica.Filled config) :
    (requestNewPrompts config answer replica).1.Filled config := by
  obtain ⟨batches, entries, -⟩ := scatters
  intro rank isRank
  obtain ⟨added, oneBatch⟩ := entries rank isRank
  rw [RolloutRank.Filled, added, mem_append, not_or]
  refine ⟨filled rank isRank, fun isNew => ?_⟩
  rcases oneBatch with none | ⟨batch, filledBatch, one⟩
  · rw [none] at isNew
    cases isNew
  · rw [one] at isNew
    exact filledBatch (mem_singleton.mp isNew).symm

end Requests

section Runs

variable {replica : RolloutReplica}

structure Shortens (step : RolloutRank → RankStep) : Prop where
  queue : ∀ state, (step state).rank.promptQueue <:+ state.promptQueue
  indexes : ∀ state, state.Filled → (step state).raised ≠ some .indexError

theorem promptQueue_markFetchEnd (noMorePrompts : Bool) (rank : RolloutRank) :
    (rank.markFetchEnd noMorePrompts).promptQueue = rank.promptQueue := by
  cases noMorePrompts with
  | false => rfl
  | true => rfl

theorem promptQueue_collect (payloadsList : List RLPayload) (results : List Bool)
    (rank : RolloutRank) :
    (rank.collect payloadsList results).rank.promptQueue = rank.promptQueue := by
  rw [RolloutRank.collect]
  split
  · rfl
  · split
    · rfl
    · rfl

theorem raised_collect_ne (payloadsList : List RLPayload) (results : List Bool)
    (rank : RolloutRank) : (rank.collect payloadsList results).raised ≠ some .indexError := by
  rw [RolloutRank.collect]
  split
  · exact nofun
  · split
    · exact nofun
    · exact nofun

theorem shortens_generate (version : Nat) (results : List Bool) (noMorePrompts : Bool) :
    Shortens fun state =>
      (state.markFetchEnd noMorePrompts).generate config version results := by
  constructor
  · intro state
    rw [← promptQueue_markFetchEnd noMorePrompts state]
    generalize state.markFetchEnd noMorePrompts = marked
    rw [RolloutRank.generate]
    split
    next =>
      split
      next => exact suffix_rfl
      next => exact suffix_rfl
    next =>
      split
      next => exact suffix_rfl
      next => exact suffix_rfl
      next first others rest front =>
        have shorter : rest <:+ marked.promptQueue := by
          rw [front]
          exact suffix_cons _ _
        split
        next =>
          have left := promptQueue_collect (first :: others) results
            (marked.start version (first :: others) rest)
          dsimp only
          split
          next => exact left ▸ shorter
          next => exact left ▸ shorter
        next => exact suffix_rfl
  · intro state filled
    rw [RolloutRank.Filled, ← promptQueue_markFetchEnd noMorePrompts] at filled
    generalize state.markFetchEnd noMorePrompts = marked at filled
    rw [RolloutRank.generate]
    split
    next =>
      split
      next => exact nofun
      next => exact nofun
    next =>
      split
      next => exact nofun
      next rest front =>
        rw [front] at filled
        exact absurd mem_cons_self filled
      next first others rest front =>
        split
        next =>
          dsimp only
          split
          next => exact nofun
          next => exact raised_collect_ne _ _ _
        next => exact nofun

theorem shortens_feed (version : Nat) (isEnd : Bool) :
    Shortens fun state =>
      if state.promptFetchEnd then { rank := state }
      else state.feed config version isEnd := by
  constructor
  · intro state
    split
    next => exact suffix_rfl
    next =>
      rw [RolloutRank.feed]
      split
      next => exact suffix_rfl
      next => exact suffix_rfl
      next first others rest front =>
        split
        next =>
          rw [front]
          exact suffix_cons _ _
        next => exact suffix_rfl
  · intro state filled
    split
    next => exact nofun
    next =>
      rw [RolloutRank.feed]
      split
      next => exact nofun
      next rest front =>
        rw [RolloutRank.Filled, front] at filled
        exact absurd mem_cons_self filled
      next first others rest front =>
        split
        next => exact nofun
        next => exact nofun

theorem filled_onRanks {step : Nat → RolloutRank → RankStep}
    (filled : replica.Filled config) (shortens : ∀ rank, Shortens (step rank)) :
    (replica.onRanks config step).Filled config ∧
      (replica.onRanks config step).failed ≠ some .indexError := by
  constructor
  · intro rank isRank isEmpty
    exact filled rank isRank (((shortens rank).queue _).mem isEmpty)
  · intro raised
    obtain ⟨rank, isRank, found⟩ := exists_of_findSome?_eq_some raised
    exact (shortens rank).indexes _ (filled rank (mem_range.mp isRank)) found

variable {answer : List RLPayload × Bool} {event : RolloutEvent}

theorem filled_request {requested : RolloutReplica × Bool}
    (filled : replica.Filled config) (scatters : (replica.fetching config).length = config.dpSize →
      ScattersPrompts config replica answer)
    (made : replica.request config answer = .ok requested) : requested.1.Filled config := by
  rw [RolloutReplica.request] at made
  split at made
  next => exact Except.ok.inj made ▸ filled
  next =>
    split at made
    next allFetch => exact Except.ok.inj made ▸ (scatters allFetch).filled filled
    next => cases made

theorem request_error {exn : PyError}
    (failed : replica.request config answer = .error exn) : exn = .blocked := by
  rw [RolloutReplica.request] at failed
  split at failed
  next => cases failed
  next =>
    split at failed
    next => cases failed
    next => exact (Except.error.inj failed).symm

/-- A step whose requests scatter their prompts keeps the batches filled and raises no index
error. -/
theorem filled_apply (filled : replica.Filled config) (running : replica.failed = none)
    (scatters : ∀ answer ∈ event.answer, (replica.fetching config).length = config.dpSize →
      ScattersPrompts config replica answer) :
    (event.apply config replica).Filled config ∧
      (event.apply config replica).failed ≠ some .indexError := by
  have notFailed : replica.failed ≠ some .indexError := by
    rw [running]
    exact nofun
  cases event with
  | synced version => exact ⟨filled, notFailed⟩
  | report rewarded => exact ⟨filled, notFailed⟩
  | iterate answer results =>
    rw [RolloutEvent.apply, RolloutReplica.iterate]
    cases made : replica.request config answer with
    | error exn =>
      rw [request_error made]
      exact ⟨filled, nofun⟩
    | ok requested =>
      exact filled_onRanks (filled_request filled (scatters answer rfl) made) fun rank =>
        shortens_generate _ _ _
  | feed answer =>
    rw [RolloutEvent.apply, RolloutReplica.feed]
    cases made : replica.request config answer with
    | error exn =>
      rw [request_error made]
      exact ⟨filled, nofun⟩
    | ok requested =>
      exact filled_onRanks (filled_request filled (scatters answer rfl) made) fun rank =>
        shortens_feed _ _

/-- For filled batches a step is safe exactly if its requests have no prompts or enough. -/
theorem scattersSafely_iff (filled : replica.Filled config) (running : replica.failed = none) :
    ScattersSafely config replica event ↔ EnoughPrompts config replica event := by
  have requested (answer : List RLPayload × Bool) :
      ((replica.fetching config).length = config.dpSize → ScattersPrompts config replica answer) ↔
      (requests config replica = true → answer.1 = [] ∨ config.dpSize ≤ answer.1.length) := by
    rw [scattersPrompts_iff, requests, Bool.and_eq_true, decide_eq_true_eq, and_imp]
  constructor
  · exact fun safe answer isAnswer => (requested answer).mp (safe.1 answer isAnswer)
  · intro enough
    have scatters : ∀ answer ∈ event.answer,
        (replica.fetching config).length = config.dpSize → ScattersPrompts config replica answer :=
      fun answer isAnswer => (requested answer).mpr (enough answer isAnswer)
    exact ⟨scatters, (filled_apply filled running scatters).2⟩

/-- In every run all requests scatter their prompts and no iteration looks into an empty
batch, exactly if all requests have no prompts or at least as many as ranks. -/
theorem scattersSafely_iff_enoughPrompts (config : RolloutConfig) (events : List RolloutEvent)
    (isRun : (rolloutSystem config).IsRun {} events) :
    (rolloutSystem config).StepsMeet (ScattersSafely config) {} events ↔
      (rolloutSystem config).StepsMeet (EnoughPrompts config) {} events := by
  have initial : RolloutReplica.Filled config {} := fun _ _ => not_mem_nil
  constructor
  · exact EventSystem.stepsMeet_of_preserved
      (fun replica event (filled : replica.Filled config) running safe =>
        ⟨(scattersSafely_iff filled running).mp safe,
          (filled_apply filled running safe.1).1⟩) initial isRun
  · exact EventSystem.stepsMeet_of_preserved
      (fun replica event (filled : replica.Filled config) running enough =>
        have safe := (scattersSafely_iff filled running).mpr enough
        ⟨safe, (filled_apply filled running safe.1).1⟩) initial isRun

abbrev twoRanks : RolloutConfig := ⟨2, 0, Nat.zero_lt_two⟩

abbrev askedOnce (prompts : List RLPayload) : List RolloutEvent :=
  [.iterate (prompts, false) fun _ => [true]]

/-- Two prompts reach both ranks. -/
theorem scattersSafely_twoPrompts :
    (rolloutSystem twoRanks).StepsMeet (ScattersSafely twoRanks) {}
      (askedOnce [⟨0, 0⟩, ⟨1, 0⟩]) :=
  (scattersSafely_iff_enoughPrompts twoRanks (askedOnce [⟨0, 0⟩, ⟨1, 0⟩])
    ⟨rfl, trivial⟩).mpr
    ⟨fun answer isAnswer _ => by
      rw [← Option.some.inj isAnswer]
      exact .inr le_rfl, trivial⟩

/-- A single prompt leaves the second rank with an empty batch, at whose first prompt it
looks. -/
theorem not_scattersSafely_onePrompt :
    (rolloutSystem twoRanks).IsRun {} (askedOnce [⟨0, 0⟩]) ∧
      ¬ (rolloutSystem twoRanks).StepsMeet (ScattersSafely twoRanks) {}
        (askedOnce [⟨0, 0⟩]) := by
  refine ⟨⟨rfl, trivial⟩, fun safe => safe.1.2 ?_⟩
  rfl

end Runs

end CosmosRl.Rollout
