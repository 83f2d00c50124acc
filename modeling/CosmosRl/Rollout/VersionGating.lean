import CosmosRl.Dispatcher.VersionTags
import CosmosRl.Dispatcher.World
import CosmosRl.Rollout.PromptScatter

/-!
A batch of prompts is started when its first prompt is not too new.

The tags of an answer never decrease, so the first prompt is the oldest one: a batch whose
last prompt is too new is started all the same.  The batches that the ranks start hold only
prompts that are not too new exactly if no first batch of a queue straddles the limit.
-/

namespace CosmosRl.Rollout

open CosmosRl.Foundation
open CosmosRl.Dispatcher (Config Controller PyError RLPayload TagsInOrder getBatchedPrompt
  handleEvent setup singleAtom tagsInOrder_getBatchedPrompt)
open List

variable (config : RolloutConfig)

def HandedOut (answer : List RLPayload × Bool) : Prop :=
  ∃ (controllerConfig : Config) (n : Nat) (rankInMesh : Option Nat) (controller : Controller),
    (getBatchedPrompt controllerConfig n none rankInMesh controller).1 = .ok answer

def gatedSystem : EventSystem RolloutReplica RolloutEvent where
  handle := fun replica event => event.apply config replica
  Allowed := fun replica event =>
    replica.failed = none ∧ ∀ answer ∈ event.answer, HandedOut answer

def RolloutRank.Gated (rank : RolloutRank) : Prop :=
  ∀ entry ∈ rank.started, isValidPrompt config entry.2 entry.1 = true

def VersionsGated (replica : RolloutReplica) : Prop :=
  ∀ rank, rank < config.dpSize → (replica.ranks rank).Gated config

def OneSided (version : Nat) (batch : List RLPayload) : Prop :=
  ∀ first ∈ batch.head?, ∀ last ∈ batch.getLast?,
    isValidPrompt config version first = true → isValidPrompt config version last = true

/-- After the request of a step no rank that looks at its first batch finds one that straddles
the limit.  A rank that has all prompts does not look when the scheduler is fed. -/
def LooksOneSided (replica : RolloutReplica) : RolloutEvent → Prop
  | .synced _ | .report _ => True
  | .iterate answer _ => ∀ requested ∈ (replica.request config answer).toOption,
      ∀ rank, rank < config.dpSize → ∀ batch ∈ (requested.1.ranks rank).promptQueue.head?,
        OneSided config replica.currentWeightVersion batch
  | .feed answer => ∀ requested ∈ (replica.request config answer).toOption,
      ∀ rank, rank < config.dpSize → (requested.1.ranks rank).promptFetchEnd = false →
        ∀ batch ∈ (requested.1.ranks rank).promptQueue.head?,
          OneSided config replica.currentWeightVersion batch

variable {config}

theorem HandedOut.tagsInOrder {answer : List RLPayload × Bool} (handedOut : HandedOut answer) :
    TagsInOrder answer.1 := by
  obtain ⟨controllerConfig, n, rankInMesh, controller, answered⟩ := handedOut
  exact tagsInOrder_getBatchedPrompt (Prod.ext answered rfl)

section Starting

variable {version : Nat} {rank : RolloutRank}

def RolloutRank.toStart (config : RolloutConfig) (version : Nat) (rank : RolloutRank) :
    List RLPayload :=
  match rank.promptQueue with
  | (first :: others) :: _ => if isValidPrompt config version first then first :: others else []
  | _ => []

def StartedBy (version : Nat) (payloads : List RLPayload) (before after : RolloutRank) : Prop :=
  after.started = before.started ++ payloads.map fun payload => (payload, version)

theorem startedBy_nil (rank : RolloutRank) : StartedBy version [] rank rank :=
  (append_nil _).symm

theorem started_collect (payloadsList : List RLPayload) (results : List Bool)
    (rank : RolloutRank) : (rank.collect payloadsList results).rank.started = rank.started := by
  rw [RolloutRank.collect]
  split
  · rfl
  · split
    · rfl
    · rfl

theorem startedBy_generate (results : List Bool)
    (consumed : rank.promptConsumeEnd = true → rank.promptQueue = []) :
    StartedBy version (rank.toStart config version) rank
      (rank.generate config version results).rank := by
  by_cases ended : rank.promptConsumeEnd = true
  · rw [RolloutRank.generate, if_pos ended, RolloutRank.toStart, consumed ended]
    dsimp only
    split
    · exact startedBy_nil rank
    · exact startedBy_nil rank
  · rw [RolloutRank.generate, if_neg ended, RolloutRank.toStart]
    rcases rank.promptQueue with _ | ⟨_ | ⟨first, others⟩, rest⟩
    · exact startedBy_nil rank
    · exact startedBy_nil rank
    · dsimp only
      split
      next =>
        have kept := started_collect (first :: others) results
          (rank.start version (first :: others) rest)
        split
        next => exact kept
        next => exact kept
      next => exact startedBy_nil rank

theorem startedBy_feed (isEnd : Bool) :
    StartedBy version (rank.toStart config version) rank
      (rank.feed config version isEnd).rank := by
  rw [RolloutRank.feed, RolloutRank.toStart]
  rcases rank.promptQueue with _ | ⟨_ | ⟨first, others⟩, rest⟩
  · exact startedBy_nil rank
  · exact startedBy_nil rank
  · dsimp only
    split
    next => rfl
    next => exact startedBy_nil rank

theorem StartedBy.gated_iff {payloads : List RLPayload} {before after : RolloutRank}
    (started : StartedBy version payloads before after) :
    after.Gated config ↔
      before.Gated config ∧ ∀ payload ∈ payloads, isValidPrompt config version payload = true := by
  rw [RolloutRank.Gated, started, forall_mem_append, forall_mem_map]
  rfl

theorem isValidPrompt_of_le {older newer : RLPayload}
    (inOrder : older.weightVersion ≤ newer.weightVersion)
    (valid : isValidPrompt config version newer = true) :
    isValidPrompt config version older = true :=
  decide_eq_true (inOrder.trans (of_decide_eq_true valid))

theorem le_last_of_tagsInOrder {batch : List RLPayload} (inOrder : TagsInOrder batch)
    {last : RLPayload} (isLast : last ∈ batch.getLast?) :
    ∀ payload ∈ batch, payload.weightVersion ≤ last.weightVersion := by
  obtain ⟨before, rfl⟩ := getLast?_eq_some_iff.mp isLast
  intro payload member
  rcases mem_append.mp member with earlier | isSame
  · exact (pairwise_append.mp inOrder).2.2 payload earlier last mem_cons_self
  · rw [mem_singleton.mp isSame]

/-- All prompts that a rank starts are valid exactly if its first batch does not straddle the
limit. -/
theorem toStart_valid_iff (inOrder : ∀ batch ∈ rank.promptQueue, TagsInOrder batch) :
    (∀ payload ∈ rank.toStart config version, isValidPrompt config version payload = true) ↔
      ∀ batch ∈ rank.promptQueue.head?, OneSided config version batch := by
  rw [RolloutRank.toStart]
  split
  next first others rest front =>
    rw [front] at inOrder ⊢
    have ordered : TagsInOrder (first :: others) := inOrder _ mem_cons_self
    have isFront : (∀ batch ∈ ((first :: others) :: rest).head?, OneSided config version batch) ↔
        OneSided config version (first :: others) :=
      ⟨fun all => all _ rfl, fun oneSided batch isBatch => Option.some.inj isBatch ▸ oneSided⟩
    rw [isFront]
    split
    next valid =>
      constructor
      · intro allValid other _ last isLast _
        exact allValid last (mem_of_getLast? isLast)
      · intro oneSided payload member
        have isLast := getLast?_eq_some_getLast (cons_ne_nil first others)
        exact isValidPrompt_of_le (le_last_of_tagsInOrder ordered isLast payload member)
          (oneSided first rfl _ isLast valid)
    next tooNew =>
      refine ⟨fun _ other isFirst last _ valid => ?_, fun _ => nofun⟩
      rw [← Option.some.inj isFirst] at valid
      exact absurd valid tooNew
  next noPrompt =>
    refine ⟨fun _ batch isBatch first isFirst => ?_, fun _ => nofun⟩
    obtain ⟨rest, front⟩ := head?_eq_some_iff.mp isBatch
    obtain ⟨others, rfl⟩ := head?_eq_some_iff.mp isFirst
    exact absurd front (noPrompt first others rest)

end Starting

section Ordered

structure RolloutRank.Ordered (rank : RolloutRank) : Prop where
  inOrder : ∀ batch ∈ rank.promptQueue, TagsInOrder batch
  consumed : rank.promptConsumeEnd = true → rank.promptFetchEnd = true ∧ rank.promptQueue = []

def RolloutReplica.Ordered (config : RolloutConfig) (replica : RolloutReplica) : Prop :=
  ∀ rank, rank < config.dpSize → (replica.ranks rank).Ordered

theorem tagsInOrder_rankPrompts {ranksToScatter : Nat} (positive : 0 < ranksToScatter)
    {prompts : List RLPayload} (inOrder : TagsInOrder prompts) (rank : Nat) :
    TagsInOrder (rankPrompts ranksToScatter prompts rank) := by
  rw [TagsInOrder, rankPrompts, pairwise_filterMap]
  refine (pairwise_stridedRange positive).imp ?_
  intro earlier later before first isFirst second isSecond
  obtain ⟨firstBound, rfl⟩ := List.getElem?_eq_some_iff.mp isFirst
  obtain ⟨secondBound, rfl⟩ := List.getElem?_eq_some_iff.mp isSecond
  exact pairwise_iff_getElem.mp inOrder earlier later firstBound secondBound before

variable {prompts : Option (List RLPayload)}

theorem tagsInOrder_scatteredTo (inOrder : ∀ batch ∈ prompts, TagsInOrder batch) (rank : Nat) :
    ∀ batch ∈ scatteredTo config prompts rank, TagsInOrder batch := by
  rw [scatteredTo]
  split
  · intro batch isBatch
    obtain ⟨whole, isWhole, rfl⟩ := Option.map_eq_some_iff.mp isBatch
    exact tagsInOrder_rankPrompts config.dpSize_pos (inOrder whole isWhole) rank
  · exact inOrder

variable {rank : RolloutRank} {version : Nat}

theorem RolloutRank.Ordered.put (ordered : rank.Ordered) (fetches : rank.promptFetchEnd = false)
    (inOrder : ∀ batch ∈ prompts, TagsInOrder batch) : (rank.put prompts).Ordered := by
  cases prompts with
  | none => exact ordered
  | some prompts =>
    constructor
    · intro batch member
      rcases mem_append.mp member with waiting | isNew
      · exact ordered.inOrder batch waiting
      · rw [mem_singleton.mp isNew]
        exact inOrder prompts rfl
    · intro ended
      have noMore := (ordered.consumed ended).1
      rw [fetches] at noMore
      cases noMore

theorem RolloutRank.Ordered.markFetchEnd (ordered : rank.Ordered) (noMorePrompts : Bool) :
    (rank.markFetchEnd noMorePrompts).Ordered := by
  cases noMorePrompts with
  | false => exact ordered
  | true =>
    refine ⟨ordered.inOrder, fun ended => ⟨rfl, ?_⟩⟩
    rcases Bool.or_eq_true_iff.mp ended with before | isEmpty
    · exact (ordered.consumed before).2
    · exact isEmpty_iff.mp isEmpty

theorem RolloutRank.Ordered.markConsumeEnd
    (inOrder : ∀ batch ∈ rank.promptQueue, TagsInOrder batch) :
    rank.markConsumeEnd.Ordered := by
  refine ⟨inOrder, fun ended => ?_⟩
  obtain ⟨fetchEnd, isEmpty⟩ := Bool.and_eq_true_iff.mp ended
  exact ⟨fetchEnd, isEmpty_iff.mp isEmpty⟩

theorem promptConsumeEnd_collect (payloadsList : List RLPayload) (results : List Bool)
    (rank : RolloutRank) :
    (rank.collect payloadsList results).rank.promptConsumeEnd = rank.promptConsumeEnd := by
  rw [RolloutRank.collect]
  split
  · rfl
  · split
    · rfl
    · rfl

section

variable (ordered : rank.Ordered)

include ordered

theorem RolloutRank.Ordered.generate (results : List Bool) :
    (rank.generate config version results).rank.Ordered := by
  have shorter := (@shortens_generate config version results false).queue rank
  have inOrder : ∀ batch ∈ (rank.generate config version results).rank.promptQueue,
      TagsInOrder batch := fun batch member => ordered.inOrder batch (shorter.mem member)
  by_cases ended : rank.promptConsumeEnd = true
  · rw [RolloutRank.generate, if_pos ended]
    split
    · exact ordered
    · exact ordered
  · refine ⟨inOrder, ?_⟩
    rw [RolloutRank.generate, if_neg ended] at inOrder ⊢
    rcases front : rank.promptQueue with _ | ⟨_ | ⟨first, others⟩, rest⟩
    · exact fun isEnd => absurd isEnd ended
    · exact fun isEnd => absurd isEnd ended
    · rw [front] at inOrder
      dsimp only at inOrder ⊢
      split
      next valid =>
        rw [if_pos valid] at inOrder
        split
        next unraised =>
          rw [if_pos unraised] at inOrder
          exact (RolloutRank.Ordered.markConsumeEnd inOrder).consumed
        next =>
          rw [promptConsumeEnd_collect]
          exact fun isEnd => absurd isEnd ended
      next => exact fun isEnd => absurd isEnd ended

theorem RolloutRank.Ordered.feed (fetches : rank.promptFetchEnd = false) (isEnd : Bool) :
    (rank.feed config version isEnd).rank.Ordered := by
  have running : rank.promptConsumeEnd ≠ true := by
    intro ended
    have noMore := (ordered.consumed ended).1
    rw [fetches] at noMore
    cases noMore
  have kept : (rank.feed config version isEnd).rank.promptConsumeEnd = rank.promptConsumeEnd := by
    rw [RolloutRank.feed]
    split
    · rfl
    · rfl
    · split
      · rfl
      · rfl
  have shorter := (@shortens_feed config version isEnd).queue rank
  rw [fetches, if_neg Bool.false_ne_true] at shorter
  refine ⟨fun batch member => ordered.inOrder batch (shorter.mem member), fun ended => ?_⟩
  rw [kept] at ended
  exact absurd ended running

theorem gated_markFetchEnd_generate (noMorePrompts : Bool) (results : List Bool) :
    ((rank.markFetchEnd noMorePrompts).generate config version results).rank.Gated config ↔
      rank.Gated config ∧ ∀ batch ∈ rank.promptQueue.head?, OneSided config version batch := by
  have marked := ordered.markFetchEnd noMorePrompts
  have starts : StartedBy version _ _
      ((rank.markFetchEnd noMorePrompts).generate config version results).rank :=
    startedBy_generate results fun ended => (marked.consumed ended).2
  have kept : (rank.markFetchEnd noMorePrompts).started = rank.started := by
    cases noMorePrompts with
    | false => rfl
    | true => rfl
  have unchanged : (rank.markFetchEnd noMorePrompts).Gated config ↔ rank.Gated config := by
    rw [RolloutRank.Gated, RolloutRank.Gated, kept]
  rw [starts.gated_iff, toStart_valid_iff marked.inOrder, promptQueue_markFetchEnd, unchanged]

theorem gated_feedUnlessEnd (isEnd : Bool) :
    (if rank.promptFetchEnd then { rank := rank }
      else rank.feed config version isEnd : RankStep).rank.Gated config ↔
      rank.Gated config ∧ (rank.promptFetchEnd = false →
        ∀ batch ∈ rank.promptQueue.head?, OneSided config version batch) := by
  cases fetches : rank.promptFetchEnd with
  | true =>
    rw [if_pos rfl]
    exact ⟨fun gated => ⟨gated, nofun⟩, And.left⟩
  | false =>
    have starts : StartedBy version _ _ (rank.feed config version isEnd).rank :=
      startedBy_feed isEnd
    rw [if_neg Bool.false_ne_true, starts.gated_iff, toStart_valid_iff ordered.inOrder]
    exact and_congr_right fun _ => ⟨fun oneSided _ => oneSided, fun oneSided => oneSided rfl⟩

theorem ordered_feedUnlessEnd (isEnd : Bool) :
    (if rank.promptFetchEnd then { rank := rank }
      else rank.feed config version isEnd : RankStep).rank.Ordered := by
  split
  · exact ordered
  · next fetches => exact ordered.feed (Bool.eq_false_of_not_eq_true fetches) isEnd

end

end Ordered

section Runs

variable {replica : RolloutReplica} {answer : List RLPayload × Bool}

theorem fetches_of_length (all : (replica.fetching config).length = config.dpSize) {rank : Nat}
    (isRank : rank < config.dpSize) : (replica.ranks rank).promptFetchEnd = false := by
  have whole : ((List.range config.dpSize).filter fun rank =>
      ! (replica.ranks rank).promptFetchEnd).length = (List.range config.dpSize).length := by
    rw [length_range]
    exact all
  exact (Bool.not_eq_true' _).mp
    (length_filter_eq_length_iff.mp whole rank (mem_range.mpr isRank))

structure RequestedBy (config : RolloutConfig) (before after : RolloutReplica) : Prop where
  ordered : after.Ordered config
  started : ∀ rank, (after.ranks rank).started = (before.ranks rank).started
  version : after.currentWeightVersion = before.currentWeightVersion

theorem requestedBy_request (ordered : replica.Ordered config) (inOrder : TagsInOrder answer.1)
    {requested : RolloutReplica × Bool} (made : replica.request config answer = .ok requested) :
    RequestedBy config replica requested.1 := by
  rw [RolloutReplica.request] at made
  split at made
  next =>
    cases made
    exact ⟨ordered, fun _ => rfl, rfl⟩
  next =>
    split at made
    next all =>
      cases made
      have prompts : ∀ batch ∈ (promptsAndIsEnd answer replica).1, TagsInOrder batch := by
        intro batch isBatch
        rw [promptsAndIsEnd] at isBatch
        split at isBatch
        · dsimp only at isBatch
          split at isBatch
          · exact Option.some.inj isBatch ▸ inOrder
          · cases isBatch
        · cases isBatch
      refine ⟨fun rank isRank => ?_, fun rank => ?_, rfl⟩
      · exact (ordered rank isRank).put (fetches_of_length all isRank)
          (tagsInOrder_scatteredTo prompts rank)
      · show ((replica.ranks rank).put _).started = _
        cases scatteredTo config (promptsAndIsEnd answer replica).1 rank with
        | none => rfl
        | some batch => rfl
    next => cases made

theorem RequestedBy.gated_iff {before after : RolloutReplica}
    (requested : RequestedBy config before after) (rank : Nat) :
    (after.ranks rank).Gated config ↔ (before.ranks rank).Gated config := by
  rw [RolloutRank.Gated, RolloutRank.Gated, requested.started]

section

variable (ordered : replica.Ordered config)

include ordered

/-- An iteration keeps the queues ordered, and it starts only valid prompts exactly if the
ranks look at batches on one side of the limit. -/
theorem gated_iterate (inOrder : TagsInOrder answer.1) (results : Nat → List Bool) :
    (replica.iterate config answer results).Ordered config ∧
      (VersionsGated config (replica.iterate config answer results) ↔
        VersionsGated config replica ∧
          LooksOneSided config replica (.iterate answer results)) := by
  rw [RolloutReplica.iterate, LooksOneSided]
  cases made : replica.request config answer with
  | error exn =>
    refine ⟨ordered, fun gated => ⟨gated, fun requested isRequested => ?_⟩, And.left⟩
    cases isRequested
  | ok requested =>
    have request := requestedBy_request ordered inOrder made
    constructor
    · exact fun rank isRank =>
        ((request.ordered rank isRank).markFetchEnd requested.2).generate (results rank)
    · simp only [Except.toOption, Option.mem_some_iff, forall_eq', VersionsGated]
      rw [← forall₂_and]
      refine forall₂_congr fun rank isRank => ?_
      exact (gated_markFetchEnd_generate (request.ordered rank isRank) requested.2
        (results rank)).trans (and_congr_left' (request.gated_iff rank))

theorem gated_feed (inOrder : TagsInOrder answer.1) :
    (replica.feed config answer).Ordered config ∧
      (VersionsGated config (replica.feed config answer) ↔
        VersionsGated config replica ∧ LooksOneSided config replica (.feed answer)) := by
  rw [RolloutReplica.feed, LooksOneSided]
  cases made : replica.request config answer with
  | error exn =>
    refine ⟨ordered, fun gated => ⟨gated, fun requested isRequested => ?_⟩, And.left⟩
    cases isRequested
  | ok requested =>
    have request := requestedBy_request ordered inOrder made
    constructor
    · intro rank isRank
      exact ordered_feedUnlessEnd (request.ordered rank isRank) requested.2
    · simp only [Except.toOption, Option.mem_some_iff, forall_eq', VersionsGated]
      rw [← forall₂_and]
      refine forall₂_congr fun rank isRank => ?_
      exact (gated_feedUnlessEnd (request.ordered rank isRank) requested.2).trans
        (and_congr_left' (request.gated_iff rank))

/-- A step keeps the queues ordered; what it starts is valid exactly if the ranks look at
batches on one side of the limit. -/
theorem gated_apply {event : RolloutEvent} (handedOut : ∀ answer ∈ event.answer, HandedOut answer) :
    (event.apply config replica).Ordered config ∧
      (VersionsGated config (event.apply config replica) ↔
        VersionsGated config replica ∧ LooksOneSided config replica event) := by
  cases event with
  | synced version => exact ⟨ordered, (and_iff_left trivial).symm⟩
  | report rewarded =>
    exact ⟨fun rank isRank => ⟨(ordered rank isRank).inOrder, (ordered rank isRank).consumed⟩,
      (and_iff_left trivial).symm⟩
  | iterate answer results =>
    exact gated_iterate ordered (handedOut answer rfl).tagsInOrder results
  | feed answer => exact gated_feed ordered (handedOut answer rfl).tagsInOrder

end

/-- In every run the ranks start only prompts that are not too new, exactly if they never look
at a first batch that straddles the limit. -/
theorem versionsGated_iff_looksOneSided (config : RolloutConfig) (events : List RolloutEvent)
    (isRun : (gatedSystem config).IsRun {} events) :
    (gatedSystem config).Throughout (VersionsGated config) {} events ↔
      (gatedSystem config).StepsMeet (LooksOneSided config) {} events := by
  have start : RolloutReplica.Ordered config {} ∧ VersionsGated config {} :=
    ⟨fun _ _ => ⟨nofun, nofun⟩, fun _ _ => nofun⟩
  refine @EventSystem.throughout_iff_stepsMeet _ _ (gatedSystem config)
    (fun replica => replica.Ordered config ∧ VersionsGated config replica)
    (VersionsGated config) (LooksOneSided config) (fun _ => And.right) ?_ ?_ _ _ start isRun
  · rintro replica event ⟨ordered, gated⟩ ⟨-, handedOut⟩ oneSided
    obtain ⟨after, gatedAfter⟩ := gated_apply ordered handedOut
    exact ⟨after, gatedAfter.mpr ⟨gated, oneSided⟩⟩
  · rintro replica event ⟨ordered, -⟩ ⟨-, handedOut⟩ straddles gated
    exact straddles ((gated_apply ordered handedOut).2.mp gated).2

abbrev oneRank : RolloutConfig := ⟨1, 0, Nat.one_pos⟩

def onePromptSteps : Config :=
  .small 0
    { trainDataloader := fun _ => [[0], [1]]
      valDataloader := []
      valDatasize := 0 }

def readyController : Controller :=
  (handleEvent onePromptSteps (setup onePromptSteps 0 2 1 1 { trainDataloaderIter := [[0], [1]] })
    (.registerPolicy (singleAtom 0) 0)).state

def firstIteration (prompts : List RLPayload) : List RolloutEvent :=
  [.iterate (prompts, false) fun _ => prompts.map fun _ => true]

theorem versionsGated_onePrompt :
    (gatedSystem oneRank).Throughout (VersionsGated oneRank) {} (firstIteration [⟨0, 0⟩]) := by
  refine (versionsGated_iff_looksOneSided oneRank (firstIteration [⟨0, 0⟩]) ?_).mpr ?_
  · refine ⟨⟨rfl, fun answer isAnswer => ?_⟩, trivial⟩
    cases isAnswer
    exact ⟨onePromptSteps, 1, none, readyController, rfl⟩
  · refine ⟨fun requested isRequested rank isRank batch isBatch first _ last isLast _ => ?_,
      trivial⟩
    cases isRequested
    cases isBatch
    cases isLast
    rfl

/-- Two prompts that are fetched together belong to two versions, and the second one is started
with the first. -/
theorem not_versionsGated_twoPrompts :
    (gatedSystem oneRank).IsRun {} (firstIteration [⟨0, 0⟩, ⟨1, 1⟩]) ∧
      ¬ (gatedSystem oneRank).Throughout (VersionsGated oneRank) {}
        (firstIteration [⟨0, 0⟩, ⟨1, 1⟩]) := by
  constructor
  · refine ⟨⟨rfl, fun answer isAnswer => ?_⟩, trivial⟩
    cases isAnswer
    exact ⟨onePromptSteps, 2, none, readyController, rfl⟩
  · intro throughout
    have second := throughout.2 0 Nat.one_pos (⟨1, 1⟩, 0) (.tail _ (.head _))
    cases second

end Runs

end CosmosRl.Rollout
