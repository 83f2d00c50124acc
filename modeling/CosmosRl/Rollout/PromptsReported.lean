import CosmosRl.Rollout.VersionGating
import Mathlib.Algebra.Order.BigOperators.Group.Finset
import Mathlib.Tactic.Abel

/-!
What becomes of the prompts of a synchronous rollout worker.

A prompt that was fetched is in a queue, waits for its rewards, is reported or is lost.  It is
lost when its generation fails, and nothing brings it back; the same holds for validation.
-/

namespace CosmosRl.Rollout

open CosmosRl.Foundation List
open CosmosRl.Dispatcher (PyError RLPayload)

variable (config : RolloutConfig)

structure SyncWorker where
  replica : RolloutReplica := {}
  validations : List RolloutReplica := []

inductive SyncEvent where
  | train (event : RolloutEvent)
  | validate (rounds : List ValidationRound)

def SyncEvent.apply (worker : SyncWorker) : SyncEvent → SyncWorker
  | .train event => { worker with replica := event.apply config worker.replica }
  | .validate rounds =>
    { replica := worker.replica.reportAll
      validations := worker.validations ++ [doValidation config rounds] }

def SyncEvent.IsSynchronous : SyncEvent → Prop
  | .train (.feed _) => False
  | .train _ => True
  | .validate rounds => ∃ round ∈ rounds, round.answer.2 = true

def syncSystem : EventSystem SyncWorker SyncEvent where
  handle := SyncEvent.apply config
  Allowed := fun worker event => worker.replica.failed = none ∧ event.IsSynchronous

def Drained (replica : RolloutReplica) : Prop :=
  ∀ rank, rank < config.dpSize →
    (replica.ranks rank).promptQueue = [] ∧ (replica.ranks rank).rewardQueue = []

def ReportsAll (replica : RolloutReplica) : Prop :=
  ((List.range config.dpSize).flatMap fun rank => (replica.ranks rank).reported).Perm
    replica.fetched

/-- No prompt is lost: when the worker is drained all training prompts are reported, and so
are the prompts of every validation. -/
structure LosesNoPrompt (worker : SyncWorker) : Prop where
  training : Drained config worker.replica → ReportsAll config worker.replica
  validation : ∀ validation ∈ worker.validations, ReportsAll config validation

def generatedBatch (version : Nat) (noMorePrompts : Bool) (rank : RolloutRank) :
    List RLPayload :=
  if (rank.markFetchEnd noMorePrompts).promptConsumeEnd then []
  else rank.toStart config version

def Generates (batch : List RLPayload) (results : List Bool) : Prop :=
  results.length = batch.length ∧ ∀ kept ∈ results, kept = true

def RoundSucceeds (round : ValidationRound) : Prop :=
  ∀ rank, rank < config.dpSize → ∀ batch ∈ scatteredTo config (some round.answer.1) rank,
    batch ≠ [] → round.results rank ≠ 0

def RoundsSucceed : List ValidationRound → Prop
  | [] => True
  | round :: rest =>
    RoundSucceeds config round ∧ (round.answer.2 = false → RoundsSucceed rest)

def GenerationsSucceed (worker : SyncWorker) : SyncEvent → Prop
  | .train (.iterate answer results) =>
    ∀ requested ∈ (worker.replica.request config answer).toOption,
      ∀ rank, rank < config.dpSize →
        generatedBatch config worker.replica.currentWeightVersion requested.2
          (requested.1.ranks rank) ≠ [] →
        Generates (generatedBatch config worker.replica.currentWeightVersion requested.2
          (requested.1.ranks rank)) (results rank)
  | .train _ => True
  | .validate rounds => RoundsSucceed config rounds

variable {config}

section Accounts

def RolloutRank.holdings (rank : RolloutRank) : Multiset RLPayload :=
  rank.promptQueue.flatten + rank.rewardQueue + rank.reported

def RolloutReplica.holdings (config : RolloutConfig) (replica : RolloutReplica) :
    Multiset RLPayload :=
  ∑ rank ∈ Finset.range config.dpSize, (replica.ranks rank).holdings

def Balanced (config : RolloutConfig) (replica : RolloutReplica)
    (lost : Multiset RLPayload) : Prop :=
  (replica.fetched : Multiset RLPayload) = replica.holdings config + lost

theorem coe_flatMap_range (count : Nat) (share : Nat → List RLPayload) :
    (((List.range count).flatMap share : List RLPayload) : Multiset RLPayload) =
      ∑ rank ∈ Finset.range count, (share rank : Multiset RLPayload) := by
  induction count with
  | zero => rfl
  | succ count ih =>
    rw [range_succ, flatMap_append, flatMap_singleton, ← Multiset.coe_add,
      ih, Finset.sum_range_succ]

variable {replica : RolloutReplica} {lost : Multiset RLPayload} {answer : List RLPayload × Bool}
  {batch : List RLPayload} {results : List Bool}

theorem reportsAll_iff :
    ReportsAll config replica ↔
      ∑ rank ∈ Finset.range config.dpSize, ((replica.ranks rank).reported : Multiset RLPayload) =
        replica.fetched := by
  rw [ReportsAll, ← Multiset.coe_eq_coe, coe_flatMap_range]

theorem holdings_of_drained (drained : Drained config replica) :
    replica.holdings config =
      ∑ rank ∈ Finset.range config.dpSize,
        ((replica.ranks rank).reported : Multiset RLPayload) := by
  refine Finset.sum_congr rfl fun rank isRank => ?_
  obtain ⟨noPrompt, noReward⟩ := drained rank (Finset.mem_range.mp isRank)
  rw [RolloutRank.holdings, noPrompt, noReward, flatten_nil, Multiset.coe_nil, zero_add,
    zero_add]

theorem Balanced.reportsAll_iff
    (balanced : Balanced config replica lost) (drained : Drained config replica) :
    ReportsAll config replica ↔ lost = 0 := by
  rw [Rollout.reportsAll_iff, ← holdings_of_drained drained, balanced, eq_comm, add_eq_left]

theorem holdings_put (prompts : Option (List RLPayload)) (rank : RolloutRank) :
    (rank.put prompts).holdings = rank.holdings + prompts.toList.flatten := by
  cases prompts with
  | none => exact (add_zero _).symm
  | some batch =>
    rw [RolloutRank.put, RolloutRank.holdings, RolloutRank.holdings, flatten_append,
      ← Multiset.coe_add, Option.toList_some]
    dsimp only
    rw [flatten_singleton]
    abel

theorem Balanced.requestNewPrompts
    (balanced : Balanced config replica lost) (answer : List RLPayload × Bool) :
    Balanced config (requestNewPrompts config answer replica).1 lost := by
  have received (rank : Nat) :
      ((Rollout.requestNewPrompts config answer replica).1.ranks rank).holdings =
        (replica.ranks rank).holdings +
          (scatteredTo config (promptsAndIsEnd answer replica).1 rank).toList.flatten :=
    holdings_put _ _
  have shares : ∑ rank ∈ Finset.range config.dpSize,
      ((scatteredTo config (promptsAndIsEnd answer replica).1 rank).toList.flatten :
        Multiset RLPayload) = ((promptsAndIsEnd answer replica).1.getD [] : List RLPayload) := by
    rw [← coe_flatMap_range, Multiset.coe_eq_coe]
    exact flatMap_scatteredTo_perm _
  rw [Balanced, RolloutReplica.holdings, Finset.sum_congr rfl fun rank _ => received rank,
    Finset.sum_add_distrib, shares, add_right_comm]
  show ((replica.fetched ++ _ : List RLPayload) : Multiset RLPayload) = _
  rw [← Multiset.coe_add, balanced]
  rfl

theorem Balanced.request (balanced : Balanced config replica lost)
    {requested : RolloutReplica × Bool} (made : replica.request config answer = .ok requested) :
    Balanced config requested.1 lost := by
  rw [RolloutReplica.request] at made
  split at made
  next => exact Except.ok.inj made ▸ balanced
  next =>
    split at made
    next => exact Except.ok.inj made ▸ balanced.requestNewPrompts answer
    next => cases made

def lostBy (batch : List RLPayload) (results : List Bool) : Multiset RLPayload :=
  if results.length = batch.length then
    (((batch.zip results).filter fun pair => ! pair.2).map Prod.fst : List RLPayload)
  else batch

theorem kept_add_lost (sameLength : results.length = batch.length) :
    ((((batch.zip results).filter Prod.snd).map Prod.fst : List RLPayload) :
      Multiset RLPayload) + lostBy batch results = batch := by
  have parts := (filter_append_perm Prod.snd (batch.zip results)).map Prod.fst
  rw [map_append, map_fst_zip sameLength.ge] at parts
  rw [lostBy, if_pos sameLength, Multiset.coe_add, Multiset.coe_eq_coe]
  exact parts

theorem lostBy_eq_zero_iff : lostBy batch results = 0 ↔ (batch ≠ [] → Generates batch results) := by
  by_cases sameLength : results.length = batch.length
  · have allKept : (((batch.zip results).filter fun pair => ! pair.2).map Prod.fst) = [] ↔
        ∀ kept ∈ results, kept = true := by
      rw [map_eq_nil_iff, filter_eq_nil_iff]
      simp only [Bool.not_eq_true', Bool.not_eq_false]
      rw [← forall_mem_map (f := Prod.snd) (P := fun kept => kept = true),
        map_snd_zip sameLength.le]
    rw [lostBy, if_pos sameLength, Multiset.coe_eq_zero, allKept]
    constructor
    · exact fun kept _ => ⟨sameLength, kept⟩
    · intro generates
      by_cases empty : batch = []
      · rw [empty, length_nil, length_eq_zero_iff] at sameLength
        rw [sameLength]
        exact nofun
      · exact (generates empty).2
  · rw [lostBy, if_neg sameLength, Multiset.coe_eq_zero]
    constructor
    · exact fun empty some => absurd empty some
    · intro generates
      by_contra some
      exact sameLength (generates some).1

theorem lostBy_nil (results : List Bool) : lostBy [] results = 0 :=
  lostBy_eq_zero_iff.mpr fun some => absurd rfl some

theorem holdings_markFetchEnd (noMorePrompts : Bool) (rank : RolloutRank) :
    (rank.markFetchEnd noMorePrompts).holdings = rank.holdings := by
  cases noMorePrompts with
  | false => rfl
  | true => rfl

theorem holdings_collect (some : batch ≠ []) (results : List Bool) (rank : RolloutRank) :
    (rank.collect batch results).rank.holdings + lostBy batch results =
      rank.holdings + batch := by
  rw [RolloutRank.collect]
  split
  next failed =>
    rw [lostBy, if_neg]
    rw [failed]
    exact fun empty => some (length_eq_zero_iff.mp empty.symm)
  next =>
    split
    next sameLength =>
      rw [← kept_add_lost sameLength, RolloutRank.holdings, RolloutRank.holdings,
        ← Multiset.coe_add]
      abel
    next otherLength => rw [lostBy, if_neg otherLength]

theorem holdings_start (version : Nat) {rest : List (List RLPayload)}
    {rank : RolloutRank} (front : rank.promptQueue = batch :: rest) :
    (rank.start version batch rest).holdings + batch = rank.holdings := by
  rw [RolloutRank.holdings, RolloutRank.holdings, front, flatten_cons, ← Multiset.coe_add]
  show (rest.flatten : Multiset RLPayload) + rank.rewardQueue + rank.reported + batch = _
  abel

theorem holdings_generate (version : Nat) (results : List Bool) (noMorePrompts : Bool)
    (rank : RolloutRank) :
    ((rank.markFetchEnd noMorePrompts).generate config version results).rank.holdings +
      lostBy (generatedBatch config version noMorePrompts rank) results = rank.holdings := by
  rw [generatedBatch, RolloutRank.toStart, ← promptQueue_markFetchEnd noMorePrompts rank,
    ← holdings_markFetchEnd noMorePrompts rank]
  generalize rank.markFetchEnd noMorePrompts = marked
  rw [RolloutRank.generate]
  split
  next =>
    rw [lostBy_nil, add_zero]
    split
    · rfl
    · rfl
  next =>
    rcases front : marked.promptQueue with _ | ⟨_ | ⟨first, others⟩, rest⟩
    · exact (congrArg _ (lostBy_nil results)).trans (add_zero _)
    · exact (congrArg _ (lostBy_nil results)).trans (add_zero _)
    · dsimp only
      split
      next =>
        have generated := holdings_collect (cons_ne_nil first others) results
          (marked.start version (first :: others) rest)
        rw [holdings_start version front] at generated
        split
        · exact generated
        · exact generated
      next => rw [lostBy_nil, add_zero]

def lostByIteration (config : RolloutConfig) (replica : RolloutReplica)
    (answer : List RLPayload × Bool) (results : Nat → List Bool) : Multiset RLPayload :=
  match replica.request config answer with
  | .error _ => 0
  | .ok requested =>
    ∑ rank ∈ Finset.range config.dpSize,
      lostBy (generatedBatch config replica.currentWeightVersion requested.2
        (requested.1.ranks rank)) (results rank)

theorem lostByIteration_eq_zero_iff {worker : SyncWorker} {results : Nat → List Bool} :
    lostByIteration config worker.replica answer results = 0 ↔
      GenerationsSucceed config worker (.train (.iterate answer results)) := by
  rw [lostByIteration, GenerationsSucceed]
  cases worker.replica.request config answer with
  | error exn => exact iff_of_true rfl nofun
  | ok requested =>
    dsimp only
    rw [Finset.sum_eq_zero_iff]
    constructor
    · intro nothing made isMade rank isRank
      rw [← Option.some.inj isMade]
      exact lostBy_eq_zero_iff.mp (nothing rank (Finset.mem_range.mpr isRank))
    · intro generates rank isRank
      exact lostBy_eq_zero_iff.mpr (generates requested rfl rank (Finset.mem_range.mp isRank))

theorem Balanced.iterate (balanced : Balanced config replica lost) (answer : List RLPayload × Bool)
    (results : Nat → List Bool) :
    Balanced config (replica.iterate config answer results)
      (lost + lostByIteration config replica answer results) := by
  rw [RolloutReplica.iterate, lostByIteration]
  cases made : replica.request config answer with
  | error exn =>
    rw [add_zero]
    exact balanced
  | ok requested =>
    have moved := balanced.request made
    have ranks : requested.1.holdings config =
        (∑ rank ∈ Finset.range config.dpSize,
          (((requested.1.ranks rank).markFetchEnd requested.2).generate config
            replica.currentWeightVersion (results rank)).rank.holdings) +
        ∑ rank ∈ Finset.range config.dpSize,
          lostBy (generatedBatch config replica.currentWeightVersion requested.2
            (requested.1.ranks rank)) (results rank) := by
      rw [← Finset.sum_add_distrib]
      exact Finset.sum_congr rfl fun rank _ => (holdings_generate _ _ _ _).symm
    rw [Balanced, ranks, add_assoc, add_comm _ lost] at moved
    exact moved

theorem holdings_report (replica : RolloutReplica) (rewarded : Nat → Nat) :
    (replica.report rewarded).holdings config = replica.holdings config := by
  refine Finset.sum_congr rfl fun rank _ => ?_
  have split : ((replica.ranks rank).rewardQueue : Multiset RLPayload) =
      ((replica.ranks rank).rewardQueue.take (rewarded rank) : List RLPayload) +
        ((replica.ranks rank).rewardQueue.drop (rewarded rank) : List RLPayload) := by
    rw [Multiset.coe_add, take_append_drop]
  show ((replica.ranks rank).promptQueue.flatten : Multiset RLPayload) +
    ((replica.ranks rank).rewardQueue.drop (rewarded rank) : List RLPayload) +
    ((replica.ranks rank).reported ++ (replica.ranks rank).rewardQueue.take (rewarded rank) :
      List RLPayload) = _
  rw [RolloutRank.holdings, split, ← Multiset.coe_add]
  abel

theorem Balanced.report (balanced : Balanced config replica lost) (rewarded : Nat → Nat) :
    Balanced config (replica.report rewarded) lost := by
  rw [Balanced, holdings_report]
  exact balanced

end Accounts

section Validating

def Idle (validation : RolloutReplica) : Prop :=
  ∀ rank, (validation.ranks rank).promptQueue = []

def lostByRound (config : RolloutConfig) (round : ValidationRound) : Multiset RLPayload :=
  ∑ rank ∈ Finset.range config.dpSize,
    if round.results rank = 0 then
      ((scatteredTo config (some round.answer.1) rank).toList.flatten : List RLPayload)
    else 0

theorem lostByRound_eq_zero_iff {round : ValidationRound} :
    lostByRound config round = 0 ↔ RoundSucceeds config round := by
  rw [lostByRound, Finset.sum_eq_zero_iff]
  refine forall_congr' fun rank => ?_
  rw [Finset.mem_range]
  refine imp_congr_right fun _ => ?_
  cases scatteredTo config (some round.answer.1) rank with
  | none => exact iff_of_true (ite_self _) nofun
  | some batch =>
    rw [Option.toList_some, flatten_singleton]
    constructor
    · intro nothing other isOther filled failed
      rw [if_pos failed, Multiset.coe_eq_zero] at nothing
      exact filled (Option.some.inj isOther ▸ nothing)
    · intro succeeds
      split
      next failed =>
        rw [Multiset.coe_eq_zero]
        by_contra filled
        exact succeeds batch rfl filled failed
      next => rfl

variable {validation : RolloutReplica}

theorem scatteredTo_promptsAndIsEnd (idle : Idle validation)
    (answer : List RLPayload × Bool) (rank : Nat) :
    (scatteredTo config (promptsAndIsEnd answer validation).1 rank).toList.flatten =
      (scatteredTo config (some answer.1) rank).toList.flatten := by
  rw [promptsAndIsEnd, idle 0, if_pos isEmpty_nil]
  dsimp only
  split
  next => rfl
  next none =>
    rw [scatteredTo_none, eq_nil_of_length_eq_zero (Nat.eq_zero_of_not_pos none), scatteredTo]
    split
    · rw [Option.map_some, (rankPrompts_eq_nil_iff config.dpSize_pos [] rank).mpr (Nat.zero_le _)]
      rfl
    · rfl

theorem holdings_validate {rank : RolloutRank} (idle : rank.promptQueue = []) (results : Nat)
    (prompts : Option (List RLPayload)) :
    ((rank.put prompts).validate results).promptQueue = [] ∧
      ((rank.put prompts).validate results).holdings +
        (if results = 0 then (prompts.toList.flatten : Multiset RLPayload) else 0) =
      rank.holdings + prompts.toList.flatten := by
  cases prompts with
  | none =>
    have unchanged : rank.validate results = rank := by
      rw [RolloutRank.validate, idle]
    rw [RolloutRank.put, unchanged]
    refine ⟨idle, congrArg (rank.holdings + ·) ?_⟩
    split
    · rfl
    · rfl
  | some batch =>
    rw [RolloutRank.put, RolloutRank.validate]
    dsimp only
    rw [idle, nil_append, Option.toList_some, flatten_singleton]
    dsimp only
    split
    next =>
      rw [RolloutRank.holdings, RolloutRank.holdings, idle]
      exact ⟨rfl, rfl⟩
    next =>
      rw [RolloutRank.holdings, RolloutRank.holdings, idle, add_zero, ← Multiset.coe_add]
      refine ⟨rfl, ?_⟩
      abel

theorem validationRound_spec {lost : Multiset RLPayload}
    (idle : Idle validation) (balanced : Balanced config validation lost)
    (round : ValidationRound) :
    Idle (validationRound config round validation).1 ∧
      (validationRound config round validation).2 = round.answer.2 ∧
      Balanced config (validationRound config round validation).1
        (lost + lostByRound config round) := by
  have validated (rank : Nat) := holdings_validate (idle rank) (round.results rank)
    (scatteredTo config (promptsAndIsEnd round.answer validation).1 rank)
  refine ⟨fun rank => (validated rank).1, ?_, ?_⟩
  · show (promptsAndIsEnd round.answer validation).2 = _
    rw [promptsAndIsEnd, idle 0, if_pos isEmpty_nil]
  · have moved := balanced.requestNewPrompts round.answer
    have ranks : (requestNewPrompts config round.answer validation).1.holdings config =
        (validationRound config round validation).1.holdings config +
          lostByRound config round := by
      rw [RolloutReplica.holdings, RolloutReplica.holdings, lostByRound, ← Finset.sum_add_distrib]
      refine Finset.sum_congr rfl fun rank _ => ?_
      have moved := (validated rank).2
      rw [← holdings_put, scatteredTo_promptsAndIsEnd idle] at moved
      exact moved.symm
    rw [Balanced, ranks, add_assoc, add_comm _ lost] at moved
    exact moved

theorem validationLoop_spec {rounds : List ValidationRound} {validation : RolloutReplica}
    {lost : Multiset RLPayload} (idle : Idle validation)
    (balanced : Balanced config validation lost) :
    Idle (validationLoop config rounds validation) ∧
      ∃ later, Balanced config (validationLoop config rounds validation) (lost + later) ∧
        (later = 0 ↔ RoundsSucceed config rounds) := by
  induction rounds generalizing validation lost with
  | nil => exact ⟨idle, 0, by rwa [add_zero], iff_of_true rfl trivial⟩
  | cons round rest ih =>
    obtain ⟨idleAfter, ends, balancedAfter⟩ := validationRound_spec idle balanced round
    rw [validationLoop, ends, RoundsSucceed, ← lostByRound_eq_zero_iff]
    split
    next isEnd =>
      refine ⟨idleAfter, _, balancedAfter, (and_iff_left fun notEnd => ?_).symm⟩
      rw [isEnd] at notEnd
      cases notEnd
    next goesOn =>
      obtain ⟨idleLater, later, balancedLater, succeeds⟩ := ih idleAfter balancedAfter
      refine ⟨idleLater, lostByRound config round + later, by rwa [← add_assoc], ?_⟩
      rw [add_eq_zero, succeeds]
      refine and_congr_right fun _ => ?_
      exact ⟨fun succeeds _ => succeeds,
        fun succeeds => succeeds (Bool.eq_false_of_not_eq_true goesOn)⟩

theorem drained_reportAll {replica : RolloutReplica} (idle : Idle replica) :
    Drained config replica.reportAll :=
  fun rank _ => ⟨idle rank, drop_length⟩

theorem balanced_start : Balanced config {} 0 := by
  have nothing : ∑ rank ∈ Finset.range config.dpSize,
      (({} : RolloutReplica).ranks rank).holdings = 0 :=
    Finset.sum_eq_zero fun _ _ => rfl
  rw [Balanced, RolloutReplica.holdings, nothing]
  rfl

theorem reportsAll_doValidation_iff {rounds : List ValidationRound} :
    ReportsAll config (doValidation config rounds) ↔ RoundsSucceed config rounds := by
  obtain ⟨idle, later, balanced, succeeds⟩ :=
    @validationLoop_spec config rounds {} 0 (fun _ => rfl) balanced_start
  have reported := balanced.report fun rank =>
    ((validationLoop config rounds {}).ranks rank).rewardQueue.length
  rw [← succeeds, doValidation]
  rw [zero_add] at reported
  exact Balanced.reportsAll_iff reported (drained_reportAll idle)

end Validating

section Runs

variable {worker : SyncWorker} {lost : Multiset RLPayload} {event : SyncEvent}

def SyncEvent.finished (config : RolloutConfig) : SyncEvent → List RolloutReplica
  | .train _ => []
  | .validate rounds => [doValidation config rounds]

theorem validations_apply (event : SyncEvent) :
    (event.apply config worker).validations = worker.validations ++ event.finished config := by
  cases event with
  | train event => exact (append_nil _).symm
  | validate rounds => rfl

/-- No generation of a step fails exactly if it loses no training prompt and the validation
that it finishes is reported. -/
theorem balanced_step
    (balanced : Balanced config worker.replica lost) (synchronous : event.IsSynchronous) :
    ∃ later, Balanced config (event.apply config worker).replica (lost + later) ∧
      (GenerationsSucceed config worker event ↔
        later = 0 ∧ ∀ validation ∈ event.finished config, ReportsAll config validation) := by
  cases event with
  | validate rounds =>
    refine ⟨0, ?_, ?_⟩
    · rw [add_zero]
      exact balanced.report _
    · rw [GenerationsSucceed, ← reportsAll_doValidation_iff, SyncEvent.finished,
        forall_mem_singleton]
      exact (and_iff_right rfl).symm
  | train event =>
    cases event with
    | feed answer => exact absurd synchronous id
    | synced version =>
      refine ⟨0, ?_, iff_of_true trivial ⟨rfl, nofun⟩⟩
      rw [add_zero]
      exact balanced
    | report rewarded =>
      refine ⟨0, ?_, iff_of_true trivial ⟨rfl, nofun⟩⟩
      rw [add_zero]
      exact balanced.report rewarded
    | iterate answer results =>
      refine ⟨_, balanced.iterate answer results, ?_⟩
      rw [← lostByIteration_eq_zero_iff]
      exact (and_iff_left nofun).symm

structure LostNothing (config : RolloutConfig) (worker : SyncWorker) : Prop where
  balanced : Balanced config worker.replica 0
  validation : ∀ validation ∈ worker.validations, ReportsAll config validation

theorem LostNothing.losesNoPrompt (lostNothing : LostNothing config worker) :
    LosesNoPrompt config worker where
  training := fun drained => (lostNothing.balanced.reportsAll_iff drained).mpr rfl
  validation := lostNothing.validation

theorem lostNothing_start : LostNothing config {} := by
  exact ⟨balanced_start, nofun⟩

theorem LostNothing.step (lostNothing : LostNothing config worker)
    (synchronous : event.IsSynchronous) (succeeds : GenerationsSucceed config worker event) :
    LostNothing config (event.apply config worker) := by
  obtain ⟨later, balanced, exactly⟩ := balanced_step lostNothing.balanced synchronous
  obtain ⟨nothing, reported⟩ := exactly.mp succeeds
  refine ⟨?_, ?_⟩
  · rw [nothing, add_zero] at balanced
    exact balanced
  · rw [validations_apply, forall_mem_append]
    exact ⟨lostNothing.validation, reported⟩

/-- What was lost stays lost: a drained worker that has reported everything never lost a
prompt. -/
theorem stepsMeet_of_losesNoPrompt {events : List SyncEvent}
    (balanced : Balanced config worker.replica lost)
    (isRun : (syncSystem config).IsRun worker events)
    (drained : Drained config ((syncSystem config).after worker events).replica)
    (kept : LosesNoPrompt config ((syncSystem config).after worker events)) :
    lost = 0 ∧ (∀ validation ∈ worker.validations, ReportsAll config validation) ∧
      (syncSystem config).StepsMeet (GenerationsSucceed config) worker events := by
  induction events generalizing worker lost with
  | nil =>
    exact ⟨(balanced.reportsAll_iff drained).mp (kept.training drained), kept.validation, trivial⟩
  | cons event rest ih =>
    obtain ⟨later, after, exactly⟩ := balanced_step balanced isRun.1.2
    obtain ⟨nothing, reported, succeed⟩ := ih after isRun.2 drained kept
    obtain ⟨lostNothing, laterNothing⟩ := add_eq_zero.mp nothing
    have validations : ∀ validation ∈ (event.apply config worker).validations,
        ReportsAll config validation := reported
    rw [validations_apply, forall_mem_append] at validations
    exact ⟨lostNothing, validations.1, exactly.mpr ⟨laterNothing, validations.2⟩, succeed⟩

/-- In every run without a failed generation no prompt is lost in any state, and a run that ends
with a drained worker has lost none only if no generation failed. -/
theorem losesNoPrompt_iff_generationsSucceed (config : RolloutConfig) (events : List SyncEvent)
    (isRun : (syncSystem config).IsRun {} events) :
    ((syncSystem config).StepsMeet (GenerationsSucceed config) {} events →
      (syncSystem config).Throughout (LosesNoPrompt config) {} events) ∧
    (Drained config ((syncSystem config).after {} events).replica →
      ((syncSystem config).Throughout (LosesNoPrompt config) {} events ↔
        (syncSystem config).StepsMeet (GenerationsSucceed config) {} events)) := by
  have start : LostNothing config {} := lostNothing_start
  have keeps : (syncSystem config).StepsMeet (GenerationsSucceed config) {} events →
      (syncSystem config).Throughout (LosesNoPrompt config) {} events := by
    intro succeed
    have lostNothing : (syncSystem config).Throughout (LostNothing config) {} events :=
      EventSystem.throughout_of_stepsMeet
        (fun worker event lostNothing allowed succeeds => lostNothing.step allowed.2 succeeds)
        start isRun succeed
    exact lostNothing.mono fun _ lostNothing => lostNothing.losesNoPrompt
  refine ⟨keeps, fun drained => ⟨fun kept => ?_, keeps⟩⟩
  exact (stepsMeet_of_losesNoPrompt start.balanced isRun drained kept.finish).2.2

/-- A prompt is fetched, generated with these results and reported; then a prompt is
validated with as many results. -/
def generateThenValidate (results : List Bool) : List SyncEvent :=
  [.train (.iterate ([⟨0, 0⟩], false) fun _ => results), .train (.report fun _ => 1),
    .validate [⟨([⟨0, 0⟩], true), fun _ => results.length⟩]]

theorem isRun_generateThenValidate {results : List Bool} (atMostOne : results.length ≤ 1) :
    (syncSystem oneRank).IsRun {} (generateThenValidate results) := by
  refine ⟨⟨rfl, trivial⟩, ⟨?_, trivial⟩, ⟨?_, _, mem_cons_self, rfl⟩, trivial⟩
  · rcases results with _ | ⟨kept, _ | ⟨other, rest⟩⟩
    · rfl
    · rfl
    · exact absurd atMostOne (by simp)
  · rcases results with _ | ⟨kept, _ | ⟨other, rest⟩⟩
    · rfl
    · rfl
    · exact absurd atMostOne (by simp)

theorem losesNoPrompt_succeeding :
    (syncSystem oneRank).Throughout (LosesNoPrompt oneRank) {} (generateThenValidate [true]) := by
  refine (losesNoPrompt_iff_generationsSucceed oneRank (generateThenValidate [true])
    (isRun_generateThenValidate le_rfl)).1 ⟨?_, trivial, ⟨?_, fun _ => trivial⟩, trivial⟩
  · intro requested isRequested rank isRank _
    cases isRequested
    exact ⟨rfl, fun kept isKept => mem_singleton.mp isKept⟩
  · exact fun rank isRank batch isBatch _ => Nat.one_ne_zero

/-- A prompt whose generation fails is neither reported nor fetched again. -/
theorem not_losesNoPrompt_failing :
    (syncSystem oneRank).IsRun {} (generateThenValidate []) ∧
      ¬ (syncSystem oneRank).Throughout (LosesNoPrompt oneRank) {} (generateThenValidate []) := by
  refine ⟨isRun_generateThenValidate (Nat.zero_le 1), fun kept => ?_⟩
  have training := kept.finish.training fun rank isRank => by
    rw [Nat.lt_one_iff.mp isRank]
    exact ⟨rfl, rfl⟩
  have reported := training.length_eq
  cases reported

end Runs

end CosmosRl.Rollout
