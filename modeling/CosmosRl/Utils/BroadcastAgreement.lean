import Mathlib.Algebra.Order.BigOperators.Group.Finset
import Mathlib.Data.Fintype.EquivFin
import Mathlib.Data.Fintype.Lattice
import CosmosRl.Foundation.Completion
import CosmosRl.Utils.BroadcastRounds

/-!
Agreement and completion of `DistKVStore.broadcast_command`.

Without exceptions some rank can always act until every command has reached every
rank, and each action moves a rank on.  A rank whose attempt raised once never
leaves that call again, because the flag that keeps `finally` from ending it is
only cleared by the next call.
-/

namespace CosmosRl.Utils

open CosmosRl.Foundation BroadcastState List

universe u

variable {Command : Type u} {worldSize : Nat}

namespace BroadcastState

def Delivered (state : BroadcastState Command worldSize) : Prop :=
  ∀ rank, (state.ranks rank).returned = state.commands.map some

def remaining (state : BroadcastState Command worldSize) : Nat :=
  ∑ rank, (6 * state.commands.length + 1 - (state.ranks rank).position)

end BroadcastState

variable {src rank : Fin worldSize} {state : BroadcastState Command worldSize}
  {events : List (BroadcastEvent Command worldSize)} {event : BroadcastEvent Command worldSize}

section

variable (inRound : InRound src state)

include inRound

theorem InRound.position_le (rank : Fin worldSize) :
    (state.ranks rank).position ≤ 6 * state.commands.length + 1 := by
  have bounded := (inRound.rank rank).bounded
  by_cases late : 2 ≤ (state.ranks rank).phase.stage
  · have published := inRound.published_lt (inRound.published (state.ranks rank).counter rank
      (by rw [DistKVStore.position]; omega))
    have stage := (state.ranks rank).phase.stage_le
    rw [DistKVStore.position]
    omega
  · rw [DistKVStore.position]
    omega

theorem InRound.position_lt (several : worldSize ≠ 1) (rank : Fin worldSize) :
    (state.ranks rank).position < (rankAfter src state rank).position := by
  have here := inRound.rank rank
  unfold rankAfter
  cases phase : (state.ranks rank).phase
  case raised => exact absurd phase here.running
  case idle =>
    have isSource := here.source (.inl phase)
    subst isSource
    simp [DistKVStore.position, phase, several, attempt, BroadcastPhase.stage]
  case cleanUp =>
    simp only [DistKVStore.position, phase, BroadcastPhase.stage]
    omega
  all_goals simp [DistKVStore.position, phase, here.quiet, BroadcastPhase.stage]

theorem InRound.remaining_lt (several : worldSize ≠ 1)
    (canAct : state.canAct rank) : (act src state rank).remaining < state.remaining := by
  have moved := inRound.position_lt several rank
  have bounded := (inRound.afterAct several canAct).position_le rank
  have now : (act src state rank).ranks rank = rankAfter src state rank := setRank_self state rank _
  apply Finset.sum_lt_sum
  · intro other _
    by_cases same : other = rank
    · subst same
      rw [now]
      exact Nat.sub_le_sub_left (Nat.le_of_lt moved) _
    · have kept : (act src state rank).ranks other = state.ranks other := setRank_of_ne state _ same
      rw [kept]
      exact Nat.le_refl _
  · refine ⟨rank, Finset.mem_univ rank, ?_⟩
    rw [now] at bounded ⊢
    exact Nat.sub_lt_sub_left (Nat.lt_of_lt_of_le moved bounded) moved

/-- A rank that is not ahead of any other can act, unless it waits for a command
that has not been handed in. -/
theorem InRound.canAct_of_last
    (last : ∀ other, (state.ranks rank).position ≤ (state.ranks other).position)
    (unfinished : (state.ranks rank).counter < state.commands.length) :
    state.canAct rank ∨ state.canAct src := by
  have here := inRound.rank rank
  have behind : (state.ranks src).position < 6 * ((state.ranks rank).counter + 2) := by
    by_contra ended
    have others := inRound.together ((state.ranks rank).counter + 1) src rank (by omega)
    have stage := (state.ranks rank).phase.stage_le
    rw [DistKVStore.position] at others
    omega
  have present : 6 * (state.ranks rank).counter + 2 ≤ (state.ranks src).position →
      (state.localStore.key (state.ranks rank).counter).isSome = true := by
    intro set
    rw [inRound.key, keyAt_eq_of_between set behind, getElem?_eq_getElem unfinished]
    rfl
  cases phase : (state.ranks rank).phase
  case raised => exact absurd phase here.running
  case idle =>
    refine .inl ?_
    simp [canAct, phase, nextCommand, here.returned, Nat.min_eq_left here.bounded, unfinished]
  case waitKey =>
    by_cases set : 6 * (state.ranks rank).counter + 2 ≤ (state.ranks src).position
    · refine .inl ?_
      simp only [canAct, phase]
      exact present set
    · refine .inr ?_
      have level := last src
      have stage := (state.ranks src).phase.stage_le
      rw [DistKVStore.position_eq phase, BroadcastPhase.stage] at level
      rw [DistKVStore.position] at level set
      have publishing : (state.ranks src).phase.stage = 1 := by omega
      cases sourcePhase : (state.ranks src).phase <;>
        simp only [sourcePhase, BroadcastPhase.stage] at publishing
      case setKey => simp only [canAct, sourcePhase]
      case waitKey => exact absurd rfl ((inRound.rank src).waiting sourcePhase)
      all_goals omega
  case getKey =>
    refine .inl ?_
    simp only [canAct, phase]
    apply present
    apply inRound.published
    rw [DistKVStore.position_eq phase, BroadcastPhase.stage]
  case waitDones =>
    refine .inl ?_
    simp only [canAct, phase]
    intro other
    rw [inRound.marks]
    have level := last other
    rw [DistKVStore.position_eq phase, BroadcastPhase.stage] at level
    exact decide_eq_true ⟨level, behind⟩
  all_goals
    refine .inl ?_
    simp only [canAct, phase]

theorem InRound.exists_canAct (undelivered : ¬ state.Delivered) : ∃ rank, state.canAct rank := by
  have : Nonempty (Fin worldSize) := ⟨src⟩
  obtain ⟨rank, last⟩ := Finite.exists_min fun rank => (state.ranks rank).position
  by_cases unfinished : (state.ranks rank).counter < state.commands.length
  · rcases inRound.canAct_of_last last unfinished with here | source
    · exact ⟨rank, here⟩
    · exact ⟨src, source⟩
  · refine absurd ?_ undelivered
    intro other
    have level := last other
    have bounded := inRound.position_le other
    have stage := (state.ranks other).phase.stage_le
    simp only [DistKVStore.position] at level bounded
    have all : (state.ranks other).counter = state.commands.length := by omega
    rw [(inRound.rank other).returned, all, take_length]

/-- From a state reached without exceptions every call returns, whatever the order
in which the ranks act. -/
theorem InRound.completes (several : worldSize ≠ 1) :
    (broadcastSystem Command src).Completes BroadcastEvent.IsAct Delivered state := by
  apply EventSystem.completes_of_measure remaining _ _ _ inRound
  · intro state event inRound own allowed
    cases event with
    | act rank => exact inRound.afterAct several allowed
    | command command => exact absurd own id
    | fault rank applied => exact absurd own id
  · intro state event inRound own allowed
    cases event with
    | act rank => exact inRound.remaining_lt several allowed
    | command command => exact absurd own id
    | fault rank applied => exact absurd own id
  · intro state inRound undelivered
    obtain ⟨rank, canAct⟩ := inRound.exists_canAct undelivered
    exact ⟨.act rank, trivial, canAct⟩

theorem InRound.run (several : worldSize ≠ 1)
    (run : (broadcastSystem Command src).IsInternalRun BroadcastEvent.IsQuiet state events) :
    InRound src ((broadcastSystem Command src).after state events) := by
  refine run.keeps (InRound src) ?_ inRound
  intro state event inRound quiet allowed
  cases event with
  | command command => exact inRound.afterCommand command
  | act rank => exact inRound.afterAct several allowed
  | fault rank applied => exact absurd quiet id

end

def DistKVStore.Failed (kvStore : DistKVStore Command) : Prop :=
  kvStore.phase = .raised ∨
    kvStore.errorRaised = true ∧ kvStore.phase ≠ .idle ∧ kvStore.phase ≠ .cleanUp

theorem attempt_ne (src rank : Fin worldSize) :
    attempt src rank ≠ .idle ∧ attempt src rank ≠ .cleanUp := by
  unfold attempt
  split <;> simp

theorem DistKVStore.Failed.rankAfter (failed : (state.ranks rank).Failed) :
    (rankAfter src state rank).Failed ∧
      (rankAfter src state rank).returned = (state.ranks rank).returned := by
  rcases failed with raised | ⟨error, notIdle, notCleanUp⟩
  · simp [BroadcastState.rankAfter, raised, DistKVStore.Failed]
  · have next := attempt_ne src rank
    unfold BroadcastState.rankAfter
    cases phase : (state.ranks rank).phase
    case idle => exact absurd phase notIdle
    case cleanUp => exact absurd phase notCleanUp
    all_goals simp [DistKVStore.Failed, phase, error, next]

theorem rankAfterFault_failed (src : Fin worldSize) (state : BroadcastState Command worldSize)
    (rank : Fin worldSize) :
    (rankAfterFault src state rank).Failed ∧
      (rankAfterFault src state rank).returned = (state.ranks rank).returned := by
  have next := attempt_ne src rank
  by_cases phase : (state.ranks rank).phase = .cleanUp <;>
    simp [rankAfterFault, DistKVStore.Failed, phase, next]

/-- Whatever happens later, a failed call does not return. -/
theorem DistKVStore.Failed.handle (failed : (state.ranks rank).Failed) (src : Fin worldSize)
    (event : BroadcastEvent Command worldSize) :
    ((BroadcastState.handle src state event).ranks rank).Failed ∧
      ((BroadcastState.handle src state event).ranks rank).returned =
        (state.ranks rank).returned := by
  have moved : ∀ other kvStore, (other = rank → kvStore.Failed ∧
      kvStore.returned = (state.ranks rank).returned) →
      ((state.setRank other kvStore).ranks rank).Failed ∧
        ((state.setRank other kvStore).ranks rank).returned = (state.ranks rank).returned := by
    intro other kvStore kept
    by_cases same : rank = other
    · subst same
      rw [setRank_self]
      exact kept rfl
    · rw [setRank_of_ne state kvStore same]
      exact ⟨failed, rfl⟩
  cases event with
  | command command => exact ⟨failed, rfl⟩
  | act other =>
    apply moved other
    rintro rfl
    exact failed.rankAfter
  | fault other applied =>
    apply moved other
    rintro rfl
    exact rankAfterFault_failed src state other

theorem exists_failed
    (fault : (∃ rank, (state.ranks rank).Failed) ∨ ∃ event ∈ events, ¬ event.IsQuiet) :
    ∃ rank, (((broadcastSystem Command src).after state events).ranks rank).Failed := by
  induction events generalizing state with
  | nil =>
    rcases fault with failed | ⟨event, membership, -⟩
    · exact failed
    · simp at membership
  | cons event rest ih =>
    apply ih
    rcases fault with ⟨rank, failed⟩ | ⟨loud, membership, notQuiet⟩
    · exact .inl ⟨rank, (failed.handle src event).1⟩
    · rcases mem_cons.mp membership with rfl | later
      · cases loud with
        | command command => exact absurd trivial notQuiet
        | act rank => exact absurd trivial notQuiet
        | fault rank applied =>
          refine .inl ⟨rank, ?_⟩
          have now := setRank_self state rank (rankAfterFault src state rank)
          exact (congrArg DistKVStore.Failed now).mpr (rankAfterFault_failed src state rank).1
      · exact .inr ⟨loud, later, notQuiet⟩

def Alone (state : BroadcastState Command worldSize) : Prop :=
  ∀ rank, (state.ranks rank).phase = .idle ∧ (state.ranks rank).counter = 0

theorem Alone.handle (alone : Alone state) (single : worldSize = 1)
    (allowed : (broadcastSystem Command src).Allowed state event) :
    Alone (BroadcastState.handle src state event) := by
  intro rank
  cases event with
  | command command => exact alone rank
  | act other =>
    by_cases same : rank = other
    · subst same
      have now : (act src state rank).ranks rank = rankAfter src state rank :=
        setRank_self state rank _
      have here := alone rank
      rw [BroadcastState.handle, now, rankAfter]
      simp [here.1, here.2, single]
    · have kept : (act src state other).ranks rank = state.ranks rank := setRank_of_ne state _ same
      rw [BroadcastState.handle, kept]
      exact alone rank
  | fault other applied =>
    have impossible : state.canFault src other := allowed
    simp [canFault, (alone other).1] at impossible

namespace BroadcastState

/-- Every rank's finished calls returned the first commands of the source, in order,
and its counter is their number. -/
def CallsAgree (state : BroadcastState Command worldSize) : Prop :=
  ∀ rank, (state.ranks rank).counter = (state.ranks rank).returned.length ∧
    (state.ranks rank).returned <+: state.commands.map some

def BroadcastAgrees (src : Fin worldSize) (state : BroadcastState Command worldSize) : Prop :=
  ∀ events, (broadcastSystem Command src).IsInternalRun BroadcastEvent.IsQuiet state events →
    CallsAgree ((broadcastSystem Command src).after state events) ∧
      (broadcastSystem Command src).Completes BroadcastEvent.IsAct Delivered
        ((broadcastSystem Command src).after state events)

end BroadcastState

theorem InRound.callsAgree (inRound : InRound src state) : state.CallsAgree := by
  intro rank
  have here := inRound.rank rank
  have bounded := here.bounded
  constructor
  · rw [here.returned, length_map, length_take]
    omega
  · rw [here.returned, map_take]
    exact take_prefix _ _

theorem BroadcastEvent.IsAct.isQuiet (isAct : event.IsAct) : event.IsQuiet := by
  cases event with
  | act rank => trivial
  | command command => trivial
  | fault rank applied => exact isAct

theorem BroadcastState.BroadcastAgrees.delivers (agrees : state.BroadcastAgrees src)
    (run : (broadcastSystem Command src).IsInternalRun BroadcastEvent.IsQuiet state events) :
    ∃ acts, (broadcastSystem Command src).IsInternalRun BroadcastEvent.IsAct
        ((broadcastSystem Command src).after state events) acts ∧
      Delivered ((broadcastSystem Command src).after state (events ++ acts)) ∧
      CallsAgree ((broadcastSystem Command src).after state (events ++ acts)) := by
  obtain ⟨acts, actsRun, delivered⟩ := (agrees events run).2.exists_goal
  refine ⟨acts, actsRun, ?_, ?_⟩
  · rw [EventSystem.after_append]
    exact delivered
  · exact (agrees _ (run.append (actsRun.mono fun _ => BroadcastEvent.IsAct.isQuiet))).1

theorem hand_commands (src : Fin worldSize) (state : BroadcastState Command worldSize)
    (command : Command) (count : Nat) :
    (broadcastSystem Command src).IsInternalRun BroadcastEvent.IsQuiet state
        (List.replicate count (.command command)) ∧
      ((broadcastSystem Command src).after state
        (List.replicate count (.command command))).ranks = state.ranks ∧
      ((broadcastSystem Command src).after state
        (List.replicate count (.command command))).commands.length =
          state.commands.length + count := by
  induction count generalizing state with
  | zero => exact ⟨⟨trivial, by simp⟩, rfl, rfl⟩
  | succ count ih =>
    obtain ⟨run, ranks, length⟩ := ih (BroadcastState.handle src state (.command command))
    refine ⟨.cons trivial trivial run, ranks, length.trans ?_⟩
    simp only [BroadcastState.handle, length_append, length_singleton]
    omega

theorem not_broadcastAgrees_of_failed [Inhabited Command]
    (failed : (state.ranks rank).Failed) : ¬ state.BroadcastAgrees src := by
  intro agrees
  obtain ⟨run, ranks, length⟩ := hand_commands src state default
    ((state.ranks rank).returned.length + 1)
  obtain ⟨acts, actsRun, delivered, -⟩ := agrees.delivers run
  rw [EventSystem.after_append] at delivered
  have kept := actsRun.keeps
    (fun later => (later.ranks rank).Failed ∧
      (later.ranks rank).returned = (state.ranks rank).returned ∧
      (state.ranks rank).returned.length < later.commands.length)
    (by
      intro later event invariant own allowed
      obtain ⟨stillFailed, returned, longer⟩ := invariant
      obtain ⟨next, same⟩ := stillFailed.handle src event
      refine ⟨next, same.trans returned, ?_⟩
      cases event with
      | act other => exact longer
      | command command => exact absurd own id
      | fault other applied => exact absurd own id)
    (by
      rw [ranks, length]
      exact ⟨failed, rfl, by omega⟩)
  have all := congrArg List.length (delivered rank)
  rw [kept.2.1, length_map] at all
  exact absurd kept.2.2 (by omega)

theorem not_broadcastAgrees_of_alone [Inhabited Command] (single : worldSize = 1)
    (alone : Alone state) : ¬ state.BroadcastAgrees src := by
  intro agrees
  obtain ⟨run, ranks, length⟩ := hand_commands src state default 1
  obtain ⟨acts, actsRun, delivered, agree⟩ := agrees.delivers run
  rw [EventSystem.after_append] at delivered agree
  have handed : Alone ((broadcastSystem Command src).after state
      (List.replicate 1 (.command default))) := by
    intro rank
    rw [ranks]
    exact alone rank
  have kept := actsRun.keeps
    (fun later => Alone later ∧ 0 < later.commands.length)
    (by
      intro later event invariant own allowed
      refine ⟨invariant.1.handle single allowed, ?_⟩
      cases event with
      | act other => exact invariant.2
      | command command => exact absurd own id
      | fault other applied => exact absurd own id)
    ⟨handed, by omega⟩
  have counted := (agree src).1
  rw [(kept.1 src).2, delivered src, length_map] at counted
  exact absurd kept.2 (by omega)

/-- The broadcasts agree, count and return exactly in the runs of several ranks in
which no operation of the store raises. -/
theorem broadcastAgrees_iff [Inhabited Command] (src : Fin worldSize)
    (events : List (BroadcastEvent Command worldSize))
    (run : (broadcastSystem Command src).IsRun (BroadcastState.initial src) events) :
    BroadcastAgrees src
        ((broadcastSystem Command src).after (BroadcastState.initial src) events) ↔
      worldSize ≠ 1 ∧ ∀ event ∈ events, event.IsQuiet := by
  constructor
  · intro agrees
    constructor
    · intro single
      have alone : (broadcastSystem Command src).Throughout Alone
          (BroadcastState.initial src) events := by
        apply EventSystem.throughout_of_preserved _ _ run
        · intro state event alone allowed
          exact alone.handle single allowed
        · intro rank
          have isSource : rank = src := by omega
          simp [BroadcastState.initial, betweenCalls, isSource]
      exact not_broadcastAgrees_of_alone single alone.finish agrees
    · by_contra loud
      simp only [not_forall] at loud
      obtain ⟨event, membership, notQuiet⟩ := loud
      have left : ∃ rank, (((broadcastSystem Command src).after (BroadcastState.initial src)
          events).ranks rank).Failed := exists_failed (.inr ⟨event, membership, notQuiet⟩)
      obtain ⟨rank, failed⟩ := left
      exact not_broadcastAgrees_of_failed failed agrees
  · rintro ⟨several, quiet⟩ later laterRun
    have inRound := ((InRound.initial src).run several ⟨run, quiet⟩).run several laterRun
    exact ⟨inRound.callsAgree, inRound.completes several⟩

/-- Two ranks in the middle of their first broadcast. -/
theorem broadcastAgrees_iff_firstCommand :
    BroadcastAgrees (0 : Fin 2)
        ((broadcastSystem Nat (0 : Fin 2)).after (BroadcastState.initial 0)
          [.command 7, .act 0, .act 0, .act 1, .act 1]) ↔
      2 ≠ 1 ∧ ∀ event ∈
        ([.command 7, .act 0, .act 0, .act 1, .act 1] : List (BroadcastEvent Nat 2)),
        event.IsQuiet :=
  broadcastAgrees_iff 0 [.command 7, .act 0, .act 0, .act 1, .act 1] (by decide)

/-- The second rank of a replica waits in vain for a first command until its wait
raises.  Then the command comes: no run without further exceptions completes it. -/
theorem not_broadcastAgrees_timedOutWait :
    (broadcastSystem Nat (0 : Fin 2)).IsRun (BroadcastState.initial 0)
        [.fault 1 false, .command 7] ∧
      ¬ BroadcastAgrees (0 : Fin 2)
        ((broadcastSystem Nat (0 : Fin 2)).after (BroadcastState.initial 0)
          [.fault 1 false, .command 7]) := by
  refine ⟨by decide, ?_⟩
  have left : (((broadcastSystem Nat (0 : Fin 2)).after (BroadcastState.initial 0)
      [.fault 1 false, .command 7]).ranks 1).Failed := by
    refine .inr ⟨rfl, ?_⟩
    exact attempt_ne (0 : Fin 2) 1
  exact not_broadcastAgrees_of_failed left

end CosmosRl.Utils
