import CosmosRl.Utils.DistKVStore

/-!
The rounds of `DistKVStore.broadcast_command` without exceptions.

As long as nothing raises, the whole state is a function of how far each rank has
got: a key exists from the moment the source has set it until the source ends the
next round, a mark from the moment its rank has set it until then, and no rank
ends a round before all ranks have marked it.
-/

namespace CosmosRl.Utils

open List

open CosmosRl.Foundation

universe u

variable {Command : Type u} {worldSize : Nat}

def BroadcastPhase.stage : BroadcastPhase → Nat
  | .idle | .raised => 0
  | .setKey | .waitKey => 1
  | .getKey => 2
  | .setDone => 3
  | .waitDones => 4
  | .cleanUp => 5

def DistKVStore.position (kvStore : DistKVStore Command) : Nat :=
  6 * kvStore.counter + kvStore.phase.stage

/-- The key of a round exists from the source's `set` to the end of the next round. -/
def keyAt (commands : List Command) (source : Nat) (round : Nat) : Option Command :=
  if 6 * round + 2 ≤ source ∧ source < 6 * (round + 2) then commands[round]? else none

/-- The mark of a rank exists from its own `set` to the end of the next round. -/
def markAt (source position : Nat) (round : Nat) : Bool :=
  decide (6 * round + 4 ≤ position ∧ source < 6 * (round + 2))

variable {commands : List Command} {source round : Nat} {src rank : Fin worldSize}
  {state : BroadcastState Command worldSize} {kvStore : DistKVStore Command}

theorem keyAt_eq_of_between (set : 6 * round + 2 ≤ source) (kept : source < 6 * (round + 2)) :
    keyAt commands source round = commands[round]? :=
  if_pos ⟨set, kept⟩

theorem set_of_keyAt_isSome (present : (keyAt commands source round).isSome = true) :
    6 * round + 2 ≤ source := by
  by_contra unset
  have absent : keyAt commands source round = none := if_neg fun both => unset both.1
  simp [absent] at present

structure RankInRound (src : Fin worldSize) (commands : List Command)
    (rank : Fin worldSize) (kvStore : DistKVStore Command) : Prop where
  running : kvStore.phase ≠ .raised
  source : kvStore.phase = .idle ∨ kvStore.phase = .setKey → rank = src
  waiting : kvStore.phase = .waitKey → rank ≠ src
  quiet : kvStore.errorRaised = false
  returned : kvStore.returned = (commands.take kvStore.counter).map some
  bounded : kvStore.counter ≤ commands.length
  started : rank = src → kvStore.phase ≠ .idle → kvStore.counter < commands.length
  argument : kvStore.phase = .setKey → kvStore.command = commands[kvStore.counter]?
  read : 3 ≤ kvStore.phase.stage → kvStore.cmd = commands[kvStore.counter]?

structure InRound (src : Fin worldSize) (state : BroadcastState Command worldSize) : Prop where
  rank : ∀ rank, RankInRound src state.commands rank (state.ranks rank)
  key : ∀ round, state.localStore.key round =
    keyAt state.commands (state.ranks src).position round
  marks : ∀ round rank, state.localStore.keyDones round rank =
    markAt (state.ranks src).position (state.ranks rank).position round
  together : ∀ round ahead behind, 6 * round + 5 ≤ (state.ranks ahead).position →
    6 * round + 4 ≤ (state.ranks behind).position
  published : ∀ round rank, 6 * round + 2 ≤ (state.ranks rank).position →
    6 * round + 2 ≤ (state.ranks src).position

namespace BroadcastState

section

variable (state : BroadcastState Command worldSize)

@[simp]
theorem setRank_commands (rank : Fin worldSize) (kvStore : DistKVStore Command) :
    (state.setRank rank kvStore).commands = state.commands := rfl

@[simp]
theorem setRank_self (rank : Fin worldSize) (kvStore : DistKVStore Command) :
    (state.setRank rank kvStore).ranks rank = kvStore := by
  simp [setRank]

theorem setRank_of_ne {rank other : Fin worldSize}
    (kvStore : DistKVStore Command) (different : other ≠ rank) :
    (state.setRank rank kvStore).ranks other = state.ranks other := by
  simp [setRank, different]

end

end BroadcastState

open BroadcastState

/-- A rank that moves on keeps the invariant when it crosses the thresholds of its
round only together with the others. -/
theorem InRound.moved (inRound : InRound src state)
    {store : LocalStore Command worldSize} (before now : Nat)
    (was : (state.ranks rank).position = before) (is : kvStore.position = now)
    (rankInRound : RankInRound src state.commands rank kvStore) (forward : before ≤ now)
    (finished : ∀ round, 6 * round + 5 ≤ now → 6 * round + 5 ≤ before ∨
      ∀ other, 6 * round + 4 ≤ (state.ranks other).position)
    (entered : ∀ round, rank ≠ src → 6 * round + 2 ≤ now →
      6 * round + 2 ≤ (state.ranks src).position)
    (key : ∀ round, store.key round = keyAt state.commands
      (if src = rank then now else (state.ranks src).position) round)
    (marks : ∀ round other, store.keyDones round other =
      markAt (if src = rank then now else (state.ranks src).position)
        (if other = rank then now else (state.ranks other).position) round) :
    InRound src { state.setRank rank kvStore with localStore := store } := by
  subst was is
  have moved : ∀ other, ((state.setRank rank kvStore).ranks other).position =
      if other = rank then kvStore.position else (state.ranks other).position := by
    intro other
    by_cases same : other = rank
    · subst same
      simp
    · simp [setRank_of_ne state kvStore same, same]
  have position : ∀ other, (state.ranks other).position ≤
      ((state.setRank rank kvStore).ranks other).position := by
    intro other
    rw [moved]
    by_cases same : other = rank
    · subst same
      simpa using forward
    · simp [same]
  refine ⟨?_, ?_, ?_, ?_, ?_⟩
  · intro other
    by_cases same : other = rank
    · subst same
      simpa using rankInRound
    · simpa [setRank_of_ne state kvStore same] using inRound.rank other
  · intro round
    exact (key round).trans (by rw [← moved]; rfl)
  · intro round other
    exact (marks round other).trans (by rw [← moved, ← moved])
  · intro round ahead behind reached
    refine Nat.le_trans ?_ (position behind)
    by_cases same : ahead = rank
    · subst same
      rcases finished round (by simpa using reached) with before | all
      · exact inRound.together round ahead behind before
      · exact all behind
    · refine inRound.together round ahead behind ?_
      simpa [setRank_of_ne state kvStore same] using reached
  · intro round other reached
    by_cases same : other = rank
    · subst same
      by_cases isSource : other = src
      · subst isSource
        exact reached
      · exact Nat.le_trans (entered round isSource (by simpa using reached)) (position src)
    · refine Nat.le_trans (inRound.published round other ?_) (position src)
      simpa [setRank_of_ne state kvStore same] using reached

theorem keyAt_congr {source' : Nat} (set : 6 * round + 2 ≤ source ↔ 6 * round + 2 ≤ source')
    (kept : source < 6 * (round + 2) ↔ source' < 6 * (round + 2)) :
    keyAt commands source round = keyAt commands source' round := by
  simp only [keyAt, set, kept]

theorem markAt_congr {source' position position' : Nat}
    (set : 6 * round + 4 ≤ position ↔ 6 * round + 4 ≤ position')
    (kept : source < 6 * (round + 2) ↔ source' < 6 * (round + 2)) :
    markAt source position round = markAt source' position' round := by
  simp only [markAt, set, kept]

/-- A rank may move on without touching the store when it crosses no threshold at
which a key or a mark appears or goes. -/
theorem InRound.movedSilently (inRound : InRound src state)
    (before now : Nat) (was : (state.ranks rank).position = before) (is : kvStore.position = now)
    (rankInRound : RankInRound src state.commands rank kvStore) (forward : before ≤ now)
    (finished : ∀ round, 6 * round + 5 ≤ now → 6 * round + 5 ≤ before ∨
      ∀ other, 6 * round + 4 ≤ (state.ranks other).position)
    (entered : ∀ round, rank ≠ src → 6 * round + 2 ≤ now →
      6 * round + 2 ≤ (state.ranks src).position) (unseen : ∀ round, rank = src →
      (6 * round + 2 ≤ before ↔ 6 * round + 2 ≤ now) ∧
      (before < 6 * (round + 2) ↔ now < 6 * (round + 2)))
    (unmarked : ∀ round, 6 * round + 4 ≤ before ↔ 6 * round + 4 ≤ now) :
    InRound src (state.setRank rank kvStore) := by
  apply inRound.moved before now was is rankInRound forward finished entered
  · intro round
    rw [inRound.key round]
    by_cases isSource : src = rank
    · subst isSource
      rw [if_pos rfl, was]
      exact keyAt_congr (unseen round rfl).1 (unseen round rfl).2
    · rw [if_neg isSource]
  · intro round other
    rw [inRound.marks round other]
    apply markAt_congr
    · by_cases same : other = rank
      · subst same
        rw [if_pos rfl, was]
        exact unmarked round
      · rw [if_neg same]
    · by_cases isSource : src = rank
      · subst isSource
        rw [if_pos rfl, was]
        exact (unseen round rfl).2
      · rw [if_neg isSource]

theorem InRound.key_eq (inRound : InRound src state)
    (present : (state.localStore.key (state.ranks rank).counter).isSome = true) :
    state.localStore.key (state.ranks rank).counter =
      state.commands[(state.ranks rank).counter]? := by
  rw [inRound.key] at present ⊢
  unfold keyAt at present ⊢
  split at present
  · rename_i between
    rw [if_pos between]
  · simp at present

theorem BroadcastPhase.stage_le (phase : BroadcastPhase) : phase.stage ≤ 5 := by
  cases phase <;> simp [stage]

theorem DistKVStore.position_eq {phase : BroadcastPhase} (atPhase : kvStore.phase = phase) :
    kvStore.position = 6 * kvStore.counter + phase.stage := by
  rw [DistKVStore.position, atPhase]

section

variable (inRound : InRound src state)

include inRound

theorem InRound.act_idle (several : worldSize ≠ 1)
    (phase : (state.ranks rank).phase = .idle) (next : (state.nextCommand rank).isSome = true) :
    InRound src (act src state rank) := by
  have here := inRound.rank rank
  have isSource : rank = src := here.source (.inl phase)
  subst isSource
  have nextIs : state.nextCommand rank = state.commands[(state.ranks rank).counter]? := by
    simp [nextCommand, here.returned, Nat.min_eq_left here.bounded]
  have started : (state.ranks rank).counter < state.commands.length := by
    rw [nextIs] at next
    simpa using next
  simp only [act, rankAfter, storeAfter, phase, several, if_false]
  apply inRound.movedSilently (6 * (state.ranks rank).counter)
    (6 * (state.ranks rank).counter + 1) (DistKVStore.position_eq phase)
  · simp [DistKVStore.position, attempt, BroadcastPhase.stage]
  · constructor <;>
      simp [attempt, here.returned, here.bounded, nextIs, started, BroadcastPhase.stage]
  all_goals
    try intro round
    omega

theorem InRound.act_setKey
    (phase : (state.ranks rank).phase = .setKey) : InRound src (act src state rank) := by
  have here := inRound.rank rank
  have isSource : rank = src := here.source (.inr phase)
  subst isSource
  have started := here.started rfl (by simp [phase])
  have before : (state.ranks rank).position = 6 * (state.ranks rank).counter + 1 :=
    DistKVStore.position_eq phase
  simp only [act, rankAfter, storeAfter, phase]
  refine inRound.moved _ (6 * (state.ranks rank).counter + 2) before rfl
    ?_ (by omega) (by omega) (fun _ other => absurd rfl other) ?_ ?_
  · constructor <;>
      simp [here.quiet, here.returned, here.bounded, started, BroadcastPhase.stage]
  · intro round
    rw [if_pos rfl]
    by_cases this : round = (state.ranks rank).counter
    · subst this
      rw [keyAt_eq_of_between (by omega) (by omega), ← here.argument phase]
      simp [LocalStore.set]
    · have other : (state.localStore.set (state.ranks rank).counter
          (state.ranks rank).command).key round = state.localStore.key round := by
        simp [LocalStore.set, this]
      rw [other, inRound.key round, before]
      exact keyAt_congr (by omega) (by omega)
  · intro round other
    have same : (state.localStore.set (state.ranks rank).counter
        (state.ranks rank).command).keyDones round other =
        state.localStore.keyDones round other := rfl
    rw [same, inRound.marks round other, before, if_pos rfl]
    split
    · rename_i isRank
      rw [isRank, before]
      exact markAt_congr (by omega) (by omega)
    · exact markAt_congr Iff.rfl (by omega)

theorem InRound.act_waitKey (phase : (state.ranks rank).phase = .waitKey)
    (present : (state.localStore.key (state.ranks rank).counter).isSome = true) :
    InRound src (act src state rank) := by
  have here := inRound.rank rank
  have notSource := here.waiting phase
  have set : 6 * (state.ranks rank).counter + 2 ≤ (state.ranks src).position := by
    rw [inRound.key] at present
    exact set_of_keyAt_isSome present
  simp only [act, rankAfter, storeAfter, phase]
  refine inRound.movedSilently (6 * (state.ranks rank).counter + 1)
    (6 * (state.ranks rank).counter + 2) (DistKVStore.position_eq phase) rfl ?_ (by omega)
    (by omega) (by omega) (fun _ isSource => absurd isSource notSource) (by omega)
  constructor <;>
    simp [here.quiet, here.returned, here.bounded, notSource, BroadcastPhase.stage]

theorem InRound.act_getKey (phase : (state.ranks rank).phase = .getKey)
    (present : (state.localStore.key (state.ranks rank).counter).isSome = true) :
    InRound src (act src state rank) := by
  have here := inRound.rank rank
  have before : (state.ranks rank).position = 6 * (state.ranks rank).counter + 2 :=
    DistKVStore.position_eq phase
  have set := inRound.published (state.ranks rank).counter rank (by omega)
  have started := here.started
  simp only [act, rankAfter, storeAfter, phase]
  refine inRound.movedSilently _ (6 * (state.ranks rank).counter + 3) before rfl ?_ (by omega)
    (by omega) (by omega) (by omega) (by omega)
  constructor <;> simp [here.quiet, here.returned, here.bounded, inRound.key_eq present]
  intro isSource
  exact started isSource (by simp [phase])

/-- A rank marks the round as done. -/
theorem InRound.act_setDone
    (phase : (state.ranks rank).phase = .setDone) : InRound src (act src state rank) := by
  have here := inRound.rank rank
  have before : (state.ranks rank).position = 6 * (state.ranks rank).counter + 3 :=
    DistKVStore.position_eq phase
  have set := inRound.published (state.ranks rank).counter rank (by omega)
  have notOver : (state.ranks src).position < 6 * ((state.ranks rank).counter + 2) := by
    by_contra ended
    have behind := inRound.together ((state.ranks rank).counter + 1) src rank (by omega)
    omega
  simp only [act, rankAfter, storeAfter, phase]
  refine inRound.moved _ (6 * (state.ranks rank).counter + 4) before rfl
    ?_ (by omega) (by omega) (by omega) ?_ ?_
  · constructor <;>
      simp [here.quiet, here.returned, here.bounded, here.read, phase, BroadcastPhase.stage]
    intro isSource
    exact here.started isSource (by simp [phase])
  · intro round
    have same : (state.localStore.markDone (state.ranks rank).counter rank).key round =
        state.localStore.key round := rfl
    rw [same, inRound.key round]
    split
    · rename_i isSource
      subst isSource
      exact keyAt_congr (by omega) (by omega)
    · rfl
  · intro round other
    by_cases this : round = (state.ranks rank).counter ∧ other = rank
    · obtain ⟨rfl, rfl⟩ := this
      have marked : (state.localStore.markDone (state.ranks other).counter other).keyDones
          (state.ranks other).counter other = true := by
        simp [LocalStore.markDone]
      rw [marked, if_pos rfl]
      refine (decide_eq_true ⟨by omega, ?_⟩).symm
      split <;> omega
    · have unmarked : (state.localStore.markDone (state.ranks rank).counter rank).keyDones
          round other = state.localStore.keyDones round other := by
        unfold LocalStore.markDone
        by_cases thisRound : round = (state.ranks rank).counter
        · subst thisRound
          have notRank : other ≠ rank := fun same => this ⟨rfl, same⟩
          simp [notRank]
        · simp [thisRound]
      rw [unmarked, inRound.marks round other]
      apply markAt_congr
      · split
        · rename_i isRank
          subst isRank
          have notRound : round ≠ (state.ranks other).counter := fun same => this ⟨same, rfl⟩
          omega
        · exact Iff.rfl
      · split
        · rename_i isSource
          subst isSource
          omega
        · exact Iff.rfl

theorem InRound.act_waitDones (phase : (state.ranks rank).phase = .waitDones)
    (all : state.localStore.allDone (state.ranks rank).counter) :
    InRound src (act src state rank) := by
  have here := inRound.rank rank
  have before : (state.ranks rank).position = 6 * (state.ranks rank).counter + 4 :=
    DistKVStore.position_eq phase
  have set := inRound.published (state.ranks rank).counter rank (by omega)
  have marked : ∀ other, 6 * (state.ranks rank).counter + 4 ≤ (state.ranks other).position := by
    intro other
    have mark := all other
    rw [inRound.marks] at mark
    exact (of_decide_eq_true mark).1
  simp only [act, rankAfter, storeAfter, phase, here.quiet, Bool.false_eq_true, if_false]
  refine inRound.movedSilently _ (6 * (state.ranks rank).counter + 5) before rfl ?_ (by omega)
    ?_ (by omega) (by omega) (by omega)
  · constructor <;>
      simp [here.returned, here.bounded, here.read, phase, BroadcastPhase.stage]
    intro isSource
    exact here.started isSource (by simp [phase])
  · intro round reached
    by_cases this : round = (state.ranks rank).counter
    · subst this
      exact .inr marked
    · exact .inl (by omega)

theorem InRound.published_lt
    (published : 6 * round + 2 ≤ (state.ranks src).position) : round < state.commands.length := by
  have source := inRound.rank src
  have bounded := source.bounded
  by_cases phase : (state.ranks src).phase = .idle
  · rw [DistKVStore.position_eq phase, BroadcastPhase.stage] at published
    omega
  · have started := source.started rfl phase
    have stage := (state.ranks src).phase.stage_le
    rw [DistKVStore.position] at published
    omega

theorem InRound.rank_finished (phase : (state.ranks rank).phase = .cleanUp) :
    RankInRound src state.commands rank
      { state.ranks rank with
          counter := (state.ranks rank).counter + 1, phase := betweenCalls src rank
          command := none, errorRaised := false, cmd := none
          returned := (state.ranks rank).returned ++ [(state.ranks rank).cmd] } := by
  have here := inRound.rank rank
  have before := DistKVStore.position_eq phase
  have published := inRound.published_lt (inRound.published (state.ranks rank).counter rank
    (by rw [before, BroadcastPhase.stage]; omega))
  have read : (state.ranks rank).cmd = some state.commands[(state.ranks rank).counter] := by
    rw [here.read (by simp [phase, BroadcastPhase.stage]), getElem?_eq_getElem published]
  have extended : (state.ranks rank).returned ++ [(state.ranks rank).cmd] =
      (state.commands.take ((state.ranks rank).counter + 1)).map some := by
    rw [here.returned, read, take_add_one, getElem?_eq_getElem published, map_append]
    rfl
  by_cases isSource : rank = src
  · refine ⟨?_, fun _ => isSource, ?_, rfl, extended, published, ?_, ?_, ?_⟩ <;>
      simp [betweenCalls, isSource, BroadcastPhase.stage]
  · refine ⟨?_, ?_, fun _ => isSource, rfl, extended, published, fun same => absurd same isSource,
      ?_, ?_⟩ <;>
      simp [betweenCalls, isSource, BroadcastPhase.stage]

end

theorem deleteLast_key (store : LocalStore Command worldSize) (counter round : Nat) :
    (store.deleteLast counter).key round =
      if round + 1 = counter then none else store.key round := by
  cases counter with
  | zero => simp [LocalStore.deleteLast]
  | succ last =>
    by_cases same : round = last
    · subst same
      simp [LocalStore.deleteLast]
    · simp [LocalStore.deleteLast, same]

theorem deleteLast_keyDones (store : LocalStore Command worldSize) (counter round : Nat)
    (rank : Fin worldSize) :
    (store.deleteLast counter).keyDones round rank =
      if round + 1 = counter then false else store.keyDones round rank := by
  cases counter with
  | zero => simp [LocalStore.deleteLast]
  | succ last =>
    by_cases same : round = last
    · subst same
      simp [LocalStore.deleteLast]
    · simp [LocalStore.deleteLast, same]

theorem InRound.act_cleanUp (inRound : InRound src state)
    (phase : (state.ranks rank).phase = .cleanUp) : InRound src (act src state rank) := by
  have before : (state.ranks rank).position = 6 * (state.ranks rank).counter + 5 :=
    DistKVStore.position_eq phase
  have set := inRound.published (state.ranks rank).counter rank (by omega)
  have finished := inRound.rank_finished phase
  simp only [act, rankAfter, storeAfter, phase]
  by_cases isSource : rank = src
  · subst isSource
    refine inRound.moved _ (6 * ((state.ranks rank).counter + 1)) before ?_ finished
      (by omega) (by omega) (fun _ other => absurd rfl other) ?_ ?_
    · simp [DistKVStore.position, betweenCalls, BroadcastPhase.stage]
    · intro round
      rw [if_pos rfl, if_pos rfl, deleteLast_key]
      split
      · rw [keyAt, if_neg (by omega)]
      · rw [inRound.key round, before]
        exact keyAt_congr (by omega) (by omega)
    · intro round other
      rw [if_pos rfl, if_pos rfl, deleteLast_keyDones]
      split
      · exact (decide_eq_false (by omega)).symm
      · rw [inRound.marks round other, before]
        apply markAt_congr
        · split
          · rename_i isRank
            subst isRank
            omega
          · exact Iff.rfl
        · omega
  · simp only [isSource, if_false]
    refine inRound.movedSilently _ (6 * (state.ranks rank).counter + 7) before ?_ finished
      (by omega) (by omega) ?_ (fun _ same => absurd same isSource) (by omega)
    · simp [DistKVStore.position, betweenCalls, isSource, BroadcastPhase.stage]
      omega
    · intro round _ reached
      omega

theorem InRound.afterAct (inRound : InRound src state) (several : worldSize ≠ 1)
    (canAct : state.canAct rank) : InRound src (act src state rank) := by
  cases phase : (state.ranks rank).phase <;> simp only [BroadcastState.canAct, phase] at canAct
  case idle => exact inRound.act_idle several phase canAct
  case setKey => exact inRound.act_setKey phase
  case waitKey => exact inRound.act_waitKey phase canAct
  case getKey => exact inRound.act_getKey phase canAct
  case setDone => exact inRound.act_setDone phase
  case waitDones => exact inRound.act_waitDones phase canAct
  case cleanUp => exact inRound.act_cleanUp phase

/-- One more command at the source concerns no round in progress. -/
theorem InRound.afterCommand (inRound : InRound src state) (command : Command) :
    InRound src (BroadcastState.handle src state (.command command)) := by
  have early : ∀ rank, (state.commands ++ [command]).take (state.ranks rank).counter =
      state.commands.take (state.ranks rank).counter := fun rank =>
    take_append_of_le_length (inRound.rank rank).bounded
  have kept : ∀ round, round < state.commands.length →
      (state.commands ++ [command])[round]? = state.commands[round]? := fun round inside =>
    getElem?_append_left inside
  refine ⟨?_, ?_, inRound.marks, inRound.together, inRound.published⟩
  · intro rank
    have here := inRound.rank rank
    have inProgress : 2 ≤ (state.ranks rank).phase.stage ∨ (state.ranks rank).phase = .setKey →
        (state.ranks rank).counter < state.commands.length := by
      intro busy
      rcases busy with late | publishing
      · apply inRound.published_lt
        apply inRound.published _ rank
        rw [DistKVStore.position]
        omega
      · exact here.started (here.source (.inr publishing)) (by simp [publishing])
    refine ⟨here.running, here.source, here.waiting, here.quiet, ?_, ?_, ?_, ?_, ?_⟩
    · exact here.returned.trans (by rw [BroadcastState.handle, early])
    · have bounded := here.bounded
      simp only [BroadcastState.handle, length_append, length_singleton]
      omega
    · intro isSource busy
      have started := here.started isSource busy
      simp only [BroadcastState.handle, length_append, length_singleton]
      omega
    · intro publishing
      exact (here.argument publishing).trans (kept _ (inProgress (.inr publishing))).symm
    · intro late
      exact (here.read late).trans (kept _ (inProgress (.inl (Nat.le_of_succ_le late)))).symm
  · intro round
    refine (inRound.key round).trans ?_
    unfold keyAt BroadcastState.handle
    split
    · rename_i between
      exact (kept round (inRound.published_lt between.1)).symm
    · rfl

theorem InRound.initial (src : Fin worldSize) :
    InRound src (BroadcastState.initial src : BroadcastState Command worldSize) := by
  have position : ∀ rank, ((BroadcastState.initial src : BroadcastState Command worldSize).ranks
      rank).position ≤ 1 := by
    intro rank
    by_cases isSource : rank = src <;>
      simp [BroadcastState.initial, DistKVStore.position, betweenCalls, isSource,
        BroadcastPhase.stage]
  refine ⟨?_, ?_, ?_, ?_, ?_⟩
  · intro rank
    by_cases isSource : rank = src <;>
      constructor <;>
      simp [BroadcastState.initial, betweenCalls, isSource, BroadcastPhase.stage]
  · intro round
    simp [BroadcastState.initial, LocalStore.empty, keyAt]
  · intro round rank
    have early := position rank
    exact (decide_eq_false (by omega)).symm
  · intro round ahead behind reached
    have early := position ahead
    omega
  · intro round rank reached
    have early := position rank
    omega

end CosmosRl.Utils
