import Mathlib.Data.List.Basic
import Mathlib.Logic.Relation

/-!
Rendezvous communication.

Every process executes a list of communications in order.  A send happens together
with a receive of the other process, when each is next on its list and names the
other process.  If the lists are the parts that the processes have in one common
schedule, then what is sent is what is received, no processes ever wait for each
other in a circle, and all lists can be completed.
-/

namespace CosmosRl.Foundation

open List

universe u v

structure Communication (Proc : Type u) (Message : Type v) where
  partner : Proc
  isSend : Bool
  message : Message
  deriving DecidableEq

abbrev Programs (Proc : Type u) (Message : Type v) :=
  Proc → List (Communication Proc Message)

section Semantics

variable {Proc : Type u} {Message : Type v}

def Programs.Meets (programs : Programs Proc Message) (sender receiver : Proc) : Prop :=
  ∃ sent received senderRest receiverRest,
    programs sender = ⟨receiver, true, sent⟩ :: senderRest ∧
      programs receiver = ⟨sender, false, received⟩ :: receiverRest

def Programs.WaitsFor (programs : Programs Proc Message) (proc other : Proc) : Prop :=
  (∃ next rest, programs proc = next :: rest ∧ next.partner = other) ∧
    ¬ programs.Meets proc other ∧ ¬ programs.Meets other proc

def Programs.CyclicWait (programs : Programs Proc Message) : Prop :=
  ∃ proc, Relation.TransGen programs.WaitsFor proc proc

def Programs.Completed (programs : Programs Proc Message) : Prop :=
  ∀ proc, programs proc = []

variable [DecidableEq Proc]

def Programs.Step (programs next : Programs Proc Message) : Prop :=
  ∃ sender receiver sent received senderRest receiverRest,
    programs sender = ⟨receiver, true, sent⟩ :: senderRest ∧
      programs receiver = ⟨sender, false, received⟩ :: receiverRest ∧
      next = Function.update (Function.update programs sender senderRest) receiver receiverRest

theorem Programs.Meets.step {programs : Programs Proc Message} {sender receiver : Proc}
    (meets : programs.Meets sender receiver) : ∃ next, programs.Step next := by
  obtain ⟨sent, received, senderRest, receiverRest, sending, receiving⟩ := meets
  exact ⟨_, sender, receiver, sent, received, senderRest, receiverRest, sending, receiving, rfl⟩

def Programs.Agree (programs : Programs Proc Message) : Prop :=
  ∀ sender receiver sent received senderRest receiverRest,
    programs sender = ⟨receiver, true, sent⟩ :: senderRest →
    programs receiver = ⟨sender, false, received⟩ :: receiverRest → sent = received

def sentTo (list : List (Communication Proc Message)) (other : Proc) : List Message :=
  list.filterMap fun next =>
    if next.isSend = true ∧ next.partner = other then some next.message else none

def receivedFrom (list : List (Communication Proc Message)) (other : Proc) : List Message :=
  list.filterMap fun next =>
    if next.isSend = false ∧ next.partner = other then some next.message else none

end Semantics

structure Exchange (Proc : Type u) (Message : Type v) where
  sender : Proc
  receiver : Proc
  message : Message
  distinct : sender ≠ receiver

section Schedules

variable {Proc : Type u} {Message : Type v} [DecidableEq Proc]

def Exchange.side (proc : Proc) (exchange : Exchange Proc Message) :
    Option (Communication Proc Message) :=
  if exchange.sender = proc then some ⟨exchange.receiver, true, exchange.message⟩
  else if exchange.receiver = proc then some ⟨exchange.sender, false, exchange.message⟩
  else none

def part (schedule : List (Exchange Proc Message)) (proc : Proc) :
    List (Communication Proc Message) :=
  schedule.filterMap (Exchange.side proc)

def Programs.Follows (programs : Programs Proc Message)
    (schedule : List (Exchange Proc Message)) : Prop :=
  ∀ proc, programs proc = part schedule proc

namespace Exchange

@[simp]
theorem side_sender (exchange : Exchange Proc Message) :
    exchange.side exchange.sender = some ⟨exchange.receiver, true, exchange.message⟩ := by
  simp [side]

@[simp]
theorem side_receiver (exchange : Exchange Proc Message) :
    exchange.side exchange.receiver = some ⟨exchange.sender, false, exchange.message⟩ := by
  simp [side, exchange.distinct]

variable {exchange : Exchange Proc Message}

theorem side_eq_none {proc : Proc}
    (notSender : proc ≠ exchange.sender) (notReceiver : proc ≠ exchange.receiver) :
    exchange.side proc = none := by
  simp [side, notSender.symm, notReceiver.symm]

theorem side_eq_some {proc : Proc}
    {next : Communication Proc Message} (takes : exchange.side proc = some next) :
    (exchange.sender = proc ∧ exchange.receiver = next.partner ∧ next.isSend = true ∧
        exchange.message = next.message) ∨
      (exchange.receiver = proc ∧ exchange.sender = next.partner ∧ next.isSend = false ∧
        exchange.message = next.message) := by
  unfold side at takes
  split at takes
  · rename_i sends
    cases takes
    exact .inl ⟨sends, rfl, rfl, rfl⟩
  · split at takes
    · rename_i receives
      cases takes
      exact .inr ⟨receives, rfl, rfl, rfl⟩
    · cases takes

end Exchange

theorem part_append (first second : List (Exchange Proc Message)) (proc : Proc) :
    part (first ++ second) proc = part first proc ++ part second proc :=
  filterMap_append

theorem part_cons (exchange : Exchange Proc Message) (rest : List (Exchange Proc Message))
    (proc : Proc) :
    part (exchange :: rest) proc = (exchange.side proc).toList ++ part rest proc := by
  rw [part, filterMap_cons]
  cases exchange.side proc <;> rfl

variable {schedule : List (Exchange Proc Message)}

theorem part_eq_nil {proc : Proc} :
    part schedule proc = [] ↔ ∀ exchange ∈ schedule, exchange.side proc = none :=
  filterMap_eq_nil_iff

theorem part_eq_cons {proc : Proc}
    {next : Communication Proc Message} {rest : List (Communication Proc Message)} :
    part schedule proc = next :: rest ↔ ∃ before exchange after,
      schedule = before ++ exchange :: after ∧ part before proc = [] ∧
        exchange.side proc = some next ∧ part after proc = rest := by
  simp only [part_eq_nil]
  exact filterMap_eq_cons_iff

theorem Exchange.bind_side_sent (exchange : Exchange Proc Message) (sender receiver : Proc) :
    ((exchange.side sender).bind fun next =>
      if next.isSend = true ∧ next.partner = receiver then some next.message else none) =
      if exchange.sender = sender ∧ exchange.receiver = receiver then some exchange.message
      else none := by
  unfold Exchange.side
  by_cases sends : exchange.sender = sender
  · simp [sends]
  · by_cases receives : exchange.receiver = sender <;> simp [sends, receives]

theorem Exchange.bind_side_received (exchange : Exchange Proc Message) (sender receiver : Proc) :
    ((exchange.side receiver).bind fun next =>
      if next.isSend = false ∧ next.partner = sender then some next.message else none) =
      if exchange.sender = sender ∧ exchange.receiver = receiver then some exchange.message
      else none := by
  unfold Exchange.side
  by_cases sends : exchange.sender = receiver
  · have notReceiver : exchange.receiver ≠ receiver := by
      rintro rfl
      exact exchange.distinct sends
    simp [sends, notReceiver]
  · by_cases receives : exchange.receiver = receiver <;> simp [sends, receives]

theorem sentTo_part (schedule : List (Exchange Proc Message)) (sender receiver : Proc) :
    sentTo (part schedule sender) receiver = receivedFrom (part schedule receiver) sender := by
  rw [sentTo, receivedFrom, part, part, filterMap_filterMap, filterMap_filterMap]
  simp only [Exchange.bind_side_sent, Exchange.bind_side_received]

namespace Programs

variable {programs next : Programs Proc Message} {schedule : List (Exchange Proc Message)}

section

variable (follows : programs.Follows schedule)

include follows

/-- Two processes that meet do so in one exchange of the schedule, and neither takes
part in an earlier one. -/
theorem Follows.rendezvous {sender receiver : Proc} {sent received : Message}
    {senderRest receiverRest : List (Communication Proc Message)}
    (sending : programs sender = ⟨receiver, true, sent⟩ :: senderRest)
    (receiving : programs receiver = ⟨sender, false, received⟩ :: receiverRest) :
    sent = received ∧ ∃ before exchange after, schedule = before ++ exchange :: after ∧
      exchange.sender = sender ∧ exchange.receiver = receiver ∧
      part before sender = [] ∧ part before receiver = [] ∧
      part after sender = senderRest ∧ part after receiver = receiverRest := by
  rw [follows] at sending receiving
  obtain ⟨before, exchange, after, split, idle, takes, later⟩ := part_eq_cons.mp sending
  obtain ⟨before', exchange', after', split', idle', takes', later'⟩ := part_eq_cons.mp receiving
  have sides : exchange.sender = sender ∧ exchange.receiver = receiver ∧
      exchange.message = sent := by
    rcases Exchange.side_eq_some takes with ⟨one, two, _, four⟩ | ⟨_, _, impossible, _⟩
    · exact ⟨one, two, four⟩
    · cases impossible
  have sides' : exchange'.sender = sender ∧ exchange'.receiver = receiver ∧
      exchange'.message = received := by
    rcases Exchange.side_eq_some takes' with ⟨_, _, impossible, _⟩ | ⟨one, two, _, four⟩
    · cases impossible
    · exact ⟨two, one, four⟩
  have takesPart : ∀ earlier : List (Exchange Proc Message),
      exchange ∈ earlier → part earlier receiver ≠ [] := by
    intro earlier inside nothing
    have absent := part_eq_nil.mp nothing exchange inside
    rw [← sides.2.1, Exchange.side_receiver] at absent
    cases absent
  have takesPart' : ∀ earlier : List (Exchange Proc Message),
      exchange' ∈ earlier → part earlier sender ≠ [] := by
    intro earlier inside nothing
    have absent := part_eq_nil.mp nothing exchange' inside
    rw [← sides'.1, Exchange.side_sender] at absent
    cases absent
  have same : before = before' ∧ exchange = exchange' ∧ after = after' := by
    have joined : before ++ exchange :: after = before' ++ exchange' :: after' :=
      split.symm.trans split'
    rcases append_eq_append_iff.mp joined with ⟨gap, longer, rest⟩ | ⟨gap, longer, rest⟩
    · cases gap with
      | nil => simp_all
      | cons first gap =>
        cases rest
        exact absurd idle' (takesPart before' (by simp [longer]))
    · cases gap with
      | nil => simp_all
      | cons first gap =>
        cases rest
        exact absurd idle (takesPart' before (by simp [longer]))
  obtain ⟨rfl, rfl, rfl⟩ := same
  exact ⟨sides.2.2.symm.trans sides'.2.2, before, exchange, after, split, sides.1, sides.2.1,
    idle, idle', later, later'⟩

theorem Follows.agree : programs.Agree := by
  intro sender receiver sent received senderRest receiverRest sending receiving
  exact (follows.rendezvous sending receiving).1

theorem Follows.step (step : Step programs next) :
    ∃ remaining, remaining.length < schedule.length ∧ next.Follows remaining := by
  obtain ⟨sender, receiver, sent, received, senderRest, receiverRest, sending, receiving,
    rfl⟩ := step
  obtain ⟨_, before, exchange, after, rfl, rfl, rfl, idleSender, idleReceiver, laterSender,
    laterReceiver⟩ := follows.rendezvous sending receiving
  refine ⟨before ++ after, by simp, ?_⟩
  intro proc
  rw [part_append]
  by_cases isReceiver : proc = exchange.receiver
  · subst isReceiver
    rw [Function.update_self, idleReceiver, laterReceiver, nil_append]
  · rw [Function.update_of_ne isReceiver]
    by_cases isSender : proc = exchange.sender
    · subst isSender
      rw [Function.update_self, idleSender, laterSender, nil_append]
    · rw [Function.update_of_ne isSender, follows proc, part_append, part_cons,
        Exchange.side_eq_none isSender isReceiver]
      rfl

theorem Follows.reachable (reachable : Relation.ReflTransGen Step programs next) :
    ∃ remaining, next.Follows remaining := by
  induction reachable with
  | refl => exact ⟨schedule, follows⟩
  | tail _ step ih =>
    obtain ⟨remaining, here⟩ := ih
    obtain ⟨later, _, followsLater⟩ := here.step step
    exact ⟨later, followsLater⟩

end

theorem Follows.meets {before after : List (Exchange Proc Message)}
    {exchange : Exchange Proc Message} (follows : programs.Follows (before ++ exchange :: after))
    (senderIdle : part before exchange.sender = [])
    (receiverIdle : part before exchange.receiver = []) :
    programs.Meets exchange.sender exchange.receiver := by
  refine ⟨exchange.message, exchange.message, part after exchange.sender,
    part after exchange.receiver, ?_, ?_⟩
  · rw [follows, part_append, part_cons, senderIdle, Exchange.side_sender]
    rfl
  · rw [follows, part_append, part_cons, receiverIdle, Exchange.side_receiver]
    rfl

theorem Follows.progress (follows : programs.Follows schedule) :
    programs.Completed ∨ ∃ next, programs.Step next := by
  cases schedule with
  | nil => exact .inl follows
  | cons exchange rest =>
    have meets : programs.Meets exchange.sender exchange.receiver :=
      @Follows.meets _ _ _ _ [] rest exchange follows rfl rfl
    exact .inr meets.step

theorem Follows.completes (follows : programs.Follows schedule) :
    ∃ final, Relation.ReflTransGen Step programs final ∧ final.Completed := by
  induction remaining : schedule.length using Nat.strongRecOn
    generalizing programs schedule with
  | ind count ih =>
    rcases follows.progress with completed | ⟨next, step⟩
    · exact ⟨programs, .refl, completed⟩
    · obtain ⟨later, shorter, followsLater⟩ := follows.step step
      obtain ⟨final, reaches, completed⟩ := ih later.length (by omega) followsLater rfl
      exact ⟨final, .head step reaches, completed⟩

def firstPart (schedule : List (Exchange Proc Message)) (proc : Proc) : Nat :=
  schedule.findIdx fun exchange => (exchange.side proc).isSome

theorem Follows.waitsFor (follows : programs.Follows schedule) {proc other : Proc}
    (waits : programs.WaitsFor proc other) :
    firstPart schedule other < firstPart schedule proc := by
  obtain ⟨⟨next, rest, list, rfl⟩, notMeets, notMet⟩ := waits
  rw [follows] at list
  obtain ⟨before, exchange, after, rfl, idle, takes, _⟩ := part_eq_cons.mp list
  have idleTests : ∀ earlier ∈ before, (earlier.side proc).isSome = false := by
    intro earlier inside
    rw [part_eq_nil.mp idle earlier inside]
    rfl
  have position : firstPart (before ++ exchange :: after) proc = before.length := by
    rw [firstPart, findIdx_append, findIdx_eq_length_of_false idleTests,
      if_neg (Nat.lt_irrefl _), findIdx_cons, takes]
    exact Nat.zero_add _
  rw [position]
  by_contra notEarlier
  have otherIdle : part before next.partner = [] := by
    rw [part_eq_nil]
    intro earlier inside
    by_contra takesPart
    have found : (before.findIdx fun exchange => (exchange.side next.partner).isSome) <
        before.length :=
      findIdx_lt_length_of_exists ⟨earlier, inside, Option.isSome_iff_ne_none.mpr takesPart⟩
    rw [firstPart, findIdx_append, if_pos found] at notEarlier
    exact notEarlier found
  rcases Exchange.side_eq_some takes with ⟨rfl, partner, _, _⟩ | ⟨rfl, partner, _, _⟩
  · rw [← partner] at otherIdle notMeets
    exact notMeets (follows.meets idle otherIdle)
  · rw [← partner] at otherIdle notMet
    exact notMet (follows.meets otherIdle idle)

theorem Follows.not_cyclicWait (follows : programs.Follows schedule) : ¬ programs.CyclicWait := by
  rintro ⟨proc, circle⟩
  have descends : ∀ other, Relation.TransGen programs.WaitsFor proc other →
      firstPart schedule other < firstPart schedule proc := by
    intro other path
    induction path with
    | single waits => exact follows.waitsFor waits
    | tail _ waits ih =>
      exact Nat.lt_trans (follows.waitsFor waits) ih
  exact absurd (descends proc circle) (Nat.lt_irrefl _)

end Programs

end Schedules

end CosmosRl.Foundation
