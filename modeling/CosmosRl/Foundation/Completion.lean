import CosmosRl.Foundation.Run

/-!
Completion of the internal work of an event-driven system.

Some events are the system's own steps, the others come from outside.  The work
pending in a state completes when no schedule of own steps goes on for ever and
the goal holds wherever no own step is left: a scheduler may then pick any step
at any time.  The two rules below establish completion from a measure and refute
it from a goal that own steps cannot reach.
-/

namespace CosmosRl.Foundation

universe u v

namespace EventSystem

variable {State : Type u} {Event : Type v} (system : EventSystem State Event)

def IsInternalRun (internal : Event → Prop) (state : State) (events : List Event) : Prop :=
  system.IsRun state events ∧ ∀ event ∈ events, internal event

structure Completes (internal : Event → Prop) (goal : State → Prop) (state : State) : Prop where
  bounded : ∃ bound, ∀ events, system.IsInternalRun internal state events →
    events.length ≤ bound
  reaches : ∀ events, system.IsInternalRun internal state events →
    (∀ event, internal event → ¬ system.Allowed (system.after state events) event) →
    goal (system.after state events)

variable {system} {internal : Event → Prop} {goal : State → Prop}

theorem IsInternalRun.cons {state : State} {event : Event} {rest : List Event}
    (own : internal event) (allowed : system.Allowed state event)
    (run : system.IsInternalRun internal (system.handle state event) rest) :
    system.IsInternalRun internal state (event :: rest) := by
  refine ⟨⟨allowed, run.1⟩, ?_⟩
  intro other membership
  rcases List.mem_cons.mp membership with rfl | later
  · exact own
  · exact run.2 other later

variable {state : State} {events : List Event}

theorem IsInternalRun.after_head {event : Event} {rest : List Event}
    (run : system.IsInternalRun internal state (event :: rest)) :
    internal event ∧ system.Allowed state event ∧
      system.IsInternalRun internal (system.handle state event) rest :=
  ⟨run.2 event List.mem_cons_self, run.1.1, run.1.2,
    fun other later => run.2 other (List.mem_cons_of_mem event later)⟩

theorem IsInternalRun.mono {wider : Event → Prop}
    (implication : ∀ event, internal event → wider event)
    (run : system.IsInternalRun internal state events) :
    system.IsInternalRun wider state events :=
  ⟨run.1, fun event membership => implication event (run.2 event membership)⟩

theorem IsInternalRun.append {later : List Event} (run : system.IsInternalRun internal state events)
    (next : system.IsInternalRun internal (system.after state events) later) :
    system.IsInternalRun internal state (events ++ later) := by
  induction events generalizing state with
  | nil => exact next
  | cons event rest ih =>
    obtain ⟨own, allowed, tail⟩ := run.after_head
    exact .cons own allowed (ih tail next)

theorem IsInternalRun.keeps (invariant : State → Prop)
    (preserves : ∀ state event, invariant state → internal event →
      system.Allowed state event → invariant (system.handle state event))
    (run : system.IsInternalRun internal state events) (start : invariant state) :
    invariant (system.after state events) := by
  induction events generalizing state with
  | nil => exact start
  | cons event rest ih =>
    obtain ⟨own, allowed, later⟩ := run.after_head
    exact ih later (preserves state event start own allowed)

/-- Completion rule: own steps keep an invariant and lower a measure, and where
the goal does not hold yet some own step is possible. -/
theorem completes_of_measure {invariant : State → Prop} (measure : State → Nat)
    (preserves : ∀ state event, invariant state → internal event →
      system.Allowed state event → invariant (system.handle state event))
    (lowers : ∀ state event, invariant state → internal event →
      system.Allowed state event → measure (system.handle state event) < measure state)
    (offers : ∀ state, invariant state → ¬ goal state →
      ∃ event, internal event ∧ system.Allowed state event) (start : invariant state) :
    system.Completes internal goal state := by
  refine ⟨⟨measure state, ?_⟩, ?_⟩
  · intro events run
    induction events generalizing state with
    | nil => simp
    | cons event rest ih =>
      obtain ⟨own, allowed, later⟩ := run.after_head
      have shorter := ih (preserves state event start own allowed) later
      have lower := lowers state event start own allowed
      simp only [List.length_cons]
      omega
  · intro events run stuck
    have kept := run.keeps invariant preserves start
    by_contra unfinished
    obtain ⟨event, own, allowed⟩ := offers _ kept unfinished
    exact stuck event own allowed

theorem Completes.exists_goal (completes : system.Completes internal goal state) :
    ∃ events, system.IsInternalRun internal state events ∧
      goal (system.after state events) := by
  obtain ⟨bound, bounded⟩ := completes.bounded
  suffices maximal : ∃ events, system.IsInternalRun internal state events ∧
      ∀ event, internal event → ¬ system.Allowed (system.after state events) event by
    obtain ⟨events, run, stuck⟩ := maximal
    exact ⟨events, run, completes.reaches events run stuck⟩
  clear completes
  induction bound generalizing state with
  | zero =>
    refine ⟨[], ⟨trivial, by simp⟩, ?_⟩
    intro event own allowed
    have tooLong := bounded [event] (.cons own allowed ⟨trivial, by simp⟩)
    simp at tooLong
  | succ bound ih =>
    by_cases possible : ∃ event, internal event ∧ system.Allowed state event
    · obtain ⟨event, own, allowed⟩ := possible
      have shorter : ∀ events,
          system.IsInternalRun internal (system.handle state event) events →
            events.length ≤ bound := by
        intro events run
        have longer := bounded (event :: events) (.cons own allowed run)
        simp only [List.length_cons] at longer
        omega
      obtain ⟨events, run, stuck⟩ := ih shorter
      exact ⟨event :: events, .cons own allowed run, stuck⟩
    · refine ⟨[], ⟨trivial, by simp⟩, ?_⟩
      intro event own allowed
      exact possible ⟨event, own, allowed⟩

end EventSystem

end CosmosRl.Foundation
