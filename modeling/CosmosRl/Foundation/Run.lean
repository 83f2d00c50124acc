import Mathlib.Tactic.ByContra

/-!
Runs of an event-driven system.

The system handles one event at a time.  The environment may only submit the
events it is allowed to in the state it finds; a run is a list of events each of
which is allowed when its turn comes.  The rules below carry an invariant along a
run and, when an invariant is exactly maintained by the well-behaved steps, turn
a property of every state into a condition on every step.
-/

namespace CosmosRl.Foundation

universe u v

structure EventSystem (State : Type u) (Event : Type v) where
  handle : State → Event → State
  Allowed : State → Event → Prop

namespace EventSystem

variable {State : Type u} {Event : Type v} (system : EventSystem State Event)

def after (state : State) (events : List Event) : State :=
  events.foldl system.handle state

def IsRun : State → List Event → Prop
  | _, [] => True
  | state, event :: rest =>
    system.Allowed state event ∧ IsRun (system.handle state event) rest

def StepsMeet (condition : State → Event → Prop) : State → List Event → Prop
  | _, [] => True
  | state, event :: rest =>
    condition state event ∧ StepsMeet condition (system.handle state event) rest

def Throughout (property : State → Prop) : State → List Event → Prop
  | state, [] => property state
  | state, event :: rest =>
    property state ∧ Throughout property (system.handle state event) rest

variable {system}

@[simp]
theorem after_nil (state : State) : system.after state [] = state := rfl

@[simp]
theorem after_cons (state : State) (event : Event) (rest : List Event) :
    system.after state (event :: rest) =
      system.after (system.handle state event) rest := rfl

theorem after_append (state : State) (events later : List Event) :
    system.after state (events ++ later) = system.after (system.after state events) later :=
  List.foldl_append

variable {state : State} {events : List Event} {property : State → Prop}

theorem IsRun.append {later : List Event}
    (run : system.IsRun state events) (next : system.IsRun (system.after state events) later) :
    system.IsRun state (events ++ later) := by
  induction events generalizing state with
  | nil => exact next
  | cons event rest ih => exact ⟨run.1, ih run.2 next⟩

theorem IsRun.of_forall (free : ∀ state event, system.Allowed state event) (state : State)
    (events : List Event) : system.IsRun state events := by
  induction events generalizing state with
  | nil => trivial
  | cons event rest ih =>
    exact ⟨free state event, ih (system.handle state event)⟩

theorem Throughout.start (throughout : system.Throughout property state events) :
    property state := by
  cases events with
  | nil => exact throughout
  | cons event rest => exact throughout.1

theorem Throughout.finish (throughout : system.Throughout property state events) :
    property (system.after state events) := by
  induction events generalizing state with
  | nil => exact throughout
  | cons event rest ih => exact ih throughout.2

theorem Throughout.mono {first second : State → Prop}
    (implication : ∀ state, first state → second state)
    (throughout : system.Throughout first state events) :
    system.Throughout second state events := by
  induction events generalizing state with
  | nil => exact implication _ throughout
  | cons event rest ih =>
    exact ⟨implication _ throughout.1, ih throughout.2⟩

/-- Run rule: an invariant that every allowed step meeting the condition
preserves holds throughout every run whose steps all meet it. -/
theorem throughout_of_stepsMeet {invariant : State → Prop} {condition : State → Event → Prop}
    (preserves : ∀ state event, invariant state → system.Allowed state event →
      condition state event → invariant (system.handle state event))
    {state : State} {events : List Event} (start : invariant state)
    (run : system.IsRun state events) (meets : system.StepsMeet condition state events) :
    system.Throughout invariant state events := by
  induction events generalizing state with
  | nil => exact start
  | cons event rest ih =>
    exact ⟨start, ih (preserves state event start run.1 meets.1) run.2 meets.2⟩

theorem throughout_of_preserved {invariant : State → Prop}
    (preserves : ∀ state event, invariant state → system.Allowed state event →
      invariant (system.handle state event))
    {state : State} {events : List Event} (start : invariant state)
    (run : system.IsRun state events) :
    system.Throughout invariant state events := by
  induction events generalizing state with
  | nil => exact start
  | cons event rest ih =>
    exact ⟨start, ih (preserves state event start run.1) run.2⟩

theorem StepsMeet.of_forall {condition : State → Event → Prop}
    (everywhere : ∀ state event, condition state event) :
    system.StepsMeet condition state events := by
  induction events generalizing state with
  | nil => trivial
  | cons event rest ih => exact ⟨everywhere state event, ih⟩

theorem stepsMeet_of_preserved {invariant : State → Prop} {condition shown : State → Event → Prop}
    (preserves : ∀ state event, invariant state → system.Allowed state event →
      condition state event → shown state event ∧ invariant (system.handle state event))
    {state : State} {events : List Event} (start : invariant state)
    (run : system.IsRun state events) (meets : system.StepsMeet condition state events) :
    system.StepsMeet shown state events := by
  induction events generalizing state with
  | nil => trivial
  | cons event rest ih =>
    obtain ⟨here, later⟩ := preserves state event start run.1 meets.1
    exact ⟨here, ih later run.2 meets.2⟩

theorem throughout_iff_stepsMeet_of_side {invariant : State → Prop}
    {condition side : State → Event → Prop} (implies : ∀ state, invariant state → property state)
    (preserves : ∀ state event, invariant state → system.Allowed state event →
      side state event → condition state event → invariant (system.handle state event))
    (breaks : ∀ state event, invariant state → system.Allowed state event →
      ¬ condition state event → ¬ property (system.handle state event)) (start : invariant state)
    (run : system.IsRun state events) (sides : system.StepsMeet side state events) :
    system.Throughout property state events ↔
      system.StepsMeet condition state events := by
  induction events generalizing state with
  | nil => exact ⟨fun _ => trivial, fun _ => implies state start⟩
  | cons event rest ih =>
    constructor
    · intro throughout
      have meets : condition state event := by
        by_contra bad
        exact breaks state event start run.1 bad throughout.2.start
      exact ⟨meets, (ih (preserves state event start run.1 sides.1 meets)
        run.2 sides.2).mp throughout.2⟩
    · intro meets
      exact ⟨implies state start,
        (ih (preserves state event start run.1 sides.1 meets.1) run.2 sides.2).mpr meets.2⟩

/-- Exactness rule: when good steps preserve an invariant that implies the
property and a bad step breaks the property at once, the property holds
throughout a run exactly when all of its steps are good. -/
theorem throughout_iff_stepsMeet {invariant property : State → Prop}
    {condition : State → Event → Prop} (implies : ∀ state, invariant state → property state)
    (preserves : ∀ state event, invariant state → system.Allowed state event →
      condition state event → invariant (system.handle state event))
    (breaks : ∀ state event, invariant state → system.Allowed state event →
      ¬ condition state event → ¬ property (system.handle state event))
    {state : State} {events : List Event} (start : invariant state)
    (run : system.IsRun state events) :
    system.Throughout property state events ↔
      system.StepsMeet condition state events := by
  have sides : system.StepsMeet (fun _ _ => True) state events :=
    StepsMeet.of_forall fun _ _ => trivial
  exact throughout_iff_stepsMeet_of_side implies
    (fun state event holds allowed _ => preserves state event holds allowed) breaks start run
    sides

/-- Executable counterparts: all three notions can be decided step by step. -/
instance decidableIsRun [∀ state event, Decidable (system.Allowed state event)] :
    (state : State) → (events : List Event) → Decidable (system.IsRun state events)
  | _, [] => inferInstanceAs (Decidable True)
  | state, event :: rest =>
    have := decidableIsRun (system.handle state event) rest
    inferInstanceAs (Decidable (_ ∧ _))

instance decidableStepsMeet {condition : State → Event → Prop}
    [∀ state event, Decidable (condition state event)] :
    (state : State) → (events : List Event) →
      Decidable (system.StepsMeet condition state events)
  | _, [] => inferInstanceAs (Decidable True)
  | state, event :: rest =>
    have : Decidable (system.StepsMeet condition (system.handle state event) rest) :=
      decidableStepsMeet (system.handle state event) rest
    inferInstanceAs (Decidable (_ ∧ _))

end EventSystem

end CosmosRl.Foundation
