import Mathlib.Data.List.Basic

/-!
Computations over a mutable state that may raise.

Raising does not roll the state back: what had been written before the
exception stays written.  An `Outcome` is therefore a state together with the
exception that ended the computation, if any.
-/

namespace CosmosRl.Foundation

universe u v w

/-- The state in which a computation has ended, and the exception that ended it, if any. -/
structure Outcome (Exn : Type u) (State : Type v) where
  state : State
  raised : Option Exn
  deriving DecidableEq

namespace Outcome

variable {Exn : Type u} {State : Type v} {Item : Type w}

def ok (state : State) : Outcome Exn State := ⟨state, none⟩

def raise (state : State) (exn : Exn) : Outcome Exn State := ⟨state, some exn⟩

/-- Go on with `second` unless `first` has raised. -/
def andThen (first : Outcome Exn State) (second : State → Outcome Exn State) :
    Outcome Exn State :=
  match first.raised with
  | none => second first.state
  | some _ => first

@[simp] theorem ok_state (state : State) : (ok state : Outcome Exn State).state = state := rfl

@[simp] theorem ok_raised (state : State) : (ok state : Outcome Exn State).raised = none := rfl

@[simp] theorem raise_state (state : State) (exn : Exn) : (raise state exn).state = state := rfl

@[simp] theorem raise_raised (state : State) (exn : Exn) :
    (raise state exn).raised = some exn := rfl

@[simp]
theorem ok_andThen (state : State) (second : State → Outcome Exn State) :
    (ok state).andThen second = second state := rfl

@[simp]
theorem raise_andThen (state : State) (exn : Exn) (second : State → Outcome Exn State) :
    (raise state exn).andThen second = raise state exn := rfl

theorem andThen_of_finished {first : Outcome Exn State} (finished : first.raised = none)
    (second : State → Outcome Exn State) : first.andThen second = second first.state := by
  unfold andThen
  rw [finished]

theorem andThen_cases (first : Outcome Exn State) (second : State → Outcome Exn State) :
    ((∃ exn, first.raised = some exn) ∧ first.andThen second = first) ∨
      (first.raised = none ∧ first.andThen second = second first.state) := by
  cases raised : first.raised with
  | none => exact .inr ⟨rfl, andThen_of_finished raised second⟩
  | some exn => exact .inl ⟨⟨exn, rfl⟩, by simp [andThen, raised]⟩

/-- What holds after both parts holds at the end, also if the first one raises. -/
theorem andThen_holds {Holds : State → Prop} {first : Outcome Exn State}
    {second : State → Outcome Exn State} (before : Holds first.state)
    (after : Holds (second first.state).state) : Holds (first.andThen second).state := by
  rcases first.andThen_cases second with ⟨_, equality⟩ | ⟨_, equality⟩
  · rw [equality]
    exact before
  · rw [equality]
    exact after

theorem andThen_preserves {Holds : State → Prop} {first : Outcome Exn State}
    {second : State → Outcome Exn State} (before : Holds first.state)
    (preserves : ∀ state, Holds state → Holds (second state).state) :
    Holds (first.andThen second).state :=
  andThen_holds before (preserves _ before)

theorem andThen_eq_ok {first : Outcome Exn State} {second : State → Outcome Exn State}
    {last : State} (ran : first.andThen second = ok last) :
    ∃ middle, first = ok middle ∧ second middle = ok last := by
  rcases first.andThen_cases second with ⟨⟨exn, raised⟩, stays⟩ | ⟨finished, continues⟩
  · rw [stays] at ran
    rw [ran] at raised
    cases raised
  · rw [continues] at ran
    refine ⟨first.state, ?_, ran⟩
    cases first
    cases finished
    rfl

theorem andThen_assoc (first : Outcome Exn State) (second third : State → Outcome Exn State) :
    (first.andThen second).andThen third =
      first.andThen fun state => (second state).andThen third := by
  cases raised : first.raised with
  | none => simp only [andThen, raised]
  | some exn => simp only [andThen, raised]

/-- The loop over a list.  An exception leaves it. -/
def forEach (body : Item → State → Outcome Exn State) :
    List Item → State → Outcome Exn State
  | [], state => ok state
  | item :: rest, state => (body item state).andThen (forEach body rest)

section

variable (body : Item → State → Outcome Exn State)

@[simp]
theorem forEach_nil (state : State) :
    forEach body [] state = ok state := rfl

theorem forEach_cons (item : Item) (rest : List Item) (state : State) :
    forEach body (item :: rest) state =
      (body item state).andThen (forEach body rest) := rfl

theorem forEach_append (front back : List Item) (state : State) :
    forEach body (front ++ back) state =
      (forEach body front state).andThen (forEach body back) := by
  induction front generalizing state with
  | nil => rfl
  | cons item rest ih =>
    rw [List.cons_append, forEach_cons, forEach_cons, andThen_assoc]
    exact congrArg (andThen _) (funext ih)

end

/-- What the body preserves holds after the loop, wherever it ends. -/
theorem forEach_preserves {Holds : State → Prop}
    {body : Item → State → Outcome Exn State} {items : List Item}
    (preserves : ∀ item ∈ items, ∀ state, Holds state → Holds (body item state).state)
    {state : State} (before : Holds state) :
    Holds (forEach body items state).state := by
  induction items generalizing state with
  | nil => exact before
  | cons item rest ih =>
    rw [forEach_cons]
    apply andThen_preserves
    · exact preserves item (by simp) state before
    · intro next holds
      exact ih (fun later membership => preserves later (by simp [membership])) holds

end Outcome

end CosmosRl.Foundation
