import Mathlib.Data.List.Basic

/-!
Generators: objects that are asked for one item after the other until they stop.

A generator is given by what one request returns and the state it leaves.  A
queue of generators is served in turn: the one that answered goes to the back,
one that has stopped leaves the queue.
-/

namespace CosmosRl.Foundation

universe u v

structure Generator (State : Type u) (Item : Type v) where
  next : State → Option Item × State

namespace Generator

variable {State : Type u} {Item : Type v} (generator : Generator State Item)

/-- The items of at most `requests` requests, up to the first that gets none. -/
def outputs : Nat → State → List Item
  | 0, _ => []
  | requests + 1, state =>
    match generator.next state with
    | (none, _) => []
    | (some item, next) => item :: outputs requests next

def output : Nat → State → Option Item
  | 0, state => (generator.next state).1
  | position + 1, state =>
    match generator.next state with
    | (none, _) => none
    | (some _, next) => output position next

def skip : Nat → State → State
  | 0, state => state
  | requests + 1, state =>
    match generator.next state with
    | (none, next) => next
    | (some _, next) => skip requests next

def alive (state : State) : Bool := (generator.next state).1.isSome

variable {generator}

theorem getElem?_outputs {position requests : Nat} (within : position < requests) (state : State) :
    (generator.outputs requests state)[position]? = generator.output position state := by
  induction position generalizing requests state with
  | zero =>
    obtain ⟨requests, rfl⟩ : ∃ less, requests = less + 1 := ⟨requests - 1, by omega⟩
    rcases asked : generator.next state with ⟨answer, next⟩
    cases answer with
    | none => simp [outputs, output, asked]
    | some item => simp [outputs, output, asked]
  | succ position ih =>
    obtain ⟨requests, rfl⟩ : ∃ less, requests = less + 1 := ⟨requests - 1, by omega⟩
    rcases asked : generator.next state with ⟨answer, next⟩
    cases answer with
    | none => simp [outputs, output, asked]
    | some item =>
      simpa [outputs, output, asked] using ih (by omega : position < requests) next

def Settles (generator : Generator State Item) : Prop :=
  ∀ state, (generator.next state).1 = none →
    (generator.next (generator.next state).2).1 = none

theorem output_skip (settles : generator.Settles) (requests position : Nat) (state : State) :
    generator.output position (generator.skip requests state) =
      generator.output (requests + position) state := by
  induction requests generalizing state with
  | zero => rw [Nat.zero_add]; rfl
  | succ requests ih =>
    rw [Nat.succ_add]
    rcases asked : generator.next state with ⟨answer, next⟩
    cases answer with
    | some item =>
      simp only [skip, output, asked]
      exact ih next
    | none =>
      have stopped := settles state (by rw [asked])
      rw [asked] at stopped
      simp only [skip, output, asked]
      cases position with
      | zero => exact stopped
      | succ position =>
        rcases again : generator.next next with ⟨answer, last⟩
        rw [again] at stopped
        subst stopped
        simp [output, again]

variable {state : State}

theorem output_of_stopped (stopped : (generator.next state).1 = none)
    (position : Nat) : generator.output position state = none := by
  rcases asked : generator.next state with ⟨answer, next⟩
  rw [asked] at stopped
  subst stopped
  cases position <;> simp [output, asked]

theorem skip_of_stopped (settles : generator.Settles)
    (stopped : (generator.next state).1 = none) (requests : Nat) :
    (generator.next (generator.skip requests state)).1 = none :=
  (output_skip settles requests 0 state).trans (output_of_stopped stopped _)

theorem outputs_add (settles : generator.Settles) (first second : Nat) (state : State) :
    generator.outputs (first + second) state =
      generator.outputs first state ++
        generator.outputs second (generator.skip first state) := by
  induction first generalizing state with
  | zero => rw [Nat.zero_add]; rfl
  | succ first ih =>
    rw [Nat.succ_add]
    rcases asked : generator.next state with ⟨answer, next⟩
    cases answer with
    | some item =>
      simp only [outputs, skip, asked, List.cons_append]
      rw [ih next]
    | none =>
      have stopped := settles state (by rw [asked])
      rw [asked] at stopped
      simp only [outputs, skip, asked, List.nil_append]
      cases second with
      | zero => rfl
      | succ second =>
        rcases again : generator.next next with ⟨answer, last⟩
        rw [again] at stopped
        subst stopped
        simp [outputs, again]

def Endless (generator : Generator State Item) (state : State) : Prop :=
  ∀ position, (generator.output position state).isSome

theorem Endless.next (endless : generator.Endless state) :
    ∃ item next, generator.next state = (some item, next) ∧ generator.Endless next := by
  rcases asked : generator.next state with ⟨answer, next⟩
  cases answer with
  | none =>
    have first := endless 0
    simp [output, asked] at first
  | some item =>
    refine ⟨item, next, rfl, fun position => ?_⟩
    have later := endless (position + 1)
    simpa [output, asked] using later

theorem Endless.skip (settles : generator.Settles)
    (endless : generator.Endless state) (requests : Nat) :
    generator.Endless (generator.skip requests state) := by
  intro position
  rw [output_skip settles]
  exact endless _

def nextOf (generator : Generator State Item) :
    List State → Option Item × List State
  | [] => (none, [])
  | state :: rest =>
    match generator.next state with
    | (none, _) => nextOf generator rest
    | (some item, next) => (some item, rest ++ [next])

def roundRobin (generator : Generator State Item) : Generator (List State) Item :=
  ⟨nextOf generator⟩

theorem nextOf_filter_alive (queue : List State) :
    (nextOf generator (queue.filter generator.alive)).1 = (nextOf generator queue).1 ∧
      (nextOf generator (queue.filter generator.alive)).2.filter generator.alive =
        (nextOf generator queue).2.filter generator.alive := by
  induction queue with
  | nil => exact ⟨rfl, rfl⟩
  | cons state rest ih =>
    rcases asked : generator.next state with ⟨answer, next⟩
    cases answer with
    | none =>
      have stopped : generator.alive state = false := by simp [alive, asked]
      simpa [List.filter_cons, stopped, nextOf, asked] using ih
    | some item =>
      have answers : generator.alive state = true := by simp [alive, asked]
      simp [answers, nextOf, asked]

theorem output_roundRobin_congr {first second : List State}
    (same : first.filter generator.alive = second.filter generator.alive) (position : Nat) :
    generator.roundRobin.output position first =
      generator.roundRobin.output position second := by
  induction position generalizing first second with
  | zero =>
    have left := @nextOf_filter_alive _ _ generator first
    have right := @nextOf_filter_alive _ _ generator second
    simp only [output, roundRobin]
    rw [← left.1, ← right.1, same]
  | succ position ih =>
    have left := @nextOf_filter_alive _ _ generator first
    have right := @nextOf_filter_alive _ _ generator second
    rw [same] at left
    have answers := left.1.symm.trans right.1
    have remains := left.2.symm.trans right.2
    rcases leftAsked : nextOf generator first with ⟨leftAnswer, leftNext⟩
    rcases rightAsked : nextOf generator second with ⟨rightAnswer, rightNext⟩
    rw [leftAsked, rightAsked] at answers remains
    simp only at answers remains
    subst answers
    cases leftAnswer with
    | none => simp [output, roundRobin, leftAsked, rightAsked]
    | some item =>
      have leftStep : generator.roundRobin.next first = (some item, leftNext) := leftAsked
      have rightStep : generator.roundRobin.next second = (some item, rightNext) := rightAsked
      simp only [output, leftStep, rightStep]
      exact ih remains

theorem output_roundRobin_singleton (position : Nat) (state : State) :
    generator.roundRobin.output position [state] = generator.output position state := by
  induction position generalizing state with
  | zero =>
    rcases asked : generator.next state with ⟨answer, next⟩
    cases answer <;> simp [output, roundRobin, nextOf, asked]
  | succ position ih =>
    rcases asked : generator.next state with ⟨answer, next⟩
    cases answer with
    | none => simp [output, roundRobin, nextOf, asked]
    | some item =>
      have step : generator.roundRobin.next [state] = (some item, [next]) := by
        simp [roundRobin, nextOf, asked]
      simp only [output, step, asked]
      exact ih next

/-- Endless generators answer strictly in turn. -/
theorem output_roundRobin {queue : List State}
    (endless : ∀ state ∈ queue, generator.Endless state) (nonempty : queue ≠ []) (position : Nat) :
    generator.roundRobin.output position queue =
      (queue[position % queue.length]?).bind
        (generator.output (position / queue.length)) := by
  induction position generalizing queue with
  | zero =>
    cases queue with
    | nil => exact absurd rfl nonempty
    | cons state rest =>
      obtain ⟨item, next, asked, _⟩ := (endless state (by simp)).next
      simp [output, roundRobin, nextOf, asked]
  | succ position ih =>
    cases queue with
    | nil => exact absurd rfl nonempty
    | cons state rest =>
      obtain ⟨item, next, asked, remains⟩ := (endless state (by simp)).next
      have step : generator.roundRobin.next (state :: rest) =
          (some item, rest ++ [next]) := by
        simp [roundRobin, nextOf, asked]
      simp only [output, step]
      have served := @ih (rest ++ [next]) (by
        intro other member
        rcases List.mem_append.mp member with inRest | isNext
        · exact endless other (by simp [inRest])
        · rw [List.mem_singleton.mp isNext]
          exact remains) (by simp)
      rw [served]
      have size : (rest ++ [next]).length = (state :: rest).length := by simp
      rw [size]
      have positive : 0 < (state :: rest).length := by simp
      by_cases last : position % (state :: rest).length = rest.length
      · -- the turn of the generator that has just answered
        have wraps : (position + 1) % (state :: rest).length = 0 := by
          rw [← Nat.mod_add_mod, last]
          simp
        have turns : (position + 1) / (state :: rest).length =
            position / (state :: rest).length + 1 := by
          rw [Nat.succ_div_of_dvd (Nat.dvd_of_mod_eq_zero wraps)]
        rw [last, wraps, turns]
        simp [output, asked]
      · have below := Nat.mod_lt position positive
        have inRest : position % (state :: rest).length < rest.length := by
          simp only [List.length_cons] at below last ⊢
          omega
        have advances : (position + 1) % (state :: rest).length =
            position % (state :: rest).length + 1 := by
          rw [← Nat.mod_add_mod]
          exact Nat.mod_eq_of_lt (by simp only [List.length_cons] at inRest ⊢; omega)
        have sameTurn : (position + 1) / (state :: rest).length =
            position / (state :: rest).length := by
          rw [Nat.succ_div_of_not_dvd]
          intro divides
          have := Nat.mod_eq_zero_of_dvd divides
          omega
        rw [advances, sameTurn, List.getElem?_append_left inRest, List.getElem?_cons_succ]

end Generator

end CosmosRl.Foundation
