import Mathlib.Data.List.Basic

/-!
Routes: the stations that a loop visits until it stops for good.

A route that stops hides all that comes after it.
-/

namespace CosmosRl.Foundation

variable {Alpha : Type*}

theorem getElem?_of_prefix {front whole : List Alpha} (isPrefix : front <+: whole)
    {place : Nat} {entry : Alpha} (found : front[place]? = some entry) :
    whole[place]? = some entry := by
  obtain ⟨rest, rfl⟩ := isPrefix
  rw [List.getElem?_append_left (List.getElem?_eq_some_iff.mp found).1, found]

structure Route (Alpha : Type*) where
  visited : List Alpha
  goesOn : Bool

namespace Route

def onward : Route Alpha := ⟨[], true⟩

def stop : Route Alpha := ⟨[], false⟩

def andThen (first second : Route Alpha) : Route Alpha :=
  if first.goesOn then ⟨first.visited ++ second.visited, second.goesOn⟩ else first

def through : List (Route Alpha) → Route Alpha
  | [] => onward
  | first :: rest => first.andThen (through rest)

variable {first : Route Alpha} {second : Route Alpha}

theorem andThen_of_goesOn (further : first.goesOn = true) (second : Route Alpha) :
    first.andThen second = ⟨first.visited ++ second.visited, second.goesOn⟩ :=
  if_pos further

theorem andThen_of_stops (stops : first.goesOn = false)
    (second : Route Alpha) : first.andThen second = first :=
  if_neg (by simp [stops])

theorem prefix_visited_andThen (first second : Route Alpha) :
    first.visited <+: (first.andThen second).visited := by
  unfold andThen
  split
  · exact List.prefix_append _ _
  · exact List.prefix_refl _

theorem goesOn_andThen_iff :
    (first.andThen second).goesOn = true ↔ first.goesOn = true ∧ second.goesOn = true := by
  unfold andThen
  split <;> simp_all

structure Along (way : List Alpha) (route : Route Alpha) : Prop where
  isPrefix : route.visited <+: way
  whole : route.goesOn = true → route.visited = way

theorem Along.onward : Along [] (Route.onward : Route Alpha) :=
  ⟨List.prefix_refl _, fun _ => rfl⟩

theorem Along.stop (way : List Alpha) : Along way Route.stop :=
  ⟨List.nil_prefix, fun further => absurd further (by simp [Route.stop])⟩

theorem Along.andThen {way later : List Alpha}
    (along : Along way first) (alongLater : Along later second) :
    Along (way ++ later) (first.andThen second) := by
  cases further : first.goesOn with
  | true =>
    rw [andThen_of_goesOn further, along.whole further]
    exact ⟨(List.prefix_append_right_inj _).mpr alongLater.isPrefix,
      fun secondOn => by rw [alongLater.whole secondOn]⟩
  | false =>
    rw [andThen_of_stops further]
    exact ⟨along.isPrefix.trans (List.prefix_append _ _),
      fun firstOn => absurd firstOn (by simp [further])⟩

theorem Along.through {Item : Type*} {way : Item → List Alpha} {route : Item → Route Alpha}
    {items : List Item} (along : ∀ item ∈ items, Along (way item) (route item)) :
    Along (items.flatMap way) (Route.through (items.map route)) := by
  induction items with
  | nil => exact Along.onward
  | cons item rest ih =>
    obtain ⟨first, others⟩ := List.forall_mem_cons.mp along
    exact first.andThen (ih others)

end Route

end CosmosRl.Foundation
