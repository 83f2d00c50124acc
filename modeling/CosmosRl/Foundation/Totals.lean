import Mathlib.Algebra.BigOperators.Group.List.Basic
import Mathlib.Data.Option.NAry

/-!
Sums of values some of which may be undefined.

A sum is undefined if one of its terms is.  It does not depend on the order of the terms or
on how they are put together.
-/

namespace CosmosRl.Foundation

open List

variable {Value : Type*} [AddCommMonoid Value]

/-- The sum of the terms, defined if all of them are. -/
def totalOf (terms : List (Option Value)) : Option Value :=
  terms.foldr (Option.map₂ (· + ·)) (some 0)

@[simp] theorem totalOf_nil : totalOf ([] : List (Option Value)) = some 0 := rfl

@[simp] theorem totalOf_cons (term : Option Value) (terms : List (Option Value)) :
    totalOf (term :: terms) = Option.map₂ (· + ·) term (totalOf terms) := rfl

theorem totalOf_append (first second : List (Option Value)) :
    totalOf (first ++ second) = Option.map₂ (· + ·) (totalOf first) (totalOf second) := by
  induction first with
  | nil => rw [nil_append, totalOf_nil, Option.map₂_left_identity zero_add]
  | cons term first ih =>
    rw [cons_append, totalOf_cons, ih, totalOf_cons, Option.map₂_assoc add_assoc]

theorem totalOf_flatten (parts : List (List (Option Value))) :
    totalOf (parts.map totalOf) = totalOf parts.flatten := by
  induction parts with
  | nil => rfl
  | cons part parts ih =>
    rw [map_cons, totalOf_cons, ih, flatten_cons, totalOf_append]

theorem totalOf_perm {first second : List (Option Value)} (perm : first.Perm second) :
    totalOf first = totalOf second := by
  induction perm with
  | nil => rfl
  | cons term _ ih => rw [totalOf_cons, ih, totalOf_cons]
  | swap first second terms =>
    simp only [totalOf_cons]
    exact Option.map₂_left_comm add_left_comm
  | trans _ _ firstHypothesis secondHypothesis => exact firstHypothesis.trans secondHypothesis

theorem totalOf_map_some (values : List Value) : totalOf (values.map some) = some values.sum := by
  induction values with
  | nil => rfl
  | cons value values ih =>
    rw [map_cons, totalOf_cons, ih, sum_cons]
    rfl

/-- One undefined term makes the sum undefined. -/
theorem totalOf_eq_none {terms : List (Option Value)} (undefined : none ∈ terms) :
    totalOf terms = none := by
  induction terms with
  | nil => cases undefined
  | cons term terms ih =>
    rw [totalOf_cons]
    rcases mem_cons.mp undefined with rfl | later
    · rfl
    · rw [ih later]
      cases term <;> rfl

theorem totalOf_map_add {Item : Type*} (first second : Item → Option Value)
    (items : List Item) :
    totalOf (items.map fun item => Option.map₂ (· + ·) (first item) (second item)) =
      Option.map₂ (· + ·) (totalOf (items.map first)) (totalOf (items.map second)) := by
  induction items with
  | nil => rw [map_nil, map_nil, map_nil, totalOf_nil,
      Option.map₂_left_identity zero_add]
  | cons item items ih =>
    simp only [map_cons, totalOf_cons, ih]
    have exchange := @Option.map₂_left_comm _ _ _ _ (second item) (totalOf (items.map first))
      (totalOf (items.map second)) _ _ _ _ _ _ add_left_comm
    rw [Option.map₂_assoc add_assoc, exchange, ← Option.map₂_assoc add_assoc]

/-- A homomorphism may be applied to the sum or to its terms. -/
theorem map_totalOf {Other : Type*} [AddCommMonoid Other] (hom : Value →+ Other)
    (terms : List (Option Value)) :
    (totalOf terms).map hom = totalOf (terms.map (Option.map hom)) := by
  induction terms with
  | nil => exact congrArg some (map_zero hom)
  | cons term terms ih =>
    rw [map_cons, totalOf_cons, totalOf_cons, ← ih]
    cases term <;> cases totalOf terms <;> simp

end CosmosRl.Foundation
