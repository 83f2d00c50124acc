import Mathlib.Algebra.BigOperators.Group.List.Basic
import Mathlib.Algebra.GroupWithZero.Nat

/-!
Offsets of parts in their concatenation.

The cumulative lengths of parts are where they start and end.  Prefix sums read there give
the sums of the parts, and what is read at a start is the next item there is, which is the
part's own first item unless the part is empty.
-/

namespace CosmosRl.Foundation

open List

section Offsets

variable {Item : Type*}

/-- Where the parts start, after `done` items. -/
def starts : Nat → List (List Item) → List Nat
  | _, [] => []
  | done, part :: parts => done :: starts (done + part.length) parts

/-- Where the parts end, after `done` items. -/
def ends : Nat → List (List Item) → List Nat
  | _, [] => []
  | done, part :: parts => (done + part.length) :: ends (done + part.length) parts

theorem dropLast_scanl_lengths (done : Nat) (parts : List (List Item)) :
    ((parts.map List.length).scanl (· + ·) done).dropLast = starts done parts := by
  induction parts generalizing done with
  | nil => rfl
  | cons part parts ih =>
    rw [map_cons, scanl_cons, dropLast_cons_of_ne_nil scanl_ne_nil, ih, starts]

theorem tail_scanl_lengths (done : Nat) (parts : List (List Item)) :
    ((parts.map List.length).scanl (· + ·) done).tail = ends done parts := by
  have all : (parts.map List.length).scanl (· + ·) done = done :: ends done parts := by
    induction parts generalizing done with
    | nil => exact scanl_nil
    | cons part parts ih =>
      rw [map_cons, scanl_cons, ih, ends]
  rw [all, tail_cons]

theorem zipWith_sub_offsets (done : Nat) (parts : List (List Item)) :
    List.zipWith (fun upTo start => upTo - start) (ends done parts) (starts done parts) =
      parts.map List.length := by
  induction parts generalizing done with
  | nil => rfl
  | cons part parts ih =>
    rw [ends, starts, zipWith_cons_cons, ih, Nat.add_sub_cancel_left, map_cons]

def nextItems : List (List Item) → List (Option Item)
  | [] => []
  | part :: parts => (part ++ parts.flatten).head? :: nextItems parts

theorem getElem?_starts (before : List Item) (parts : List (List Item)) :
    ((starts before.length parts).map fun start => (before ++ parts.flatten)[start]?) =
      nextItems parts := by
  induction parts generalizing before with
  | nil => rfl
  | cons part parts ih =>
    have later := ih (before ++ part)
    rw [length_append, append_assoc] at later
    rw [starts, nextItems, map_cons, flatten_cons, later,
      getElem?_append_right (Nat.le_refl _), Nat.sub_self, head?_eq_getElem?]

theorem none_mem_nextItems_iff (parts : List (List Item)) :
    none ∈ nextItems parts ↔ parts.getLast? = some [] := by
  induction parts with
  | nil => simp [nextItems]
  | cons part parts ih =>
    rw [nextItems, mem_cons, ih]
    cases parts with
    | nil => cases part <;> simp
    | cons next parts =>
      rw [getLast?_cons_cons]
      refine or_iff_right_of_imp ?_
      intro noneLeft
      have empty := append_eq_nil_iff.mp (head?_eq_none_iff.mp noneLeft.symm)
      rw [getLast?_eq_some_getLast (cons_ne_nil next parts)]
      exact congrArg some (flatten_eq_nil_iff.mp empty.2 _ (getLast_mem _))

theorem le_length_of_mem_offsets {before : List Item} {parts : List (List Item)} {offset : Nat}
    (member : offset ∈ starts before.length parts ∨ offset ∈ ends before.length parts) :
    offset ≤ (before ++ parts.flatten).length := by
  induction parts generalizing before with
  | nil => rcases member with member | member <;> cases member
  | cons part parts ih =>
    rw [starts, ends, ← length_append, mem_cons, mem_cons] at member
    rw [flatten_cons, ← append_assoc]
    rcases member with (rfl | later) | (rfl | later)
    · rw [append_assoc]
      exact (sublist_append_left before _).length_le
    · exact ih (.inl later)
    · exact (sublist_append_left (before ++ part) parts.flatten).length_le
    · exact ih (.inr later)

end Offsets

section PrefixSums

variable {Value : Type*} [AddCommGroup Value]

theorem getElem?_prefixSums (values : List Value) {offset : Nat} (inside : offset ≤ values.length) :
    (values.scanl (· + ·) 0)[offset]? = some (values.take offset).sum := by
  rw [getElem?_scanl, if_pos inside, sum_eq_foldl]

theorem sum_take_add (before part after : List Value) :
    ((before ++ (part ++ after)).take (before.length + part.length)).sum =
      before.sum + part.sum := by
  rw [take_length_add_append, take_left, sum_append]

/-- Differences of the prefix sums at the ends and at the starts are the sums of the parts. -/
theorem zipWith_sub_prefixSums (before : List Value) (parts : List (List Value)) :
    List.zipWith (fun upTo start : Value => upTo - start)
        ((ends before.length parts).map fun offset =>
          ((before ++ parts.flatten).take offset).sum)
        ((starts before.length parts).map fun offset =>
          ((before ++ parts.flatten).take offset).sum) =
      parts.map List.sum := by
  induction parts generalizing before with
  | nil => rfl
  | cons part parts ih =>
    have later := ih (before ++ part)
    rw [length_append, append_assoc] at later
    rw [starts, ends, map_cons, map_cons, zipWith_cons_cons, flatten_cons, later, sum_take_add,
      take_left, add_sub_cancel_left, map_cons]

end PrefixSums

end CosmosRl.Foundation
