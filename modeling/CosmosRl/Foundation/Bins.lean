import Mathlib.Data.List.GetD
import Mathlib.Order.Lattice

/-!
Bins that are opened one after the other.
-/

namespace CosmosRl.Foundation

variable {Item : Type*} {bins : List (List Item)} {index : Nat} {items : List Item}

/-- The items are added to an open bin, or a new bin is opened for them behind the others. -/
def place (bins : List (List Item)) (index : Nat) (items : List Item) : List (List Item) :=
  if index + 1 ≤ bins.length then bins.modify index (· ++ items) else bins ++ [items]

def contents (bins : List (List Item)) (index : Nat) : List Item :=
  bins[index]?.getD []

theorem length_place (reached : index ≤ bins.length) :
    (place bins index items).length = max bins.length (index + 1) := by
  rw [place]
  split
  · rw [List.length_modify]
    omega
  · rw [List.length_append, List.length_singleton]
    omega

theorem contents_place (reached : index ≤ bins.length) (other : Nat) :
    contents (place bins index items) other =
      contents bins other ++ if other = index then items else [] := by
  rw [place]
  split
  case isTrue opened =>
    simp only [contents, List.getElem?_modify]
    by_cases same : other = index
    · subst same
      simp [List.getElem?_eq_getElem opened]
    · simp [same, Ne.symm same]
  case isFalse new =>
    have atEnd : index = bins.length := by omega
    subst atEnd
    simp only [contents]
    rcases Nat.lt_trichotomy other bins.length with before | same | behind
    · simp [List.getElem?_append_left before, Nat.ne_of_lt before]
    · simp [same]
    · simp [List.getElem?_append_right (Nat.le_of_lt behind), Nat.ne_of_gt behind,
        List.getElem?_eq_none (Nat.le_of_lt behind), Nat.sub_ne_zero_of_lt behind]

end CosmosRl.Foundation
