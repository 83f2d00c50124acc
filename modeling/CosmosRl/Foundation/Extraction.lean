import Mathlib.Data.List.Perm.Subperm

/-!
Taking elements out of a list one after the other, at any positions.

`Extracts taken before after` records the elements in the order they leave.
Nothing is lost or repeated, and an element that stays only moves forward; when
the head is always among the elements taken, every element leaves in the end.
-/

namespace CosmosRl.Foundation

open List

universe u

variable {Alpha : Type u}

/-- The elements `taken`, in this order, lead from one list to another. -/
inductive Extracts : List Alpha → List Alpha → List Alpha → Prop where
  | nil (items) : Extracts [] items items
  | cons {taken before after} (position : Nat) (inside : position < before.length) :
      Extracts taken (before.eraseIdx position) after →
      Extracts (before[position] :: taken) before after

namespace Extracts

variable {taken before after : List Alpha}

section

variable (extracts : Extracts taken before after)

include extracts

theorem perm : (taken ++ after).Perm before := by
  induction extracts with
  | nil items => exact .refl _
  | cons position inside _ ih =>
    exact (ih.cons _).trans (getElem_cons_eraseIdx_perm inside)

theorem append_right (behind : List Alpha) :
    Extracts taken (before ++ behind) (after ++ behind) := by
  induction extracts with
  | nil items => exact .nil _
  | @cons taken before after position inside _ ih =>
    have insideBoth : position < (before ++ behind).length := by
      rw [length_append]
      omega
    have step := @Extracts.cons _ taken _ (after ++ behind) position insideBoth
      (by rw [eraseIdx_append_of_lt_length inside]; exact ih)
    rwa [getElem_append_left inside] at step

theorem mem_take {item : Alpha} {bound : Nat} (front : item ∈ before.take bound) :
    item ∈ taken ∨ item ∈ after.take bound := by
  induction extracts with
  | nil items => exact .inr front
  | @cons taken before after position inside _ ih =>
    by_cases beyond : bound ≤ position
    · rcases ih (by
        rwa [take_eraseIdx_eq_take_of_le _ _ _ beyond]) with within | remains
      · exact .inl (mem_cons_of_mem _ within)
      · exact .inr remains
    · obtain ⟨index, indexBound, equality⟩ := mem_take_iff_getElem.mp front
      have indexInside : index < before.length := by omega
      by_cases same : index = position
      · subst same
        rw [← equality]
        exact .inl (by simp)
      · have stays : item ∈ (before.eraseIdx position).take bound := by
          rw [mem_take_iff_getElem]
          have shorter := length_eraseIdx_of_lt inside
          by_cases ahead : index < position
          · refine ⟨index, by omega, ?_⟩
            rw [getElem_eraseIdx_of_lt _ ahead]
            exact equality
          · refine ⟨index - 1, by omega, ?_⟩
            rw [getElem_eraseIdx_of_ge _ (by omega)]
            simp only [show index - 1 + 1 = index by omega]
            exact equality
        rcases ih stays with within | remains
        · exact .inl (mem_cons_of_mem _ within)
        · exact .inr remains

theorem sublist : after.Sublist before := by
  induction extracts with
  | nil items => exact .refl _
  | cons position inside _ ih =>
    exact ih.trans (eraseIdx_sublist _ _)

/-- The first elements are taken or remain among the first ones, each as often as it was
there. -/
theorem take_subperm (bound : Nat) : (before.take bound).Subperm (taken ++ after.take bound) := by
  induction extracts with
  | nil items => exact (List.Perm.refl _).subperm
  | @cons taken before after position inside _ ih =>
    by_cases beyond : bound ≤ position
    · rw [take_eraseIdx_eq_take_of_le _ _ _ beyond] at ih
      exact ih.trans (sublist_cons_self _ _).subperm
    · have insideTake : position < (before.take bound).length := by
        rw [length_take]
        omega
      have front := getElem_cons_eraseIdx_perm insideTake
      rw [getElem_take] at front
      have shorter : ((before.take bound).eraseIdx position).Subperm
          ((before.eraseIdx position).take bound) := by
        obtain ⟨bound, rfl⟩ : ∃ less, bound = less + 1 := ⟨bound - 1, by omega⟩
        have same : (before.take (bound + 1)).eraseIdx position =
            (before.eraseIdx position).take bound :=
          ext_getElem (by grind) (by grind)
        rw [same]
        exact (take_sublist_take_left (by omega)).subperm
      refine front.symm.subperm.trans ?_
      rw [cons_append]
      exact (subperm_cons _).mpr (shorter.trans ih)

end

end Extracts

end CosmosRl.Foundation
