import Mathlib.Algebra.BigOperators.Ring.Finset
import Mathlib.Tactic.Ring
import CosmosRl.Foundation.Dict

/-!
Weighted writes to slots, of which a later write replaces an earlier one.

What the slots hold in the end and what was overtaken make up all that was written.
-/

namespace CosmosRl.Foundation

open List

variable {Slot Number : Type*}

section Weighted

variable [CommRing Number]

def weighted (weights : List (Slot × Number)) (worth : Slot → Number) : Number :=
  (weights.map fun entry => entry.2 * worth entry.1).sum

@[simp] theorem weighted_nil (worth : Slot → Number) : weighted [] worth = 0 := rfl

@[simp] theorem weighted_cons (entry : Slot × Number) (weights : List (Slot × Number))
    (worth : Slot → Number) :
    weighted (entry :: weights) worth = entry.2 * worth entry.1 + weighted weights worth :=
  sum_cons

@[simp] theorem weighted_append (first second : List (Slot × Number)) (worth : Slot → Number) :
    weighted (first ++ second) worth = weighted first worth + weighted second worth := by
  simp [weighted]

theorem weighted_map {Other : Type*} (weights : List (Other × Number)) (change : Other → Slot)
    (worth : Slot → Number) :
    weighted (weights.map fun entry => (change entry.1, entry.2)) worth =
      weighted weights fun other => worth (change other) := by
  simp [weighted, Function.comp_def]

end Weighted

variable [DecidableEq Slot]

def lastWrite : List (Slot × Number) → Slot → Option Number
  | [], _ => none
  | write :: writes, slot =>
    (lastWrite writes slot).or (if write.1 = slot then some write.2 else none)

def overtaken : List (Slot × Number) → List (Slot × Number)
  | [] => []
  | write :: writes =>
    if write.1 ∈ writes.map Prod.fst then write :: overtaken writes else overtaken writes

theorem lastWrite_eq_none_iff (writes : List (Slot × Number)) (slot : Slot) :
    lastWrite writes slot = none ↔ slot ∉ writes.map Prod.fst := by
  induction writes with
  | nil => simp [lastWrite]
  | cons write writes ih =>
    rw [lastWrite, Option.or_eq_none_iff, ih, map_cons, mem_cons, not_or]
    by_cases same : write.1 = slot
    · simp [same]
    · simp [same, Ne.symm same]

theorem mem_of_lastWrite {writes : List (Slot × Number)} {slot : Slot} {value : Number}
    (last : lastWrite writes slot = some value) : (slot, value) ∈ writes := by
  induction writes with
  | nil => exact absurd last (by simp [lastWrite])
  | cons write writes ih =>
    rw [lastWrite, Option.or_eq_some_iff] at last
    rcases last with later | ⟨_, here⟩
    · exact mem_cons_of_mem _ (ih later)
    · obtain ⟨same, written⟩ := Option.ite_none_right_eq_some.mp here
      rw [← same, ← Option.some.inj written]
      exact mem_cons_self

theorem Dict.get?_update (dict : Dict Slot Number) (writes : List (Slot × Number)) (slot : Slot) :
    (dict.update writes).get? slot = (lastWrite writes slot).or (dict.get? slot) := by
  induction writes generalizing dict with
  | nil => rfl
  | cons write writes ih =>
    have later := ih (dict.set write.1 write.2)
    rw [Dict.get?_set] at later
    rw [lastWrite, Option.or_assoc]
    refine later.trans (congrArg _ ?_)
    by_cases same : write.1 = slot
    · simp [same]
    · simp [same, Ne.symm same]

section Weights

variable [CommRing Number] {slots : List Slot}

def weightOn (slot : Slot) (weights : List (Slot × Number)) : Number :=
  weighted weights fun other => if other = slot then 1 else 0

theorem sum_weightOn (weights : List (Slot × Number)) (worth : Slot → Number)
    (slots : Finset Slot) (covered : ∀ entry ∈ weights, entry.1 ∈ slots) :
    ∑ slot ∈ slots, weightOn slot weights * worth slot = weighted weights worth := by
  induction weights with
  | nil => simp [weightOn]
  | cons entry weights ih =>
    have rest := ih fun other member => covered other (mem_cons_of_mem _ member)
    have here : ∑ slot ∈ slots, (entry.2 * if entry.1 = slot then 1 else 0) * worth slot =
        entry.2 * worth entry.1 := by
      simp [covered entry mem_cons_self]
    simp only [weightOn, weighted_cons, add_mul, Finset.sum_add_distrib] at rest ⊢
    rw [here, rest]

theorem weighted_congr {first second : List (Slot × Number)}
    (same : ∀ slot, weightOn slot first = weightOn slot second) (worth : Slot → Number) :
    weighted first worth = weighted second worth := by
  have covered : ∀ entry ∈ first ++ second, entry.1 ∈ ((first ++ second).map Prod.fst).toFinset :=
    fun entry member => mem_toFinset.mpr (mem_map_of_mem member)
  rw [← sum_weightOn first worth _ fun entry member =>
      covered entry (mem_append_left _ member),
    ← sum_weightOn second worth _ fun entry member =>
      covered entry (mem_append_right _ member)]
  simp only [same]

theorem weighted_eq_zero {weights : List (Slot × Number)}
    (none : ∀ slot, weightOn slot weights = 0) (worth : Slot → Number) :
    weighted weights worth = 0 :=
  @weighted_congr _ _ _ _ weights [] none worth

private theorem sum_ite_slot (distinct : slots.Nodup) {slot : Slot}
    (member : slot ∈ slots) (value : Slot → Number) :
    (slots.map fun other => if slot = other then value other else 0).sum = value slot := by
  rw [← sum_toFinset _ distinct, Finset.sum_ite_eq, if_pos (mem_toFinset.mpr member)]

/-- What stays in the slots, together with what was overtaken, is what was written. -/
theorem sum_lastWrite_add_overtaken (writes : List (Slot × Number))
    (distinct : slots.Nodup) (covered : ∀ write ∈ writes, write.1 ∈ slots) (worth : Slot → Number) :
    (slots.map fun slot => (lastWrite writes slot).getD 0 * worth slot).sum +
      weighted (overtaken writes) worth = weighted writes worth := by
  induction writes with
  | nil => simp [lastWrite, overtaken]
  | cons write writes ih =>
    have rest := ih fun other member => covered other (mem_cons_of_mem _ member)
    rw [weighted_cons, ← rest, overtaken]
    split
    · rename_i again
      have unchanged : ∀ slot, lastWrite (write :: writes) slot = lastWrite writes slot := by
        intro slot
        rw [lastWrite]
        by_cases same : write.1 = slot
        · obtain ⟨value, last⟩ := Option.ne_none_iff_exists'.mp
            fun absent => (lastWrite_eq_none_iff writes slot).mp absent (same ▸ again)
          rw [last, Option.some_or]
        · rw [if_neg same, Option.or_none]
      simp only [unchanged, weighted_cons]
      ring
    · rename_i fresh
      have added : ∀ slot, (lastWrite (write :: writes) slot).getD 0 * worth slot =
          (if write.1 = slot then write.2 * worth slot else 0) +
            (lastWrite writes slot).getD 0 * worth slot := by
        intro slot
        rw [lastWrite]
        by_cases same : write.1 = slot
        · rw [(lastWrite_eq_none_iff writes slot).mpr (same ▸ fresh)]
          simp [same]
        · simp [same]
      simp only [added, sum_map_add,
        sum_ite_slot distinct (covered write mem_cons_self) fun slot =>
          write.2 * worth slot]
      ring

end Weights

end CosmosRl.Foundation
