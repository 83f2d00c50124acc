import Mathlib.Data.List.Nodup
import Mathlib.Data.List.Perm.Basic

/-!
Evicting the oldest item of a list but for a pinned one.

The pinned item is spared as long as there is another one to evict, which may be the newest.
-/

namespace CosmosRl.Foundation

open List

variable {Item : Type*} [DecidableEq Item]

def evictOldest (pinned : Option Item) : List Item → Option Item × List Item
  | [] => (none, [])
  | [oldest] => (some oldest, [])
  | oldest :: second :: others =>
    if pinned = some oldest then (some second, oldest :: others)
    else (some oldest, second :: others)

variable {pinned : Option Item} {items kept : List Item} {target : Item} {front : List Item}

theorem perm_of_evictOldest (evicted : evictOldest pinned items = (some target, kept)) :
    items.Perm (target :: kept) := by
  match items with
  | [] => cases evicted
  | [oldest] =>
    cases evicted
    exact List.Perm.refl _
  | oldest :: second :: others =>
    rw [evictOldest] at evicted
    split at evicted
    · cases evicted
      exact List.Perm.swap _ _ _
    · cases evicted
      exact List.Perm.refl _

theorem exists_evictOldest (pinned : Option Item) (nonempty : items ≠ []) :
    ∃ target kept, evictOldest pinned items = (some target, kept) := by
  match items with
  | [] => exact absurd rfl nonempty
  | [oldest] => exact ⟨oldest, [], rfl⟩
  | oldest :: second :: others =>
    rw [evictOldest]
    split
    · exact ⟨_, _, rfl⟩
    · exact ⟨_, _, rfl⟩

theorem ne_pinned_of_evictOldest (distinct : items.Nodup) (others : 2 ≤ items.length)
    (evicted : evictOldest pinned items = (some target, kept)) : pinned ≠ some target := by
  match items with
  | [] => cases evicted
  | [oldest] => exact absurd others (by simp)
  | oldest :: second :: others =>
    rw [evictOldest] at evicted
    split at evicted
    case isTrue same =>
      cases evicted
      rw [same]
      intro equal
      have member : oldest ∈ target :: others := Option.some.inj equal ▸ mem_cons_self
      exact (nodup_cons.mp distinct).1 member
    case isFalse other =>
      cases evicted
      exact other

theorem evictOldest_append_iff {newest : Item} (distinct : (front ++ [newest]).Nodup)
    (evicted : evictOldest pinned (front ++ [newest]) = (some target, kept)) :
    target = newest ↔ front = [] ∨ ∃ oldest, front = [oldest] ∧ pinned = some oldest := by
  match front with
  | [] =>
    cases evicted
    exact iff_of_true rfl (.inl rfl)
  | [oldest] =>
    have differ : oldest ≠ newest := by simpa using distinct
    rw [singleton_append, evictOldest] at evicted
    split at evicted
    case isTrue same =>
      cases evicted
      exact iff_of_true rfl (.inr ⟨oldest, rfl, same⟩)
    case isFalse other =>
      cases evicted
      refine iff_of_false differ ?_
      rintro (none | ⟨item, single, same⟩)
      · cases none
      · cases single
        exact other same
  | oldest :: second :: others =>
    have apart : newest ∉ oldest :: second :: others := by
      rw [nodup_append] at distinct
      exact fun member => distinct.2.2 newest member newest mem_cons_self rfl
    have early : target ∈ oldest :: second :: others := by
      rw [cons_append, cons_append, evictOldest] at evicted
      split at evicted
      · cases evicted
        exact mem_cons_of_mem _ mem_cons_self
      · cases evicted
        exact mem_cons_self
    refine iff_of_false (fun same => apart (same ▸ early)) ?_
    rintro (none | ⟨item, single, _⟩)
    · cases none
    · cases single

theorem newest_mem_iff {newest : Item} (distinct : (front ++ [newest]).Nodup)
    (evicted : evictOldest pinned (front ++ [newest]) = (some target, kept)) :
    newest ∈ kept ↔ ¬ (front = [] ∨ ∃ oldest, front = [oldest] ∧ pinned = some oldest) := by
  have permuted := perm_of_evictOldest evicted
  obtain ⟨apart, _⟩ := nodup_cons.mp (permuted.nodup_iff.mp distinct)
  rw [← evictOldest_append_iff distinct evicted]
  constructor
  · intro member same
    exact apart (same ▸ member)
  · intro differ
    have listed : newest ∈ target :: kept :=
      permuted.mem_iff.mp (mem_append_right _ mem_cons_self)
    exact (mem_cons.mp listed).resolve_left fun same => differ same.symm

end CosmosRl.Foundation
