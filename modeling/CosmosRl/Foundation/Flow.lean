import Mathlib.Data.List.Perm.Basic
import Mathlib.Tactic.Cases

/-!
Items flowing through a store, and batches announced in a log.

Items arrive at a store, wait in it, and leave it delivered or withdrawn.  A flow
says that every arrival is accounted for exactly once and, for a store that keeps
the order of arrival, that items leave in that order.

In a log some entries are items and some announce how many items have been logged
since the announcement before.
-/

namespace CosmosRl.Foundation

open List

universe u

/-- Items that wait or arrive are delivered, withdrawn or still wait, each exactly once.
An ordered store lets the longest waiting items leave first and delivers in order. -/
def Flow {Item : Type u} (ordered : Prop)
    (waiting arrived delivered withdrawn remaining : List Item) : Prop :=
  ∃ settled : List Item, settled.Perm (delivered ++ withdrawn) ∧
    (waiting ++ arrived).Perm (settled ++ remaining) ∧
    (ordered → waiting ++ arrived = settled ++ remaining ∧ delivered.Sublist settled)

namespace Flow

variable {Item : Type u} {ordered : Prop}
  {waiting arrived delivered withdrawn remaining : List Item}

theorem still (rearranged : waiting.Perm remaining) (kept : ordered → waiting = remaining) :
    Flow ordered waiting [] [] [] remaining := by
  refine ⟨[], .nil, by simpa using rearranged, fun inOrder => ⟨?_, .slnil⟩⟩
  simpa using kept inOrder

theorem refl (waiting : List Item) : Flow ordered waiting [] [] [] waiting :=
  still (List.Perm.refl _) fun _ => rfl

theorem arrive (rearranged : (waiting ++ arrived).Perm remaining)
    (kept : ordered → waiting ++ arrived = remaining) :
    Flow ordered waiting arrived [] [] remaining := by
  refine ⟨[], .nil, rearranged, fun inOrder => ⟨?_, .slnil⟩⟩
  exact kept inOrder

theorem deliver (moved : waiting.Perm (delivered ++ remaining))
    (kept : ordered → waiting = delivered ++ remaining) :
    Flow ordered waiting [] delivered [] remaining := by
  refine ⟨delivered, by simp, by simpa using moved, fun inOrder => ⟨?_, .refl _⟩⟩
  simpa using kept inOrder

theorem withdraw (waiting : List Item) : Flow ordered waiting [] [] waiting [] :=
  ⟨waiting, by simp, by simp, fun _ => ⟨by simp, nil_sublist _⟩⟩

theorem trans {laterArrived laterDelivered laterWithdrawn last : List Item}
    (first : Flow ordered waiting arrived delivered withdrawn remaining)
    (second : Flow ordered remaining laterArrived laterDelivered laterWithdrawn last) :
    Flow ordered waiting (arrived ++ laterArrived) (delivered ++ laterDelivered)
      (withdrawn ++ laterWithdrawn) last := by
  obtain ⟨settled, fates, moved, kept⟩ := first
  obtain ⟨laterSettled, laterFates, laterMoved, laterKept⟩ := second
  refine ⟨settled ++ laterSettled, ?_, ?_, ?_⟩
  · have both := fates.append laterFates
    refine both.trans ?_
    simp only [append_assoc]
    apply List.Perm.append_left
    rw [← append_assoc, ← append_assoc]
    exact List.Perm.append_right _ perm_append_comm
  · have movedFirst := moved.append_right laterArrived
    rw [append_assoc, append_assoc] at movedFirst
    have movedBoth := movedFirst.trans (laterMoved.append_left settled)
    rwa [← append_assoc settled] at movedBoth
  · intro inOrder
    obtain ⟨sequence, delivery⟩ := kept inOrder
    obtain ⟨laterSequence, laterDelivery⟩ := laterKept inOrder
    refine ⟨?_, delivery.append laterDelivery⟩
    rw [← append_assoc, sequence, append_assoc, laterSequence, append_assoc]

theorem perm (flow : Flow ordered waiting arrived delivered withdrawn remaining) :
    (waiting ++ arrived).Perm (delivered ++ withdrawn ++ remaining) := by
  obtain ⟨settled, fates, moved, _⟩ := flow
  exact moved.trans (fates.append_right remaining)

theorem length_eq (flow : Flow ordered waiting arrived delivered withdrawn remaining) :
    waiting.length + arrived.length =
      delivered.length + withdrawn.length + remaining.length := by
  have counted := flow.perm.length_eq
  rwa [length_append, length_append, length_append] at counted

end Flow

theorem perm_flatten_modify {Item : Type u} {queues : List (List Item)} {position : Nat}
    (inside : position < queues.length) (item : Item) :
    (queues.modify position fun queue => queue ++ [item]).flatten.Perm
      (queues.flatten ++ [item]) := by
  induction queues generalizing position with
  | nil => simp at inside
  | cons queue rest ih =>
    cases position with
    | zero =>
      simp only [modify_zero_cons, flatten_cons, append_assoc]
      exact List.Perm.append_left queue perm_append_comm
    | succ position =>
      simp only [modify_succ_cons, flatten_cons, append_assoc]
      exact List.Perm.append_left queue (ih (Nat.lt_of_succ_lt_succ inside))

section Batches

variable {Entry : Type u} (item : Entry → Bool) (mark : Entry → Option Nat)

def countSince (count : Nat) (log : List Entry) : Nat :=
  log.foldl (fun count entry =>
    if (mark entry).isSome then 0 else if item entry then count + 1 else count) count

def sinceMark (log : List Entry) : Nat := countSince item mark 0 log

structure Announced (log : List Entry) : Prop where
  announces : ∀ earlier entry later count, log = earlier ++ entry :: later →
    mark entry = some count → sinceMark item mark earlier = count
  complete : sinceMark item mark log = 0

variable {item mark}

@[simp]
theorem countSince_append (count : Nat) (first second : List Entry) :
    countSince item mark count (first ++ second) =
      countSince item mark (countSince item mark count first) second := by
  simp [countSince]

theorem sinceMark_append {first second : List Entry} (complete : sinceMark item mark first = 0) :
    sinceMark item mark (first ++ second) = sinceMark item mark second := by
  unfold sinceMark at complete ⊢
  rw [countSince_append, complete]

theorem countSince_of_unmarked {log : List Entry} (unmarked : ∀ entry ∈ log, mark entry = none)
    (count : Nat) : countSince item mark count log = count + log.countP item := by
  induction log generalizing count with
  | nil => rfl
  | cons entry rest ih =>
    have none_here : mark entry = none := unmarked entry (by simp)
    have later := ih (fun other inside => unmarked other (by simp [inside]))
    unfold countSince at later ⊢
    rw [foldl_cons, none_here, countP_cons]
    simp only [Option.isSome_none, Bool.false_eq_true, if_false]
    rw [later]
    split <;> omega

namespace Announced

theorem append {first second : List Entry} (left : Announced item mark first)
    (right : Announced item mark second) : Announced item mark (first ++ second) := by
  refine ⟨?_, ?_⟩
  · intro earlier entry later count equality announced
    rcases append_eq_append_iff.mp equality with
      ⟨middle, rfl, inSecond⟩ | ⟨middle, inFirst, inSecond⟩
    · rw [sinceMark_append left.complete]
      exact right.announces middle entry later count inSecond announced
    · cases middle with
      | nil =>
        have inFirst : first = earlier := by simpa using inFirst
        have onlySecond : second = [] ++ entry :: later := by simpa using inSecond.symm
        rw [← inFirst, left.complete]
        exact right.announces [] entry later count onlySecond announced
      | cons head tail =>
        obtain ⟨rfl, _⟩ : entry = head ∧ later = tail ++ second := by
          simpa using inSecond
        exact left.announces earlier entry tail count inFirst announced
  · rw [sinceMark_append left.complete]
    exact right.complete

theorem of_quiet {log : List Entry} (unmarked : ∀ entry ∈ log, mark entry = none)
    (no_items : ∀ entry ∈ log, item entry = false) : Announced item mark log := by
  refine ⟨?_, ?_⟩
  · intro earlier entry later count equality announced
    have inside : entry ∈ log := by simp [equality]
    rw [unmarked entry inside] at announced
    cases announced
  · rw [sinceMark, countSince_of_unmarked unmarked, Nat.zero_add, countP_eq_zero]
    intro entry inside
    simp [no_items entry inside]

theorem of_batch {items : List Entry} {entry : Entry}
    (unmarked : ∀ entry ∈ items, mark entry = none)
    (announced : mark entry = some (items.countP item)) :
    Announced item mark (items ++ [entry]) := by
  have counted : sinceMark item mark items = items.countP item := by
    rw [sinceMark, countSince_of_unmarked unmarked, Nat.zero_add]
  refine ⟨?_, ?_⟩
  · intro earlier other later count equality found
    rcases append_eq_append_iff.mp equality with
      ⟨middle, rfl, inSecond⟩ | ⟨middle, inFirst, inSecond⟩
    · cases middle with
      | nil =>
        obtain ⟨rfl, _⟩ : entry = other ∧ later = [] := by
          simpa [eq_comm] using inSecond
        rw [announced, Option.some.injEq] at found
        rw [append_nil, counted, found]
      | cons head tail => simp at inSecond
    · cases middle with
      | nil =>
        have inFirst : items = earlier := by simpa using inFirst
        obtain ⟨rfl, _⟩ : other = entry ∧ later = [] := by simpa using inSecond
        rw [announced, Option.some.injEq] at found
        rw [← inFirst, counted, found]
      | cons head tail =>
        obtain ⟨rfl, _⟩ : other = head ∧ later = tail ++ [entry] := by simpa using inSecond
        have inside : other ∈ items := by simp [inFirst]
        rw [unmarked other inside] at found
        cases found
  · unfold sinceMark
    rw [countSince_append]
    simp [countSince, announced]

end Announced

end Batches

end CosmosRl.Foundation
