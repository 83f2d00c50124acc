import Mathlib.Algebra.BigOperators.Group.List.Basic
import Mathlib.Algebra.Order.Monoid.Defs

/-!
Loads that differ by at most a bound.

When the loads of two lists are added from opposite ends, the fullest of the one to the
emptiest of the other, their sums differ by no more than the loads of either list did.
-/

namespace CosmosRl.Foundation

open List

variable {Load : Type*} [AddCommMonoid Load] [PartialOrder Load] [IsOrderedAddMonoid Load]
  {bound : Load} {loads others : List Load}

def WithinSpread (bound : Load) (loads : List Load) : Prop :=
  ∀ first ∈ loads, ∀ second ∈ loads, first ≤ second + bound

omit [IsOrderedAddMonoid Load] in
theorem withinSpread_of_subset (within : WithinSpread bound loads)
    (subset : others ⊆ loads) : WithinSpread bound others :=
  fun first isFirst second isSecond =>
    within first (subset isFirst) second (subset isSecond)

theorem withinSpread_of_le (nonneg : ∀ load ∈ loads, 0 ≤ load)
    (limited : ∀ load ∈ loads, load ≤ bound) : WithinSpread bound loads := by
  intro first isFirst second isSecond
  calc first ≤ bound := limited first isFirst
    _ ≤ second + bound := le_add_of_nonneg_left (nonneg second isSecond)

omit [PartialOrder Load] [IsOrderedAddMonoid Load] in
theorem exists_of_mem_zipWith_add {sum : Load} (member : sum ∈ List.zipWith (· + ·) loads others) :
    ∃ first ∈ loads, ∃ second ∈ others, sum = first + second := by
  rw [← map_uncurry_zip_eq_zipWith, mem_map] at member
  obtain ⟨pair, isPair, rfl⟩ := member
  obtain ⟨isFirst, isSecond⟩ :=
    of_mem_zip (show (pair.1, pair.2) ∈ loads.zip others from isPair)
  exact ⟨pair.1, isFirst, pair.2, isSecond, rfl⟩

/-- Adding decreasing loads to increasing ones keeps the spread. -/
theorem withinSpread_zipWith_add (decreasing : loads.Pairwise fun first second => second ≤ first)
    (increasing : others.Pairwise fun first second => first ≤ second)
    (within : WithinSpread bound loads) (otherWithin : WithinSpread bound others) :
    WithinSpread bound (List.zipWith (· + ·) loads others) := by
  induction loads generalizing others with
  | nil => exact fun first isFirst => absurd isFirst not_mem_nil
  | cons load loads ih =>
    cases others with
    | nil => exact fun first isFirst => absurd isFirst not_mem_nil
    | cons other others =>
      rw [pairwise_cons] at decreasing increasing
      have rest := ih decreasing.2 increasing.2
        (withinSpread_of_subset within (subset_cons_self _ _))
        (withinSpread_of_subset otherWithin (subset_cons_self _ _))
      have zero_le_bound : load ≤ load + bound :=
        within load mem_cons_self load mem_cons_self
      rw [zipWith_cons_cons]
      intro first isFirst second isSecond
      rw [mem_cons] at isFirst isSecond
      rcases isFirst with rfl | isFirst
      · rcases isSecond with rfl | isSecond
        · -- the first sum against itself
          rw [add_right_comm]
          exact add_le_add_left zero_le_bound _
        · obtain ⟨later, isLater, last, isLast, rfl⟩ := exists_of_mem_zipWith_add isSecond
          have fuller := within load mem_cons_self later (mem_cons_of_mem _ isLater)
          have emptier := increasing.1 last isLast
          rw [add_right_comm]
          exact add_le_add fuller emptier
      · rcases isSecond with rfl | isSecond
        · obtain ⟨later, isLater, last, isLast, rfl⟩ := exists_of_mem_zipWith_add isFirst
          have emptier := decreasing.1 later isLater
          have fuller := otherWithin last (mem_cons_of_mem _ isLast) other mem_cons_self
          rw [add_assoc]
          exact add_le_add emptier fuller
        · exact rest first isFirst second isSecond

theorem length_nsmul_le_sum_add {load : Load} (near : ∀ other ∈ others, load ≤ other + bound) :
    others.length • load ≤ others.sum + others.length • bound := by
  induction others with
  | nil => simp
  | cons other others ih =>
    rw [forall_mem_cons] at near
    rw [length_cons, succ_nsmul, succ_nsmul, sum_cons, add_comm other, add_add_add_comm]
    exact add_le_add (ih near.2) near.1

/-- So many times the fullest load is the sum at most, with a bound for every other load. -/
theorem length_nsmul_le_of_withinSpread (within : WithinSpread bound loads) {load : Load}
    (member : load ∈ loads) :
    loads.length • load ≤ loads.sum + (loads.length - 1) • bound := by
  obtain ⟨front, back, rfl⟩ := append_of_mem member
  have near : ∀ other ∈ front ++ back, load ≤ other + bound := fun other isOther =>
    within load member other (by
      rcases mem_append.mp isOther with inFront | inBack
      · exact mem_append_left _ inFront
      · exact mem_append_right _ (mem_cons_of_mem load inBack))
  have others := add_le_add_right (length_nsmul_le_sum_add near) load
  have length : (front ++ load :: back).length = (front ++ back).length + 1 := by
    simp only [length_append, length_cons, Nat.add_assoc]
  have sum : (front ++ load :: back).sum = load + (front ++ back).sum := by
    rw [sum_append, sum_append, sum_cons, add_left_comm]
  rw [length, sum, succ_nsmul', Nat.add_sub_cancel, add_assoc]
  exact others

end CosmosRl.Foundation
