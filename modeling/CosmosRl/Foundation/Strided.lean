import Mathlib.Data.List.Nodup
import Mathlib.Data.List.Perm.Basic

/-!
Strided ranges: dealing the numbers below a bound to several receivers in turn.

Receiver `start` of `step` gets the numbers congruent to `start`.  All receivers
together get every number once, also when they are numbered in two dimensions.
-/

namespace CosmosRl.Foundation

open List

/-- The numbers from `start` on, in steps, below `stop`. -/
def stridedRange (start stop step : Nat) : List Nat :=
  List.range' start ((stop - start + step - 1) / step) step

variable {start stop step : Nat}

theorem mem_stridedRange {number : Nat} (positive : 0 < step) :
    number ∈ stridedRange start stop step ↔
      number < stop ∧ ∃ turn, number = start + step * turn := by
  rw [stridedRange, mem_range']
  constructor
  · rintro ⟨turn, below, rfl⟩
    refine ⟨?_, turn, rfl⟩
    have room : step * (turn + 1) ≤ stop - start + step - 1 :=
      Nat.le_trans (Nat.mul_le_mul_left step below) (Nat.mul_div_le _ _)
    rw [Nat.mul_succ] at room
    omega
  · rintro ⟨below, turn, rfl⟩
    refine ⟨turn, ?_, rfl⟩
    rw [Nat.lt_iff_add_one_le, Nat.le_div_iff_mul_le positive, Nat.add_mul, Nat.one_mul,
      Nat.mul_comm]
    omega

theorem nodup_stridedRange (positive : 0 < step) : (stridedRange start stop step).Nodup :=
  nodup_range' step positive

theorem pairwise_stridedRange (positive : 0 < step) :
    (stridedRange start stop step).Pairwise (· < ·) :=
  pairwise_lt_range' step positive

theorem stridedRange_eq_nil_iff (positive : 0 < step) :
    stridedRange start stop step = [] ↔ stop ≤ start := by
  constructor
  · intro empty
    by_contra early
    have member : start ∈ stridedRange start stop step :=
      (mem_stridedRange positive).mpr ⟨by omega, 0, by simp⟩
    simp [empty] at member
  · intro late
    rw [eq_nil_iff_forall_not_mem]
    intro number member
    obtain ⟨below, turn, rfl⟩ := (mem_stridedRange positive).mp member
    omega

theorem length_stridedRange_le {start stop step : Nat} (positive : 0 < step) :
    (stridedRange start stop step).length ≤ stop := by
  have within : stridedRange start stop step ⊆ List.range stop := fun number member =>
    mem_range.mpr ((mem_stridedRange positive).mp member).1
  have bounded := (subperm_of_subset (nodup_stridedRange positive) within).length_le
  rwa [length_range] at bounded

theorem mod_of_mem_stridedRange {number : Nat} (receiver : start < step)
    (member : number ∈ stridedRange start stop step) : number % step = start := by
  obtain ⟨_, turn, rfl⟩ := (mem_stridedRange (by omega)).mp member
  rw [Nat.add_mul_mod_self_left, Nat.mod_eq_of_lt receiver]

theorem flatMap_stridedRange_perm {stop step : Nat} (positive : 0 < step) :
    ((List.range step).flatMap fun start => stridedRange start stop step).Perm
      (List.range stop) := by
  have distinct : ((List.range step).flatMap fun start =>
      stridedRange start stop step).Nodup := by
    rw [nodup_flatMap]
    refine ⟨fun start _ => nodup_stridedRange positive, ?_⟩
    refine List.Pairwise.imp_of_mem ?_ (@nodup_range step)
    intro first second firstReceiver secondReceiver different number inFirst inSecond
    rw [mem_range] at firstReceiver secondReceiver
    exact different ((mod_of_mem_stridedRange firstReceiver inFirst).symm.trans
      (mod_of_mem_stridedRange secondReceiver inSecond))
  rw [perm_ext_iff_of_nodup distinct nodup_range]
  intro number
  rw [mem_flatMap, mem_range]
  constructor
  · rintro ⟨start, _, member⟩
    exact ((mem_stridedRange positive).mp member).1
  · intro below
    refine ⟨number % step, mem_range.mpr (Nat.mod_lt _ positive), ?_⟩
    exact (mem_stridedRange positive).mpr ⟨below, number / step, (Nat.mod_add_div number step).symm⟩

theorem range_mul_flatMap {Alpha : Type*} (rows columns : Nat) (deal : Nat → List Alpha) :
    ((List.range rows).flatMap fun row =>
        (List.range columns).flatMap fun column => deal (row * columns + column)) =
      (List.range (rows * columns)).flatMap deal := by
  induction rows with
  | zero => simp
  | succ rows ih =>
    rw [range_succ, flatMap_append, ih, Nat.succ_mul, range_add, flatMap_append, flatMap_map]
    simp

end CosmosRl.Foundation
