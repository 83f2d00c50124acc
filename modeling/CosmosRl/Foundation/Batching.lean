import Mathlib.Data.Nat.Basic
import Mathlib.Data.List.Basic

/-!
A list in batches of one size, the last of which may be smaller or be dropped.

Dropping the elements of the first batches drops these batches.
-/

namespace CosmosRl.Foundation

open List

variable {Alpha : Type*}

def batchCount (size : Nat) (dropLast : Bool) (elements : Nat) : Nat :=
  if dropLast then elements / size else (elements + size - 1) / size

def inBatches (size : Nat) (dropLast : Bool) (list : List Alpha) : List (List Alpha) :=
  (List.range (batchCount size dropLast list.length)).map fun index =>
    (list.drop (index * size)).take size

@[simp]
theorem length_inBatches (size : Nat) (dropLast : Bool) (list : List Alpha) :
    (inBatches size dropLast list).length = batchCount size dropLast list.length := by
  simp [inBatches]

variable {size : Nat}

theorem batchCount_sub_mul (positive : 0 < size) (dropLast : Bool) (elements dropped : Nat) :
    batchCount size dropLast (elements - dropped * size) =
      batchCount size dropLast elements - dropped := by
  rw [Nat.mul_comm]
  cases dropLast with
  | true => exact Nat.sub_mul_div elements size dropped
  | false =>
    show (elements - size * dropped + size - 1) / size = (elements + size - 1) / size - dropped
    rcases Nat.le_total (size * dropped) elements with within | beyond
    · have shifted : elements - size * dropped + size - 1 =
          elements + size - 1 - size * dropped := by omega
      rw [shifted, Nat.sub_mul_div]
    · have none : (size - 1) / size = 0 := Nat.div_eq_of_lt (by omega)
      have few : (elements + size - 1) / size ≤ dropped := by
        rw [← Nat.lt_succ_iff, Nat.div_lt_iff_lt_mul positive, Nat.succ_mul,
          Nat.mul_comm dropped size]
        omega
      rw [Nat.sub_eq_zero_of_le beyond, Nat.zero_add, none, Nat.sub_eq_zero_of_le few]

theorem inBatches_drop_mul (positive : 0 < size) (dropLast : Bool)
    (list : List Alpha) (dropped : Nat) :
    inBatches size dropLast (list.drop (dropped * size)) =
      (inBatches size dropLast list).drop dropped := by
  apply ext_getElem
  · rw [length_inBatches, length_drop, length_drop, length_inBatches,
      batchCount_sub_mul positive]
  · intro index inside _
    rw [getElem_drop]
    simp [inBatches, drop_drop, Nat.add_mul]

theorem flatten_inBatches (positive : 0 < size) (list : List Alpha) :
    (inBatches size false list).flatten = list := by
  have front (count : Nat) : ((List.range count).map fun index =>
      (list.drop (index * size)).take size).flatten = list.take (count * size) := by
    induction count with
    | zero => simp
    | succ count ih =>
      rw [range_succ, map_append, flatten_append, ih,
        map_singleton, flatten_singleton, Nat.succ_mul, take_add]
  rw [inBatches, front]
  apply take_of_length_le
  have covers := Nat.lt_div_mul_add (a := list.length + size - 1) positive
  show list.length ≤ (list.length + size - 1) / size * size
  omega

theorem length_of_mem_inBatches {list batch : List Alpha}
    (divides : size ∣ list.length) (member : batch ∈ inBatches size false list) :
    batch.length = size := by
  obtain ⟨index, inRange, rfl⟩ := mem_map.mp member
  obtain ⟨count, lengthIs⟩ := divides
  rw [mem_range] at inRange
  have fewer : index < (list.length + size - 1) / size := inRange
  rcases Nat.eq_zero_or_pos size with rfl | positive
  · rw [Nat.div_zero] at fewer
    cases fewer
  · have early : index < count := by
      rw [Nat.lt_iff_add_one_le, Nat.le_div_iff_mul_le positive, Nat.succ_mul] at fewer
      by_contra late
      have more := Nat.mul_le_mul_left size (Nat.le_of_not_lt late)
      rw [← lengthIs, Nat.mul_comm] at more
      omega
    have room := Nat.mul_le_mul_left size (Nat.succ_le_of_lt early)
    rw [← lengthIs, Nat.mul_comm, Nat.succ_mul] at room
    rw [length_take, length_drop]
    omega

end CosmosRl.Foundation
