import Mathlib.Data.List.Basic

/-!
The positions that a boolean mask marks.

The positions are numbered from an offset on, so that the mask of a text put together
from parts is described part by part.
-/

namespace CosmosRl.Foundation

/-- The marked positions of a mask whose first entry stands at `offset`. -/
def maskedPositions : Nat → List Bool → List Nat
  | _, [] => []
  | offset, marked :: mask =>
    if marked then offset :: maskedPositions (offset + 1) mask
    else maskedPositions (offset + 1) mask

@[simp]
theorem maskedPositions_nil (offset : Nat) : maskedPositions offset [] = [] :=
  rfl

@[simp]
theorem maskedPositions_true (offset : Nat) (mask : List Bool) :
    maskedPositions offset (true :: mask) = offset :: maskedPositions (offset + 1) mask :=
  rfl

@[simp]
theorem maskedPositions_false (offset : Nat) (mask : List Bool) :
    maskedPositions offset (false :: mask) = maskedPositions (offset + 1) mask :=
  rfl

theorem maskedPositions_append (offset : Nat) (front back : List Bool) :
    maskedPositions offset (front ++ back) =
      maskedPositions offset front ++ maskedPositions (offset + front.length) back := by
  induction front generalizing offset with
  | nil => simp
  | cons marked front ih =>
    have moved : offset + (front.length + 1) = offset + 1 + front.length := by omega
    cases marked <;> simp [ih, moved]

@[simp]
theorem maskedPositions_replicate_false (offset count : Nat) :
    maskedPositions offset (List.replicate count false) = [] := by
  induction count generalizing offset with
  | zero => simp
  | succ count ih =>
    rw [List.replicate_succ, maskedPositions_false, ih]

@[simp]
theorem maskedPositions_replicate_true (offset count : Nat) :
    maskedPositions offset (List.replicate count true) = List.range' offset count := by
  induction count generalizing offset with
  | zero => simp
  | succ count ih =>
    rw [List.replicate_succ, maskedPositions_true, ih, List.range'_succ]

theorem offset_le_of_mem_maskedPositions {offset position : Nat} {mask : List Bool}
    (member : position ∈ maskedPositions offset mask) : offset ≤ position := by
  induction mask generalizing offset with
  | nil => simp at member
  | cons marked mask ih =>
    cases marked with
    | false =>
      rw [maskedPositions_false] at member
      have later := ih member
      omega
    | true =>
      rw [maskedPositions_true, List.mem_cons] at member
      rcases member with rfl | member
      · exact Nat.le_refl _
      · have later := ih member
        omega

theorem mem_maskedPositions_iff (offset position : Nat) (mask : List Bool) :
    position ∈ maskedPositions offset mask ↔
      offset ≤ position ∧ mask[position - offset]? = some true := by
  induction mask generalizing offset with
  | nil => simp
  | cons marked mask ih =>
    have inRest : position ∈ maskedPositions (offset + 1) mask ↔
        offset < position ∧ (marked :: mask)[position - offset]? = some true := by
      rw [ih, Nat.succ_le_iff]
      refine and_congr_right fun later => ?_
      have next : position - offset = position - (offset + 1) + 1 := by omega
      rw [next, List.getElem?_cons_succ]
    rcases Nat.lt_trichotomy position offset with before | rfl | later
    · have absent : position ∉ maskedPositions offset (marked :: mask) := fun member =>
        absurd (offset_le_of_mem_maskedPositions member) (Nat.not_le.mpr before)
      exact iff_of_false absent fun both => absurd both.1 (Nat.not_le.mpr before)
    · cases marked with
      | true => simp
      | false =>
        rw [maskedPositions_false, inRest]
        simp
    · have different : position ≠ offset := Nat.ne_of_gt later
      have same : position ∈ maskedPositions offset (marked :: mask) ↔
          position ∈ maskedPositions (offset + 1) mask := by
        cases marked with
        | true => rw [maskedPositions_true, List.mem_cons, or_iff_right different]
        | false => rw [maskedPositions_false]
      rw [same, inRest]
      exact and_congr_left fun _ => ⟨fun _ => Nat.le_of_lt later, fun _ => later⟩

theorem maskedPositions_take (offset width : Nat) (mask : List Bool) :
    maskedPositions offset (mask.take width) =
      (maskedPositions offset mask).filter (· < offset + width) := by
  induction mask generalizing offset width with
  | nil => simp
  | cons marked mask ih =>
    cases width with
    | zero =>
      rw [List.take_zero, maskedPositions_nil, eq_comm, List.filter_eq_nil_iff]
      intro position member
      have later := offset_le_of_mem_maskedPositions member
      simpa using later
    | succ width =>
      have moved : offset + (width + 1) = offset + 1 + width := by omega
      have early : offset < offset + 1 + width := by omega
      cases marked <;> simp [ih, moved, early]

theorem maskedPositions_ne_nil_iff (offset : Nat) (mask : List Bool) :
    maskedPositions offset mask ≠ [] ↔ mask.any id = true := by
  induction mask generalizing offset with
  | nil => simp
  | cons marked mask ih =>
    cases marked with
    | false =>
      rw [maskedPositions_false, ih]
      simp
    | true => simp

theorem not_forall_shifted {positions : List Nat} (nonempty : positions ≠ []) :
    ¬ ∀ position ∈ positions, ∃ earlier ∈ positions, earlier + 1 = position := by
  intro shifted
  have absent : ∀ position, position ∉ positions := by
    intro position
    induction position with
    | zero =>
      intro member
      obtain ⟨earlier, _, impossible⟩ := shifted 0 member
      omega
    | succ position ih =>
      intro member
      obtain ⟨earlier, earlierMember, next⟩ := shifted (position + 1) member
      have same : earlier = position := by omega
      exact ih (same ▸ earlierMember)
  exact nonempty (List.eq_nil_iff_forall_not_mem.mpr absent)

end CosmosRl.Foundation
