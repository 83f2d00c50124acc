import Mathlib.Data.List.DropRight

/-!
Rows that end in a run of filler entries.

A row is trimmed to everything up to its last entry that is not filler.  What is appended to
fill it up is trimmed again, and so is filler that the row itself ends with.
-/

namespace CosmosRl.Foundation

open List

variable {Entry : Type} [DecidableEq Entry]

def trimmedLength (filler : Entry) (row : List Entry) : Nat :=
  (row.rdropWhile (· = filler)).length

variable {filler : Entry} {row : List Entry}

theorem trimmedLength_le (filler : Entry) (row : List Entry) :
    trimmedLength filler row ≤ row.length :=
  (List.rdropWhile_prefix _ row).length_le

@[simp]
theorem trimmedLength_append_replicate (count : Nat) :
    trimmedLength filler (row ++ List.replicate count filler) = trimmedLength filler row := by
  induction count with
  | zero => rw [replicate_zero, append_nil]
  | succ count ih =>
    rw [replicate_succ', ← append_assoc, trimmedLength, rdropWhile_concat_pos _ _ _ (by simp)]
    exact ih

theorem length_dropWhile_reverse [BEq Entry] [LawfulBEq Entry] (filler : Entry) (row : List Entry) :
    (row.reverse.dropWhile fun entry => entry == filler).length = trimmedLength filler row := by
  have sameTest : (fun entry : Entry => entry == filler) =
      fun entry => decide (entry = filler) := by
    funext entry
    exact Bool.beq_eq_decide_eq entry filler
  rw [trimmedLength, List.rdropWhile, length_reverse, sameTest]

theorem trimmedLength_eq_zero_iff :
    trimmedLength filler row = 0 ↔ ∀ entry ∈ row, entry = filler := by
  rw [trimmedLength, length_eq_zero_iff, rdropWhile_eq_nil_iff]
  simp

theorem trimmedLength_eq_length (real : ∀ entry ∈ row.getLast?, entry ≠ filler) :
    trimmedLength filler row = row.length := by
  rw [trimmedLength, rdropWhile_eq_self_iff.mpr]
  intro nonempty isFiller
  exact real _ (getLast?_eq_some_getLast nonempty) (of_decide_eq_true isFiller)

theorem eq_filler_of_trimmedLength_le {position : Nat}
    (behind : trimmedLength filler row ≤ position) {entry : Entry}
    (found : row[position]? = some entry) : entry = filler := by
  have split : row.rdropWhile (· = filler) ++ row.rtakeWhile (· = filler) = row :=
    rdropWhile_append_rtakeWhile
  rw [← split, getElem?_append_right behind] at found
  have dropped := mem_rtakeWhile_imp (mem_of_getElem? found)
  exact of_decide_eq_true dropped

end CosmosRl.Foundation
