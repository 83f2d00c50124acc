import Mathlib.Data.List.Basic

/-!
Texts whose parts are separated by runs of a filler, and the contents put in their place.

The filler occurs in no part, so that a scan from the left meets the first run where the
first part ends.  This holds as well when parts are empty and runs adjoin each other.
-/

namespace CosmosRl.Foundation

open List

variable {Entry : Type} {filler : Entry} {count position : Nat}
  {front back part content : List Entry} {parts contents : List (List Entry)}

/-- A run of `count` fillers stands at the position. -/
def RunAt (filler : Entry) (count : Nat) (entries : List Entry) (position : Nat) : Prop :=
  (entries.drop position).take count = List.replicate count filler

def joinRuns (filler : Entry) (count : Nat) (parts : List (List Entry)) : List Entry :=
  List.intercalate (List.replicate count filler) parts

def splice : List (List Entry) → List (List Entry) → List Entry
  | part :: parts, content :: contents => part ++ content ++ splice parts contents
  | part :: _, [] => part
  | [], _ => []

@[simp]
theorem joinRuns_singleton (filler : Entry) (count : Nat) (part : List Entry) :
    joinRuns filler count [part] = part :=
  intercalate_singleton

theorem joinRuns_cons (nonempty : parts ≠ []) :
    joinRuns filler count (part :: parts) =
      part ++ (List.replicate count filler ++ joinRuns filler count parts) := by
  rw [joinRuns, intercalate_cons_of_ne_nil nonempty, append_assoc]
  rfl

theorem joinRuns_ne_nil_of_cons_cons (positive : 0 < count) {next : List Entry} :
    joinRuns filler count (part :: next :: parts) ≠ [] := by
  rw [joinRuns_cons (cons_ne_nil next parts)]
  intro nothing
  rw [append_eq_nil_iff, append_eq_nil_iff, replicate_eq_nil_iff] at nothing
  exact Nat.ne_of_gt positive nothing.2.1

theorem runAt_append (front back : List Entry) :
    RunAt filler count (front ++ (List.replicate count filler ++ back)) front.length := by
  rw [RunAt, drop_left, take_left' length_replicate]

theorem not_runAt_of_clean (positive : 0 < count) (clean : filler ∉ front)
    (inside : position < front.length) : ¬ RunAt filler count (front ++ back) position := by
  intro run
  have first := congrArg List.head? run
  rw [head?_take, if_neg (Nat.ne_of_gt positive), head?_drop,
    getElem?_append_left inside, getElem?_eq_getElem inside, head?_replicate,
    if_neg (Nat.ne_of_gt positive), Option.some.injEq] at first
  exact clean (first ▸ getElem_mem inside)

theorem splice_eq_nil_iff (separated : parts.length = contents.length + 1) :
    splice parts contents = [] ↔
      (∀ part ∈ parts, part = []) ∧ ∀ content ∈ contents, content = [] := by
  induction parts generalizing contents with
  | nil => cases separated
  | cons part parts ih =>
    cases contents with
    | nil =>
      have single : parts = [] := by simpa using separated
      simp [splice, single]
    | cons content contents =>
      have fewer : parts.length = contents.length + 1 := by simpa using separated
      rw [splice, append_eq_nil_iff, append_eq_nil_iff,
        ih fewer, forall_mem_cons, forall_mem_cons]
      constructor
      · rintro ⟨⟨emptyPart, emptyContent⟩, emptyParts, emptyContents⟩
        exact ⟨⟨emptyPart, emptyParts⟩, emptyContent, emptyContents⟩
      · rintro ⟨⟨emptyPart, emptyParts⟩, emptyContent, emptyContents⟩
        exact ⟨⟨emptyPart, emptyContent⟩, emptyParts, emptyContents⟩

end CosmosRl.Foundation
