import Mathlib.Data.List.Basic

/-!
A log of numbered entries with readers that remember the last number they have read.

Numbers only grow, but they need not be consecutive.  Old entries may be trimmed.
What a reader has not read yet is the suffix of the log after its number; reading
moves a front part of it to the reader, adding extends it, and trimming does not
touch it as long as only entries before it go.
-/

namespace CosmosRl.Foundation

open List

universe u

structure NumberedLog (Value : Type u) where
  entries : List (Nat × Value)
  lastId : Nat
  ordered : entries.Pairwise fun earlier later => earlier.1 < later.1
  bounded : ∀ entry ∈ entries, entry.1 ≤ lastId

namespace NumberedLog

variable {Value : Type u}

def empty : NumberedLog Value := ⟨[], 0, List.Pairwise.nil, by simp⟩

/-- Add a value; its number skips `gap` numbers. -/
def add (log : NumberedLog Value) (gap : Nat) (value : Value) : NumberedLog Value where
  entries := log.entries ++ [(log.lastId + gap + 1, value)]
  lastId := log.lastId + gap + 1
  ordered := by
    refine List.pairwise_append.mpr ⟨log.ordered, List.pairwise_singleton _ _, ?_⟩
    intro earlier member later isNew
    have old := log.bounded earlier member
    rw [List.mem_singleton.mp isNew]
    dsimp only
    omega
  bounded := by
    intro entry member
    rcases List.mem_append.mp member with old | new
    · have bounded := log.bounded entry old
      omega
    · exact Nat.le_of_eq (congrArg Prod.fst (List.mem_singleton.mp new))

def trim (log : NumberedLog Value) (count : Nat) : NumberedLog Value where
  entries := log.entries.drop count
  lastId := log.lastId
  ordered := log.ordered.sublist (List.drop_sublist count log.entries)
  bounded := fun entry member => log.bounded entry (List.mem_of_mem_drop member)

def after (log : NumberedLog Value) (id : Nat) : List (Nat × Value) :=
  log.entries.filter fun entry => decide (id < entry.1)

def lastRead (id : Nat) (read : List (Nat × Value)) : Nat :=
  (read.getLast?.map Prod.fst).getD id

variable {id : Nat}

theorem after_add (log : NumberedLog Value) (past : id ≤ log.lastId) (gap : Nat) (value : Value) :
    (log.add gap value).after id = log.after id ++ [(log.lastId + gap + 1, value)] := by
  have new : id < log.lastId + gap + 1 := by omega
  rw [after, add, filter_append, after]
  simp [new]

theorem exists_read (log : NumberedLog Value) (id : Nat) :
    ∃ read, log.entries = read ++ log.after id ∧ ∀ entry ∈ read, entry.1 ≤ id := by
  have ordered := log.ordered
  unfold after
  generalize log.entries = entries at ordered
  induction entries with
  | nil => exact ⟨[], rfl, by simp⟩
  | cons entry rest ih =>
    obtain ⟨smallest, restOrdered⟩ := pairwise_cons.mp ordered
    by_cases unread : id < entry.1
    · refine ⟨[], ?_, by simp⟩
      have all : ∀ other ∈ entry :: rest, decide (id < other.1) = true := by
        intro other member
        rcases mem_cons.mp member with same | later
        · subst same
          exact decide_eq_true unread
        · exact decide_eq_true (Nat.lt_trans unread (smallest other later))
      rw [filter_eq_self.mpr all, nil_append]
    · obtain ⟨read, splits, past⟩ := ih restOrdered
      refine ⟨entry :: read, ?_, ?_⟩
      · rw [filter_cons_of_neg (by simpa using unread), cons_append, ← splits]
      · intro other member
        rcases mem_cons.mp member with same | later
        · subst same
          exact Nat.le_of_not_lt unread
        · exact past other later

theorem filter_of_read {read : List (Nat × Value)} (past : ∀ entry ∈ read, entry.1 ≤ id) :
    (read.filter fun entry => decide (id < entry.1)) = [] := by
  apply filter_eq_nil_iff.mpr
  intro entry member
  simpa using past entry member

theorem filter_of_unread {unread : List (Nat × Value)} (later : ∀ entry ∈ unread, id < entry.1) :
    (unread.filter fun entry => decide (id < entry.1)) = unread :=
  filter_eq_self.mpr fun entry member => decide_eq_true (later entry member)

theorem lt_of_mem_after {log : NumberedLog Value} {entry : Nat × Value}
    (member : entry ∈ log.after id) : id < entry.1 :=
  of_decide_eq_true (mem_filter.mp member).2

section

variable (log : NumberedLog Value)

theorem after_trim {count : Nat} (kept : count + (log.after id).length ≤ log.entries.length) :
    (log.trim count).after id = log.after id := by
  obtain ⟨read, splits, past⟩ := log.exists_read id
  have short : count ≤ read.length := by
    rw [splits, length_append] at kept
    omega
  have dropped : (log.trim count).entries = read.drop count ++ log.after id := by
    rw [trim]
    dsimp only
    rw [splits, drop_append_of_le_length short]
  rw [after, dropped, filter_append,
    filter_of_read fun entry member => past entry (mem_of_mem_drop member),
    filter_of_unread fun entry member => lt_of_mem_after member, nil_append]

/-- A reader that has read the first unread entries has the others left. -/
theorem after_lastRead (id count : Nat) :
    log.after (lastRead id ((log.after id).take count)) = (log.after id).drop count := by
  obtain ⟨read, splits, past⟩ := log.exists_read id
  cases last : ((log.after id).take count).getLast? with
  | none =>
    have empty := getLast?_eq_none_iff.mp last
    have nothing : (log.after id).drop count = log.after id := by
      have whole := take_append_drop count (log.after id)
      rwa [empty, nil_append] at whole
    rw [lastRead, last, nothing]
    rfl
  | some entry =>
    obtain ⟨front, taken⟩ := getLast?_eq_some_iff.mp last
    have ordered := log.ordered
    have split : log.entries = read ++ ((front ++ [entry]) ++ (log.after id).drop count) := by
      rw [← taken, take_append_drop]
      exact splits
    rw [split] at ordered
    obtain ⟨-, unreadOrdered, -⟩ := pairwise_append.mp ordered
    obtain ⟨takenOrdered, -, before⟩ := pairwise_append.mp unreadOrdered
    obtain ⟨-, -, beforeEntry⟩ := pairwise_append.mp takenOrdered
    have entryUnread : id < entry.1 :=
      lt_of_mem_after (mem_of_mem_take (taken ▸ mem_append_right front (by simp)))
    have nowRead : ∀ other ∈ front ++ [entry], other.1 ≤ entry.1 := by
      intro other member
      rcases mem_append.mp member with inFront | isLast
      · exact Nat.le_of_lt (beforeEntry other inFront entry (by simp))
      · exact Nat.le_of_eq (congrArg Prod.fst (mem_singleton.mp isLast))
    rw [lastRead, last, Option.map_some, Option.getD_some, after, split, filter_append,
      filter_append, filter_of_read nowRead, filter_of_read, filter_of_unread]
    · rfl
    · exact fun other member => before entry (by simp) other member
    · exact fun other member => Nat.le_of_lt (Nat.lt_of_le_of_lt (past other member) entryUnread)

theorem lastRead_le (past : id ≤ log.lastId) (count : Nat) :
    lastRead id ((log.after id).take count) ≤ log.lastId := by
  cases last : ((log.after id).take count).getLast? with
  | none => simpa [lastRead, last] using past
  | some entry =>
    have member := mem_of_mem_take (mem_of_getLast? last)
    simpa [lastRead, last] using log.bounded entry (mem_filter.mp member).1

end

end NumberedLog

end CosmosRl.Foundation
