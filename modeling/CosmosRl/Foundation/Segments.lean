import Mathlib.Data.List.Flatten
import Mathlib.Data.List.Count
import Mathlib.Algebra.BigOperators.Group.List.Basic
import Mathlib.Algebra.GroupWithZero.Nat

/-!
Words of items that are cut into segments.

A separator follows every item whose number is due.  The end of a segment gets one as
well, unless a separator stands there already.  Such a word is known from the number of
items and the ends of the segments at numbers that are not due.
-/

namespace CosmosRl.Foundation

open List

universe u

variable {Symbol : Type u} (item : List Symbol) (separator : Symbol) {lengths : List Nat}

def spaced (counts : List Nat) : List Symbol :=
  counts.flatMap fun count => item ++ List.replicate count separator

/-- The word of segments, after `done` items. -/
def segmentWord (due : Nat → Bool) : Nat → List Nat → List Symbol
  | _, [] => []
  | done, length :: lengths =>
    (List.range' (done + 1) length).flatMap (fun number =>
        item ++ if due number then [separator] else []) ++
      (if due (done + length) then [] else [separator]) ++
        segmentWord due (done + length) lengths

def segmentEnds : Nat → List Nat → List Nat
  | _, [] => []
  | done, length :: lengths => (done + length) :: segmentEnds (done + length) lengths

def separators (due : Nat → Bool) (ends : List Nat) (number : Nat) : Nat :=
  if due number then 1 else ends.count number

theorem le_of_mem_segmentEnds {done number : Nat}
    (member : number ∈ segmentEnds done lengths) : done ≤ number := by
  induction lengths generalizing done with
  | nil => cases member
  | cons length lengths ih =>
    rcases mem_cons.mp member with first | later
    · omega
    · have above := ih later
      omega

theorem count_segmentEnds_of_lt {done number : Nat}
    (before : number < done) : (segmentEnds done lengths).count number = 0 := by
  rw [count_eq_zero]
  intro member
  exact absurd (le_of_mem_segmentEnds member) (by omega)

theorem flatMap_range'_eq_spaced (due : Nat → Bool) (start length : Nat) {counts : Nat → Nat}
    (agree : ∀ number, start ≤ number → number < start + length →
      counts number = if due number then 1 else 0) :
    (List.range' start length).flatMap (fun number =>
        item ++ if due number then [separator] else []) =
      spaced item separator ((List.range' start length).map counts) := by
  rw [spaced, flatMap_map]
  apply flatMap_congr
  intro number member
  obtain ⟨low, high⟩ := mem_range'_1.mp member
  rw [agree number low high]
  cases due number <;> rfl

@[simp]
theorem spaced_append (front back : List Nat) :
    spaced item separator (front ++ back) =
      spaced item separator front ++ spaced item separator back :=
  flatMap_append

theorem spaced_singleton (count : Nat) :
    spaced item separator [count] = item ++ List.replicate count separator :=
  flatMap_singleton _ _

/-- The word of segments as items with their separators, by induction on the segments. -/
theorem segmentWord_eq (due : Nat → Bool) (done : Nat) (lengths : List Nat) :
    segmentWord item separator due done lengths =
      List.replicate (if due done then 0 else (segmentEnds done lengths).count done)
          separator ++
        spaced item separator ((List.range' (done + 1) lengths.sum).map
          (separators due (segmentEnds done lengths))) := by
  induction lengths generalizing done with
  | nil => cases due done <;> rfl
  | cons length lengths ih =>
    rw [segmentWord, ih]
    rcases Nat.eq_zero_or_pos length with rfl | positive
    · -- an empty segment ends where it begins
      have same : ∀ number ∈ List.range' (done + 1) (List.sum (0 :: lengths)),
          separators due (segmentEnds done (0 :: lengths)) number =
            separators due (segmentEnds done lengths) number := by
        intro number member
        have above := (mem_range'_1.mp member).1
        rw [separators, separators, segmentEnds, Nat.add_zero, count_cons_of_ne (by omega)]
      rw [map_congr_left same, segmentEnds, sum_cons, Nat.zero_add, Nat.add_zero]
      cases due done
      · simp [replicate_succ]
      · simp
    · obtain ⟨earlier, rfl⟩ : ∃ earlier, length = earlier + 1 := ⟨length - 1, by omega⟩
      have none : (segmentEnds done ((earlier + 1) :: lengths)).count done = 0 := by
        rw [segmentEnds, count_cons_of_ne (by omega), count_segmentEnds_of_lt (by omega)]
      have later : ∀ number ∈ List.range' (done + (earlier + 1) + 1) lengths.sum,
          separators due (segmentEnds done ((earlier + 1) :: lengths)) number =
            separators due (segmentEnds (done + (earlier + 1)) lengths) number := by
        intro number member
        have above := (mem_range'_1.mp member).1
        rw [separators, separators, segmentEnds, count_cons_of_ne (by omega)]
      have inside : ∀ number, done + 1 ≤ number → number < done + 1 + earlier →
          separators due (segmentEnds done ((earlier + 1) :: lengths)) number =
            if due number then 1 else 0 := by
        intro number low high
        rw [separators, segmentEnds, count_cons_of_ne (by omega),
          count_segmentEnds_of_lt (by omega)]
      -- the last item of the segment gets the separators of its end
      have last : item ++ (if due (done + (earlier + 1)) then [separator] else []) ++
          ((if due (done + (earlier + 1)) then [] else [separator]) ++
            List.replicate (if due (done + (earlier + 1)) then 0
              else (segmentEnds (done + (earlier + 1)) lengths).count (done + (earlier + 1)))
              separator) =
          spaced item separator [separators due (segmentEnds done ((earlier + 1) :: lengths))
            (done + (earlier + 1))] := by
        rw [spaced_singleton, separators, segmentEnds, count_cons_self]
        cases due (done + (earlier + 1))
        · simp [replicate_succ]
        · simp
      have segment : List.range' (done + 1) (earlier + 1) =
          List.range' (done + 1) earlier ++ [done + (earlier + 1)] := by
        rw [range'_concat, Nat.one_mul, Nat.add_right_comm, Nat.add_assoc]
      have all : List.range' (done + 1) (earlier + 1 + lengths.sum) =
          List.range' (done + 1) (earlier + 1) ++
            List.range' (done + (earlier + 1) + 1) lengths.sum := by
        rw [← range'_append_1, Nat.add_right_comm]
      rw [none, ite_self, replicate_zero, nil_append, sum_cons, all, segment,
        map_append, map_append, spaced_append, spaced_append,
        map_congr_left later, map_singleton, ← last, flatMap_append,
        flatMap_range'_eq_spaced item separator due _ _ inside, flatMap_singleton]
      simp only [append_assoc]

def separatorCount (due : Nat → Bool) (lengths : List Nat) : Nat :=
  (List.range' 1 lengths.sum).countP due +
    (segmentEnds 0 lengths).countP fun number => !due number

theorem count_segmentWord [DecidableEq Symbol] (foreign : separator ∉ item)
    (due : Nat → Bool) (done : Nat) (lengths : List Nat) :
    (segmentWord item separator due done lengths).count separator =
      (List.range' (done + 1) lengths.sum).countP due +
        (segmentEnds done lengths).countP fun number => !due number := by
  have items : ∀ start length, ((List.range' start length).flatMap fun number =>
      item ++ if due number then [separator] else []).count separator =
        (List.range' start length).countP due := by
    intro start length
    induction length generalizing start with
    | zero => rfl
    | succ length ih =>
      rw [range'_succ, flatMap_cons, count_append, countP_cons,
        ih, count_append, count_eq_zero.mpr foreign]
      cases due start <;> simp [Nat.add_comm]
  induction lengths generalizing done with
  | nil => rfl
  | cons length lengths ih =>
    rw [segmentWord, count_append, count_append, ih, items, segmentEnds, countP_cons, sum_cons,
      ← range'_append_1, countP_append, Nat.add_right_comm done 1]
    cases due (done + length) <;> simp <;> omega

theorem filter_segmentWord {keep : Symbol → Bool} (kept : keep separator = true)
    (due : Nat → Bool) (done : Nat) (lengths : List Nat) :
    (segmentWord item separator due done lengths).filter keep =
      segmentWord (item.filter keep) separator due done lengths := by
  induction lengths generalizing done with
  | nil => rfl
  | cons length lengths ih =>
    rw [segmentWord, segmentWord, filter_append, filter_append, ih, filter_flatMap]
    congr 2
    · apply flatMap_congr
      intro number _
      rw [filter_append]
      cases due number <;> simp [kept]
    · cases due (done + length) <;> simp [kept]

theorem count_segmentWord_of_ne [DecidableEq Symbol] {symbol : Symbol}
    (other : symbol ≠ separator) (due : Nat → Bool) (done : Nat) (lengths : List Nat) :
    (segmentWord item separator due done lengths).count symbol =
      lengths.sum * item.count symbol := by
  have items : ∀ start length, ((List.range' start length).flatMap fun number =>
      item ++ if due number then [separator] else []).count symbol =
        length * item.count symbol := by
    intro start length
    induction length generalizing start with
    | zero => simp
    | succ length ih =>
      have none : List.count symbol (if due start then [separator] else []) = 0 := by
        cases due start <;> simp [other.symm]
      rw [range'_succ, flatMap_cons, count_append, ih,
        count_append, none, Nat.add_zero, Nat.add_comm, ← Nat.succ_mul]
  induction lengths generalizing done with
  | nil => simp [segmentWord]
  | cons length lengths ih =>
    have none : List.count symbol (if due (done + length) then [] else [separator]) = 0 := by
      cases due (done + length) <;> simp [other.symm]
    rw [segmentWord, count_append, count_append, ih, items, none,
      Nat.add_zero, sum_cons, Nat.add_mul]

section Comparison

variable {first separator : Symbol} {rest : List Symbol}

theorem head?_spaced_ne (distinct : first ≠ separator) (counts : List Nat) :
    (spaced (first :: rest) separator counts).head? ≠ some separator := by
  cases counts with
  | nil => simp [spaced]
  | cons count counts => simpa [spaced] using distinct

theorem replicate_append_inj {count other : Nat} {word word' : List Symbol}
    (begins : word.head? ≠ some separator) (begins' : word'.head? ≠ some separator)
    (same : List.replicate count separator ++ word = List.replicate other separator ++ word') :
    count = other ∧ word = word' := by
  induction count generalizing other with
  | zero =>
    cases other with
    | zero => exact ⟨rfl, same⟩
    | succ other =>
      rw [replicate_zero, nil_append] at same
      rw [same] at begins
      exact absurd rfl begins
  | succ count ih =>
    cases other with
    | zero =>
      rw [replicate_zero, nil_append] at same
      rw [← same] at begins'
      exact absurd rfl begins'
    | succ other =>
      obtain ⟨counts, words⟩ := ih (List.cons.inj same).2
      exact ⟨congrArg Nat.succ counts, words⟩

theorem spaced_injective (distinct : first ≠ separator) {counts others : List Nat}
    (same : spaced (first :: rest) separator counts =
      spaced (first :: rest) separator others) : counts = others := by
  induction counts generalizing others with
  | nil =>
    cases others with
    | nil => rfl
    | cons other others => cases same
  | cons count counts ih =>
    cases others with
    | nil => cases same
    | cons other others =>
      have cancelled : List.replicate count separator ++
          spaced (first :: rest) separator counts = List.replicate other separator ++
            spaced (first :: rest) separator others := by
        apply append_cancel_left
        rw [← append_assoc, ← append_assoc]
        exact same
      obtain ⟨counts_eq, words⟩ := replicate_append_inj
        (head?_spaced_ne distinct counts) (head?_spaced_ne distinct others) cancelled
      rw [counts_eq, ih words]

/-- When two words of segments have as many items, and as many segments end after every
number of items that is not due. -/
def SameSegments (due : Nat → Bool) (lengths lengths' : List Nat) : Prop :=
  lengths.sum = lengths'.sum ∧ ∀ number, 0 < number → number ≤ lengths.sum →
    due number = false →
      (segmentEnds 0 lengths).count number = (segmentEnds 0 lengths').count number

/-- Words whose first segments are not empty are the same exactly if they have the same
segments, but for ends that are due. -/
theorem segmentWord_eq_iff (distinct : first ≠ separator) (due : Nat → Bool)
    {lengths lengths' : List Nat} (begins : (segmentEnds 0 lengths).count 0 = 0)
    (begins' : (segmentEnds 0 lengths').count 0 = 0) :
    segmentWord (first :: rest) separator due 0 lengths =
        segmentWord (first :: rest) separator due 0 lengths' ↔
      SameSegments due lengths lengths' := by
  rw [segmentWord_eq, segmentWord_eq, begins, begins', ite_self, replicate_zero,
    nil_append, nil_append]
  constructor
  · intro same
    have counts := spaced_injective distinct same
    have sums := congrArg List.length counts
    rw [length_map, length_map, length_range', length_range'] at sums
    refine ⟨sums, fun number positive within notDue => ?_⟩
    rw [sums, map_inj_left] at counts
    have here := counts number (mem_range'_1.mpr (by omega))
    rwa [separators, separators, notDue, if_neg (by simp), if_neg (by simp)] at here
  · rintro ⟨sums, ends⟩
    rw [sums]
    congr 1
    apply map_congr_left
    intro number member
    obtain ⟨low, high⟩ := mem_range'_1.mp member
    rw [separators, separators]
    cases notDue : due number with
    | true => rfl
    | false => rw [ends number (by omega) (by omega) notDue]

theorem flatten_replicate_inj {rounds : Nat} {word word' : List Symbol} (positive : 0 < rounds)
    (same : (List.replicate rounds word).flatten = (List.replicate rounds word').flatten) :
    word = word' := by
  have lengths := congrArg List.length same
  rw [length_flatten, length_flatten, map_replicate, map_replicate,
    sum_replicate_nat, sum_replicate_nat] at lengths
  obtain ⟨more, rfl⟩ : ∃ more, rounds = more + 1 := ⟨rounds - 1, by omega⟩
  rw [replicate_succ, replicate_succ, flatten_cons, flatten_cons] at same
  exact append_inj_left same (Nat.eq_of_mul_eq_mul_left positive lengths)

end Comparison

end CosmosRl.Foundation
