import Mathlib.Data.List.Basic
import Mathlib.Data.List.TakeWhile

/-!
Pairing lists after one of them lost a prefix.

The items before the first good one are dropped, and what is left is zipped with rows that
lost nothing.  This gives the good items with their own rows only if nothing was misplaced:
no item is good, or all items that have a row are, or the rows repeat themselves.
-/

namespace CosmosRl.Foundation

open List

universe u v

variable {Item : Type u} {Row : Type v} {good : Item → Bool}

def fromFirst (good : Item → Bool) (items : List Item) : List Item :=
  items.dropWhile fun item => ! good item

def goodPairs (good : Item → Bool) (items : List Item) (rows : List Row) : List (Item × Row) :=
  (items.zip rows).filter fun pair => good pair.1

def firstGood (good : Item → Bool) (items : List Item) : Nat :=
  (items.takeWhile fun item => ! good item).length

def WellPlaced (good : Item → Bool) (items : List Item) (rows : List Row) : Prop :=
  (∀ item ∈ items, good item = false) ∨
    (∀ item ∈ items.take rows.length, good item = true) ∨
    (items.length ≤ rows.length ∧ (∀ item ∈ fromFirst good items, good item = true) ∧
      (rows.drop (firstGood good items)).take (fromFirst good items).length =
        rows.take (fromFirst good items).length)

variable {items : List Item}

theorem fromFirst_eq_nil_iff : fromFirst good items = [] ↔ ∀ item ∈ items, good item = false := by
  rw [fromFirst, dropWhile_eq_nil_iff]
  simp only [Bool.not_eq_true']

theorem bad_append_fromFirst (good : Item → Bool) (items : List Item) :
    ∃ bad, items = bad ++ fromFirst good items ∧ bad.length = firstGood good items ∧
      ∀ item ∈ bad, good item = false := by
  refine ⟨items.takeWhile fun item => ! good item, takeWhile_append_dropWhile.symm, rfl, ?_⟩
  intro item member
  have isBad := mem_takeWhile_imp member
  exact (Bool.not_eq_true' _).mp isBad

theorem goodPairs_append {bad : List Item} (allBad : ∀ item ∈ bad, good item = false)
    (items : List Item) (rows : List Row) :
    goodPairs good (bad ++ items) rows = goodPairs good items (rows.drop bad.length) := by
  induction bad generalizing rows with
  | nil => rfl
  | cons first rest ih =>
    have firstBad := allBad first mem_cons_self
    cases rows with
    | nil =>
      rw [drop_nil, goodPairs, goodPairs, zip_nil_right, zip_nil_right]
    | cons row rows =>
      rw [length_cons, drop_succ_cons,
        ← ih fun item member => allBad item (.tail first member)]
      rw [goodPairs, cons_append, zip_cons_cons, filter_cons_of_neg]
      · rfl
      · rw [firstBad]
        exact Bool.false_ne_true

theorem length_goodPairs_le (items : List Item) (rows : List Row) :
    (goodPairs good items rows).length ≤ min items.length rows.length := by
  rw [← length_zip]
  exact length_filter_le _ _

theorem map_fst_zip_take (items : List Item) (rows : List Row) :
    (items.zip rows).map Prod.fst = items.take rows.length := by
  induction items generalizing rows with
  | nil => rw [zip_nil_left, map_nil, take_nil]
  | cons item items ih =>
    cases rows with
    | nil => rfl
    | cons row rows =>
      rw [zip_cons_cons, map_cons, ih, length_cons, take_succ_cons]

theorem goodPairs_eq_zip_iff {rows : List Row} :
    goodPairs good items rows = items.zip rows ↔
      ∀ item ∈ items.take rows.length, good item = true := by
  rw [goodPairs, filter_eq_self, ← map_fst_zip_take, forall_mem_map]

theorem zip_eq_zip_iff {first second : List Row}
    (enough : items.length ≤ first.length) (alsoEnough : items.length ≤ second.length) :
    items.zip first = items.zip second ↔
      first.take items.length = second.take items.length := by
  induction items generalizing first second with
  | nil => simp only [zip_nil_left, length_nil, take_zero]
  | cons item items ih =>
    cases first with
    | nil => exact absurd enough (Nat.not_succ_le_zero _)
    | cons firstRow first =>
      cases second with
      | nil => exact absurd alsoEnough (Nat.not_succ_le_zero _)
      | cons secondRow second =>
        have later := ih (Nat.le_of_succ_le_succ enough) (Nat.le_of_succ_le_succ alsoEnough)
        simp only [zip_cons_cons, length_cons, take_succ_cons,
          List.cons.injEq, Prod.mk.injEq, true_and, later]

/-- Pairing after dropping the prefix gives the good items with their own rows exactly if
nothing was misplaced. -/
theorem zip_fromFirst_eq_goodPairs_iff (good : Item → Bool) (items : List Item) (rows : List Row) :
    (fromFirst good items).zip rows = goodPairs good items rows ↔
      WellPlaced good items rows := by
  obtain ⟨bad, split, badLength, allBad⟩ := bad_append_fromFirst good items
  have shifted : goodPairs good items rows =
      goodPairs good (fromFirst good items) (rows.drop (firstGood good items)) := by
    conv_lhs => rw [split]
    rw [goodPairs_append allBad, badLength]
  have itemsLength : items.length = firstGood good items + (fromFirst good items).length := by
    conv_lhs => rw [split]
    rw [length_append, badLength]
  constructor
  · intro same
    by_cases noneGood : fromFirst good items = []
    · exact .inl (fromFirst_eq_nil_iff.mp noneGood)
    by_cases firstIsGood : firstGood good items = 0
    · have whole : items = fromFirst good items := by
        rw [firstIsGood, length_eq_zero_iff] at badLength
        rw [badLength] at split
        exact split
      rw [← whole] at same
      exact .inr (.inl (goodPairs_eq_zip_iff.mp same.symm))
    by_cases noRows : rows = []
    · refine .inr (.inl ?_)
      rw [noRows, length_nil, take_zero]
      exact nofun
    -- The shifted rows end too early unless there are rows for all items.
    rw [shifted] at same
    have noLonger := (congrArg List.length same).le.trans (length_goodPairs_le _ _)
    rw [length_zip, length_drop] at noLonger
    have someRow := length_pos_iff.mpr noRows
    have someGood := length_pos_iff.mpr noneGood
    have enough : items.length ≤ rows.length := by omega
    have shiftedEnough :
        (fromFirst good items).length ≤ (rows.drop (firstGood good items)).length := by
      rw [length_drop]
      omega
    have unfiltered : goodPairs good (fromFirst good items) (rows.drop (firstGood good items)) =
        (fromFirst good items).zip (rows.drop (firstGood good items)) := by
      refine filter_sublist.eq_of_length_le ?_
      have sameLength := congrArg List.length same
      rw [length_zip] at sameLength ⊢
      rw [goodPairs] at sameLength
      omega
    refine .inr (.inr ⟨enough, ?_, ?_⟩)
    · have allGood := goodPairs_eq_zip_iff.mp unfiltered
      rwa [take_of_length_le shiftedEnough] at allGood
    · rw [unfiltered] at same
      exact ((zip_eq_zip_iff (by omega) shiftedEnough).mp same).symm
  · rintro (noneGood | allGood | ⟨enough, laterGood, sameRows⟩)
    · rw [shifted, fromFirst_eq_nil_iff.mpr noneGood]
      rfl
    · rw [goodPairs_eq_zip_iff.mpr allGood]
      cases items with
      | nil => rfl
      | cons item items =>
        cases rows with
        | nil => rw [zip_nil_right, zip_nil_right]
        | cons row rows =>
          have isGood : good item = true := allGood item mem_cons_self
          rw [fromFirst, dropWhile_cons_of_neg]
          rw [isGood]
          exact Bool.false_ne_true
    · have shiftedEnough :
          (fromFirst good items).length ≤ (rows.drop (firstGood good items)).length := by
        rw [length_drop]
        omega
      have unfiltered : goodPairs good (fromFirst good items)
          (rows.drop (firstGood good items)) =
          (fromFirst good items).zip (rows.drop (firstGood good items)) := by
        refine goodPairs_eq_zip_iff.mpr fun item member => ?_
        exact laterGood item (mem_of_mem_take member)
      rw [shifted, unfiltered]
      exact (zip_eq_zip_iff (by omega) shiftedEnough).mpr sameRows.symm

end CosmosRl.Foundation
