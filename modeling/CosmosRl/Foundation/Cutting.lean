import Mathlib.Algebra.GroupWithZero.Nat
import Mathlib.Data.List.Nodup
import Mathlib.Data.List.SplitLengths

/-!
Parts put one after the other and cut again by other lengths.

When no cut is shorter than its part, the parts come back exactly if every cut before
the last part that holds something has the length of its part.
-/

namespace CosmosRl.Foundation

open List

variable {Alpha : Type*}

theorem splitLengths_flatten (parts : List (List Alpha)) :
    (parts.map List.length).splitLengths parts.flatten = parts := by
  induction parts with
  | nil => rfl
  | cons part parts ih =>
    rw [map_cons, flatten_cons, splitLengths_cons, take_left, drop_left, ih]

theorem splitLengths_append {first : List Nat} {front : List Alpha}
    (frontLength : front.length = first.sum) (second : List Nat) (back : List Alpha) :
    (first ++ second).splitLengths (front ++ back) =
      first.splitLengths front ++ second.splitLengths back := by
  induction first generalizing front with
  | nil =>
    rw [length_eq_zero_iff.mp frontLength]
    rfl
  | cons length first ih =>
    rw [sum_cons] at frontLength
    have fits : length ≤ front.length := by omega
    rw [cons_append, splitLengths_cons, splitLengths_cons, cons_append,
      take_append_of_le_length fits, drop_append_of_le_length fits,
      ih (by rw [length_drop]; omega)]

/-- Every width but those before empty parts only must be the length of its part. -/
theorem splitLengths_flatten_eq_iff {cuts : List (List Alpha × Nat)}
    (wide : ∀ cut ∈ cuts, cut.1.length ≤ cut.2) :
    (cuts.map Prod.snd).splitLengths (cuts.map Prod.fst).flatten = cuts.map Prod.fst ↔
      cuts.Pairwise fun cut later => cut.2 = cut.1.length ∨ later.1 = [] := by
  induction cuts with
  | nil => exact iff_of_true rfl List.Pairwise.nil
  | cons cut cuts ih =>
    obtain ⟨part, width⟩ := cut
    have partWide : part.length ≤ width := wide (part, width) mem_cons_self
    have restWide := fun other member => wide other (mem_cons_of_mem _ member)
    rw [map_cons, map_cons, flatten_cons, splitLengths_cons, List.cons.injEq, pairwise_cons]
    rcases Nat.lt_or_eq_of_le partWide with wider | exactly
    · have short : width - part.length ≠ 0 := Nat.sub_ne_zero_of_lt wider
      rw [take_append, take_of_length_le partWide, append_right_eq_self,
        take_eq_nil_iff, or_iff_right short, flatten_eq_nil_iff]
      constructor
      · rintro ⟨empty, cutRest⟩
        have allEmpty : ∀ later ∈ cuts, later.1 = [] := fun later member =>
          empty later.1 (mem_map_of_mem member)
        have restNil : (cuts.map Prod.fst).flatten = [] := flatten_eq_nil_iff.mpr empty
        refine ⟨fun later member => Or.inr (allEmpty later member), (ih restWide).mp ?_⟩
        rw [restNil, append_nil, drop_of_length_le partWide] at cutRest
        rw [restNil]
        exact cutRest
      · rintro ⟨settled, restSettled⟩
        have allEmpty : ∀ later ∈ cuts, later.1 = [] := fun later member =>
          (settled later member).resolve_left (Nat.ne_of_gt wider)
        have empty : ∀ later ∈ cuts.map Prod.fst, later = [] := by
          intro later member
          obtain ⟨cut, cutMember, rfl⟩ := mem_map.mp member
          exact allEmpty cut cutMember
        have restNil : (cuts.map Prod.fst).flatten = [] := flatten_eq_nil_iff.mpr empty
        refine ⟨empty, ?_⟩
        have cutRest := (ih restWide).mpr restSettled
        rw [restNil] at cutRest
        rw [restNil, append_nil, drop_of_length_le partWide]
        exact cutRest
    · rw [← exactly, take_left, drop_left, ih restWide]
      simp

section Tags

variable {Tag : Type*} (tag : Alpha → Tag)

/-- Lists of parts whose entries carry the tag of their part are equal if they are equal
put together. -/
theorem eq_of_flatten_eq {tags : List Tag} (distinct : tags.Nodup)
    {parts others : List (List Alpha)}
    (tagged : List.Forall₂ (fun name part => ∀ entry ∈ part, tag entry = name) tags parts)
    (othersTagged : List.Forall₂ (fun name part => ∀ entry ∈ part, tag entry = name) tags
      others) (same : parts.flatten = others.flatten) :
    parts = others := by
  induction tagged generalizing others with
  | nil =>
    cases othersTagged
    rfl
  | @cons name part names parts partTagged restTagged ih =>
    cases othersTagged with
    | @cons _ other _ others otherTagged restOthersTagged =>
      obtain ⟨fresh, restDistinct⟩ := nodup_cons.mp distinct
      classical
      have own : ∀ front : List Alpha, (∀ entry ∈ front, tag entry = name) →
          front.filter (fun entry => decide (tag entry = name)) = front := by
        intro front allOwn
        rw [filter_eq_self]
        exact fun entry member => decide_eq_true (allOwn entry member)
      have foreign : ∀ rest : List (List Alpha),
          List.Forall₂ (fun name part => ∀ entry ∈ part, tag entry = name) names rest →
          rest.flatten.filter (fun entry => decide (tag entry = name)) = [] := by
        intro rest restTagged
        rw [filter_eq_nil_iff]
        intro entry member isOwn
        obtain ⟨later, laterMember, entryMember⟩ := mem_flatten.mp member
        obtain ⟨position, inside, rfl⟩ := getElem_of_mem laterMember
        have namesInside : position < names.length := restTagged.length_eq ▸ inside
        have carried := restTagged.get namesInside inside entry entryMember
        rw [of_decide_eq_true isOwn] at carried
        apply fresh
        rw [carried]
        exact getElem_mem namesInside
      have filtered := congrArg (List.filter fun entry => decide (tag entry = name)) same
      rw [flatten_cons, flatten_cons, filter_append, filter_append,
        own part partTagged, own other otherTagged, foreign parts restTagged,
        foreign others restOthersTagged, append_nil, append_nil] at filtered
      subst filtered
      rw [flatten_cons, flatten_cons, append_cancel_left_eq] at same
      rw [ih restDistinct restOthersTagged same]

end Tags

end CosmosRl.Foundation
