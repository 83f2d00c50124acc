import Mathlib.Data.List.Forall2
import Mathlib.Data.List.ReduceOption

/-!
Running a fallible computation for every item of a list: it succeeds exactly if it does
for every item, and its results stand in the order of the items.
-/

namespace CosmosRl.Foundation

open List

universe u v w

variable {Item : Type u} {Exn : Type v} {Result : Type w}

theorem mapM_except_cons (compute : Item → Except Exn Result) (item : Item) (items : List Item) :
    (item :: items).mapM compute =
      match compute item with
      | .error exn => .error exn
      | .ok result =>
        match items.mapM compute with
        | .error exn => .error exn
        | .ok results => .ok (result :: results) := by
  rw [mapM_cons]
  cases compute item with
  | error exn => rfl
  | ok result =>
    cases items.mapM compute with
    | error exn => simp [bind, Except.bind]
    | ok results => simp [bind, Except.bind, pure, Except.pure]

theorem mapM_eq_ok_iff (compute : Item → Except Exn Result) (items : List Item)
    (results : List Result) :
    items.mapM compute = .ok results ↔ items.map compute = results.map .ok := by
  induction items generalizing results with
  | nil =>
    cases results with
    | nil => simp [pure, Except.pure]
    | cons result results => simp [pure, Except.pure]
  | cons item items ih =>
    rw [mapM_except_cons, map_cons]
    cases first : compute item with
    | error exn =>
      refine iff_of_false (by simp) ?_
      intro equal
      cases results with
      | nil => cases equal
      | cons result results => cases (List.cons.inj equal).1
    | ok result =>
      cases later : items.mapM compute with
      | error exn =>
        refine iff_of_false (by simp) ?_
        intro equal
        cases results with
        | nil => cases equal
        | cons other others =>
          have rest := (ih others).mpr (List.cons.inj equal).2
          rw [later] at rest
          cases rest
      | ok found =>
        have rest := (ih found).mp later
        rw [rest]
        constructor
        · intro equal
          cases equal
          rfl
        · intro equal
          cases results with
          | nil => cases equal
          | cons other others =>
            obtain ⟨head, tail⟩ := List.cons.inj equal
            have same : found = others :=
              map_injective_iff.mpr (fun _ _ inner => Except.ok.inj inner) tail
            rw [Except.ok.inj head, same]

variable {compute : Item → Except Exn Result} {items : List Item} {results : List Result}
  {Other : Type*} {related : Item → Other → Prop} {others : List Other}

section

variable (collected : items.mapM compute = .ok results)

include collected

theorem forall₂_of_mapM_ok :
    List.Forall₂ (fun item result => compute item = .ok result) items results := by
  have equal := (mapM_eq_ok_iff compute items results).mp collected
  rwa [← forall₂_eq_eq_eq, forall₂_map_left_iff, forall₂_map_right_iff] at equal

theorem exists_item_of_mapM_ok {result : Result}
    (isResult : result ∈ results) : ∃ item ∈ items, compute item = .ok result := by
  have computed : .ok result ∈ items.map compute := by
    rw [(mapM_eq_ok_iff compute items results).mp collected]
    exact mem_map_of_mem isResult
  exact mem_map.mp computed

theorem length_of_mapM_ok : results.length = items.length := by
  have equal := congrArg List.length ((mapM_eq_ok_iff compute items results).mp collected)
  rw [length_map, length_map] at equal
  exact equal.symm

end

theorem exists_mapM_ok_iff (compute : Item → Except Exn Result) (items : List Item) :
    (∃ results, items.mapM compute = .ok results) ↔
      ∀ item ∈ items, ∃ result, compute item = .ok result := by
  induction items with
  | nil => simp [pure, Except.pure]
  | cons item items ih =>
    rw [forall_mem_cons, ← ih, mapM_except_cons]
    cases compute item with
    | error exn => simp
    | ok result =>
      cases items.mapM compute with
      | error exn => simp
      | ok results => simp

theorem map_results_eq {Measure : Type*} {measure : Result → Measure} {expected : Item → Measure}
    (computed : items.map compute = results.map .ok)
    (known : ∀ item ∈ items, ∀ result, compute item = .ok result →
      measure result = expected item) :
    results.map measure = items.map expected := by
  induction items generalizing results with
  | nil =>
    rw [map_nil, eq_comm, map_eq_nil_iff] at computed
    rw [computed, map_nil, map_nil]
  | cons item items ih =>
    cases results with
    | nil => cases computed
    | cons result results =>
      obtain ⟨head, rest⟩ := List.cons.inj computed
      rw [map_cons, map_cons, known item mem_cons_self result head,
        ih rest fun other member =>
          known other (mem_cons_of_mem _ member)]

theorem forall₂_imp_of_mem {weaker : Item → Other → Prop}
    (pairs : List.Forall₂ related items others)
    (implies : ∀ item ∈ items, ∀ other, related item other → weaker item other) :
    List.Forall₂ weaker items others := by
  induction pairs with
  | nil => exact .nil
  | cons pair pairs ih =>
    rw [forall_mem_cons] at implies
    exact .cons (implies.1 _ pair) (ih implies.2)

theorem exists_related_of_mem (pairs : List.Forall₂ related items others)
    {item : Item} (isItem : item ∈ items) : ∃ other ∈ others, related item other := by
  induction pairs with
  | nil => cases isItem
  | cons pair pairs ih =>
    rcases mem_cons.mp isItem with rfl | isLater
    · exact ⟨_, mem_cons_self, pair⟩
    · obtain ⟨other, isOther, isRelated⟩ := ih isLater
      exact ⟨other, mem_cons_of_mem _ isOther, isRelated⟩

theorem forall₂_comp {Middle : Type*} {first : Item → Middle → Prop}
    {second : Middle → Other → Prop} {middles : List Middle}
    (left : List.Forall₂ first items middles) (right : List.Forall₂ second middles others) :
    List.Forall₂ (fun item other => ∃ middle, first item middle ∧ second middle other)
      items others := by
  induction left generalizing others with
  | nil =>
    cases right
    exact .nil
  | cons pair pairs ih =>
    cases right with
    | cons next rest => exact .cons ⟨_, pair, next⟩ (ih rest)

theorem forall₂_reduceOption {related : Item → Option Other → Prop}
    {keeps : Item → Bool} {options : List (Option Other)}
    (pairs : List.Forall₂ related items options)
    (decides : ∀ item option, related item option → keeps item = option.isSome) :
    List.Forall₂ (fun item other => related item (some other)) (items.filter keeps)
      options.reduceOption := by
  induction pairs with
  | nil => exact .nil
  | @cons item option items options pair pairs ih =>
    have decided := decides item option pair
    cases option with
    | none =>
      rw [reduceOption_cons_of_none, filter_cons_of_neg]
      · exact ih
      · rw [decided]
        exact Bool.false_ne_true
    | some other =>
      rw [reduceOption_cons_of_some, filter_cons_of_pos decided]
      exact .cons pair ih

theorem forall₂_iff_of_related {stated : Item → Other → Prop} {condition : Item → Prop}
    (pairs : List.Forall₂ related items others)
    (same : ∀ item other, related item other → (stated item other ↔ condition item)) :
    List.Forall₂ stated items others ↔ ∀ item ∈ items, condition item := by
  induction pairs with
  | nil => exact iff_of_true .nil nofun
  | cons pair pairs ih =>
    rw [forall₂_cons, forall_mem_cons, same _ _ pair, ih]

theorem forall₂_modify {change : Item → Item} (pairs : List.Forall₂ related items others)
    (keeps : ∀ item other, related item other → related (change item) other) (index : Nat) :
    List.Forall₂ related (items.modify index change) others := by
  induction pairs generalizing index with
  | nil =>
    rw [modify_nil]
    exact .nil
  | cons pair pairs ih =>
    cases index with
    | zero =>
      rw [modify_zero_cons]
      exact .cons (keeps _ _ pair) pairs
    | succ index =>
      rw [modify_succ_cons]
      exact .cons pair (ih index)

end CosmosRl.Foundation
