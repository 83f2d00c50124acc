import Mathlib.Algebra.BigOperators.Ring.List
import Mathlib.Algebra.Ring.Nat
import CosmosRl.Foundation.Collecting

/-!
Values nested in tuples, lists and dictionaries with string keys.

A dictionary is listed in the order of insertion.
-/

namespace CosmosRl.Foundation

inductive Container where
  | tuple
  | list
  | dict (keys : List String)
  deriving DecidableEq, Repr

inductive Nested (Leaf : Type) where
  | leaf (leaf : Leaf)
  | node (container : Container) (items : List (Nested Leaf))

theorem map_eq_self_iff {Item : Type} (change : Item → Item) (items : List Item) :
    items.map change = items ↔ ∀ item ∈ items, change item = item := by
  have pointwise := @List.map_inj_left _ _ items change id
  rwa [List.map_id] at pointwise

namespace Nested

variable {Leaf Other Third Exn : Type}

theorem byItems {motive : Nested Leaf → Prop} (leaf : ∀ value, motive (.leaf value))
    (node : ∀ container items, (∀ item ∈ items, motive item) → motive (.node container items)) :
    ∀ value, motive value
  | .leaf value => leaf value
  | .node container items => node container items fun item _ => byItems leaf node item

def map (change : Leaf → Other) : Nested Leaf → Nested Other
  | .leaf value => .leaf (change value)
  | .node container items => .node container (items.map fun item => item.map change)

def traverse (change : Leaf → Except Exn Other) : Nested Leaf → Except Exn (Nested Other)
  | .leaf value => (change value).map .leaf
  | .node container items =>
    (items.mapM fun item => traverse change item).map (.node container)

def arrays : Nested Leaf → Nested Leaf
  | .leaf value => .leaf value
  | .node container items =>
    .node (if container = .tuple then .list else container) (items.map fun item => item.arrays)

def Everywhere (leafHas : Leaf → Prop) (containerHas : Container → Prop) : Nested Leaf → Prop
  | .leaf value => leafHas value
  | .node container items =>
    containerHas container ∧ ∀ item ∈ items, item.Everywhere leafHas containerHas

def measure (leafSize : Leaf → Nat) (containerSize : Container → Nat → Nat) :
    Nested Leaf → Nat
  | .leaf value => leafSize value
  | .node container items => containerSize container items.length +
      (items.map fun item => item.measure leafSize containerSize).sum

theorem map_map (first : Leaf → Other) (second : Other → Third) (value : Nested Leaf) :
    (value.map first).map second = value.map fun leaf => second (first leaf) := by
  induction value using byItems with
  | leaf value => simp [map]
  | node container items ih =>
    simp only [map, List.map_map, node.injEq, true_and]
    exact List.map_congr_left ih

theorem arrays_map (change : Leaf → Other) (value : Nested Leaf) :
    (value.map change).arrays = value.arrays.map change := by
  induction value using byItems with
  | leaf value => simp [map, arrays]
  | node container items ih =>
    simp only [map, arrays, List.map_map, node.injEq, true_and]
    exact List.map_congr_left ih

theorem measure_map (change : Leaf → Other) (leafSize : Other → Nat)
    (containerSize : Container → Nat → Nat) (value : Nested Leaf) :
    (value.map change).measure leafSize containerSize =
      value.measure (fun leaf => leafSize (change leaf)) containerSize := by
  induction value using byItems with
  | leaf value => simp [map, measure]
  | node container items ih =>
    simp only [map, measure, List.map_map, List.length_map]
    exact congrArg _ (congrArg _ (List.map_congr_left ih))

theorem measure_add (first second : Leaf → Nat) (containerSize : Container → Nat → Nat)
    (value : Nested Leaf) :
    value.measure (fun leaf => first leaf + second leaf) containerSize =
      value.measure first containerSize + value.measure second fun _ _ => 0 := by
  induction value using byItems with
  | leaf value => simp [measure]
  | node container items ih =>
    simp only [measure]
    rw [List.map_congr_left ih, List.sum_map_add, Nat.zero_add, Nat.add_assoc]

variable {change : Leaf → Except Exn Other} {value : Nested Leaf}

theorem map_eq_of_traverse
    {changed : Nested Other} (traversed : value.traverse change = .ok changed) :
    value.map change = changed.map .ok := by
  induction value using byItems generalizing changed with
  | leaf value =>
    rw [traverse] at traversed
    cases answer : change value with
    | error exn =>
      rw [answer] at traversed
      cases traversed
    | ok leaf =>
      rw [answer] at traversed
      cases traversed
      simp [map, answer]
  | node container items ih =>
    rw [traverse] at traversed
    cases collected : items.mapM fun item => traverse change item with
    | error exn =>
      rw [collected] at traversed
      cases traversed
    | ok results =>
      rw [collected] at traversed
      cases traversed
      simp only [map, node.injEq, true_and]
      rw [← List.forall₂_eq_eq_eq, List.forall₂_map_left_iff, List.forall₂_map_right_iff]
      exact forall₂_imp_of_mem (forall₂_of_mapM_ok collected) fun item member _ => ih item member

theorem measure_mul (factor : Nat) (leafSize : Leaf → Nat) (value : Nested Leaf) :
    value.measure (fun leaf => factor * leafSize leaf) (fun _ _ => 0) =
      factor * value.measure leafSize fun _ _ => 0 := by
  induction value using byItems with
  | leaf value => simp [measure]
  | node container items ih =>
    simp only [measure, Nat.zero_add]
    rw [List.map_congr_left ih, List.sum_map_mul_left]

theorem exists_traverse
    (accepted : value.Everywhere (fun leaf => ∃ other, change leaf = .ok other) fun _ => True) :
    ∃ changed, value.traverse change = .ok changed := by
  induction value using byItems with
  | leaf value =>
    rw [Everywhere] at accepted
    obtain ⟨other, answer⟩ := accepted
    exact ⟨.leaf other, by rw [traverse, answer]; rfl⟩
  | node container items ih =>
    rw [Everywhere] at accepted
    obtain ⟨results, collected⟩ := (exists_mapM_ok_iff (traverse change) items).mpr
      fun item member => ih item member (accepted.2 item member)
    exact ⟨.node container results, by rw [traverse, collected]; rfl⟩

theorem Everywhere.imp {leafHas weaker : Leaf → Prop} {containerHas allowed : Container → Prop}
    (everywhere : value.Everywhere leafHas containerHas)
    (leaves : ∀ leaf, leafHas leaf → weaker leaf)
    (containers : ∀ container, containerHas container → allowed container) :
    value.Everywhere weaker allowed := by
  induction value using byItems with
  | leaf value =>
    rw [Everywhere] at everywhere ⊢
    exact leaves value everywhere
  | node container items ih =>
    rw [Everywhere] at everywhere ⊢
    exact ⟨containers container everywhere.1,
      fun item member => ih item member (everywhere.2 item member)⟩

theorem everywhere_map (change : Leaf → Other) (leafHas : Other → Prop)
    (containerHas : Container → Prop) (value : Nested Leaf) :
    (value.map change).Everywhere leafHas containerHas ↔
      value.Everywhere (fun leaf => leafHas (change leaf)) containerHas := by
  induction value using byItems with
  | leaf value => simp [map, Everywhere]
  | node container items ih =>
    simp only [map, Everywhere, List.forall_mem_map]
    exact and_congr_right fun _ => forall₂_congr ih

/-- Only what is without tuples is kept when tuples become lists and the leaves are changed. -/
theorem map_arrays_eq_self_iff (change : Leaf → Leaf) (value : Nested Leaf) :
    value.arrays.map change = value ↔
      value.Everywhere (fun leaf => change leaf = leaf) (· ≠ .tuple) := by
  induction value using byItems with
  | leaf value => simp [arrays, map, Everywhere]
  | node container items ih =>
    rw [Everywhere, arrays, map, node.injEq, List.map_map]
    refine and_congr (by by_cases tuple : container = .tuple <;> simp [tuple]) ?_
    rw [map_eq_self_iff]
    exact forall₂_congr ih

end Nested

end CosmosRl.Foundation
