import Mathlib.Algebra.BigOperators.Group.List.Basic
import Mathlib.Data.List.GetD
import CosmosRl.Foundation.Cutting

/-!
Tensors in row-major order.

A tensor is its shape and the list of its entries, the last dimension running fastest.  Two
tensors of one shape are equal if their entries agree at every index within the shape.
-/

namespace CosmosRl.Foundation

open List

universe u

def InShape (index shape : List Nat) : Prop := List.Forall₂ (· < ·) index shape

@[simp]
theorem inShape_nil : InShape [] [] := List.Forall₂.nil

variable {index shape : List Nat} {dim : Nat}

@[simp]
theorem inShape_cons {coordinate length : Nat} :
    InShape (coordinate :: index) (length :: shape) ↔
      coordinate < length ∧ InShape index shape :=
  forall₂_cons

theorem InShape.getD_lt (inside : InShape index shape)
    (inRange : dim < shape.length) : index.getD dim 0 < shape.getD dim 0 := by
  have indexed : dim < index.length := by
    rw [inside.length_eq]
    exact inRange
  rw [getD_eq_getElem _ _ indexed, getD_eq_getElem _ _ inRange]
  exact inside.get indexed inRange

theorem InShape.modify {index shape : List Nat} (inside : InShape index shape) {dim length : Nat}
    {change : Nat → Nat} (within : ∀ coordinate < shape.getD dim 0, change coordinate < length) :
    InShape (index.modify dim change) (shape.set dim length) := by
  induction inside generalizing dim with
  | nil =>
    rw [modify_nil, set_nil]
    exact inShape_nil
  | @cons coordinate bound index shape less inside ih =>
    cases dim with
    | zero => exact inShape_cons.mpr ⟨within coordinate less, inside⟩
    | succ dim => exact inShape_cons.mpr ⟨less, ih within⟩

theorem InShape.set (inside : InShape index shape) (dim : Nat)
    {coordinate length : Nat} (within : coordinate < length) :
    InShape (index.set dim coordinate) (shape.set dim length) := by
  rw [set_eq_modify]
  exact inside.modify fun _ _ => within

theorem modify_eq_self {change : Nat → Nat}
    (keeps : change (index.getD dim 0) = index.getD dim 0) : index.modify dim change = index := by
  refine ext_getElem? fun place => ?_
  rw [getElem?_modify]
  by_cases here : dim = place
  · subst here
    cases found : index[dim]? with
    | none => rfl
    | some coordinate =>
      rw [getD_eq_getElem?_getD, found, Option.getD_some] at keeps
      simp [keeps]
  · simp [here]

theorem set_getD_self (shape : List Nat) (dim : Nat) :
    shape.set dim (shape.getD dim 0) = shape := by
  rw [set_eq_modify]
  exact modify_eq_self rfl

theorem getD_set_ne (shape : List Nat) {other : Nat} (distinct : dim ≠ other) (length : Nat) :
    (shape.set dim length).getD other 0 = shape.getD other 0 := by
  rw [getD_eq_getElem?_getD, getElem?_set_ne distinct, getD_eq_getElem?_getD]

def offset : List Nat → List Nat → Nat
  | _ :: shape, coordinate :: index => coordinate * shape.prod + offset shape index
  | _, _ => 0

def indices : List Nat → List (List Nat)
  | [] => [[]]
  | length :: shape =>
    (List.range length).flatMap fun coordinate => (indices shape).map (coordinate :: ·)

theorem mem_indices_iff : index ∈ indices shape ↔ InShape index shape := by
  induction shape generalizing index with
  | nil => exact mem_singleton.trans forall₂_nil_right_iff.symm
  | cons length shape ih =>
    rw [indices, mem_flatMap]
    constructor
    · rintro ⟨coordinate, inRange, member⟩
      obtain ⟨rest, inside, rfl⟩ := mem_map.mp member
      exact .cons (mem_range.mp inRange) (ih.mp inside)
    · intro inside
      cases inside with
      | @cons coordinate _ rest _ less later =>
        exact ⟨coordinate, mem_range.mpr less, mem_map.mpr ⟨rest, ih.mpr later, rfl⟩⟩

theorem map_offset_indices (shape : List Nat) :
    (indices shape).map (offset shape) = List.range shape.prod := by
  induction shape with
  | nil => rfl
  | cons length shape ih =>
    rw [indices, map_flatMap, prod_cons]
    have row : ∀ coordinate, ((indices shape).map (coordinate :: ·)).map
        (offset (length :: shape)) =
          (List.range shape.prod).map (coordinate * shape.prod + ·) := by
      intro coordinate
      rw [← ih, map_map, map_map]
      rfl
    simp only [row]
    clear row ih
    induction length with
    | zero => rw [Nat.zero_mul]; rfl
    | succ length ih =>
      rw [range_succ, flatMap_append, ih, flatMap_singleton, Nat.succ_mul, range_add]

theorem length_indices (shape : List Nat) : (indices shape).length = shape.prod := by
  rw [← length_map (offset shape), map_offset_indices, length_range]

section

variable (inside : InShape index shape)

include inside

theorem getElem?_indices : (indices shape)[offset shape index]? = some index := by
  obtain ⟨place, found⟩ := mem_iff_getElem?.mp (mem_indices_iff.mpr inside)
  have numbered := congrArg (fun offsets : List Nat => offsets[place]?) (map_offset_indices shape)
  rw [getElem?_map, found, Option.map_some] at numbered
  have same : offset shape index = place := by
    have inRange := (List.getElem?_eq_some_iff.mp numbered.symm).2
    rw [getElem_range] at inRange
    exact inRange.symm
  rw [same]
  exact found

theorem offset_lt : offset shape index < shape.prod := by
  rw [← mem_range, ← map_offset_indices]
  exact mem_map_of_mem (mem_indices_iff.mpr inside)

theorem offset_cons_div (length coordinate : Nat) :
    offset (length :: shape) (coordinate :: index) / shape.prod = coordinate := by
  have bound := offset_lt inside
  rw [offset, Nat.mul_comm, Nat.mul_add_div (Nat.zero_lt_of_lt bound), Nat.div_eq_of_lt bound,
    Nat.add_zero]

theorem offset_cons_mod (length coordinate : Nat) :
    offset (length :: shape) (coordinate :: index) % shape.prod = offset shape index := by
  rw [offset, Nat.mul_add_mod_of_lt (offset_lt inside)]

end

theorem exists_index {place : Nat} (inRange : place < shape.prod) :
    ∃ index, InShape index shape ∧ offset shape index = place := by
  rw [← mem_range, ← map_offset_indices] at inRange
  obtain ⟨index, member, same⟩ := mem_map.mp inRange
  exact ⟨index, mem_indices_iff.mp member, same⟩

@[ext]
structure Tensor (Entry : Type u) where
  shape : List Nat
  data : List Entry
  length_data : data.length = shape.prod

namespace Tensor

variable {Entry : Type u}

def view (shape : List Nat) (data : List Entry) : Option (Tensor Entry) :=
  if sized : data.length = shape.prod then some ⟨shape, data, sized⟩ else none

theorem view_data (tensor : Tensor Entry) : view tensor.shape tensor.data = some tensor :=
  dif_pos tensor.length_data

def ofFn (shape : List Nat) (entry : List Nat → Entry) : Tensor Entry where
  shape := shape
  data := (indices shape).map entry
  length_data := (List.length_map entry).trans (length_indices shape)

@[simp]
theorem shape_ofFn (shape : List Nat) (entry : List Nat → Entry) :
    (ofFn shape entry).shape = shape := rfl

variable [Inhabited Entry]

def get (tensor : Tensor Entry) (index : List Nat) : Entry :=
  tensor.data.getD (offset tensor.shape index) default

variable {index : List Nat} {dim count number : Nat} {tensor : Tensor Entry}

theorem get_ofFn (inside : InShape index shape)
    (entry : List Nat → Entry) : (ofFn shape entry).get index = entry index := by
  unfold get ofFn
  dsimp only
  rw [getD_eq_getElem?_getD, getElem?_map, getElem?_indices inside]
  rfl

theorem data_eq (tensor : Tensor Entry) : tensor.data = (indices tensor.shape).map tensor.get := by
  have entries : (indices tensor.shape).map tensor.get =
      (List.range tensor.data.length).map fun place => tensor.data.getD place default := by
    rw [tensor.length_data, ← map_offset_indices, map_map]
    rfl
  rw [entries]
  apply ext_getElem
  · rw [length_map, length_range]
  · intro place inside _
    rw [getElem_map, getElem_range]
    exact (getD_eq_getElem tensor.data default inside).symm

theorem ext_get {first second : Tensor Entry} (sameShape : first.shape = second.shape)
    (same : ∀ index, InShape index first.shape → first.get index = second.get index) :
    first = second := by
  apply Tensor.ext sameShape
  rw [first.data_eq, second.data_eq, ← sameShape]
  refine map_congr_left ?_
  intro index member
  exact same index (mem_indices_iff.mp member)

def size (dim : Nat) (tensor : Tensor Entry) : Nat := tensor.shape.getD dim 0

def narrow (dim start length : Nat) (tensor : Tensor Entry) : Tensor Entry :=
  ofFn (tensor.shape.set dim length) fun index => tensor.get (index.modify dim (start + ·))

/-- `torch.tensor_split`: the first parts are longer by one if the length does not divide. -/
def tensorSplit (count dim : Nat) (tensor : Tensor Entry) : List (Tensor Entry) :=
  (List.range count).map fun part =>
    tensor.narrow dim
      (part * (tensor.size dim / count) + min part (tensor.size dim % count))
      (tensor.size dim / count + if part < tensor.size dim % count then 1 else 0)

def locate : List Nat → Nat → Nat × Nat
  | [], coordinate => (0, coordinate)
  | length :: lengths, coordinate =>
    if coordinate < length then (0, coordinate)
    else
      ((locate lengths (coordinate - length)).1 + 1, (locate lengths (coordinate - length)).2)

/-- `torch.cat`: the shapes must be the same in the other dimensions. -/
def cat (dim : Nat) (parts : List (Tensor Entry)) : Option (Tensor Entry) :=
  match parts with
  | [] => none
  | first :: rest =>
    if ∀ part ∈ rest, part.shape.set dim 0 = first.shape.set dim 0 then
      let lengths := parts.map (size dim)
      some (ofFn (first.shape.set dim lengths.sum) fun index =>
        let place := locate lengths (index.getD dim 0)
        (parts.getD place.1 first).get (index.set dim place.2))
    else none

@[simp]
theorem shape_narrow (dim start length : Nat) (tensor : Tensor Entry) :
    (tensor.narrow dim start length).shape = tensor.shape.set dim length := rfl

theorem get_narrow {start length : Nat} (inside : InShape index (tensor.shape.set dim length)) :
    (tensor.narrow dim start length).get index =
      tensor.get (index.modify dim (start + ·)) :=
  get_ofFn inside _

theorem tensorSplit_of_dvd (divides : count ∣ tensor.size dim) :
    tensor.tensorSplit count dim = (List.range count).map fun part =>
      tensor.narrow dim (part * (tensor.size dim / count)) (tensor.size dim / count) := by
  unfold tensorSplit
  rw [Nat.mod_eq_zero_of_dvd divides]
  simp only [Nat.min_zero, Nat.add_zero, Nat.not_lt_zero, if_false]

theorem locate_replicate (length : Nat) {coordinate : Nat} (inRange : coordinate < count * length) :
    locate (List.replicate count length) coordinate =
      (coordinate / length, coordinate % length) := by
  induction count generalizing coordinate with
  | zero =>
    rw [Nat.zero_mul] at inRange
    exact absurd inRange (Nat.not_lt_zero coordinate)
  | succ count ih =>
    rw [replicate_succ, locate]
    split
    case isTrue first => rw [Nat.div_eq_of_lt first, Nat.mod_eq_of_lt first]
    case isFalse later =>
      have reaches : length ≤ coordinate := Nat.not_lt.mp later
      have within : coordinate - length < count * length := by
        rw [Nat.succ_mul] at inRange
        omega
      have positive : 0 < length := by
        rcases Nat.eq_zero_or_pos length with rfl | positive
        · exact absurd inRange (Nat.not_lt_zero coordinate)
        · exact positive
      rw [ih within, ← Nat.div_eq_sub_div positive reaches, ← Nat.mod_eq_sub_mod reaches]

theorem cat_of_same {dim : Nat} {parts : List (Tensor Entry)} {shape : List Nat}
    (nonempty : parts ≠ []) (same : ∀ part ∈ parts, part.shape = shape) :
    ∃ joined, cat dim parts = some joined ∧
      joined.shape = shape.set dim (parts.length * shape.getD dim 0) ∧
      ∀ index, InShape index joined.shape →
        index.getD dim 0 < parts.length * shape.getD dim 0 →
        ∃ part ∈ parts[index.getD dim 0 / shape.getD dim 0]?,
          joined.get index = part.get (index.set dim (index.getD dim 0 % shape.getD dim 0)) := by
  cases parts with
  | nil => exact absurd rfl nonempty
  | cons first rest =>
    have agree : ∀ part ∈ rest, part.shape.set dim 0 = first.shape.set dim 0 := by
      intro part member
      rw [same part (mem_cons_of_mem _ member), same first mem_cons_self]
    have lengths : (first :: rest).map (size dim) =
        List.replicate (first :: rest).length (shape.getD dim 0) := by
      refine eq_replicate_iff.mpr ⟨length_map _, ?_⟩
      intro length member
      obtain ⟨part, isPart, rfl⟩ := mem_map.mp member
      unfold size
      rw [same part isPart]
    refine ⟨_, if_pos agree, ?_, ?_⟩
    · rw [shape_ofFn, lengths, sum_replicate_nat, same first mem_cons_self]
    · intro index inside inRange
      have before : index.getD dim 0 / shape.getD dim 0 < (first :: rest).length :=
        Nat.div_lt_of_lt_mul (by rw [Nat.mul_comm]; exact inRange)
      refine ⟨(first :: rest)[index.getD dim 0 / shape.getD dim 0],
        getElem?_eq_getElem before, ?_⟩
      rw [get_ofFn (by rw [shape_ofFn] at inside; exact inside), lengths,
        locate_replicate _ inRange]
      dsimp only
      rw [getD_eq_getElem _ _ before]

def slice (dim count number : Nat) (tensor : Tensor Entry) : Tensor Entry :=
  tensor.narrow dim (number * (tensor.size dim / count)) (tensor.size dim / count)

@[simp]
theorem shape_slice (dim count number : Nat) (tensor : Tensor Entry) :
    (tensor.slice dim count number).shape = tensor.shape.set dim (tensor.size dim / count) := rfl

theorem get_slice (inside : InShape index (tensor.shape.set dim (tensor.size dim / count))) :
    (tensor.slice dim count number).get index =
      tensor.get (index.modify dim (number * (tensor.size dim / count) + ·)) :=
  get_narrow inside

theorem inShape_unslice {length : Nat}
    (before : number < count) (inside : InShape index (shape.set dim (length / count))) :
    InShape (index.modify dim (number * (length / count) + ·)) (shape.set dim length) := by
  by_cases inRange : dim < shape.length
  · have moved := @InShape.modify _ _ inside dim length (number * (length / count) + ·) (by
      intro coordinate within
      rw [getD_eq_getElem?_getD, getElem?_set_self inRange, Option.getD_some] at within
      have next := Nat.mul_le_mul_right (length / count) before
      rw [Nat.succ_mul] at next
      have fits := Nat.mul_div_le length count
      omega)
    rw [set_set] at moved
    exact moved
  · have outside : shape.length ≤ dim := Nat.not_lt.mp inRange
    rw [set_eq_of_length_le outside] at inside ⊢
    have sameIndex : index.length ≤ dim := by
      rw [inside.length_eq]
      exact outside
    rw [List.modify_eq_self sameIndex]
    exact inside

/-- Tensors of one shape are the parts of one tensor. -/
theorem exists_slices {count dim : Nat} {parts : Fin count → Tensor Entry} {shape : List Nat}
    (positive : 0 < count) (inRange : dim < shape.length)
    (same : ∀ number, (parts number).shape = shape) :
    ∃ whole : Tensor Entry, whole.shape = shape.set dim (count * shape.getD dim 0) ∧
      ∀ number, parts number = whole.slice dim count number := by
  generalize length_eq : shape.getD dim 0 = length
  have wholeSize : (shape.set dim (count * length)).getD dim 0 / count = length := by
    rw [getD_eq_getElem?_getD, getElem?_set_self inRange]
    exact Nat.mul_div_cancel_left length positive
  refine ⟨ofFn (shape.set dim (count * length)) fun index =>
    if held : index.getD dim 0 / length < count then
      (parts ⟨index.getD dim 0 / length, held⟩).get (index.modify dim (· % length))
    else default, rfl, ?_⟩
  intro number
  unfold slice size
  rw [shape_ofFn, wholeSize]
  have sameShape : (shape.set dim (count * length)).set dim length = shape := by
    rw [set_set, ← length_eq, getD_eq_getElem _ _ inRange, set_getElem_self]
  refine ext_get ?_ ?_
  · rw [shape_narrow, shape_ofFn, sameShape, same]
  · intro index inside
    rw [same] at inside
    rw [get_narrow (by rw [shape_ofFn, sameShape]; exact inside)]
    have less : index.getD dim 0 < length := length_eq ▸ inside.getD_lt inRange
    have lengthPos : 0 < length := Nat.zero_lt_of_lt less
    have moved : InShape (index.modify dim (number * length + ·))
        (shape.set dim (count * length)) := by
      refine inside.modify fun coordinate within => ?_
      rw [length_eq] at within
      have next := Nat.mul_le_mul_right length number.isLt
      rw [Nat.succ_mul] at next
      omega
    have indexed : dim < index.length := by
      rw [inside.length_eq]
      exact inRange
    have coordinate_eq : (index.modify dim (number * length + ·)).getD dim 0 =
        number * length + index.getD dim 0 := by
      rw [getD_eq_getElem?_getD, getElem?_modify_eq, getElem?_eq_getElem indexed,
        getD_eq_getElem _ _ indexed]
      rfl
    have numbered : (index.modify dim (number * length + ·)).getD dim 0 / length = number := by
      rw [coordinate_eq, Nat.add_comm, Nat.add_mul_div_right _ _ lengthPos,
        Nat.div_eq_of_lt less, Nat.zero_add]
    have restored : (index.modify dim (number * length + ·)).modify dim (· % length) =
        index := by
      rw [modify_modify_eq]
      refine modify_eq_self ?_
      rw [Function.comp_apply, Nat.mul_comm, Nat.mul_add_mod, Nat.mod_eq_of_lt less]
    rw [get_ofFn moved, restored, dif_pos (lt_of_eq_of_lt numbered number.isLt)]
    exact congrArg (fun found => (parts found).get index) (Fin.ext numbered.symm)

/-- Joining along one dimension the parts, along another, of the parts along the first. -/
theorem cat_slices {first second : Nat} (positive : 0 < count)
    (distinct : first ≠ second) (inRange : first < tensor.shape.length)
    (divides : count ∣ tensor.size first) (before : number < count) :
    cat first (List.ofFn fun other : Fin count =>
      (tensor.slice first count other).slice second count number) =
        some (tensor.slice second count number) := by
  generalize part_eq : tensor.size first / count = part
  have whole : count * part = tensor.size first := part_eq ▸ Nat.mul_div_cancel' divides
  have size_slice : ∀ other, (tensor.slice first count other).size second = tensor.size second :=
    fun other => getD_set_ne tensor.shape distinct _
  generalize shape_eq : tensor.shape.set second (tensor.size second / count) = shape
  have same : ∀ piece ∈ List.ofFn fun other : Fin count =>
      (tensor.slice first count other).slice second count number,
        piece.shape = shape.set first part := by
    intro piece member
    obtain ⟨other, rfl⟩ := mem_ofFn.mp member
    rw [shape_slice, size_slice, shape_slice, part_eq, set_comm _ _ distinct, shape_eq]
  have nonempty : (List.ofFn fun other : Fin count =>
      (tensor.slice first count other).slice second count number) ≠ [] := by
    intro nothing
    have none := congrArg List.length nothing
    rw [length_ofFn] at none
    exact absurd none (Nat.ne_of_gt positive)
  have ranked : first < shape.length := by
    rw [← shape_eq, length_set]
    exact inRange
  have length_eq : (shape.set first part).getD first 0 = part := by
    rw [getD_eq_getElem?_getD, getElem?_set_self ranked]
    rfl
  have first_eq : shape.getD first 0 = tensor.size first := by
    rw [← shape_eq, getD_set_ne _ distinct.symm]
    rfl
  obtain ⟨joined, joins, joinedShape, entries⟩ := @cat_of_same _ _ first _ _ nonempty same
  rw [length_eq, length_ofFn, whole, set_set, ← first_eq, set_getD_self] at joinedShape
  rw [length_eq, length_ofFn, whole] at entries
  rw [joins]
  refine congrArg some (ext_get ?_ ?_)
  · rw [joinedShape, shape_slice, shape_eq]
  · intro index inside
    have inside' := inside
    rw [joinedShape] at inside'
    have less : index.getD first 0 < tensor.size first := first_eq ▸ inside'.getD_lt ranked
    obtain ⟨piece, isPiece, entry⟩ := entries index inside less
    rw [List.getElem?_ofFn] at isPiece
    obtain ⟨within, found⟩ := Option.mem_dite_none_right.mp isPiece
    cases found
    have partPos : 0 < part := by
      rcases Nat.eq_zero_or_pos part with rfl | partPos
      · rw [← whole, Nat.mul_zero] at less
        exact absurd less (Nat.not_lt_zero _)
      · exact partPos
    have placed : InShape (index.set first (index.getD first 0 % part))
        ((tensor.shape.set first part).set second (tensor.size second / count)) := by
      rw [set_comm _ _ distinct, shape_eq]
      exact inside'.set first (Nat.mod_lt _ partPos)
    have raised := inShape_unslice before placed
    have unchanged : (tensor.shape.set first part).set second (tensor.size second) =
        tensor.shape.set first part := by
      conv_lhs => rw [show tensor.size second = (tensor.shape.set first part).getD second 0 from
        (getD_set_ne tensor.shape distinct part).symm]
      exact set_getD_self _ _
    rw [unchanged] at raised
    have restored : ((index.set first (index.getD first 0 % part)).modify second
        (number * (tensor.size second / count) + ·)).modify first
          (index.getD first 0 / part * part + ·) =
        index.modify second (number * (tensor.size second / count) + ·) := by
      rw [modify_modify_ne _ _ _ distinct.symm, set_eq_modify, modify_modify_eq]
      refine congrArg (List.modify · second _) (modify_eq_self ?_)
      exact Nat.div_add_mod' _ _
    rw [entry, get_slice (by rw [shape_slice, size_slice, part_eq]; exact placed), size_slice,
      get_slice (by rw [part_eq]; exact raised), part_eq, restored,
      get_slice (by rw [shape_eq]; exact inside')]

end Tensor

end CosmosRl.Foundation
