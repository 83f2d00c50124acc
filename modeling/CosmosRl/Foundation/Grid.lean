import Mathlib.Data.List.Basic

/-!
Windows of a line and boxes of a grid.

A window is a range of coordinates, a box one window for every dimension.  The
element of a grid at the coordinates `x` is represented by the function `x`
itself; only its values at the dimensions of the box matter.
-/

namespace CosmosRl.Foundation

/-- The coordinates from `start` on, `length` many. -/
structure Window where
  start : Nat
  length : Nat
  deriving DecidableEq, Repr

namespace Window

def Covers (window : Window) (coordinate : Nat) : Prop :=
  window.start ≤ coordinate ∧ coordinate < window.start + window.length

instance (window : Window) (coordinate : Nat) : Decidable (window.Covers coordinate) :=
  inferInstanceAs (Decidable (_ ∧ _))

def inter (first second : Window) : Window where
  start := max first.start second.start
  length := min (first.start + first.length) (second.start + second.length) -
    max first.start second.start

theorem covers_inter {first second : Window} {coordinate : Nat} :
    (first.inter second).Covers coordinate ↔
      first.Covers coordinate ∧ second.Covers coordinate := by
  simp only [Covers, inter]
  omega

end Window

abbrev Box := List Window

namespace Box

def Covers (box : Box) (coordinates : Nat → Nat) : Prop :=
  ∀ dim (bound : dim < box.length), (box[dim]).Covers (coordinates dim)

instance (box : Box) (coordinates : Nat → Nat) : Decidable (box.Covers coordinates) :=
  inferInstanceAs (Decidable (∀ dim (bound : dim < box.length),
    (box.get ⟨dim, bound⟩).Covers (coordinates dim)))

variable {coordinates : Nat → Nat} {shape : List Nat}

theorem covers_iff {box : Box} :
    box.Covers coordinates ↔
      ∀ (dim : Nat) (window : Window), box[dim]? = some window →
        window.Covers (coordinates dim) := by
  constructor
  · intro covers dim window found
    obtain ⟨bound, rfl⟩ := List.getElem?_eq_some_iff.mp found
    exact covers dim bound
  · intro covers dim bound
    exact covers dim _ (List.getElem?_eq_getElem bound)

def ofShape (shape : List Nat) (windowAt : Nat → Nat → Window) : Box :=
  shape.mapIdx windowAt

theorem getElem?_ofShape (shape : List Nat) (windowAt : Nat → Nat → Window) (dim : Nat) :
    (ofShape shape windowAt)[dim]? = (shape[dim]?).map (windowAt dim) := by
  simp [ofShape]

theorem covers_ofShape {windowAt : Nat → Nat → Window} :
    (ofShape shape windowAt).Covers coordinates ↔
      ∀ (dim size : Nat), shape[dim]? = some size →
        (windowAt dim size).Covers (coordinates dim) := by
  rw [covers_iff]
  simp only [getElem?_ofShape, Option.map_eq_some_iff, forall_exists_index, and_imp]
  constructor
  · intro covers dim size found
    exact covers dim _ size found rfl
  · rintro covers dim _ size found rfl
    exact covers dim size found

/-- The element lies in two boxes of one shape precisely when it lies in the box of
the common windows. -/
theorem covers_ofShape_inter {first second : Nat → Nat → Window} :
    (ofShape shape fun dim size => (first dim size).inter (second dim size)).Covers
        coordinates ↔
      (ofShape shape first).Covers coordinates ∧
        (ofShape shape second).Covers coordinates := by
  simp only [covers_ofShape, Window.covers_inter]
  constructor
  · intro covers
    exact ⟨fun dim size found => (covers dim size found).1,
      fun dim size found => (covers dim size found).2⟩
  · rintro ⟨inFirst, inSecond⟩ dim size found
    exact ⟨inFirst dim size found, inSecond dim size found⟩

end Box

end CosmosRl.Foundation
