import CosmosRl.Utils.SliceOverlap

/-!
The slices of `tensor_overlap_info_at_dim`, applied to the local shards.

The slices know the size of the dimension only as a fraction.  In a dimension without
elements they find an overlap although there is nothing to be shared; in every other one
they find it exactly where the shards have an element in common.
-/

namespace CosmosRl.Utils

open CosmosRl.Foundation

/-- Applied to a view that shows the shard at a dimension, the slice leaves the target of
it and passes the assertion on the way. -/
def SlicesTo (shard : Window) (split : DimSliceInfo) (target : Window) : Prop :=
  ∀ (view : Box) (idx : Nat) (strategys : ShardInfo), strategys.entries = [(idx, split)] →
    view[idx]? = some shard → cosmosSlice view strategys = .ok (view.set idx target)

theorem DimSliceInfo.Selects.slicesTo {split : DimSliceInfo} {shard target : Window}
    (selects : split.Selects shard target) : SlicesTo shard split target := by
  intro view idx strategys single shown
  obtain ⟨positive, divides, part⟩ := selects
  have whole : ¬shard.length % split.totalSize ≠ 0 := not_not.mpr (Nat.mod_eq_zero_of_dvd divides)
  rw [cosmosSlice, single, List.foldlM_cons, sliceTensorWithStrategy, shown]
  dsimp only
  rw [if_neg (Nat.ne_of_gt positive), if_neg whole, part]
  rfl

def DisjointWindows (first second : Window) : Prop :=
  ∀ coordinate, ¬(first.Covers coordinate ∧ second.Covers coordinate)

theorem disjointWindows_iff {first second : Window} :
    DisjointWindows first second ↔ (first.inter second).length = 0 := by
  constructor
  · intro disjoint
    by_contra some
    apply disjoint (first.inter second).start
    rw [← Window.covers_inter, Window.Covers]
    omega
  · intro empty coordinate both
    rw [← Window.covers_inter, Window.Covers, empty] at both
    omega

section Algebra

variable {size dim : Nat} {policyRank rolloutRank : ShardInfo}

/-- The overlap is found exactly where the shards share an element, and its two relative
slices, also before they are simplified, cut the shared elements out of the shards. -/
theorem tensorOverlapInfoAtDim_slices {windowP windowR : Window}
    (positiveP : 0 < (sliceAt policyRank dim).totalSize)
    (positiveR : 0 < (sliceAt rolloutRank dim).totalSize)
    (dividesP : (sliceAt policyRank dim).totalSize ∣ size)
    (dividesR : (sliceAt rolloutRank dim).totalSize ∣ size)
    (unify : Unify (sliceAt policyRank dim) (sliceAt rolloutRank dim))
    (isP : windowP = (sliceAt policyRank dim).window size)
    (isR : windowR = (sliceAt rolloutRank dim).window size) :
    (0 < size → (tensorOverlapInfoAtDim policyRank rolloutRank dim = .ok none ↔
        DisjointWindows windowP windowR)) ∧
      (tensorOverlapInfoAtDim policyRank rolloutRank dim = .ok none ∧
          DisjointWindows windowP windowR ∨
        ∃ relativeP relativeR splitP splitR,
          relativeOverlaps policyRank rolloutRank dim = .ok (some (relativeP, relativeR)) ∧
          relativeP.simplify = .ok splitP ∧ relativeR.simplify = .ok splitR ∧
          tensorOverlapInfoAtDim policyRank rolloutRank dim =
            .ok (some (splitP, splitR)) ∧
          ∃ common : Window,
            (∀ coordinate, common.Covers coordinate ↔
              windowP.Covers coordinate ∧ windowR.Covers coordinate) ∧
            (SlicesTo windowP relativeP common ∧ SlicesTo windowR relativeR common) ∧
            SlicesTo windowP splitP common ∧ SlicesTo windowR splitR common) := by
  rcases tensorOverlapInfoAtDim_cases positiveP positiveR dividesP dividesR unify isP isR with
    ⟨nothing, empty⟩ | ⟨relativeP, relativeR, splitP, splitR, relatives, simplifyP, simplifyR,
      found, some, ⟨rawP, rawR⟩, selectsP, selectsR⟩
  · have disjoint := disjointWindows_iff.mpr empty
    exact ⟨fun _ => iff_of_true nothing disjoint, .inl ⟨nothing, disjoint⟩⟩
  · refine ⟨fun sizePos => iff_of_false ?_ ?_, .inr ⟨relativeP, relativeR, splitP, splitR,
      relatives, simplifyP, simplifyR, found, windowP.inter windowR,
      fun _ => Window.covers_inter, ⟨rawP.slicesTo, rawR.slicesTo⟩, selectsP.slicesTo,
      selectsR.slicesTo⟩⟩
    · rw [found]
      simp
    · rw [disjointWindows_iff]
      exact Nat.ne_of_gt (some sizePos)

end Algebra

def oneDimension (info : DimSliceInfo) : ShardInfo := ⟨[(0, info)], by simp⟩

/-- The second quarter and the first half of a dimension of eight elements. -/
theorem tensorOverlapInfoAtDim_slices_quarter :
    tensorOverlapInfoAtDim (oneDimension { offset := 1, totalSize := 4 })
        (oneDimension { offset := 0, totalSize := 2 }) 0 = .ok none ↔
      DisjointWindows ⟨2, 2⟩ ⟨0, 4⟩ :=
  (@tensorOverlapInfoAtDim_slices 8 0 (oneDimension { offset := 1, totalSize := 4 })
    (oneDimension { offset := 0, totalSize := 2 }) _ _ (by decide) (by decide) (by decide)
    (by decide) ⟨by decide, by decide⟩ rfl rfl).1 (by decide)

/-- In a dimension of size zero, the whole dimension shares nothing with itself, but an
overlap is found. -/
theorem tensorOverlapInfoAtDim_empty :
    ∃ split, tensorOverlapInfoAtDim (oneDimension { offset := 0, totalSize := 1 })
        (oneDimension { offset := 0, totalSize := 1 }) 0 = .ok (some (split, split)) ∧
      DisjointWindows (DimSliceInfo.window 0 { offset := 0, totalSize := 1 })
        (DimSliceInfo.window 0 { offset := 0, totalSize := 1 }) := by
  refine ⟨{ offset := 0, totalSize := 1 }, by decide, ?_⟩
  rw [disjointWindows_iff]
  decide

end CosmosRl.Utils
