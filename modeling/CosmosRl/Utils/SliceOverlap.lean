import Mathlib.Tactic.Ring
import CosmosRl.Utils.DimSliceInfo

/-!
Overlap of slices, read as ranges of elements.

A slice whose total divides the size of a dimension selects a window of it.
Unifying two slices does not move their windows, the overlap of two slices
selects the common window, and the relative slices select that same window
inside each of the two shards.
-/

namespace CosmosRl.Utils

open CosmosRl.Foundation

def DimSliceInfo.window (size : Nat) (info : DimSliceInfo) : Window where
  start := size / info.totalSize * info.offset
  length := size / info.totalSize * info.length

structure DimSliceInfo.Fits (size : Nat) (info : DimSliceInfo) : Prop where
  totalSize_pos : 0 < info.totalSize
  divides : info.totalSize ∣ size
  inside : info.offset + info.length ≤ info.totalSize

def Unify (a b : DimSliceInfo) : Prop :=
  a.totalSize ∣ max a.totalSize b.totalSize ∧ b.totalSize ∣ max a.totalSize b.totalSize

section OneDimension

variable {size : Nat} {a b : DimSliceInfo} {info : DimSliceInfo}

@[simp]
theorem DimSliceInfo.scaled_one (info : DimSliceInfo) : info.scaled 1 = info := by
  simp [DimSliceInfo.scaled]

theorem DimSliceInfo.window_scaled {factor : Nat} (positive : 0 < a.totalSize)
    (factorPos : 0 < factor) (divides : a.totalSize * factor ∣ size) :
    (a.scaled factor).window size = a.window size := by
  obtain ⟨unit, rfl⟩ := divides
  have fine : a.totalSize * factor * unit / (a.totalSize * factor) = unit :=
    Nat.mul_div_cancel_left unit (Nat.mul_pos positive factorPos)
  have coarse : a.totalSize * factor * unit / a.totalSize = factor * unit := by
    rw [Nat.mul_assoc]
    exact Nat.mul_div_cancel_left (factor * unit) positive
  simp only [DimSliceInfo.window, DimSliceInfo.scaled, fine, coarse]
  congr 1 <;> ring

theorem getUnifiedRankInfo_spec (positiveA : 0 < a.totalSize) (positiveB : 0 < b.totalSize)
    (dividesA : a.totalSize ∣ size) (dividesB : b.totalSize ∣ size) (unify : Unify a b) :
    ∃ aNew bNew, getUnifiedRankInfo a b = .ok (aNew, bNew) ∧
      aNew.totalSize = bNew.totalSize ∧ 0 < aNew.totalSize ∧ aNew.totalSize ∣ size ∧
      aNew.window size = a.window size ∧ bNew.window size = b.window size := by
  obtain ⟨unifyA, unifyB⟩ := unify
  have sizeDivides : max a.totalSize b.totalSize ∣ size := by
    rcases Nat.le_total a.totalSize b.totalSize with order | order
    · rw [Nat.max_eq_right order]
      exact dividesB
    · rw [Nat.max_eq_left order]
      exact dividesA
  have maxPos : 0 < max a.totalSize b.totalSize :=
    Nat.lt_of_lt_of_le positiveA (Nat.le_max_left _ _)
  have totalA := Nat.mul_div_cancel' unifyA
  have totalB := Nat.mul_div_cancel' unifyB
  refine ⟨a.scaled (max a.totalSize b.totalSize / a.totalSize),
    b.scaled (max a.totalSize b.totalSize / b.totalSize), ?_, ?_, ?_, ?_, ?_, ?_⟩
  · unfold getUnifiedRankInfo
    dsimp only
    rw [if_neg (by omega), if_neg (by simpa using Nat.mod_eq_zero_of_dvd unifyA),
      if_neg (by omega), if_neg (by simpa using Nat.mod_eq_zero_of_dvd unifyB)]
  · simp only [DimSliceInfo.scaled, totalA, totalB]
  · simp only [DimSliceInfo.scaled, totalA, maxPos]
  · simp only [DimSliceInfo.scaled, totalA, sizeDivides]
  · apply DimSliceInfo.window_scaled positiveA
    · exact Nat.div_pos (Nat.le_max_left _ _) positiveA
    · rw [totalA]
      exact sizeDivides
  · apply DimSliceInfo.window_scaled positiveB
    · exact Nat.div_pos (Nat.le_max_right _ _) positiveB
    · rw [totalB]
      exact sizeDivides

theorem getUnifiedRankInfo_same (positive : 0 < a.totalSize)
    (same : a.totalSize = b.totalSize) : getUnifiedRankInfo a b = .ok (a, b) := by
  unfold getUnifiedRankInfo
  have nonzero : b.totalSize ≠ 0 := by omega
  simp [same, nonzero, Nat.div_self (Nat.pos_of_ne_zero nonzero)]

theorem rankOverlap_same (positive : 0 < a.totalSize) (same : a.totalSize = b.totalSize) :
    rankOverlap a b = .ok (
      if max a.offset b.offset < min (a.offset + a.length) (b.offset + b.length) then
        some { offset := max a.offset b.offset, totalSize := a.totalSize, dim := a.dim,
               length := min (a.offset + a.length) (b.offset + b.length) -
                 max a.offset b.offset }
      else none) := by
  unfold rankOverlap
  rw [getUnifiedRankInfo_same positive same]
  by_cases common : max a.offset b.offset < min (a.offset + a.length) (b.offset + b.length)
  · rw [if_pos common]
    simp only [bind, Except.bind, same, ne_eq, not_true_eq_false, if_false, if_pos common]
    rfl
  · rw [if_neg common]
    simp only [bind, Except.bind, same, ne_eq, not_true_eq_false, if_false, if_neg common]
    rfl

theorem relativeRank_same (positive : 0 < a.totalSize) (same : a.totalSize = b.totalSize)
    (after : b.offset ≤ a.offset) (inside : a.offset + a.length ≤ b.offset + b.length) :
    relativeRank a b = .ok { offset := a.offset - b.offset, totalSize := b.length,
                             dim := a.dim, length := a.length } := by
  have notBefore : ¬ a.offset < b.offset := by omega
  have notBeyond : ¬ b.offset + b.length < a.offset + a.length := by omega
  simp [relativeRank, getUnifiedRankInfo_same positive same, bind, Except.bind, notBefore,
    notBeyond, pure, Except.pure]

theorem DimSliceInfo.part_eq {window : Window} (divides : info.totalSize ∣ window.length)
    (inside : info.offset + info.length ≤ info.totalSize) :
    info.part window =
      { start := window.start + window.length / info.totalSize * info.offset
        length := window.length / info.totalSize * info.length } := by
  have within : window.length / info.totalSize * info.offset +
      window.length / info.totalSize * info.length ≤ window.length := by
    rw [← Nat.mul_add]
    exact (Nat.mul_le_mul_left _ inside).trans_eq (Nat.div_mul_cancel divides)
  simp only [DimSliceInfo.part]
  congr 1 <;> omega

/-- Reducing a slice of a window to lowest terms does not change what it selects. -/
theorem DimSliceInfo.simplify_part {window : Window}
    (positive : 0 < info.totalSize) (divides : info.totalSize ∣ window.length)
    (inside : info.offset + info.length ≤ info.totalSize) :
    ∃ simplified, info.simplify = .ok simplified ∧ 0 < simplified.totalSize ∧
      simplified.totalSize ∣ window.length ∧
      simplified.part window =
        { start := window.start + window.length / info.totalSize * info.offset
          length := window.length / info.totalSize * info.length } := by
  let common := Nat.gcd (Nat.gcd info.offset info.totalSize) info.length
  have dividesInner : common ∣ Nat.gcd info.offset info.totalSize := Nat.gcd_dvd_left _ _
  obtain ⟨offset, offsetEq⟩ := dividesInner.trans (Nat.gcd_dvd_left _ _)
  obtain ⟨total, totalEq⟩ := dividesInner.trans (Nat.gcd_dvd_right _ _)
  obtain ⟨length, lengthEq⟩ : common ∣ info.length := Nat.gcd_dvd_right _ _
  have commonPos : 0 < common := by
    apply Nat.pos_of_ne_zero
    intro zero
    rw [zero, Nat.zero_mul] at totalEq
    omega
  have totalPos : 0 < total := by
    apply Nat.pos_of_ne_zero
    rintro rfl
    rw [Nat.mul_zero] at totalEq
    omega
  obtain ⟨unit, unitEq⟩ := divides
  have coarse : window.length / info.totalSize = unit := by
    rw [unitEq, Nat.mul_div_cancel_left unit positive]
  have fine : window.length / total = common * unit := by
    rw [unitEq, totalEq, Nat.mul_comm common total, Nat.mul_assoc,
      Nat.mul_div_cancel_left _ totalPos]
  have totalDivides : total ∣ window.length := by
    refine ⟨common * unit, ?_⟩
    rw [unitEq, totalEq]
    ring
  refine ⟨{ info with offset := offset, totalSize := total, length := length },
    ?_, totalPos, totalDivides, ?_⟩
  · have offsetDiv : info.offset / common = offset := by
      rw [offsetEq, Nat.mul_div_cancel_left _ commonPos]
    have totalDiv : info.totalSize / common = total := by
      rw [totalEq, Nat.mul_div_cancel_left _ commonPos]
    have lengthDiv : info.length / common = length := by
      rw [lengthEq, Nat.mul_div_cancel_left _ commonPos]
    show (if common = 0 then _ else _) = _
    rw [if_neg (by omega), offsetDiv, totalDiv, lengthDiv]
  · have startEq : common * unit * offset = unit * info.offset := by
      rw [offsetEq]
      ring
    have lengthEq' : common * unit * length = unit * info.length := by
      rw [lengthEq]
      ring
    have insideSimplified : offset + length ≤ total := by
      apply Nat.le_of_mul_le_mul_left _ commonPos
      rw [Nat.mul_add, ← offsetEq, ← lengthEq, ← totalEq]
      exact inside
    rw [DimSliceInfo.part_eq totalDivides insideSimplified]
    simp only [fine, coarse, startEq, lengthEq']

def DimSliceInfo.Selects (split : DimSliceInfo) (shard target : Window) : Prop :=
  0 < split.totalSize ∧ split.totalSize ∣ shard.length ∧ split.part shard = target

/-- The relative slice of an overlap selects the overlap inside the shard, also in lowest
terms. -/
theorem relativeRank_selects {overlap : DimSliceInfo} (positive : 0 < b.totalSize)
    (same : overlap.totalSize = b.totalSize) (after : b.offset ≤ overlap.offset)
    (inside : overlap.offset + overlap.length ≤ b.offset + b.length)
    (nonempty : 0 < overlap.length) :
    ∃ relative simplified, relativeRank overlap b = .ok relative ∧
      relative.simplify = .ok simplified ∧
      relative.Selects (b.window size) (overlap.window size) ∧
      simplified.Selects (b.window size) (overlap.window size) := by
  let relative : DimSliceInfo :=
    { offset := overlap.offset - b.offset, totalSize := b.length, dim := overlap.dim,
      length := overlap.length }
  have lengthPos : 0 < b.length := by omega
  have divides : relative.totalSize ∣ (b.window size).length := ⟨_, Nat.mul_comm _ _⟩
  have insideRelative : relative.offset + relative.length ≤ relative.totalSize := by
    show overlap.offset - b.offset + overlap.length ≤ b.length
    omega
  obtain ⟨simplified, simplify, simplifiedPos, simplifiedDivides, part⟩ :=
    DimSliceInfo.simplify_part lengthPos divides insideRelative
  have unit : (b.window size).length / relative.totalSize = size / b.totalSize :=
    Nat.mul_div_cancel _ lengthPos
  have shifted : size / b.totalSize * b.offset +
      size / b.totalSize * (overlap.offset - b.offset) =
        size / b.totalSize * overlap.offset := by
    rw [← Nat.mul_add, Nat.add_sub_cancel' after]
  have target : Window.mk ((b.window size).start +
      (b.window size).length / relative.totalSize * relative.offset)
      ((b.window size).length / relative.totalSize * relative.length) =
        overlap.window size := by
    rw [unit]
    simp only [DimSliceInfo.window, relative, shifted, same]
  have overlapPos : 0 < overlap.totalSize := same ▸ positive
  refine ⟨relative, simplified, relativeRank_same overlapPos same after inside, simplify,
    ⟨lengthPos, divides, ?_⟩, simplifiedPos, simplifiedDivides, part.trans target⟩
  rw [DimSliceInfo.part_eq divides insideRelative, target]

/-- `tensor_overlap_info_at_dim` before the slices are simplified. -/
def relativeOverlaps (policyRank rolloutRank : ShardInfo) (dim : Nat) :
    Except MapperError (Option (DimSliceInfo × DimSliceInfo)) := do
  let (pNew, rNew) ← getUnifiedRankInfo (sliceAt policyRank dim) (sliceAt rolloutRank dim)
  match ← rankOverlap pNew rNew with
  | none => return none
  | some overlap =>
    let overlapR ← relativeRank overlap rNew
    let overlapP ← relativeRank overlap pNew
    return some (overlapP, overlapR)

theorem inter_window_eq (same : a.totalSize = b.totalSize) :
    (a.window size).inter (b.window size) =
      { start := size / a.totalSize * max a.offset b.offset
        length := size / a.totalSize *
          (min (a.offset + a.length) (b.offset + b.length) - max a.offset b.offset) } := by
  have unitB : size / b.totalSize = size / a.totalSize := by rw [same]
  simp only [Window.inter, DimSliceInfo.window, unitB, ← Nat.mul_add, Nat.mul_max_mul_left,
    Nat.mul_min_mul_left, Nat.mul_sub]

/-- Either two slices have no part in common, or the relative slices select the common
window inside each shard, before and after they are simplified. -/
theorem tensorOverlapInfoAtDim_cases {policyRank rolloutRank : ShardInfo} {dim : Nat}
    (positiveP : 0 < (sliceAt policyRank dim).totalSize)
    (positiveR : 0 < (sliceAt rolloutRank dim).totalSize)
    (dividesP : (sliceAt policyRank dim).totalSize ∣ size)
    (dividesR : (sliceAt rolloutRank dim).totalSize ∣ size)
    (unify : Unify (sliceAt policyRank dim) (sliceAt rolloutRank dim))
    {windowP windowR : Window} (isP : windowP = (sliceAt policyRank dim).window size)
    (isR : windowR = (sliceAt rolloutRank dim).window size) :
    (tensorOverlapInfoAtDim policyRank rolloutRank dim = .ok none ∧
        (windowP.inter windowR).length = 0) ∨
      ∃ relativeP relativeR splitP splitR,
        relativeOverlaps policyRank rolloutRank dim = .ok (some (relativeP, relativeR)) ∧
        relativeP.simplify = .ok splitP ∧ relativeR.simplify = .ok splitR ∧
        tensorOverlapInfoAtDim policyRank rolloutRank dim = .ok (some (splitP, splitR)) ∧
        (0 < size → 0 < (windowP.inter windowR).length) ∧
        (relativeP.Selects windowP (windowP.inter windowR) ∧
          relativeR.Selects windowR (windowP.inter windowR)) ∧
        splitP.Selects windowP (windowP.inter windowR) ∧
        splitR.Selects windowR (windowP.inter windowR) := by
  obtain ⟨p, r, unified, sameTotal, positive, divides, ofP, ofR⟩ :=
    getUnifiedRankInfo_spec positiveP positiveR dividesP dividesR unify
  rw [isP, isR, ← ofP, ← ofR]
  let left := max p.offset r.offset
  let right := min (p.offset + p.length) (r.offset + r.length)
  have interEq := @inter_window_eq size p r sameTotal
  have overlapEq := rankOverlap_same positive sameTotal
  by_cases common : left < right
  · refine .inr ?_
    rw [if_pos common] at overlapEq
    let overlap : DimSliceInfo := { offset := left, totalSize := p.totalSize, dim := p.dim,
                                    length := right - left }
    have within : left + (right - left) = right := Nat.add_sub_cancel' (Nat.le_of_lt common)
    obtain ⟨relativeR, splitR, relR, simplifyR, rawR, selectsR⟩ :=
      @relativeRank_selects size r overlap (sameTotal ▸ positive) sameTotal
        (Nat.le_max_right _ _) (within.trans_le (Nat.min_le_right _ _))
        (Nat.sub_pos_of_lt common)
    obtain ⟨relativeP, splitP, relP, simplifyP, rawP, selectsP⟩ :=
      @relativeRank_selects size p overlap positive rfl (Nat.le_max_left _ _)
        (within.trans_le (Nat.min_le_left _ _)) (Nat.sub_pos_of_lt common)
    have target : overlap.window size = (p.window size).inter (r.window size) := interEq.symm
    rw [target] at rawR selectsR rawP selectsP
    refine ⟨relativeP, relativeR, splitP, splitR, ?_, simplifyP, simplifyR, ?_, ?_,
      ⟨rawP, rawR⟩, selectsP, selectsR⟩
    · simp only [relativeOverlaps, unified, overlapEq, bind, Except.bind]
      rw [relR, relP]
      rfl
    · simp only [tensorOverlapInfoAtDim, unified, overlapEq, bind, Except.bind]
      rw [relR, relP]
      simp only [simplifyP, simplifyR]
      rfl
    · intro sizePos
      rw [interEq]
      exact Nat.mul_pos (Nat.div_pos (Nat.le_of_dvd sizePos divides) positive)
        (Nat.sub_pos_of_lt common)
  · refine .inl ⟨?_, ?_⟩
    · rw [if_neg common] at overlapEq
      simp [tensorOverlapInfoAtDim, unified, overlapEq, bind, Except.bind, pure, Except.pure]
    · have nothing : right - left = 0 := by omega
      rw [interEq]
      exact mul_eq_zero_of_right _ nothing

/-- The overlap of two slices at one dimension: either they have no element in
common, or the two relative slices select the common window inside each shard. -/
theorem tensorOverlapInfoAtDim_spec {policyRank rolloutRank : ShardInfo} {dim : Nat}
    (fitsP : (sliceAt policyRank dim).Fits size) (fitsR : (sliceAt rolloutRank dim).Fits size)
    (unify : Unify (sliceAt policyRank dim) (sliceAt rolloutRank dim)) :
    (tensorOverlapInfoAtDim policyRank rolloutRank dim = .ok none ∧
        ∀ coordinate, ¬ (((sliceAt policyRank dim).window size).inter
          ((sliceAt rolloutRank dim).window size)).Covers coordinate) ∨
      ∃ splitP splitR,
        tensorOverlapInfoAtDim policyRank rolloutRank dim = .ok (some (splitP, splitR)) ∧
        (0 < splitP.totalSize ∧
          splitP.totalSize ∣ ((sliceAt policyRank dim).window size).length ∧
          splitP.part ((sliceAt policyRank dim).window size) =
            ((sliceAt policyRank dim).window size).inter
              ((sliceAt rolloutRank dim).window size)) ∧
        (0 < splitR.totalSize ∧
          splitR.totalSize ∣ ((sliceAt rolloutRank dim).window size).length ∧
          splitR.part ((sliceAt rolloutRank dim).window size) =
            ((sliceAt policyRank dim).window size).inter
              ((sliceAt rolloutRank dim).window size)) := by
  rcases tensorOverlapInfoAtDim_cases fitsP.totalSize_pos fitsR.totalSize_pos fitsP.divides
      fitsR.divides unify rfl rfl with ⟨nothing, empty⟩ |
        ⟨_, _, splitP, splitR, _, _, _, found, _, _, selectsP, selectsR⟩
  · refine .inl ⟨nothing, fun coordinate covers => ?_⟩
    rw [Window.Covers, empty] at covers
    omega
  · exact .inr ⟨splitP, splitR, found, selectsP, selectsR⟩

end OneDimension

end CosmosRl.Utils
