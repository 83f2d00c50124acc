import CosmosRl.Foundation.Dict
import CosmosRl.Foundation.Grid

/-!
Slices of a tensor along its dimensions, as fractions of each dimension, and
the overlap of a policy shard with a rollout shard.
-/

namespace CosmosRl.Utils

open CosmosRl.Foundation

inductive MapperError where
  | assertionError (message : String)
  | valueError (message : String)
  | zeroDivisionError
  | indexError
  deriving DecidableEq, Repr

/-- `length` parts out of `total_size`, from the part `offset` on. -/
structure DimSliceInfo where
  offset : Nat
  totalSize : Nat
  dim : String := ""
  length : Nat := 1
  deriving DecidableEq, Repr

abbrev ShardInfo := Dict Nat DimSliceInfo

namespace DimSliceInfo

def simplify (info : DimSliceInfo) : Except MapperError DimSliceInfo :=
  let common := Nat.gcd (Nat.gcd info.offset info.totalSize) info.length
  if common = 0 then .error .zeroDivisionError
  else .ok { info with
    offset := info.offset / common
    totalSize := info.totalSize / common
    length := info.length / common }

/-- The same slice with every part divided into `factor` parts. -/
def scaled (factor : Nat) (info : DimSliceInfo) : DimSliceInfo :=
  { info with
    offset := info.offset * factor
    totalSize := info.totalSize * factor
    length := info.length * factor }

end DimSliceInfo

/-- `get_unified_rank_info`. -/
def getUnifiedRankInfo (a b : DimSliceInfo) :
    Except MapperError (DimSliceInfo × DimSliceInfo) :=
  let size := max a.totalSize b.totalSize
  if a.totalSize = 0 then .error .zeroDivisionError
  else if size % a.totalSize ≠ 0 then
    .error (.assertionError "Sizes are not compatible for unification")
  else if b.totalSize = 0 then .error .zeroDivisionError
  else if size % b.totalSize ≠ 0 then
    .error (.assertionError "Sizes are not compatible for unification")
  else .ok (a.scaled (size / a.totalSize), b.scaled (size / b.totalSize))

/-- `rank_overlap`. -/
def rankOverlap (a b : DimSliceInfo) : Except MapperError (Option DimSliceInfo) := do
  let (aNew, bNew) ← getUnifiedRankInfo a b
  if aNew.totalSize ≠ bNew.totalSize then
    throw (.assertionError "Sizes do not match after unification")
  let left := max aNew.offset bNew.offset
  let right := min (aNew.offset + aNew.length) (bNew.offset + bNew.length)
  if left < right then
    return some { offset := left, totalSize := aNew.totalSize, dim := aNew.dim,
                  length := right - left }
  else return none

/-- `relative_rank`. -/
def relativeRank (smaller larger : DimSliceInfo) : Except MapperError DimSliceInfo := do
  let (s, l) ← getUnifiedRankInfo smaller larger
  if s.offset < l.offset then
    throw (.assertionError "Smaller rank is not less than or equal to larger rank")
  if l.offset + l.length < s.offset + s.length then
    throw (.assertionError "Smaller rank does not fit within larger rank")
  return { offset := s.offset - l.offset, totalSize := l.length, dim := s.dim,
           length := s.length }

def sliceAt (info : ShardInfo) (dim : Nat) : DimSliceInfo :=
  (info.get? dim).getD { offset := 0, totalSize := 1 }

/-- `tensor_overlap_info_at_dim`: the common part as a slice of the policy shard
and as a slice of the rollout shard. -/
def tensorOverlapInfoAtDim (policyRank rolloutRank : ShardInfo) (dim : Nat) :
    Except MapperError (Option (DimSliceInfo × DimSliceInfo)) := do
  let (pNew, rNew) ← getUnifiedRankInfo (sliceAt policyRank dim) (sliceAt rolloutRank dim)
  match ← rankOverlap pNew rNew with
  | none => return none
  | some overlap =>
    let overlapR ← relativeRank overlap rNew
    let overlapP ← relativeRank overlap pNew
    return some (← overlapP.simplify, ← overlapR.simplify)

def DimSliceInfo.part (split : DimSliceInfo) (window : Window) : Window :=
  let unit := window.length / split.totalSize
  let start := unit * split.offset
  let stop := start + unit * split.length
  { start := window.start + min start window.length
    length := min stop window.length - min start window.length }

/-- `slice_tensor_with_strategy`.  A view of a tensor is the box of the elements it
shows. -/
def sliceTensorWithStrategy (view : Box) (idx : Nat) (split : DimSliceInfo) :
    Except MapperError Box :=
  match view[idx]? with
  | none => .error .indexError
  | some window =>
    if split.totalSize = 0 then .error .zeroDivisionError
    else if window.length % split.totalSize ≠ 0 then
      .error (.assertionError
        s!"Tensor shape torch.Size({view.map Window.length}) on dim {idx} must be divisible by {split.totalSize}")
    else .ok (view.set idx (split.part window))

/-- `slice_tensor_with_strategies`, the method `cosmos_slice` of a tensor. -/
def cosmosSlice (view : Box) (strategys : ShardInfo) : Except MapperError Box :=
  strategys.entries.foldlM (fun current entry =>
    sliceTensorWithStrategy current entry.1 entry.2) view

end CosmosRl.Utils
