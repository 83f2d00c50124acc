import Mathlib.Algebra.BigOperators.Group.Finset.Basic
import Mathlib.Algebra.BigOperators.Ring.List
import Mathlib.Algebra.Ring.Int.Defs
import Mathlib.Algebra.Ring.Pi

/-!
`GroupedExperts`: the routed experts of a layer, on the ranks of an expert-parallel mesh.

Every rank runs its own experts on the tokens of all ranks.  The partial outputs are added,
and each rank keeps the rows of its own tokens.  Arithmetic is exact.
-/

namespace CosmosRl.Policy

open List

/-- A row of the four inputs; a choice is an expert with its weight. -/
structure RoutedToken (Value : Type) where
  hidden : Nat → Value
  isValid : Bool
  choices : List (Nat × Value)

structure GroupedExperts (Value : Type) where
  nRoutedExperts : Nat
  dim : Nat
  moeInterDim : Nat
  gateAndUpProjs : Nat → Nat → Nat → Value
  downProjs : Nat → Nat → Nat → Value
  silu : Value → Value

variable {Value : Type} [Semiring Value]

def linear (columns : Nat) (x : Nat → Value) (proj : Nat → Nat → Value) (row : Nat) : Value :=
  ∑ column ∈ Finset.range columns, x column * proj row column

namespace GroupedExperts

variable (layer : GroupedExperts Value)

def swiglu (x : Nat → Value) (gateProj downProj upProj : Nat → Nat → Value) : Nat → Value :=
  linear layer.moeInterDim
    (fun row => layer.silu (linear layer.dim x gateProj row) * linear layer.dim x upProj row)
    downProj

/-- `get_local_proj`: a rank has the experts from `start` on. -/
def getLocalProj (proj : Nat → Nat → Nat → Value) (start expertId : Nat) : Nat → Nat → Value :=
  let localProj := fun position => proj (start + position)
  localProj (expertId - start)

def expertOut (start expertId : Nat) (x : Nat → Value) : Nat → Value :=
  let gateAndUpProj := getLocalProj layer.gateAndUpProjs start expertId
  layer.swiglu x gateAndUpProj (getLocalProj layer.downProjs start expertId)
    fun row => gateAndUpProj (layer.moeInterDim + row)

/-- The choices of an expert by a token that is not masked. -/
def selected (expertId : Nat) (token : RoutedToken Value) : List (Nat × Value) :=
  if token.isValid then token.choices.filter fun choice => choice.1 = expertId else []

def weightedOut (start expertId : Nat) (token : RoutedToken Value) : Nat → Value :=
  ((selected expertId token).map fun choice channel =>
    layer.expertOut start expertId token.hidden channel * choice.2).sum

/-- The loop body for one expert, with the number of active experts. -/
def addExpert (start : Nat) (tokens : List (RoutedToken Value))
    (state : List (Nat → Value) × Nat) (expertId : Nat) : List (Nat → Value) × Nat :=
  if tokens.all fun token => (selected expertId token).isEmpty then state
  else (List.zipWith (fun out token => out + layer.weightedOut start expertId token)
    state.1 tokens, state.2 + 1)

/-- The partial output of a rank for the tokens of all ranks.  Without active experts, the
first one runs on zeros. -/
def partialOut (epSize epRank : Nat) (tokens : List (RoutedToken Value)) : List (Nat → Value) :=
  let nLocalExperts := layer.nRoutedExperts / epSize
  let start := epRank * nLocalExperts
  let state := (List.range' start nLocalExperts).foldl (layer.addExpert start tokens)
    (tokens.map fun _ => 0, 0)
  if state.2 = 0 then
    let weight := (tokens.head?.bind fun token => token.choices.head?).elim 0 Prod.snd
    state.1.modifyHead (· + fun channel => layer.expertOut start start 0 channel * weight)
  else state.1

/-- `forward` of a rank, when each rank has `count` tokens. -/
def forward (epSize count : Nat) (tokensOf : Nat → List (RoutedToken Value)) (epRank : Nat) :
    List (Nat → Value) :=
  let tokens := (List.range epSize).flatMap tokensOf
  let summed := (List.range epSize).foldl
    (fun total rank => List.zipWith (· + ·) total (layer.partialOut epSize rank tokens))
    (tokens.map fun _ => 0)
  (summed.drop (epRank * count)).take count

variable {layer}

theorem swiglu_zero (gateProj downProj upProj : Nat → Nat → Value) :
    layer.swiglu 0 gateProj downProj upProj = 0 := by
  funext row
  simp [swiglu, linear]

theorem foldl_addExpert (start : Nat) (tokens : List (RoutedToken Value)) (expertIds : List Nat)
    (before : RoutedToken Value → Nat → Value) (active : Nat) :
    (expertIds.foldl (layer.addExpert start tokens) (tokens.map before, active)).1 =
      tokens.map fun token => before token +
        (expertIds.map fun expertId => layer.weightedOut start expertId token).sum := by
  induction expertIds generalizing before active with
  | nil => simp
  | cons expertId rest ih =>
    rw [foldl_cons, addExpert]
    split
    · rename_i unused
      rw [ih]
      apply map_congr_left
      intro token listed
      have none := isEmpty_iff.mp (all_eq_true.mp unused token listed)
      simp [weightedOut, none]
    · rw [zipWith_map_left, zipWith_self, ih]
      simp only [map_cons, sum_cons, add_assoc]

theorem weightedOut_of_le {start expertId : Nat} (isLocal : start ≤ expertId)
    (token : RoutedToken Value) :
    layer.weightedOut start expertId token = layer.weightedOut 0 expertId token := by
  simp only [weightedOut, expertOut, getLocalProj, Nat.add_sub_cancel' isLocal, Nat.zero_add,
    Nat.sub_zero]

/-- What a number of experts from `start` on give for a token. -/
def shareOf (layer : GroupedExperts Value) (start count : Nat) (token : RoutedToken Value) :
    Nat → Value :=
  ((List.range' start count).map fun expertId => layer.weightedOut 0 expertId token).sum

theorem partialOut_eq (epSize epRank : Nat) (tokens : List (RoutedToken Value)) :
    layer.partialOut epSize epRank tokens = tokens.map
      (layer.shareOf (epRank * (layer.nRoutedExperts / epSize))
        (layer.nRoutedExperts / epSize)) := by
  -- The experts map zeros to zeros, so that the branch without active experts adds nothing.
  have idle : ∀ start (weight : Value),
      (fun channel => layer.expertOut start start 0 channel * weight) = 0 := by
    intro start weight
    funext channel
    simp [expertOut, swiglu_zero]
  have unchanged : ∀ outs : List (Nat → Value), outs.modifyHead (fun out => out + 0) = outs := by
    intro outs
    cases outs <;> simp
  simp only [partialOut, idle, unchanged, ite_self, foldl_addExpert, zero_add]
  apply map_congr_left
  intro token _
  congr 1
  apply map_congr_left
  intro expertId inside
  exact weightedOut_of_le (mem_range'_1.mp inside).1 token

theorem sum_shareOf (ranks count : Nat) (token : RoutedToken Value) :
    ((List.range ranks).map fun rank => layer.shareOf (rank * count) count token).sum =
      layer.shareOf 0 (ranks * count) token := by
  induction ranks with
  | zero => simp [shareOf]
  | succ ranks ih =>
    rw [range_succ, map_append, sum_append, ih, Nat.succ_mul]
    unfold shareOf
    rw [← range'_append_1, map_append, sum_append]
    simp

theorem foldl_reduce (ranks : List Nat) (tokens : List (RoutedToken Value))
    (before : RoutedToken Value → Nat → Value) (share : Nat → RoutedToken Value → Nat → Value) :
    ranks.foldl (fun total rank => List.zipWith (· + ·) total (tokens.map (share rank)))
        (tokens.map before) =
      tokens.map fun token => before token + (ranks.map fun rank => share rank token).sum := by
  induction ranks generalizing before with
  | nil => simp
  | cons rank rest ih =>
    rw [foldl_cons, zipWith_map, zipWith_self, ih]
    simp only [map_cons, sum_cons, add_assoc]

/-- The tokens of the ranks of a mesh, as `forward` asserts and its redistribution needs.
There are tokens, and each has a choice. -/
structure MeshTokens (layer : GroupedExperts Value) where
  epSize : Nat
  count : Nat
  tokensOf : Nat → List (RoutedToken Value)
  epSize_dvd : epSize ∣ layer.nRoutedExperts
  experts_pos : 0 < layer.nRoutedExperts
  count_pos : 0 < count
  length_tokensOf : ∀ rank, (tokensOf rank).length = count
  choices_ne_nil : ∀ rank, ∀ token ∈ tokensOf rank, token.choices ≠ []

omit [Semiring Value] in
theorem MeshTokens.slice (mesh : layer.MeshTokens) {epRank : Nat} (inMesh : epRank < mesh.epSize) :
    (((List.range mesh.epSize).flatMap mesh.tokensOf).drop (epRank * mesh.count)).take mesh.count =
      mesh.tokensOf epRank := by
  obtain ⟨later, size⟩ := Nat.exists_eq_add_of_lt inMesh
  have before : ((List.range epRank).flatMap mesh.tokensOf).length = epRank * mesh.count := by
    simp [length_flatMap, mesh.length_tokensOf]
  rw [size, Nat.add_assoc, range_add, flatMap_append, ← before, drop_left, range_succ_eq_map,
    map_cons, flatMap_cons, Nat.add_zero, ← mesh.length_tokensOf epRank, take_left]

/-- On every rank of every mesh, the experts give what one device that has all of them gives
for the tokens of the rank. -/
theorem forward_eq_unsharded (layer : GroupedExperts Value) (mesh : layer.MeshTokens)
    (epRank : Fin mesh.epSize) :
    layer.forward mesh.epSize mesh.count mesh.tokensOf epRank =
      layer.forward 1 mesh.count (fun _ => mesh.tokensOf epRank) 0 := by
  have whole : ∀ token, ((List.range mesh.epSize).map fun rank =>
      layer.shareOf (rank * (layer.nRoutedExperts / mesh.epSize))
        (layer.nRoutedExperts / mesh.epSize) token).sum =
      layer.shareOf 0 layer.nRoutedExperts token := by
    intro token
    rw [sum_shareOf, Nat.mul_div_cancel' mesh.epSize_dvd]
  have own := take_of_length_le (Nat.le_of_eq (mesh.length_tokensOf epRank))
  simp only [forward, partialOut_eq, foldl_reduce, whole, ← map_drop, ← map_take,
    mesh.slice epRank.isLt, zero_add]
  simp [own]

/-- Two experts; the second one is three times the first. -/
def twoExperts : GroupedExperts Int where
  nRoutedExperts := 2
  dim := 1
  moeInterDim := 1
  gateAndUpProjs _ _ _ := 1
  downProjs expertId _ _ := 1 + 2 * expertId
  silu x := max x 0

/-- A rank for each expert.  Both tokens choose the first expert, and the second rank is idle. -/
def idleMesh : twoExperts.MeshTokens where
  epSize := 2
  count := 1
  tokensOf rank := [⟨fun _ => Int.ofNat (2 + rank), true, [(0, 5)]⟩]
  epSize_dvd := ⟨1, rfl⟩
  experts_pos := Nat.two_pos
  count_pos := Nat.one_pos
  length_tokensOf _ := rfl
  choices_ne_nil rank token listed := by
    rw [List.mem_singleton.mp listed]
    exact List.cons_ne_nil _ _

theorem forward_eq_unsharded_idleMesh :
    ((List.range' 1 1).foldl (twoExperts.addExpert 1 ((List.range 2).flatMap idleMesh.tokensOf))
        (List.replicate 2 0, 0)).2 = 0 ∧
      (twoExperts.forward 2 1 idleMesh.tokensOf 1).map (· 0) = [45] := by
  refine ⟨rfl, ?_⟩
  have same := forward_eq_unsharded twoExperts idleMesh ⟨1, by decide⟩
  calc (twoExperts.forward 2 1 idleMesh.tokensOf 1).map (· 0)
      = (twoExperts.forward 1 1 (fun _ => idleMesh.tokensOf 1) 0).map (· 0) :=
        congrArg (List.map (· 0)) same
    _ = [45] := by decide

end GroupedExperts

end CosmosRl.Policy
