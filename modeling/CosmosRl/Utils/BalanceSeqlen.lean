import CosmosRl.Dispatcher.Protocol
import CosmosRl.Foundation.Batching
import Mathlib.Data.List.Sort

/-!
Splitting a batch into mini-batches of balanced token counts: the Karmarkar-Karp
differencing method and `rearrange_mini_batches`.

States of the heap have disjoint items, so that their order is strict and a heap pops
its only least state; the heap is a list that is searched for it.
-/

namespace CosmosRl.Utils

open CosmosRl.Dispatcher (PyError)

/-- `Set`: the indices of a partition with their lengths. -/
structure SeqlenSet where
  items : List (Nat × Nat)
  deriving DecidableEq, Repr

namespace SeqlenSet

def empty : SeqlenSet := ⟨[]⟩

/-- The field `sum`, which `add` and `merge` keep up with the items. -/
def sum (set : SeqlenSet) : Nat := (set.items.map Prod.snd).sum

def add (set : SeqlenSet) (idx val : Nat) : SeqlenSet := ⟨set.items ++ [(idx, val)]⟩

def merge (set other : SeqlenSet) : SeqlenSet := ⟨set.items ++ other.items⟩

def pairLt (first second : Nat × Nat) : Bool :=
  first.1 < second.1 || (first.1 == second.1 && first.2 < second.2)

def itemsLt : List (Nat × Nat) → List (Nat × Nat) → Bool
  | [], [] => false
  | [], _ :: _ => true
  | _ :: _, [] => false
  | first :: firsts, second :: seconds =>
    if first = second then itemsLt firsts seconds else pairLt first second

/-- `Set.__lt__`. -/
def lt (set other : SeqlenSet) : Bool :=
  if set.sum ≠ other.sum then set.sum < other.sum
  else if set.items.length ≠ other.items.length then
    set.items.length < other.items.length
  else itemsLt set.items other.items

/-- `sorted(sets, reverse=True)`. -/
def sortedReverse (sets : List SeqlenSet) : List SeqlenSet :=
  sets.insertionSort fun first second => first.lt second = false

end SeqlenSet

/-- `State`: the sets in decreasing order. -/
structure SeqlenState where
  sets : List SeqlenSet
  deriving DecidableEq, Repr

namespace SeqlenState

/-- `State(items=[(idx, seqlen)], k=k)`. -/
def single (k idx seqlen : Nat) : Except PyError SeqlenState :=
  match List.replicate k SeqlenSet.empty with
  | [] => .error .indexError
  | first :: rest => .ok ⟨SeqlenSet.sortedReverse (first.add idx seqlen :: rest)⟩

def getPartitions (state : SeqlenState) : List (List Nat) :=
  state.sets.map fun set => set.items.map Prod.fst

def merge (state other : SeqlenState) : SeqlenState :=
  ⟨SeqlenSet.sortedReverse
    (List.zipWith SeqlenSet.merge state.sets other.sets.reverse)⟩

def spread (state : SeqlenState) : Int :=
  (state.sets.headD SeqlenSet.empty).sum - (state.sets.getLastD SeqlenSet.empty).sum

/-- `State.__lt__`: the least state has the largest spread, or else the largest set. -/
def lt (state other : SeqlenState) : Bool :=
  if state.spread ≠ other.spread then other.spread < state.spread
  else (other.sets.headD SeqlenSet.empty).lt (state.sets.headD SeqlenSet.empty)

end SeqlenState

section KarmarkarKarp

/-- `heapq.heappop`: the least state and the others. -/
def heappop : List SeqlenState → Option (SeqlenState × List SeqlenState)
  | [] => none
  | state :: states =>
    match heappop states with
    | none => some (state, [])
    | some (least, others) =>
      if least.lt state then some (least, state :: others)
      else some (state, least :: others)

def mergeStates : Nat → List SeqlenState → List SeqlenState
  | 0, states => states
  | rounds + 1, states =>
    match heappop states with
    | none => states
    | some (state0, others) =>
      match heappop others with
      | none => states
      | some (state1, rest) => mergeStates rounds (state0.merge state1 :: rest)

/-- `sorted` of the pairs of a length and its index. -/
def sortedSeqlenList (seqlenList : List Nat) : List (Nat × Nat) :=
  seqlenList.zipIdx.insertionSort fun first second => SeqlenSet.pairLt second first = false

/-- `karmarkar_karp` with `equal_size=False`. -/
def karmarkarKarp (seqlenList : List Nat) (kPartitions : Nat) :
    Except PyError (List (List Nat)) :=
  match (sortedSeqlenList seqlenList).mapM fun (seqlen, idx) =>
      SeqlenState.single kPartitions idx seqlen with
  | .error exn => .error exn
  | .ok states =>
    match mergeStates states.length states with
    | [] => .error .indexError
    | finalState :: _ => .ok finalState.getPartitions

/-- `_check_and_sort_partitions`, from partition `i` on: no partition is empty. -/
def checkNonempty : Nat → List (List Nat) → Except PyError Unit
  | _, [] => .ok ()
  | i, partition :: partitions =>
    if 0 < partition.length then checkNonempty (i + 1) partitions
    else .error (.assertionError ("the " ++ toString i ++ "-th partition is empty"))

def checkAndSortPartitions (seqlenList : List Nat) (kPartitions : Nat)
    (partitions : List (List Nat)) : Except PyError (List (List Nat)) :=
  if partitions.length = kPartitions then
    match checkNonempty 0 partitions with
    | .error exn => .error exn
    | .ok _ =>
      if (∀ idx ∈ partitions.flatten, idx < seqlenList.length) ∧
          ∀ idx ∈ List.range seqlenList.length, idx ∈ partitions.flatten then
        .ok (partitions.map fun partition => partition.insertionSort (· ≤ ·))
      else .error (.assertionError "")
  else .error (.assertionError
    (toString partitions.length ++ " != " ++ toString kPartitions))

/-- `get_seqlen_balanced_partitions` with `equal_size=False`. -/
def getSeqlenBalancedPartitions (seqlenList : List Nat) (kPartitions : Nat) :
    Except PyError (List (List Nat)) :=
  if kPartitions ≤ seqlenList.length then
    match karmarkarKarp seqlenList kPartitions with
    | .error exn => .error exn
    | .ok partitions => checkAndSortPartitions seqlenList kPartitions partitions
  else .error (.assertionError ("number of items:[" ++ toString seqlenList.length ++
    "] < k_partitions:[" ++ toString kPartitions ++ "]"))

end KarmarkarKarp

section EqualSize

/-- `State(items=items, k=k)`: the items go to the first sets. -/
def SeqlenState.ofItems (k : Nat) (items : List (Nat × Nat)) : Except PyError SeqlenState :=
  if items.length = 1 ∨ items.length = k then
    if items.length ≤ k then
      .ok ⟨SeqlenSet.sortedReverse
        ((items.map fun item => SeqlenSet.empty.add item.1 item.2) ++
          List.replicate (k - items.length) SeqlenSet.empty)⟩
    else .error .indexError
  else .error (.assertionError
    (toString items.length ++ " not in [1, " ++ toString k ++ "]"))

def checkSizes (seqlenList : List Nat) (kPartitions : Nat) :
    List (List Nat) → Except PyError Unit
  | [] => .ok ()
  | partition :: partitions =>
    if partition.length * kPartitions = seqlenList.length then
      checkSizes seqlenList kPartitions partitions
    else .error (.assertionError (toString partition.length ++ " * " ++
      toString kPartitions ++ " != " ++ toString seqlenList.length))

/-- `karmarkar_karp` with `equal_size=True`: every first state has `k_partitions` items. -/
def karmarkarKarpEqualSize (seqlenList : List Nat) (kPartitions : Nat) :
    Except PyError (List (List Nat)) :=
  if kPartitions = 0 then .error .zeroDivisionError
  else if seqlenList.length % kPartitions = 0 then
    match (Foundation.inBatches kPartitions false (sortedSeqlenList seqlenList)).mapM
        fun items => SeqlenState.ofItems kPartitions (items.map Prod.swap) with
    | .error exn => .error exn
    | .ok states =>
      match mergeStates states.length states with
      | [] => .error .indexError
      | finalState :: _ =>
        (checkSizes seqlenList kPartitions finalState.getPartitions).map fun _ =>
          finalState.getPartitions
  else .error (.assertionError
    (toString seqlenList.length ++ " % " ++ toString kPartitions ++ " != 0"))

/-- `get_seqlen_balanced_partitions` with `equal_size=True`. -/
def getSeqlenBalancedPartitionsEqualSize (seqlenList : List Nat) (kPartitions : Nat) :
    Except PyError (List (List Nat)) :=
  if kPartitions ≤ seqlenList.length then
    match karmarkarKarpEqualSize seqlenList kPartitions with
    | .error exn => .error exn
    | .ok partitions => checkAndSortPartitions seqlenList kPartitions partitions
  else .error (.assertionError ("number of items:[" ++ toString seqlenList.length ++
    "] < k_partitions:[" ++ toString kPartitions ++ "]"))

end EqualSize

section RearrangeMiniBatches

def ceildiv (a b : Nat) : Nat := (a + b - 1) / b

def localMiniBatches (seqLenEffective : List Nat) (maxTokenLen : Nat) : Nat :=
  min seqLenEffective.length
    (ceildiv seqLenEffective.sum (max maxTokenLen (seqLenEffective.foldr max 0)))

def workload (seqLenEffective : List Nat) (partition : List Nat) : Nat × Nat :=
  ((partition.map fun idx => (seqLenEffective.getD idx 0) ^ 2).sum, partition.min?.getD 0)

def sortedByWorkload (seqLenEffective : List Nat) (partitions : List (List Nat)) :
    List (List Nat) :=
  partitions.insertionSort fun first second =>
    SeqlenSet.pairLt (workload seqLenEffective first) (workload seqLenEffective second) =
      false

def takeItems {Sample : Type} (batch : List Sample) (partition : List Nat) :
    Except PyError (List Sample) :=
  partition.mapM fun idx =>
    match batch[idx]? with
    | some sample => .ok sample
    | none => .error .indexError

/-- `rearrange_mini_batches`; `gathered` is the largest number of mini-batches among
the other ranks. -/
def rearrangeMiniBatches {Sample : Type} (batch : List Sample)
    (seqLenEffective : List Nat) (maxTokenLen gathered : Nat) :
    Except PyError (List (List Sample) × List (List Nat)) :=
  if seqLenEffective = [] then .error (.exception "max() arg is an empty sequence")
  else if max maxTokenLen (seqLenEffective.foldr max 0) = 0 then .error .zeroDivisionError
  else
    let numMiniBatches := max (localMiniBatches seqLenEffective maxTokenLen) gathered
    if numMiniBatches ≤ seqLenEffective.length then
      match getSeqlenBalancedPartitions seqLenEffective numMiniBatches with
      | .error exn => .error exn
      | .ok partitions =>
        let miniBszIdx := sortedByWorkload seqLenEffective partitions
        (miniBszIdx.mapM (takeItems batch)).map fun miniBatches =>
          (miniBatches, miniBszIdx)
    else .error (.assertionError "")

end RearrangeMiniBatches

end CosmosRl.Utils
