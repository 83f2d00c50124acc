import CosmosRl.Foundation.Spread
import CosmosRl.Utils.BalancedPartitions
import Mathlib.Data.List.MinMax

/-!
The partitions of the differencing method differ in their sums by at most the longest
length.

The sets of a state are in the order of their sums, so that merging two states adds
decreasing sums to increasing ones.  What every first state keeps and merging keeps is kept
by the state that is left, whatever order the heap pops its states in.
-/

namespace CosmosRl.Utils

open CosmosRl.Foundation List
open CosmosRl.Dispatcher (PyError)

section Sums

theorem SeqlenSet.sum_merge (set other : SeqlenSet) :
    (set.merge other).sum = set.sum + other.sum := by
  rw [sum, sum, sum, merge, map_append, sum_append]

theorem SeqlenSet.sum_le_of_lt_eq_false {set other : SeqlenSet} (before : set.lt other = false) :
    other.sum ≤ set.sum := by
  rw [lt] at before
  split at before
  case isTrue => simpa using before
  case isFalse same => exact Nat.le_of_eq (not_not.mp same).symm

theorem SeqlenSet.sum_le_of_lt {set other : SeqlenSet} (after : set.lt other = true) :
    set.sum ≤ other.sum := by
  rw [lt] at after
  split at after
  case isTrue => exact Nat.le_of_lt (by simpa using after)
  case isFalse same => exact Nat.le_of_eq (not_not.mp same)

theorem SeqlenSet.pairwise_orderedInsert (set : SeqlenSet) {sets : List SeqlenSet}
    (decreasing : sets.Pairwise fun first second => second.sum ≤ first.sum) :
    (sets.orderedInsert (fun first second => first.lt second = false) set).Pairwise
      fun first second => second.sum ≤ first.sum := by
  induction sets with
  | nil => exact pairwise_singleton _ _
  | cons first sets ih =>
    have all := decreasing
    rw [pairwise_cons] at decreasing
    rw [orderedInsert_cons]
    split
    case isTrue before =>
      have fuller := sum_le_of_lt_eq_false before
      refine List.Pairwise.cons ?_ all
      intro other member
      rcases mem_cons.mp member with rfl | later
      · exact fuller
      · exact Nat.le_trans (decreasing.1 other later) fuller
    case isFalse after =>
      have emptier := sum_le_of_lt (by simpa using after)
      refine List.Pairwise.cons ?_ (ih decreasing.2)
      intro other member
      rcases (mem_orderedInsert _).mp member with rfl | later
      · exact emptier
      · exact decreasing.1 other later

theorem SeqlenSet.pairwise_sortedReverse (sets : List SeqlenSet) :
    (sortedReverse sets).Pairwise fun first second => second.sum ≤ first.sum := by
  induction sets with
  | nil => exact List.Pairwise.nil
  | cons set sets ih =>
    rw [sortedReverse, insertionSort_cons]
    exact pairwise_orderedInsert set ih

end Sums

namespace SeqlenState

def sums (state : SeqlenState) : List Nat := state.sets.map SeqlenSet.sum

structure Level (bound : Nat) (state : SeqlenState) : Prop where
  decreasing : state.sums.Pairwise fun first second => second ≤ first
  within : WithinSpread bound state.sums

variable {bound : Nat}

theorem level_sortedReverse {sets : List SeqlenSet}
    (within : WithinSpread bound (sets.map SeqlenSet.sum)) :
    (SeqlenState.mk (SeqlenSet.sortedReverse sets)).Level bound := by
  refine ⟨pairwise_map.mpr (SeqlenSet.pairwise_sortedReverse sets), ?_⟩
  exact withinSpread_of_subset within ((SeqlenSet.sortedReverse_perm sets).map _).subset

theorem Level.merge {state other : SeqlenState} (level : state.Level bound)
    (otherLevel : other.Level bound) : (state.merge other).Level bound := by
  apply level_sortedReverse
  have sums : (List.zipWith SeqlenSet.merge state.sets other.sets.reverse).map SeqlenSet.sum =
      List.zipWith (· + ·) state.sums other.sums.reverse := by
    rw [SeqlenState.sums, SeqlenState.sums, ← map_reverse, map_zipWith, zipWith_map]
    simp only [SeqlenSet.sum_merge]
  rw [sums]
  apply withinSpread_zipWith_add level.decreasing
  · exact pairwise_reverse.mpr otherLevel.decreasing
  · exact level.within
  · exact withinSpread_of_subset otherLevel.within (reverse_subset.mpr (List.Subset.refl _))

theorem level_ofItems {k : Nat} {items : List (Nat × Nat)} {state : SeqlenState}
    (created : ofItems k items = .ok state) (limited : ∀ item ∈ items, item.2 ≤ bound) :
    state.Level bound := by
  rw [ofItems] at created
  split at created
  case isFalse => cases created
  case isTrue =>
    split at created
    case isFalse => cases created
    case isTrue =>
      rw [← Except.ok.inj created]
      apply level_sortedReverse
      apply withinSpread_of_le
      · exact fun load _ => Nat.zero_le load
      · intro load member
        rw [map_append, mem_append, map_map, map_replicate] at member
        rcases member with filled | hollow
        · obtain ⟨item, isItem, rfl⟩ := mem_map.mp filled
          have sum : (SeqlenSet.empty.add item.1 item.2).sum = item.2 := by
            simp [SeqlenSet.sum, SeqlenSet.add, SeqlenSet.empty]
          exact Nat.le_trans (Nat.le_of_eq sum) (limited item isItem)
        · rw [eq_of_mem_replicate hollow]
          exact Nat.zero_le bound

theorem single_eq_ofItems (k idx seqlen : Nat) :
    single k idx seqlen = ofItems k [(idx, seqlen)] := by
  cases k with
  | zero => rfl
  | succ k =>
    have one : [(idx, seqlen)].length = 1 := rfl
    rw [ofItems, if_pos (Or.inl one), if_pos (by rw [one]; exact Nat.succ_pos k)]
    rfl

end SeqlenState

theorem mergeStates_preserves {Holds : SeqlenState → Prop}
    (merged : ∀ state other, Holds state → Holds other → Holds (state.merge other))
    (rounds : Nat) {states : List SeqlenState} (start : ∀ state ∈ states, Holds state) :
    ∀ state ∈ mergeStates rounds states, Holds state := by
  induction rounds generalizing states with
  | zero => exact start
  | succ rounds ih =>
    rw [mergeStates]
    split
    case h_1 => exact start
    case h_2 state0 others firstPop =>
      split
      case h_1 => exact start
      case h_2 state1 rest secondPop =>
        have taken := (heappop_perm firstPop).trans ((heappop_perm secondPop).cons state0)
        apply ih
        rw [forall_mem_cons]
        constructor
        · exact merged state0 state1 (start state0 (taken.mem_iff.mpr (by simp)))
            (start state1 (taken.mem_iff.mpr (by simp)))
        · intro state member
          exact start state (taken.mem_iff.mpr (by simp [member]))

namespace SeqlenState

def SameSizes (state : SeqlenState) : Prop :=
  ∃ size, ∀ set ∈ state.sets, set.items.length = size

theorem SameSizes.merge {state other : SeqlenState} (same : state.SameSizes)
    (otherSame : other.SameSizes) : (state.merge other).SameSizes := by
  obtain ⟨size, sizes⟩ := same
  obtain ⟨added, otherSizes⟩ := otherSame
  refine ⟨size + added, ?_⟩
  intro set member
  have merged := (SeqlenSet.sortedReverse_perm _).mem_iff.mp member
  rw [← map_uncurry_zip_eq_zipWith, mem_map] at merged
  obtain ⟨pair, isPair, rfl⟩ := merged
  obtain ⟨isFirst, isSecond⟩ := of_mem_zip (show (pair.1, pair.2) ∈ _ from isPair)
  have length : (SeqlenSet.merge pair.1 pair.2).items.length =
      pair.1.items.length + pair.2.items.length := length_append
  exact length.trans (congrArg₂ (· + ·) (sizes _ isFirst)
    (otherSizes _ (mem_reverse.mp isSecond)))

variable {items : List (Nat × Nat)}

theorem items_ofItems {k : Nat} {state : SeqlenState}
    (created : ofItems k items = .ok state) : state.items.Perm items := by
  rw [ofItems] at created
  split at created
  case isFalse => cases created
  case isTrue =>
    split at created
    case isFalse => cases created
    case isTrue =>
      rw [← Except.ok.inj created]
      refine (items_sortedReverse _).trans ?_
      have own : (fun item : Nat × Nat => (SeqlenSet.empty.add item.1 item.2).items) =
          fun item => [item] := rfl
      have hollow : (List.replicate (k - items.length) SeqlenSet.empty).flatMap
          SeqlenSet.items = [] := by
        rw [flatMap_eq_nil_iff]
        intro set member
        rw [eq_of_mem_replicate member]
        rfl
      rw [flatMap_append, flatMap_map, own, flatMap_singleton', hollow, append_nil]

theorem ofItems_spec {k : Nat} (length : items.length = k) :
    ∃ state, ofItems k items = .ok state ∧ state.Balanced k ∧ state.items.Perm items ∧
      state.SameSizes := by
  have created : ofItems k items = .ok ⟨SeqlenSet.sortedReverse
      (items.map fun item => SeqlenSet.empty.add item.1 item.2)⟩ := by
    rw [ofItems, if_pos (Or.inr length), if_pos (Nat.le_of_eq length), length, Nat.sub_self,
      replicate_zero, append_nil]
  have put := items_ofItems created
  refine ⟨_, created, ?_, put, 1, ?_⟩
  · refine @balanced_sortedReverse k k _ (by rw [length_map, length]) ?_
      (put.length_eq.trans length)
    rw [map_map, Nat.min_self, ← length]
    have full : (SeqlenSet.isFull ∘ fun item : Nat × Nat => SeqlenSet.empty.add item.1 item.2) =
        fun _ => true := rfl
    rw [full, map_const', count_replicate_self]
  · intro set member
    obtain ⟨item, _, rfl⟩ := mem_map.mp ((SeqlenSet.sortedReverse_perm _).mem_iff.mp member)
    rfl

end SeqlenState

section Partitions

variable {seqlenList : List Nat} {kPartitions : Nat} {finalState : SeqlenState}
  {partitions : List (List Nat)}

def longestSeqlen (seqlenList : List Nat) : Nat := seqlenList.foldr max 0

theorem le_longestSeqlen {seqlen : Nat} (member : seqlen ∈ seqlenList) :
    seqlen ≤ longestSeqlen seqlenList :=
  le_max_of_le' 0 member (Nat.le_refl seqlen)

def partitionSum (seqlenList : List Nat) (partition : List Nat) : Nat :=
  (partition.map fun idx => seqlenList.getD idx 0).sum

/-- A partition of the indices into so many non-empty sorted parts, whose sums differ by at
most the longest length. -/
structure BalancedPartition (seqlenList : List Nat) (kPartitions : Nat)
    (partitions : List (List Nat)) : Prop where
  length : partitions.length = kPartitions
  indices : partitions.flatten.Perm (List.range seqlenList.length)
  nonempty : ∀ partition ∈ partitions, partition ≠ []
  sorted : ∀ partition ∈ partitions, partition.Pairwise (· ≤ ·)
  level : WithinSpread (longestSeqlen seqlenList)
    (partitions.map (partitionSum seqlenList))

theorem BalancedPartition.sum_eq (balanced : BalancedPartition seqlenList kPartitions partitions) :
    (partitions.map (partitionSum seqlenList)).sum = seqlenList.sum := by
  have parts : partitions.map (partitionSum seqlenList) =
      (partitions.map (List.map fun idx => seqlenList.getD idx 0)).map List.sum := by
    rw [map_map]
    rfl
  rw [parts, ← sum_flatten, ← map_flatten, (balanced.indices.map _).sum_eq]
  congr 1
  apply ext_getElem
  · rw [length_map, length_range]
  · intro idx _ within
    rw [getElem_map, getElem_range, getD_eq_getElem?_getD,
      getElem?_eq_getElem within, Option.getD_some]

theorem sortedSeqlenList_le {entry : Nat × Nat} (member : entry ∈ sortedSeqlenList seqlenList) :
    entry.1 ≤ longestSeqlen seqlenList := by
  have isEntry := (sortedSeqlenList_perm seqlenList).mem_iff.mp member
  exact le_longestSeqlen (fst_mem_of_mem_zipIdx isEntry)

theorem partitionSum_items
    (items : finalState.items.Perm (seqlenList.zipIdx.map Prod.swap)) {set : SeqlenSet}
    (member : set ∈ finalState.sets) :
    partitionSum seqlenList (set.items.map Prod.fst) = set.sum := by
  rw [partitionSum, map_map, SeqlenSet.sum]
  congr 1
  apply map_congr_left
  intro item isItem
  have inState : item ∈ finalState.items := mem_flatMap.mpr ⟨set, member, isItem⟩
  obtain ⟨entry, isEntry, rfl⟩ := mem_map.mp (items.mem_iff.mp inState)
  have found := mem_zipIdx_iff_getElem?.mp isEntry
  rw [Function.comp, getD_eq_getElem?_getD, Prod.fst_swap, found]
  rfl

theorem balancedPartition_of_level (items : finalState.items.Perm (seqlenList.zipIdx.map Prod.swap))
    (length : finalState.getPartitions.length = kPartitions)
    (indices : finalState.getPartitions.flatten.Perm (List.range seqlenList.length))
    (nonempty : ∀ partition ∈ finalState.getPartitions, partition ≠ [])
    (level : finalState.Level (longestSeqlen seqlenList)) :
    BalancedPartition seqlenList kPartitions
      (finalState.getPartitions.map fun partition => partition.insertionSort (· ≤ ·)) := by
  refine ⟨?_, (flatten_map_insertionSort_perm _).trans indices,
    ne_nil_of_mem_map_insertionSort nonempty, ?_, ?_⟩
  · rw [length_map, length]
  · intro partition member
    obtain ⟨original, -, rfl⟩ := mem_map.mp member
    exact pairwise_insertionSort _ original
  · have sums : (finalState.getPartitions.map fun partition =>
        partition.insertionSort (· ≤ ·)).map (partitionSum seqlenList) = finalState.sums := by
      rw [map_map, SeqlenState.getPartitions, map_map, SeqlenState.sums]
      apply map_congr_left
      intro set member
      have sorted := perm_insertionSort (· ≤ ·) (set.items.map Prod.fst)
      rw [← partitionSum_items items member]
      exact (sorted.map _).sum_eq
    rw [sums]
    exact level.within

theorem exists_balancedPartition (positive : 1 ≤ kPartitions)
    (enough : kPartitions ≤ seqlenList.length) :
    ∃ partitions, getSeqlenBalancedPartitions seqlenList kPartitions = .ok partitions ∧
      BalancedPartition seqlenList kPartitions partitions := by
  obtain ⟨states, collected, length, first, items⟩ := singles_spec seqlenList positive
  have nonempty : states ≠ [] := by
    rintro rfl
    rw [length_nil] at length
    omega
  obtain ⟨finalState, run, finalItems, partitions, indices, full⟩ :=
    partitions_of_states enough nonempty (fun state member => (first state member).1) items
  have level : finalState.Level (longestSeqlen seqlenList) := by
    refine mergeStates_preserves (fun state other => SeqlenState.Level.merge) states.length ?_
      finalState (by rw [run]; exact mem_singleton_self _)
    intro state member
    obtain ⟨_, entry, isEntry, single⟩ := first state member
    rw [SeqlenState.single_eq_ofItems] at single
    refine SeqlenState.level_ofItems single ?_
    intro item isItem
    rw [mem_singleton] at isItem
    rw [isItem]
    exact sortedSeqlenList_le isEntry
  refine ⟨_, ?_, balancedPartition_of_level finalItems partitions indices full level⟩
  have computed : karmarkarKarp seqlenList kPartitions = .ok finalState.getPartitions := by
    rw [karmarkarKarp]
    simp only [collected, run]
  rw [getSeqlenBalancedPartitions, if_pos enough, computed]
  exact checkAndSortPartitions_eq partitions indices full

theorem groups_spec (positive : 1 ≤ kPartitions) (divides : kPartitions ∣ seqlenList.length) :
    ∃ states, ((inBatches kPartitions false (sortedSeqlenList seqlenList)).mapM
        fun items => SeqlenState.ofItems kPartitions (items.map Prod.swap)) = .ok states ∧
      states.length = (inBatches kPartitions false (sortedSeqlenList seqlenList)).length ∧
      (∀ state ∈ states, state.Balanced kPartitions ∧ state.SameSizes ∧
        state.Level (longestSeqlen seqlenList)) ∧
      (states.flatMap SeqlenState.items).Perm (seqlenList.zipIdx.map Prod.swap) := by
  have sortedLength : (sortedSeqlenList seqlenList).length = seqlenList.length := by
    rw [(sortedSeqlenList_perm seqlenList).length_eq, length_zipIdx]
  have sizes : ∀ batch ∈ inBatches kPartitions false (sortedSeqlenList seqlenList),
      (batch.map Prod.swap).length = kPartitions := by
    intro batch member
    rw [length_map]
    exact length_of_mem_inBatches (sortedLength.symm ▸ divides) member
  have eachState : ∀ batch ∈ inBatches kPartitions false (sortedSeqlenList seqlenList),
      ∃ state, SeqlenState.ofItems kPartitions (batch.map Prod.swap) = .ok state := by
    intro batch member
    obtain ⟨state, created, _⟩ := SeqlenState.ofItems_spec (sizes batch member)
    exact ⟨state, created⟩
  obtain ⟨states, collected⟩ := (exists_mapM_ok_iff
    (fun batch : List (Nat × Nat) => SeqlenState.ofItems kPartitions (batch.map Prod.swap))
    _).mpr eachState
  refine ⟨states, collected, length_of_mapM_ok collected, ?_, ?_⟩
  · intro state member
    obtain ⟨batch, isBatch, computed⟩ := exists_item_of_mapM_ok collected member
    obtain ⟨created, found, balanced, _, same⟩ := SeqlenState.ofItems_spec (sizes batch isBatch)
    obtain rfl := Except.ok.inj (found.symm.trans computed)
    refine ⟨balanced, same, SeqlenState.level_ofItems computed ?_⟩
    intro item isItem
    obtain ⟨entry, inBatch, rfl⟩ := mem_map.mp isItem
    apply sortedSeqlenList_le
    rw [← flatten_inBatches positive (sortedSeqlenList seqlenList)]
    exact mem_flatten.mpr ⟨batch, isBatch, inBatch⟩
  · have items := @items_of_mapM _ _ (List.map Prod.swap) _ _
      (fun _ _ created => SeqlenState.items_ofItems created) collected
    rw [← map_flatMap, flatMap_id', flatten_inBatches positive] at items
    exact items.trans ((sortedSeqlenList_perm seqlenList).map Prod.swap)

theorem checkSizes_ok
    (sizes : ∀ partition ∈ partitions, partition.length * kPartitions = seqlenList.length) :
    checkSizes seqlenList kPartitions partitions = .ok () := by
  induction partitions with
  | nil => rfl
  | cons partition partitions ih =>
    rw [forall_mem_cons] at sizes
    rw [checkSizes, if_pos sizes.1, ih sizes.2]

theorem size_of_sameSizes (same : finalState.SameSizes)
    (length : finalState.getPartitions.length = kPartitions)
    (indices : finalState.getPartitions.flatten.Perm (List.range seqlenList.length)) :
    ∀ partition ∈ finalState.getPartitions,
      partition.length * kPartitions = seqlenList.length := by
  obtain ⟨size, sizes⟩ := same
  have each : ∀ partition ∈ finalState.getPartitions, partition.length = size := by
    intro partition member
    obtain ⟨set, isSet, rfl⟩ := mem_map.mp member
    rw [length_map]
    exact sizes set isSet
  have lengths : finalState.getPartitions.map List.length = List.replicate kPartitions size := by
    rw [eq_replicate_iff, length_map]
    refine ⟨length, ?_⟩
    intro count member
    obtain ⟨partition, isPartition, rfl⟩ := mem_map.mp member
    exact each partition isPartition
  have total := indices.length_eq
  rw [length_flatten, lengths, sum_replicate_nat, length_range] at total
  intro partition member
  rw [each partition member, Nat.mul_comm, total]

theorem exists_equalPartition (positive : 1 ≤ kPartitions)
    (enough : kPartitions ≤ seqlenList.length) (divides : kPartitions ∣ seqlenList.length) :
    ∃ partitions, getSeqlenBalancedPartitionsEqualSize seqlenList kPartitions = .ok partitions ∧
      BalancedPartition seqlenList kPartitions partitions ∧
      ∀ partition ∈ partitions, partition.length = seqlenList.length / kPartitions := by
  obtain ⟨states, collected, length, first, items⟩ := groups_spec positive divides
  have nonempty : states ≠ [] := by
    rintro rfl
    have all := items.length_eq
    rw [length_map, length_zipIdx] at all
    rw [← all] at enough
    exact absurd positive (by simpa using enough)
  obtain ⟨finalState, run, finalItems, partitions, indices, full⟩ :=
    partitions_of_states enough nonempty (fun state member => (first state member).1) items
  have isLeft : finalState ∈ mergeStates states.length states := by
    rw [run]
    exact mem_singleton_self _
  have level := mergeStates_preserves (fun state other => SeqlenState.Level.merge)
    states.length (fun state member => (first state member).2.2) finalState isLeft
  have same := mergeStates_preserves (fun state other => SeqlenState.SameSizes.merge)
    states.length (fun state member => (first state member).2.1) finalState isLeft
  have sizes := size_of_sameSizes same partitions indices
  refine ⟨_, ?_, balancedPartition_of_level finalItems partitions indices full level, ?_⟩
  · have computed : karmarkarKarpEqualSize seqlenList kPartitions =
        .ok finalState.getPartitions := by
      rw [karmarkarKarpEqualSize, if_neg (Nat.ne_of_gt positive),
        if_pos (Nat.mod_eq_zero_of_dvd divides)]
      simp only [collected, run, checkSizes_ok sizes]
      rfl
    rw [getSeqlenBalancedPartitionsEqualSize, if_pos enough, computed]
    exact checkAndSortPartitions_eq partitions indices full
  · intro partition member
    obtain ⟨original, isOriginal, rfl⟩ := mem_map.mp member
    rw [(perm_insertionSort _ original).length_eq, ← sizes original isOriginal]
    exact (Nat.mul_div_cancel _ positive).symm

end Partitions

/-- For every number of parts from one to that of the lengths, the partition is balanced;
with equal sizes, if the number divides that of the lengths, its parts also are of one
size. -/
theorem balancedPartition_of_le (seqlenList : List Nat) (kPartitions : Nat)
    (positive : 1 ≤ kPartitions) (enough : kPartitions ≤ seqlenList.length) :
    (∃ partitions, getSeqlenBalancedPartitions seqlenList kPartitions = .ok partitions ∧
      BalancedPartition seqlenList kPartitions partitions) ∧
    (kPartitions ∣ seqlenList.length →
      ∃ partitions, getSeqlenBalancedPartitionsEqualSize seqlenList kPartitions =
          .ok partitions ∧
        BalancedPartition seqlenList kPartitions partitions ∧
        ∀ partition ∈ partitions, partition.length = seqlenList.length / kPartitions) :=
  ⟨exists_balancedPartition positive enough, exists_equalPartition positive enough⟩

/-- Four lengths in two parts. -/
theorem balancedPartition_of_le_fourLengths :
    (∃ partitions, getSeqlenBalancedPartitions [5, 1, 4, 2] 2 = .ok partitions ∧
      BalancedPartition [5, 1, 4, 2] 2 partitions) ∧
    ∃ partitions, getSeqlenBalancedPartitionsEqualSize [5, 1, 4, 2] 2 = .ok partitions ∧
      BalancedPartition [5, 1, 4, 2] 2 partitions ∧
      ∀ partition ∈ partitions, partition.length = [5, 1, 4, 2].length / 2 :=
  ⟨(balancedPartition_of_le [5, 1, 4, 2] 2 (by decide) (by decide)).1,
    (balancedPartition_of_le [5, 1, 4, 2] 2 (by decide) (by decide)).2 (by decide)⟩

end CosmosRl.Utils
