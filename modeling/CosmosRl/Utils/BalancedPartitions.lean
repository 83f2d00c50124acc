import CosmosRl.Foundation.Collecting
import CosmosRl.Utils.BalanceSeqlen
import Mathlib.Data.Bool.Count
import Mathlib.Data.List.Perm.Basic

/-!
The differencing method puts every index in one partition, and leaves no partition
empty as long as there are enough indices.

Merging two states puts the fullest sets of the one on the emptiest of the other.  A
state of `count` items therefore has `min k count` sets with an item, and they come
first.
-/

namespace CosmosRl.Utils

open CosmosRl.Foundation List
open CosmosRl.Dispatcher (PyError)

namespace SeqlenSet

def isFull (set : SeqlenSet) : Bool := !set.items.isEmpty

@[simp]
theorem isFull_empty : empty.isFull = false := rfl

@[simp]
theorem isFull_merge (set other : SeqlenSet) :
    (set.merge other).isFull = (set.isFull || other.isFull) := by
  cases set with
  | mk items => cases items <;> simp [isFull, merge]

theorem eq_empty_of_isFull {set : SeqlenSet} (hollow : set.isFull = false) : set = empty := by
  cases set with
  | mk items =>
    cases items with
    | nil => rfl
    | cons item items => simp [isFull] at hollow

theorem lt_empty (set : SeqlenSet) : set.lt empty = false := by
  cases set with
  | mk items => cases items <;> simp [lt, empty, sum, itemsLt]

theorem empty_lt {set : SeqlenSet} (full : set.isFull = true) : empty.lt set = true := by
  cases set with
  | mk items =>
    cases items with
    | nil => simp [isFull] at full
    | cons item items =>
      by_cases positive : item.2 + (items.map Prod.snd).sum = 0
      · simp [lt, empty, sum, positive]
      · have more : 0 < item.2 + (items.map Prod.snd).sum := Nat.pos_of_ne_zero positive
        have different : (0 : Nat) ≠ item.2 + (items.map Prod.snd).sum :=
          fun same => positive same.symm
        simp only [lt, empty, sum, map_cons, sum_cons, map_nil, sum_nil]
        rw [if_pos different, decide_eq_true_eq]
        exact more

/-- Putting a set in its place keeps the sets with an item first. -/
theorem map_isFull_orderedInsert (set : SeqlenSet) (sets : List SeqlenSet) {full hollow : Nat}
    (fullFirst : sets.map isFull = List.replicate full true ++ List.replicate hollow false) :
    (sets.orderedInsert (fun first second => first.lt second = false) set).map isFull =
      if set.isFull then List.replicate (full + 1) true ++ List.replicate hollow false
      else List.replicate full true ++ List.replicate (hollow + 1) false := by
  induction sets generalizing full with
  | nil =>
    have none : full = 0 ∧ hollow = 0 := by simpa using fullFirst
    rw [none.1, none.2]
    cases inserted : set.isFull <;> simp [inserted]
  | cons first sets ih =>
    rw [orderedInsert_cons]
    by_cases before : set.lt first = false
    · rw [if_pos before, map_cons, fullFirst]
      cases inserted : set.isFull with
      | true => simp [replicate_succ]
      | false =>
        -- an empty set only comes before other empty sets
        have firstHollow : first.isFull = false := by
          cases firstFull : first.isFull with
          | false => rfl
          | true =>
            rw [eq_empty_of_isFull inserted, empty_lt firstFull] at before
            cases before
        cases full with
        | zero => simp [replicate_succ]
        | succ full =>
          rw [map_cons, firstHollow, replicate_succ] at fullFirst
          cases fullFirst
    · rw [if_neg before, map_cons]
      have firstFull : first.isFull = true := by
        cases firstFull : first.isFull with
        | true => rfl
        | false =>
          rw [eq_empty_of_isFull firstFull] at before
          exact absurd (lt_empty set) before
      cases full with
      | zero =>
        cases hollow with
        | zero => cases fullFirst
        | succ hollow =>
          rw [map_cons, firstFull, replicate_succ] at fullFirst
          cases fullFirst
      | succ full =>
        rw [map_cons, replicate_succ, cons_append] at fullFirst
        rw [ih (List.cons.inj fullFirst).2, firstFull]
        cases set.isFull <;> simp [replicate_succ]

theorem sortedReverse_perm (sets : List SeqlenSet) : (sortedReverse sets).Perm sets :=
  perm_insertionSort _ sets

theorem map_isFull_sortedReverse (sets : List SeqlenSet) :
    (sortedReverse sets).map isFull =
      List.replicate ((sets.map isFull).count true) true ++
        List.replicate ((sets.map isFull).count false) false := by
  induction sets with
  | nil => simp [sortedReverse]
  | cons set sets ih =>
    rw [sortedReverse, insertionSort_cons]
    rw [sortedReverse] at ih
    rw [map_isFull_orderedInsert set _ ih]
    cases inserted : set.isFull <;> simp [inserted]

end SeqlenSet

/-- Putting two rows on each other from opposite ends. -/
theorem count_zipWith_or (full hollow before after : Nat)
    (sameLength : full + hollow = before + after) :
    (List.zipWith or (List.replicate full true ++ List.replicate hollow false)
      (List.replicate before false ++ List.replicate after true)).count true =
        min (full + hollow) (full + after) := by
  induction full generalizing before after with
  | zero =>
    induction before generalizing hollow with
    | zero =>
      have same : hollow = after := by omega
      subst same
      simp
    | succ before ih =>
      cases hollow with
      | zero => omega
      | succ hollow =>
        have shorter : 0 + hollow = before + after := by omega
        have rest := ih hollow shorter
        simp only [replicate_zero, nil_append] at rest
        simp only [replicate_zero, nil_append, replicate_succ,
          cons_append, zipWith_cons_cons, Bool.or_false]
        rw [count_cons_of_ne (by simp), rest]
        omega
  | succ full ih =>
    cases before with
    | zero =>
      cases after with
      | zero => omega
      | succ after =>
        have shorter : full + hollow = 0 + after := by omega
        have rest := ih 0 after shorter
        simp only [replicate_zero, nil_append] at rest
        simp only [replicate_zero, nil_append, replicate_succ,
          cons_append, zipWith_cons_cons, Bool.or_true]
        rw [count_cons_self, rest]
        omega
    | succ before =>
      have shorter : full + hollow = before + after := by omega
      have rest := ih before after shorter
      simp only [replicate_succ, cons_append, zipWith_cons_cons, Bool.or_false]
      rw [count_cons_self, rest]
      omega

theorem flatMap_items_zipWith_merge (sets others : List SeqlenSet)
    (sameLength : sets.length = others.length) :
    ((List.zipWith SeqlenSet.merge sets others).flatMap SeqlenSet.items).Perm
      (sets.flatMap SeqlenSet.items ++ others.flatMap SeqlenSet.items) := by
  induction sets generalizing others with
  | nil =>
    have none : others = [] := eq_nil_of_length_eq_zero sameLength.symm
    simp [none]
  | cons set sets ih =>
    cases others with
    | nil => cases sameLength
    | cons other others =>
      have rest := ih others (by simpa using sameLength)
      simp only [zipWith_cons_cons, flatMap_cons, SeqlenSet.merge, append_assoc]
      refine List.Perm.append_left _ ?_
      refine (rest.append_left _).trans ?_
      rw [← append_assoc, ← append_assoc]
      exact perm_append_comm.append_right _

namespace SeqlenState

def items (state : SeqlenState) : List (Nat × Nat) := state.sets.flatMap SeqlenSet.items

/-- What holds of every state on the heap: the sets with an item come first, and there
are as many as the items allow. -/
def Balanced (k : Nat) (state : SeqlenState) : Prop :=
  state.sets.map SeqlenSet.isFull =
    List.replicate (min k state.items.length) true ++
      List.replicate (k - min k state.items.length) false

theorem Balanced.length {k : Nat} {state : SeqlenState} (balanced : state.Balanced k) :
    state.sets.length = k := by
  have lengths := congrArg List.length balanced
  rw [length_map, length_append, length_replicate, length_replicate] at lengths
  omega

/-- Sorting the sets of a state makes it balanced, when there are as many sets with an
item as the items allow. -/
theorem balanced_sortedReverse {k count : Nat} {sets : List SeqlenSet} (length : sets.length = k)
    (full : (sets.map SeqlenSet.isFull).count true = min k count)
    (items : (SeqlenState.mk (SeqlenSet.sortedReverse sets)).items.length = count) :
    (SeqlenState.mk (SeqlenSet.sortedReverse sets)).Balanced k := by
  have hollow : (sets.map SeqlenSet.isFull).count false = k - min k count := by
    have both := count_false_add_count_true (sets.map SeqlenSet.isFull)
    rw [length_map, length, full] at both
    omega
  rw [Balanced, items, SeqlenSet.map_isFull_sortedReverse, full, hollow]

theorem items_sortedReverse (sets : List SeqlenSet) :
    (SeqlenState.mk (SeqlenSet.sortedReverse sets)).items.Perm
      (sets.flatMap SeqlenSet.items) :=
  (SeqlenSet.sortedReverse_perm sets).flatMap_right _

theorem single_spec (k idx seqlen : Nat) (positive : 0 < k) :
    ∃ state, single k idx seqlen = .ok state ∧ state.Balanced k ∧
      state.items.Perm [(idx, seqlen)] := by
  cases k with
  | zero => omega
  | succ k =>
    have hollowItems : (List.replicate k SeqlenSet.empty).flatMap SeqlenSet.items = [] := by
      rw [flatMap_eq_nil_iff]
      intro set member
      rw [eq_of_mem_replicate member]
      rfl
    have hollow : (List.replicate k SeqlenSet.empty).map SeqlenSet.isFull =
        List.replicate k false := by
      rw [map_replicate, SeqlenSet.isFull_empty]
    have items : (SeqlenState.mk (SeqlenSet.sortedReverse
        (SeqlenSet.empty.add idx seqlen :: List.replicate k SeqlenSet.empty))).items.Perm
          [(idx, seqlen)] := by
      refine (items_sortedReverse _).trans ?_
      rw [flatMap_cons, hollowItems]
      exact List.Perm.refl _
    refine ⟨_, rfl, ?_, items⟩
    refine @balanced_sortedReverse _ 1 _ (by simp) ?_ items.length_eq
    rw [map_cons, hollow]
    have added : (SeqlenSet.empty.add idx seqlen).isFull = true := rfl
    rw [added, count_cons_self, count_replicate]
    simp

theorem merge_spec {k : Nat} {state other : SeqlenState} (balanced : state.Balanced k)
    (otherBalanced : other.Balanced k) :
    (state.merge other).Balanced k ∧
      (state.merge other).items.Perm (state.items ++ other.items) := by
  have sameLength : state.sets.length = other.sets.reverse.length := by
    rw [length_reverse, balanced.length, otherBalanced.length]
  have items : (state.merge other).items.Perm (state.items ++ other.items) := by
    refine (items_sortedReverse _).trans ?_
    refine (flatMap_items_zipWith_merge _ _ sameLength).trans ?_
    exact (List.Perm.flatMap_right _ other.sets.reverse_perm).append_left _
  refine ⟨?_, items⟩
  refine @balanced_sortedReverse _ (state.items.length + other.items.length) _ ?_ ?_ ?_
  · rw [length_zipWith, ← sameLength, Nat.min_self, balanced.length]
  · have mapped : (List.zipWith SeqlenSet.merge state.sets other.sets.reverse).map
        SeqlenSet.isFull =
          List.zipWith or (state.sets.map SeqlenSet.isFull)
            (other.sets.map SeqlenSet.isFull).reverse := by
      rw [← map_reverse, map_zipWith, zipWith_map]
      congr 1
      funext set added
      exact SeqlenSet.isFull_merge set added
    rw [mapped, balanced, otherBalanced, reverse_append, reverse_replicate,
      reverse_replicate, count_zipWith_or _ _ _ _ (by omega)]
    omega
  · rw [← length_append]
    exact items.length_eq

end SeqlenState

section KarmarkarKarp

theorem heappop_eq_none_iff (states : List SeqlenState) : heappop states = none ↔ states = [] := by
  cases states with
  | nil => simp [heappop]
  | cons state states =>
    refine iff_of_false ?_ (by simp)
    rw [heappop]
    cases heappop states with
    | none => simp
    | some popped =>
      obtain ⟨least, others⟩ := popped
      by_cases smaller : least.lt state = true <;> simp [smaller]

theorem heappop_perm {states others : List SeqlenState} {least : SeqlenState}
    (popped : heappop states = some (least, others)) : states.Perm (least :: others) := by
  induction states generalizing least others with
  | nil => simp [heappop] at popped
  | cons state states ih =>
    rw [heappop] at popped
    cases later : heappop states with
    | none =>
      rw [(heappop_eq_none_iff states).mp later]
      simp only [later, Option.some.injEq, Prod.mk.injEq] at popped
      rw [popped.1, ← popped.2]
    | some found =>
      obtain ⟨first, rest⟩ := found
      have permuted := ih later
      simp only [later] at popped
      by_cases smaller : first.lt state = true
      · simp only [smaller, if_true, Option.some.injEq, Prod.mk.injEq] at popped
        rw [← popped.1, ← popped.2]
        exact (permuted.cons state).trans (List.Perm.swap _ _ _)
      · simp only [smaller, Bool.false_eq_true, if_false, Option.some.injEq,
          Prod.mk.injEq] at popped
        rw [← popped.1, ← popped.2]
        exact permuted.cons state

/-- The merging loop ends in one balanced state with all items. -/
theorem mergeStates_spec {k rounds : Nat} {states : List SeqlenState}
    (nonempty : states ≠ []) (enough : states.length ≤ rounds + 1)
    (balanced : ∀ state ∈ states, state.Balanced k) :
    ∃ finalState, mergeStates rounds states = [finalState] ∧ finalState.Balanced k ∧
      finalState.items.Perm (states.flatMap SeqlenState.items) := by
  induction rounds generalizing states with
  | zero =>
    cases states with
    | nil => exact absurd rfl nonempty
    | cons state states =>
      have none : states = [] := eq_nil_of_length_eq_zero (by simpa using enough)
      subst none
      exact ⟨state, rfl, balanced state (by simp), by simp⟩
  | succ rounds ih =>
    rw [mergeStates]
    cases firstPop : heappop states with
    | none => exact absurd ((heappop_eq_none_iff states).mp firstPop) nonempty
    | some first =>
      obtain ⟨state0, others⟩ := first
      have taken0 := heappop_perm firstPop
      simp only
      cases secondPop : heappop others with
      | none =>
        have none := (heappop_eq_none_iff others).mp secondPop
        subst none
        have one : states = [state0] := perm_singleton.mp taken0
        subst one
        exact ⟨state0, rfl, balanced state0 (by simp), by simp⟩
      | some second =>
        obtain ⟨state1, rest⟩ := second
        have taken1 := heappop_perm secondPop
        have taken := taken0.trans (taken1.cons state0)
        have balanced0 := balanced state0 (taken.mem_iff.mpr (by simp))
        have balanced1 := balanced state1 (taken.mem_iff.mpr (by simp))
        obtain ⟨mergedBalanced, mergedItems⟩ := SeqlenState.merge_spec balanced0 balanced1
        have fewer : (state0.merge state1 :: rest).length ≤ rounds + 1 := by
          have lengths := taken.length_eq
          simp only [length_cons] at lengths ⊢
          omega
        have restBalanced : ∀ state ∈ state0.merge state1 :: rest,
            state.Balanced k := by
          intro state member
          rcases mem_cons.mp member with rfl | later
          · exact mergedBalanced
          · exact balanced state (taken.mem_iff.mpr (by simp [later]))
        obtain ⟨finalState, run, finalBalanced, finalItems⟩ := ih (by simp) fewer restBalanced
        refine ⟨finalState, run, finalBalanced, ?_⟩
        have all := List.Perm.flatMap_right SeqlenState.items taken
        refine finalItems.trans (List.Perm.trans ?_ all.symm)
        simp only [flatMap_cons, ← append_assoc]
        exact mergedItems.append_right _

theorem sortedSeqlenList_perm (seqlenList : List Nat) :
    (sortedSeqlenList seqlenList).Perm seqlenList.zipIdx :=
  perm_insertionSort _ _

theorem map_snd_zipIdx (seqlenList : List Nat) :
    seqlenList.zipIdx.map Prod.snd = List.range seqlenList.length := by
  rw [zipIdx_map_snd, range_eq_range']

theorem flatten_getPartitions (state : SeqlenState) :
    state.getPartitions.flatten = state.items.map Prod.fst := by
  rw [SeqlenState.getPartitions, SeqlenState.items, map_flatMap, List.flatMap]

variable {seqlenList : List Nat} {kPartitions : Nat} {partitions : List (List Nat)}

/-- The state that is left of balanced states with an item for every index has every index
in one of its partitions, and an index in every partition. -/
theorem partitions_of_states (enough : kPartitions ≤ seqlenList.length) {states : List SeqlenState}
    (nonempty : states ≠ []) (balanced : ∀ state ∈ states, state.Balanced kPartitions)
    (items : (states.flatMap SeqlenState.items).Perm (seqlenList.zipIdx.map Prod.swap)) :
    ∃ finalState, mergeStates states.length states = [finalState] ∧
      finalState.items.Perm (seqlenList.zipIdx.map Prod.swap) ∧
      finalState.getPartitions.length = kPartitions ∧
      finalState.getPartitions.flatten.Perm (List.range seqlenList.length) ∧
      ∀ partition ∈ finalState.getPartitions, partition ≠ [] := by
  obtain ⟨finalState, run, finalBalanced, finalItems⟩ :=
    @mergeStates_spec kPartitions states.length states nonempty (by omega) balanced
  have allItems := finalItems.trans items
  have indices : (finalState.items.map Prod.fst).Perm (List.range seqlenList.length) := by
    refine (allItems.map Prod.fst).trans ?_
    rw [map_map, ← map_snd_zipIdx]
    exact List.Perm.refl _
  have count : finalState.items.length = seqlenList.length := by
    have lengths := indices.length_eq
    rwa [length_map, length_range] at lengths
  refine ⟨finalState, run, allItems, ?_, ?_, ?_⟩
  · rw [SeqlenState.getPartitions, length_map, finalBalanced.length]
  · rw [flatten_getPartitions]
    exact indices
  · intro partition member
    obtain ⟨set, setMember, rfl⟩ := mem_map.mp member
    have full : set.isFull = true := by
      have mapped : set.isFull ∈ finalState.sets.map SeqlenSet.isFull :=
        mem_map.mpr ⟨set, setMember, rfl⟩
      rw [finalBalanced, count, Nat.min_eq_left enough, Nat.sub_self, replicate_zero,
        append_nil] at mapped
      exact eq_of_mem_replicate mapped
    intro none
    rw [map_eq_nil_iff] at none
    simp [SeqlenSet.isFull, none] at full

theorem items_of_mapM {Entry : Type} {compute : Entry → Except PyError SeqlenState}
    {itemsOf : Entry → List (Nat × Nat)} {entries : List Entry} {states : List SeqlenState}
    (each : ∀ entry state, compute entry = .ok state → state.items.Perm (itemsOf entry))
    (collected : entries.mapM compute = .ok states) :
    (states.flatMap SeqlenState.items).Perm (entries.flatMap itemsOf) := by
  have pairs := forall₂_of_mapM_ok collected
  clear collected
  induction pairs with
  | nil => exact List.Perm.refl _
  | cons computed _ ih =>
    rw [flatMap_cons, flatMap_cons]
    exact (each _ _ computed).append ih

theorem singles_spec (seqlenList : List Nat) (positive : 0 < kPartitions) :
    ∃ states, ((sortedSeqlenList seqlenList).mapM fun (entry : Nat × Nat) =>
        SeqlenState.single kPartitions entry.2 entry.1) = .ok states ∧
      states.length = seqlenList.length ∧
      (∀ state ∈ states, state.Balanced kPartitions ∧ ∃ entry ∈ sortedSeqlenList seqlenList,
        SeqlenState.single kPartitions entry.2 entry.1 = .ok state) ∧
      (states.flatMap SeqlenState.items).Perm (seqlenList.zipIdx.map Prod.swap) := by
  have eachState : ∀ entry ∈ sortedSeqlenList seqlenList, ∃ state,
      SeqlenState.single kPartitions entry.2 entry.1 = .ok state := by
    intro entry _
    obtain ⟨state, single, _⟩ := SeqlenState.single_spec kPartitions entry.2 entry.1 positive
    exact ⟨state, single⟩
  obtain ⟨states, collected⟩ := (exists_mapM_ok_iff
    (fun entry : Nat × Nat => SeqlenState.single kPartitions entry.2 entry.1) _).mpr eachState
  have length := length_of_mapM_ok collected
  rw [(sortedSeqlenList_perm seqlenList).length_eq, length_zipIdx] at length
  refine ⟨states, collected, length, ?_, ?_⟩
  · intro state member
    obtain ⟨entry, isEntry, same⟩ := exists_item_of_mapM_ok collected member
    obtain ⟨found, single, foundBalanced, _⟩ :=
      SeqlenState.single_spec kPartitions entry.2 entry.1 positive
    have equal : found = state := Except.ok.inj (single.symm.trans same)
    exact ⟨equal ▸ foundBalanced, entry, isEntry, same⟩
  · have items := @items_of_mapM _ _ (fun entry : Nat × Nat => [entry.swap]) _ _ (by
      intro entry state computed
      obtain ⟨produced, single, _, producedItems⟩ :=
        SeqlenState.single_spec kPartitions entry.2 entry.1 positive
      rwa [Except.ok.inj (single.symm.trans computed)] at producedItems) collected
    rw [← map_eq_flatMap] at items
    exact items.trans ((sortedSeqlenList_perm seqlenList).map Prod.swap)

/-- The differencing method puts every index in one of the partitions, and an index in
every partition. -/
theorem karmarkarKarp_spec (positive : 0 < kPartitions) (enough : kPartitions ≤ seqlenList.length) :
    ∃ partitions, karmarkarKarp seqlenList kPartitions = .ok partitions ∧
      partitions.length = kPartitions ∧
      partitions.flatten.Perm (List.range seqlenList.length) ∧
      ∀ partition ∈ partitions, partition ≠ [] := by
  obtain ⟨states, collected, length, balanced, items⟩ := singles_spec seqlenList positive
  have nonempty : states ≠ [] := by
    intro none
    rw [none, length_nil] at length
    omega
  obtain ⟨finalState, run, _, spec⟩ := partitions_of_states enough nonempty
    (fun state member => (balanced state member).1) items
  refine ⟨finalState.getPartitions, ?_, spec⟩
  rw [karmarkarKarp]
  simp only [collected, run]

theorem checkNonempty_ok (i : Nat) (partitions : List (List Nat)) :
    checkNonempty i partitions = .ok () ↔ ∀ partition ∈ partitions, partition ≠ [] := by
  induction partitions generalizing i with
  | nil => simp [checkNonempty]
  | cons partition partitions ih =>
    rw [checkNonempty, forall_mem_cons]
    by_cases nonempty : 0 < partition.length
    · rw [if_pos nonempty, ih]
      simp [ne_nil_of_length_pos nonempty]
    · rw [if_neg nonempty]
      have none : partition = [] := eq_nil_of_length_eq_zero (by omega)
      simp [none]

theorem checkAndSortPartitions_eq (length : partitions.length = kPartitions)
    (indices : partitions.flatten.Perm (List.range seqlenList.length))
    (nonempty : ∀ partition ∈ partitions, partition ≠ []) :
    checkAndSortPartitions seqlenList kPartitions partitions =
      .ok (partitions.map fun partition => partition.insertionSort (· ≤ ·)) := by
  have seen : (∀ idx ∈ partitions.flatten, idx < seqlenList.length) ∧
      ∀ idx ∈ List.range seqlenList.length, idx ∈ partitions.flatten :=
    ⟨fun idx member => mem_range.mp (indices.mem_iff.mp member),
      fun idx member => indices.mem_iff.mpr member⟩
  rw [checkAndSortPartitions, if_pos length, (checkNonempty_ok 0 partitions).mpr nonempty]
  simp only
  rw [if_pos seen]

theorem flatten_map_insertionSort_perm (partitions : List (List Nat)) :
    (partitions.map fun partition => partition.insertionSort (· ≤ ·)).flatten.Perm
      partitions.flatten := by
  rw [← flatMap_id', flatMap_map]
  refine (List.Perm.flatMap_left partitions fun partition _ =>
    perm_insertionSort _ partition).trans ?_
  rw [flatMap_id']

theorem ne_nil_of_mem_map_insertionSort (nonempty : ∀ partition ∈ partitions, partition ≠ []) :
    ∀ partition ∈ partitions.map fun partition : List Nat => partition.insertionSort (· ≤ ·),
      partition ≠ [] := by
  intro partition member
  obtain ⟨original, originalMember, rfl⟩ := mem_map.mp member
  intro none
  have perm := perm_insertionSort (· ≤ ·) original
  rw [none] at perm
  exact nonempty original originalMember perm.symm.eq_nil

/-- Balanced partitions exist exactly for a positive number of partitions that there are
enough indices for. -/
theorem getSeqlenBalancedPartitions_spec
    (positive : 0 < kPartitions) (enough : kPartitions ≤ seqlenList.length) :
    ∃ partitions, getSeqlenBalancedPartitions seqlenList kPartitions = .ok partitions ∧
      partitions.length = kPartitions ∧
      partitions.flatten.Perm (List.range seqlenList.length) ∧
      ∀ partition ∈ partitions, partition ≠ [] := by
  obtain ⟨found, computed, length, indices, nonempty⟩ := karmarkarKarp_spec positive enough
  refine ⟨found.map fun partition => partition.insertionSort (· ≤ ·), ?_, ?_,
    (flatten_map_insertionSort_perm found).trans indices,
    ne_nil_of_mem_map_insertionSort nonempty⟩
  · rw [getSeqlenBalancedPartitions, if_pos enough, computed]
    exact checkAndSortPartitions_eq length indices nonempty
  · rw [length_map, length]

theorem exists_karmarkarKarp_of_balanced
    (partitioned : getSeqlenBalancedPartitions seqlenList kPartitions = .ok partitions) :
    ∃ found, karmarkarKarp seqlenList kPartitions = .ok found ∧
      partitions = found.map fun partition => partition.insertionSort (· ≤ ·) := by
  rw [getSeqlenBalancedPartitions] at partitioned
  split at partitioned
  case isFalse => cases partitioned
  case isTrue =>
    cases computed : karmarkarKarp seqlenList kPartitions with
    | error exn => simp [computed] at partitioned
    | ok found =>
      simp only [computed] at partitioned
      rw [checkAndSortPartitions] at partitioned
      split at partitioned
      case isFalse => cases partitioned
      case isTrue =>
        cases checked : checkNonempty 0 found with
        | error exn => simp [checked] at partitioned
        | ok _ =>
          simp only [checked] at partitioned
          split at partitioned
          case isFalse => cases partitioned
          case isTrue => exact ⟨found, rfl, (Except.ok.inj partitioned).symm⟩

theorem sorted_of_getSeqlenBalancedPartitions
    (partitioned : getSeqlenBalancedPartitions seqlenList kPartitions = .ok partitions) :
    ∀ partition ∈ partitions, partition.Pairwise (· ≤ ·) := by
  obtain ⟨found, _, rfl⟩ := exists_karmarkarKarp_of_balanced partitioned
  intro partition member
  obtain ⟨original, -, rfl⟩ := mem_map.mp member
  exact pairwise_insertionSort _ original

end KarmarkarKarp

section RearrangeMiniBatches

variable {Sample : Type}

theorem takeItems_eq_ok_iff (batch : List Sample) (partition : List Nat) (items : List Sample) :
    takeItems batch partition = .ok items ↔
      (partition.map fun idx => batch[idx]?) = items.map some := by
  rw [takeItems, mapM_eq_ok_iff]
  induction partition generalizing items with
  | nil => cases items <;> simp
  | cons idx partition ih =>
    cases items with
    | nil => simp
    | cons item items =>
      rw [map_cons, map_cons, map_cons, map_cons, List.cons.injEq, List.cons.injEq, ih]
      cases batch[idx]? <;> simp

variable {batch : List Sample} {seqlenList seqLenEffective : List Nat} {maxTokenLen gathered : Nat}
  {arrangement : List (List Sample) × List (List Nat)}

theorem exists_takeItems {partition : List Nat} (within : ∀ idx ∈ partition, idx < batch.length) :
    ∃ items, takeItems batch partition = .ok items := by
  rw [takeItems, exists_mapM_ok_iff]
  intro idx member
  refine ⟨batch.get ⟨idx, within idx member⟩, ?_⟩
  rw [getElem?_eq_getElem (within idx member)]
  rfl

theorem sortedByWorkload_perm (seqLenEffective : List Nat) (partitions : List (List Nat)) :
    (sortedByWorkload seqLenEffective partitions).Perm partitions :=
  perm_insertionSort _ _

theorem karmarkarKarp_zero (nonempty : seqlenList ≠ []) :
    karmarkarKarp seqlenList 0 = .error .indexError := by
  have someEntry : sortedSeqlenList seqlenList ≠ [] := by
    intro none
    have lengths := (sortedSeqlenList_perm seqlenList).length_eq
    rw [none, length_nil, length_zipIdx] at lengths
    exact nonempty (eq_nil_of_length_eq_zero lengths.symm)
  obtain ⟨entry, entries, first⟩ := exists_cons_of_ne_nil someEntry
  rw [karmarkarKarp, first, mapM_except_cons]
  simp [SeqlenState.single]

theorem getSeqlenBalancedPartitions_zero (nonempty : seqlenList ≠ []) :
    getSeqlenBalancedPartitions seqlenList 0 = .error .indexError := by
  rw [getSeqlenBalancedPartitions, if_pos (Nat.zero_le _), karmarkarKarp_zero nonempty]

def agreedMiniBatches (seqLenEffective : List Nat) (maxTokenLen gathered : Nat) : Nat :=
  max (localMiniBatches seqLenEffective maxTokenLen) gathered

/-- With some tokens to divide by and enough samples, the dynamic split is the balanced
partition of the samples. -/
theorem rearrangeMiniBatches_eq (nonempty : seqLenEffective ≠ [])
    (positive : 0 < max maxTokenLen (seqLenEffective.foldr max 0))
    (enough : agreedMiniBatches seqLenEffective maxTokenLen gathered ≤
      seqLenEffective.length) :
    rearrangeMiniBatches batch seqLenEffective maxTokenLen gathered =
      match getSeqlenBalancedPartitions seqLenEffective
          (agreedMiniBatches seqLenEffective maxTokenLen gathered) with
      | .error exn => .error exn
      | .ok partitions =>
        ((sortedByWorkload seqLenEffective partitions).mapM (takeItems batch)).map
          fun miniBatches => (miniBatches, sortedByWorkload seqLenEffective partitions) := by
  rw [agreedMiniBatches] at enough ⊢
  rw [rearrangeMiniBatches, if_neg nonempty, if_neg (Nat.ne_of_gt positive)]
  refine (if_pos enough).trans ?_
  cases getSeqlenBalancedPartitions seqLenEffective
    (max (localMiniBatches seqLenEffective maxTokenLen) gathered) <;> rfl

/-- Whatever the dynamic split returns is a balanced partition with its samples. -/
theorem exists_balanced_of_rearranged
    (rearranged : rearrangeMiniBatches batch seqLenEffective maxTokenLen gathered =
      .ok arrangement) :
    seqLenEffective ≠ [] ∧
      agreedMiniBatches seqLenEffective maxTokenLen gathered ≤ seqLenEffective.length ∧
      ∃ partitions, getSeqlenBalancedPartitions seqLenEffective
          (agreedMiniBatches seqLenEffective maxTokenLen gathered) = .ok partitions ∧
        arrangement.2 = sortedByWorkload seqLenEffective partitions ∧
        arrangement.2.mapM (takeItems batch) = .ok arrangement.1 := by
  rw [rearrangeMiniBatches] at rearranged
  split at rearranged
  case isTrue => cases rearranged
  case isFalse nonempty =>
    split at rearranged
    case isTrue => cases rearranged
    case isFalse =>
      simp only at rearranged
      rw [← agreedMiniBatches] at rearranged
      split at rearranged
      case isFalse => cases rearranged
      case isTrue enough =>
        cases partitioned : getSeqlenBalancedPartitions seqLenEffective
            (agreedMiniBatches seqLenEffective maxTokenLen gathered) with
        | error exn => simp [partitioned] at rearranged
        | ok partitions =>
          simp only [partitioned] at rearranged
          cases taken :
              (sortedByWorkload seqLenEffective partitions).mapM (takeItems batch) with
          | error exn => simp [taken, Except.map] at rearranged
          | ok items =>
            simp only [taken, Except.map, Except.ok.injEq] at rearranged
            rw [← rearranged]
            exact ⟨nonempty, enough, partitions, rfl, rfl, taken⟩

theorem pos_of_getSeqlenBalancedPartitions {kPartitions : Nat}
    {partitions : List (List Nat)} (nonempty : seqlenList ≠ [])
    (partitioned : getSeqlenBalancedPartitions seqlenList kPartitions = .ok partitions) :
    0 < kPartitions := by
  rcases Nat.eq_zero_or_pos kPartitions with rfl | positive
  · rw [getSeqlenBalancedPartitions_zero nonempty] at partitioned
    cases partitioned
  · exact positive

/-- The dynamic split of a batch succeeds exactly if the ranks agree on a positive
number of mini-batches that this rank has enough samples for. -/
theorem exists_rearrangeMiniBatches_iff (sameLength : batch.length = seqLenEffective.length)
    (nonempty : seqLenEffective ≠ [])
    (positive : 0 < max maxTokenLen (seqLenEffective.foldr max 0)) :
    (∃ miniBatches, rearrangeMiniBatches batch seqLenEffective maxTokenLen gathered =
        .ok miniBatches) ↔
      0 < agreedMiniBatches seqLenEffective maxTokenLen gathered ∧
        agreedMiniBatches seqLenEffective maxTokenLen gathered ≤ seqLenEffective.length := by
  constructor
  · rintro ⟨arrangement, rearranged⟩
    obtain ⟨_, enough, partitions, partitioned, _⟩ := exists_balanced_of_rearranged rearranged
    exact ⟨pos_of_getSeqlenBalancedPartitions nonempty partitioned, enough⟩
  · rintro ⟨some, enough⟩
    obtain ⟨partitions, partitioned, _, indices, _⟩ := getSeqlenBalancedPartitions_spec some enough
    have within : ∀ partition ∈ sortedByWorkload seqLenEffective partitions,
        ∃ items, takeItems batch partition = .ok items := by
      intro partition member
      apply exists_takeItems
      intro idx idxMember
      have original := (sortedByWorkload_perm seqLenEffective partitions).mem_iff.mp member
      have listed := indices.mem_iff.mp (mem_flatten.mpr ⟨partition, original, idxMember⟩)
      rw [sameLength]
      exact mem_range.mp listed
    obtain ⟨miniBatches, taken⟩ := (exists_mapM_ok_iff _ _).mpr within
    refine ⟨(miniBatches, sortedByWorkload seqLenEffective partitions), ?_⟩
    rw [rearrangeMiniBatches_eq nonempty positive enough, partitioned]
    simp only [taken]
    rfl

/-- What the dynamic split returns: every index once, no empty mini-batch, and the
samples of the indices. -/
theorem rearrangeMiniBatches_spec
    (rearranged : rearrangeMiniBatches batch seqLenEffective maxTokenLen gathered =
      .ok arrangement) :
    arrangement.2.length = agreedMiniBatches seqLenEffective maxTokenLen gathered ∧
      arrangement.2.flatten.Perm (List.range seqLenEffective.length) ∧
      (∀ partition ∈ arrangement.2, partition ≠ []) ∧
      arrangement.2.mapM (takeItems batch) = .ok arrangement.1 := by
  obtain ⟨nonempty, enough, partitions, partitioned, sorted, taken⟩ :=
    exists_balanced_of_rearranged rearranged
  obtain ⟨found, computed, length, indices, full⟩ := getSeqlenBalancedPartitions_spec
    (pos_of_getSeqlenBalancedPartitions nonempty partitioned) enough
  obtain rfl := Except.ok.inj (computed.symm.trans partitioned)
  have permuted : arrangement.2.Perm found := sorted ▸ sortedByWorkload_perm _ found
  refine ⟨permuted.length_eq.trans length, permuted.flatten.trans indices, ?_, taken⟩
  intro partition member
  exact full partition (permuted.mem_iff.mp member)

theorem sorted_of_rearrangeMiniBatches
    (rearranged : rearrangeMiniBatches batch seqLenEffective maxTokenLen gathered =
      .ok arrangement) :
    ∀ indices ∈ arrangement.2, indices.Pairwise (· ≤ ·) := by
  obtain ⟨_, _, partitions, partitioned, sorted, _⟩ := exists_balanced_of_rearranged rearranged
  rw [sorted]
  intro indices member
  exact sorted_of_getSeqlenBalancedPartitions partitioned indices
    ((sortedByWorkload_perm seqLenEffective partitions).mem_iff.mp member)

end RearrangeMiniBatches

end CosmosRl.Utils
