import CosmosRl.Utils.SliceOverlap
import CosmosRl.Utils.ParallelismMap

/-!
What passes between one policy rank and one rollout rank.

The slices of the two shards select the same elements of the tensor, and of all
policy ranks that hold the same shard exactly one is assigned to a rollout rank.
-/

namespace CosmosRl.Utils

open CosmosRl.Foundation List

def shardBox (shape : List Nat) (info : ShardInfo) : Box :=
  Box.ofShape shape fun dim size => (sliceAt info dim).window size

def commonBox (shape : List Nat) (first second : ShardInfo) : Box :=
  Box.ofShape shape fun dim size =>
    ((sliceAt first dim).window size).inter ((sliceAt second dim).window size)

def ShardFits (shape : List Nat) (info : ShardInfo) : Prop :=
  ∀ dim ∈ info.keys, ∃ size, shape[dim]? = some size ∧ (sliceAt info dim).Fits size

def ShardsUnify (first second : ShardInfo) : Prop :=
  ∀ dim, Unify (sliceAt first dim) (sliceAt second dim)

variable {info pInfo rInfo : ShardInfo} {dim : Nat} {shape : List Nat}

theorem sliceAt_of_notMem (absent : dim ∉ info.keys) :
    sliceAt info dim = { offset := 0, totalSize := 1 } := by
  rw [sliceAt, Dict.get?_eq_none_iff.mpr absent]
  rfl

theorem ShardFits.at (fits : ShardFits shape info)
    {size : Nat} (found : shape[dim]? = some size) : (sliceAt info dim).Fits size := by
  by_cases sharded : dim ∈ info.keys
  · obtain ⟨other, otherFound, fitsAt⟩ := fits dim sharded
    rw [found] at otherFound
    cases otherFound
    exact fitsAt
  · rw [sliceAt_of_notMem sharded]
    exact ⟨Nat.one_pos, Nat.one_dvd size, Nat.le_refl 1⟩

/-- Slicing at one dimension after another. -/
theorem cosmosSlice_spec {view : Box} {strategys : ShardInfo}
    (whole : ∀ dim split, strategys.get? dim = some split → ∃ window,
      view[dim]? = some window ∧ 0 < split.totalSize ∧ split.totalSize ∣ window.length) :
    ∃ result, cosmosSlice view strategys = .ok result ∧
      ∀ dim, result[dim]? = (view[dim]?).map fun window =>
        match strategys.get? dim with
        | some split => split.part window
        | none => window := by
  have folded : ∀ (entries : List (Nat × DimSliceInfo)) (current : Box),
      (entries.map Prod.fst).Nodup →
      (∀ entry ∈ entries, ∃ window, current[entry.1]? = some window ∧
        0 < entry.2.totalSize ∧ entry.2.totalSize ∣ window.length) →
      ∃ result, entries.foldlM (fun current entry =>
          sliceTensorWithStrategy current entry.1 entry.2) current = .ok result ∧
        (∀ entry ∈ entries, result[entry.1]? = (current[entry.1]?).map entry.2.part) ∧
        ∀ dim, dim ∉ entries.map Prod.fst → result[dim]? = current[dim]? := by
    intro entries
    induction entries with
    | nil =>
      intro current _ _
      exact ⟨current, rfl, by simp, by simp⟩
    | cons entry rest ih =>
      intro current distinct fits
      rw [map_cons, nodup_cons] at distinct
      obtain ⟨window, found, positive, divides⟩ := fits entry (by simp)
      have sliced : sliceTensorWithStrategy current entry.1 entry.2 =
          .ok (current.set entry.1 (entry.2.part window)) := by
        unfold sliceTensorWithStrategy
        rw [found]
        have remainder := Nat.mod_eq_zero_of_dvd divides
        simp [remainder, Nat.ne_of_gt positive]
      have elsewhere : ∀ dim, dim ≠ entry.1 →
          (current.set entry.1 (entry.2.part window))[dim]? = current[dim]? := by
        intro dim other
        exact getElem?_set_ne (Ne.symm other)
      obtain ⟨result, equality, changed, kept⟩ := ih
        (current.set entry.1 (entry.2.part window)) distinct.2 (by
          intro later inside
          have other : later.1 ≠ entry.1 := by
            intro same
            exact distinct.1 (by rw [← same]; exact mem_map_of_mem inside)
          rw [elsewhere _ other]
          exact fits later (by simp [inside]))
      refine ⟨result, ?_, ?_, ?_⟩
      · rw [foldlM_cons, sliced]
        exact equality
      · intro other inside
        rcases mem_cons.mp inside with rfl | later
        · rw [kept _ distinct.1, found]
          obtain ⟨bound, _⟩ := List.getElem?_eq_some_iff.mp found
          rw [getElem?_set_self bound]
          rfl
        · rw [changed other later]
          congr 1
          apply elsewhere
          intro same
          exact distinct.1 (by rw [← same]; exact mem_map_of_mem later)
      · intro dim absent
        rw [map_cons, mem_cons, not_or] at absent
        rw [kept dim absent.2, elsewhere dim absent.1]
  obtain ⟨result, equality, changed, kept⟩ := folded strategys.entries view strategys.nodup
    (by
      intro entry inside
      exact whole entry.1 entry.2 (Dict.get?_eq_some_iff.mpr inside))
  refine ⟨result, equality, ?_⟩
  intro dim
  cases selected : strategys.get? dim with
  | some split =>
    exact changed (dim, split) (Dict.get?_eq_some_iff.mp selected)
  | none =>
    rw [kept dim (Dict.get?_eq_none_iff.mp selected)]
    simp

theorem cosmosSlice_shardBox {strategys : ShardInfo}
    {target : Nat → Nat → Window} (chosen : ∀ dim split, strategys.get? dim = some split → ∃ size,
      shape[dim]? = some size ∧ 0 < split.totalSize ∧
      split.totalSize ∣ ((sliceAt info dim).window size).length ∧
      split.part ((sliceAt info dim).window size) = target dim size)
    (left : ∀ dim size, strategys.get? dim = none →
      (sliceAt info dim).window size = target dim size) :
    cosmosSlice (shardBox shape info) strategys = .ok (Box.ofShape shape target) := by
  have windowAt : ∀ dim, (shardBox shape info)[dim]? =
      (shape[dim]?).map fun size => (sliceAt info dim).window size :=
    fun dim => Box.getElem?_ofShape shape _ dim
  obtain ⟨result, sliced, windows⟩ := @cosmosSlice_spec (shardBox shape info) strategys (by
    intro dim split selected
    obtain ⟨size, found, positive, divides, _⟩ := chosen dim split selected
    refine ⟨_, ?_, positive, divides⟩
    rw [windowAt, found]
    rfl)
  rw [sliced]
  congr 1
  apply ext_getElem?
  intro dim
  rw [windows, windowAt, Box.getElem?_ofShape]
  cases selected : strategys.get? dim with
  | some split =>
    obtain ⟨size, found, _, _, part⟩ := chosen dim split selected
    simp only [found, Option.map_some, part]
  | none =>
    cases shape[dim]? with
    | none => rfl
    | some size => simp only [Option.map_some, left dim size selected]

theorem mem_allDims : dim ∈ allDims pInfo rInfo ↔ dim ∈ pInfo.keys ∨ dim ∈ rInfo.keys := by
  rw [allDims, (perm_insertionSort _ _).mem_iff, mem_append, mem_filter]
  by_cases inPolicy : dim ∈ pInfo.keys <;> simp [inPolicy]

theorem splitStrategysAt_spec (dims : List Nat) (built : ShardInfo × ShardInfo)
    (runs : ∀ dim ∈ dims, ∃ overlap, tensorOverlapInfoAtDim pInfo rInfo dim = .ok overlap) :
    (splitStrategysAt pInfo rInfo dims built = .ok none ∧
        ∃ dim ∈ dims, tensorOverlapInfoAtDim pInfo rInfo dim = .ok none) ∨
      ∃ pStrategys rStrategys,
        splitStrategysAt pInfo rInfo dims built = .ok (some (pStrategys, rStrategys)) ∧
        (∀ dim ∈ dims, ∃ pSplit rSplit,
          tensorOverlapInfoAtDim pInfo rInfo dim = .ok (some (pSplit, rSplit)) ∧
          pStrategys.get? dim = some pSplit ∧ rStrategys.get? dim = some rSplit) ∧
        ∀ dim, dim ∉ dims → pStrategys.get? dim = built.1.get? dim ∧
          rStrategys.get? dim = built.2.get? dim := by
  induction dims generalizing built with
  | nil => exact .inr ⟨built.1, built.2, rfl, by simp, fun _ _ => ⟨rfl, rfl⟩⟩
  | cons dim rest ih =>
    obtain ⟨overlap, found⟩ := runs dim (by simp)
    cases overlap with
    | none =>
      refine .inl ⟨?_, dim, by simp, found⟩
      simp [splitStrategysAt, found]
    | some splits =>
      obtain ⟨pSplit, rSplit⟩ := splits
      have unfolded : splitStrategysAt pInfo rInfo (dim :: rest) built =
          splitStrategysAt pInfo rInfo rest
            (built.1.set dim pSplit, built.2.set dim rSplit) := by
        rw [splitStrategysAt, found]
      rw [unfolded]
      rcases ih (built.1.set dim pSplit, built.2.set dim rSplit)
          (fun other inside => runs other (by simp [inside])) with
        ⟨nothing, other, inside, empty⟩ | ⟨pStrategys, rStrategys, equality, set, kept⟩
      · exact .inl ⟨nothing, other, by simp [inside], empty⟩
      · refine .inr ⟨pStrategys, rStrategys, equality, ?_, ?_⟩
        · intro other inside
          by_cases later : other ∈ rest
          · exact set other later
          · have here : other = dim := by
              rcases mem_cons.mp inside with same | inRest
              · exact same
              · exact absurd inRest later
            subst here
            obtain ⟨pKept, rKept⟩ := kept other later
            refine ⟨pSplit, rSplit, found, ?_, ?_⟩
            · rw [pKept, Dict.get?_set, if_pos rfl]
            · rw [rKept, Dict.get?_set, if_pos rfl]
        · intro other absent
          rw [mem_cons, not_or] at absent
          obtain ⟨pKept, rKept⟩ := kept other absent.2
          rw [pKept, rKept, Dict.get?_set, Dict.get?_set, if_neg absent.1, if_neg absent.1]
          exact ⟨rfl, rfl⟩

/-- The strategies of two shards, taken together: either the shards have no element
in common, or slicing either shard by its strategies gives the common elements. -/
theorem tensorSplitStrategys_spec (fitsP : ShardFits shape pInfo) (fitsR : ShardFits shape rInfo)
    (unify : ShardsUnify pInfo rInfo) :
    (tensorSplitStrategys pInfo rInfo = .ok none ∧
        ∀ coordinates, ¬ (commonBox shape pInfo rInfo).Covers coordinates) ∨
      ∃ pStrategys rStrategys,
        tensorSplitStrategys pInfo rInfo = .ok (some (pStrategys, rStrategys)) ∧
        cosmosSlice (shardBox shape pInfo) pStrategys = .ok (commonBox shape pInfo rInfo) ∧
        cosmosSlice (shardBox shape rInfo) rStrategys =
          .ok (commonBox shape pInfo rInfo) := by
  have sizeAt : ∀ dim ∈ allDims pInfo rInfo, ∃ size, shape[dim]? = some size := by
    intro dim inside
    rcases mem_allDims.mp inside with inPolicy | inRollout
    · obtain ⟨size, found, _⟩ := fitsP dim inPolicy
      exact ⟨size, found⟩
    · obtain ⟨size, found, _⟩ := fitsR dim inRollout
      exact ⟨size, found⟩
  have overlaps : ∀ dim ∈ allDims pInfo rInfo, ∃ overlap,
      tensorOverlapInfoAtDim pInfo rInfo dim = .ok overlap := by
    intro dim inside
    obtain ⟨size, found⟩ := sizeAt dim inside
    rcases tensorOverlapInfoAtDim_spec (fitsP.at found) (fitsR.at found) (unify dim) with
      ⟨nothing, _⟩ | ⟨pSplit, rSplit, something, _⟩
    · exact ⟨none, nothing⟩
    · exact ⟨some (pSplit, rSplit), something⟩
  rcases splitStrategysAt_spec (allDims pInfo rInfo) (∅, ∅) overlaps with
    ⟨nothing, dim, inside, empty⟩ | ⟨pStrategys, rStrategys, equality, set, kept⟩
  · refine .inl ⟨nothing, ?_⟩
    intro coordinates covers
    obtain ⟨size, found⟩ := sizeAt dim inside
    have common := Box.covers_ofShape.mp covers dim size found
    rcases tensorOverlapInfoAtDim_spec (fitsP.at found) (fitsR.at found) (unify dim) with
      ⟨_, disjoint⟩ | ⟨pSplit, rSplit, something, _⟩
    · exact disjoint _ common
    · rw [empty] at something
      cases something
  · refine .inr ⟨pStrategys, rStrategys, equality, ?_⟩
    -- what the two dictionaries hold at a dimension that either shard is cut along
    have selected : ∀ dim, dim ∈ allDims pInfo rInfo → ∃ size pSplit rSplit,
        shape[dim]? = some size ∧ pStrategys.get? dim = some pSplit ∧
        rStrategys.get? dim = some rSplit ∧
        (0 < pSplit.totalSize ∧
          pSplit.totalSize ∣ ((sliceAt pInfo dim).window size).length ∧
          pSplit.part ((sliceAt pInfo dim).window size) =
            ((sliceAt pInfo dim).window size).inter ((sliceAt rInfo dim).window size)) ∧
        (0 < rSplit.totalSize ∧
          rSplit.totalSize ∣ ((sliceAt rInfo dim).window size).length ∧
          rSplit.part ((sliceAt rInfo dim).window size) =
            ((sliceAt pInfo dim).window size).inter
              ((sliceAt rInfo dim).window size)) := by
      intro dim inside
      obtain ⟨size, found⟩ := sizeAt dim inside
      obtain ⟨pSplit, rSplit, overlap, pSet, rSet⟩ := set dim inside
      rcases tensorOverlapInfoAtDim_spec (fitsP.at found) (fitsR.at found) (unify dim) with
        ⟨nothing, _⟩ | ⟨pOther, rOther, something, policySide, rolloutSide⟩
      · rw [overlap] at nothing
        cases nothing
      · rw [overlap] at something
        cases something
        exact ⟨size, pSplit, rSplit, found, pSet, rSet, policySide, rolloutSide⟩
    have elsewhere : ∀ dim, dim ∉ allDims pInfo rInfo →
        pStrategys.get? dim = none ∧ rStrategys.get? dim = none := by
      intro dim outside
      obtain ⟨pKept, rKept⟩ := kept dim outside
      exact ⟨pKept.trans (Dict.get?_empty dim), rKept.trans (Dict.get?_empty dim)⟩
    have whole : ∀ dim size, dim ∉ allDims pInfo rInfo →
        (sliceAt pInfo dim).window size = ((sliceAt pInfo dim).window size).inter
          ((sliceAt rInfo dim).window size) ∧
        (sliceAt rInfo dim).window size = ((sliceAt pInfo dim).window size).inter
          ((sliceAt rInfo dim).window size) := by
      intro dim size outside
      rw [mem_allDims, not_or] at outside
      rw [sliceAt_of_notMem outside.1, sliceAt_of_notMem outside.2]
      simp [Window.inter]
    constructor
    · apply cosmosSlice_shardBox
      · intro dim split chosen
        have inside : dim ∈ allDims pInfo rInfo := by
          by_contra outside
          rw [(elsewhere dim outside).1] at chosen
          cases chosen
        obtain ⟨size, pSplit, _, found, pSet, _, policySide, _⟩ := selected dim inside
        rw [pSet] at chosen
        cases chosen
        exact ⟨size, found, policySide⟩
      · intro dim size notChosen
        apply (whole dim size _).1
        intro inside
        obtain ⟨_, pSplit, _, _, pSet, _⟩ := selected dim inside
        rw [pSet] at notChosen
        cases notChosen
    · apply cosmosSlice_shardBox
      · intro dim split chosen
        have inside : dim ∈ allDims pInfo rInfo := by
          by_contra outside
          rw [(elsewhere dim outside).2] at chosen
          cases chosen
        obtain ⟨size, _, rSplit, found, _, rSet, _, rolloutSide⟩ := selected dim inside
        rw [rSet] at chosen
        cases chosen
        exact ⟨size, found, rolloutSide⟩
      · intro dim size notChosen
        apply (whole dim size _).2
        intro inside
        obtain ⟨_, _, rSplit, _, _, rSet, _⟩ := selected dim inside
        rw [rSet] at notChosen
        cases notChosen

theorem unify_of_overlap {overlap : Option (DimSliceInfo × DimSliceInfo)}
    (runs : tensorOverlapInfoAtDim pInfo rInfo dim = .ok overlap) :
    Unify (sliceAt pInfo dim) (sliceAt rInfo dim) := by
  unfold tensorOverlapInfoAtDim at runs
  cases unified : getUnifiedRankInfo (sliceAt pInfo dim) (sliceAt rInfo dim) with
  | error exn =>
    rw [unified] at runs
    cases runs
  | ok both =>
    unfold getUnifiedRankInfo at unified
    dsimp only at unified
    split_ifs at unified with _ policyDivides _ rolloutDivides
    exact ⟨Nat.dvd_of_mod_eq_zero (not_not.mp policyDivides),
      Nat.dvd_of_mod_eq_zero (not_not.mp rolloutDivides)⟩

theorem unify_of_split {strategys : ShardInfo × ShardInfo}
    (runs : tensorSplitStrategys pInfo rInfo = .ok (some strategys)) :
    ShardsUnify pInfo rInfo := by
  have everyDim : ∀ (dims : List Nat) (built : ShardInfo × ShardInfo),
      splitStrategysAt pInfo rInfo dims built = .ok (some strategys) →
      ∀ dim ∈ dims, Unify (sliceAt pInfo dim) (sliceAt rInfo dim) := by
    intro dims
    induction dims with
    | nil => intro built _ dim inside; cases inside
    | cons first rest ih =>
      intro built found dim inside
      unfold splitStrategysAt at found
      cases overlap : tensorOverlapInfoAtDim pInfo rInfo first with
      | error exn =>
        rw [overlap] at found
        cases found
      | ok out =>
        rw [overlap] at found
        rcases mem_cons.mp inside with rfl | later
        · exact unify_of_overlap overlap
        · cases out with
          | none => cases found
          | some splits => exact ih _ found dim later
  intro dim
  by_cases inside : dim ∈ allDims pInfo rInfo
  · exact everyDim _ _ runs dim inside
  · have outside := mem_allDims.not.mp inside
    rw [sliceAt_of_notMem fun held => outside (.inl held),
      sliceAt_of_notMem fun held => outside (.inr held)]
    exact ⟨Nat.one_dvd _, Nat.one_dvd _⟩

theorem foldl_lastMatch {Item Out : Type} (test : Item → Prop) [DecidablePred test]
    (hit init : Out) (items : List Item) :
    items.foldl (fun current item => if test item then hit else current) init =
      if ∃ item ∈ items, test item then hit else init := by
  induction items generalizing init with
  | nil => simp
  | cons item rest ih =>
    rw [foldl_cons, ih]
    by_cases here : test item
    · by_cases later : ∃ other ∈ rest, test other <;> simp [here, later]
    · by_cases later : ∃ other ∈ rest, test other <;> simp [here, later]

def servingPolicy (policys rollouts : List Nat) (rRank : Nat) : Option Nat :=
  if rollouts.length ≤ policys.length then policys[rollouts.idxOf rRank]?
  else policys[rollouts.idxOf rRank / ((rollouts.length - 1) / policys.length + 1)]?

theorem servingPolicy_spec {policys rollouts : List Nat} {rRank : Nat}
    (somePolicy : policys ≠ []) (listed : rRank ∈ rollouts) :
    ∃ pRank ∈ policys, servingPolicy policys rollouts rRank = some pRank := by
  have position : rollouts.idxOf rRank < rollouts.length := idxOf_lt_length_of_mem listed
  have found : ∀ index, index < policys.length →
      ∃ pRank ∈ policys, policys[index]? = some pRank := by
    intro index bound
    exact ⟨policys[index], getElem_mem bound, getElem?_eq_getElem bound⟩
  unfold servingPolicy
  by_cases enough : rollouts.length ≤ policys.length
  · rw [if_pos enough]
    exact found _ (by omega)
  · rw [if_neg enough]
    apply found
    have positive := length_pos_of_ne_nil somePolicy
    rw [Nat.div_lt_iff_lt_mul (Nat.succ_pos _)]
    have covered : rollouts.length - 1 <
        policys.length * ((rollouts.length - 1) / policys.length + 1) :=
      Nat.lt_mul_div_succ _ positive
    show _ < policys.length * ((rollouts.length - 1) / policys.length + 1)
    omega

theorem mem_take_drop_iff {items : List Nat} {item start count : Nat}
    (distinct : items.Nodup) (listed : item ∈ items) :
    item ∈ (items.drop start).take count ↔
      start ≤ items.idxOf item ∧ items.idxOf item < start + count := by
  have position := idxOf_lt_length_of_mem listed
  have there : items[items.idxOf item]? = some item := by
    rw [getElem?_eq_getElem position, getElem_idxOf]
  rw [mem_iff_getElem?]
  constructor
  · rintro ⟨index, found⟩
    rw [getElem?_take] at found
    split at found
    · rename_i bound
      rw [getElem?_drop] at found
      have same : start + index = items.idxOf item := by
        obtain ⟨inside, value⟩ := List.getElem?_eq_some_iff.mp found
        rw [← value, distinct.idxOf_getElem]
      omega
    · cases found
  · rintro ⟨after, before⟩
    refine ⟨items.idxOf item - start, ?_⟩
    rw [getElem?_take, if_pos (by omega), getElem?_drop, Nat.add_sub_cancel' after, there]

/-- A policy rank sends to a rollout rank precisely when it serves it, and both
sides of the assignment agree. -/
theorem policyToRolloutAssign_spec {policys rollouts : List Nat} {pRank rRank : Nat}
    (rolloutsDistinct : rollouts.Nodup) (pListed : pRank ∈ policys) (rListed : rRank ∈ rollouts) :
    policyToRolloutAssign policys rollouts pRank rRank =
      .ok (if servingPolicy policys rollouts rRank = some pRank then ([rRank], [pRank])
        else ([], [])) := by
  have position := idxOf_lt_length_of_mem rListed
  have there : rollouts[rollouts.idxOf rRank]? = some rRank := by
    rw [getElem?_eq_getElem position, getElem_idxOf]
  unfold policyToRolloutAssign servingPolicy
  by_cases enough : rollouts.length ≤ policys.length
  · rw [if_pos enough, if_pos enough]
    congr 1
    rw [foldl_lastMatch (fun pair : Nat × Nat => pair.1 = pRank ∧ pair.2 = rRank)]
    congr 1
    apply propext
    constructor
    · rintro ⟨⟨p, r⟩, inside, rfl, rfl⟩
      obtain ⟨index, bound, value⟩ := mem_iff_getElem.mp inside
      rw [getElem_zip] at value
      obtain ⟨pValue, rValue⟩ := Prod.mk.inj value
      rw [length_zip] at bound
      have same : rollouts.idxOf r = index := by
        rw [← rValue, rolloutsDistinct.idxOf_getElem]
      rw [same, ← pValue]
      exact getElem?_eq_getElem _
    · intro serves
      refine ⟨(pRank, rRank), ?_, rfl, rfl⟩
      rw [mem_iff_getElem?]
      refine ⟨rollouts.idxOf rRank, ?_⟩
      rw [getElem?_zip_eq_some]
      exact ⟨serves, there⟩
  · have positive := length_pos_of_mem pListed
    rw [if_neg enough, if_neg enough, if_neg (by omega)]
    generalize grouping : (rollouts.length - 1) / policys.length + 1 = groupSize
    have groupPos : 0 < groupSize := by
      rw [← grouping]
      exact Nat.succ_pos _
    dsimp only
    congr 1
    rw [foldl_lastMatch (fun indexed : Nat × Nat => indexed.1 = pRank ∧
      rRank ∈ (rollouts.drop (indexed.2 * groupSize)).take groupSize)]
    congr 1
    apply propext
    constructor
    · rintro ⟨⟨p, index⟩, inside, rfl, slot⟩
      rw [mem_take_drop_iff rolloutsDistinct rListed] at slot
      have quotient : rollouts.idxOf rRank / groupSize = index := by
        apply Nat.div_eq_of_lt_le
        · exact slot.1
        · rw [Nat.add_mul, Nat.one_mul]
          exact slot.2
      show policys[rollouts.idxOf rRank / groupSize]? = some p
      rw [quotient]
      exact mem_zipIdx_iff_getElem?.mp inside
    · intro serves
      refine ⟨(pRank, rollouts.idxOf rRank / groupSize), ?_, rfl, ?_⟩
      · exact mem_zipIdx_iff_getElem?.mpr serves
      · rw [mem_take_drop_iff rolloutsDistinct rListed]
        constructor
        · exact Nat.div_mul_le_self _ _
        · exact Nat.lt_div_mul_add groupPos

section Ranks

variable {Name : Type} [DecidableEq Name]

def shardOf (allRankShardInfos : List (RankShardInfos Name)) (rank : Nat) (name : Name) :
    Option ShardInfo :=
  (allRankShardInfos[rank]?).bind fun infos => infos.get? name

variable {allRankShardInfos : List (RankShardInfos Name)}

theorem mem_dupRanks {rank other : Nat}
    {name : Name} (held : shardOf allRankShardInfos rank name = some info) :
    other ∈ dupRanks allRankShardInfos rank name ↔
      ∃ otherInfo, shardOf allRankShardInfos other name = some otherInfo ∧
        otherInfo.sameMapping info = true := by
  unfold dupRanks
  rw [show ((allRankShardInfos[rank]?).bind fun infos => infos.get? name) = some info from held]
  simp only [mem_map, mem_filter, Option.any_eq_true]
  constructor
  · rintro ⟨⟨infos, position⟩, ⟨inside, otherInfo, found, same⟩, rfl⟩
    refine ⟨otherInfo, ?_, same⟩
    rw [mem_zipIdx_iff_getElem?] at inside
    rw [shardOf, inside]
    exact found
  · rintro ⟨otherInfo, found, same⟩
    obtain ⟨infos, stored, entry⟩ := Option.bind_eq_some_iff.mp found
    refine ⟨(infos, other), ⟨?_, otherInfo, entry, same⟩, rfl⟩
    rw [mem_zipIdx_iff_getElem?]
    exact stored

theorem nodup_dupRanks (allRankShardInfos : List (RankShardInfos Name)) (rank : Nat)
    (name : Name) : (dupRanks allRankShardInfos rank name).Nodup := by
  unfold dupRanks
  split
  · exact nodup_nil
  · have positions : (allRankShardInfos.zipIdx.map Prod.snd).Nodup := by
      rw [zipIdx_map_snd]
      exact nodup_range'
    exact positions.sublist (List.Sublist.map _ filter_sublist)

theorem dupRanks_congr {first second : Nat} {name : Name} {firstInfo secondInfo : ShardInfo}
    (firstHeld : shardOf allRankShardInfos first name = some firstInfo)
    (secondHeld : shardOf allRankShardInfos second name = some secondInfo)
    (same : firstInfo.sameMapping secondInfo = true) :
    dupRanks allRankShardInfos first name = dupRanks allRankShardInfos second name := by
  have tests : ∀ other : ShardInfo,
      other.sameMapping firstInfo = other.sameMapping secondInfo := by
    intro other
    rw [Bool.eq_iff_iff, Dict.sameMapping_iff, Dict.sameMapping_iff]
    rw [Dict.sameMapping_iff] at same
    simp only [same]
  unfold dupRanks
  rw [show ((allRankShardInfos[first]?).bind fun infos => infos.get? name) = some firstInfo
      from firstHeld,
    show ((allRankShardInfos[second]?).bind fun infos => infos.get? name) = some secondInfo
      from secondHeld]
  simp only [tests]

end Ranks

end CosmosRl.Utils
