import CosmosRl.Utils.P2RCoverage

/-!
The rollout ranks that the transfer covers.

The generator of the receive instructions gives up on a group of parameters none of
which is on the rank, and on a parameter that no policy shard meets.  A rank that has
neither is covered: its instructions tile its shards.
-/

namespace CosmosRl.Utils

open CosmosRl.Foundation List

/-- The fractions of a dimension that two slices take have a part in common. -/
def SlicesMeet (a b : DimSliceInfo) : Prop :=
  max (a.offset * b.totalSize) (b.offset * a.totalSize) <
    min ((a.offset + a.length) * b.totalSize) ((b.offset + b.length) * a.totalSize)

def ShardsMeet (pInfo rInfo : ShardInfo) : Prop :=
  ∀ dim, SlicesMeet (sliceAt pInfo dim) (sliceAt rInfo dim)

section Meeting

variable {pInfo rInfo : ShardInfo} {shape : List Nat} {dim : Nat}

theorem ShardFits.totalSize_pos {info : ShardInfo} (fits : ShardFits shape info) (dim : Nat) :
    0 < (sliceAt info dim).totalSize := by
  by_cases sharded : dim ∈ info.keys
  · obtain ⟨_, _, fitsAt⟩ := fits dim sharded
    exact fitsAt.totalSize_pos
  · rw [sliceAt_of_notMem sharded]
    exact Nat.one_pos

/-- Seen in a dimension whose size is the product of the totals. -/
theorem slicesMeet_iff {a b : DimSliceInfo} (positiveA : 0 < a.totalSize)
    (positiveB : 0 < b.totalSize) :
    SlicesMeet a b ↔ 0 < ((a.window (a.totalSize * b.totalSize)).inter
      (b.window (a.totalSize * b.totalSize))).length := by
  have unitA : a.totalSize * b.totalSize / a.totalSize = b.totalSize :=
    Nat.mul_div_cancel_left _ positiveA
  have unitB : a.totalSize * b.totalSize / b.totalSize = a.totalSize :=
    Nat.mul_div_cancel _ positiveB
  have endA : b.totalSize * a.offset + b.totalSize * a.length =
      (a.offset + a.length) * b.totalSize := by
    rw [← Nat.mul_add, Nat.mul_comm]
  have endB : a.totalSize * b.offset + a.totalSize * b.length =
      (b.offset + b.length) * a.totalSize := by
    rw [← Nat.mul_add, Nat.mul_comm]
  simp only [Window.inter, DimSliceInfo.window, unitA, unitB, endA, endB, Nat.sub_pos_iff_lt]
  rw [SlicesMeet, Nat.mul_comm a.offset, Nat.mul_comm b.offset]

theorem tensorOverlapInfoAtDim_eq_none_iff (positiveP : 0 < (sliceAt pInfo dim).totalSize)
    (positiveR : 0 < (sliceAt rInfo dim).totalSize)
    (unify : Unify (sliceAt pInfo dim) (sliceAt rInfo dim)) :
    tensorOverlapInfoAtDim pInfo rInfo dim = .ok none ↔
      ¬ SlicesMeet (sliceAt pInfo dim) (sliceAt rInfo dim) := by
  rw [slicesMeet_iff positiveP positiveR]
  rcases tensorOverlapInfoAtDim_cases positiveP positiveR (Nat.dvd_mul_right _ _)
      (Nat.dvd_mul_left _ _) unify rfl rfl with
    ⟨nothing, empty⟩ | ⟨_, _, splitP, splitR, _, _, _, found, common, _⟩
  · rw [empty]
    exact iff_of_true nothing (Nat.lt_irrefl 0)
  · refine iff_of_false ?_ (not_not.mpr (common (Nat.mul_pos positiveP positiveR)))
    rw [found]
    simp

theorem tensorSplitStrategys_eq_some_iff (fitsP : ShardFits shape pInfo)
    (fitsR : ShardFits shape rInfo) (unify : ShardsUnify pInfo rInfo) :
    (∃ strategys, tensorSplitStrategys pInfo rInfo = .ok (some strategys)) ↔
      ShardsMeet pInfo rInfo := by
  have atDim := fun dim => tensorOverlapInfoAtDim_eq_none_iff (fitsP.totalSize_pos dim)
    (fitsR.totalSize_pos dim) (unify dim)
  have runs : ∀ dim ∈ allDims pInfo rInfo, ∃ overlap,
      tensorOverlapInfoAtDim pInfo rInfo dim = .ok overlap := by
    intro dim _
    rcases tensorOverlapInfoAtDim_cases (fitsP.totalSize_pos dim) (fitsR.totalSize_pos dim)
        (Nat.dvd_mul_right _ _) (Nat.dvd_mul_left _ _) (unify dim) rfl rfl with
      ⟨nothing, _⟩ | ⟨_, _, _, _, _, _, _, found, _⟩
    · exact ⟨none, nothing⟩
    · exact ⟨_, found⟩
  rcases splitStrategysAt_spec (allDims pInfo rInfo) (∅, ∅) runs with
    ⟨nothing, dim, _, empty⟩ | ⟨pStrategys, rStrategys, something, set, _⟩
  · refine iff_of_false ?_ fun meet => (atDim dim).mp empty (meet dim)
    rintro ⟨strategys, found⟩
    rw [tensorSplitStrategys, nothing] at found
    cases found
  · refine iff_of_true ⟨_, something⟩ fun dim => ?_
    by_cases inside : dim ∈ allDims pInfo rInfo
    · obtain ⟨pSplit, rSplit, found, _⟩ := set dim inside
      by_contra apart
      rw [(atDim dim).mpr apart] at found
      cases found
    · have outside := mem_allDims.not.mp inside
      rw [sliceAt_of_notMem fun held => outside (.inl held),
        sliceAt_of_notMem fun held => outside (.inr held)]
      exact Nat.one_pos

end Meeting

section Generation

variable {Name : Type} [DecidableEq Name] {mapper : ParallelizedShardMapper Name}
  {name : Name} {shape : List Nat} {rRank : Nat} {rInfo : ShardInfo}

/-- A policy rank has a shard of the parameter that meets the given one. -/
def MeetsPolicy (mapper : ParallelizedShardMapper Name) (name : Name) (rInfo : ShardInfo) : Prop :=
  ∃ pRank pInfo, mapper.policyShard pRank name = some pInfo ∧ ShardsMeet pInfo rInfo

/-- Of the policy ranks with a shard that meets, one is assigned. -/
theorem ShardLayout.receives_ne_nil_iff (layout : ShardLayout mapper name shape)
    (rHeld : mapper.rolloutShard rRank name = some rInfo) :
    mapper.receives rRank name ≠ [] ↔ MeetsPolicy mapper name rInfo := by
  have split : ∀ pRank pInfo, mapper.policyShard pRank name = some pInfo →
      ((∃ strategys, tensorSplitStrategys pInfo rInfo = .ok (some strategys)) ↔
        ShardsMeet pInfo rInfo) := by
    intro pRank pInfo pHeld
    exact tensorSplitStrategys_eq_some_iff (layout.policyFits _ _ pHeld)
      (layout.rolloutFits _ _ rHeld) (layout.unify _ _ _ _ pHeld rHeld)
  constructor
  · intro something
    obtain ⟨inst, listed⟩ := exists_mem_of_ne_nil _ something
    obtain ⟨pRank, _, made⟩ := mem_filterMap.mp listed
    obtain ⟨strategys, exchanged, _⟩ := Option.map_eq_some_iff.mp made
    obtain ⟨pInfo, pHeld, rest⟩ := Option.bind_eq_some_iff.mp exchanged
    rw [rHeld, Option.bind_some] at rest
    refine ⟨pRank, pInfo, pHeld, (split pRank pInfo pHeld).mp ?_⟩
    revert rest
    cases tensorSplitStrategys pInfo rInfo with
    | error exn => intro rest; cases rest
    | ok found =>
      cases found with
      | none => intro rest; cases rest
      | some strategys => exact fun _ => ⟨strategys, rfl⟩
  · rintro ⟨pRank, pInfo, pHeld, meet⟩ nothing
    obtain ⟨server, serverInfo, serverHeld, serverSame, serves_iff⟩ := exists_server pHeld rHeld
    have serves := (serves_iff server serverInfo serverHeld serverSame).mpr rfl
    have serverMeets : ShardsMeet serverInfo rInfo := by
      rw [ShardsMeet, sliceAt_congr serverSame]
      exact meet
    obtain ⟨strategys, found⟩ := (split server serverInfo serverHeld).mpr serverMeets
    have exchanged : mapper.exchange name server rRank = some strategys := by
      simp only [ParallelizedShardMapper.exchange, serverHeld, rHeld, Option.bind_some, found,
        if_pos serves]
    have listed : ⟨server, rRank, strategys.2⟩ ∈ mapper.receives rRank name :=
      mem_filterMap.mpr ⟨server, mem_range.mpr (lt_length_of_shardOf serverHeld),
        Option.map_eq_some_iff.mpr ⟨strategys, exchanged, rfl⟩⟩
    rw [nothing] at listed
    cases listed

variable [ToString Name] {rInfos : RankShardInfos Name}
  {groups : List (WeightSyncInstructionsGroup Name)}

/-- A group that does not fail has a member on the rank. -/
theorem exists_member_of_generateRecv
    (stored : mapper.rolloutAllRankShardInfos[rRank]? = some rInfos)
    (generates : mapper.generateRecvInstsForRollout rRank = .ok groups)
    {group : ParamGroup Name} (listed : group ∈ mapper.paramGroups) :
    ∃ name ∈ group.names, name ∈ rInfos.keys := by
  obtain ⟨_, otherInfos, _, _, _, otherStored, _, grouped, _⟩ := generateRecv_eq_ok.mp generates
  obtain rfl : rInfos = otherInfos := Option.some.inj (stored.symm.trans otherStored)
  obtain ⟨_, runs⟩ := (collect_eq_ok.mp grouped).1 group listed
  obtain ⟨_, collected, someEntry, _⟩ := recvGroup_eq_ok.mp runs
  obtain ⟨_, rfl⟩ := collect_eq_ok.mp collected
  by_contra noMember
  apply someEntry
  apply flatMap_eq_nil_iff.mpr
  intro name inGroup
  have absent : rInfos.get? name = none :=
    Dict.get?_eq_none_iff.mpr fun onRank => noMember ⟨name, inGroup, onRank⟩
  rw [generated, recvEntry_eq_ok.mpr (.inl ⟨absent, rfl⟩)]

theorem generateRecv_iff (laidOut : LaidOut mapper) (reported : ParamsReported mapper)
    (stored : mapper.rolloutAllRankShardInfos[rRank]? = some rInfos) :
    (∃ groups, mapper.generateRecvInstsForRollout rRank = .ok groups) ↔
      (∀ group ∈ mapper.paramGroups, ∃ name ∈ group.names, name ∈ rInfos.keys) ∧
        ∀ name rInfo, rInfos.get? name = some rInfo → MeetsPolicy mapper name rInfo := by
  have held : ∀ {name rInfo}, rInfos.get? name = some rInfo →
      mapper.rolloutShard rRank name = some rInfo :=
    fun found => (shardOf_stored stored).trans found
  constructor
  · rintro ⟨groups, generates⟩
    refine ⟨fun group listed => exists_member_of_generateRecv stored generates listed, ?_⟩
    intro name rInfo found
    obtain ⟨shape, layout⟩ := laidOut name
    obtain ⟨sortedParams, _, listed, otherStored, _, received⟩ := generateRecv_ok generates
    obtain ⟨otherParams, otherListed, covers, _⟩ := reported.rolloutListed _ _ stored
    obtain rfl : otherParams = sortedParams := Option.some.inj (otherListed.symm.trans listed)
    obtain rfl := Option.some.inj (stored.symm.trans otherStored)
    have onRank := Dict.mem_keys_iff_get?.mpr ⟨rInfo, found⟩
    have visits : name ∈ mapper.visited otherParams := mem_visited (covers name onRank)
    exact (layout.receives_ne_nil_iff (held found)).mp (received name visits onRank)
  · rintro ⟨member, meets⟩
    refine generateRecv_runs laidOut reported stored (fun name onRank => ?_) member
    obtain ⟨rInfo, found⟩ := Dict.mem_keys_iff_get?.mp onRank
    obtain ⟨shape, layout⟩ := laidOut name
    exact (layout.receives_ne_nil_iff (held found)).mpr (meets name rInfo found)

/-- The instructions of a rollout rank are there and tile its shards, and each one has a
send instruction that slices the same elements out of the policy shard. -/
def CoversRank (mapper : ParallelizedShardMapper Name) (rRank : Nat) : Prop :=
  ∃ groups, mapper.generateRecvInstsForRollout rRank = .ok groups ∧
    ∀ name shape rInfo, ShardLayout mapper name shape →
      mapper.rolloutShard rRank name = some rInfo →
      ∃ insts, entriesFor groups name = [⟨name, insts⟩] ∧ Tiles (shardBox shape rInfo) insts ∧
        ∀ recv ∈ insts, recv.rolloutRank = rRank ∧
          ∃ sendGroups sends send pInfo view,
            mapper.generateSendInstsForPolicy recv.policyRank = .ok sendGroups ∧
            entriesFor sendGroups name = [⟨name, sends⟩] ∧
            (sends.filter fun inst => decide (inst.rolloutRank = rRank)) = [send] ∧
            mapper.policyShard recv.policyRank name = some pInfo ∧
            cosmosSlice (shardBox shape pInfo) send.sliceStrategy = .ok view ∧
            cosmosSlice (shardBox shape rInfo) recv.sliceStrategy = .ok view

theorem coversRank_of_generates (laidOut : LaidOut mapper) (reported : ParamsReported mapper)
    (generates : mapper.generateRecvInstsForRollout rRank = .ok groups) :
    CoversRank mapper rRank := by
  refine ⟨groups, generates, ?_⟩
  intro name shape rInfo layout rHeld
  refine ⟨mapper.receives rRank name, entriesFor_recv reported rHeld generates,
    layout.tiles_receives rHeld, ?_⟩
  intro recv inside
  obtain ⟨rRankEq, pInfo, send, view, pHeld, only, pSlice, rSlice⟩ := layout.matching rHeld inside
  obtain ⟨sendGroups, generatesSend⟩ :=
    generateSend_runs laidOut reported (lt_length_of_shardOf pHeld)
  refine ⟨rRankEq, sendGroups, mapper.sends recv.policyRank name, send, pInfo, view,
    generatesSend, ?_, only, pHeld, pSlice, rSlice⟩
  rw [entriesFor_send reported pHeld generatesSend, paramEntry, if_neg]
  intro nothing
  rw [isEmpty_iff.mp nothing] at only
  cases only

/-- A rollout rank is covered exactly if it has a member of every group and each of its
shards meets a policy shard.  A shard with an element does. -/
theorem coversRank_iff (mapper : ParallelizedShardMapper Name) (reported : ParamsReported mapper)
    (laidOut : LaidOut mapper) {rRank : Nat} {rInfos : RankShardInfos Name}
    (stored : mapper.rolloutAllRankShardInfos[rRank]? = some rInfos) :
    (CoversRank mapper rRank ↔
      (∀ group ∈ mapper.paramGroups, ∃ name ∈ group.names, name ∈ rInfos.keys) ∧
        ∀ name rInfo, rInfos.get? name = some rInfo → MeetsPolicy mapper name rInfo) ∧
      ∀ name shape rInfo coordinates, ShardLayout mapper name shape →
        mapper.rolloutShard rRank name = some rInfo →
        (shardBox shape rInfo).Covers coordinates → MeetsPolicy mapper name rInfo := by
  rw [← generateRecv_iff laidOut reported stored]
  refine ⟨⟨?_, ?_⟩, ?_⟩
  · rintro ⟨groups, generates, _⟩
    exact ⟨groups, generates⟩
  · rintro ⟨groups, generates⟩
    exact coversRank_of_generates laidOut reported generates
  · intro name shape rInfo coordinates layout rHeld inside
    exact (layout.receives_ne_nil_iff rHeld).mp (layout.receives_ne_nil rHeld inside)

end Generation

theorem coversRank_halves : CoversRank halvesMapper 0 := by
  have laidOut : LaidOut halvesMapper := fun name => ⟨[4], halves_layout name⟩
  have stored : halvesMapper.rolloutAllRankShardInfos[0]? = some (Dict.set ∅ 0 ∅) := rfl
  obtain ⟨covers, meets⟩ := coversRank_iff halvesMapper halves_reported laidOut stored
  refine covers.mpr ⟨fun group listed => absurd listed not_mem_nil, ?_⟩
  intro name rInfo found
  have rHeld : halvesMapper.rolloutShard 0 name = some rInfo := found
  obtain ⟨_, rfl⟩ := halves_rolloutShard rHeld
  exact meets name [4] ∅ (fun _ => 0) (halves_layout name) rHeld (covers_half.mpr (by decide))

-- A policy rank with two layers of two fused parameters each, and a rollout rank for each layer.

def wholeParams (names : List Nat) : RankShardInfos Nat :=
  names.foldr (fun name infos => infos.set name ∅) ∅

theorem get?_wholeParams (names : List Nat) (name : Nat) :
    (wholeParams names).get? name = if name ∈ names then some ∅ else none := by
  induction names with
  | nil => exact Dict.get?_empty name
  | cons first rest ih =>
    rw [wholeParams, foldr_cons, Dict.get?_set]
    by_cases here : name = first
    · simp [here]
    · rw [if_neg here]
      simpa [here, wholeParams] using ih

theorem mem_keys_wholeParams {names : List Nat} {name : Nat} :
    name ∈ (wholeParams names).keys ↔ name ∈ names := by
  rw [Dict.mem_keys_iff_get?, get?_wholeParams]
  split <;> simp_all

def layersMapper : ParallelizedShardMapper Nat where
  policyAllRankShardInfos := [wholeParams [0, 1, 2, 3]]
  rolloutAllRankShardInfos := [wholeParams [0, 1], wholeParams [2, 3]]
  sortedParamsAllRankPolicy := [[0, 1, 2, 3]]
  sortedParamsAllRankRollout := [[0, 1], [2, 3]]
  ppRankMapPolicy := [0]
  ppRankMapRollout := [0, 1]
  paramToParamGroups := (((Dict.set ∅ 0 [0, 1]).set 1 [0, 1]).set 2 [2, 3]).set 3 [2, 3]
  paramGroups := [⟨[0, 1], by decide⟩, ⟨[2, 3], by decide⟩]
  grouped_iff name := by
    simp [Dict.mem_keys_set, Dict.keys_empty]
    tauto

theorem layers_shard {allRankShardInfos : List (RankShardInfos Nat)} {rank name : Nat}
    {info : ShardInfo} (whole : ∀ infos ∈ allRankShardInfos, ∃ names, infos = wholeParams names)
    (held : shardOf allRankShardInfos rank name = some info) : info = ∅ := by
  obtain ⟨infos, stored, found⟩ := Option.bind_eq_some_iff.mp held
  obtain ⟨names, rfl⟩ := whole infos (mem_of_getElem? stored)
  rw [get?_wholeParams] at found
  split at found
  · exact (Option.some.inj found).symm
  · cases found

theorem layers_policyShard {pRank name : Nat} {pInfo : ShardInfo}
    (held : layersMapper.policyShard pRank name = some pInfo) : pInfo = ∅ :=
  layers_shard (by simp [layersMapper]) held

theorem layers_rolloutShard {rRank name : Nat} {rInfo : ShardInfo}
    (held : layersMapper.rolloutShard rRank name = some rInfo) : rInfo = ∅ :=
  layers_shard (by simp [layersMapper]) held

theorem layers_layout (name : Nat) : ShardLayout layersMapper name [4] where
  policyFits pRank pInfo held := by
    obtain rfl := layers_policyShard held
    intro dim sharded
    cases sharded
  rolloutFits rRank rInfo held := by
    obtain rfl := layers_rolloutShard held
    intro dim sharded
    cases sharded
  unify pRank pInfo rRank rInfo pHeld rHeld dim := by
    obtain rfl := layers_policyShard pHeld
    obtain rfl := layers_rolloutShard rHeld
    exact ⟨Nat.one_dvd _, Nat.one_dvd _⟩
  equalOrDisjoint first firstInfo second secondInfo firstHeld secondHeld := by
    obtain rfl := layers_policyShard firstHeld
    obtain rfl := layers_policyShard secondHeld
    exact .inl (by decide)
  cover := by
    rintro ⟨rRank, rInfo, held⟩ coordinates inside
    obtain ⟨infos, stored, found⟩ := Option.bind_eq_some_iff.mp held
    have listed : infos = wholeParams [0, 1] ∨ infos = wholeParams [2, 3] := by
      simpa [layersMapper] using mem_of_getElem? stored
    have onRank := Dict.mem_keys_iff_get?.mpr ⟨rInfo, found⟩
    have named : name ∈ [0, 1, 2, 3] := by
      rcases listed with rfl | rfl <;> have here := mem_keys_wholeParams.mp onRank <;>
        simp only [mem_cons] at here ⊢ <;> tauto
    refine ⟨0, ∅, ?_, inside⟩
    show (wholeParams [0, 1, 2, 3]).get? name = some ∅
    rw [get?_wholeParams, if_pos named]

theorem layers_reported : ParamsReported layersMapper where
  policyListed pRank pInfos stored := by
    match pRank, stored with
    | 0, rfl => exact ⟨[0, 1, 2, 3], rfl, fun name => mem_keys_wholeParams.mp, by decide⟩
  rolloutListed rRank rInfos stored := by
    match rRank, stored with
    | 0, rfl => exact ⟨[0, 1], rfl, fun name => mem_keys_wholeParams.mp, by decide⟩
    | 1, rfl => exact ⟨[2, 3], rfl, fun name => mem_keys_wholeParams.mp, by decide⟩

/-- Neither rollout rank has a member of the group of the other layer. -/
theorem not_coversRank_layers :
    ParamsReported layersMapper ∧ (∀ name, ShardLayout layersMapper name [4]) ∧
      ¬ CoversRank layersMapper 0 ∧ ¬ CoversRank layersMapper 1 := by
  have absent : ∀ {rRank names} (group : ParamGroup Nat), group ∈ layersMapper.paramGroups →
      layersMapper.rolloutAllRankShardInfos[rRank]? = some (wholeParams names) →
      (∀ name ∈ group.names, name ∉ names) → ¬ CoversRank layersMapper rRank := by
    rintro rRank names group listed stored apart ⟨groups, generates, _⟩
    obtain ⟨name, inGroup, onRank⟩ := exists_member_of_generateRecv stored generates listed
    exact apart name inGroup (mem_keys_wholeParams.mp onRank)
  refine ⟨layers_reported, layers_layout, ?_, ?_⟩
  · exact absent ⟨[2, 3], by decide⟩ (by simp [layersMapper]) rfl (by decide)
  · exact absent ⟨[0, 1], by decide⟩ (by simp [layersMapper]) rfl (by decide)

end CosmosRl.Utils
