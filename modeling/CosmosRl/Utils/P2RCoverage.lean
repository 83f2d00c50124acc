import CosmosRl.Utils.InstructionLists

/-!
Coverage of the policy-to-rollout transfer.

The policy shards with pairwise different contents partition the tensor.  Of the
ranks that hold the part around an element exactly one serves a given rollout
rank, so the receive instructions of the rollout rank tile its shard; and the
matching send instruction selects the same elements.
-/

namespace CosmosRl.Utils

open CosmosRl.Foundation List

section Layout

variable {Name : Type} [DecidableEq Name] (mapper : ParallelizedShardMapper Name)

/-- The shards of one parameter on both sides: slices of a tensor of the given
shape whose totals unify, where the policy shards are equal or disjoint and
together cover the tensor. -/
structure ShardLayout (name : Name) (shape : List Nat) : Prop where
  policyFits : ∀ pRank pInfo, mapper.policyShard pRank name = some pInfo →
    ShardFits shape pInfo
  rolloutFits : ∀ rRank rInfo, mapper.rolloutShard rRank name = some rInfo →
    ShardFits shape rInfo
  unify : ∀ pRank pInfo rRank rInfo, mapper.policyShard pRank name = some pInfo →
    mapper.rolloutShard rRank name = some rInfo → ShardsUnify pInfo rInfo
  equalOrDisjoint : ∀ first firstInfo second secondInfo,
    mapper.policyShard first name = some firstInfo →
    mapper.policyShard second name = some secondInfo →
    firstInfo.sameMapping secondInfo = true ∨
      ∀ coordinates, ¬ ((shardBox shape firstInfo).Covers coordinates ∧
        (shardBox shape secondInfo).Covers coordinates)
  cover : (∃ rRank rInfo, mapper.rolloutShard rRank name = some rInfo) →
    ∀ coordinates, (shardBox shape ∅).Covers coordinates → ∃ pRank pInfo,
      mapper.policyShard pRank name = some pInfo ∧
        (shardBox shape pInfo).Covers coordinates

/-- What the workers report beside the shard infos: a rank's parameters are listed
among the sorted parameters of its pipeline stage, and neither this list nor the
groups name a parameter twice. -/
structure ParamsReported : Prop where
  policyListed : ∀ (pRank : Nat) (pInfos : RankShardInfos Name),
    mapper.policyAllRankShardInfos[pRank]? = some pInfos →
    ∃ sortedParams : List Name, ((mapper.ppRankMapPolicy[pRank]?).bind fun stage =>
        mapper.sortedParamsAllRankPolicy[stage]?) = some sortedParams ∧
      (∀ name ∈ pInfos.keys, name ∈ sortedParams) ∧ (mapper.visited sortedParams).Nodup
  rolloutListed : ∀ (rRank : Nat) (rInfos : RankShardInfos Name),
    mapper.rolloutAllRankShardInfos[rRank]? = some rInfos →
    ∃ sortedParams : List Name, ((mapper.ppRankMapRollout[rRank]?).bind fun stage =>
        mapper.sortedParamsAllRankRollout[stage]?) = some sortedParams ∧
      (∀ name ∈ rInfos.keys, name ∈ sortedParams) ∧ (mapper.visited sortedParams).Nodup

end Layout

def selects (shard : Box) (strategys : ShardInfo) (coordinates : Nat → Nat) : Bool :=
  match cosmosSlice shard strategys with
  | .ok view => decide (view.Covers coordinates)
  | .error _ => false

/-- The slices of the instructions are slices of the shard, and every element of the
shard, and no other, is selected by exactly one of them. -/
structure Tiles (shard : Box) (insts : List WeightSyncInstruction) : Prop where
  sliceable : ∀ inst ∈ insts, ∃ view, cosmosSlice shard inst.sliceStrategy = .ok view
  once : ∀ coordinates, insts.countP (fun inst =>
    selects shard inst.sliceStrategy coordinates) =
      if shard.Covers coordinates then 1 else 0

section Exchange

variable {Name : Type} [DecidableEq Name] {mapper : ParallelizedShardMapper Name}
  {name : Name} {shape : List Nat}

variable {pInfo rInfo : ShardInfo} {coordinates : Nat → Nat} {pRank rRank : Nat}

theorem covers_commonBox :
    (commonBox shape pInfo rInfo).Covers coordinates ↔
      (shardBox shape pInfo).Covers coordinates ∧
        (shardBox shape rInfo).Covers coordinates :=
  Box.covers_ofShape_inter

theorem sliceAt_congr {first second : ShardInfo} (same : first.sameMapping second = true) :
    sliceAt first = sliceAt second := by
  funext dim
  rw [sliceAt, sliceAt, Dict.sameMapping_iff.mp same dim]

/-- Of the policy ranks that hold a shard with the same content, one serves. -/
theorem exists_server (pHeld : mapper.policyShard pRank name = some pInfo)
    (rHeld : mapper.rolloutShard rRank name = some rInfo) :
    ∃ server serverInfo, mapper.policyShard server name = some serverInfo ∧
      serverInfo.sameMapping pInfo = true ∧
      ∀ other otherInfo, mapper.policyShard other name = some otherInfo →
        otherInfo.sameMapping pInfo = true → (mapper.serves name other rRank ↔ server = other) := by
  obtain ⟨server, listed, serving⟩ := servingPolicy_spec
    (ne_nil_of_mem (self_mem_dupRanks pHeld)) (self_mem_dupRanks rHeld)
  obtain ⟨serverInfo, serverHeld, serverSame⟩ := (mem_dupRanks pHeld).mp listed
  refine ⟨server, serverInfo, serverHeld, serverSame, ?_⟩
  intro other otherInfo otherHeld same
  have duplicates : mapper.getDupRanksForPolicy other name =
      mapper.getDupRanksForPolicy pRank name :=
    dupRanks_congr otherHeld pHeld same
  rw [ParallelizedShardMapper.serves, duplicates, ParallelizedShardMapper.getDupRanksForPolicy,
    ParallelizedShardMapper.getDupRanksForRollout, serving, Option.some.injEq]

theorem ShardFits.inside {info : ShardInfo} (fits : ShardFits shape info)
    (covers : (shardBox shape info).Covers coordinates) :
    (shardBox shape ∅).Covers coordinates := by
  rw [shardBox, Box.covers_ofShape] at covers ⊢
  intro dim size found
  have here := covers dim size found
  have fit := fits.at found
  obtain ⟨unit, rfl⟩ := fit.divides
  have unitEq : (sliceAt info dim).totalSize * unit / (sliceAt info dim).totalSize = unit :=
    Nat.mul_div_cancel_left unit fit.totalSize_pos
  have bound : unit * (sliceAt info dim).offset + unit * (sliceAt info dim).length ≤
      (sliceAt info dim).totalSize * unit := by
    rw [← Nat.mul_add, Nat.mul_comm (sliceAt info dim).totalSize]
    exact Nat.mul_le_mul_left unit fit.inside
  simp only [DimSliceInfo.window, Window.Covers, unitEq] at here
  have whole : sliceAt (∅ : ShardInfo) dim = { offset := 0, totalSize := 1 } :=
    sliceAt_of_notMem (by simp [Dict.keys_empty])
  rw [whole]
  simp only [DimSliceInfo.window, Window.Covers, Nat.div_one, Nat.mul_zero, Nat.mul_one,
    Nat.zero_add, Nat.zero_le, true_and]
  omega

section

variable (layout : ShardLayout mapper name shape)

include layout

theorem ShardLayout.exchange_of_common (pHeld : mapper.policyShard pRank name = some pInfo)
    (rHeld : mapper.rolloutShard rRank name = some rInfo) (serves : mapper.serves name pRank rRank)
    (inPolicy : (shardBox shape pInfo).Covers coordinates)
    (inRollout : (shardBox shape rInfo).Covers coordinates) :
    ∃ strategys, mapper.exchange name pRank rRank = some strategys := by
  rcases tensorSplitStrategys_spec (layout.policyFits _ _ pHeld)
      (layout.rolloutFits _ _ rHeld) (layout.unify _ _ _ _ pHeld rHeld) with
    ⟨_, disjoint⟩ | ⟨pStrategys, rStrategys, something, _⟩
  · exact absurd (covers_commonBox.mpr ⟨inPolicy, inRollout⟩) (disjoint coordinates)
  · refine ⟨(pStrategys, rStrategys), ?_⟩
    simp only [ParallelizedShardMapper.exchange, pHeld, rHeld, Option.bind_some, something,
      if_pos serves]

/-- Among the policy ranks that hold the part of the tensor around an element of a
rollout shard, one and only one exchanges it. -/
theorem ShardLayout.servedOnce (rHeld : mapper.rolloutShard rRank name = some rInfo)
    (inRollout : (shardBox shape rInfo).Covers coordinates) :
    ∃ server, server < mapper.policyAllRankShardInfos.length ∧
      ∀ pRank, ((mapper.exchange name pRank rRank).any fun strategys =>
        selects (shardBox shape rInfo) strategys.2 coordinates) = decide (pRank = server) := by
  have inTensor := (layout.rolloutFits _ _ rHeld).inside inRollout
  obtain ⟨owner, ownerInfo, ownerHeld, inOwner⟩ :=
    layout.cover ⟨rRank, rInfo, rHeld⟩ coordinates inTensor
  obtain ⟨server, serverInfo, serverHeld, serverSame, serves_iff⟩ :=
    exists_server ownerHeld rHeld
  refine ⟨server, lt_length_of_shardOf serverHeld, ?_⟩
  intro pRank
  rw [Bool.eq_iff_iff, decide_eq_true_eq, Option.any_eq_true]
  constructor
  · rintro ⟨strategys, exchanged, selected⟩
    obtain ⟨pInfo, rInfo', pHeld, rHeld', serves, _, rSlice⟩ :=
      exchange_slices (layout.policyFits _) (layout.rolloutFits _) exchanged
    rw [rHeld] at rHeld'
    cases rHeld'
    rw [selects, rSlice] at selected
    have common := covers_commonBox.mp (of_decide_eq_true selected)
    have same : pInfo.sameMapping ownerInfo = true := by
      rcases layout.equalOrDisjoint _ _ _ _ pHeld ownerHeld with same | disjoint
      · exact same
      · exact absurd ⟨common.1, inOwner⟩ (disjoint coordinates)
    exact ((serves_iff pRank pInfo pHeld same).mp serves).symm
  · rintro rfl
    have inServer : (shardBox shape serverInfo).Covers coordinates := by
      rw [shardBox, sliceAt_congr serverSame]
      exact inOwner
    obtain ⟨strategys, exchanged⟩ := layout.exchange_of_common serverHeld rHeld
      ((serves_iff pRank serverInfo serverHeld serverSame).mpr rfl) inServer inRollout
    refine ⟨strategys, exchanged, ?_⟩
    obtain ⟨pInfo, rInfo', pHeld, rHeld', _, _, rSlice⟩ :=
      exchange_slices (layout.policyFits _) (layout.rolloutFits _) exchanged
    obtain rfl : serverInfo = pInfo := Option.some.inj (serverHeld.symm.trans pHeld)
    obtain rfl : rInfo = rInfo' := Option.some.inj (rHeld.symm.trans rHeld')
    rw [selects, rSlice]
    exact decide_eq_true (covers_commonBox.mpr ⟨inServer, inRollout⟩)

/-- The receive instructions tile the shard. -/
theorem ShardLayout.tiles_receives (rHeld : mapper.rolloutShard rRank name = some rInfo) :
    Tiles (shardBox shape rInfo) (mapper.receives rRank name) := by
  have counted : ∀ coordinates, (mapper.receives rRank name).countP (fun inst =>
      selects (shardBox shape rInfo) inst.sliceStrategy coordinates) =
      (List.range mapper.policyAllRankShardInfos.length).countP fun pRank =>
        (mapper.exchange name pRank rRank).any fun strategys =>
          selects (shardBox shape rInfo) strategys.2 coordinates := by
    intro coordinates
    rw [ParallelizedShardMapper.receives, countP_filterMap]
    congr 1
    funext pRank
    cases mapper.exchange name pRank rRank <;> rfl
  refine ⟨?_, ?_⟩
  · intro inst inside
    obtain ⟨pRank, _, made⟩ := mem_filterMap.mp inside
    obtain ⟨strategys, exchanged, rfl⟩ := Option.map_eq_some_iff.mp made
    obtain ⟨_, rInfo', _, rHeld', _, _, rSlice⟩ :=
      exchange_slices (layout.policyFits _) (layout.rolloutFits _) exchanged
    rw [rHeld] at rHeld'
    cases rHeld'
    exact ⟨_, rSlice⟩
  · intro coordinates
    rw [counted]
    by_cases inside : (shardBox shape rInfo).Covers coordinates
    · obtain ⟨server, bound, only⟩ := layout.servedOnce rHeld inside
      rw [if_pos inside]
      have sameTest : (fun pRank => (mapper.exchange name pRank rRank).any fun strategys =>
          selects (shardBox shape rInfo) strategys.2 coordinates) =
          fun pRank => pRank == server := by
        funext pRank
        rw [only pRank]
        rfl
      rw [sameTest]
      exact count_eq_one_of_mem nodup_range (mem_range.mpr bound)
    · rw [if_neg inside, countP_eq_zero]
      intro pRank _
      rw [Option.any_eq_true]
      rintro ⟨strategys, exchanged, selected⟩
      obtain ⟨_, rInfo', _, rHeld', _, _, rSlice⟩ :=
        exchange_slices (layout.policyFits _) (layout.rolloutFits _) exchanged
      rw [rHeld] at rHeld'
      cases rHeld'
      rw [selects, rSlice] at selected
      exact inside (covers_commonBox.mp (of_decide_eq_true selected)).2

theorem ShardLayout.receives_ne_nil (rHeld : mapper.rolloutShard rRank name = some rInfo)
    (inRollout : (shardBox shape rInfo).Covers coordinates) :
    mapper.receives rRank name ≠ [] := by
  have once := (layout.tiles_receives rHeld).once coordinates
  rw [if_pos inRollout] at once
  intro nothing
  rw [nothing] at once
  cases once

theorem ShardLayout.matching (rHeld : mapper.rolloutShard rRank name = some rInfo)
    {recv : WeightSyncInstruction} (listed : recv ∈ mapper.receives rRank name) :
    recv.rolloutRank = rRank ∧ ∃ pInfo send view,
      mapper.policyShard recv.policyRank name = some pInfo ∧
      ((mapper.sends recv.policyRank name).filter fun inst =>
        decide (inst.rolloutRank = rRank)) = [send] ∧
      cosmosSlice (shardBox shape pInfo) send.sliceStrategy = .ok view ∧
      cosmosSlice (shardBox shape rInfo) recv.sliceStrategy = .ok view := by
  obtain ⟨pRank, _, made⟩ := mem_filterMap.mp listed
  obtain ⟨strategys, exchanged, rfl⟩ := Option.map_eq_some_iff.mp made
  obtain ⟨pInfo, rInfo', pHeld, rHeld', _, pSlice, rSlice⟩ :=
    exchange_slices (layout.policyFits _) (layout.rolloutFits _) exchanged
  obtain rfl : rInfo = rInfo' := Option.some.inj (rHeld.symm.trans rHeld')
  refine ⟨rfl, pInfo, ⟨pRank, rRank, strategys.1⟩, commonBox shape pInfo rInfo, pHeld, ?_,
    pSlice, rSlice⟩
  rw [filter_sends, exchanged]
  rfl

theorem ShardLayout.transfer_runs (pHeld : mapper.policyShard pRank name = some pInfo)
    (rHeld : mapper.rolloutShard rRank name = some rInfo) :
    ∃ out, mapper.transfer name pRank rRank pInfo rInfo = .ok out := by
  rw [transfer_eq pHeld rHeld]
  rcases tensorSplitStrategys_spec (layout.policyFits _ _ pHeld)
      (layout.rolloutFits _ _ rHeld) (layout.unify _ _ _ _ pHeld rHeld) with
    ⟨nothing, _⟩ | ⟨pStrategys, rStrategys, something, _⟩
  · rw [nothing]
    exact ⟨_, rfl⟩
  · rw [something]
    exact ⟨_, rfl⟩

theorem ShardLayout.sendInstsForParam_runs (pHeld : mapper.policyShard pRank name = some pInfo) :
    ∃ insts, mapper.sendInstsForParam pRank name pInfo = .ok insts := by
  refine ⟨_, collect_eq_ok.mpr ⟨?_, rfl⟩⟩
  rintro ⟨rInfos, rRank⟩ inside
  have stored := mem_zipIdx_iff_getElem?.mp inside
  dsimp only
  cases found : rInfos.get? name with
  | none => exact ⟨[], rfl⟩
  | some rInfo =>
    have rHeld : mapper.rolloutShard rRank name = some rInfo := (shardOf_stored stored).trans found
    obtain ⟨out, transfers⟩ := layout.transfer_runs pHeld rHeld
    exact ⟨_, map_eq_ok.mpr ⟨out, transfers, rfl⟩⟩

theorem ShardLayout.recvInstsForParam_runs (rHeld : mapper.rolloutShard rRank name = some rInfo) :
    ∃ insts, mapper.recvInstsForParam rRank name rInfo = .ok insts := by
  refine ⟨_, collect_eq_ok.mpr ⟨?_, rfl⟩⟩
  rintro ⟨pInfos, pRank⟩ inside
  have stored := mem_zipIdx_iff_getElem?.mp inside
  dsimp only
  cases found : pInfos.get? name with
  | none => exact ⟨[], rfl⟩
  | some pInfo =>
    have pHeld : mapper.policyShard pRank name = some pInfo := (shardOf_stored stored).trans found
    obtain ⟨out, transfers⟩ := layout.transfer_runs pHeld rHeld
    exact ⟨_, map_eq_ok.mpr ⟨out, transfers, rfl⟩⟩

end

end Exchange

section Generation

variable {Name : Type} [DecidableEq Name] {mapper : ParallelizedShardMapper Name}

def LaidOut (mapper : ParallelizedShardMapper Name) : Prop :=
  ∀ name, ∃ shape, ShardLayout mapper name shape

theorem sendEntry_runs (laidOut : LaidOut mapper) {pRank : Nat} {pInfos : RankShardInfos Name}
    (stored : mapper.policyAllRankShardInfos[pRank]? = some pInfos) (name : Name) :
    ∃ entries, mapper.sendEntry pRank pInfos name = .ok entries := by
  unfold ParallelizedShardMapper.sendEntry
  cases found : pInfos.get? name with
  | none => exact ⟨[], rfl⟩
  | some pInfo =>
    have pHeld : mapper.policyShard pRank name = some pInfo := (shardOf_stored stored).trans found
    obtain ⟨shape, layout⟩ := laidOut name
    obtain ⟨insts, runs⟩ := layout.sendInstsForParam_runs pHeld
    exact ⟨_, map_eq_ok.mpr ⟨insts, runs, rfl⟩⟩

theorem generateSend_runs (laidOut : LaidOut mapper) (reported : ParamsReported mapper)
    {pRank : Nat} (bound : pRank < mapper.policyAllRankShardInfos.length) :
    ∃ groups, mapper.generateSendInstsForPolicy pRank = .ok groups := by
  have stored := getElem?_eq_getElem bound
  obtain ⟨sortedParams, listed, _⟩ := reported.policyListed _ _ stored
  have entryRuns := sendEntry_runs laidOut stored
  have singlesRun : ∀ name ∈ sortedParams, ∃ groups,
      mapper.sendSingle pRank mapper.policyAllRankShardInfos[pRank] name = .ok groups := by
    intro name _
    unfold ParallelizedShardMapper.sendSingle
    split
    · exact ⟨[], rfl⟩
    · obtain ⟨entries, runs⟩ := entryRuns name
      exact ⟨_, map_eq_ok.mpr ⟨entries, runs, rfl⟩⟩
  have groupsRun : ∀ group ∈ mapper.paramGroups, ∃ groups,
      mapper.sendGroup pRank mapper.policyAllRankShardInfos[pRank] group = .ok groups := by
    intro group _
    have entries := collect_eq_ok.mpr ⟨fun name (_ : name ∈ group.names) => entryRuns name, rfl⟩
    exact ⟨_, map_eq_ok.mpr ⟨_, entries, rfl⟩⟩
  have singles := collect_eq_ok.mpr ⟨singlesRun, rfl⟩
  have grouped := collect_eq_ok.mpr ⟨groupsRun, rfl⟩
  unfold ParallelizedShardMapper.generateSendInstsForPolicy
  rw [listed, stored]
  dsimp only
  rw [singles]
  exact ⟨_, map_eq_ok.mpr ⟨_, grouped, rfl⟩⟩

section Receive

variable [ToString Name] {rRank : Nat} {rInfos : RankShardInfos Name}

theorem recvEntry_runs (laidOut : LaidOut mapper)
    (stored : mapper.rolloutAllRankShardInfos[rRank]? = some rInfos) {name : Name}
    (received : name ∈ rInfos.keys → mapper.receives rRank name ≠ []) :
    ∃ entries, mapper.recvEntry rRank rInfos name = .ok entries ∧
      (name ∈ rInfos.keys → entries ≠ []) := by
  cases found : rInfos.get? name with
  | none =>
    exact ⟨[], recvEntry_eq_ok.mpr (.inl ⟨found, rfl⟩),
      fun listed => absurd listed (Dict.get?_eq_none_iff.mp found)⟩
  | some rInfo =>
    have rHeld : mapper.rolloutShard rRank name = some rInfo := (shardOf_stored stored).trans found
    obtain ⟨shape, layout⟩ := laidOut name
    obtain ⟨insts, runs⟩ := layout.recvInstsForParam_runs rHeld
    have someInst : insts ≠ [] := by
      rw [recvInstsForParam_ok rHeld runs]
      exact received (Dict.mem_keys_iff_get?.mpr ⟨rInfo, found⟩)
    exact ⟨_, recvEntry_eq_ok.mpr (.inr ⟨rInfo, insts, found, runs, someInst, rfl⟩), by simp⟩

/-- A rollout rank whose parameters are all received from somewhere, and that has a
member of every group, gets its receive instructions. -/
theorem generateRecv_runs (laidOut : LaidOut mapper) (reported : ParamsReported mapper)
    (stored : mapper.rolloutAllRankShardInfos[rRank]? = some rInfos)
    (received : ∀ name ∈ rInfos.keys, mapper.receives rRank name ≠ [])
    (member : ∀ group ∈ mapper.paramGroups, ∃ name ∈ group.names, name ∈ rInfos.keys) :
    ∃ groups, mapper.generateRecvInstsForRollout rRank = .ok groups := by
  obtain ⟨sortedParams, listed, _⟩ := reported.rolloutListed _ _ stored
  have entryRuns : ∀ name, ∃ entries, mapper.recvEntry rRank rInfos name = .ok entries ∧
      (name ∈ rInfos.keys → entries ≠ []) :=
    fun name => recvEntry_runs laidOut stored (received name)
  have singlesRun : ∀ name ∈ sortedParams, ∃ groups,
      mapper.recvSingle rRank rInfos name = .ok groups := by
    intro name _
    by_cases inGroup : name ∈ mapper.paramToParamGroups.keys
    · exact ⟨[], recvSingle_eq_ok.mpr (.inl ⟨inGroup, rfl⟩)⟩
    · obtain ⟨entries, runs, _⟩ := entryRuns name
      exact ⟨_, recvSingle_eq_ok.mpr (.inr ⟨inGroup, entries, runs, rfl⟩)⟩
  have groupsRun : ∀ group ∈ mapper.paramGroups, ∃ groups,
      mapper.recvGroup rRank rInfos group = .ok groups := by
    intro group inside
    have runs : ∀ name ∈ group.names, ∃ entries,
        mapper.recvEntry rRank rInfos name = .ok entries := by
      intro name _
      obtain ⟨entries, runsHere, _⟩ := entryRuns name
      exact ⟨entries, runsHere⟩
    refine ⟨_, recvGroup_eq_ok.mpr ⟨_, collect_eq_ok.mpr ⟨runs, rfl⟩, ?_, rfl⟩⟩
    intro nothing
    obtain ⟨name, inGroup, held⟩ := member group inside
    obtain ⟨part, runsHere, nonempty⟩ := entryRuns name
    have nothingHere := flatMap_eq_nil_iff.mp nothing name inGroup
    rw [generated, runsHere] at nothingHere
    exact nonempty held nothingHere
  have noneLeft : mapper.namesLeftInGroup rInfos sortedParams = [] := by
    rw [ParallelizedShardMapper.namesLeftInGroup, filter_eq_nil_iff]
    intro name _
    by_cases inGroup : name ∈ mapper.paramToParamGroups.keys
    · obtain ⟨group, inside, inNames⟩ := (mapper.grouped_iff name).mp inGroup
      have taken : (mapper.paramGroups.any fun group => decide (name ∈ group.names)) :=
        any_eq_true.mpr ⟨group, inside, decide_eq_true inNames⟩
      simp [taken]
    · simp [inGroup]
  exact ⟨_, generateRecv_eq_ok.mpr ⟨sortedParams, rInfos, _, _, listed, stored,
    collect_eq_ok.mpr ⟨singlesRun, rfl⟩, collect_eq_ok.mpr ⟨groupsRun, rfl⟩, noneLeft, rfl⟩⟩

end Receive

end Generation

section Coverage

variable {Name : Type} [DecidableEq Name]

def entriesFor (groups : List (WeightSyncInstructionsGroup Name)) (name : Name) :
    List (WeightSyncInstructionsPerParam Name) :=
  (entriesOf groups).filter fun entry => decide (entry.paramName = name)

theorem filter_paramEntry (name other : Name) (insts : List WeightSyncInstruction) :
    ((paramEntry other insts).filter fun entry => decide (entry.paramName = name)) =
      if other = name then paramEntry other insts else [] := by
  unfold paramEntry
  by_cases nothing : insts.isEmpty <;> by_cases same : other = name <;> simp [nothing, same]

variable {name : Name} {mapper : ParallelizedShardMapper Name}
  {groups : List (WeightSyncInstructionsGroup Name)}

theorem filter_flatMap_paramEntry {names : List Name} (distinct : names.Nodup)
    (insts : Name → List WeightSyncInstruction) (listed : name ∈ names) :
    ((names.flatMap fun other => paramEntry other (insts other)).filter fun entry =>
      decide (entry.paramName = name)) = paramEntry name (insts name) := by
  rw [filter_flatMap]
  simp only [filter_paramEntry]
  induction names with
  | nil => cases listed
  | cons other rest ih =>
    obtain ⟨fresh, restDistinct⟩ := nodup_cons.mp distinct
    rw [flatMap_cons]
    by_cases here : other = name
    · subst here
      have nothingLater : (rest.flatMap fun later =>
          if later = other then paramEntry later (insts later) else []) = [] := by
        apply flatMap_eq_nil_iff.mpr
        intro later inside
        rw [if_neg]
        rintro rfl
        exact fresh inside
      rw [if_pos rfl, nothingLater, append_nil]
    · have later := (mem_cons.mp listed).resolve_left (Ne.symm here)
      rw [if_neg here, nil_append, ih restDistinct later]

theorem mem_visited {mapper : ParallelizedShardMapper Name} {sortedParams : List Name}
    {name : Name} (listed : name ∈ sortedParams) : name ∈ mapper.visited sortedParams := by
  rw [ParallelizedShardMapper.visited, mem_append]
  by_cases inGroup : name ∈ mapper.paramToParamGroups.keys
  · exact .inr (mem_flatMap.mpr ((mapper.grouped_iff name).mp inGroup))
  · exact .inl (mem_filter.mpr ⟨listed, by simpa using inGroup⟩)

theorem entriesFor_send (reported : ParamsReported mapper) {pRank : Nat} {pInfo : ShardInfo}
    (pHeld : mapper.policyShard pRank name = some pInfo)
    (generates : mapper.generateSendInstsForPolicy pRank = .ok groups) :
    entriesFor groups name = paramEntry name (mapper.sends pRank name) := by
  obtain ⟨pInfos, stored, found⟩ := Option.bind_eq_some_iff.mp pHeld
  obtain ⟨sortedParams, listed, entries⟩ := generateSend_ok generates
  obtain ⟨otherParams, otherListed, covers, distinct⟩ := reported.policyListed _ _ stored
  obtain rfl : otherParams = sortedParams := Option.some.inj (otherListed.symm.trans listed)
  have visits := @mem_visited _ _ mapper _ _
    (covers name (Dict.mem_keys_iff_get?.mpr ⟨pInfo, found⟩))
  rw [entriesFor, entries, filter_flatMap_paramEntry distinct _ visits]

variable [ToString Name]

theorem entriesFor_recv (reported : ParamsReported mapper) {rRank : Nat} {rInfo : ShardInfo}
    (rHeld : mapper.rolloutShard rRank name = some rInfo)
    (generates : mapper.generateRecvInstsForRollout rRank = .ok groups) :
    entriesFor groups name = [⟨name, mapper.receives rRank name⟩] := by
  obtain ⟨rInfos, stored, found⟩ := Option.bind_eq_some_iff.mp rHeld
  have held : name ∈ rInfos.keys := Dict.mem_keys_iff_get?.mpr ⟨rInfo, found⟩
  obtain ⟨sortedParams, otherInfos, listed, otherStored, entries, received⟩ :=
    generateRecv_ok generates
  obtain ⟨otherParams, otherListed, covers, distinct⟩ := reported.rolloutListed _ _ stored
  obtain rfl : otherParams = sortedParams := Option.some.inj (otherListed.symm.trans listed)
  obtain rfl : rInfos = otherInfos := Option.some.inj (stored.symm.trans otherStored)
  have visits := @mem_visited _ _ mapper _ _ (covers name held)
  have some_inst := received name visits held
  rw [entriesFor, entries, filter_flatMap_paramEntry distinct _ visits, paramEntry,
    if_neg (by simpa using some_inst)]

end Coverage

-- Two halves of a vector of four elements, the second one held twice, and two rollout ranks that
-- hold the whole vector.

def firstHalf : ShardInfo := Dict.set ∅ 0 { offset := 0, totalSize := 2 }

def secondHalf : ShardInfo := Dict.set ∅ 0 { offset := 1, totalSize := 2 }

def halvesMapper : ParallelizedShardMapper Nat where
  policyAllRankShardInfos := [Dict.set ∅ 0 firstHalf, Dict.set ∅ 0 secondHalf,
    Dict.set ∅ 0 secondHalf]
  rolloutAllRankShardInfos := [Dict.set ∅ 0 ∅, Dict.set ∅ 0 ∅]
  sortedParamsAllRankPolicy := [[0]]
  sortedParamsAllRankRollout := [[0]]
  ppRankMapPolicy := [0, 0, 0]
  ppRankMapRollout := [0, 0]
  paramToParamGroups := ∅
  paramGroups := []
  grouped_iff := by simp [Dict.keys_empty]

theorem halves_policyShard {pRank name : Nat} {pInfo : ShardInfo}
    (held : halvesMapper.policyShard pRank name = some pInfo) :
    name = 0 ∧ (pInfo = firstHalf ∨ pInfo = secondHalf) := by
  obtain ⟨pInfos, stored, found⟩ := Option.bind_eq_some_iff.mp held
  have inside := mem_of_getElem? stored
  simp only [halvesMapper, mem_cons, not_mem_nil, or_false] at inside
  rcases inside with rfl | rfl | rfl <;> rw [Dict.get?_set] at found <;>
    split at found <;> simp_all

theorem halves_rolloutShard {rRank name : Nat} {rInfo : ShardInfo}
    (held : halvesMapper.rolloutShard rRank name = some rInfo) : name = 0 ∧ rInfo = ∅ := by
  obtain ⟨rInfos, stored, found⟩ := Option.bind_eq_some_iff.mp held
  have inside := mem_of_getElem? stored
  simp only [halvesMapper, mem_cons, not_mem_nil, or_false] at inside
  rcases inside with rfl | rfl <;> rw [Dict.get?_set] at found <;>
    split at found <;> simp_all

theorem halves_fits {info : ShardInfo} (half : info = firstHalf ∨ info = secondHalf) :
    ShardFits [4] info := by
  intro dim sharded
  have here : dim = 0 := by
    rcases half with rfl | rfl <;> simpa [firstHalf, secondHalf, Dict.mem_keys_set] using sharded
  subst here
  refine ⟨4, rfl, ?_⟩
  rcases half with rfl | rfl <;> exact ⟨by decide, by decide, by decide⟩

theorem covers_half {info : ShardInfo} {coordinates : Nat → Nat} :
    (shardBox [4] info).Covers coordinates ↔
      ((sliceAt info 0).window 4).Covers (coordinates 0) := by
  rw [shardBox, Box.covers_ofShape]
  constructor
  · intro covers
    exact covers 0 4 rfl
  · intro covers dim size found
    cases dim with
    | zero => cases found; exact covers
    | succ dim => cases found

theorem halves_layout (name : Nat) : ShardLayout halvesMapper name [4] where
  policyFits := by
    intro pRank pInfo held
    exact halves_fits (halves_policyShard held).2
  rolloutFits := by
    intro rRank rInfo held
    obtain ⟨_, rfl⟩ := halves_rolloutShard held
    intro dim sharded
    cases sharded
  unify := by
    intro pRank pInfo rRank rInfo pHeld rHeld dim
    obtain ⟨_, rfl⟩ := halves_rolloutShard rHeld
    have whole : sliceAt (∅ : ShardInfo) dim = { offset := 0, totalSize := 1 } := rfl
    have half := (halves_fits (halves_policyShard pHeld).2)
    rw [Unify, whole]
    refine ⟨?_, Nat.one_dvd _⟩
    have positive : 0 < (sliceAt pInfo dim).totalSize := by
      cases dim with
      | zero => exact (half.at rfl).totalSize_pos
      | succ dim =>
        rcases (halves_policyShard pHeld).2 with rfl | rfl <;>
          exact Nat.one_pos
    rw [Nat.max_eq_left positive]
  equalOrDisjoint := by
    intro first firstInfo second secondInfo firstHeld secondHeld
    simp only [covers_half]
    rcases (halves_policyShard firstHeld).2 with rfl | rfl <;>
      rcases (halves_policyShard secondHeld).2 with rfl | rfl
    · exact .inl (by decide)
    · refine .inr fun coordinates => ?_
      rintro ⟨⟨_, below⟩, ⟨above, _⟩⟩
      exact absurd (Nat.lt_of_lt_of_le below above) (Nat.lt_irrefl _)
    · refine .inr fun coordinates => ?_
      rintro ⟨⟨above, _⟩, ⟨_, below⟩⟩
      exact absurd (Nat.lt_of_lt_of_le below above) (Nat.lt_irrefl _)
    · exact .inl (by decide)
  cover := by
    rintro ⟨rRank, rInfo, held⟩ coordinates inside
    obtain ⟨rfl, _⟩ := halves_rolloutShard held
    rw [covers_half] at inside
    obtain ⟨above, below⟩ := inside
    by_cases early : coordinates 0 < 2
    · exact ⟨0, firstHalf, rfl, covers_half.mpr ⟨above, early⟩⟩
    · exact ⟨1, secondHalf, rfl, covers_half.mpr ⟨Nat.le_of_not_lt early, below⟩⟩

theorem halves_reported : ParamsReported halvesMapper where
  policyListed := by
    intro pRank pInfos stored
    have bound : pRank < 3 := (List.getElem?_eq_some_iff.mp stored).1
    have held : ∀ name ∈ pInfos.keys, name ∈ [0] := by
      intro name listed
      obtain ⟨pInfo, found⟩ := Dict.mem_keys_iff_get?.mp listed
      have shard : halvesMapper.policyShard pRank name = some pInfo :=
        (shardOf_stored stored).trans found
      simp [(halves_policyShard shard).1]
    refine ⟨[0], ?_, held, by decide⟩
    have stages : pRank = 0 ∨ pRank = 1 ∨ pRank = 2 := by omega
    rcases stages with rfl | rfl | rfl <;> rfl
  rolloutListed := by
    intro rRank rInfos stored
    have bound : rRank < 2 := (List.getElem?_eq_some_iff.mp stored).1
    have held : ∀ name ∈ rInfos.keys, name ∈ [0] := by
      intro name listed
      obtain ⟨rInfo, found⟩ := Dict.mem_keys_iff_get?.mp listed
      have shard : halvesMapper.rolloutShard rRank name = some rInfo :=
        (shardOf_stored stored).trans found
      simp [(halves_rolloutShard shard).1]
    refine ⟨[0], ?_, held, by decide⟩
    have stages : rRank = 0 ∨ rRank = 1 := by omega
    rcases stages with rfl | rfl <;> rfl

theorem halves_generateRecv {rRank : Nat} (bound : rRank < 2) :
    ∃ groups, halvesMapper.generateRecvInstsForRollout rRank = .ok groups := by
  have stored := @getElem?_eq_getElem _ halvesMapper.rolloutAllRankShardInfos rRank bound
  refine generateRecv_runs (fun name => ⟨[4], halves_layout name⟩) halves_reported stored ?_
    (by simp [halvesMapper])
  intro name held
  obtain ⟨rInfo, found⟩ := Dict.mem_keys_iff_get?.mp held
  have rHeld : halvesMapper.rolloutShard rRank name = some rInfo :=
    (shardOf_stored stored).trans found
  obtain ⟨rfl, rfl⟩ := halves_rolloutShard rHeld
  have corner : (shardBox [4] ∅).Covers fun _ => 0 := covers_half.mpr (by decide)
  exact (halves_layout 0).receives_ne_nil rHeld corner

end CosmosRl.Utils
