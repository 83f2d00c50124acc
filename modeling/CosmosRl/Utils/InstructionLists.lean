import CosmosRl.Utils.ShardTransfer

/-!
The instruction lists of both sides, written out.

Both generators visit the parameters in the order of the sorted list and then of
the groups, and both instruct exactly the same exchanges: a pair of ranks whose
shards overlap and that are assigned to each other.
-/

namespace CosmosRl.Utils

open CosmosRl.Foundation List

def generated {Item Out : Type} (generate : Item → Except MapperError (List Out))
    (item : Item) : List Out :=
  match generate item with
  | .ok out => out
  | .error _ => []

variable {Item Out : Type} {generate : Item → Except MapperError (List Out)} {items : List Item}

theorem collect_eq_ok {out : List Out} :
    collect generate items = .ok out ↔
      (∀ item ∈ items, ∃ part, generate item = .ok part) ∧
        out = items.flatMap (generated generate) := by
  induction items generalizing out with
  | nil => simp [collect, eq_comm]
  | cons item rest ih =>
    unfold collect
    cases first : generate item with
    | error exn =>
      simp [first]
    | ok part =>
      cases later : collect generate rest with
      | error exn =>
        have fails : ¬ ∀ other ∈ rest, ∃ part, generate other = .ok part := by
          intro runs
          have succeeds := (@ih (rest.flatMap (generated generate))).mpr ⟨runs, rfl⟩
          rw [later] at succeeds
          cases succeeds
        simp only [reduceCtorEq, forall_mem_cons, false_iff, not_and]
        exact fun runs => absurd runs.2 fails
      | ok others =>
        obtain ⟨runs, rfl⟩ := ih.mp later
        have head : generated generate item = part := by simp [generated, first]
        simp only [Except.ok.injEq, forall_mem_cons, first, flatMap_cons, head]
        constructor
        · rintro rfl
          exact ⟨⟨⟨part, rfl⟩, runs⟩, rfl⟩
        · rintro ⟨_, rfl⟩
          rfl

theorem collect_eq_flatMap (gives : Item → List Out)
    (runs : ∀ item ∈ items, generate item = .ok (gives item)) :
    collect generate items = .ok (items.flatMap gives) := by
  refine collect_eq_ok.mpr ⟨fun item inside => ⟨gives item, runs item inside⟩, ?_⟩
  apply flatMap_congr
  intro item inside
  rw [generated, runs item inside]

theorem eq_flatMap_of_collect {out : List Out} (gives : Item → List Out)
    (agree : ∀ item part, generate item = .ok part → part = gives item)
    (collected : collect generate items = .ok out) : out = items.flatMap gives := by
  obtain ⟨runs, rfl⟩ := collect_eq_ok.mp collected
  apply flatMap_congr
  intro item inside
  obtain ⟨part, runsHere⟩ := runs item inside
  rw [generated, runsHere]
  exact agree item part runsHere

theorem map_eq_ok {Value : Type} {result : Except MapperError Value}
    {change : Value → Out} {out : Out} :
    result.map change = .ok out ↔ ∃ value, result = .ok value ∧ change value = out := by
  cases result <;> simp [Except.map]

theorem flatMap_zipIdx (items : List Item)
    (yields : Item × Nat → List Out) (chosen : Nat → Option Out)
    (agree : ∀ item position, items[position]? = some item →
      yields (item, position) = (chosen position).toList) :
    items.zipIdx.flatMap yields = (List.range items.length).filterMap chosen := by
  have shifted : ∀ (rest : List Item) (start : Nat),
      (∀ item position, rest[position]? = some item →
        yields (item, start + position) = (chosen (start + position)).toList) →
      (rest.zipIdx start).flatMap yields =
        (List.range' start rest.length).filterMap chosen := by
    intro rest
    induction rest with
    | nil => simp
    | cons item rest ih =>
      intro start agreeFrom
      have here := agreeFrom item 0 rfl
      have later := ih (start + 1) (by
        intro other position found
        have next := agreeFrom other (position + 1) found
        rwa [Nat.add_right_comm, Nat.add_assoc])
      rw [zipIdx_cons, flatMap_cons, length_cons, range'_succ, filterMap_cons, later]
      rw [Nat.add_zero] at here
      rw [here]
      cases chosen start <;> rfl
  rw [range_eq_range']
  apply shifted
  simpa using agree

theorem flatMap_range_only (gives : Nat → List Out) (count target : Nat) :
    ((List.range count).flatMap fun position =>
      if position = target then gives position else []) =
      if target < count then gives target else [] := by
  induction count with
  | zero => rfl
  | succ count ih =>
    rw [range_succ, flatMap_append, ih, flatMap_singleton]
    rcases Nat.lt_trichotomy target count with earlier | rfl | later
    · rw [if_pos earlier, if_pos (Nat.lt_succ_of_lt earlier), if_neg (Nat.ne_of_gt earlier),
        append_nil]
    · simp
    · rw [if_neg (Nat.lt_asymm later), if_neg (Nat.ne_of_lt later), if_neg (by omega),
        append_nil]

theorem filterMap_range_only (chosen : Nat → Option Out) (count target : Nat) :
    ((List.range count).filterMap fun position =>
      if position = target then chosen position else none) =
      if target < count then (chosen target).toList else [] := by
  rw [filterMap_eq_flatMap_toList, ← flatMap_range_only fun position =>
    (chosen position).toList]
  apply flatMap_congr
  intro position _
  split <;> rfl

theorem filter_filterMap_range {chosen : Nat → Option Out} {positionOf : Out → Nat}
    (tagged : ∀ position out, chosen position = some out → positionOf out = position)
    (count target : Nat) :
    ((List.range count).filterMap chosen).filter (fun out => decide (positionOf out = target)) =
      if target < count then (chosen target).toList else [] := by
  rw [filter_filterMap, ← filterMap_range_only chosen count target]
  congr 1
  funext position
  cases found : chosen position with
  | none => simp
  | some out => simp [Option.filter, tagged position out found]

def paramEntry {Name : Type} (name : Name) (insts : List WeightSyncInstruction) :
    List (WeightSyncInstructionsPerParam Name) :=
  if insts.isEmpty then [] else [⟨name, insts⟩]

theorem eq_of_mem_paramEntry {Name : Type} {name : Name} {insts : List WeightSyncInstruction}
    {entry : WeightSyncInstructionsPerParam Name} (listed : entry ∈ paramEntry name insts) :
    entry = ⟨name, insts⟩ := by
  unfold paramEntry at listed
  split at listed
  · cases listed
  · exact mem_singleton.mp listed

section Mapper

variable {Name : Type} [DecidableEq Name] {mapper : ParallelizedShardMapper Name}

namespace ParallelizedShardMapper

variable (mapper)

def policyShard (pRank : Nat) (name : Name) : Option ShardInfo :=
  shardOf mapper.policyAllRankShardInfos pRank name

def rolloutShard (rRank : Nat) (name : Name) : Option ShardInfo :=
  shardOf mapper.rolloutAllRankShardInfos rRank name

def serves (name : Name) (pRank rRank : Nat) : Prop :=
  servingPolicy (mapper.getDupRanksForPolicy pRank name)
    (mapper.getDupRanksForRollout rRank name) rRank = some pRank

instance (name : Name) (pRank rRank : Nat) : Decidable (mapper.serves name pRank rRank) :=
  inferInstanceAs (Decidable (_ = _))

def exchange (name : Name) (pRank rRank : Nat) : Option (ShardInfo × ShardInfo) :=
  (mapper.policyShard pRank name).bind fun pInfo =>
    (mapper.rolloutShard rRank name).bind fun rInfo =>
      match tensorSplitStrategys pInfo rInfo with
      | .ok (some strategys) => if mapper.serves name pRank rRank then some strategys else none
      | _ => none

def sends (pRank : Nat) (name : Name) : List WeightSyncInstruction :=
  (List.range mapper.rolloutAllRankShardInfos.length).filterMap fun rRank =>
    (mapper.exchange name pRank rRank).map fun strategys => ⟨pRank, rRank, strategys.1⟩

def receives (rRank : Nat) (name : Name) : List WeightSyncInstruction :=
  (List.range mapper.policyAllRankShardInfos.length).filterMap fun pRank =>
    (mapper.exchange name pRank rRank).map fun strategys => ⟨pRank, rRank, strategys.2⟩

def visited (sortedParams : List Name) : List Name :=
  sortedParams.filter (fun name => decide (name ∉ mapper.paramToParamGroups.keys)) ++
    mapper.paramGroups.flatMap ParamGroup.names

end ParallelizedShardMapper

variable {allRankShardInfos : List (RankShardInfos Name)} {name : Name} {pRank rRank : Nat}
  {pInfo rInfo : ShardInfo} {insts : List WeightSyncInstruction} {strategys : ShardInfo × ShardInfo}
  {Out : Type} {info : ShardInfo}

theorem lt_length_of_shardOf {rank : Nat} (held : shardOf allRankShardInfos rank name = some info) :
    rank < allRankShardInfos.length := by
  obtain ⟨infos, stored, _⟩ := Option.bind_eq_some_iff.mp held
  exact (List.getElem?_eq_some_iff.mp stored).1

theorem shardOf_stored {infos : RankShardInfos Name} {rank : Nat}
    (stored : allRankShardInfos[rank]? = some infos) :
    shardOf allRankShardInfos rank name = infos.get? name := by
  rw [shardOf, stored]
  rfl

theorem self_mem_dupRanks {rank : Nat} (held : shardOf allRankShardInfos rank name = some info) :
    rank ∈ dupRanks allRankShardInfos rank name := by
  rw [mem_dupRanks held]
  exact ⟨info, held, Dict.sameMapping_iff.mpr fun _ => rfl⟩

section

variable (pHeld : mapper.policyShard pRank name = some pInfo)

include pHeld

theorem transfer_eq (rHeld : mapper.rolloutShard rRank name = some rInfo) :
    mapper.transfer name pRank rRank pInfo rInfo =
      (tensorSplitStrategys pInfo rInfo).map fun strategys =>
        strategys.map fun found => (found,
          if mapper.serves name pRank rRank then ([rRank], [pRank]) else ([], [])) := by
  unfold ParallelizedShardMapper.transfer
  cases tensorSplitStrategys pInfo rInfo with
  | error exn => rfl
  | ok strategys =>
    cases strategys with
    | none => rfl
    | some found =>
      have assigned := policyToRolloutAssign_spec
        (nodup_dupRanks mapper.rolloutAllRankShardInfos rRank name)
        (self_mem_dupRanks pHeld) (self_mem_dupRanks rHeld)
      show (policyToRolloutAssign (dupRanks mapper.policyAllRankShardInfos pRank name)
        (dupRanks mapper.rolloutAllRankShardInfos rRank name) pRank rRank).map _ = _
      rw [assigned]
      rfl

/-- A transfer that has been worked out: nothing passes, or the slices of the
exchange do. -/
theorem transfer_ok {out : Option ((ShardInfo × ShardInfo) × (List Nat × List Nat))}
    (rHeld : mapper.rolloutShard rRank name = some rInfo)
    (runs : mapper.transfer name pRank rRank pInfo rInfo = .ok out) :
    (mapper.exchange name pRank rRank = none ∧
        (out = none ∨ ∃ strategys, out = some (strategys, ([], [])))) ∨
      ∃ strategys, mapper.exchange name pRank rRank = some strategys ∧
        out = some (strategys, ([rRank], [pRank])) := by
  have exchangeEq : mapper.exchange name pRank rRank =
      match tensorSplitStrategys pInfo rInfo with
      | .ok (some strategys) =>
        if mapper.serves name pRank rRank then some strategys else none
      | _ => none := by
    simp only [ParallelizedShardMapper.exchange, pHeld, rHeld, Option.bind_some]
  rw [transfer_eq pHeld rHeld] at runs
  rw [exchangeEq]
  cases split : tensorSplitStrategys pInfo rInfo with
  | error exn =>
    rw [split] at runs
    cases runs
  | ok strategys =>
    rw [split] at runs
    cases strategys with
    | none =>
      cases runs
      exact .inl ⟨rfl, .inl rfl⟩
    | some found =>
      cases runs
      by_cases serves : mapper.serves name pRank rRank
      · exact .inr ⟨found, by simp [serves], by simp [serves]⟩
      · exact .inl ⟨by simp [serves], .inr ⟨found, by simp [serves]⟩⟩

theorem transfer_gives (rHeld : mapper.rolloutShard rRank name = some rInfo)
    {gives : Option ((ShardInfo × ShardInfo) × (List Nat × List Nat)) →
      List WeightSyncInstruction} {inst : ShardInfo × ShardInfo → WeightSyncInstruction}
    (nothing : gives none = []) (unassigned : ∀ found, gives (some (found, ([], []))) = [])
    (assigned : ∀ found, gives (some (found, ([rRank], [pRank]))) = [inst found])
    (runs : (mapper.transfer name pRank rRank pInfo rInfo).map gives = .ok insts) :
    insts = ((mapper.exchange name pRank rRank).map inst).toList := by
  obtain ⟨out, transfers, rfl⟩ := map_eq_ok.mp runs
  rcases transfer_ok pHeld rHeld transfers with
    ⟨none, rfl | ⟨strategys, rfl⟩⟩ | ⟨strategys, something, rfl⟩
  · rw [none, nothing]
    rfl
  · rw [none, unassigned]
    rfl
  · rw [something, assigned]
    rfl

theorem sendInstsForParam_ok (generates : mapper.sendInstsForParam pRank name pInfo = .ok insts) :
    insts = mapper.sends pRank name := by
  obtain ⟨runs, rfl⟩ := collect_eq_ok.mp generates
  apply flatMap_zipIdx
  intro rInfos rRank stored
  obtain ⟨part, runsHere⟩ := runs (rInfos, rRank) (mem_zipIdx_iff_getElem?.mpr stored)
  have held : mapper.rolloutShard rRank name = rInfos.get? name := shardOf_stored stored
  rw [generated, runsHere]
  dsimp only at runsHere ⊢
  cases found : rInfos.get? name with
  | none =>
    rw [found] at runsHere held
    cases runsHere
    simp [ParallelizedShardMapper.exchange, pHeld, held]
  | some rInfo =>
    rw [found] at runsHere held
    exact transfer_gives pHeld held rfl (fun _ => rfl) (fun _ => rfl) runsHere

end

theorem recvInstsForParam_ok (rHeld : mapper.rolloutShard rRank name = some rInfo)
    (generates : mapper.recvInstsForParam rRank name rInfo = .ok insts) :
    insts = mapper.receives rRank name := by
  obtain ⟨runs, rfl⟩ := collect_eq_ok.mp generates
  apply flatMap_zipIdx
  intro pInfos pRank stored
  obtain ⟨part, runsHere⟩ := runs (pInfos, pRank) (mem_zipIdx_iff_getElem?.mpr stored)
  have held : mapper.policyShard pRank name = pInfos.get? name := shardOf_stored stored
  rw [generated, runsHere]
  dsimp only at runsHere ⊢
  cases found : pInfos.get? name with
  | none =>
    rw [found] at runsHere held
    cases runsHere
    simp [ParallelizedShardMapper.exchange, held]
  | some pInfo =>
    rw [found] at runsHere held
    exact transfer_gives held rHeld rfl (fun _ => rfl) (fun _ => rfl) runsHere

theorem exchange_held (exchanged : mapper.exchange name pRank rRank = some strategys) :
    pRank < mapper.policyAllRankShardInfos.length ∧
      rRank < mapper.rolloutAllRankShardInfos.length := by
  obtain ⟨pInfo, pHeld, rest⟩ := Option.bind_eq_some_iff.mp exchanged
  obtain ⟨rInfo, rHeld, _⟩ := Option.bind_eq_some_iff.mp rest
  exact ⟨lt_length_of_shardOf pHeld, lt_length_of_shardOf rHeld⟩

/-- The slices of an exchange between two shards of a tensor show the elements the
shards have in common. -/
theorem exchange_slices {shape : List Nat}
    (policyFits : ∀ pInfo, mapper.policyShard pRank name = some pInfo → ShardFits shape pInfo)
    (rolloutFits : ∀ rInfo, mapper.rolloutShard rRank name = some rInfo →
      ShardFits shape rInfo) (exchanged : mapper.exchange name pRank rRank = some strategys) :
    ∃ pInfo rInfo, mapper.policyShard pRank name = some pInfo ∧
      mapper.rolloutShard rRank name = some rInfo ∧ mapper.serves name pRank rRank ∧
      cosmosSlice (shardBox shape pInfo) strategys.1 = .ok (commonBox shape pInfo rInfo) ∧
      cosmosSlice (shardBox shape rInfo) strategys.2 =
        .ok (commonBox shape pInfo rInfo) := by
  obtain ⟨pInfo, pHeld, rest⟩ := Option.bind_eq_some_iff.mp exchanged
  obtain ⟨rInfo, rHeld, found⟩ := Option.bind_eq_some_iff.mp rest
  refine ⟨pInfo, rInfo, pHeld, rHeld, ?_⟩
  cases split : tensorSplitStrategys pInfo rInfo with
  | error exn =>
    rw [split] at found
    cases found
  | ok out =>
    rw [split] at found
    cases out with
    | none => cases found
    | some out =>
      dsimp only at found
      split at found
      · rename_i serves
        cases found
        rcases tensorSplitStrategys_spec (policyFits _ pHeld) (rolloutFits _ rHeld)
            (unify_of_split split) with ⟨nothing, _⟩ | ⟨_, _, something, pSlice, rSlice⟩
        · rw [split] at nothing
          cases nothing
        · rw [split] at something
          cases something
          exact ⟨serves, pSlice, rSlice⟩
      · cases found

/-- Of the instructions for a parameter, those between a given pair of ranks are the
one of their exchange. -/
theorem filter_sends (pRank rRank : Nat) (name : Name) :
    ((mapper.sends pRank name).filter fun inst => decide (inst.rolloutRank = rRank)) =
      ((mapper.exchange name pRank rRank).map fun strategys =>
        ⟨pRank, rRank, strategys.1⟩).toList := by
  rw [ParallelizedShardMapper.sends, filter_filterMap_range]
  · split
    · rfl
    · cases exchanged : mapper.exchange name pRank rRank with
      | none => rfl
      | some strategys => exact absurd (exchange_held exchanged).2 ‹_›
  · intro other inst made
    obtain ⟨_, _, rfl⟩ := Option.map_eq_some_iff.mp made
    rfl

theorem flatMap_generated {Part : Type}
    {generate : Item → Except MapperError (List Part)} {items : List Item}
    (parts : Part → List Out) (entries : Item → List Out)
    (agree : ∀ item ∈ items, ∀ given, generate item = .ok given →
      given.flatMap parts = entries item)
    (runs : ∀ item ∈ items, ∃ given, generate item = .ok given) :
    (items.flatMap (generated generate)).flatMap parts = items.flatMap entries := by
  rw [flatMap_assoc]
  apply flatMap_congr
  intro item inside
  obtain ⟨given, runsHere⟩ := runs item inside
  rw [generated, runsHere]
  exact agree item inside given runsHere

theorem flatMap_filter (test : Item → Bool) (entries : Item → List Out) (items : List Item) :
    (items.filter test).flatMap entries =
      items.flatMap fun item => if test item then entries item else [] := by
  induction items with
  | nil => rfl
  | cons item rest ih =>
    cases passes : test item <;> simp [passes, ih]

def entriesOf (groups : List (WeightSyncInstructionsGroup Name)) :
    List (WeightSyncInstructionsPerParam Name) :=
  groups.flatMap WeightSyncInstructionsGroup.paramInstructions

theorem flatMap_visited (sortedParams : List Name) (entries : Name → List Out) :
    (mapper.visited sortedParams).flatMap entries =
      (sortedParams.flatMap fun name =>
        if name ∈ mapper.paramToParamGroups.keys then [] else entries name) ++
        mapper.paramGroups.flatMap fun group => group.names.flatMap entries := by
  rw [ParallelizedShardMapper.visited, flatMap_append, flatMap_filter, flatMap_assoc]
  congr 1
  apply flatMap_congr
  intro name _
  by_cases grouped : name ∈ mapper.paramToParamGroups.keys <;> simp [grouped]

theorem sends_of_notHeld
    (notHeld : mapper.policyShard pRank name = none) : mapper.sends pRank name = [] := by
  simp [ParallelizedShardMapper.sends, ParallelizedShardMapper.exchange, notHeld]

theorem receives_of_notHeld
    (notHeld : mapper.rolloutShard rRank name = none) : mapper.receives rRank name = [] := by
  have nothing : ∀ pRank, mapper.exchange name pRank rRank = none := by
    intro pRank
    rw [ParallelizedShardMapper.exchange, notHeld]
    cases mapper.policyShard pRank name <;> rfl
  simp [ParallelizedShardMapper.receives, nothing]

theorem sendEntry_ok {pInfos : RankShardInfos Name}
    {entries : List (WeightSyncInstructionsPerParam Name)}
    (stored : mapper.policyAllRankShardInfos[pRank]? = some pInfos)
    (generates : mapper.sendEntry pRank pInfos name = .ok entries) :
    entries = paramEntry name (mapper.sends pRank name) := by
  have held : mapper.policyShard pRank name = pInfos.get? name := shardOf_stored stored
  unfold ParallelizedShardMapper.sendEntry at generates
  cases found : pInfos.get? name with
  | none =>
    rw [found] at generates held
    cases generates
    rw [sends_of_notHeld held]
    rfl
  | some pInfo =>
    rw [found] at generates held
    obtain ⟨insts, runs, rfl⟩ := map_eq_ok.mp generates
    rw [sendInstsForParam_ok held runs]
    rfl

/-- The send instructions of a policy rank. -/
theorem generateSend_ok {groups : List (WeightSyncInstructionsGroup Name)}
    (generates : mapper.generateSendInstsForPolicy pRank = .ok groups) :
    ∃ sortedParams, ((mapper.ppRankMapPolicy[pRank]?).bind fun stage =>
        mapper.sortedParamsAllRankPolicy[stage]?) = some sortedParams ∧
      entriesOf groups = (mapper.visited sortedParams).flatMap fun name =>
        paramEntry name (mapper.sends pRank name) := by
  unfold ParallelizedShardMapper.generateSendInstsForPolicy at generates
  split at generates
  · rename_i sortedParams pInfos listed stored
    refine ⟨sortedParams, listed, ?_⟩
    cases singles : collect (mapper.sendSingle pRank pInfos) sortedParams with
    | error exn =>
      rw [singles] at generates
      cases generates
    | ok singleGroups =>
      rw [singles] at generates
      obtain ⟨groupGroups, grouped, rfl⟩ := map_eq_ok.mp generates
      obtain ⟨singlesRun, rfl⟩ := collect_eq_ok.mp singles
      obtain ⟨groupsRun, rfl⟩ := collect_eq_ok.mp grouped
      rw [entriesOf, flatMap_append, flatMap_visited]
      congr 1
      · apply flatMap_generated _ _ _ singlesRun
        intro name _ given runs
        unfold ParallelizedShardMapper.sendSingle at runs
        by_cases inGroup : name ∈ mapper.paramToParamGroups.keys
        · rw [if_pos inGroup] at runs ⊢
          cases runs
          rfl
        · rw [if_neg inGroup] at runs ⊢
          obtain ⟨entries, entry, rfl⟩ := map_eq_ok.mp runs
          rw [← sendEntry_ok stored entry]
          cases entries <;> simp
      · apply flatMap_generated _ _ _ groupsRun
        intro group _ given runs
        obtain ⟨entries, collected, rfl⟩ := map_eq_ok.mp runs
        rw [eq_flatMap_of_collect _ (fun _ _ entry => sendEntry_ok stored entry) collected]
        cases group.names.flatMap fun name =>
          paramEntry name (mapper.sends pRank name) <;> simp
  · cases generates

section Receive

variable [ToString Name]

variable {rRank : Nat} {groups : List (WeightSyncInstructionsGroup Name)}
  {rInfos : RankShardInfos Name}

theorem recvEntry_eq_ok {entries : List (WeightSyncInstructionsPerParam Name)} :
    mapper.recvEntry rRank rInfos name = .ok entries ↔
      (rInfos.get? name = none ∧ [] = entries) ∨
      ∃ rInfo insts, rInfos.get? name = some rInfo ∧
        mapper.recvInstsForParam rRank name rInfo = .ok insts ∧ insts ≠ [] ∧
        [⟨name, insts⟩] = entries := by
  unfold ParallelizedShardMapper.recvEntry
  cases rInfos.get? name with
  | none => simp
  | some rInfo =>
    cases runs : mapper.recvInstsForParam rRank name rInfo with
    | error exn => simp [runs]
    | ok insts => by_cases nothing : insts = [] <;> simp [runs, nothing]

/-- A parameter outside the groups gets an entry of its own. -/
theorem recvSingle_eq_ok :
    mapper.recvSingle rRank rInfos name = .ok groups ↔
      (name ∈ mapper.paramToParamGroups.keys ∧ [] = groups) ∨
      (name ∉ mapper.paramToParamGroups.keys ∧ ∃ entries,
        mapper.recvEntry rRank rInfos name = .ok entries ∧
        (entries.map fun entry => ⟨[entry]⟩) = groups) := by
  unfold ParallelizedShardMapper.recvSingle ParallelizedShardMapper.recvEntry
  by_cases inGroup : name ∈ mapper.paramToParamGroups.keys
  · cases rInfos.get? name <;> simp [inGroup]
  · cases rInfos.get? name with
    | none => simp [inGroup]
    | some rInfo =>
      cases runs : mapper.recvInstsForParam rRank name rInfo with
      | error exn => simp [runs, inGroup]
      | ok insts => by_cases nothing : insts = [] <;> simp [runs, inGroup, nothing]

theorem recvGroup_eq_ok {group : ParamGroup Name} :
    mapper.recvGroup rRank rInfos group = .ok groups ↔
      ∃ entries, collect (mapper.recvEntry rRank rInfos) group.names = .ok entries ∧
        entries ≠ [] ∧ [⟨entries⟩] = groups := by
  unfold ParallelizedShardMapper.recvGroup
  cases collect (mapper.recvEntry rRank rInfos) group.names with
  | error exn => simp
  | ok entries => by_cases nothing : entries = [] <;> simp [nothing]

theorem generateRecv_eq_ok :
    mapper.generateRecvInstsForRollout rRank = .ok groups ↔
      ∃ sortedParams rInfos singles grouped, ((mapper.ppRankMapRollout[rRank]?).bind fun stage =>
          mapper.sortedParamsAllRankRollout[stage]?) = some sortedParams ∧
        mapper.rolloutAllRankShardInfos[rRank]? = some rInfos ∧
        collect (mapper.recvSingle rRank rInfos) sortedParams = .ok singles ∧
        collect (mapper.recvGroup rRank rInfos) mapper.paramGroups = .ok grouped ∧
        mapper.namesLeftInGroup rInfos sortedParams = [] ∧ singles ++ grouped = groups := by
  unfold ParallelizedShardMapper.generateRecvInstsForRollout
  cases (mapper.ppRankMapRollout[rRank]?).bind fun stage =>
      mapper.sortedParamsAllRankRollout[stage]? with
  | none => simp
  | some sortedParams =>
    cases mapper.rolloutAllRankShardInfos[rRank]? with
    | none => simp
    | some rInfos =>
      cases singles : collect (mapper.recvSingle rRank rInfos) sortedParams with
      | error exn => simp [singles]
      | ok singleGroups =>
        cases grouped : collect (mapper.recvGroup rRank rInfos) mapper.paramGroups with
        | error exn => simp [singles, grouped]
        | ok groupGroups =>
          by_cases left : mapper.namesLeftInGroup rInfos sortedParams = [] <;>
            simp [singles, grouped, left]

theorem recvEntry_ok {entries : List (WeightSyncInstructionsPerParam Name)}
    (stored : mapper.rolloutAllRankShardInfos[rRank]? = some rInfos)
    (generates : mapper.recvEntry rRank rInfos name = .ok entries) :
    entries = paramEntry name (mapper.receives rRank name) ∧
      (name ∈ rInfos.keys → mapper.receives rRank name ≠ []) := by
  have held : mapper.rolloutShard rRank name = rInfos.get? name := shardOf_stored stored
  rcases recvEntry_eq_ok.mp generates with
    ⟨absent, rfl⟩ | ⟨rInfo, insts, found, runs, someInst, rfl⟩
  · rw [receives_of_notHeld (held.trans absent)]
    exact ⟨rfl, fun listed => absurd listed (Dict.get?_eq_none_iff.mp absent)⟩
  · rw [← recvInstsForParam_ok (held.trans found) runs, paramEntry,
      if_neg (by simpa using someInst)]
    exact ⟨rfl, fun _ => someInst⟩

/-- The receive instructions of a rollout rank. -/
theorem generateRecv_ok (generates : mapper.generateRecvInstsForRollout rRank = .ok groups) :
    ∃ sortedParams rInfos, ((mapper.ppRankMapRollout[rRank]?).bind fun stage =>
        mapper.sortedParamsAllRankRollout[stage]?) = some sortedParams ∧
      mapper.rolloutAllRankShardInfos[rRank]? = some rInfos ∧
      (entriesOf groups = (mapper.visited sortedParams).flatMap fun name =>
        paramEntry name (mapper.receives rRank name)) ∧
      ∀ name ∈ mapper.visited sortedParams, name ∈ rInfos.keys →
        mapper.receives rRank name ≠ [] := by
  obtain ⟨sortedParams, rInfos, _, _, listed, stored, singles, grouped, _, rfl⟩ :=
    generateRecv_eq_ok.mp generates
  obtain ⟨singlesRun, rfl⟩ := collect_eq_ok.mp singles
  obtain ⟨groupsRun, rfl⟩ := collect_eq_ok.mp grouped
  refine ⟨sortedParams, rInfos, listed, stored, ?_, ?_⟩
  · rw [entriesOf, flatMap_append, flatMap_visited]
    congr 1
    · apply flatMap_generated _ _ _ singlesRun
      intro name _ given runs
      rcases recvSingle_eq_ok.mp runs with ⟨inGroup, rfl⟩ | ⟨outside, entries, entry, rfl⟩
      · rw [if_pos inGroup]
        rfl
      · rw [if_neg outside, ← (recvEntry_ok stored entry).1]
        simp [flatMap_map]
    · apply flatMap_generated _ _ _ groupsRun
      intro group _ given runs
      obtain ⟨entries, collected, _, rfl⟩ := recvGroup_eq_ok.mp runs
      rw [flatMap_cons, flatMap_nil, append_nil]
      exact eq_flatMap_of_collect _ (fun _ _ entry => (recvEntry_ok stored entry).1) collected
  · intro name visits listedHere
    rcases mem_append.mp visits with single | inGroups
    · obtain ⟨inSorted, outside⟩ := mem_filter.mp single
      obtain ⟨given, runs⟩ := singlesRun name inSorted
      rcases recvSingle_eq_ok.mp runs with ⟨inGroup, _⟩ | ⟨_, entries, entry, _⟩
      · exact absurd inGroup (of_decide_eq_true outside)
      · exact (recvEntry_ok stored entry).2 listedHere
    · obtain ⟨group, inside, member⟩ := mem_flatMap.mp inGroups
      obtain ⟨given, runs⟩ := groupsRun group inside
      obtain ⟨entries, collected, _⟩ := recvGroup_eq_ok.mp runs
      obtain ⟨part, entry⟩ := (collect_eq_ok.mp collected).1 name member
      exact (recvEntry_ok stored entry).2 listedHere

end Receive

end Mapper

end CosmosRl.Utils
