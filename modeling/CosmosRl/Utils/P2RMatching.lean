import Mathlib.Data.Finset.Sort
import CosmosRl.Utils.P2RCoverage
import CosmosRl.Utils.P2RExecution

/-!
Sends and receives in one common order.

The exchanges of all ranks form one schedule: parameter by parameter in the order of
the visits, and for each parameter by policy rank and rollout rank.  The list of
every rank is its part of this schedule, because the sorted list of its pipeline
stage names the parameters it takes part in, in the same order.
-/

namespace CosmosRl.Utils

open CosmosRl.Foundation List

section Reported

variable {Name : Type} [LinearOrder Name]

structure ShardsFit (mapper : ParallelizedShardMapper Name) (shapes : Name → List Nat) :
    Prop where
  policyFits : ∀ pRank name pInfo, mapper.policyShard pRank name = some pInfo →
    ShardFits (shapes name) pInfo
  rolloutFits : ∀ rRank name rInfo, mapper.rolloutShard rRank name = some rInfo →
    ShardFits (shapes name) rInfo

/-- The list of a pipeline stage is sorted, without repetition, and names the
parameters of the ranks of the stage. -/
structure StagesSorted (mapper : ParallelizedShardMapper Name) : Prop where
  policyStage : ∀ pRank (sortedParams : List Name),
    ((mapper.ppRankMapPolicy[pRank]?).bind fun stage =>
      mapper.sortedParamsAllRankPolicy[stage]?) = some sortedParams →
    sortedParams.Pairwise (· < ·) ∧
      ∀ name pInfo, mapper.policyShard pRank name = some pInfo → name ∈ sortedParams
  rolloutStage : ∀ rRank (sortedParams : List Name),
    ((mapper.ppRankMapRollout[rRank]?).bind fun stage =>
      mapper.sortedParamsAllRankRollout[stage]?) = some sortedParams →
    sortedParams.Pairwise (· < ·) ∧
      ∀ name rInfo, mapper.rolloutShard rRank name = some rInfo → name ∈ sortedParams

end Reported

theorem flatMap_filter_ne_nil {Name Out : Type} (gives : Name → List Out) (names : List Name) :
    (names.filter fun name => !(gives name).isEmpty).flatMap gives = names.flatMap gives := by
  rw [flatMap_filter]
  apply flatMap_congr
  intro name _
  cases gives name <;> simp

section Order

variable {Name Out : Type} [LinearOrder Name]

theorem flatMap_sorted_congr {first second : List Name} (gives : Name → List Out)
    (firstSorted : first.Pairwise (· < ·)) (secondSorted : second.Pairwise (· < ·))
    (inFirst : ∀ name, gives name ≠ [] → name ∈ first)
    (inSecond : ∀ name, gives name ≠ [] → name ∈ second) :
    first.flatMap gives = second.flatMap gives := by
  have sameNames : (first.filter fun name => !(gives name).isEmpty) =
      second.filter fun name => !(gives name).isEmpty := by
    apply (firstSorted.filter _).eq_of_mem_iff (secondSorted.filter _)
    intro name
    rw [mem_filter, mem_filter]
    constructor
    · rintro ⟨_, some_given⟩
      exact ⟨inSecond name (by simpa using some_given), some_given⟩
    · rintro ⟨_, some_given⟩
      exact ⟨inFirst name (by simpa using some_given), some_given⟩
  rw [← flatMap_filter_ne_nil gives first, sameNames, flatMap_filter_ne_nil]

variable (mapper : ParallelizedShardMapper Name)

def ParallelizedShardMapper.allParams : List Name :=
  ((mapper.policyAllRankShardInfos.flatMap Dict.keys).toFinset).sort (· ≤ ·)

variable {mapper}

theorem sorted_allParams : mapper.allParams.Pairwise (· < ·) :=
  (Finset.sortedLT_sort _).pairwise

theorem mem_allParams {pRank : Nat} {name : Name} {pInfo : ShardInfo}
    (held : mapper.policyShard pRank name = some pInfo) : name ∈ mapper.allParams := by
  obtain ⟨pInfos, stored, found⟩ := Option.bind_eq_some_iff.mp held
  rw [ParallelizedShardMapper.allParams, Finset.mem_sort, mem_toFinset, mem_flatMap]
  exact ⟨pInfos, mem_of_getElem? stored, Dict.mem_keys_iff_get?.mpr ⟨pInfo, found⟩⟩

/-- A rank that takes part only in parameters of its sorted list visits them in the
order in which all parameters are visited. -/
theorem flatMap_visited_congr {sortedParams : List Name} (gives : Name → List Out)
    (sorted : sortedParams.Pairwise (· < ·))
    (listed : ∀ name, gives name ≠ [] → name ∈ sortedParams)
    (known : ∀ name, gives name ≠ [] → name ∈ mapper.allParams) :
    (mapper.visited sortedParams).flatMap gives =
      (mapper.visited mapper.allParams).flatMap gives := by
  have ungrouped : ∀ name, (if name ∈ mapper.paramToParamGroups.keys then []
      else gives name) ≠ [] → gives name ≠ [] := by
    intro name
    split
    · exact fun absurdity => absurd rfl absurdity
    · exact id
  rw [flatMap_visited, flatMap_visited]
  congr 1
  exact flatMap_sorted_congr _ sorted sorted_allParams
    (fun name given => listed name (ungrouped name given))
    (fun name given => known name (ungrouped name given))

end Order

theorem operationsOf_ne_nil {Name : Type} {partner : WeightSyncInstruction → Rank} {isSend : Bool}
    {name : Name} {sizeOf : WeightSyncInstruction → List Nat}
    {insts : List WeightSyncInstruction} {wanted : Bool}
    (some_operation : (if wanted then operationsOf partner isSend name sizeOf insts else [])
      ≠ []) : insts ≠ [] := by
  rintro rfl
  cases wanted <;> exact some_operation rfl

section Schedule

variable {Name : Type} [LinearOrder Name] (mapper : ParallelizedShardMapper Name)
  (shapes : Name → List Nat)

namespace ParallelizedShardMapper

def policyTensors (pRank : Nat) (name : Name) : Box :=
  ((mapper.policyShard pRank name).map (shardBox (shapes name))).getD []

def rolloutTensors (rRank : Nat) (name : Name) : Box :=
  ((mapper.rolloutShard rRank name).map (shardBox (shapes name))).getD []

def commonSize (name : Name) (pRank rRank : Nat) : List Nat :=
  match mapper.policyShard pRank name, mapper.rolloutShard rRank name with
  | some pInfo, some rInfo => (commonBox (shapes name) pInfo rInfo).map Window.length
  | _, _ => []

def sliceExchange (name : Name) (pRank rRank : Nat) :
    Option (Exchange Rank (SliceMessage Name)) :=
  (mapper.exchange name pRank rRank).map fun _ =>
    { sender := .policy pRank
      receiver := .rollout rRank
      message := ⟨name, mapper.commonSize shapes name pRank rRank⟩
      distinct := by simp }

def exchangesOf (name : Name) : List (Exchange Rank (SliceMessage Name)) :=
  (List.range mapper.policyAllRankShardInfos.length).flatMap fun pRank =>
    (List.range mapper.rolloutAllRankShardInfos.length).filterMap
      (mapper.sliceExchange shapes name pRank)

def schedule (trainableParams : Name → Bool) (trainableOnly : Bool) :
    List (Exchange Rank (SliceMessage Name)) :=
  ((mapper.visited mapper.allParams).filter fun name =>
    trainableParams name || !trainableOnly).flatMap (mapper.exchangesOf shapes)

end ParallelizedShardMapper

variable {mapper shapes}

variable {name : Name} {pRank rRank : Nat} {strategys : ShardInfo × ShardInfo}
  {groups : List (WeightSyncInstructionsGroup Name)}

theorem ShardsFit.slices (fits : ShardsFit mapper shapes)
    (exchanged : mapper.exchange name pRank rRank = some strategys) :
    ∃ view, cosmosSlice (mapper.policyTensors shapes pRank name) strategys.1 = .ok view ∧
      cosmosSlice (mapper.rolloutTensors shapes rRank name) strategys.2 = .ok view ∧
      view.map Window.length = mapper.commonSize shapes name pRank rRank := by
  obtain ⟨pInfo, rInfo, pHeld, rHeld, _, pSliced, rSliced⟩ :=
    exchange_slices (fits.policyFits pRank name) (fits.rolloutFits rRank name) exchanged
  refine ⟨commonBox (shapes name) pInfo rInfo, ?_, ?_, ?_⟩
  · simpa [ParallelizedShardMapper.policyTensors, pHeld] using pSliced
  · simpa [ParallelizedShardMapper.rolloutTensors, rHeld] using rSliced
  · simp [ParallelizedShardMapper.commonSize, pHeld, rHeld]

theorem side_sliceExchange_policy (name : Name) (pRank other rRank : Nat) :
    ((mapper.sliceExchange shapes name other rRank).bind (Exchange.side (.policy pRank))) =
      if other = pRank then (mapper.exchange name other rRank).map fun _ =>
        ⟨.rollout rRank, true, ⟨name, mapper.commonSize shapes name other rRank⟩⟩
      else none := by
  unfold ParallelizedShardMapper.sliceExchange
  by_cases here : other = pRank
  · subst here
    cases mapper.exchange name other rRank <;> simp [Exchange.side]
  · cases mapper.exchange name other rRank <;> simp [Exchange.side, here]

theorem side_sliceExchange_rollout (name : Name) (pRank rRank other : Nat) :
    ((mapper.sliceExchange shapes name pRank other).bind (Exchange.side (.rollout rRank))) =
      if other = rRank then (mapper.exchange name pRank other).map fun _ =>
        ⟨.policy pRank, false, ⟨name, mapper.commonSize shapes name pRank other⟩⟩
      else none := by
  unfold ParallelizedShardMapper.sliceExchange
  by_cases here : other = rRank
  · subst here
    cases mapper.exchange name pRank other <;> simp [Exchange.side]
  · cases mapper.exchange name pRank other <;> simp [Exchange.side, here]

theorem part_exchangesOf_policy (name : Name) (pRank : Nat) :
    part (mapper.exchangesOf shapes name) (.policy pRank) =
      operationsOf (fun inst => .rollout inst.rolloutRank) true name
        (fun inst => mapper.commonSize shapes name pRank inst.rolloutRank)
        (mapper.sends pRank name) := by
  have parts : part (mapper.exchangesOf shapes name) (.policy pRank) =
      (List.range mapper.policyAllRankShardInfos.length).flatMap fun other =>
        if other = pRank then
          (List.range mapper.rolloutAllRankShardInfos.length).filterMap fun rRank =>
            (mapper.exchange name other rRank).map fun _ =>
              ⟨.rollout rRank, true, ⟨name, mapper.commonSize shapes name other rRank⟩⟩
        else [] := by
    rw [part, ParallelizedShardMapper.exchangesOf, filterMap_flatMap]
    apply flatMap_congr
    intro other _
    rw [filterMap_filterMap]
    simp only [side_sliceExchange_policy]
    split
    · rfl
    · simp
  rw [parts, flatMap_range_only, operationsOf, ParallelizedShardMapper.sends, map_filterMap]
  simp only [Option.map_map]
  split
  · rfl
  · rename_i outside
    symm
    rw [filterMap_eq_nil_iff]
    intro rRank _
    cases exchanged : mapper.exchange name pRank rRank with
    | none => rfl
    | some strategys => exact absurd (exchange_held exchanged).1 outside

theorem part_exchangesOf_rollout (name : Name) (rRank : Nat) :
    part (mapper.exchangesOf shapes name) (.rollout rRank) =
      operationsOf (fun inst => .policy inst.policyRank) false name
        (fun inst => mapper.commonSize shapes name inst.policyRank rRank)
        (mapper.receives rRank name) := by
  rw [part, ParallelizedShardMapper.exchangesOf, filterMap_flatMap, operationsOf,
    ParallelizedShardMapper.receives, map_filterMap, filterMap_eq_flatMap_toList]
  apply flatMap_congr
  intro pRank _
  rw [filterMap_filterMap]
  simp only [side_sliceExchange_rollout]
  rw [filterMap_range_only]
  cases exchanged : mapper.exchange name pRank rRank with
  | none => split <;> rfl
  | some strategys =>
    rw [if_pos (exchange_held exchanged).2]
    rfl

theorem part_schedule (trainableParams : Name → Bool) (trainableOnly : Bool) (rank : Rank) :
    part (mapper.schedule shapes trainableParams trainableOnly) rank =
      (mapper.visited mapper.allParams).flatMap fun name =>
        if trainableParams name || !trainableOnly then
          part (mapper.exchangesOf shapes name) rank
        else [] := by
  rw [part, ParallelizedShardMapper.schedule, filterMap_flatMap, flatMap_filter]
  rfl

theorem held_of_sends (some_send : mapper.sends pRank name ≠ []) :
    ∃ pInfo, mapper.policyShard pRank name = some pInfo := by
  cases held : mapper.policyShard pRank name with
  | none => exact absurd (sends_of_notHeld held) some_send
  | some pInfo => exact ⟨pInfo, rfl⟩

theorem held_of_receives (some_recv : mapper.receives rRank name ≠ []) :
    (∃ rInfo, mapper.rolloutShard rRank name = some rInfo) ∧
      ∃ pRank pInfo, mapper.policyShard pRank name = some pInfo := by
  obtain ⟨inst, listed⟩ := exists_mem_of_ne_nil _ some_recv
  obtain ⟨pRank, _, made⟩ := mem_filterMap.mp listed
  obtain ⟨strategys, exchanged, _⟩ := Option.map_eq_some_iff.mp made
  obtain ⟨pInfo, pHeld, rest⟩ := Option.bind_eq_some_iff.mp exchanged
  obtain ⟨rInfo, rHeld, _⟩ := Option.bind_eq_some_iff.mp rest
  exact ⟨⟨rInfo, rHeld⟩, pRank, pInfo, pHeld⟩

theorem policySends_eq (fits : ShardsFit mapper shapes) (sorted : StagesSorted mapper)
    (trainableParams : Name → Bool) (trainableOnly : Bool)
    (generates : mapper.generateSendInstsForPolicy pRank = .ok groups) :
    policySends (mapper.policyTensors shapes pRank) trainableParams trainableOnly groups =
      .ok (part (mapper.schedule shapes trainableParams trainableOnly) (.policy pRank)) := by
  obtain ⟨sortedParams, listed, entries⟩ := generateSend_ok generates
  obtain ⟨inOrder, complete⟩ := sorted.policyStage pRank sortedParams listed
  have slices : ∀ name, ∀ inst ∈ mapper.sends pRank name, ∃ view,
      cosmosSlice (mapper.policyTensors shapes pRank name) inst.sliceStrategy = .ok view ∧
        view.map Window.length = mapper.commonSize shapes name pRank inst.rolloutRank := by
    intro name inst inside
    obtain ⟨rRank, _, made⟩ := mem_filterMap.mp inside
    obtain ⟨strategys, exchanged, rfl⟩ := Option.map_eq_some_iff.mp made
    obtain ⟨view, sliced, _, size⟩ := fits.slices exchanged
    exact ⟨view, sliced, size⟩
  rw [policySends, p2rOperations_eq entries slices, part_schedule, flatMap_filter]
  simp only [part_exchangesOf_policy]
  congr 1
  apply flatMap_visited_congr _ inOrder
  · intro name some_operation
    obtain ⟨pInfo, held⟩ := held_of_sends (operationsOf_ne_nil some_operation)
    exact complete name pInfo held
  · intro name some_operation
    obtain ⟨pInfo, held⟩ := held_of_sends (operationsOf_ne_nil some_operation)
    exact mem_allParams held

theorem rolloutRecvs_eq [ToString Name] (fits : ShardsFit mapper shapes)
    (sorted : StagesSorted mapper) (trainableParams : Name → Bool) (trainableOnly : Bool)
    (generates : mapper.generateRecvInstsForRollout rRank = .ok groups) :
    rolloutRecvs (mapper.rolloutTensors shapes rRank) trainableParams trainableOnly groups =
      .ok (part (mapper.schedule shapes trainableParams trainableOnly) (.rollout rRank)) := by
  obtain ⟨sortedParams, _, listed, _, entries, _⟩ := generateRecv_ok generates
  obtain ⟨inOrder, complete⟩ := sorted.rolloutStage rRank sortedParams listed
  have slices : ∀ name, ∀ inst ∈ mapper.receives rRank name, ∃ view,
      cosmosSlice (mapper.rolloutTensors shapes rRank name) inst.sliceStrategy = .ok view ∧
        view.map Window.length = mapper.commonSize shapes name inst.policyRank rRank := by
    intro name inst inside
    obtain ⟨pRank, _, made⟩ := mem_filterMap.mp inside
    obtain ⟨strategys, exchanged, rfl⟩ := Option.map_eq_some_iff.mp made
    obtain ⟨view, _, sliced, size⟩ := fits.slices exchanged
    exact ⟨view, sliced, size⟩
  rw [rolloutRecvs, p2rOperations_eq entries slices, part_schedule, flatMap_filter]
  simp only [part_exchangesOf_rollout]
  congr 1
  apply flatMap_visited_congr _ inOrder
  · intro name some_operation
    obtain ⟨⟨rInfo, held⟩, _⟩ := held_of_receives (operationsOf_ne_nil some_operation)
    exact complete name rInfo held
  · intro name some_operation
    obtain ⟨_, pRank, pInfo, held⟩ := held_of_receives (operationsOf_ne_nil some_operation)
    exact mem_allParams held

theorem part_schedule_policy_outside (trainableParams : Name → Bool) (trainableOnly : Bool)
    (outside : ¬ pRank < mapper.policyAllRankShardInfos.length) :
    part (mapper.schedule shapes trainableParams trainableOnly) (.policy pRank) = [] := by
  rw [part_schedule, flatMap_eq_nil_iff]
  intro name _
  have nothing : mapper.sends pRank name = [] := by
    by_contra some_send
    obtain ⟨pInfo, held⟩ := held_of_sends some_send
    exact outside (lt_length_of_shardOf held)
  simp [part_exchangesOf_policy, nothing, operationsOf]

theorem part_schedule_rollout_outside (trainableParams : Name → Bool) (trainableOnly : Bool)
    (outside : ¬ rRank < mapper.rolloutAllRankShardInfos.length) :
    part (mapper.schedule shapes trainableParams trainableOnly) (.rollout rRank) = [] := by
  rw [part_schedule, flatMap_eq_nil_iff]
  intro name _
  have nothing : mapper.receives rRank name = [] := by
    by_contra some_recv
    obtain ⟨⟨rInfo, held⟩, _⟩ := held_of_receives some_recv
    exact outside (lt_length_of_shardOf held)
  simp [part_exchangesOf_rollout, nothing, operationsOf]

end Schedule

def p2rPrograms {Name : Type} (policyWorldSize rolloutWorldSize : Nat)
    (sends recvs : Nat → List (Communication Rank (SliceMessage Name))) :
    Programs Rank (SliceMessage Name)
  | .policy pRank => if pRank < policyWorldSize then sends pRank else []
  | .rollout rRank => if rRank < rolloutWorldSize then recvs rRank else []

/-- Once the lists of all ranks have been generated, every worker can slice its
tensors as instructed, what a policy rank sends to a rollout rank is what that rank
receives from it, in order, and executing all lists with rendezvous communication
never reaches a cyclic wait: the two sides of a rendezvous agree, something is
possible until all lists are completed, and they can be. -/
theorem p2rMatching {Name : Type} [LinearOrder Name] [ToString Name]
    (mapper : ParallelizedShardMapper Name) (shapes : Name → List Nat)
    (fits : ShardsFit mapper shapes) (sorted : StagesSorted mapper)
    (trainableParams : Name → Bool) (trainableOnly : Bool)
    (sendInsts recvInsts : Nat → List (WeightSyncInstructionsGroup Name))
    (sendsGenerated : ∀ pRank, pRank < mapper.policyAllRankShardInfos.length →
      mapper.generateSendInstsForPolicy pRank = .ok (sendInsts pRank))
    (recvsGenerated : ∀ rRank, rRank < mapper.rolloutAllRankShardInfos.length →
      mapper.generateRecvInstsForRollout rRank = .ok (recvInsts rRank)) :
    ∃ sends recvs : Nat → List (Communication Rank (SliceMessage Name)),
      (∀ pRank, pRank < mapper.policyAllRankShardInfos.length →
        policySends (mapper.policyTensors shapes pRank) trainableParams trainableOnly
          (sendInsts pRank) = .ok (sends pRank)) ∧
      (∀ rRank, rRank < mapper.rolloutAllRankShardInfos.length →
        rolloutRecvs (mapper.rolloutTensors shapes rRank) trainableParams trainableOnly
          (recvInsts rRank) = .ok (recvs rRank)) ∧
      (∀ pRank rRank, sentTo (sends pRank) (.rollout rRank) =
        receivedFrom (recvs rRank) (.policy pRank)) ∧
      ∀ programs, Relation.ReflTransGen Programs.Step
          (p2rPrograms mapper.policyAllRankShardInfos.length
            mapper.rolloutAllRankShardInfos.length sends recvs) programs →
        ¬ programs.CyclicWait ∧ programs.Agree ∧
          (programs.Completed ∨ ∃ next, programs.Step next) ∧
          ∃ final, Relation.ReflTransGen Programs.Step programs final ∧ final.Completed := by
  let schedule := mapper.schedule shapes trainableParams trainableOnly
  refine ⟨fun pRank => part schedule (.policy pRank), fun rRank => part schedule (.rollout rRank),
    ?_, ?_, ?_, ?_⟩
  · intro pRank bound
    exact policySends_eq fits sorted trainableParams trainableOnly (sendsGenerated pRank bound)
  · intro rRank bound
    exact rolloutRecvs_eq fits sorted trainableParams trainableOnly (recvsGenerated rRank bound)
  · intro pRank rRank
    exact sentTo_part schedule (.policy pRank) (.rollout rRank)
  · intro programs reachable
    have follows : (p2rPrograms mapper.policyAllRankShardInfos.length
        mapper.rolloutAllRankShardInfos.length (fun pRank => part schedule (.policy pRank))
        fun rRank => part schedule (.rollout rRank)).Follows schedule := by
      intro rank
      cases rank with
      | policy pRank =>
        dsimp only [p2rPrograms]
        split
        · rfl
        · rename_i outside
          exact (part_schedule_policy_outside trainableParams trainableOnly outside).symm
      | rollout rRank =>
        dsimp only [p2rPrograms]
        split
        · rfl
        · rename_i outside
          exact (part_schedule_rollout_outside trainableParams trainableOnly outside).symm
    obtain ⟨remaining, here⟩ := follows.reachable reachable
    exact ⟨here.not_cyclicWait, here.agree, here.progress, here.completes⟩

-- The two halves again: three policy ranks send to two rollout ranks.

theorem halves_fit : ShardsFit halvesMapper fun _ => [4] where
  policyFits := fun pRank name => (halves_layout name).policyFits pRank
  rolloutFits := fun rRank name => (halves_layout name).rolloutFits rRank

theorem halves_sorted : StagesSorted halvesMapper where
  policyStage := by
    intro pRank sortedParams listed
    obtain ⟨stage, _, found⟩ := Option.bind_eq_some_iff.mp listed
    have only := mem_of_getElem? found
    simp only [halvesMapper, mem_singleton] at only
    subst only
    refine ⟨by simp, fun name pInfo held => ?_⟩
    simp [(halves_policyShard held).1]
  rolloutStage := by
    intro rRank sortedParams listed
    obtain ⟨stage, _, found⟩ := Option.bind_eq_some_iff.mp listed
    have only := mem_of_getElem? found
    simp only [halvesMapper, mem_singleton] at only
    subst only
    refine ⟨by simp, fun name rInfo held => ?_⟩
    simp [(halves_rolloutShard held).1]

theorem p2rMatching_halves :
    ∃ sendInsts recvInsts : Nat → List (WeightSyncInstructionsGroup Nat),
    ∃ sends recvs : Nat → List (Communication Rank (SliceMessage Nat)),
      (∀ pRank, pRank < 3 →
        halvesMapper.generateSendInstsForPolicy pRank = .ok (sendInsts pRank) ∧
        policySends (halvesMapper.policyTensors (fun _ => [4]) pRank) (fun _ => true) true
          (sendInsts pRank) = .ok (sends pRank)) ∧
      (∀ rRank, rRank < 2 →
        halvesMapper.generateRecvInstsForRollout rRank = .ok (recvInsts rRank) ∧
        rolloutRecvs (halvesMapper.rolloutTensors (fun _ => [4]) rRank) (fun _ => true) true
          (recvInsts rRank) = .ok (recvs rRank)) ∧
      ∀ programs, Relation.ReflTransGen Programs.Step (p2rPrograms 3 2 sends recvs) programs →
        ¬ programs.CyclicWait := by
  have laidOut : LaidOut halvesMapper := fun name => ⟨[4], halves_layout name⟩
  have sendsRun : ∀ pRank, ∃ groups, pRank < 3 →
      halvesMapper.generateSendInstsForPolicy pRank = .ok groups := by
    intro pRank
    by_cases bound : pRank < 3
    · obtain ⟨groups, generates⟩ := generateSend_runs laidOut halves_reported bound
      exact ⟨groups, fun _ => generates⟩
    · exact ⟨[], fun inside => absurd inside bound⟩
  have recvsRun : ∀ rRank, ∃ groups, rRank < 2 →
      halvesMapper.generateRecvInstsForRollout rRank = .ok groups := by
    intro rRank
    by_cases bound : rRank < 2
    · obtain ⟨groups, generates⟩ := halves_generateRecv bound
      exact ⟨groups, fun _ => generates⟩
    · exact ⟨[], fun inside => absurd inside bound⟩
  choose sendInsts sendsGenerated using sendsRun
  choose recvInsts recvsGenerated using recvsRun
  obtain ⟨sends, recvs, sent, received, _, safe⟩ := p2rMatching halvesMapper (fun _ => [4])
    halves_fit halves_sorted (fun _ => true) true sendInsts recvInsts sendsGenerated
    recvsGenerated
  exact ⟨sendInsts, recvInsts, sends, recvs,
    fun pRank bound => ⟨sendsGenerated pRank bound, sent pRank bound⟩,
    fun rRank bound => ⟨recvsGenerated rRank bound, received rRank bound⟩,
    fun programs reachable => (safe programs reachable).1⟩

end CosmosRl.Utils
