import Mathlib.Data.List.Sort
import CosmosRl.Utils.DimSliceInfo

/-!
`ParallelizedShardMapper`: which slice of which parameter every policy rank sends
to every rollout rank, and which slice every rollout rank receives from every
policy rank.  The two instruction lists are generated by separate functions from
the same shard infos.
-/

namespace CosmosRl.Utils

open CosmosRl.Foundation

structure WeightSyncInstruction where
  policyRank : Nat
  rolloutRank : Nat
  sliceStrategy : ShardInfo

structure WeightSyncInstructionsPerParam (Name : Type) where
  paramName : Name
  instructions : List WeightSyncInstruction

structure WeightSyncInstructionsGroup (Name : Type) where
  paramInstructions : List (WeightSyncInstructionsPerParam Name)

/-- Parameters with some connection such as coming from the same original one.
Replicas only report groups of several parameters. -/
structure ParamGroup (Name : Type) where
  names : List Name
  nonempty : names ≠ []

abbrev RankShardInfos (Name : Type) := Dict Name ShardInfo

structure ParallelizedShardMapper (Name : Type) [DecidableEq Name] where
  policyAllRankShardInfos : List (RankShardInfos Name)
  rolloutAllRankShardInfos : List (RankShardInfos Name)
  /-- The sorted parameter names of every pipeline stage. -/
  sortedParamsAllRankPolicy : List (List Name)
  sortedParamsAllRankRollout : List (List Name)
  ppRankMapPolicy : List Nat
  ppRankMapRollout : List Nat
  paramToParamGroups : Dict Name (List Name)
  paramGroups : List (ParamGroup Name)
  /-- Both are filled from the same groups. -/
  grouped_iff : ∀ name, name ∈ paramToParamGroups.keys ↔
    ∃ group ∈ paramGroups, name ∈ group.names

/-- `policy_to_rollout_assign`: whether the policy rank sends to the rollout rank,
given the ranks that hold the same shard on either side. -/
def policyToRolloutAssign (policys rollouts : List Nat) (pRank rRank : Nat) :
    Except MapperError (List Nat × List Nat) :=
  if rollouts.length ≤ policys.length then
    -- `zip` ends with the rollouts, where the loop of the source breaks
    .ok ((policys.zip rollouts).foldl (fun assignment pair =>
      if pair.1 = pRank ∧ pair.2 = rRank then ([rRank], [pRank]) else assignment)
      ([], []))
  else if policys.length = 0 then .error .zeroDivisionError
  else
    let groupSize := (rollouts.length - 1) / policys.length + 1
    .ok (policys.zipIdx.foldl (fun assignment indexed =>
      if indexed.1 = pRank ∧
          rRank ∈ (rollouts.drop (indexed.2 * groupSize)).take groupSize then
        ([rRank], [pRank])
      else assignment) ([], []))

section Generators

variable {Name : Type} [DecidableEq Name]

def dupRanks (allRankShardInfos : List (RankShardInfos Name)) (rank : Nat) (name : Name) :
    List Nat :=
  match (allRankShardInfos[rank]?).bind fun infos => infos.get? name with
  | none => []
  | some info =>
    (allRankShardInfos.zipIdx.filter fun indexed =>
      (indexed.1.get? name).any fun other => other.sameMapping info).map Prod.snd

def allDims (pShardInfo rShardInfo : ShardInfo) : List Nat :=
  (pShardInfo.keys ++ rShardInfo.keys.filter fun dim =>
    decide (dim ∉ pShardInfo.keys)).insertionSort (· ≤ ·)

def splitStrategysAt (pShardInfo rShardInfo : ShardInfo) :
    List Nat → ShardInfo × ShardInfo → Except MapperError (Option (ShardInfo × ShardInfo))
  | [], built => .ok (some built)
  | dim :: rest, built =>
    match tensorOverlapInfoAtDim pShardInfo rShardInfo dim with
    | .error exn => .error exn
    | .ok none => .ok none
    | .ok (some (pSplit, rSplit)) =>
      splitStrategysAt pShardInfo rShardInfo rest
        (built.1.set dim pSplit, built.2.set dim rSplit)

def tensorSplitStrategys (pShardInfo rShardInfo : ShardInfo) :
    Except MapperError (Option (ShardInfo × ShardInfo)) :=
  splitStrategysAt pShardInfo rShardInfo (allDims pShardInfo rShardInfo) (∅, ∅)

def collect {Item Out : Type} (generate : Item → Except MapperError (List Out)) :
    List Item → Except MapperError (List Out)
  | [] => .ok []
  | item :: rest =>
    match generate item with
    | .error exn => .error exn
    | .ok first =>
      match collect generate rest with
      | .error exn => .error exn
      | .ok later => .ok (first ++ later)

namespace ParallelizedShardMapper

variable (mapper : ParallelizedShardMapper Name)

def getDupRanksForPolicy (pRank : Nat) (name : Name) : List Nat :=
  dupRanks mapper.policyAllRankShardInfos pRank name

def getDupRanksForRollout (rRank : Nat) (name : Name) : List Nat :=
  dupRanks mapper.rolloutAllRankShardInfos rRank name

/-- What passes between a policy rank and a rollout rank for one parameter: the
slices of both shards, when they overlap and the ranks are assigned. -/
def transfer (name : Name) (pRank rRank : Nat) (pInfo rInfo : ShardInfo) :
    Except MapperError (Option ((ShardInfo × ShardInfo) × (List Nat × List Nat))) :=
  match tensorSplitStrategys pInfo rInfo with
  | .error exn => .error exn
  | .ok none => .ok none
  | .ok (some strategys) =>
    (policyToRolloutAssign (mapper.getDupRanksForPolicy pRank name)
      (mapper.getDupRanksForRollout rRank name) pRank rRank).map fun assignments =>
        some (strategys, assignments)

def sendInstsForParam (pRank : Nat) (name : Name) (pInfo : ShardInfo) :
    Except MapperError (List WeightSyncInstruction) :=
  collect (fun (rInfos, rRank) =>
    match rInfos.get? name with
    | none => .ok []
    | some rInfo =>
      (mapper.transfer name pRank rRank pInfo rInfo).map fun
        | none => []
        | some ((pStrategys, _), (pAssignments, _)) =>
          pAssignments.map fun r => ⟨pRank, r, pStrategys⟩)
    mapper.rolloutAllRankShardInfos.zipIdx

def sendEntry (pRank : Nat) (pInfos : RankShardInfos Name) (name : Name) :
    Except MapperError (List (WeightSyncInstructionsPerParam Name)) :=
  match pInfos.get? name with
  | none => .ok []
  | some pInfo =>
    (mapper.sendInstsForParam pRank name pInfo).map fun insts =>
      if insts.isEmpty then [] else [⟨name, insts⟩]

def sendSingle (pRank : Nat) (pInfos : RankShardInfos Name) (name : Name) :
    Except MapperError (List (WeightSyncInstructionsGroup Name)) :=
  if name ∈ mapper.paramToParamGroups.keys then .ok []
  else (mapper.sendEntry pRank pInfos name).map fun entries =>
    if entries.isEmpty then [] else [⟨entries⟩]

def sendGroup (pRank : Nat) (pInfos : RankShardInfos Name) (group : ParamGroup Name) :
    Except MapperError (List (WeightSyncInstructionsGroup Name)) :=
  (collect (mapper.sendEntry pRank pInfos) group.names).map fun entries =>
    if entries.isEmpty then [] else [⟨entries⟩]

/-- `generate_parallelized_shard_send_insts_for_policy`. -/
def generateSendInstsForPolicy (pRank : Nat) :
    Except MapperError (List (WeightSyncInstructionsGroup Name)) :=
  match (mapper.ppRankMapPolicy[pRank]?).bind fun stage =>
      mapper.sortedParamsAllRankPolicy[stage]?, mapper.policyAllRankShardInfos[pRank]? with
  | some sortedParams, some pInfos =>
    match collect (mapper.sendSingle pRank pInfos) sortedParams with
    | .error exn => .error exn
    | .ok singles =>
      (collect (mapper.sendGroup pRank pInfos) mapper.paramGroups).map fun grouped =>
        singles ++ grouped
  | _, _ => .error .indexError

def recvInstsForParam (rRank : Nat) (name : Name) (rInfo : ShardInfo) :
    Except MapperError (List WeightSyncInstruction) :=
  collect (fun (pInfos, pRank) =>
    match pInfos.get? name with
    | none => .ok []
    | some pInfo =>
      (mapper.transfer name pRank rRank pInfo rInfo).map fun
        | none => []
        | some ((_, rStrategys), (_, rAssignments)) =>
          rAssignments.map fun p => ⟨p, rRank, rStrategys⟩)
    mapper.policyAllRankShardInfos.zipIdx

variable [ToString Name]

def recvSingle (rRank : Nat) (rInfos : RankShardInfos Name) (name : Name) :
    Except MapperError (List (WeightSyncInstructionsGroup Name)) :=
  match rInfos.get? name with
  | none => .ok []
  | some rInfo =>
    if name ∈ mapper.paramToParamGroups.keys then .ok []
    else
      match mapper.recvInstsForParam rRank name rInfo with
      | .error exn => .error exn
      | .ok insts =>
        if insts.isEmpty then
          .error (.valueError s!"[Rollout] No recv insts_for_group generated for parameter {name} in sorted_params, rollout rank {rRank}.")
        else .ok [⟨[⟨name, insts⟩]⟩]

def recvEntry (rRank : Nat) (rInfos : RankShardInfos Name) (name : Name) :
    Except MapperError (List (WeightSyncInstructionsPerParam Name)) :=
  match rInfos.get? name with
  | none => .ok []
  | some rInfo =>
    match mapper.recvInstsForParam rRank name rInfo with
    | .error exn => .error exn
    | .ok insts =>
      if insts.isEmpty then
        .error (.valueError s!"No recv instructions generated for parameter {name} in rollout rank {rRank}.")
      else .ok [⟨name, insts⟩]

def recvGroup (rRank : Nat) (rInfos : RankShardInfos Name) (group : ParamGroup Name) :
    Except MapperError (List (WeightSyncInstructionsGroup Name)) :=
  match collect (mapper.recvEntry rRank rInfos) group.names with
  | .error exn => .error exn
  | .ok entries =>
    if entries.isEmpty then
      .error (.valueError s!"[Rollout] No recv insts_for_group generated for parameter {group.names.getLast group.nonempty} in rollout rank {rRank}.")
    else .ok [⟨entries⟩]

/-- `name_in_group` after both loops: grouped parameters of the rank that no group
has taken up. -/
def namesLeftInGroup (rInfos : RankShardInfos Name) (sortedParams : List Name) :
    List Name :=
  sortedParams.filter fun name =>
    decide (name ∈ rInfos.keys) && decide (name ∈ mapper.paramToParamGroups.keys) &&
      !(mapper.paramGroups.any fun group => decide (name ∈ group.names))

/-- `generate_parallelized_shard_recv_insts_for_rollout`. -/
def generateRecvInstsForRollout (rRank : Nat) :
    Except MapperError (List (WeightSyncInstructionsGroup Name)) :=
  match (mapper.ppRankMapRollout[rRank]?).bind fun stage =>
      mapper.sortedParamsAllRankRollout[stage]?,
      mapper.rolloutAllRankShardInfos[rRank]? with
  | some sortedParams, some rInfos =>
    match collect (mapper.recvSingle rRank rInfos) sortedParams with
    | .error exn => .error exn
    | .ok singles =>
      match collect (mapper.recvGroup rRank rInfos) mapper.paramGroups with
      | .error exn => .error exn
      | .ok grouped =>
        if (mapper.namesLeftInGroup rInfos sortedParams).isEmpty then
          .ok (singles ++ grouped)
        else .error (.assertionError
          s!"[Rollout] No recv instructions generated for parameters {mapper.namesLeftInGroup rInfos sortedParams} in rollout rank {rRank}.")
  | _, _ => .error .indexError

end ParallelizedShardMapper

end Generators

end CosmosRl.Utils
