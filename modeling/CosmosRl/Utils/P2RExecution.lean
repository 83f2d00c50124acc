import CosmosRl.Foundation.Rendezvous
import CosmosRl.Utils.InstructionLists

/-!
Executing the instruction lists: `policy_to_rollout_unicast` of both workers.

Each worker goes through its list in order and issues one point-to-point operation
for each instruction, a send on the policy side and a receive on the rollout side.
With `trainable_only` both skip the parameters that are not trainable.
-/

namespace CosmosRl.Utils

open CosmosRl.Foundation

inductive Rank where
  | policy (rank : Nat)
  | rollout (rank : Nat)
  deriving DecidableEq, Repr

structure SliceMessage (Name : Type) where
  paramName : Name
  sliceSize : List Nat
  deriving DecidableEq

section Execution

variable {Name : Type}

/-- The operations of a worker.  `tensors` are the tensors it holds, `partner` the
rank an instruction names on the other side. -/
def p2rOperations (partner : WeightSyncInstruction → Rank) (isSend : Bool)
    (tensors : Name → Box) (trainableParams : Name → Bool) (trainableOnly : Bool)
    (groups : List (WeightSyncInstructionsGroup Name)) :
    Except MapperError (List (Communication Rank (SliceMessage Name))) :=
  collect (fun entry =>
    if !trainableParams entry.paramName && trainableOnly then .ok []
    else collect (fun inst =>
      (cosmosSlice (tensors entry.paramName) inst.sliceStrategy).map fun view =>
        [⟨partner inst, isSend, ⟨entry.paramName, view.map Window.length⟩⟩])
      entry.instructions)
    (entriesOf groups)

/-- The sends of `policy_to_rollout_unicast` of a policy worker. -/
def policySends (tensors : Name → Box) (trainableParams : Name → Bool)
    (trainableOnly : Bool) (policyToRolloutInsts : List (WeightSyncInstructionsGroup Name)) :
    Except MapperError (List (Communication Rank (SliceMessage Name))) :=
  p2rOperations (fun inst => .rollout inst.rolloutRank) true tensors trainableParams
    trainableOnly policyToRolloutInsts

/-- The receives of `recv_weight_shard` over the groups of a rollout worker. -/
def rolloutRecvs (tensors : Name → Box) (trainableParams : Name → Bool)
    (trainableOnly : Bool)
    (policyToRolloutRecvInsts : List (WeightSyncInstructionsGroup Name)) :
    Except MapperError (List (Communication Rank (SliceMessage Name))) :=
  p2rOperations (fun inst => .policy inst.policyRank) false tensors trainableParams
    trainableOnly policyToRolloutRecvInsts

def operationsOf (partner : WeightSyncInstruction → Rank) (isSend : Bool) (name : Name)
    (sizeOf : WeightSyncInstruction → List Nat) (insts : List WeightSyncInstruction) :
    List (Communication Rank (SliceMessage Name)) :=
  insts.map fun inst => ⟨partner inst, isSend, ⟨name, sizeOf inst⟩⟩

/-- The operations of a worker whose list has the given instructions for the given
parameters in turn. -/
theorem p2rOperations_eq {partner : WeightSyncInstruction → Rank} {isSend : Bool}
    {tensors : Name → Box} {trainableParams : Name → Bool} {trainableOnly : Bool}
    {groups : List (WeightSyncInstructionsGroup Name)} {names : List Name}
    {insts : Name → List WeightSyncInstruction} {sizeOf : Name → WeightSyncInstruction → List Nat}
    (entries : entriesOf groups = names.flatMap fun name => paramEntry name (insts name))
    (slices : ∀ name, ∀ inst ∈ insts name, ∃ view,
      cosmosSlice (tensors name) inst.sliceStrategy = .ok view ∧
        view.map Window.length = sizeOf name inst) :
    p2rOperations partner isSend tensors trainableParams trainableOnly groups =
      .ok ((names.filter fun name => trainableParams name || !trainableOnly).flatMap
        fun name => operationsOf partner isSend name (sizeOf name) (insts name)) := by
  have entryOf : ∀ entry ∈ entriesOf groups, ∃ name, entry = ⟨name, insts name⟩ := by
    intro entry inside
    rw [entries] at inside
    obtain ⟨name, _, made⟩ := List.mem_flatMap.mp inside
    exact ⟨name, eq_of_mem_paramEntry made⟩
  unfold p2rOperations
  rw [collect_eq_flatMap (fun entry => if !trainableParams entry.paramName && trainableOnly
    then [] else operationsOf partner isSend entry.paramName (sizeOf entry.paramName)
      entry.instructions)]
  · rw [entries, List.flatMap_assoc, flatMap_filter]
    congr 1
    apply List.flatMap_congr
    intro name _
    unfold paramEntry
    cases given : insts name with
    | nil => cases trainableParams name <;> cases trainableOnly <;> rfl
    | cons inst rest =>
      cases trainable : trainableParams name <;> cases trainableOnly <;> simp [trainable]
  · intro entry inside
    obtain ⟨name, rfl⟩ := entryOf entry inside
    split
    · rfl
    · rw [collect_eq_flatMap fun inst =>
        [(⟨partner inst, isSend, ⟨name, sizeOf name inst⟩⟩ : Communication _ _)]]
      · rw [operationsOf, List.map_eq_flatMap]
      · intro inst listed
        obtain ⟨view, sliced, size⟩ := slices name inst listed
        rw [sliced, ← size]
        rfl

end Execution

end CosmosRl.Utils
