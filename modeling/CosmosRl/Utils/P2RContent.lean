import CosmosRl.Utils.P2RCoverage

/-!
What a rollout worker holds after a transfer.

A local tensor gives a value to each element of the shard, named by its coordinates in the
whole parameter.  A message has the elements of a view by their position in it, so it says
nothing about where they belong: that is up to the slices of the two sides.
-/

namespace CosmosRl.Utils

open CosmosRl.Foundation List

variable {Name Value : Type} [DecidableEq Name]

def startOf (view : Box) (dim : Nat) : Nat := (view[dim]?).elim 0 Window.start

/-- The elements of a view, as they are sent.  `converted` is what the transfer type and the
type of the rollout tensor leave of a value. -/
def sentElements (converted : Value → Value) (view : Box) (tensor : (Nat → Nat) → Value)
    (position : Nat → Nat) : Value :=
  converted (tensor fun dim => startOf view dim + position dim)

/-- Received elements are copied into a view. -/
def copyInto (view : Box) (elements tensor : (Nat → Nat) → Value) (coordinates : Nat → Nat) :
    Value :=
  if view.Covers coordinates then
    elements fun dim => coordinates dim - startOf view dim
  else tensor coordinates

section Transfer

variable (mapper : ParallelizedShardMapper Name) (name : Name) (shape : List Nat)
  (rRank : Nat) (converted : Value → Value) (policyTensors : Nat → (Nat → Nat) → Value)

/-- What a policy rank sends to the rollout rank of the parameter. -/
def sentBy (pRank : Nat) : Option ((Nat → Nat) → Value) := do
  let pInfo ← mapper.policyShard pRank name
  let groups ← (mapper.generateSendInstsForPolicy pRank).toOption
  let send ← ((entriesFor groups name).flatMap fun entry => entry.instructions).find?
    fun inst => inst.rolloutRank = rRank
  let view ← (cosmosSlice (shardBox shape pInfo) send.sliceStrategy).toOption
  some (sentElements converted view (policyTensors pRank))

/-- `recv_weight_shard` for some instructions of the parameter, one after another. -/
def receiveShard (rInfo : ShardInfo) (insts : List WeightSyncInstruction)
    (tensor : (Nat → Nat) → Value) : Option ((Nat → Nat) → Value) :=
  insts.foldlM (fun tensor recv => do
    let elements ← sentBy mapper name shape rRank converted policyTensors recv.policyRank
    let view ← (cosmosSlice (shardBox shape rInfo) recv.sliceStrategy).toOption
    some (copyInto view elements tensor)) tensor

end Transfer

theorem copyInto_sentElements {converted : Value → Value} {view : Box}
    {source tensor : (Nat → Nat) → Value} (coordinates : Nat → Nat) :
    copyInto view (sentElements converted view source) tensor coordinates =
      if view.Covers coordinates then converted (source coordinates)
      else tensor coordinates := by
  unfold copyInto sentElements
  by_cases covers : view.Covers coordinates
  · rw [if_pos covers, if_pos covers]
    congr 2
    funext dim
    apply Nat.add_sub_cancel'
    rw [startOf]
    cases found : view[dim]? with
    | none => exact Nat.zero_le _
    | some window => exact (Box.covers_iff.mp covers dim window found).1
  · rw [if_neg covers, if_neg covers]

section Content

variable {mapper : ParallelizedShardMapper Name} {name : Name} {shape : List Nat}
  {rRank : Nat} {rInfo : ShardInfo} {converted : Value → Value}
  {policyTensors : Nat → (Nat → Nat) → Value} {weights : (Nat → Nat) → Value}

/-- The policy ranks hold the weights of their shards. -/
def HoldsWeights (mapper : ParallelizedShardMapper Name) (name : Name) (shape : List Nat)
    (policyTensors : Nat → (Nat → Nat) → Value) (weights : (Nat → Nat) → Value) : Prop :=
  ∀ pRank pInfo, mapper.policyShard pRank name = some pInfo →
    ∀ coordinates, (shardBox shape pInfo).Covers coordinates →
      policyTensors pRank coordinates = weights coordinates

variable (reported : ParamsReported mapper) (laidOut : LaidOut mapper)
  (layout : ShardLayout mapper name shape) (rHeld : mapper.rolloutShard rRank name = some rInfo)
  (holds : HoldsWeights mapper name shape policyTensors weights)

include reported laidOut layout rHeld holds

/-- One instruction copies the weights of the elements that it selects. -/
theorem receive_spec {recv : WeightSyncInstruction}
    (listed : recv ∈ mapper.receives rRank name) (tensor : (Nat → Nat) → Value) :
    ∃ elements view, sentBy mapper name shape rRank converted policyTensors recv.policyRank =
        some elements ∧
      cosmosSlice (shardBox shape rInfo) recv.sliceStrategy = .ok view ∧
      ∀ coordinates, copyInto view elements tensor coordinates =
        if selects (shardBox shape rInfo) recv.sliceStrategy coordinates then
          converted (weights coordinates)
        else tensor coordinates := by
  obtain ⟨pRank, _, made⟩ := mem_filterMap.mp listed
  obtain ⟨strategys, exchanged, rfl⟩ := Option.map_eq_some_iff.mp made
  obtain ⟨pInfo, rInfo', pHeld, rHeld', _, pSlice, rSlice⟩ :=
    exchange_slices (layout.policyFits _) (layout.rolloutFits _) exchanged
  obtain rfl : rInfo = rInfo' := Option.some.inj (rHeld.symm.trans rHeld')
  obtain ⟨groups, generates⟩ := generateSend_runs laidOut reported (lt_length_of_shardOf pHeld)
  have found : ((entriesFor groups name).flatMap fun entry => entry.instructions).find?
      (fun inst => inst.rolloutRank = rRank) = some ⟨pRank, rRank, strategys.1⟩ := by
    have instructions : (paramEntry name (mapper.sends pRank name)).flatMap
        (fun entry => entry.instructions) = mapper.sends pRank name := by
      cases mapper.sends pRank name <;> simp [paramEntry]
    rw [entriesFor_send reported pHeld generates, instructions, ← head?_filter, filter_sends,
      exchanged]
    rfl
  refine ⟨sentElements converted (commonBox shape pInfo rInfo) (policyTensors pRank), _, ?_,
    rSlice, fun coordinates => ?_⟩
  · simp only [sentBy, pHeld, generates, Except.toOption, Option.bind_eq_bind, Option.bind_some,
      found, pSlice]
  · have selected : selects (shardBox shape rInfo) strategys.2 coordinates =
        decide ((commonBox shape pInfo rInfo).Covers coordinates) := by rw [selects, rSlice]
    rw [copyInto_sentElements, selected]
    by_cases common : (commonBox shape pInfo rInfo).Covers coordinates
    · rw [if_pos common, if_pos (decide_eq_true common),
        holds pRank pInfo pHeld coordinates (covers_commonBox.mp common).1]
    · rw [if_neg common, if_neg (by simpa using common)]

theorem receiveShard_spec {insts : List WeightSyncInstruction}
    (listed : ∀ recv ∈ insts, recv ∈ mapper.receives rRank name)
    (tensor : (Nat → Nat) → Value) :
    ∃ received, receiveShard mapper name shape rRank converted policyTensors rInfo insts tensor =
        some received ∧
      ∀ coordinates, received coordinates =
        if insts.any (fun recv =>
            selects (shardBox shape rInfo) recv.sliceStrategy coordinates) then
          converted (weights coordinates)
        else tensor coordinates := by
  induction insts generalizing tensor with
  | nil => exact ⟨tensor, rfl, fun _ => rfl⟩
  | cons recv rest ih =>
    obtain ⟨elements, view, sent, sliced, copied⟩ := receive_spec reported laidOut layout rHeld
      holds (listed recv mem_cons_self) tensor
    obtain ⟨received, runs, content⟩ := ih
      (fun later inside => listed later (mem_cons_of_mem _ inside))
      (copyInto view elements tensor)
    refine ⟨received, ?_, fun coordinates => ?_⟩
    · rw [receiveShard, foldlM_cons, sent, sliced]
      exact runs
    · rw [content, copied, any_cons]
      cases selects (shardBox shape rInfo) recv.sliceStrategy coordinates <;> simp

/-- After its receive instructions have run, in whatever order their copies are made, the
rollout rank holds the weights of the policy in its shard, and nothing of what it held
before. -/
theorem receivedWeights [ToString Name] {groups : List (WeightSyncInstructionsGroup Name)}
    (generates : mapper.generateRecvInstsForRollout rRank = .ok groups)
    {order : List WeightSyncInstruction}
    (anyOrder : order.Perm ((entriesFor groups name).flatMap fun entry => entry.instructions))
    (stale : (Nat → Nat) → Value) :
    ∃ received, receiveShard mapper name shape rRank converted policyTensors rInfo order stale =
        some received ∧
      ∀ coordinates, received coordinates =
        if (shardBox shape rInfo).Covers coordinates then converted (weights coordinates)
        else stale coordinates := by
  rw [entriesFor_recv reported rHeld generates, flatMap_singleton] at anyOrder
  obtain ⟨received, runs, content⟩ := receiveShard_spec reported laidOut layout rHeld holds
    (fun _ inside => anyOrder.mem_iff.mp inside) stale
  refine ⟨received, runs, fun coordinates => ?_⟩
  have once := (layout.tiles_receives rHeld).once coordinates
  rw [← anyOrder.countP_eq] at once
  rw [content]
  by_cases inside : (shardBox shape rInfo).Covers coordinates
  · rw [if_pos inside] at once ⊢
    obtain ⟨recv, listed, selected⟩ := countP_pos_iff.mp (once ▸ Nat.one_pos)
    rw [if_pos (any_eq_true.mpr ⟨recv, listed, selected⟩)]
  · rw [if_neg inside] at once ⊢
    rw [if_neg]
    rw [any_eq_true]
    rintro ⟨recv, listed, selected⟩
    exact countP_eq_zero.mp once recv listed selected

end Content

theorem receivedWeights_halves :
    ∃ order received, receiveShard halvesMapper 0 [4] 0 id
        (fun _ coordinates => coordinates 0) ∅ order (fun _ => 9) = some received ∧
      received (fun _ => 3) = 3 := by
  obtain ⟨groups, generates⟩ := halves_generateRecv Nat.two_pos
  have holds : HoldsWeights halvesMapper 0 [4] (fun _ coordinates => coordinates 0)
      fun coordinates => coordinates 0 := fun _ _ _ _ _ => rfl
  obtain ⟨received, runs, content⟩ := @receivedWeights _ _ _ _ _ _ 0 ∅ id _ _ halves_reported
    (fun name => ⟨[4], halves_layout name⟩) (halves_layout 0) rfl holds _ groups generates _
    (List.Perm.refl _) (fun _ => 9)
  refine ⟨_, received, runs, ?_⟩
  rw [content, if_pos (covers_half.mpr (by decide))]
  rfl

end CosmosRl.Utils
