import CosmosRl.Launcher.PlacedReplicas

/-!
No GPU of a node is given away twice.

The used GPUs of the current node are among the ones before the GPU index, and the nodes behind
it are free.  A whole node is only taken by a placement that starts at its first GPU.
-/

namespace CosmosRl.Launcher

open CosmosRl.Foundation CosmosRl.Dispatcher List

/-- The GPUs that the commands of a group of roles use. -/
def gpusOf (group : Role → Bool) (commands : List CommandItem) : List Nat :=
  (commands.filter fun command => group command.role).flatMap (·.gpuDevices)

variable {settings : LaunchSettings} {group : Role → Bool} {role : Role}
  {gpus replicas replica node : Nat}

@[simp]
theorem gpusOf_nil : gpusOf group [] = [] := rfl

theorem gpusOf_append (commands others : List CommandItem) :
    gpusOf group (commands ++ others) = gpusOf group commands ++ gpusOf group others := by
  rw [gpusOf, filter_append, flatMap_append]
  rfl

theorem gpusOf_singleton_sublist (command : CommandItem) :
    (gpusOf group [command]).Sublist command.gpuDevices := by
  rw [gpusOf, filter_singleton]
  cases group command.role
  · exact nil_sublist _
  · rw [cond_true, flatMap_singleton]

namespace NodesManager

variable {manager before after : NodesManager} {allowed : CommandItem → Prop}

theorem Grows.gpusOf_eq (grows : Grows allowed before after)
    (others : ∀ command, allowed command → group command.role = false) :
    gpusOf group (after.view node) = gpusOf group (before.view node) := by
  rw [gpusOf, grows.filter_eq _ others]
  rfl

structure Packed (settings : LaunchSettings) (group : Role → Bool) (manager : NodesManager) :
    Prop where
  reached : manager.Reached
  within : manager.gpuIdx ≤ settings.nodeSize
  filled : ∀ node < manager.globalWorkerIdx,
    (gpusOf group (manager.view node)).Sublist settings.availableGpus
  current : (gpusOf group (manager.view manager.globalWorkerIdx)).Sublist
    (settings.availableGpus.take manager.gpuIdx)
  free : ∀ node, manager.globalWorkerIdx < node → gpusOf group (manager.view node) = []

theorem Packed.sublist (packed : Packed settings group manager) (node : Nat) :
    (gpusOf group (manager.view node)).Sublist settings.availableGpus := by
  rcases Nat.lt_trichotomy node manager.globalWorkerIdx with lower | same | higher
  · exact packed.filled node lower
  · subst same
    exact packed.current.trans (take_sublist _ _)
  · rw [packed.free node higher]
    exact nil_sublist _

theorem Packed.current_eq_nil (packed : Packed settings group manager)
    (start : manager.gpuIdx = 0) :
    gpusOf group (manager.view manager.globalWorkerIdx) = [] := by
  have current := packed.current
  rw [start] at current
  exact sublist_nil.mp current

theorem packed_of_unused (reached : manager.Reached)
    (unused : ∀ node, gpusOf group (manager.view node) = []) (start : manager.gpuIdx = 0) :
    Packed settings group manager where
  reached := reached
  within := start ▸ Nat.zero_le _
  filled node _ := unused node ▸ nil_sublist _
  current := unused _ ▸ nil_sublist _
  free node _ := unused node

section

variable (packed : Packed settings group manager)

include packed

theorem packed_nextNode : Packed settings group (manager.nextNode.withGpuIdx 0) := by
  have same : ∀ node, (manager.nextNode.withGpuIdx 0).view node =
      manager.view node := fun _ => view_nextNode packed.reached
  refine ⟨reached_nextNode packed.reached, Nat.zero_le _, fun node _ => ?_, ?_,
    fun node later => ?_⟩
  · rw [same]
    exact packed.sublist node
  · have free := packed.free _ (Nat.lt_succ_self manager.globalWorkerIdx)
    rw [same]
    exact free ▸ nil_sublist _
  · rw [same]
    exact packed.free node (Nat.lt_of_succ_lt later)

theorem packed_nodeWithGpus : Packed settings group (manager.nodeWithGpus settings gpus) := by
  rw [nodeWithGpus]
  split
  · exact packed_nextNode packed
  · exact packed

theorem packed_within (small : gpus ≤ settings.nodeSize) :
    Packed settings group (manager.placeWithinNode settings role gpus replica) := by
  have room := @gpuIdx_nodeWithGpus settings manager gpus small
  have opened : Packed settings group (manager.nodeWithGpus settings gpus) :=
    packed_nodeWithGpus packed
  rw [placeWithinNode]
  generalize manager.nodeWithGpus settings gpus = manager at *
  let command := settings.commandForReplica role replica gpus manager.gpuIdx
  have grown : ∀ node, ((manager.append command).withGpuIdx (manager.gpuIdx + gpus)).view node =
      manager.view node ++ if node = manager.globalWorkerIdx then [command] else [] := by
    intro node
    rw [view_withGpuIdx, view_append]
  refine ⟨opened.reached, room, fun node lower => ?_, ?_, fun node later => ?_⟩
  · have lower : node < manager.globalWorkerIdx := lower
    rw [grown, if_neg (Nat.ne_of_lt lower), append_nil]
    exact opened.filled node lower
  · have current := grown manager.globalWorkerIdx
    rw [if_pos rfl] at current
    refine (congrArg (gpusOf group) current).symm ▸ ?_
    refine (gpusOf_append _ _).symm ▸ take_add.symm ▸ ?_
    exact opened.current.append (gpusOf_singleton_sublist command)
  · have later : manager.globalWorkerIdx < node := later
    rw [grown, if_neg (Nat.ne_of_gt later), append_nil]
    exact opened.free node later

end

theorem packed_across (packed : Packed settings group manager) (start : manager.gpuIdx = 0) :
    Packed settings group (manager.placeAcrossNodes settings role gpus replica) ∧
      (manager.placeAcrossNodes settings role gpus replica).gpuIdx = 0 := by
  obtain ⟨advances, current, gpuIdx, -, command, own, grown⟩ :=
    rounds_added settings role replica packed.reached (gpus / settings.nodeSize)
      (gpus / settings.nodeSize) "localhost"
  rw [placeAcrossNodes]
  generalize ((List.range (gpus / settings.nodeSize)).foldl _ (manager, "localhost")).1 =
    placed at *
  generalize gpus / settings.nodeSize = rounds at *
  have unused : ∀ node, manager.globalWorkerIdx ≤ node → gpusOf group (manager.view node) = [] := by
    intro node reached
    rcases Nat.lt_or_eq_of_le reached with later | same
    · exact packed.free node later
    · exact same ▸ packed.current_eq_nil start
  refine ⟨⟨advances.reached, gpuIdx ▸ packed.within, fun node lower => ?_, ?_,
    fun node later => ?_⟩, gpuIdx.trans start⟩
  · rw [grown, gpusOf_append]
    split
    case isTrue within =>
      rw [unused node within.1, nil_append]
      exact (own node).2 ▸ gpusOf_singleton_sublist _
    case isFalse =>
      rw [gpusOf_nil, append_nil]
      exact packed.sublist node
  · rw [grown, if_neg (by omega), append_nil, unused _ (by omega)]
    exact nil_sublist _
  · rw [grown, if_neg (by omega), append_nil, unused _ (by omega)]

theorem packed_placeReplicas (packed : Packed settings group manager)
    (start : settings.nodeSize < gpus → manager.gpuIdx = 0) :
    Packed settings group (manager.placeReplicas settings role gpus replicas) ∧
      (settings.nodeSize < gpus →
        (manager.placeReplicas settings role gpus replicas).gpuIdx = 0) := by
  induction replicas with
  | zero => exact ⟨packed, start⟩
  | succ replicas ih =>
    rw [placeReplicas_succ, placeReplica]
    split
    case isTrue whole =>
      have placed := @packed_across settings group role gpus replicas _ ih.1 (ih.2 whole)
      exact ⟨placed.1, fun _ => placed.2⟩
    case isFalse small =>
      exact ⟨packed_within ih.1 (Nat.not_lt.mp small), fun whole => absurd whole small⟩

theorem packed_interruptNode (packed : Packed settings group manager) :
    Packed settings group (manager.interruptNode settings role gpus) := by
  rw [interruptNode]
  split
  · split
    · exact packed_nextNode packed
    · exact packed
  · exact packed

theorem gpuIdx_interruptNode (whole : settings.nodeSize < gpus)
    (opened : manager.nodes ≠ [] ∨ manager.gpuIdx = 0) :
    (manager.interruptNode settings role gpus).gpuIdx = 0 := by
  rw [interruptNode]
  split
  · split
    · rfl
    · rename_i unused
      exact Nat.eq_zero_of_not_pos fun used => unused (Or.inl used)
  · rename_i first
    exact opened.resolve_left fun opened => first (Or.inl ⟨opened, whole⟩)

/-- A role that does not share the devices of another one is packed, when no GPUs are used on a
first node that is not open yet, or when its replicas fit on a node. -/
theorem packed_replicaPlacementForRole {demand : Demand} (packed : Packed settings group before)
    (apart : ¬ settings.Separates role)
    (opened : 0 < demand.replicas → settings.nodeSize < demand.gpus →
      before.nodes ≠ [] ∨ before.gpuIdx = 0)
    (placed : before.replicaPlacementForRole settings role demand = .ok after) :
    Packed settings group after := by
  rw [replicaPlacementForRole, if_neg apart] at placed
  split at placed
  · cases placed
    exact packed
  · rename_i some
    cases placed
    exact (packed_placeReplicas (packed_interruptNode packed) fun whole =>
      gpuIdx_interruptNode whole (opened (Nat.pos_of_ne_zero some) whole)).1

end NodesManager

end CosmosRl.Launcher
