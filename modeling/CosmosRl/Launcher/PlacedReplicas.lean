import Mathlib.Data.List.Basic
import CosmosRl.Launcher.NodesManager

/-!
What placing replicas adds to the nodes.

A node is looked at together with the commands that are still collected for it, so that it makes
no difference when they are handed over.  Every placement that does not fail gives each replica
its commands.
-/

namespace CosmosRl.Launcher

open CosmosRl.Foundation CosmosRl.Dispatcher List

namespace NodesManager

variable {settings : LaunchSettings} {manager before after : NodesManager} {role : Role}
  {gpus replicas replica node : Nat} {middle : NodesManager}

/-- The commands of a node with the ones that are still collected for it. -/
def view (manager : NodesManager) (node : Nat) : List CommandItem :=
  contents manager.nodes node ++
    if node = manager.globalWorkerIdx then manager.commands else []

/-- The current node is open or the next one to be opened. -/
def Reached (manager : NodesManager) : Prop :=
  manager.globalWorkerIdx ≤ manager.nodes.length

theorem view_append (command : CommandItem) :
    (manager.append command).view node =
      manager.view node ++ if node = manager.globalWorkerIdx then [command] else [] := by
  by_cases here : node = manager.globalWorkerIdx
  · simp [view, append, here]
  · simp [view, append, here]

@[simp]
theorem view_withGpuIdx (gpuIdx : Nat) :
    (manager.withGpuIdx gpuIdx).view node = manager.view node := rfl

theorem contents_nextNode (reached : manager.Reached) :
    contents manager.nextNode.nodes node = manager.view node :=
  contents_place reached node

theorem view_nextNode (reached : manager.Reached) :
    manager.nextNode.view node = manager.view node := by
  rw [← contents_nextNode reached, view]
  exact (congrArg (_ ++ ·) (ite_self _)).trans (append_nil _)

/-- Nodes are only opened to become the current one. -/
structure Advances (before after : NodesManager) : Prop where
  forward : before.globalWorkerIdx ≤ after.globalWorkerIdx
  length : after.nodes.length = max before.nodes.length after.globalWorkerIdx

theorem Advances.refl (reached : manager.Reached) : Advances manager manager where
  forward := Nat.le_refl _
  length := (Nat.max_eq_left reached).symm

theorem Advances.trans (first : Advances before middle)
    (second : Advances middle after) : Advances before after where
  forward := Nat.le_trans first.forward second.forward
  length := by
    rw [second.length, first.length, Nat.max_assoc, Nat.max_eq_right second.forward]

theorem Advances.reached (advances : Advances before after) : after.Reached := by
  rw [Reached, advances.length]
  exact Nat.le_max_right _ _

theorem Advances.opened (advances : Advances before after) :
    before.nodes.length ≤ after.nodes.length := by
  rw [advances.length]
  exact Nat.le_max_left _ _

theorem advances_nextNode (reached : manager.Reached) : Advances manager manager.nextNode where
  forward := Nat.le_succ _
  length := length_place reached

theorem reached_nextNode (reached : manager.Reached) : manager.nextNode.Reached :=
  (advances_nextNode reached).reached

theorem view_eq_contents (flushed : manager.commands = []) :
    manager.view node = contents manager.nodes node := by
  simp [view, flushed]

/-- Nothing is taken from a node, and only the allowed commands are added. -/
structure Grows (allowed : CommandItem → Prop) (before after : NodesManager) : Prop where
  reached : after.Reached
  opened : before.nodes.length ≤ after.nodes.length
  added : ∀ node, ∃ commands, after.view node = before.view node ++ commands ∧
    ∀ command ∈ commands, allowed command

variable {allowed : CommandItem → Prop}

theorem Grows.refl (reached : manager.Reached) : Grows allowed manager manager where
  reached := reached
  opened := Nat.le_refl _
  added node := ⟨[], by simp⟩

theorem Grows.trans (first : Grows allowed before middle)
    (second : Grows allowed middle after) : Grows allowed before after where
  reached := second.reached
  opened := Nat.le_trans first.opened second.opened
  added node := by
    obtain ⟨some, grown, some_allowed⟩ := first.added node
    obtain ⟨others, grown_more, others_allowed⟩ := second.added node
    refine ⟨some ++ others, by rw [grown_more, grown, append_assoc], fun command member => ?_⟩
    rcases mem_append.mp member with member | member
    · exact some_allowed command member
    · exact others_allowed command member

theorem Grows.mono {looser : CommandItem → Prop} (grows : Grows allowed before after)
    (weaker : ∀ command, allowed command → looser command) : Grows looser before after where
  reached := grows.reached
  opened := grows.opened
  added node := by
    obtain ⟨commands, grown, commands_allowed⟩ := grows.added node
    exact ⟨commands, grown, fun command member => weaker command (commands_allowed command member)⟩

theorem Grows.of_view (reached : after.Reached) (opened : before.nodes.length ≤ after.nodes.length)
    (same : ∀ node, after.view node = before.view node) : Grows allowed before after where
  reached := reached
  opened := opened
  added node := ⟨[], by simp [same node]⟩

/-- Commands that cannot be added stay as they are. -/
theorem Grows.filter_eq (grows : Grows allowed before after) (kept : CommandItem → Bool)
    (others : ∀ command, allowed command → kept command = false) :
    (after.view node).filter kept = (before.view node).filter kept := by
  obtain ⟨commands, grown, commands_allowed⟩ := grows.added node
  have dropped : commands.filter kept = [] :=
    filter_eq_nil_iff.mpr fun command member =>
      Bool.not_eq_true _ ▸ others command (commands_allowed command member)
  rw [grown, filter_append, dropped, append_nil]

end NodesManager

def CommandItem.belongs (role : Role) (replica : Nat) (command : CommandItem) : Bool :=
  command.role = role ∧ command.replica = replica

/-- On how many nodes a replica is launched. -/
def LaunchSettings.nodesNeeded (settings : LaunchSettings) (gpus : Nat) : Nat :=
  if settings.nodeSize < gpus then gpus / settings.nodeSize else 1

/-- A replica has one command on each of consecutive nodes, for as many GPUs as it can get
there, and none elsewhere. -/
def Settled (settings : LaunchSettings) (nodes : Nat → List CommandItem) (role : Role)
    (gpus replica : Nat) : Prop :=
  ∃ first devices, devices.length = min gpus settings.nodeSize ∧
    ∀ node, ((nodes node).filter (·.belongs role replica)).map (·.gpuDevices) =
      if first ≤ node ∧ node < first + settings.nodesNeeded gpus then [devices] else []

namespace NodesManager

variable {settings : LaunchSettings} {manager before after : NodesManager} {role : Role}
  {gpus replicas replica node : Nat}

/-- One command of the replica is added to each of consecutive nodes. -/
structure AddsReplica (settings : LaunchSettings) (role : Role) (gpus replica : Nat)
    (before after : NodesManager) : Prop where
  advances : Advances before after
  added : ∃ first devices, ∃ command : Nat → CommandItem,
    devices.length = min gpus settings.nodeSize ∧
      (∀ node, (command node).belongs role replica = true ∧
        (command node).gpuDevices = devices) ∧
      ∀ node, after.view node = before.view node ++
        if first ≤ node ∧ node < first + settings.nodesNeeded gpus then [command node] else []

theorem AddsReplica.grows (adds : AddsReplica settings role gpus replica before after) :
    Grows (·.belongs role replica = true) before after where
  reached := adds.advances.reached
  opened := adds.advances.opened
  added node := by
    obtain ⟨first, devices, command, -, own, grown⟩ := adds.added
    refine ⟨_, grown node, fun other member => ?_⟩
    split at member
    · rw [mem_singleton.mp member]
      exact (own node).1
    · cases member

theorem AddsReplica.settled (adds : AddsReplica settings role gpus replica before after)
    (fresh : ∀ node, (before.view node).filter (·.belongs role replica) = []) :
    Settled settings after.view role gpus replica := by
  obtain ⟨first, devices, command, enough, own, grown⟩ := adds.added
  refine ⟨first, devices, enough, fun node => ?_⟩
  rw [grown, filter_append, fresh, nil_append]
  split
  · rw [filter_cons_of_pos (own node).1, filter_nil, map_singleton, (own node).2]
  · rfl

/-- After some rounds of the loop over the nodes of a replica each of them has a command. -/
theorem rounds_added (settings : LaunchSettings) (role : Role) (replica : Nat)
    (reached : manager.Reached) (nodesNeeded rounds : Nat) (address : String) :
    let placed := ((List.range rounds).foldl (placeOnNode settings role replica nodesNeeded)
      (manager, address)).1
    Advances manager placed ∧
      placed.globalWorkerIdx = manager.globalWorkerIdx + rounds ∧
      placed.gpuIdx = manager.gpuIdx ∧ (0 < rounds → placed.commands = []) ∧
      ∃ command : Nat → CommandItem,
        (∀ node, (command node).belongs role replica = true ∧
          (command node).gpuDevices = settings.availableGpus) ∧
        ∀ node, placed.view node = manager.view node ++
          if manager.globalWorkerIdx ≤ node ∧ node < manager.globalWorkerIdx + rounds then
            [command node] else [] := by
  induction rounds with
  | zero =>
    refine ⟨Advances.refl reached, rfl, rfl, fun positive => absurd positive (Nat.lt_irrefl 0),
      fun _ => settings.commandForNode role replica nodesNeeded address, fun node => ?_,
      fun node => ?_⟩
    · exact ⟨by simp [CommandItem.belongs, LaunchSettings.commandForNode], rfl⟩
    · rw [if_neg (by omega), append_nil]
      rfl
  | succ rounds ih =>
    obtain ⟨advances, current, gpuIdx, -, command, own, grown⟩ := ih
    rw [range_succ, foldl_append]
    generalize (List.range rounds).foldl (placeOnNode settings role replica nodesNeeded)
      (manager, address) = state at *
    let added := settings.commandForNode role replica nodesNeeded state.2
    have reachedAdded : (state.1.append added).Reached := advances.reached
    have grownMore : ∀ node, (state.1.append added).nextNode.view node = state.1.view node ++
        if node = state.1.globalWorkerIdx then [added] else [] := by
      intro node
      rw [view_nextNode reachedAdded, view_append]
    have further : Advances state.1 (state.1.append added).nextNode :=
      ⟨(advances_nextNode reachedAdded).forward, (advances_nextNode reachedAdded).length⟩
    refine ⟨advances.trans further, congrArg (· + 1) current, gpuIdx, fun _ => rfl,
      fun node => if node = state.1.globalWorkerIdx then added else command node,
      fun node => ?_, fun node => ?_⟩
    · dsimp only
      split
      · exact ⟨by simp [added, CommandItem.belongs, LaunchSettings.commandForNode], rfl⟩
      · exact own node
    · refine (grownMore node).trans ?_
      rw [grown node, current, append_assoc]
      congr 1
      dsimp only
      rcases Nat.lt_trichotomy node (manager.globalWorkerIdx + rounds) with lower | same | higher
      · rw [if_neg (Nat.ne_of_lt lower), if_neg (Nat.ne_of_lt lower), append_nil]
        refine if_congr ?_ rfl rfl
        omega
      · rw [if_pos same, if_pos same, if_neg (by omega), if_pos (by omega), nil_append]
      · rw [if_neg (Nat.ne_of_gt higher), if_neg (by omega), if_neg (by omega), append_nil]

theorem addsReplica_across (reached : manager.Reached) (whole : settings.nodeSize < gpus) :
    AddsReplica settings role gpus replica manager
      (manager.placeAcrossNodes settings role gpus replica) := by
  obtain ⟨advances, -, -, -, command, own, grown⟩ :=
    rounds_added settings role replica reached (gpus / settings.nodeSize)
      (gpus / settings.nodeSize) "localhost"
  refine ⟨advances, manager.globalWorkerIdx, settings.availableGpus, command, ?_, own, ?_⟩
  · exact (Nat.min_eq_right (Nat.le_of_lt whole)).symm
  · rw [LaunchSettings.nodesNeeded, if_pos whole]
    exact grown

theorem advances_nodeWithGpus (reached : manager.Reached) :
    Advances manager (manager.nodeWithGpus settings gpus) := by
  rw [nodeWithGpus]
  split
  · exact ⟨(advances_nextNode reached).forward, (advances_nextNode reached).length⟩
  · exact Advances.refl reached

theorem view_nodeWithGpus (reached : manager.Reached) :
    (manager.nodeWithGpus settings gpus).view node = manager.view node := by
  rw [nodeWithGpus]
  split
  · exact view_nextNode reached
  · rfl

theorem gpuIdx_nodeWithGpus (small : gpus ≤ settings.nodeSize) :
    (manager.nodeWithGpus settings gpus).gpuIdx + gpus ≤ settings.nodeSize := by
  rw [nodeWithGpus]
  split
  · exact (Nat.zero_add gpus).symm ▸ small
  · omega

theorem addsReplica_within (reached : manager.Reached) (small : gpus ≤ settings.nodeSize) :
    AddsReplica settings role gpus replica manager
      (manager.placeWithinNode settings role gpus replica) := by
  let opened := manager.nodeWithGpus settings gpus
  have advances : Advances manager opened := advances_nodeWithGpus reached
  refine ⟨⟨advances.forward, advances.length⟩, opened.globalWorkerIdx, _,
    fun _ => settings.commandForReplica role replica gpus opened.gpuIdx, ?_, fun node => ⟨?_, rfl⟩,
    fun node => ?_⟩
  · have enough : opened.gpuIdx + gpus ≤ settings.availableGpus.length := gpuIdx_nodeWithGpus small
    rw [LaunchSettings.commandForReplica, length_take, length_drop, Nat.min_eq_left small]
    exact Nat.min_eq_left (Nat.le_sub_of_add_le' enough)
  · simp [CommandItem.belongs, LaunchSettings.commandForReplica]
  · refine (@view_append opened node _).trans ?_
    rw [view_nodeWithGpus reached, LaunchSettings.nodesNeeded, if_neg (Nat.not_lt.mpr small)]
    congr 1
    refine if_congr ?_ rfl rfl
    omega

theorem addsReplica (reached : manager.Reached) :
    AddsReplica settings role gpus replica manager
      (manager.placeReplica settings role gpus replica) := by
  rw [placeReplica]
  split
  case isTrue whole => exact addsReplica_across reached whole
  case isFalse small => exact addsReplica_within reached (Nat.not_lt.mp small)

theorem placeReplicas_succ :
    manager.placeReplicas settings role gpus (replicas + 1) =
      (manager.placeReplicas settings role gpus replicas).placeReplica settings role gpus
        replicas := by
  rw [placeReplicas, range_succ, foldl_append]
  rfl

theorem placeReplicas_grows (reached : manager.Reached) :
    Grows (fun command => command.role = role ∧ command.replica < replicas) manager
      (manager.placeReplicas settings role gpus replicas) := by
  induction replicas with
  | zero => exact Grows.refl reached
  | succ replicas ih =>
    rw [placeReplicas_succ]
    refine (ih.mono ?_).trans ((addsReplica ih.reached).grows.mono ?_)
    · rintro command ⟨same, lower⟩
      exact ⟨same, Nat.lt_succ_of_lt lower⟩
    · intro command own
      rw [CommandItem.belongs, decide_eq_true_eq] at own
      exact ⟨own.1, own.2 ▸ Nat.lt_succ_self _⟩

/-- A command that may have been added is none of another role's and none of a later replica. -/
theorem belongs_eq_false {other : Role} {index : Nat} {command : CommandItem}
    (apart : role = other → replicas ≤ index)
    (own : command.role = role ∧ command.replica < replicas) :
    command.belongs other index = false := by
  rw [CommandItem.belongs, decide_eq_false_iff_not]
  rintro ⟨sameRole, sameReplica⟩
  have later := apart (own.1.symm.trans sameRole)
  omega

theorem settled_of_grows {other : Role} {index : Nat}
    (settled : Settled settings before.view other gpus index) (grows : Grows allowed before after)
    (others : ∀ command, allowed command → command.belongs other index = false) :
    Settled settings after.view other gpus index := by
  obtain ⟨first, devices, enough, held⟩ := settled
  refine ⟨first, devices, enough, fun node => ?_⟩
  rw [grows.filter_eq _ others]
  exact held node

theorem placeReplicas_settled (reached : manager.Reached)
    (fresh : ∀ index node, (manager.view node).filter (·.belongs role index) = [])
    (earlier : replica < replicas) :
    Settled settings (manager.placeReplicas settings role gpus replicas).view role gpus
      replica := by
  induction replicas with
  | zero => exact absurd earlier (Nat.not_lt_zero _)
  | succ replicas ih =>
    have grows : Grows (fun command => command.role = role ∧ command.replica < replicas) manager
        (manager.placeReplicas settings role gpus replicas) := placeReplicas_grows reached
    rw [placeReplicas_succ]
    rcases Nat.lt_succ_iff_lt_or_eq.mp earlier with lower | same
    · refine settled_of_grows (ih lower) (addsReplica grows.reached).grows fun command own => ?_
      rw [CommandItem.belongs, decide_eq_true_eq] at own
      rw [CommandItem.belongs, decide_eq_false_iff_not]
      rintro ⟨-, sameReplica⟩
      omega
    · subst same
      refine (addsReplica grows.reached).settled fun node => ?_
      rw [grows.filter_eq _ fun command own => belongs_eq_false (fun _ => Nat.le_refl _) own]
      exact fresh _ node

theorem interruptNode_grows (reached : manager.Reached) :
    Grows allowed manager (manager.interruptNode settings role gpus) := by
  rw [interruptNode]
  split
  · split
    · exact Grows.of_view (reached_nextNode reached) (advances_nextNode reached).opened
        fun _ => view_nextNode reached
    · exact Grows.refl reached
  · exact Grows.refl reached

/-- The nodes from which the replicas of a role are placed on the ones of an earlier role. -/
def restarted (manager : NodesManager) : NodesManager :=
  (manager.nextNode.withGpuIdx 0).clearAll

theorem view_restarted (reached : manager.Reached) :
    manager.restarted.view node = manager.view node :=
  (view_eq_contents (show manager.restarted.commands = [] from rfl)).trans
    (contents_nextNode reached)

theorem recover_grows (reached : manager.Reached) (start : before.Reached)
    (kept : before.nextNode.nodes.length ≤ manager.nodes.length)
    (recovered : manager.recover (before.nextNode.withGpuIdx 0) = .ok after) :
    Grows allowed manager after := by
  have opened := Nat.le_trans (reached_nextNode start) kept
  rw [recover] at recovered
  split at recovered
  · cases recovered
    exact Grows.refl reached
  · split at recovered
    case isTrue none =>
      cases recovered
      refine Grows.of_view opened (Nat.le_refl _) fun node => ?_
      rw [view_eq_contents none]
      exact view_eq_contents rfl
    case isFalse =>
      split at recovered
      · cases recovered
        have longer := (advances_nextNode reached).opened
        refine Grows.of_view (Nat.le_trans opened longer) longer fun node => ?_
        rw [← contents_nextNode reached]
        exact view_eq_contents rfl
      · cases recovered

variable {demand : Demand}

theorem replicaPlacementForRole_of_separates (separates : settings.Separates role)
    (some : demand.replicas ≠ 0) :
    before.replicaPlacementForRole settings role demand =
      (before.restarted.placeReplicas settings role demand.gpus demand.replicas).recover
        (before.nextNode.withGpuIdx 0) := by
  have interrupted : before.interruptNode settings role demand.gpus =
      before.nextNode.withGpuIdx 0 := by
    rw [interruptNode, if_pos (Or.inr separates), if_pos (Or.inr separates)]
  rw [replicaPlacementForRole, if_neg some, interrupted]
  exact if_pos separates

theorem recover_placeReplicas_grows (start : before.Reached)
    (recovered : (before.restarted.placeReplicas settings role gpus replicas).recover
      (before.nextNode.withGpuIdx 0) = .ok after) :
    Grows allowed (before.restarted.placeReplicas settings role gpus replicas) after := by
  have grows := @placeReplicas_grows settings before.restarted role gpus replicas (Nat.zero_le _)
  exact recover_grows grows.reached start grows.opened recovered

/-- A placement of a role is the one of its replicas, in which a node may have been left before
and the collected commands may have been handed over in the end. -/
theorem exists_placeReplicas (reached : before.Reached)
    (placed : before.replicaPlacementForRole settings role demand = .ok after) :
    ∃ start, Grows (fun _ => False) before start ∧
      Grows (fun _ => False)
        (start.placeReplicas settings role demand.gpus demand.replicas) after := by
  by_cases none : demand.replicas = 0
  · rw [replicaPlacementForRole, if_pos none] at placed
    cases placed
    refine ⟨_, Grows.refl reached, ?_⟩
    rw [none]
    exact Grows.refl reached
  · by_cases separates : settings.Separates role
    · rw [replicaPlacementForRole_of_separates separates none] at placed
      refine ⟨before.restarted, Grows.of_view (Nat.zero_le _) ?_ fun _ => view_restarted reached,
        recover_placeReplicas_grows reached placed⟩
      exact (advances_nextNode reached).opened
    · rw [replicaPlacementForRole, if_neg none, if_neg separates] at placed
      cases placed
      have interrupted : Grows (fun _ => False) before
          (before.interruptNode settings role demand.gpus) := interruptNode_grows reached
      exact ⟨_, interrupted, Grows.refl (placeReplicas_grows interrupted.reached).reached⟩

theorem replicaPlacementForRole_grows (reached : before.Reached)
    (placed : before.replicaPlacementForRole settings role demand = .ok after) :
    Grows (fun command => command.role = role ∧ command.replica < demand.replicas)
      before after := by
  obtain ⟨start, first, last⟩ := exists_placeReplicas reached placed
  exact (first.mono fun _ => False.elim).trans
    ((placeReplicas_grows first.reached).trans (last.mono fun _ => False.elim))

theorem replicaPlacementForRole_settled (reached : before.Reached)
    (placed : before.replicaPlacementForRole settings role demand = .ok after)
    (fresh : ∀ index node, (before.view node).filter (·.belongs role index) = [])
    (counted : replica < demand.replicas) :
    Settled settings after.view role demand.gpus replica := by
  obtain ⟨start, first, last⟩ := exists_placeReplicas reached placed
  refine settled_of_grows (placeReplicas_settled first.reached (fun index node => ?_) counted) last
    fun _ => False.elim
  rw [first.filter_eq _ fun _ => False.elim]
  exact fresh index node

end NodesManager

end CosmosRl.Launcher
