import CosmosRl.Launcher.ReplicaPlacement

/-!
The placement of rollouts on the nodes of the policy.

The nodes that the replicas of a role leave behind are counted.  The rollouts start again on the
first node, and their last commands are lost for want of a node exactly when they end on the node
behind the ones of the policy.
-/

namespace CosmosRl.Launcher

open CosmosRl.Foundation CosmosRl.Dispatcher NodesManager List

/-- Where an item is that is put behind others, so many of which fit in a row. -/
theorem next_in_row (index size : Nat) (more : index % size + 1 < size ∨ size = 0) :
    (index + 1) / size = index / size ∧ (index + 1) % size = index % size + 1 := by
  rcases Nat.eq_zero_or_pos size with none | some
  · simp [none]
  · rw [Nat.div_mod_unique some]
    have split := Nat.div_add_mod index size
    exact ⟨by omega, more.resolve_right (Nat.ne_of_gt some)⟩

theorem next_row (index size : Nat) (full : index % size + 1 = size) :
    (index + 1) / size = index / size + 1 ∧ (index + 1) % size = 0 := by
  have some : 0 < size := by omega
  rw [Nat.div_mod_unique some]
  have split := Nat.div_add_mod index size
  rw [Nat.mul_succ]
  exact ⟨by omega, some⟩

namespace NodesManager

variable {settings : LaunchSettings} {manager before after : NodesManager} {role : Role}
  {gpus replicas replica node : Nat}

theorem placeReplicas_within (small : gpus ≤ settings.nodeSize) (start : manager.gpuIdx = 0) :
    let placed := manager.placeReplicas settings role gpus (replicas + 1)
    placed.globalWorkerIdx =
        manager.globalWorkerIdx + replicas / (settings.nodeSize / gpus) ∧
      placed.gpuIdx = (replicas % (settings.nodeSize / gpus) + 1) * gpus ∧
      placed.commands ≠ [] := by
  induction replicas with
  | zero =>
    have same : manager.nodeWithGpus settings gpus = manager :=
      if_neg (by rw [start, Nat.zero_add]; exact Nat.not_lt.mpr small)
    rw [placeReplicas_succ, placeReplica, if_neg (Nat.not_lt.mpr small), placeWithinNode]
    simp [placeReplicas, same, append, withGpuIdx, start]
  | succ replicas ih =>
    obtain ⟨current, gpuIdx, -⟩ := ih
    rw [placeReplicas_succ, placeReplica, if_neg (Nat.not_lt.mpr small), placeWithinNode,
      nodeWithGpus]
    generalize manager.placeReplicas settings role gpus (replicas + 1) = placed at *
    have next : placed.gpuIdx + gpus = (replicas % (settings.nodeSize / gpus) + 2) * gpus := by
      rw [gpuIdx, ← Nat.succ_mul]
    split
    case isTrue full =>
      rw [next] at full
      have some : 0 < gpus := Nat.pos_of_ne_zero fun none => by simp [none] at full
      have within := Nat.mod_lt replicas (Nat.div_pos small some)
      have behind := (Nat.div_lt_iff_lt_mul some).mpr full
      obtain ⟨row, column⟩ := next_row replicas (settings.nodeSize / gpus) (by omega)
      rw [row, column]
      refine ⟨?_, ?_, append_ne_nil_of_right_ne_nil _ (cons_ne_nil _ _)⟩
      · exact (congrArg (· + 1) current).trans (Nat.add_assoc _ _ _)
      · exact (Nat.zero_add gpus).trans (by rw [Nat.zero_add, Nat.one_mul])
    case isFalse room =>
      rw [next, Nat.not_lt] at room
      obtain ⟨row, column⟩ := next_in_row replicas (settings.nodeSize / gpus) (by
        rcases Nat.eq_zero_or_pos gpus with none | some
        · exact Or.inr (by rw [none, Nat.div_zero])
        · exact Or.inl ((Nat.le_div_iff_mul_le some).mpr room))
      rw [row, column]
      exact ⟨current, next, append_ne_nil_of_right_ne_nil _ (cons_ne_nil _ _)⟩

theorem placeReplicas_across (whole : settings.nodeSize < gpus) (reached : manager.Reached)
    (flushed : manager.commands = []) :
    let placed := manager.placeReplicas settings role gpus replicas
    placed.globalWorkerIdx = manager.globalWorkerIdx + replicas * (gpus / settings.nodeSize) ∧
      placed.commands = [] := by
  induction replicas with
  | zero => exact ⟨by rw [Nat.zero_mul]; rfl, flushed⟩
  | succ replicas ih =>
    rw [placeReplicas_succ, placeReplica, if_pos whole, placeAcrossNodes]
    have grows := @placeReplicas_grows settings _ role gpus replicas reached
    obtain ⟨-, current, -, done, -⟩ := rounds_added settings role replicas grows.reached
      (gpus / settings.nodeSize) (gpus / settings.nodeSize) "localhost"
    refine ⟨?_, done (Nat.div_pos (Nat.le_of_lt whole) settings.nodeSize_pos)⟩
    rw [current, ih.1, Nat.succ_mul, Nat.add_assoc]

/-- Replicas that start on a free node leave commands for the current node unless they need
whole nodes. -/
theorem placeReplicas_counted {demand : Demand} (some : 0 < demand.replicas)
    (reached : manager.Reached) (flushed : manager.commands = []) (start : manager.gpuIdx = 0) :
    let placed := manager.placeReplicas settings role demand.gpus demand.replicas
    placed.globalWorkerIdx = manager.globalWorkerIdx + settings.nodesLeft demand ∧
      (placed.commands = [] ↔ settings.nodeSize < demand.gpus) := by
  obtain ⟨replicas, gpus⟩ := demand
  rw [LaunchSettings.nodesLeft]
  split
  case isTrue whole =>
    have placed := @placeReplicas_across settings manager role gpus replicas whole reached flushed
    exact ⟨placed.1, iff_of_true placed.2 whole⟩
  case isFalse small =>
    obtain ⟨replicas, rfl⟩ := Nat.exists_eq_succ_of_ne_zero (Nat.ne_of_gt some)
    have placed := @placeReplicas_within settings manager role gpus replicas (Nat.not_lt.mp small)
      start
    exact ⟨placed.1, iff_of_false placed.2.2 small⟩

theorem placeReplicas_advances (reached : manager.Reached) :
    Advances manager (manager.placeReplicas settings role gpus replicas) := by
  induction replicas with
  | zero => exact Advances.refl reached
  | succ replicas ih =>
    rw [placeReplicas_succ]
    exact ih.trans (addsReplica ih.reached).advances

theorem recover_ok_iff
    (length : manager.nodes.length = max before.globalWorkerIdx manager.globalWorkerIdx) :
    (∃ after, manager.recover before = .ok after) ↔
      ¬ (manager.commands ≠ [] ∧ manager.globalWorkerIdx = before.globalWorkerIdx) := by
  rw [recover]
  split
  case isTrue further =>
    exact iff_of_true ⟨_, rfl⟩ fun stuck => Nat.ne_of_gt further stuck.2
  case isFalse within =>
    split
    case isTrue flushed => exact iff_of_true ⟨_, rfl⟩ fun stuck => stuck.1 flushed
    case isFalse collected =>
      split
      case isTrue opened => exact iff_of_true ⟨_, rfl⟩ fun stuck => by omega
      case isFalse missing =>
        refine iff_of_false ?_ fun safe => safe ⟨collected, by omega⟩
        rintro ⟨_, done⟩
        cases done

variable {demand : Demand} {group : Role → Bool}

theorem shared_ok_iff (separates : settings.Separates role)
    (length : before.nodes.length = before.globalWorkerIdx) :
    (∃ after, before.replicaPlacementForRole settings role demand = .ok after) ↔
      ¬ (0 < demand.replicas ∧ demand.gpus ≤ settings.nodeSize ∧
        settings.nodesLeft demand = before.globalWorkerIdx + 1) := by
  rcases Nat.eq_zero_or_pos demand.replicas with none | some
  · exact iff_of_true ⟨_, if_pos none⟩ fun stuck => Nat.ne_of_gt stuck.1 none
  · have cleared : before.restarted.Reached := Nat.zero_le _
    obtain ⟨current, flushed⟩ := @placeReplicas_counted settings _ role demand some cleared rfl rfl
    have advances := @placeReplicas_advances settings _ role demand.gpus demand.replicas cleared
    have opened : before.restarted.nodes.length = before.globalWorkerIdx + 1 := by
      refine (advances_nextNode (Nat.le_of_eq length.symm)).length.trans ?_
      rw [length]
      exact Nat.max_eq_right (Nat.le_succ _)
    rw [replicaPlacementForRole_of_separates separates (Nat.ne_of_gt some),
      recover_ok_iff (by rw [advances.length, opened]; rfl)]
    refine not_congr ?_
    rw [Ne, flushed, Nat.not_lt, current]
    constructor
    · rintro ⟨small, same⟩
      exact ⟨some, small, (Nat.zero_add _).symm.trans same⟩
    · rintro ⟨-, small, same⟩
      exact ⟨small, (Nat.zero_add _).trans same⟩

theorem packed_restarted (reached : before.Reached)
    (unused : ∀ node, gpusOf group (before.view node) = []) :
    Packed settings group before.restarted :=
  packed_of_unused (Nat.zero_le _) (fun node => by rw [view_restarted reached, unused]) rfl

/-- The replicas that are placed on the nodes of an earlier role are packed themselves. -/
theorem packed_sharing (separates : settings.Separates role) (reached : before.Reached)
    (unused : ∀ node, gpusOf group (before.view node) = [])
    (placed : before.replicaPlacementForRole settings role demand = .ok after) (node : Nat) :
    (gpusOf group (after.view node)).Sublist settings.availableGpus := by
  rcases Nat.eq_zero_or_pos demand.replicas with none | some
  · rw [replicaPlacementForRole, if_pos none] at placed
    cases placed
    rw [unused]
    exact nil_sublist _
  · rw [replicaPlacementForRole_of_separates separates (Nat.ne_of_gt some)] at placed
    have grows : Grows (fun _ => False) _ after := recover_placeReplicas_grows reached placed
    rw [grows.gpusOf_eq fun _ => False.elim]
    exact (packed_placeReplicas (packed_restarted reached unused) fun _ => rfl).1.sublist node

/-- Other roles do not see the ones that are placed on their nodes. -/
theorem packed_shared (separates : settings.Separates role) (other : group role = false)
    (packed : Packed settings group before)
    (placed : before.replicaPlacementForRole settings role demand = .ok after) :
    Packed settings group after ∧ (0 < demand.replicas → after.nodes ≠ []) := by
  have grows := replicaPlacementForRole_grows packed.reached placed
  have same : ∀ node, gpusOf group (after.view node) =
      gpusOf group ((before.nextNode.withGpuIdx 0).view node) := fun node =>
    (grows.gpusOf_eq fun command own => own.1 ▸ other).trans
      (congrArg _ (view_nextNode packed.reached).symm)
  rcases Nat.eq_zero_or_pos demand.replicas with none | some
  · rw [replicaPlacementForRole, if_pos none] at placed
    cases placed
    exact ⟨packed, fun some => absurd none (Nat.ne_of_gt some)⟩
  · rw [replicaPlacementForRole_of_separates separates (Nat.ne_of_gt some)] at placed
    have left := packed_nextNode packed
    have within := (@packed_placeReplicas settings (fun _ => false) role demand.gpus
      demand.replicas _ (packed_restarted packed.reached fun _ => by simp [gpusOf])
      fun _ => rfl).1.within
    have further : (before.nextNode.withGpuIdx 0).globalWorkerIdx ≤ after.globalWorkerIdx ∧
        after.gpuIdx ≤ settings.nodeSize := by
      rw [recover] at placed
      split at placed
      · rename_i behind
        cases placed
        exact ⟨Nat.le_of_lt behind, within⟩
      · split at placed
        · cases placed
          exact ⟨Nat.le_refl _, Nat.zero_le _⟩
        · split at placed
          · cases placed
            exact ⟨Nat.le_refl _, Nat.zero_le _⟩
          · cases placed
    have unused : ∀ node, after.globalWorkerIdx ≤ node → gpusOf group (after.view node) = [] := by
      intro node behind
      rw [same]
      rcases Nat.lt_or_eq_of_le (Nat.le_trans further.1 behind) with later | here
      · exact left.free node later
      · exact here ▸ left.current_eq_nil rfl
    refine ⟨⟨grows.reached, further.2, fun node _ => ?_, ?_,
      fun node later => unused node (Nat.le_of_lt later)⟩, fun _ => ?_⟩
    · exact same node ▸ left.sublist node
    · exact unused _ (Nat.le_refl _) ▸ nil_sublist _
    · have positive : 0 < after.nodes.length :=
        Nat.lt_of_lt_of_le (Nat.lt_of_lt_of_le (Nat.succ_pos _) further.1) grows.reached
      exact length_pos_iff.mp positive

theorem left_replicaPlacementForRole (apart : ¬ settings.Separates role)
    (placed : NodesManager.replicaPlacementForRole settings {} role demand = .ok after) :
    after.globalWorkerIdx = settings.nodesLeft demand ∧
      after.nodes.length = after.globalWorkerIdx := by
  rw [replicaPlacementForRole, if_neg apart, interruptNode_of_nil apart rfl] at placed
  split at placed
  case isTrue none =>
    cases placed
    refine ⟨?_, rfl⟩
    rw [LaunchSettings.nodesLeft, none]
    split
    · exact (Nat.zero_mul _).symm
    · exact (Nat.zero_div _).symm
  case isFalse some =>
    cases placed
    have counted := @placeReplicas_counted settings {} role demand (Nat.pos_of_ne_zero some)
      reached_empty rfl rfl
    have advances := @placeReplicas_advances settings {} role demand.gpus demand.replicas
      reached_empty
    exact ⟨counted.1.trans (Nat.zero_add _), advances.length.trans (Nat.zero_max _)⟩

end NodesManager

variable {request : LaunchRequest}

theorem replicas_of_no_rollouts (separated : request.settings.rlMode = .colocatedSeparated)
    (none : (request.demand .rollout).replicas = 0) : (request.demand .policy).replicas = 0 := by
  simp only [LaunchRequest.demand, LaunchSettings.adjusted, LaunchSettings.nRollouts, separated,
    if_true] at none
  split at none
  · exact none
  · contradiction

theorem packs_iff_of_separated (separated : request.settings.rlMode = .colocatedSeparated) :
    request.Packs ↔ request.Fits := by
  have rollouts : request.settings.Separates .rollout := ⟨separated, rfl⟩
  have policy : ¬ request.settings.Separates .policy := fun separates => by cases separates.2
  have reference : ¬ request.settings.Separates .reference := fun separates => by cases separates.2
  obtain ⟨first, placedFirst⟩ :=
    @exists_replicaPlacementForRole request.settings _ {} policy (request.demand .policy)
  obtain ⟨current, length⟩ := left_replicaPlacementForRole policy placedFirst
  have fits := @shared_ok_iff _ _ _ (request.demand .rollout) rollouts length
  rw [current] at fits
  rw [packs_iff_exists, LaunchRequest.Fits, if_pos separated]
  refine Iff.trans ?_ fits
  constructor
  · rintro ⟨other, second, -, same, placedSecond, -⟩
    cases placedFirst.symm.trans same
    exact ⟨second, placedSecond⟩
  · rintro ⟨second, placedSecond⟩
    obtain ⟨third, placedThird⟩ := exists_replicaPlacementForRole reference _
    refine ⟨first, second, third, placedFirst, placedSecond, placedThird,
      fun group member node => ?_⟩
    have growsFirst := replicaPlacementForRole_grows reached_empty placedFirst
    have held : (gpusOf group (third.view node)).Sublist request.settings.availableGpus := by
      rw [LaunchSettings.groups, if_pos separated] at member
      rcases mem_cons.mp member with rfl | member
      · have packedFirst := packed_replicaPlacementForRole
          (packed_empty fun role => decide (role ≠ .rollout)) policy (fun _ _ => Or.inr rfl)
          placedFirst
        obtain ⟨packedSecond, opened⟩ := packed_shared rollouts (by decide) packedFirst placedSecond
        refine (packed_replicaPlacementForRole packedSecond reference (fun _ _ => ?_)
          placedThird).sublist node
        rcases Nat.eq_zero_or_pos (request.demand .rollout).replicas with none | some
        · rw [replicaPlacementForRole, if_pos none] at placedSecond
          rw [replicaPlacementForRole,
            if_pos (replicas_of_no_rollouts separated none)] at placedFirst
          cases placedFirst
          cases placedSecond
          exact Or.inr rfl
        · exact Or.inl (opened some)
      · cases mem_singleton.mp member
        have growsSecond := replicaPlacementForRole_grows growsFirst.reached placedSecond
        rw [(replicaPlacementForRole_grows growsSecond.reached placedThird).gpusOf_eq
          fun command own => by rw [own.1]; rfl]
        refine packed_sharing rollouts growsFirst.reached (fun node => ?_) placedSecond node
        rw [growsFirst.gpusOf_eq fun command own => by rw [own.1]; rfl, view_empty, gpusOf_nil]
    exact ⟨request.settings.distinct.sublist held, held.subset⟩

/-- The placement is a valid packing exactly when no partly used first node is given away as a
whole, and no rollouts end on the node behind the ones of the policy. -/
theorem packs_iff (request : LaunchRequest) : request.Packs ↔ request.Fits := by
  by_cases separated : request.settings.rlMode = .colocatedSeparated
  · exact packs_iff_of_separated separated
  · exact packs_iff_of_apart separated

/-- On nodes of two GPUs there is a policy replica with one GPU, and a rollout replica with two
nodes. -/
def overfullRequest : LaunchRequest where
  settings :=
    { rlMode := .disaggregated
      availableGpus := [0, 1]
      getWorkerIp := none
      checked := by decide
      distinct := by decide }
  demands
    | .policy => { replicas := 1, gpus := 1 }
    | .rollout => { replicas := 1, gpus := 4 }
    | .reference => { replicas := 0, gpus := 0 }
  multiple role := by cases role <;> decide

theorem not_packs : ¬ ∀ request : LaunchRequest, request.Packs := by
  intro claimed
  obtain ⟨manager, placed, packing⟩ := claimed overfullRequest
  have single := (packing (fun _ => true) (mem_singleton_self _)).distinct 0
  cases placed
  exact absurd single (by decide)

end CosmosRl.Launcher
