import Mathlib.Data.List.Nodup
import Mathlib.Data.List.Perm.Subperm
import CosmosRl.Launcher.GpuPacking

/-!
When the placement of all roles is a valid packing.

The replicas of the roles always get their commands.  Where it goes wrong is known from the
demands: a first node that is partly used is not left before it is given away as a whole, and the
rollouts that share the devices of the policy may end on the node behind the ones of the policy.
-/

namespace CosmosRl.Launcher

open List

open CosmosRl.Foundation CosmosRl.Dispatcher

structure IsPacking (settings : LaunchSettings) (demands : Role → Demand) (group : Role → Bool)
    (nodes : Nat → List CommandItem) : Prop where
  settled : ∀ role, ∀ replica < (demands role).replicas,
    Settled settings nodes role (demands role).gpus replica
  others : ∀ role replica node, (demands role).replicas ≤ replica →
    (nodes node).filter (·.belongs role replica) = []
  distinct : ∀ node, (gpusOf group (nodes node)).Nodup
  available : ∀ node, gpusOf group (nodes node) ⊆ settings.availableGpus

/-- The groups of roles in which no GPU is shared. -/
def LaunchSettings.groups (settings : LaunchSettings) : List (Role → Bool) :=
  if settings.rlMode = .colocatedSeparated then [(· ≠ .rollout), (· = .rollout)]
  else [fun _ => true]

/-- What the replicas need, where more than a node is a multiple of a node. -/
structure LaunchRequest where
  settings : LaunchSettings
  demands : Role → Demand
  multiple : ∀ role, settings.nodeSize < (demands role).gpus →
    settings.nodeSize ∣ (demands role).gpus

def LaunchRequest.demand (request : LaunchRequest) : Role → Demand :=
  request.settings.adjusted request.demands

def LaunchRequest.Packs (request : LaunchRequest) : Prop :=
  ∃ manager, replicaPlacement request.settings request.demands = .ok manager ∧
    ∀ group ∈ request.settings.groups,
      IsPacking request.settings request.demand group (contents manager.nodes)

def LaunchSettings.NeedsNodes (settings : LaunchSettings) (demand : Demand) : Prop :=
  0 < demand.replicas ∧ settings.nodeSize < demand.gpus

def Demand.total (demand : Demand) : Nat :=
  demand.replicas * demand.gpus

/-- How many nodes the placement of a role leaves behind when it starts on a free node. -/
def LaunchSettings.nodesLeft (settings : LaunchSettings) (demand : Demand) : Nat :=
  if settings.nodeSize < demand.gpus then
    demand.replicas * (demand.gpus / settings.nodeSize)
  else (demand.replicas - 1) / (settings.nodeSize / demand.gpus)

/-- Some GPUs are used, all of them on the first node. -/
def LaunchSettings.OnFirstNode (settings : LaunchSettings) (used : Nat) : Prop :=
  0 < used ∧ used ≤ settings.nodeSize

/-- No role needs whole nodes after the earlier ones have used a part of the first node, and
rollouts that share the devices of the policy do not end on the node behind them. -/
def LaunchRequest.Fits (request : LaunchRequest) : Prop :=
  let settings := request.settings
  let demand := request.demand
  if settings.rlMode = .colocatedSeparated then
    ¬ (0 < (demand .rollout).replicas ∧ (demand .rollout).gpus ≤ settings.nodeSize ∧
      settings.nodesLeft (demand .rollout) = settings.nodesLeft (demand .policy) + 1)
  else
    ¬ (settings.NeedsNodes (demand .rollout) ∧
      settings.OnFirstNode (demand .policy).total) ∧
    ¬ (settings.NeedsNodes (demand .reference) ∧
      settings.OnFirstNode ((demand .policy).total + (demand .rollout).total))

namespace NodesManager

variable {settings : LaunchSettings} {manager before after : NodesManager} {role : Role}
  {roles : List Role} {demands : Role → Demand} {gpus replicas replica node : Nat}

def placeRoles (settings : LaunchSettings) (demands : Role → Demand) (roles : List Role)
    (manager : NodesManager) : Except PyError NodesManager :=
  roles.foldlM (fun manager role =>
    manager.replicaPlacementForRole settings role (demands role)) manager

theorem placeRoles_cons_ok :
    placeRoles settings demands (role :: roles) before = .ok after ↔
      ∃ middle, before.replicaPlacementForRole settings role (demands role) = .ok middle ∧
        placeRoles settings demands roles middle = .ok after := by
  rw [placeRoles, foldlM_cons]
  cases before.replicaPlacementForRole settings role (demands role) with
  | error failure => exact ⟨fun done => (by cases done), fun ⟨_, done, _⟩ => by cases done⟩
  | ok middle =>
    refine ⟨fun done => ⟨middle, rfl, done⟩, ?_⟩
    rintro ⟨_, same, done⟩
    cases same
    exact done

theorem placeRoles_grows (reached : before.Reached)
    (placed : placeRoles settings demands roles before = .ok after) :
    Grows (fun command => command.role ∈ roles ∧
      command.replica < (demands command.role).replicas) before after := by
  induction roles generalizing before with
  | nil =>
    cases placed
    exact Grows.refl reached
  | cons role roles ih =>
    obtain ⟨middle, first, others⟩ := placeRoles_cons_ok.mp placed
    have grows := replicaPlacementForRole_grows reached first
    refine (grows.mono ?_).trans ((ih grows.reached others).mono ?_)
    · rintro command ⟨same, counted⟩
      exact ⟨same ▸ mem_cons_self, same ▸ counted⟩
    · rintro command ⟨member, counted⟩
      exact ⟨mem_cons_of_mem _ member, counted⟩

theorem placeRoles_settled (reached : before.Reached) (distinct : roles.Nodup)
    (placed : placeRoles settings demands roles before = .ok after)
    (fresh : ∀ role ∈ roles, ∀ index node, (before.view node).filter (·.belongs role index) = [])
    (member : role ∈ roles) (counted : replica < (demands role).replicas) :
    Settled settings after.view role (demands role).gpus replica := by
  induction roles generalizing before with
  | nil => cases member
  | cons first roles ih =>
    obtain ⟨middle, placedFirst, others⟩ := placeRoles_cons_ok.mp placed
    have grows := replicaPlacementForRole_grows reached placedFirst
    have apart := nodup_cons.mp distinct
    rcases mem_cons.mp member with same | member
    · subst same
      have settled := replicaPlacementForRole_settled reached placedFirst
        (fresh role mem_cons_self) counted
      refine settled_of_grows settled (placeRoles_grows grows.reached others) ?_
      rintro command ⟨later, -⟩
      rw [CommandItem.belongs, decide_eq_false_iff_not]
      rintro ⟨own, -⟩
      exact apart.1 (own ▸ later)
    · refine ih grows.reached apart.2 others (fun role later index node => ?_) member
      rw [grows.filter_eq _ fun command own => belongs_eq_false (fun same => ?_) own]
      · exact fresh role (mem_cons_of_mem _ later) index node
      · exact absurd (same ▸ later) apart.1

theorem contents_finish (reached : manager.Reached) :
    contents manager.finish.nodes node = manager.view node := by
  rw [finish]
  split
  case isTrue flushed => exact (view_eq_contents flushed).symm
  case isFalse => exact contents_nextNode reached

end NodesManager

open NodesManager

variable {settings : LaunchSettings} {demands : Role → Demand} {manager : NodesManager}
  {request : LaunchRequest}

theorem replicaPlacement_ok :
    replicaPlacement settings demands = .ok manager ↔
      ∃ placed, placeRoles settings (settings.adjusted demands) [.policy, .rollout, .reference] {} =
        .ok placed ∧ placed.finish = manager := by
  have same : replicaPlacement settings demands = NodesManager.finish <$>
      placeRoles settings (settings.adjusted demands) [.policy, .rollout, .reference] {} := by
    simp only [replicaPlacement, placeRoles, foldlM_cons, foldlM_nil, map_bind, map_pure]
  rw [same]
  cases placeRoles settings (settings.adjusted demands) [.policy, .rollout, .reference] {} with
  | error failure => exact ⟨fun done => (by cases done), fun ⟨_, done, _⟩ => by cases done⟩
  | ok placed =>
    constructor
    · intro done
      cases done
      exact ⟨placed, rfl, rfl⟩
    · rintro ⟨other, sameManager, rfl⟩
      cases sameManager
      rfl

theorem view_empty (node : Nat) : NodesManager.view {} node = [] := by
  simp [view, contents]

theorem reached_empty : NodesManager.Reached {} :=
  Nat.le_refl 0

/-- Whether a placement is a packing only depends on the GPUs of the nodes. -/
theorem isPacking_iff {placed : NodesManager} {group : Role → Bool}
    (done : placeRoles settings demands [.policy, .rollout, .reference] {} = .ok placed) :
    IsPacking settings demands group (contents placed.finish.nodes) ↔
      ∀ node, (gpusOf group (placed.view node)).Nodup ∧
        gpusOf group (placed.view node) ⊆ settings.availableGpus := by
  have grows := placeRoles_grows reached_empty done
  have same : contents placed.finish.nodes = placed.view :=
    funext fun node => contents_finish grows.reached
  have all : ∀ role, role ∈ [Role.policy, .rollout, .reference] := by
    intro role
    cases role <;> simp
  rw [same]
  constructor
  · exact fun packing node => ⟨packing.distinct node, packing.available node⟩
  · intro packed
    refine ⟨fun role replica counted => ?_, fun role replica node behind => ?_,
      fun node => (packed node).1, fun node => (packed node).2⟩
    · refine placeRoles_settled reached_empty (by decide) done (fun _ _ _ node => ?_) (all role)
        counted
      rw [view_empty, filter_nil]
    · rw [grows.filter_eq, view_empty, filter_nil]
      rintro command ⟨-, counted⟩
      rw [CommandItem.belongs, decide_eq_false_iff_not]
      rintro ⟨rfl, rfl⟩
      exact absurd counted (Nat.not_lt.mpr behind)

/-- Only the GPUs of the nodes decide whether the placement packs. -/
theorem packs_iff_exists : request.Packs ↔ ∃ first second third,
    NodesManager.replicaPlacementForRole request.settings {} .policy (request.demand .policy) =
      .ok first ∧
    first.replicaPlacementForRole request.settings .rollout (request.demand .rollout) =
      .ok second ∧
    second.replicaPlacementForRole request.settings .reference (request.demand .reference) =
      .ok third ∧
    ∀ group ∈ request.settings.groups, ∀ node, (gpusOf group (third.view node)).Nodup ∧
      gpusOf group (third.view node) ⊆ request.settings.availableGpus := by
  constructor
  · rintro ⟨manager, placed, packing⟩
    obtain ⟨third, done, rfl⟩ := replicaPlacement_ok.mp placed
    obtain ⟨first, placedFirst, others⟩ := placeRoles_cons_ok.mp done
    obtain ⟨second, placedSecond, last⟩ := placeRoles_cons_ok.mp others
    obtain ⟨_, placedThird, same⟩ := placeRoles_cons_ok.mp last
    cases same
    exact ⟨first, second, third, placedFirst, placedSecond, placedThird,
      fun group member => (isPacking_iff done).mp (packing group member)⟩
  · rintro ⟨first, second, third, placedFirst, placedSecond, placedThird, packed⟩
    have done : placeRoles request.settings request.demand [.policy, .rollout, .reference] {} =
        .ok third := placeRoles_cons_ok.mpr ⟨first, placedFirst, placeRoles_cons_ok.mpr
      ⟨second, placedSecond, placeRoles_cons_ok.mpr ⟨third, placedThird, rfl⟩⟩⟩
    exact ⟨_, replicaPlacement_ok.mpr ⟨third, done, rfl⟩,
      fun group member => (isPacking_iff done).mpr (packed group member)⟩

namespace NodesManager

variable {total : Nat} {role : Role} {gpus replicas replica : Nat} {before after : NodesManager}

/-- As long as what was placed fits on a node, it is collected for the first one. -/
structure Counted (settings : LaunchSettings) (total : Nat) (manager : NodesManager) : Prop where
  first : total ≤ settings.nodeSize → manager.nodes = [] ∧ manager.globalWorkerIdx = 0 ∧
    manager.gpuIdx = total ∧ (gpusOf (fun _ => true) (manager.view 0)).length = total
  later : settings.nodeSize < total → 0 < manager.nodes.length

theorem counted_placeReplica (reached : manager.Reached)
    (counted : Counted settings total manager) :
    Counted settings (total + gpus) (manager.placeReplica settings role gpus replica) := by
  rw [placeReplica]
  split
  case isTrue whole =>
    refine ⟨fun few => by omega, fun _ => ?_⟩
    obtain ⟨advances, current, -⟩ := rounds_added settings role replica reached
      (gpus / settings.nodeSize) (gpus / settings.nodeSize) "localhost"
    have rounds := Nat.div_pos (Nat.le_of_lt whole) settings.nodeSize_pos
    refine Nat.lt_of_lt_of_le ?_ advances.reached
    exact current ▸ Nat.add_pos_right _ rounds
  case isFalse small =>
    constructor
    · intro few
      obtain ⟨closed, current, gpuIdx, used⟩ := counted.first (by omega)
      have same : manager.nodeWithGpus settings gpus = manager :=
        if_neg (gpuIdx.symm ▸ Nat.not_lt.mpr few)
      rw [placeWithinNode, same]
      refine ⟨closed, current, congrArg (· + gpus) gpuIdx, ?_⟩
      rw [view_withGpuIdx, view_append, if_pos current.symm, gpusOf_append, length_append,
        used]
      refine congrArg (total + ·) ?_
      rw [gpusOf, filter_cons_of_pos rfl, filter_nil, flatMap_singleton,
        LaunchSettings.commandForReplica, length_take, length_drop, gpuIdx]
      exact Nat.min_eq_left (Nat.le_sub_of_add_le' few)
    · intro many
      have advances : Advances manager (manager.nodeWithGpus settings gpus) :=
        advances_nodeWithGpus reached
      rcases Nat.lt_or_ge settings.nodeSize total with before | few
      · exact Nat.lt_of_lt_of_le (counted.later before) advances.opened
      · refine Nat.lt_of_lt_of_le ?_ advances.reached
        rw [nodeWithGpus, (counted.first few).2.2.1, if_pos many]
        exact Nat.succ_pos _

theorem counted_placeReplicas (reached : manager.Reached)
    (counted : Counted settings total manager) :
    Counted settings (total + replicas * gpus)
      (manager.placeReplicas settings role gpus replicas) := by
  induction replicas with
  | zero => exact (Nat.zero_mul gpus).symm ▸ counted
  | succ replicas ih =>
    rw [placeReplicas_succ, Nat.succ_mul, ← Nat.add_assoc]
    exact counted_placeReplica (placeReplicas_grows reached).reached ih

theorem interruptNode_of_nil (apart : ¬ settings.Separates role) (closed : manager.nodes = []) :
    manager.interruptNode settings role gpus = manager :=
  if_neg fun interrupted => interrupted.elim (fun opened => opened.1 closed) apart

theorem counted_replicaPlacementForRole {demand : Demand} (apart : ¬ settings.Separates role)
    (reached : before.Reached) (counted : Counted settings total before)
    (placed : before.replicaPlacementForRole settings role demand = .ok after) :
    Counted settings (total + demand.total) after := by
  rw [replicaPlacementForRole, if_neg apart] at placed
  split at placed
  case isTrue none =>
    cases placed
    rw [Demand.total, none, Nat.zero_mul]
    exact counted
  case isFalse =>
    cases placed
    have interrupted : Grows (fun _ => False) before
        (before.interruptNode settings role demand.gpus) := interruptNode_grows reached
    refine counted_placeReplicas interrupted.reached ⟨fun few => ?_, fun many => ?_⟩
    · rw [interruptNode_of_nil apart (counted.first few).1]
      exact counted.first few
    · exact Nat.lt_of_lt_of_le (counted.later many) interrupted.opened

theorem opened_of_counted (counted : Counted settings total manager)
    (unused : ¬ settings.OnFirstNode total) : manager.nodes ≠ [] ∨ manager.gpuIdx = 0 := by
  rcases Nat.lt_or_ge settings.nodeSize total with many | few
  · exact Or.inl (length_pos_iff.mp (counted.later many))
  · exact Or.inr ((counted.first few).2.2.1.trans
      (Nat.eq_zero_of_not_pos fun used => unused ⟨used, few⟩))

/-- More GPUs of the first node are given away than it has. -/
def Overfull (settings : LaunchSettings) (manager : NodesManager) : Prop :=
  settings.nodeSize < (gpusOf (fun _ => true) (manager.view 0)).length

theorem Overfull.of_grows {allowed : CommandItem → Prop} (overfull : Overfull settings before)
    (grows : Grows allowed before after) : Overfull settings after := by
  obtain ⟨commands, grown, -⟩ := grows.added 0
  rw [Overfull, grown, gpusOf_append, length_append]
  exact Nat.lt_add_right _ overfull

theorem overfull_across (whole : settings.nodeSize < gpus) (reached : manager.Reached)
    (current : manager.globalWorkerIdx = 0)
    (used : 0 < (gpusOf (fun _ => true) (manager.view 0)).length) :
    Overfull settings (manager.placeAcrossNodes settings role gpus replica) := by
  obtain ⟨-, -, -, -, command, own, grown⟩ := rounds_added settings role replica reached
    (gpus / settings.nodeSize) (gpus / settings.nodeSize) "localhost"
  have rounds := Nat.div_pos (Nat.le_of_lt whole) settings.nodeSize_pos
  have first := grown 0
  rw [if_pos ⟨Nat.le_of_eq current, Nat.add_pos_right _ rounds⟩] at first
  refine Nat.lt_of_lt_of_eq ?_ (congrArg (fun held => (gpusOf _ held).length) first).symm
  rw [gpusOf_append, length_append, gpusOf, gpusOf, filter_cons_of_pos rfl,
    filter_nil, flatMap_singleton, (own 0).2]
  exact Nat.lt_add_of_pos_left used

/-- A partly used first node that is not open yet is given away as a whole once more. -/
theorem overfull_replicaPlacementForRole {demand : Demand} (apart : ¬ settings.Separates role)
    (reached : before.Reached) (counted : Counted settings total before)
    (used : settings.OnFirstNode total) (needs : settings.NeedsNodes demand)
    (placed : before.replicaPlacementForRole settings role demand = .ok after) :
    Overfull settings after := by
  obtain ⟨closed, current, -, length⟩ := counted.first used.2
  rw [replicaPlacementForRole, if_neg (Nat.ne_of_gt needs.1), if_neg apart,
    interruptNode_of_nil apart closed] at placed
  cases placed
  obtain ⟨replicas, gpus⟩ := demand
  obtain ⟨some, whole⟩ := needs
  induction replicas, some using Nat.le_induction with
  | base =>
    rw [placeReplicas_succ, placeReplica, if_pos whole]
    exact overfull_across whole reached current (length.symm ▸ used.1)
  | succ replicas some ih =>
    rw [placeReplicas_succ]
    exact (ih whole).of_grows (addsReplica (placeReplicas_grows reached).reached).grows

theorem exists_replicaPlacementForRole (apart : ¬ settings.Separates role) (demand : Demand) :
    ∃ after, before.replicaPlacementForRole settings role demand = .ok after := by
  rw [replicaPlacementForRole, if_neg apart]
  split
  · exact ⟨_, rfl⟩
  · exact ⟨_, rfl⟩

theorem packed_empty (group : Role → Bool) : Packed settings group {} :=
  packed_of_unused reached_empty (fun node => by rw [view_empty, gpusOf_nil]) rfl

theorem counted_empty : Counted settings 0 {} where
  first _ := ⟨rfl, rfl, rfl, by rw [view_empty]; rfl⟩
  later many := absurd many (Nat.not_lt_zero _)

end NodesManager

theorem packs_iff_of_apart (apart : request.settings.rlMode ≠ .colocatedSeparated) :
    request.Packs ↔ request.Fits := by
  have apart' : ∀ role, ¬ request.settings.Separates role := fun role separates =>
    apart separates.1
  have groups : request.settings.groups = [fun _ => true] := if_neg apart
  rw [packs_iff_exists, LaunchRequest.Fits, if_neg apart, groups]
  have counted : ∀ {total : Nat} {role : Role} {before after : NodesManager}, before.Reached →
      Counted request.settings total before →
      before.replicaPlacementForRole request.settings role (request.demand role) = .ok after →
      Counted request.settings (total + (request.demand role).total) after :=
    fun reached counted placed => counted_replicaPlacementForRole (apart' _) reached counted placed
  constructor
  · rintro ⟨first, second, third, placedFirst, placedSecond, placedThird, packed⟩
    have growsFirst := replicaPlacementForRole_grows reached_empty placedFirst
    have growsSecond := replicaPlacementForRole_grows growsFirst.reached placedSecond
    have growsThird := replicaPlacementForRole_grows growsSecond.reached placedThird
    have countedFirst := counted reached_empty counted_empty placedFirst
    have countedSecond := counted growsFirst.reached countedFirst placedSecond
    obtain ⟨distinct, available⟩ := packed _ (mem_singleton_self _) 0
    have fitting : ¬ Overfull request.settings third :=
      Nat.not_lt.mpr (subperm_of_subset distinct available).length_le
    rw [Nat.zero_add] at countedFirst countedSecond
    refine ⟨fun ⟨needs, used⟩ => fitting ?_, fun ⟨needs, used⟩ => fitting ?_⟩
    · exact (overfull_replicaPlacementForRole (apart' _) growsFirst.reached countedFirst used needs
        placedSecond).of_grows growsThird
    · exact overfull_replicaPlacementForRole (apart' _) growsSecond.reached countedSecond used needs
        placedThird
  · rintro ⟨second_fits, third_fits⟩
    obtain ⟨first, placedFirst⟩ := exists_replicaPlacementForRole (apart' _) _
    obtain ⟨second, placedSecond⟩ := exists_replicaPlacementForRole (apart' _) _
    obtain ⟨third, placedThird⟩ := exists_replicaPlacementForRole (apart' _) _
    have packedFirst := packed_replicaPlacementForRole (packed_empty fun _ => true) (apart' _)
      (fun _ _ => Or.inr rfl) placedFirst
    have countedFirst := counted reached_empty counted_empty placedFirst
    have countedSecond := counted packedFirst.reached countedFirst placedSecond
    rw [Nat.zero_add] at countedFirst countedSecond
    have packedSecond := packed_replicaPlacementForRole packedFirst (apart' _)
      (fun some whole => opened_of_counted countedFirst fun used =>
        second_fits ⟨⟨some, whole⟩, used⟩) placedSecond
    have packedThird := packed_replicaPlacementForRole packedSecond (apart' _)
      (fun some whole => opened_of_counted countedSecond fun used =>
        third_fits ⟨⟨some, whole⟩, used⟩) placedThird
    refine ⟨first, second, third, placedFirst, placedSecond, placedThird,
      fun group member node => ?_⟩
    cases mem_singleton.mp member
    have held := packedThird.sublist node
    exact ⟨request.settings.distinct.sublist held, held.subset⟩

end CosmosRl.Launcher
