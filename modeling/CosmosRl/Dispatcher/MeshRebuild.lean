import CosmosRl.Dispatcher.Issuing

/-!
Rebuilding the policy mesh, field by field.

With the mesh the total number of steps is recomputed, the queues of the ranks
are distributed anew, and the ranks are written to the replicas.  Only replicas
that have arrived are ever in the mesh or hold weights.
-/

namespace CosmosRl.Dispatcher

open CosmosRl.Foundation

variable {config : Config}

/-- The queues after a rebuild with `numReplicas` replicas. -/
def rebuiltQueues (config : Config) (numReplicas : Nat) (queues : List (List Rollout)) :
    List (List Rollout) :=
  if config.dataDispatchAsRankInMesh then distributeByRank numReplicas queues.flatten
  else queues

/-- The total number of steps after it has been recomputed for `numReplicas`
arrived replicas. -/
def rebuiltTotalSteps (config : Config) (numReplicas : Nat) (controller : Controller) :
    Int :=
  if controller.trainingFinished || decide (numReplicas = 0) then
    controller.policy.totalSteps
  else totalStepsFor config controller.policy.currentStep
    controller.policy.remainSamplesNum numReplicas

theorem length_distributeByRank (numReplicas : Nat) (rollouts : List Rollout) :
    (distributeByRank numReplicas rollouts).length = numReplicas := by
  unfold distributeByRank
  have folded : ∀ queues : List (List Rollout),
      (rollouts.foldl (fun queues rollout =>
        queues.modify (rollout.promptIdx % numReplicas) fun queue => queue ++ [rollout])
        queues).length = queues.length := by
    induction rollouts with
    | nil => exact fun _ => rfl
    | cons rollout rest ih =>
      intro queues
      rw [List.foldl_cons, ih, List.length_modify]
  rw [folded, List.length_replicate]

variable {before after : Controller} {name : ReplicaName} {replica : Replica}
  {controller : Controller} {entry : ReplicaName × Replica}

theorem arrivedReplicas_length_of_shapes
    (same : shapes after.policy.policyReplicas = shapes before.policy.policyReplicas) :
    after.arrivedPolicyReplicas.length = before.arrivedPolicyReplicas.length := by
  have names : after.arrivedPolicyNames = before.arrivedPolicyNames := by
    simp only [Controller.arrivedPolicyNames, Controller.arrivedPolicyReplicas,
      arrivedNames_eq_shapes, same]
  simpa [Controller.arrivedPolicyNames] using congrArg List.length names

structure Rebuilt (config : Config) (before after : Controller) : Prop where
  replicas_eq : after.policy.policyReplicas =
    assignMeshRanks before.sortedPolicyNames before.policy.policyReplicas
  initDone_eq : after.policy.policyInitDone = before.policy.policyInitDone
  status_eq : after.policy.status = before.policy.status
  currentStep_eq : after.policy.currentStep = before.policy.currentStep
  totalSteps_eq : after.policy.totalSteps =
    rebuiltTotalSteps config before.arrivedPolicyReplicas.length before
  buffer_eq : after.policy.rolloutBuffer = before.policy.rolloutBuffer
  queues_eq : after.policy.rolloutBufferPerRank =
    rebuiltQueues config before.arrivedPolicyReplicas.length
      before.policy.rolloutBufferPerRank
  gate_eq : after.dataFetcher.activatedValIter = before.dataFetcher.activatedValIter

theorem recomputeTotalSteps_none (controller : Controller) :
    recomputeTotalSteps config none controller = { controller with
      policy.totalSteps :=
        rebuiltTotalSteps config controller.arrivedPolicyReplicas.length controller } := by
  unfold recomputeTotalSteps rebuiltTotalSteps
  by_cases finished : controller.trainingFinished = true
  · simp [finished]
  · by_cases nobody : controller.arrivedPolicyReplicas.length = 0
    · simp [finished, nobody]
    · simp [finished, nobody]

theorem rebuilt_triggerRebuildPolicyMesh (controller : Controller) :
    Rebuilt config controller (triggerRebuildPolicyMesh config controller) := by
  let ranked : Controller := { publishBuildMesh controller.sortedPolicyNames controller with
    policy.policyReplicas := assignMeshRanks controller.sortedPolicyNames
      controller.policy.policyReplicas }
  have count : ranked.arrivedPolicyReplicas.length =
      controller.arrivedPolicyReplicas.length :=
    arrivedReplicas_length_of_shapes (shapes_assignMeshRanks _ _)
  have names : controller.sortedPolicyNames.length =
      controller.arrivedPolicyReplicas.length := by
    simp [Controller.sortedPolicyNames]
  have total : rebuiltTotalSteps config ranked.arrivedPolicyReplicas.length ranked =
      rebuiltTotalSteps config controller.arrivedPolicyReplicas.length controller := by
    rw [count]
    rfl
  have unfolded : triggerRebuildPolicyMesh config controller =
      rearrangeRolloutBufferAfterMeshRebuild config controller.sortedPolicyNames.length
        { recomputeTotalSteps config none ranked with
          dataFetcher.policyGlobalMeshSize := some controller.sortedPolicyNames.length } := rfl
  rw [unfolded, recomputeTotalSteps_none, total, names]
  unfold rearrangeRolloutBufferAfterMeshRebuild
  by_cases byRank : config.dataDispatchAsRankInMesh = true
  · rw [if_pos byRank]
    exact ⟨rfl, rfl, rfl, rfl, rfl, rfl, by unfold rebuiltQueues; rw [if_pos byRank]; rfl, rfl⟩
  · rw [if_neg byRank]
    exact ⟨rfl, rfl, rfl, rfl, rfl, rfl, by unfold rebuiltQueues; rw [if_neg byRank]; rfl, rfl⟩

/-- Where a replica of the new dictionary comes from: the atoms and the weights
are kept, and only the given names may have been given a rank. -/
theorem mem_assignMeshRanks {names : List ReplicaName} {replicas : Dict ReplicaName Replica}
    (membership : (name, replica) ∈ (assignMeshRanks names replicas).entries) :
    ∃ old, (name, old) ∈ replicas.entries ∧ replica.shape = old.shape ∧
      replica.weightsLoadedInViewOfCommand = old.weightsLoadedInViewOfCommand ∧
      (replica.meshRank = old.meshRank ∨ name ∈ names) := by
  have folded : ∀ (ranks : List (ReplicaName × Nat)) (current : Dict ReplicaName Replica)
      (replica : Replica),
      (name, replica) ∈ (ranks.foldl (fun current rank =>
        current.modify rank.1 fun stored => { stored with meshRank := rank.2 })
        current).entries →
      ∃ old, (name, old) ∈ current.entries ∧ replica.shape = old.shape ∧
        replica.weightsLoadedInViewOfCommand = old.weightsLoadedInViewOfCommand ∧
        (replica.meshRank = old.meshRank ∨ name ∈ ranks.map Prod.fst) := by
    intro ranks
    induction ranks with
    | nil =>
      intro current replica stored
      exact ⟨replica, stored, rfl, rfl, .inl rfl⟩
    | cons rank rest ih =>
      intro current replica stored
      obtain ⟨middle, found, shape, loaded, ranked⟩ := ih _ replica stored
      obtain ⟨old, oldFound, changed⟩ := Dict.mem_entries_mapValues.mp found
      refine ⟨old, oldFound, ?_, ?_, ?_⟩
      · rw [shape, ← changed]
        split <;> rfl
      · rw [loaded, ← changed]
        split <;> rfl
      · by_cases here : name = rank.1
        · exact .inr (by simp [here])
        · rw [if_neg here] at changed
          rw [changed]
          rcases ranked with same | later
          · exact .inl same
          · exact .inr (by simp [later])
  obtain ⟨old, found, shape, loaded, ranked⟩ := folded _ replicas replica membership
  refine ⟨old, found, shape, loaded, ranked.imp_right ?_⟩
  intro inside
  simpa [meshRanks] using inside

theorem mem_arrivedPolicyReplicas :
    entry ∈ controller.arrivedPolicyReplicas ↔
      entry ∈ controller.policy.policyReplicas.entries ∧
        entry.2.allAtomsArrived = true := by
  simp [Controller.arrivedPolicyReplicas, allAtomsArrivedReplicas]

theorem allAtomsArrived_of_shape {first second : Replica} (same : first.shape = second.shape) :
    first.allAtomsArrived = second.allAtomsArrived := by
  rw [← shapeArrived_shape, ← shapeArrived_shape, same]

theorem firstLoadedReplica_eq_none {replicas : List (ReplicaName × Replica)} :
    firstLoadedReplica (sortedByStartTime replicas) = none ↔
      ∀ entry ∈ replicas, entry.2.weightsLoadedInViewOfCommand = false := by
  unfold firstLoadedReplica
  rw [Option.map_eq_none_iff, List.find?_eq_none]
  constructor
  · intro none_loaded entry membership
    simpa using none_loaded entry (mem_sortedByStartTime.mpr membership)
  · intro none_loaded entry membership
    simpa using none_loaded entry (mem_sortedByStartTime.mp membership)

def FlagsArrived (controller : Controller) : Prop :=
  ∀ entry ∈ controller.policy.policyReplicas.entries,
    entry.2.inMesh = true ∨ entry.2.weightsLoadedInViewOfCommand = true →
      entry.2.allAtomsArrived = true

/-- The replicas after a change: each comes from one with the same atoms, and
flags are only set for arrived ones. -/
def FlagsEvolve (before after : Controller) : Prop :=
  ∀ name replica, (name, replica) ∈ after.policy.policyReplicas.entries →
    ∃ old, (name, old) ∈ before.policy.policyReplicas.entries ∧
      replica.shape = old.shape ∧
      (replica.allAtomsArrived = true ∨ (replica.inMesh = old.inMesh ∧
        replica.weightsLoadedInViewOfCommand = old.weightsLoadedInViewOfCommand))

theorem FlagsArrived.evolve {before after : Controller} (flags : FlagsArrived before)
    (evolve : FlagsEvolve before after) : FlagsArrived after := by
  rintro ⟨name, replica⟩ membership set
  obtain ⟨old, found, shape, arrived | ⟨mesh, loaded⟩⟩ := evolve name replica membership
  · exact arrived
  · rw [allAtomsArrived_of_shape shape]
    apply flags (name, old) found
    rw [mesh, loaded] at set
    exact set

theorem mem_sortedPolicyNames_iff_arrived
    (stored : (name, replica) ∈ controller.policy.policyReplicas.entries) :
    name ∈ controller.sortedPolicyNames ↔ replica.allAtomsArrived = true := by
  rw [mem_sortedPolicyNames, mem_arrivedPolicyNames]
  constructor
  · rintro ⟨other, found, arrived⟩
    rw [Dict.get?_eq_some_iff] at found
    rw [Dict.value_unique stored found]
    exact arrived
  · intro arrived
    exact ⟨replica, Dict.get?_eq_some_iff.mpr stored, arrived⟩

theorem Rebuilt.evolve {before after : Controller} (rebuilt : Rebuilt config before after) :
    FlagsEvolve before after := by
  intro name replica membership
  rw [rebuilt.replicas_eq] at membership
  obtain ⟨old, found, shape, loaded, ranked⟩ := mem_assignMeshRanks membership
  refine ⟨old, found, shape, ?_⟩
  rcases ranked with same | named
  · refine .inr ⟨?_, loaded⟩
    unfold Replica.inMesh
    rw [same]
  · rw [mem_sortedPolicyNames_iff_arrived found] at named
    exact .inl ((allAtomsArrived_of_shape shape).trans named)

theorem Rebuilt.loaded (rebuilt : Rebuilt config before after)
    (arrived : entry ∈ after.arrivedPolicyReplicas) :
    ∃ old ∈ before.arrivedPolicyReplicas, old.1 = entry.1 ∧
      entry.2.weightsLoadedInViewOfCommand = old.2.weightsLoadedInViewOfCommand := by
  rw [mem_arrivedPolicyReplicas] at arrived
  obtain ⟨stored, complete⟩ := arrived
  rw [rebuilt.replicas_eq] at stored
  obtain ⟨old, found, shape, loaded, _⟩ := mem_assignMeshRanks stored
  refine ⟨(entry.1, old), ?_, rfl, loaded⟩
  rw [mem_arrivedPolicyReplicas]
  exact ⟨found, (allAtomsArrived_of_shape shape).symm.trans complete⟩

theorem Rebuilt.arrivedCount (rebuilt : Rebuilt config before after) :
    after.arrivedPolicyReplicas.length = before.arrivedPolicyReplicas.length := by
  apply arrivedReplicas_length_of_shapes
  rw [rebuilt.replicas_eq]
  exact shapes_assignMeshRanks _ _

end CosmosRl.Dispatcher
