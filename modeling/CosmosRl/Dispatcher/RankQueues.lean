import CosmosRl.Dispatcher.RolloutRuns

/-!
Queues and mesh ranks.

With rank-specific dispatch the queue at a position holds the rollouts whose prompt index
has that position as its remainder.  A step serves the queues in the order of the start
times, while the mesh ranks were written when the mesh was built; this module says when
the two agree and shows that building a mesh makes them agree.
-/

namespace CosmosRl.Dispatcher

open CosmosRl.Foundation List

variable {config : Config}

/-- Every rollout is in the queue that its prompt index names. -/
def PlacedByRank (queues : List (List Rollout)) : Prop :=
  ∀ (position : Nat) (queue : List Rollout), queues[position]? = some queue →
    ∀ rollout ∈ queue, rollout.promptIdx % queues.length = position

theorem placedByRank_nil : PlacedByRank [] := by
  intro position queue found
  simp at found

theorem placedByRank_modify {queues : List (List Rollout)} (placed : PlacedByRank queues)
    (rollout : Rollout) :
    PlacedByRank (queues.modify (rollout.promptIdx % queues.length)
      fun queue => queue ++ [rollout]) := by
  intro position queue found other inside
  rw [length_modify]
  rw [getElem?_modify, Option.map_eq_map, Option.map_eq_some_iff] at found
  obtain ⟨old, oldFound, changed⟩ := found
  by_cases here : rollout.promptIdx % queues.length = position
  · rw [if_pos here] at changed
    rw [← changed] at inside
    rcases mem_append.mp inside with earlier | new
    · exact placed position old oldFound other earlier
    · rw [mem_singleton.mp new]
      exact here
  · rw [if_neg here] at changed
    rw [← changed] at inside
    exact placed position old oldFound other inside

theorem placedByRank_distributeByRank (numReplicas : Nat) (rollouts : List Rollout) :
    PlacedByRank (distributeByRank numReplicas rollouts) := by
  have folded : ∀ queues : List (List Rollout), queues.length = numReplicas →
      PlacedByRank queues →
      PlacedByRank (rollouts.foldl (fun queues rollout =>
        queues.modify (rollout.promptIdx % numReplicas) fun queue => queue ++ [rollout])
        queues) := by
    induction rollouts with
    | nil => exact fun _ _ placed => placed
    | cons rollout rest ih =>
      intro queues count placed
      rw [foldl_cons]
      apply ih
      · rw [length_modify, count]
      · rw [← count]
        exact placedByRank_modify placed rollout
  apply folded
  · exact length_replicate
  · intro position queue found rollout inside
    rw [eq_of_mem_replicate (mem_of_getElem? found)] at inside
    cases inside

/-- Taking rollouts out leaves the others in their places. -/
theorem PlacedByRank.left {before after : List (List Rollout)} (placed : PlacedByRank before)
    (sameLength : after.length = before.length)
    (left : ∀ (position : Nat) (queue : List Rollout), after[position]? = some queue →
      ∃ source : List Rollout, before[position]? = some source ∧
        ∀ rollout ∈ queue, rollout ∈ source) : PlacedByRank after := by
  intro position queue found rollout inside
  obtain ⟨source, sourceFound, contained⟩ := left position queue found
  rw [sameLength]
  exact placed position source sourceFound rollout (contained rollout inside)

/-- The mesh ranks follow the start times. -/
def RanksInOrder (replicas : List (ReplicaName × Replica)) : Prop :=
  ∀ (position : Nat) (entry : ReplicaName × Replica),
    (sortedByStartTime replicas)[position]? = some entry → entry.2.meshRank = position

theorem sortedByStartTime_map (change : ReplicaName × Replica → ReplicaName × Replica)
    (sameStart : ∀ entry, (change entry).2.startTime = entry.2.startTime)
    (replicas : List (ReplicaName × Replica)) :
    sortedByStartTime (replicas.map change) = (sortedByStartTime replicas).map change := by
  unfold sortedByStartTime
  symm
  apply map_insertionSort
  intro first _ second _
  rw [sameStart, sameStart]

theorem RanksInOrder.map {replicas : List (ReplicaName × Replica)} (inOrder : RanksInOrder replicas)
    {change : ReplicaName × Replica → ReplicaName × Replica}
    (sameStart : ∀ entry, (change entry).2.startTime = entry.2.startTime)
    (sameRank : ∀ entry, (change entry).2.meshRank = entry.2.meshRank) :
    RanksInOrder (replicas.map change) := by
  intro position entry found
  rw [sortedByStartTime_map change sameStart, getElem?_map, Option.map_eq_some_iff] at found
  obtain ⟨old, oldFound, rfl⟩ := found
  rw [sameRank]
  exact inOrder position old oldFound

theorem assignMeshRanks_eq {names : List ReplicaName} (nodup : names.Nodup)
    (replicas : Dict ReplicaName Replica) :
    assignMeshRanks names replicas = replicas.mapValues fun name stored =>
      if name ∈ names then { stored with meshRank := names.idxOf name } else stored := by
  have folded : ∀ (start : Nat) (current : Dict ReplicaName Replica),
      (names.zipIdx start).foldl (fun current rank =>
        current.modify rank.1 fun stored => { stored with meshRank := rank.2 }) current =
      current.mapValues fun name stored =>
        if name ∈ names then { stored with meshRank := (start + names.idxOf name : Nat) }
        else stored := by
    induction names with
    | nil =>
      intro start current
      apply Dict.ext
      simp [Dict.mapValues]
    | cons first rest ih =>
      intro start current
      obtain ⟨notInRest, restNodup⟩ := nodup_cons.mp nodup
      rw [zipIdx_cons, foldl_cons, ih restNodup]
      apply Dict.ext
      simp only [Dict.modify, Dict.mapValues, map_map]
      apply map_congr_left
      rintro ⟨name, stored⟩ _
      by_cases here : name = first
      · subst here
        simp [notInRest]
      · by_cases later : name ∈ rest
        · have shifted : (first :: rest).idxOf name = rest.idxOf name + 1 :=
            idxOf_cons_ne _ (Ne.symm here)
          simp [here, later, shifted, Nat.add_comm, Nat.add_left_comm]
        · simp [here, later]
  have whole := folded 0 replicas
  simpa [assignMeshRanks, meshRanks] using whole

theorem allAtomsArrivedReplicas_mapValues {change : ReplicaName → Replica → Replica}
    (sameArrival : ∀ name stored, (change name stored).allAtomsArrived = stored.allAtomsArrived)
    (replicas : Dict ReplicaName Replica) :
    allAtomsArrivedReplicas (replicas.mapValues change) =
      (allAtomsArrivedReplicas replicas).map fun entry => (entry.1, change entry.1 entry.2) := by
  unfold allAtomsArrivedReplicas Dict.mapValues
  rw [filter_map]
  congr 1
  apply filter_congr
  intro entry _
  exact sameArrival entry.1 entry.2

theorem nodup_sortedPolicyNames (controller : Controller) : controller.sortedPolicyNames.Nodup :=
  (perm_sortedPolicyNames controller).nodup_iff.mpr (nodup_arrivedPolicyNames controller)

/-- Building a mesh numbers the replicas by their start times. -/
theorem Rebuilt.ranksInOrder {before after : Controller} (rebuilt : Rebuilt config before after) :
    RanksInOrder after.arrivedPolicyReplicas := by
  let names := before.sortedPolicyNames
  let change : ReplicaName × Replica → ReplicaName × Replica := fun entry => (entry.1,
    if entry.1 ∈ names then { entry.2 with meshRank := names.idxOf entry.1 } else entry.2)
  have nodup : names.Nodup := nodup_sortedPolicyNames before
  have changed : after.arrivedPolicyReplicas = before.arrivedPolicyReplicas.map change := by
    unfold Controller.arrivedPolicyReplicas
    rw [rebuilt.replicas_eq, assignMeshRanks_eq nodup]
    apply allAtomsArrivedReplicas_mapValues
    intro name stored
    split <;> rfl
  have sameStart : ∀ entry, (change entry).2.startTime = entry.2.startTime := by
    intro entry
    unfold change
    split <;> rfl
  intro position entry found
  rw [changed, sortedByStartTime_map change sameStart, getElem?_map,
    Option.map_eq_some_iff] at found
  obtain ⟨old, oldFound, rfl⟩ := found
  have named : names[position]? = some old.1 := by
    show (List.map Prod.fst _)[position]? = _
    rw [getElem?_map, oldFound]
    rfl
  obtain ⟨bound, here⟩ := List.getElem?_eq_some_iff.mp named
  have index : names.idxOf old.1 = position := by
    rw [← here]
    exact nodup.idxOf_getElem position bound
  show (if old.1 ∈ names then { old.2 with meshRank := names.idxOf old.1 }
    else old.2).meshRank = position
  rw [if_pos (mem_of_getElem? named), index]

end CosmosRl.Dispatcher
