import CosmosRl.Worker.MasterReplica

/-!
One replica saves the checkpoint of a step.

The flag of a rank is that of the last mesh it has been told.  If the last mesh told has
the same first replica as the mesh of the step whenever a rank starts one, all ranks read
the flag that the step's own mesh would give them, and the first replica of the mesh is
the only one to save.
-/

namespace CosmosRl.Worker

open CosmosRl.Foundation List

universe u

variable {Name : Type u} {worldSize : Nat}

def mainLoopOf (commands : List (PolicyCommand Name)) : List (MainLoopCommand Name) :=
  commands.filterMap fun
    | .buildMesh _ => none
    | .mainLoop command => some command

theorem mainLoopOf_append (front back : List (PolicyCommand Name)) :
    mainLoopOf (front ++ back) = mainLoopOf front ++ mainLoopOf back :=
  filterMap_append

namespace PolicyRank

variable {state : PolicyRank Name}

theorem commandBuffer_executeCommand :
    state.executeCommand.commandBuffer = state.commandBuffer.tail := by
  unfold executeCommand
  split
  · rename_i empty
    rw [empty]
    rfl
  · rename_i buffer
    rw [buffer]
    rfl
  · rename_i buffer
    rw [buffer]
    rfl
  · rename_i buffer
    rw [buffer, executeDataFetch]
    split <;> rfl

theorem mem_of_nextFetch {fetch : DataFetch} (next : fetch ∈ state.nextFetch) :
    .dataFetch fetch ∈ state.commandBuffer := by
  unfold nextFetch at next
  split at next
  · rename_i head rest buffer
    rw [buffer, Option.mem_some.mp next]
    exact mem_cons_self
  · exact absurd next (Option.not_mem_none fetch)

end PolicyRank

namespace PolicyReplica

variable (replica : PolicyReplica Name worldSize) (rank : Fin worldSize)

/-- The commands that the main loop of a rank has before it. -/
def pending : List (MainLoopCommand Name) :=
  (replica.ranks rank).commandBuffer ++ replica.fetchCommandBuffer ++ mainLoopOf replica.stream

@[simp]
theorem pending_publishMesh (ranks : List (Name × Nat)) :
    (replica.publishMesh ranks).pending rank = replica.pending rank := by
  rw [pending, publishMesh]
  dsimp only
  rw [mainLoopOf_append]
  simp [mainLoopOf, pending]

@[simp]
theorem pending_publish (command : MainLoopCommand Name) :
    (replica.publish command).pending rank = replica.pending rank ++ [command] := by
  rw [pending, publish]
  dsimp only
  rw [mainLoopOf_append]
  simp [mainLoopOf, pending]

@[simp]
theorem pending_fetchCommand : replica.fetchCommand.pending rank = replica.pending rank := by
  unfold fetchCommand
  split
  · rfl
  · rename_i ranks rest stream
    rw [pending, pending, stream]
    rfl
  · rename_i command rest stream
    rw [pending, pending, stream]
    simp [mainLoopOf]

@[simp]
theorem pending_broadcastCommand :
    replica.broadcastCommand.pending rank = replica.pending rank := by
  simp [pending, broadcastCommand]

theorem kept_fetchCommand : replica.fetchCommand.ranks = replica.ranks ∧
    replica.fetchCommand.meshes = replica.meshes ∧
    replica.fetchCommand.stopped = replica.stopped := by
  unfold fetchCommand
  split <;> exact ⟨rfl, rfl, rfl⟩

theorem ranks_setRank_self (state : PolicyRank Name) :
    (replica.setRank rank state).ranks rank = state :=
  if_pos rfl

theorem ranks_setRank_of_ne (state : PolicyRank Name) {other : Fin worldSize}
    (different : other ≠ rank) : (replica.setRank rank state).ranks other = replica.ranks other :=
  if_neg different

end PolicyReplica

/-- The replica that the last of some meshes numbers first.  A rank that has been told no
mesh takes its own replica for the first. -/
def firstReplica (name : Name) (meshes : List (List (Name × Nat))) : Option Name :=
  match meshes.getLast? with
  | none => some name
  | some replicaNameToRank => replicaNameToRank.head?.map Prod.fst

variable [DecidableEq Name]

namespace PolicyFleet

theorem update_of_mem (state : PolicyFleet Name worldSize) {names : List Name} {name : Name}
    (member : name ∈ names) (change : PolicyReplica Name worldSize → PolicyReplica Name worldSize) :
    (state.update names change).replicas name = change (state.replicas name) :=
  if_pos member

theorem update_of_not_mem (state : PolicyFleet Name worldSize) {names : List Name} {name : Name}
    (absent : name ∉ names) (change : PolicyReplica Name worldSize → PolicyReplica Name worldSize) :
    (state.update names change).replicas name = state.replicas name :=
  if_neg absent

/-- A rank has called `step_training` for a step with this flag. -/
def MasterAt (state : PolicyFleet Name worldSize) (name : Name) (rank : Fin worldSize)
    (globalStep : Nat) (isMasterReplica : Bool) : Prop :=
  (globalStep, isMasterReplica) ∈ ((state.replicas name).ranks rank).isMasterAt

instance (state : PolicyFleet Name worldSize) (name : Name) (rank : Fin worldSize)
    (globalStep : Nat) (isMasterReplica : Bool) :
    Decidable (state.MasterAt name rank globalStep isMasterReplica) :=
  inferInstanceAs (Decidable (_ ∈ _))

def Ran (state : PolicyFleet Name worldSize) (step : TrainingStep Name) : Prop :=
  ∀ name ∈ step.members, (state.replicas name).stopped = false →
    ∀ rank, ∃ isMasterReplica, state.MasterAt name rank step.globalStep isMasterReplica

/-- The ranks of a replica agree, no two replicas are masters of one step, and a step
that has been run has a master, which is the one replica to save it if asked. -/
structure OneMaster (state : PolicyFleet Name worldSize) : Prop where
  agree : ∀ name first second globalStep here there,
    state.MasterAt name first globalStep here →
      state.MasterAt name second globalStep there → here = there
  single : ∀ one other first second globalStep,
    state.MasterAt one first globalStep true →
      state.MasterAt other second globalStep true → one = other
  master : ∀ step ∈ state.steps, step.itemsCount ≠ 0 → state.Ran step →
    ∃ name ∈ step.members, ∀ rank, state.MasterAt name rank step.globalStep true
  saved : ∀ step ∈ state.steps, step.itemsCount ≠ 0 → state.Ran step → step.doSave = true →
    ∃ name ∈ step.members,
      (∀ rank, step.globalStep ∈ ((state.replicas name).ranks rank).saved) ∧
      ∀ other rank, step.globalStep ∈ ((state.replicas other).ranks rank).saved → other = name

/-- A rank trains in the mesh of the step: the last mesh that has set its flag has the
first replica of the last mesh published before the step.  The first replica of a mesh
runs its steps. -/
def TrainsInMesh (state : PolicyFleet Name worldSize) : FleetEvent Name worldSize → Prop
  | .train itemsCount _ => itemsCount ≠ 0 →
      ∀ name ∈ state.mesh.head?, (state.replicas name).stopped = false
  | .executeCommand name rank =>
    ∀ fetch ∈ ((state.replicas name).ranks rank).nextFetch, fetch.itemsCount ≠ 0 →
      firstReplica name
          ((state.replicas name).meshes.take ((state.replicas name).ranks rank).meshesSet) =
        firstReplica name ((state.replicas name).meshes.take fetch.meshesBefore)
  | .stop name => ∀ step ∈ state.steps, step.itemsCount ≠ 0 →
      step.members.head? = some name → ∀ rank,
        step.globalStep ∈ (((state.replicas name).ranks rank).isMasterAt.map Prod.fst)
  | _ => True

instance (state : PolicyFleet Name worldSize) :
    (event : FleetEvent Name worldSize) → Decidable (state.TrainsInMesh event)
  | .train _ _ => inferInstanceAs (Decidable (_ → ∀ _ ∈ _, _))
  | .executeCommand _ _ => inferInstanceAs (Decidable (∀ _ ∈ _, _))
  | .stop _ => inferInstanceAs (Decidable (∀ _ ∈ _, _ → _ → ∀ _, _))
  | .finishInit _ _ | .register _ _ | .unregister _ | .finishTraining | .fetchCommand _
  | .setMaster _ _ | .buildMesh _ _ _ | .failOperation _ _ | .broadcastCommand _ =>
    inferInstanceAs (Decidable True)

end PolicyFleet

variable {meshes : List (List (Name × Nat))}

omit [DecidableEq Name] in
theorem firstReplica_of_getLast? (name : Name) {names : List Name}
    (last : meshes.getLast? = some (replicasToRank names)) :
    firstReplica name meshes = names.head? := by
  rw [firstReplica, last]
  cases names <;> rfl

/-- The `BuildMesh` commands among some commands. -/
def meshesOf (commands : List (PolicyCommand Name)) : List (List (Name × Nat)) :=
  commands.filterMap fun
    | .buildMesh ranks => some ranks
    | .mainLoop _ => none

def DataFetch.OfStep (fetch : DataFetch) (steps : List (TrainingStep Name))
    (meshes : List (List (Name × Nat))) : Prop :=
  ∃ step ∈ steps, step.globalStep = fetch.globalStep ∧ step.itemsCount = fetch.itemsCount ∧
    step.doSave = fetch.doSave ∧ fetch.meshesBefore ≤ meshes.length ∧
    (meshes.take fetch.meshesBefore).getLast? = some (replicasToRank step.members)

omit [DecidableEq Name] in
theorem DataFetch.OfStep.later {fetch : DataFetch} {steps : List (TrainingStep Name)}
    (ofStep : fetch.OfStep steps meshes)
    (newSteps : List (TrainingStep Name)) (newMeshes : List (List (Name × Nat))) :
    fetch.OfStep (steps ++ newSteps) (meshes ++ newMeshes) := by
  obtain ⟨step, member, number, items, save, bounded, last⟩ := ofStep
  refine ⟨step, mem_append_left _ member, number, items, save, ?_, ?_⟩
  · rw [length_append]
    exact Nat.le_add_right_of_le bounded
  · rw [take_append_of_le_length bounded]
    exact last

structure RankInMesh (steps : List (TrainingStep Name)) (name : Name)
    (meshes : List (List (Name × Nat))) (state : PolicyRank Name) : Prop where
  told : state.meshesSet ≤ meshes.length
  flag : state.isMasterReplica =
    decide (firstReplica name (meshes.take state.meshesSet) = some name)
  trained : ∀ entry ∈ state.isMasterAt, ∃ step ∈ steps, step.globalStep = entry.1 ∧
    entry.2 = decide (step.members.head? = some name)
  saves : ∀ globalStep ∈ state.saved, (globalStep, true) ∈ state.isMasterAt
  saved : ∀ step ∈ steps, step.doSave = true → (step.globalStep, true) ∈ state.isMasterAt →
    step.globalStep ∈ state.saved

structure ReplicaInMesh (steps : List (TrainingStep Name)) (name : Name)
    (replica : PolicyReplica Name worldSize) : Prop where
  unread : replica.broadcasts ++ meshesOf replica.stream = replica.meshes
  named : ∀ ranks ∈ replica.meshes, ∃ names, ranks = replicasToRank names
  pending : ∀ rank fetch, .dataFetch fetch ∈ replica.pending rank →
    fetch.OfStep steps replica.meshes
  rank : ∀ rank, RankInMesh steps name replica.meshes (replica.ranks rank)
  finished : replica.stopped = true → ∀ step ∈ steps, step.itemsCount ≠ 0 →
    step.members.head? = some name → ∀ rank,
      step.globalStep ∈ (replica.ranks rank).isMasterAt.map Prod.fst

structure FleetInMesh (state : PolicyFleet Name worldSize) : Prop where
  past : ∀ step ∈ state.steps, step.globalStep ≤ state.currentStep
  numbered : ∀ step ∈ state.steps, ∀ other ∈ state.steps,
    step.globalStep = other.globalStep → step = other
  placed : ∀ step ∈ state.steps, step.members ≠ []
  told : state.trainingFinished = false → ∀ name ∈ state.mesh,
    (state.replicas name).meshes.getLast? = some (replicasToRank state.mesh)
  replica : ∀ name, ReplicaInMesh state.steps name (state.replicas name)

section Replica

variable {steps : List (TrainingStep Name)} {name : Name}
  {replica : PolicyReplica Name worldSize}

omit [DecidableEq Name] in
theorem meshesOf_append (front back : List (PolicyCommand Name)) :
    meshesOf (front ++ back) = meshesOf front ++ meshesOf back :=
  filterMap_append

variable {meshes : List (List (Name × Nat))} {state : PolicyRank Name}

theorem RankInMesh.later
    (inMesh : RankInMesh steps name meshes state) (newSteps : List (TrainingStep Name))
    (newMeshes : List (List (Name × Nat)))
    (untrained : ∀ step ∈ newSteps, ∀ entry ∈ state.isMasterAt, entry.1 ≠ step.globalStep) :
    RankInMesh (steps ++ newSteps) name (meshes ++ newMeshes) state := by
  refine ⟨?_, ?_, ?_, inMesh.saves, ?_⟩
  · rw [length_append]
    exact Nat.le_add_right_of_le inMesh.told
  · rw [take_append_of_le_length inMesh.told]
    exact inMesh.flag
  · intro entry member
    obtain ⟨step, known, number, flag⟩ := inMesh.trained entry member
    exact ⟨step, mem_append_left _ known, number, flag⟩
  · intro step member save master
    rcases mem_append.mp member with old | new
    · exact inMesh.saved step old save master
    · exact absurd rfl (untrained step new _ master)

section

variable (inMesh : ReplicaInMesh steps name replica) {step : TrainingStep Name}

include inMesh

theorem ReplicaInMesh.publishMesh (names : List Name) :
    ReplicaInMesh steps name (replica.publishMesh (replicasToRank names)) := by
  refine ⟨?_, ?_, ?_, ?_, inMesh.finished⟩
  · rw [PolicyReplica.publishMesh]
    dsimp only
    rw [meshesOf_append, ← append_assoc, inMesh.unread]
    rfl
  · intro ranks member
    rcases mem_append.mp member with old | new
    · exact inMesh.named ranks old
    · exact ⟨names, mem_singleton.mp new⟩
  · intro rank fetch member
    rw [PolicyReplica.pending_publishMesh] at member
    simpa [PolicyReplica.publishMesh] using (inMesh.pending rank fetch member).later [] [_]
  · intro rank
    simpa [PolicyReplica.publishMesh] using (inMesh.rank rank).later [] [_] (by simp)

theorem ReplicaInMesh.publish {command : MainLoopCommand Name}
    (ofStep : ∀ fetch, command = .dataFetch fetch → fetch.OfStep steps replica.meshes) :
    ReplicaInMesh steps name (replica.publish command) := by
  refine ⟨?_, inMesh.named, ?_, inMesh.rank, inMesh.finished⟩
  · rw [PolicyReplica.publish]
    dsimp only
    rw [meshesOf_append, ← append_assoc, inMesh.unread]
    exact append_nil _
  · intro rank fetch member
    rw [PolicyReplica.pending_publish] at member
    rcases mem_append.mp member with old | new
    · exact inMesh.pending rank fetch old
    · exact ofStep fetch (mem_singleton.mp new).symm

theorem ReplicaInMesh.laterStep
    (untrained : ∀ rank, ∀ entry ∈ (replica.ranks rank).isMasterAt, entry.1 ≠ step.globalStep)
    (running : step.itemsCount ≠ 0 → step.members.head? = some name → replica.stopped = false) :
    ReplicaInMesh (steps ++ [step]) name replica := by
  refine ⟨inMesh.unread, inMesh.named, ?_, ?_, ?_⟩
  · intro rank fetch member
    simpa using (inMesh.pending rank fetch member).later [step] []
  · intro rank
    have kept := (inMesh.rank rank).later [step] [] (by
      intro other member
      rw [mem_singleton.mp member]
      exact untrained rank)
    simpa using kept
  · intro stopped other member items first rank
    rcases mem_append.mp member with old | new
    · exact inMesh.finished stopped other old items first rank
    · rw [mem_singleton.mp new] at items first
      rw [running items first] at stopped
      cases stopped

theorem ReplicaInMesh.publishStep (member : step ∈ steps)
    (last : replica.meshes.getLast? = some (replicasToRank step.members)) :
    ReplicaInMesh steps name (replica.publishStep step) := by
  apply inMesh.publish
  intro fetch same
  cases same
  refine ⟨step, member, rfl, rfl, rfl, Nat.le_refl _, ?_⟩
  rw [← last]
  exact congrArg List.getLast? take_length

theorem ReplicaInMesh.fetchCommand : ReplicaInMesh steps name replica.fetchCommand := by
  obtain ⟨ranks, meshes, stopped⟩ := replica.kept_fetchCommand
  refine ⟨?_, ?_, ?_, ?_, ?_⟩
  · have unread := inMesh.unread
    unfold PolicyReplica.fetchCommand
    split
    · exact unread
    · rename_i ranks rest stream
      rw [stream] at unread
      rw [append_assoc]
      exact unread
    · rename_i command rest stream
      rw [stream] at unread
      exact unread
  · rw [meshes]
    exact inMesh.named
  · intro rank fetch member
    rw [replica.pending_fetchCommand] at member
    rw [meshes]
    exact inMesh.pending rank fetch member
  · rw [meshes, ranks]
    exact inMesh.rank
  · rw [stopped, ranks]
    exact inMesh.finished

theorem ReplicaInMesh.setRank {rank : Fin worldSize}
    (rankInMesh : RankInMesh steps name replica.meshes state)
    (buffered : state.commandBuffer ⊆ (replica.ranks rank).commandBuffer)
    (kept : ∀ entry ∈ (replica.ranks rank).isMasterAt, entry ∈ state.isMasterAt) :
    ReplicaInMesh steps name (replica.setRank rank state) := by
  refine ⟨inMesh.unread, inMesh.named, ?_, ?_, ?_⟩
  · intro other fetch member
    apply inMesh.pending other fetch
    by_cases same : other = rank
    · subst same
      rw [PolicyReplica.pending, replica.ranks_setRank_self, append_assoc] at member
      rw [PolicyReplica.pending, append_assoc]
      rcases mem_append.mp member with here | later
      · exact mem_append_left _ (buffered here)
      · exact mem_append_right _ later
    · rw [PolicyReplica.pending, replica.ranks_setRank_of_ne rank state same] at member
      exact member
  · intro other
    by_cases same : other = rank
    · subst same
      rw [replica.ranks_setRank_self]
      exact rankInMesh
    · rw [replica.ranks_setRank_of_ne rank state same]
      exact inMesh.rank other
  · intro stopped step member items first other
    have before := inMesh.finished stopped step member items first other
    by_cases same : other = rank
    · subst same
      obtain ⟨entry, present, number⟩ := mem_map.mp before
      rw [replica.ranks_setRank_self]
      exact mem_map.mpr ⟨entry, kept entry present, number⟩
    · rw [replica.ranks_setRank_of_ne rank state same]
      exact before

theorem ReplicaInMesh.setMaster (rank : Fin worldSize) :
    ReplicaInMesh steps name (replica.setMaster name rank) := by
  unfold PolicyReplica.setMaster
  split
  · exact inMesh
  · rename_i ranks next
    have here := inMesh.rank rank
    have known : replica.meshes[(replica.ranks rank).meshesSet]? = some ranks := by
      rw [← inMesh.unread, getElem?_append_left]
      · exact next
      · exact (List.getElem?_eq_some_iff.mp next).1
    refine inMesh.setRank ⟨?_, ?_, here.trained, here.saves, here.saved⟩ (List.Subset.refl _)
      fun entry member => member
    · exact (List.getElem?_eq_some_iff.mp known).1
    · obtain ⟨names, same⟩ := inMesh.named ranks (mem_of_getElem? known)
      rw [same] at known ⊢
      have last : (replica.meshes.take ((replica.ranks rank).meshesSet + 1)).getLast? =
          some (replicasToRank names) := by
        rw [take_add_one, known]
        exact getLast?_concat
      rw [firstReplica_of_getLast? name last]
      exact isRankZero_replicasToRank names name

theorem ReplicaInMesh.buildMesh (rank : Fin worldSize) (created : Bool) :
    ReplicaInMesh steps name (replica.buildMesh rank created) := by
  unfold PolicyReplica.buildMesh
  split
  · exact inMesh
  · have here := inMesh.rank rank
    exact inMesh.setRank ⟨here.told, here.flag, here.trained, here.saves, here.saved⟩
      (List.Subset.refl _) fun entry member => member

theorem ReplicaInMesh.failOperation (rank : Fin worldSize) :
    ReplicaInMesh steps name (replica.failOperation rank) := by
  have here := inMesh.rank rank
  exact inMesh.setRank ⟨here.told, here.flag, here.trained, here.saves, here.saved⟩
    (List.Subset.refl _) fun entry member => member

theorem ReplicaInMesh.broadcastCommand : ReplicaInMesh steps name replica.broadcastCommand := by
  refine ⟨inMesh.unread, inMesh.named, ?_, ?_, inMesh.finished⟩
  · intro rank fetch member
    rw [replica.pending_broadcastCommand] at member
    exact inMesh.pending rank fetch member
  · intro rank
    have here := inMesh.rank rank
    exact ⟨here.told, here.flag, here.trained, here.saves, here.saved⟩

end

theorem RankInMesh.executeDataFetch
    (inMesh : RankInMesh steps name meshes state) (numbered : ∀ step ∈ steps, ∀ other ∈ steps,
      step.globalStep = other.globalStep → step = other)
    {fetch : DataFetch} {step : TrainingStep Name} (known : step ∈ steps)
    (number : step.globalStep = fetch.globalStep) (save : step.doSave = fetch.doSave)
    (flag : fetch.itemsCount ≠ 0 →
      state.isMasterReplica = decide (step.members.head? = some name)) :
    RankInMesh steps name meshes (state.executeDataFetch fetch) := by
  unfold PolicyRank.executeDataFetch
  split
  · exact inMesh
  · rename_i items
    refine ⟨inMesh.told, inMesh.flag, ?_, ?_, ?_⟩
    · intro entry member
      rcases mem_append.mp member with old | new
      · exact inMesh.trained entry old
      · rw [mem_singleton.mp new]
        exact ⟨step, known, number, flag items⟩
    · intro globalStep member
      dsimp only at member ⊢
      split at member
      · rename_i both
        rcases mem_append.mp member with old | new
        · exact mem_append_left _ (inMesh.saves globalStep old)
        · simp only [Bool.and_eq_true] at both
          rw [mem_singleton.mp new, both.1]
          simp
      · exact mem_append_left _ (inMesh.saves globalStep member)
    · intro other member saves master
      dsimp only at master ⊢
      rcases mem_append.mp master with old | new
      · have before := inMesh.saved other member saves old
        split
        · exact mem_append_left _ before
        · exact before
      · obtain ⟨sameNumber, isMaster⟩ := Prod.mk.inj (mem_singleton.mp new)
        have same := numbered other member step known (sameNumber.trans number.symm)
        rw [← isMaster, ← save, ← same, saves]
        simp [sameNumber]

theorem RankInMesh.executeCommand
    (inMesh : RankInMesh steps name meshes state) (numbered : ∀ step ∈ steps, ∀ other ∈ steps,
      step.globalStep = other.globalStep → step = other)
    (ofStep : ∀ fetch ∈ state.nextFetch, fetch.OfStep steps meshes)
    (inTime : ∀ fetch ∈ state.nextFetch, fetch.itemsCount ≠ 0 →
      firstReplica name (meshes.take state.meshesSet) =
        firstReplica name (meshes.take fetch.meshesBefore)) :
    RankInMesh steps name meshes state.executeCommand := by
  have popped : ∀ rest, RankInMesh steps name meshes { state with commandBuffer := rest } :=
    fun _ => ⟨inMesh.told, inMesh.flag, inMesh.trained, inMesh.saves, inMesh.saved⟩
  unfold PolicyRank.executeCommand
  split
  · exact inMesh
  · exact popped _
  · exact popped _
  · rename_i fetch rest buffer
    have next : fetch ∈ state.nextFetch := by
      rw [PolicyRank.nextFetch, buffer]
      rfl
    obtain ⟨step, known, number, items, save, bounded, last⟩ := ofStep fetch next
    apply (popped rest).executeDataFetch numbered known number save
    intro real
    rw [inMesh.flag, inTime fetch next real, firstReplica_of_getLast? name last]

omit [DecidableEq Name] in
theorem isMasterAt_executeCommand {entry : Nat × Bool} (member : entry ∈ state.isMasterAt) :
    entry ∈ state.executeCommand.isMasterAt := by
  unfold PolicyRank.executeCommand
  split
  · exact member
  · exact member
  · exact member
  · unfold PolicyRank.executeDataFetch
    split
    · exact member
    · exact mem_append_left _ member

end Replica

variable {state : PolicyFleet Name worldSize}

theorem fleetInMesh_initial (currentStep : Nat) :
    FleetInMesh (PolicyFleet.initial currentStep : PolicyFleet Name worldSize) := by
  refine ⟨by simp [PolicyFleet.initial], by simp [PolicyFleet.initial],
    by simp [PolicyFleet.initial], by simp [PolicyFleet.initial], ?_⟩
  intro name
  refine ⟨rfl, by simp [PolicyFleet.initial, PolicyReplica.initial],
    by simp [PolicyFleet.initial, PolicyReplica.pending, PolicyReplica.initial,
      PolicyRank.initial, mainLoopOf], ?_,
    by simp [PolicyFleet.initial, PolicyReplica.initial]⟩
  intro rank
  refine ⟨Nat.le_refl 0, ?_, ?_, ?_, ?_⟩
  all_goals simp [PolicyFleet.initial, PolicyReplica.initial, PolicyRank.initial, firstReplica]

section

variable (inMesh : FleetInMesh state)

include inMesh

theorem FleetInMesh.untrained (name : Name) (rank : Fin worldSize) {entry : Nat × Bool}
    (trained : entry ∈ ((state.replicas name).ranks rank).isMasterAt) :
    entry.1 ≠ state.currentStep + 1 := by
  obtain ⟨step, known, number, -⟩ := ((inMesh.replica name).rank rank).trained entry trained
  have past := inMesh.past step known
  omega

/-- An event that publishes no mesh keeps what the controller knows. -/
theorem FleetInMesh.changed {names : List Name}
    {change : PolicyReplica Name worldSize → PolicyReplica Name worldSize}
    (meshes : ∀ name, (change (state.replicas name)).meshes = (state.replicas name).meshes)
    (kept : ∀ name ∈ names, ReplicaInMesh state.steps name (change (state.replicas name))) :
    FleetInMesh (state.update names change) := by
  refine ⟨inMesh.past, inMesh.numbered, inMesh.placed, ?_, ?_⟩
  · intro unfinished name member
    have told := inMesh.told unfinished name member
    by_cases changes : name ∈ names
    · rw [state.update_of_mem changes, meshes]
      exact told
    · rw [state.update_of_not_mem changes]
      exact told
  · intro name
    by_cases changes : name ∈ names
    · rw [state.update_of_mem changes]
      exact kept name changes
    · rw [state.update_of_not_mem changes]
      exact inMesh.replica name

theorem FleetInMesh.buildMesh (names : List Name) : FleetInMesh (state.buildMesh names) := by
  refine ⟨inMesh.past, inMesh.numbered, inMesh.placed, ?_, ?_⟩
  · intro _ name (member : name ∈ names)
    rw [PolicyFleet.buildMesh]
    dsimp only
    rw [state.update_of_mem member]
    exact getLast?_concat
  · intro name
    rw [PolicyFleet.buildMesh]
    dsimp only
    by_cases member : name ∈ names
    · rw [state.update_of_mem member]
      exact (inMesh.replica name).publishMesh names
    · rw [state.update_of_not_mem member]
      exact inMesh.replica name

theorem FleetInMesh.synchronize (names : List Name) {command : MainLoopCommand Name}
    (sync : ∀ fetch, command ≠ .dataFetch fetch) :
    FleetInMesh (state.update names (·.publish command)) :=
  inMesh.changed (fun _ => rfl) fun name _ =>
    (inMesh.replica name).publish fun fetch isFetch => absurd isFetch (sync fetch)

theorem FleetInMesh.finishInit (names : List Name) (initialized : Name) :
    FleetInMesh (state.finishInit names initialized) := by
  have built := inMesh.buildMesh names
  have done : FleetInMesh { state.buildMesh names with policyInitDone := true } :=
    ⟨built.past, built.numbered, built.placed, built.told, built.replica⟩
  unfold PolicyFleet.finishInit
  split
  · exact done.synchronize names fun fetch isFetch => by cases isFetch
  · exact done

theorem FleetInMesh.register (target : Name) (place : Nat) :
    FleetInMesh (state.register target place) := by
  unfold PolicyFleet.register
  split
  · exact inMesh
  · exact (inMesh.buildMesh _).synchronize _ fun fetch isFetch => by cases isFetch

theorem FleetInMesh.unregister (leaving : Name) : FleetInMesh (state.unregister leaving) := by
  unfold PolicyFleet.unregister
  split
  · rename_i finished
    exact ⟨inMesh.past, inMesh.numbered, inMesh.placed,
      fun unfinished => absurd (finished.symm.trans unfinished) (by decide), inMesh.replica⟩
  · exact inMesh.buildMesh _

theorem FleetInMesh.train {itemsCount : Nat} {doSave : Bool}
    (unfinished : state.trainingFinished = false)
    (placed : state.mesh ≠ []) (running : itemsCount ≠ 0 →
      ∀ name ∈ state.mesh.head?, (state.replicas name).stopped = false) :
    FleetInMesh (state.train itemsCount doSave) := by
  have laterStep : ∀ name, ReplicaInMesh (state.steps ++ [state.nextStep itemsCount doSave])
      name (state.replicas name) := by
    intro name
    apply (inMesh.replica name).laterStep
    · intro rank entry trained
      exact inMesh.untrained name rank trained
    · intro items first
      exact running items name first
  refine ⟨?_, ?_, ?_, ?_, ?_⟩
  · intro step member
    rcases mem_append.mp member with old | new
    · exact Nat.le_succ_of_le (inMesh.past step old)
    · rw [mem_singleton.mp new]
      exact Nat.le_refl _
  · intro step member other otherMember same
    rcases mem_append.mp member with old | new
    · rcases mem_append.mp otherMember with otherOld | otherNew
      · exact inMesh.numbered step old other otherOld same
      · have past := inMesh.past step old
        rw [same, mem_singleton.mp otherNew] at past
        exact absurd past (Nat.not_succ_le_self _)
    · rcases mem_append.mp otherMember with otherOld | otherNew
      · have past := inMesh.past other otherOld
        rw [← same, mem_singleton.mp new] at past
        exact absurd past (Nat.not_succ_le_self _)
      · rw [mem_singleton.mp new, mem_singleton.mp otherNew]
  · intro step member
    rcases mem_append.mp member with old | new
    · exact inMesh.placed step old
    · rw [mem_singleton.mp new]
      exact placed
  · intro _ name (member : name ∈ state.mesh)
    rw [PolicyFleet.train]
    dsimp only
    rw [state.update_of_mem member]
    exact inMesh.told unfinished name member
  · intro name
    rw [PolicyFleet.train]
    dsimp only
    by_cases member : name ∈ state.mesh
    · rw [state.update_of_mem member]
      exact (laterStep name).publishStep (by simp) (inMesh.told unfinished name member)
    · rw [state.update_of_not_mem member]
      exact laterStep name

theorem FleetInMesh.executeCommand {name : Name} {rank : Fin worldSize}
    (inTime : state.TrainsInMesh (.executeCommand name rank)) :
    ReplicaInMesh state.steps name
      ((state.replicas name).setRank rank ((state.replicas name).ranks rank).executeCommand) := by
  have here := inMesh.replica name
  apply here.setRank
  · apply (here.rank rank).executeCommand inMesh.numbered _ inTime
    intro fetch next
    apply here.pending rank
    rw [PolicyReplica.pending, append_assoc]
    exact mem_append_left _ (PolicyRank.mem_of_nextFetch next)
  · rw [PolicyRank.commandBuffer_executeCommand]
    exact tail_subset _
  · exact fun entry member => isMasterAt_executeCommand member

/-- One step keeps the fleet in its meshes. -/
theorem FleetInMesh.handle [NeZero worldSize]
    {event : FleetEvent Name worldSize} (allowed : state.Allowed event)
    (inTime : state.TrainsInMesh event) :
    FleetInMesh (state.handle event) := by
  unfold PolicyFleet.handle
  cases event with
  | finishInit names initialized => exact inMesh.finishInit names initialized
  | register target place => exact inMesh.register target place
  | unregister name => exact inMesh.unregister name
  | finishTraining =>
    exact ⟨inMesh.past, inMesh.numbered, inMesh.placed,
      fun unfinished => Bool.noConfusion unfinished, inMesh.replica⟩
  | train itemsCount doSave => exact inMesh.train allowed.1 allowed.2 inTime
  | fetchCommand name =>
    exact inMesh.changed (fun other => (state.replicas other).kept_fetchCommand.2.1)
      fun other _ => (inMesh.replica other).fetchCommand
  | setMaster name rank =>
    apply inMesh.changed
    · intro other
      unfold PolicyReplica.setMaster
      split <;> rfl
    · intro other member
      rw [mem_singleton.mp member]
      exact (inMesh.replica name).setMaster rank
  | buildMesh name rank created =>
    apply inMesh.changed
    · intro other
      unfold PolicyReplica.buildMesh
      split <;> rfl
    · exact fun other _ => (inMesh.replica other).buildMesh rank created
  | failOperation name rank =>
    exact inMesh.changed (fun _ => rfl)
      fun other _ => (inMesh.replica other).failOperation rank
  | broadcastCommand name =>
    exact inMesh.changed (fun _ => rfl)
      fun other _ => (inMesh.replica other).broadcastCommand
  | executeCommand name rank =>
    apply inMesh.changed fun _ => rfl
    intro other member
    rw [mem_singleton.mp member]
    exact inMesh.executeCommand inTime
  | stop name =>
    apply inMesh.changed fun _ => rfl
    intro other member
    rw [mem_singleton.mp member]
    have here := inMesh.replica name
    exact ⟨here.unread, here.named, here.pending, here.rank,
      fun _ step member items first rank => inTime step member items first rank⟩

/-- In their meshes the replicas have one master for every step. -/
theorem FleetInMesh.oneMaster : state.OneMaster := by
  have flagOf : ∀ name rank globalStep isMaster,
      state.MasterAt name rank globalStep isMaster → ∃ step ∈ state.steps,
        step.globalStep = globalStep ∧ isMaster = decide (step.members.head? = some name) := by
    intro name rank globalStep isMaster trained
    exact ((inMesh.replica name).rank rank).trained _ trained
  have single : ∀ one other first second globalStep,
      state.MasterAt one first globalStep true →
        state.MasterAt other second globalStep true → one = other := by
    intro one other first second globalStep isMaster alsoMaster
    obtain ⟨step, known, number, isFirst⟩ := flagOf _ _ _ _ isMaster
    obtain ⟨same, sameKnown, sameNumber, alsoFirst⟩ := flagOf _ _ _ _ alsoMaster
    rw [← inMesh.numbered step known same sameKnown (number.trans sameNumber.symm)] at alsoFirst
    have firstIs := of_decide_eq_true isFirst.symm
    rw [of_decide_eq_true alsoFirst.symm] at firstIs
    exact (Option.some.inj firstIs).symm
  have master : ∀ step ∈ state.steps, step.itemsCount ≠ 0 → state.Ran step →
      ∃ name ∈ step.members, ∀ rank, state.MasterAt name rank step.globalStep true := by
    intro step known items ran
    obtain ⟨name, rest, members⟩ := exists_cons_of_ne_nil (inMesh.placed step known)
    have first : step.members.head? = some name := by rw [members, head?_cons]
    refine ⟨name, by simp [members], ?_⟩
    intro rank
    have trained : ∃ isMaster, state.MasterAt name rank step.globalStep isMaster := by
      cases stopped : (state.replicas name).stopped with
      | false => exact ran name (by simp [members]) stopped rank
      | true =>
        obtain ⟨entry, present, number⟩ := mem_map.mp
          ((inMesh.replica name).finished stopped step known items first rank)
        exact ⟨entry.2, by rw [← number]; exact present⟩
    obtain ⟨isMaster, present⟩ := trained
    obtain ⟨same, sameKnown, number, flag⟩ := flagOf _ _ _ _ present
    rw [inMesh.numbered same sameKnown step known number, first, decide_eq_true rfl] at flag
    rw [← flag]
    exact present
  refine ⟨?_, single, master, ?_⟩
  · intro name one other globalStep here there trained alsoTrained
    obtain ⟨step, known, number, flag⟩ := flagOf _ _ _ _ trained
    obtain ⟨same, sameKnown, sameNumber, sameFlag⟩ := flagOf _ _ _ _ alsoTrained
    rw [flag, sameFlag, inMesh.numbered step known same sameKnown (number.trans sameNumber.symm)]
  · intro step known items ran save
    obtain ⟨name, member, masters⟩ := master step known items ran
    refine ⟨name, member, ?_, ?_⟩
    · intro rank
      exact ((inMesh.replica name).rank rank).saved step known save (masters rank)
    · intro other rank saved
      have alsoMaster := ((inMesh.replica other).rank rank).saves _ saved
      exact single other name rank rank step.globalStep alsoMaster (masters rank)

end

/-- If every rank trains in the mesh of the step, every step has one master, in every
interleaving. -/
theorem oneMaster_run [NeZero worldSize] (currentStep : Nat)
    {events : List (FleetEvent Name worldSize)}
    (run : (fleetSystem Name worldSize).IsRun (.initial currentStep) events)
    (inMesh : (fleetSystem Name worldSize).StepsMeet PolicyFleet.TrainsInMesh
      (.initial currentStep) events) :
    (fleetSystem Name worldSize).Throughout PolicyFleet.OneMaster
      (.initial currentStep) events := by
  have throughout : (fleetSystem Name worldSize).Throughout FleetInMesh
      (.initial currentStep) events :=
    EventSystem.throughout_of_stepsMeet
      (fun state event inMesh allowed inTime => inMesh.handle allowed inTime)
      (fleetInMesh_initial currentStep) run inMesh
  exact throughout.mono fun state inMesh => inMesh.oneMaster

/-- A replica reads the mesh and the broadcast of the weights and takes part in it. -/
def joinMesh (name : Nat) : List (FleetEvent Nat 2) :=
  [.fetchCommand name, .setMaster name 0, .setMaster name 1, .buildMesh name 0 true,
    .buildMesh name 1 true, .fetchCommand name, .broadcastCommand name,
    .executeCommand name 0, .executeCommand name 1]

def twoReplicaStep : List (FleetEvent Nat 2) :=
  [.finishInit [0, 1] 0] ++ joinMesh 0 ++ joinMesh 1 ++ [.train 4 true]

def trainInMesh (name : Nat) : List (FleetEvent Nat 2) :=
  [.fetchCommand name, .broadcastCommand name, .executeCommand name 0, .executeCommand name 1]

/-- The two replicas train two steps, and the second one a third when the first has left. -/
def trainAndLeave : List (FleetEvent Nat 2) :=
  twoReplicaStep ++ trainInMesh 0 ++ trainInMesh 1 ++
    [.unregister 0, .fetchCommand 1, .setMaster 1 0, .setMaster 1 1, .train 4 true] ++
    trainInMesh 1

theorem oneMaster_inMesh :
    (fleetSystem Nat 2).Throughout PolicyFleet.OneMaster (.initial 0) trainAndLeave :=
  oneMaster_run 0 (by decide) (by decide)

/-- The first replica trains and leaves while the second one is at the same step: there
the mesh without the first replica arrives between the two ranks. -/
def leaveWithinStep : List (FleetEvent Nat 2) :=
  twoReplicaStep ++ trainInMesh 0 ++
    [.fetchCommand 1, .broadcastCommand 1, .executeCommand 1 0, .unregister 0,
      .fetchCommand 1, .setMaster 1 0, .setMaster 1 1, .executeCommand 1 1]

theorem not_oneMaster_leaveWithinStep :
    ¬ ∀ events, (fleetSystem Nat 2).IsRun (.initial 0) events →
      (fleetSystem Nat 2).Throughout PolicyFleet.OneMaster (.initial 0) events := by
  intro always
  have oneMaster := (always leaveWithinStep (by decide)).finish
  have same := oneMaster.agree 1 0 1 1 false true (by decide) (by decide)
  cases same

end CosmosRl.Worker
