import Mathlib.Algebra.GroupWithZero.Nat
import CosmosRl.Utils.BroadcastRounds

/-!
Which policy replica saves the checkpoint of a step.

The controller publishes a `BuildMesh` command to the members of every new mesh, a
synchronization of the weights to the replicas that take part in it, and a `DataFetch`
command to the members of the mesh for every step.  On rank 0 of a replica a thread
reads the commands.  A `BuildMesh` goes to the threads of all ranks at once: each sets
`is_master_replica` and hands the mesh to the communicator of its rank.  The other
commands wait in two buffers for the main loops.  A synchronization there waits until
the communicator has built a mesh, while a `DataFetch` only reads the flag.
-/

namespace CosmosRl.Worker

open CosmosRl.Foundation

universe u

/-- A `DataFetch` command. -/
structure DataFetch where
  globalStep : Nat
  itemsCount : Nat
  doSave : Bool
  /-- Recorded beside the code: how many `BuildMesh` commands had been published to the
  replica before this one. -/
  meshesBefore : Nat
  deriving DecidableEq

/-- The commands that the main loops execute. -/
inductive MainLoopCommand (Name : Type u) where
  | policyToPolicyBroadcast (srcReplicaName : Name) (dstReplicaNames : List Name)
  | policyToPolicyUnicast (srcReplicaName dstReplicaName : Name)
  | dataFetch (fetch : DataFetch)
  deriving DecidableEq

inductive PolicyCommand (Name : Type u) where
  | buildMesh (replicaNameToRank : List (Name × Nat))
  | mainLoop (command : MainLoopCommand Name)
  deriving DecidableEq

structure TrainingStep (Name : Type u) where
  globalStep : Nat
  itemsCount : Nat
  doSave : Bool
  members : List Name
  deriving DecidableEq

section Ranks

variable {Name : Type u} [DecidableEq Name]

/-- `BuildMeshCommand.trigger` numbers the replicas in their order. -/
def replicasToRank (names : List Name) : List (Name × Nat) := names.zipIdx

/-- `replica_name_to_rank[replica_name] == 0` -/
def isRankZero (replicaNameToRank : List (Name × Nat)) (name : Name) : Bool :=
  decide (replicaNameToRank.lookup name = some 0)

omit [DecidableEq Name] in
theorem lookup_zipIdx_ne_zero [BEq Name] (names : List Name) (start : Nat) (name : Name) :
    (names.zipIdx (start + 1)).lookup name ≠ some 0 := by
  induction names generalizing start with
  | nil => simp
  | cons head rest ih =>
    rw [List.zipIdx_cons, List.lookup_cons]
    split
    · simp
    · exact ih (start + 1)

theorem isRankZero_replicasToRank (names : List Name) (name : Name) :
    isRankZero (replicasToRank names) name = decide (names.head? = some name) := by
  unfold isRankZero replicasToRank
  cases names with
  | nil => simp
  | cons head rest =>
    rw [List.zipIdx_cons, List.lookup_cons]
    by_cases same : name = head
    · simp [same]
    · have later := lookup_zipIdx_ne_zero rest 0 name
      have apart : (name == head) = false := by simpa using same
      have different : ¬ head = name := fun equal => same equal.symm
      simp [apart, different, later]

end Ranks

/-- The replica sends or receives weights in a command. -/
def MainLoopCommand.synchronizes {Name : Type u} [DecidableEq Name] (replicaName : Name) :
    MainLoopCommand Name → Bool
  | .policyToPolicyBroadcast srcReplicaName dstReplicaNames =>
    decide (replicaName = srcReplicaName ∨ replicaName ∈ dstReplicaNames)
  | .policyToPolicyUnicast srcReplicaName dstReplicaName =>
    decide (replicaName = srcReplicaName ∨ replicaName = dstReplicaName)
  | .dataFetch _ => false

structure PolicyRank (Name : Type u) where
  isMasterReplica : Bool
  /-- How many `BuildMesh` commands have set the flag and gone to the communicator. -/
  meshesSet : Nat
  /-- How many of them the thread of the communicator has taken. -/
  meshesBuilt : Nat
  isCommReady : Bool
  commandBuffer : List (MainLoopCommand Name)
  /-- The values that `step_training` has been called with, by step. -/
  isMasterAt : List (Nat × Bool)
  /-- The steps whose checkpoint this rank has written. -/
  saved : List Nat

structure PolicyReplica (Name : Type u) (worldSize : Nat) where
  /-- Published commands that rank 0 has not read yet. -/
  stream : List (PolicyCommand Name)
  fetchCommandBuffer : List (MainLoopCommand Name)
  /-- The `BuildMesh` commands handed to `DistKVStore.broadcast_command`. -/
  broadcasts : List (List (Name × Nat))
  ranks : Fin worldSize → PolicyRank Name
  /-- The processes of the replica have ended. -/
  stopped : Bool
  /-- Recorded beside the code: all `BuildMesh` commands published to the replica. -/
  meshes : List (List (Name × Nat))

structure PolicyFleet (Name : Type u) (worldSize : Nat) where
  policyInitDone : Bool
  trainingFinished : Bool
  /-- The replicas that have arrived, in the order of `start_time`. -/
  mesh : List Name
  currentStep : Nat
  steps : List (TrainingStep Name)
  replicas : Name → PolicyReplica Name worldSize

inductive FleetEvent (Name : Type u) (worldSize : Nat) where
  /-- The last required replica arrives; the source of the weights arrived first. -/
  | finishInit (names : List Name) (initialized : Name)
  /-- A replica arrives later.  It comes after the replicas of an earlier second. -/
  | register (target : Name) (place : Nat)
  /-- A replica leaves or its heartbeat stays out. -/
  | unregister (name : Name)
  /-- `current_step` has reached `total_steps`. -/
  | finishTraining
  /-- `try_trigger_data_fetch_and_training` starts a step. -/
  | train (itemsCount : Nat) (doSave : Bool)
  /-- `fetch_command` of rank 0 reads the next command. -/
  | fetchCommand (name : Name)
  /-- `DistKVStore.broadcast_command` returns on a rank, which sets its flag. -/
  | setMaster (name : Name) (rank : Fin worldSize)
  /-- The thread of the communicator takes the next mesh. -/
  | buildMesh (name : Name) (rank : Fin worldSize) (created : Bool)
  /-- An operation of the communicator fails. -/
  | failOperation (name : Name) (rank : Fin worldSize)
  /-- `broadcast_command` of the main loops. -/
  | broadcastCommand (name : Name)
  /-- A main loop executes its next command. -/
  | executeCommand (name : Name) (rank : Fin worldSize)
  /-- The processes of a replica end. -/
  | stop (name : Name)

def PolicyRank.initial (Name : Type u) : PolicyRank Name where
  isMasterReplica := true
  meshesSet := 0
  meshesBuilt := 0
  isCommReady := false
  commandBuffer := []
  isMasterAt := []
  saved := []

namespace PolicyRank

variable {Name : Type u}

/-- `execute_data_fetch`: a fake step does not train. -/
def executeDataFetch (state : PolicyRank Name) (fetch : DataFetch) : PolicyRank Name :=
  if fetch.itemsCount = 0 then state
  else
    { state with
        isMasterAt := state.isMasterAt ++ [(fetch.globalStep, state.isMasterReplica)]
        saved := if state.isMasterReplica && fetch.doSave then
          state.saved ++ [fetch.globalStep] else state.saved }

/-- Synchronized weights leave the flag and the buffers as they are. -/
def executeCommand (state : PolicyRank Name) : PolicyRank Name :=
  match state.commandBuffer with
  | [] => state
  | .policyToPolicyBroadcast _ _ :: rest => { state with commandBuffer := rest }
  | .policyToPolicyUnicast _ _ :: rest => { state with commandBuffer := rest }
  | .dataFetch fetch :: rest => { state with commandBuffer := rest }.executeDataFetch fetch

/-- The `DataFetch` that the main loop executes next. -/
def nextFetch (state : PolicyRank Name) : Option DataFetch :=
  match state.commandBuffer with
  | .dataFetch fetch :: _ => some fetch
  | _ => none

/-- `wait_comm_ready` lets a synchronization begin when the communicator is ready. -/
def MayExecute [DecidableEq Name] (state : PolicyRank Name) (name : Name) : Prop :=
  state.commandBuffer ≠ [] ∧
    ∀ command ∈ state.commandBuffer.head?, command.synchronizes name = true →
      state.isCommReady = true

instance [DecidableEq Name] (state : PolicyRank Name) (name : Name) :
    Decidable (state.MayExecute name) :=
  inferInstanceAs (Decidable (_ ∧ ∀ _ ∈ _, _))

end PolicyRank

namespace PolicyReplica

variable {Name : Type u} {worldSize : Nat}

def initial : PolicyReplica Name worldSize where
  stream := []
  fetchCommandBuffer := []
  broadcasts := []
  ranks := fun _ => PolicyRank.initial Name
  stopped := false
  meshes := []

def setRank (replica : PolicyReplica Name worldSize) (rank : Fin worldSize)
    (state : PolicyRank Name) : PolicyReplica Name worldSize :=
  { replica with ranks := fun other => if other = rank then state else replica.ranks other }

def publishMesh (replica : PolicyReplica Name worldSize) (ranks : List (Name × Nat)) :
    PolicyReplica Name worldSize :=
  { replica with
      stream := replica.stream ++ [.buildMesh ranks]
      meshes := replica.meshes ++ [ranks] }

def publish (replica : PolicyReplica Name worldSize) (command : MainLoopCommand Name) :
    PolicyReplica Name worldSize :=
  { replica with stream := replica.stream ++ [.mainLoop command] }

def publishStep (replica : PolicyReplica Name worldSize) (step : TrainingStep Name) :
    PolicyReplica Name worldSize :=
  replica.publish (.dataFetch
    ⟨step.globalStep, step.itemsCount, step.doSave, replica.meshes.length⟩)

/-- `fetch_command` of rank 0 for one command. -/
def fetchCommand (replica : PolicyReplica Name worldSize) : PolicyReplica Name worldSize :=
  match replica.stream with
  | [] => replica
  | .buildMesh ranks :: rest =>
    { replica with stream := rest, broadcasts := replica.broadcasts ++ [ranks] }
  | .mainLoop command :: rest =>
    { replica with
        stream := rest, fetchCommandBuffer := replica.fetchCommandBuffer ++ [command] }

def setMaster [DecidableEq Name] (replica : PolicyReplica Name worldSize) (name : Name)
    (rank : Fin worldSize) : PolicyReplica Name worldSize :=
  match replica.broadcasts[(replica.ranks rank).meshesSet]? with
  | none => replica
  | some replicaNameToRank =>
    replica.setRank rank
      { replica.ranks rank with
          isMasterReplica := isRankZero replicaNameToRank name
          meshesSet := (replica.ranks rank).meshesSet + 1 }

/-- The communicator drops the mesh it has; a mesh of one replica needs nothing else. -/
def buildMesh (replica : PolicyReplica Name worldSize) (rank : Fin worldSize) (created : Bool) :
    PolicyReplica Name worldSize :=
  match replica.broadcasts[(replica.ranks rank).meshesBuilt]? with
  | none => replica
  | some replicaNameToRank =>
    replica.setRank rank
      { replica.ranks rank with
          meshesBuilt := (replica.ranks rank).meshesBuilt + 1
          isCommReady := replicaNameToRank.length == 1 || created }

def failOperation (replica : PolicyReplica Name worldSize) (rank : Fin worldSize) :
    PolicyReplica Name worldSize :=
  replica.setRank rank { replica.ranks rank with isCommReady := false }

/-- `broadcast_command`: all ranks get what rank 0 has buffered. -/
def broadcastCommand (replica : PolicyReplica Name worldSize) : PolicyReplica Name worldSize :=
  { replica with
      fetchCommandBuffer := []
      ranks := fun rank =>
        { replica.ranks rank with
            commandBuffer := (replica.ranks rank).commandBuffer ++ replica.fetchCommandBuffer } }

end PolicyReplica

namespace PolicyFleet

variable {Name : Type u} {worldSize : Nat} [DecidableEq Name]

def initial (currentStep : Nat) : PolicyFleet Name worldSize where
  policyInitDone := false
  trainingFinished := false
  mesh := []
  currentStep := currentStep
  steps := []
  replicas := fun _ => PolicyReplica.initial

def update (state : PolicyFleet Name worldSize) (names : List Name)
    (change : PolicyReplica Name worldSize → PolicyReplica Name worldSize) :
    PolicyFleet Name worldSize :=
  { state with
      replicas := fun name =>
        if name ∈ names then change (state.replicas name) else state.replicas name }

/-- `BuildMeshCommand.trigger` -/
def buildMesh (state : PolicyFleet Name worldSize) (names : List Name) :
    PolicyFleet Name worldSize :=
  { state.update names (·.publishMesh (replicasToRank names)) with mesh := names }

/-- `post_register_hook` when all required replicas have arrived. -/
def finishInit (state : PolicyFleet Name worldSize) (names : List Name) (initialized : Name) :
    PolicyFleet Name worldSize :=
  let built := { state.buildMesh names with policyInitDone := true }
  if 1 < names.length then
    built.update names (·.publish (.policyToPolicyBroadcast initialized names))
  else built

/-- `post_register_hook` of dynamic scaling.  All replicas but the new one have their
weights, so the first of them sends. -/
def register (state : PolicyFleet Name worldSize) (target : Name) (place : Nat) :
    PolicyFleet Name worldSize :=
  match state.mesh with
  | [] => state
  | initialized :: _ =>
    (state.buildMesh (state.mesh.insertIdx place target)).update [initialized, target]
      (·.publish (.policyToPolicyUnicast initialized target))

def unregister (state : PolicyFleet Name worldSize) (name : Name) :
    PolicyFleet Name worldSize :=
  if state.trainingFinished then { state with mesh := state.mesh.erase name }
  else state.buildMesh (state.mesh.erase name)

/-- The step that `try_trigger_data_fetch_and_training` starts next. -/
def nextStep (state : PolicyFleet Name worldSize) (itemsCount : Nat) (doSave : Bool) :
    TrainingStep Name :=
  ⟨state.currentStep + 1, itemsCount, doSave, state.mesh⟩

def train (state : PolicyFleet Name worldSize) (itemsCount : Nat) (doSave : Bool) :
    PolicyFleet Name worldSize :=
  { state.update state.mesh (·.publishStep (state.nextStep itemsCount doSave)) with
      currentStep := state.currentStep + 1
      steps := state.steps ++ [state.nextStep itemsCount doSave] }

def handle (state : PolicyFleet Name worldSize) :
    FleetEvent Name worldSize → PolicyFleet Name worldSize
  | .finishInit names initialized => state.finishInit names initialized
  | .register target place => state.register target place
  | .unregister name => state.unregister name
  | .finishTraining => { state with trainingFinished := true }
  | .train itemsCount doSave => state.train itemsCount doSave
  | .fetchCommand name => state.update [name] PolicyReplica.fetchCommand
  | .setMaster name rank => state.update [name] (·.setMaster name rank)
  | .buildMesh name rank created => state.update [name] (·.buildMesh rank created)
  | .failOperation name rank => state.update [name] (·.failOperation rank)
  | .broadcastCommand name => state.update [name] PolicyReplica.broadcastCommand
  | .executeCommand name rank =>
    state.update [name] fun replica =>
      replica.setRank rank (replica.ranks rank).executeCommand
  | .stop name => state.update [name] fun replica => { replica with stopped := true }

/-- When an event can happen.  A new replica has a name of its own.  The thread of rank 0
reads on when its flag is set, a broadcast returns on a rank when all ranks have finished
the one before, and rank 0 shares new commands when it has executed the old ones. -/
def Allowed [NeZero worldSize] (state : PolicyFleet Name worldSize) :
    FleetEvent Name worldSize → Prop
  | .finishInit names initialized =>
    state.policyInitDone = false ∧ names.Nodup ∧ initialized ∈ names
  | .register target place => state.policyInitDone = true ∧ state.mesh ≠ [] ∧
      target ∉ state.mesh ∧ (state.replicas target).meshes = [] ∧ place ≤ state.mesh.length
  | .unregister name => name ∈ state.mesh
  | .finishTraining => True
  | .train _ _ => state.trainingFinished = false ∧ state.mesh ≠ []
  | .fetchCommand name => (state.replicas name).stopped = false ∧
      ((state.replicas name).ranks 0).meshesSet = (state.replicas name).broadcasts.length
  | .setMaster name rank => (state.replicas name).stopped = false ∧
      ((state.replicas name).ranks rank).meshesSet < (state.replicas name).broadcasts.length ∧
      ∀ other, ((state.replicas name).ranks rank).meshesSet ≤
        ((state.replicas name).ranks other).meshesSet
  | .buildMesh name rank _ => (state.replicas name).stopped = false ∧
      ((state.replicas name).ranks rank).meshesBuilt <
        ((state.replicas name).ranks rank).meshesSet
  | .failOperation name _ => (state.replicas name).stopped = false
  | .broadcastCommand name => (state.replicas name).stopped = false ∧
      ((state.replicas name).ranks 0).commandBuffer = []
  | .executeCommand name rank => (state.replicas name).stopped = false ∧
      ((state.replicas name).ranks rank).MayExecute name
  | .stop name => (state.replicas name).stopped = false

instance [NeZero worldSize] (state : PolicyFleet Name worldSize) :
    (event : FleetEvent Name worldSize) → Decidable (state.Allowed event)
  | .finishInit _ _ => inferInstanceAs (Decidable (_ ∧ _ ∧ _))
  | .register _ _ => inferInstanceAs (Decidable (_ ∧ _ ∧ _ ∧ _ ∧ _))
  | .unregister _ => inferInstanceAs (Decidable (_ ∈ _))
  | .finishTraining => inferInstanceAs (Decidable True)
  | .train _ _ => inferInstanceAs (Decidable (_ ∧ _))
  | .fetchCommand _ => inferInstanceAs (Decidable (_ ∧ _))
  | .setMaster _ _ => inferInstanceAs (Decidable (_ ∧ _ ∧ ∀ _, _))
  | .buildMesh _ _ _ => inferInstanceAs (Decidable (_ ∧ _))
  | .failOperation _ _ => inferInstanceAs (Decidable (_ = _))
  | .broadcastCommand _ => inferInstanceAs (Decidable (_ ∧ _))
  | .executeCommand _ _ => inferInstanceAs (Decidable (_ ∧ _))
  | .stop _ => inferInstanceAs (Decidable (_ = _))

end PolicyFleet

def fleetSystem (Name : Type u) (worldSize : Nat) [DecidableEq Name] [NeZero worldSize] :
    EventSystem (PolicyFleet Name worldSize) (FleetEvent Name worldSize) where
  handle := PolicyFleet.handle
  Allowed := PolicyFleet.Allowed

instance (Name : Type u) (worldSize : Nat) [DecidableEq Name] [NeZero worldSize]
    (state : PolicyFleet Name worldSize) (event : FleetEvent Name worldSize) :
    Decidable ((fleetSystem Name worldSize).Allowed state event) :=
  inferInstanceAs (Decidable (state.Allowed event))

/-- The rule for `setMaster` is what the rounds of the broadcast give: a rank that is
about to return from a round finds the rounds before finished on every rank. -/
theorem finished_before_return {Command : Type u} {worldSize : Nat} {src : Fin worldSize}
    {state : Utils.BroadcastState Command worldSize} (inRound : Utils.InRound src state)
    {rank : Fin worldSize} (returns : (state.ranks rank).phase = .cleanUp) (other : Fin worldSize) :
    (state.ranks rank).counter ≤ (state.ranks other).counter := by
  have reached := inRound.together (state.ranks rank).counter rank other (by
    rw [Utils.DistKVStore.position, returns]
    exact Nat.le_refl _)
  have stage := (state.ranks other).phase.stage_le
  rw [Utils.DistKVStore.position] at reached
  omega

end CosmosRl.Worker
