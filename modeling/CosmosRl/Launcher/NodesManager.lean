import CosmosRl.Dispatcher.Protocol
import CosmosRl.Foundation.Bins

/-!
The launcher's placement of replicas on the GPUs of nodes.

The commands of a node are collected in the manager until the node is full.  Replicas that need
more than a node get a command on each of several nodes.
-/

namespace CosmosRl.Launcher

open CosmosRl.Foundation CosmosRl.Dispatcher

inductive Role where
  | policy
  | rollout
  | reference
  deriving DecidableEq, Repr

inductive RlMode where
  | disaggregated
  | colocated
  | colocatedSeparated
  deriving DecidableEq, Repr

/-- The command of a replica on a node.  The log of the replica is named after its role and
its number. -/
structure CommandItem where
  role : Role
  replica : Nat
  ngpus : Nat
  nnodes : Option Nat := none
  rdzvIp : Option String := none
  gpuDevices : List Nat
  env : Option (List (String × String))
  deriving DecidableEq, Repr

structure LaunchSettings where
  rlMode : RlMode
  availableGpus : List Nat
  getWorkerIp : Option (Nat → String)
  checked : availableGpus.length ∈ [1, 2, 4, 8]
  distinct : availableGpus.Nodup

namespace LaunchSettings

variable (settings : LaunchSettings)

def nodeSize : Nat := settings.availableGpus.length

theorem nodeSize_pos : 0 < settings.nodeSize := by
  have checked := settings.checked
  simp only [List.mem_cons, List.not_mem_nil, or_false] at checked
  rw [nodeSize]
  omega

def env : Option (List (String × String)) :=
  if settings.rlMode = .colocatedSeparated then none
  else some [("PYTORCH_CUDA_ALLOC_CONF", "expandable_segments:True")]

/-- The rollouts use the devices of the policy replicas. -/
def Separates (role : Role) : Prop :=
  settings.rlMode = .colocatedSeparated ∧ role = .rollout

instance decidableSeparates (role : Role) : Decidable (settings.Separates role) :=
  inferInstanceAs (Decidable (_ ∧ _))

/-- The command of a replica on one of the nodes that it needs as a whole. -/
def commandForNode (role : Role) (replica nodesNeeded : Nat) (rdzvIp : String) : CommandItem where
  role := role
  replica := replica
  ngpus := settings.nodeSize
  nnodes := some nodesNeeded
  rdzvIp := some rdzvIp
  gpuDevices := settings.availableGpus
  env := settings.env

def commandForReplica (role : Role) (replica gpus gpuIdx : Nat) : CommandItem where
  role := role
  replica := replica
  ngpus := gpus
  gpuDevices := (settings.availableGpus.drop gpuIdx).take gpus
  env := settings.env

end LaunchSettings

/-- How many replicas there are of a role, and how many GPUs each of them needs. -/
structure Demand where
  replicas : Nat
  gpus : Nat
  deriving DecidableEq, Repr

structure NodesManager where
  nodes : List (List CommandItem) := []
  globalWorkerIdx : Nat := 0
  gpuIdx : Nat := 0
  commands : List CommandItem := []
  deriving DecidableEq, Repr

namespace NodesManager

variable (settings : LaunchSettings) (manager : NodesManager)

/-- The collected commands go to the current node, and the next one becomes the current one. -/
def nextNode : NodesManager where
  nodes := place manager.nodes manager.globalWorkerIdx manager.commands
  globalWorkerIdx := manager.globalWorkerIdx + 1
  gpuIdx := manager.gpuIdx
  commands := []

def append (command : CommandItem) : NodesManager :=
  { manager with commands := manager.commands ++ [command] }

def withGpuIdx (gpuIdx : Nat) : NodesManager :=
  { manager with gpuIdx := gpuIdx }

def clearAll : NodesManager :=
  { manager with globalWorkerIdx := 0, gpuIdx := 0, commands := [] }

/-- Replicas that need whole nodes, and rollouts that use the nodes of the policy, do not begin
on a node that is partly used. -/
def interruptNode (role : Role) (gpus : Nat) : NodesManager :=
  if (manager.nodes ≠ [] ∧ settings.nodeSize < gpus) ∨ settings.Separates role then
    if 0 < manager.gpuIdx ∨ settings.Separates role then
      manager.nextNode.withGpuIdx 0
    else manager
  else manager

/-- One round of the loop over the nodes of a replica, with the address of its first node. -/
def placeOnNode (role : Role) (replica nodesNeeded : Nat) (state : NodesManager × String)
    (nodeInReplica : Nat) : NodesManager × String :=
  ((state.1.append (settings.commandForNode role replica nodesNeeded state.2)).nextNode,
    if nodeInReplica = 0 then
      (settings.getWorkerIp.map (· state.1.globalWorkerIdx)).getD state.2
    else state.2)

def placeAcrossNodes (role : Role) (gpus replica : Nat) : NodesManager :=
  let nodesNeeded := gpus / settings.nodeSize
  ((List.range nodesNeeded).foldl (placeOnNode settings role replica nodesNeeded)
    (manager, "localhost")).1

/-- A node whose remaining GPUs are not enough is left. -/
def nodeWithGpus (gpus : Nat) : NodesManager :=
  if settings.nodeSize < manager.gpuIdx + gpus then manager.nextNode.withGpuIdx 0
  else manager

def placeWithinNode (role : Role) (gpus replica : Nat) : NodesManager :=
  let opened := manager.nodeWithGpus settings gpus
  (opened.append (settings.commandForReplica role replica gpus opened.gpuIdx)).withGpuIdx
    (opened.gpuIdx + gpus)

def placeReplica (role : Role) (gpus : Nat) (manager : NodesManager) (replica : Nat) :
    NodesManager :=
  if settings.nodeSize < gpus then manager.placeAcrossNodes settings role gpus replica
  else manager.placeWithinNode settings role gpus replica

def placeReplicas (role : Role) (gpus replicas : Nat) : NodesManager :=
  (List.range replicas).foldl (placeReplica settings role gpus) manager

/-- After the rollouts the placement goes on behind the nodes of the policy. -/
def recover (backuped : NodesManager) : Except PyError NodesManager :=
  if backuped.globalWorkerIdx < manager.globalWorkerIdx then .ok manager
  else if manager.commands = [] then .ok { backuped with nodes := manager.nodes }
  else if manager.globalWorkerIdx < manager.nodes.length then
    .ok { backuped with
      nodes := place manager.nodes manager.globalWorkerIdx manager.commands }
  else .error .indexError

def replicaPlacementForRole (role : Role) (demand : Demand) : Except PyError NodesManager :=
  if demand.replicas = 0 then .ok manager
  else
    let interrupted := manager.interruptNode settings role demand.gpus
    if settings.Separates role then
      (interrupted.clearAll.placeReplicas settings role demand.gpus demand.replicas).recover
        interrupted
    else .ok (interrupted.placeReplicas settings role demand.gpus demand.replicas)

def finish : NodesManager :=
  if manager.commands = [] then manager else manager.nextNode

end NodesManager

/-- The rollouts share the devices of the policy replicas in the colocated modes. -/
def LaunchSettings.nRollouts (settings : LaunchSettings) (demands : Role → Demand) : Nat :=
  match settings.rlMode with
  | .disaggregated => (demands .rollout).replicas
  | .colocated => 0
  | .colocatedSeparated =>
    if (demands .rollout).replicas = 0 then (demands .policy).replicas
    else (demands .rollout).replicas

def LaunchSettings.adjusted (settings : LaunchSettings) (demands : Role → Demand)
    (role : Role) : Demand :=
  if role = .rollout then { demands role with replicas := settings.nRollouts demands }
  else demands role

def replicaPlacement (settings : LaunchSettings) (demands : Role → Demand) :
    Except PyError NodesManager := do
  let manager ← NodesManager.replicaPlacementForRole settings {} .policy
    (settings.adjusted demands .policy)
  let manager ← manager.replicaPlacementForRole settings .rollout
    (settings.adjusted demands .rollout)
  let manager ← manager.replicaPlacementForRole settings .reference
    (settings.adjusted demands .reference)
  return manager.finish

end CosmosRl.Launcher
