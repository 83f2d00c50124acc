import CosmosRl.Foundation.Dict
import CosmosRl.Foundation.Outcome
import CosmosRl.Dispatcher.Config

/-!
Replicas, rollouts, and the commands the controller publishes.
-/

namespace CosmosRl.Dispatcher

open CosmosRl.Foundation

/-- Exceptions a handler can end with.  `blocked` is a `Queue.get` on an empty
queue, which never returns. -/
inductive PyError where
  | assertionError (message : String)
  | exception (message : String)
  | runtimeError (message : String)
  | keyError
  | indexError
  | attributeError
  | typeError
  | zeroDivisionError
  | stopIteration
  | blocked
  deriving DecidableEq, Repr

abbrev ReplicaName := Nat

/-- Group sizes in the order of `MESH_NAMES`. -/
structure GroupSize where
  pp : Nat := 1
  dpShard : Nat := 1
  cp : Nat := 1
  tp : Nat := 1
  deriving DecidableEq, Repr

def GroupSize.prod (groupSize : GroupSize) : Nat :=
  groupSize.pp * groupSize.dpShard * groupSize.cp * groupSize.tp

structure Atom where
  replicaName : ReplicaName
  globalRank : Nat
  groupSize : GroupSize
  rank_lt : globalRank < groupSize.prod := by decide

structure Replica where
  atoms : List Nat
  groupSize : GroupSize
  weightsLoadedInViewOfCommand : Bool := false
  startTime : Int := -1
  meshRank : Int := -1
  ended : Bool := false
  deriving DecidableEq, Repr

namespace Replica

def ofAtom (atom : Atom) : Replica :=
  { atoms := [atom.globalRank], groupSize := atom.groupSize }

/-- `Replica.arrive`.  The last assertion of the source compares two products of
the same four sizes and cannot fail. -/
def arrive (atom : Atom) (replica : Replica) : Except PyError Replica :=
  if atom.globalRank ∈ replica.atoms then
    .error (.assertionError
      s!"Atom {atom.replicaName}_{atom.globalRank} already exists")
  else if atom.groupSize ≠ replica.groupSize then
    .error (.assertionError
      s!"Atom {atom.replicaName}_{atom.globalRank} has inconsistent group size")
  else .ok { replica with atoms := replica.atoms ++ [atom.globalRank] }

def allAtomsArrived (replica : Replica) : Bool :=
  decide (replica.atoms.length = replica.groupSize.prod)

def inMesh (replica : Replica) : Bool := decide (0 ≤ replica.meshRank)

end Replica

/-- A generated sample.  `completion` stands for everything the controller
passes on without reading it. -/
structure Rollout where
  promptIdx : Nat
  weightVersion : Nat
  completion : Nat := 0
  deriving DecidableEq, Repr

structure RLPayload where
  promptIdx : Nat
  weightVersion : Nat := 0
  deriving DecidableEq, Repr

inductive Command where
  | weightResume (replicaName : ReplicaName)
  | buildMesh (replicaNameToRank : List (ReplicaName × Nat))
  | policyToPolicyBroadcast (srcReplicaName : ReplicaName)
      (dstReplicaNames : List ReplicaName) (totalSteps : Int)
  | policyToPolicyUnicast (srcReplicaName dstReplicaName : ReplicaName)
      (totalSteps : Int)
  | policyToRolloutUnicast (srcReplicaName dstReplicaName : ReplicaName)
      (doWeightSyncCheck trainableOnly : Bool)
      (weightStep : Option Nat) (totalSteps : Option Int)
  | rolloutToRolloutBroadcast (srcReplicaName : ReplicaName)
      (dstReplicaNames : List ReplicaName)
      (weightStep : Option Nat) (totalSteps : Option Int) (trainableOnly : Bool)
  | dataFetch (replicaName : ReplicaName) (itemsCount globalStep : Nat)
      (totalSteps remainSamplesNum : Int) (doSave : Bool)
  deriving DecidableEq, Repr

inductive Message where
  | command (command : Command)
  | rollout (rollout : Rollout)
  deriving DecidableEq, Repr

structure Published where
  replicaName : ReplicaName
  message : Message
  deriving DecidableEq, Repr

inductive PolicyStatus where
  | uninitialized
  | ready
  | running
  | reduced
  | «end»
  | validated
  deriving DecidableEq, Repr

end CosmosRl.Dispatcher
