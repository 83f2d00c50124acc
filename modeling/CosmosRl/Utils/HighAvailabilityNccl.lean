import CosmosRl.Foundation.Dict
import CosmosRl.Foundation.Run

/-!
`HighAvailabilitylNccl` of one rank: a background thread destroys and builds the
communicator while a caller retries a collective.

The background thread holds `build_mesh_lock` from the moment it starts on a command, so
its statements interleave with those of the caller that do without the lock: the checks of
the two flags, and the wait of the watchdog for the stream, which comes after the lock is
released.  What the network and the controller do is an argument of the events.
-/

namespace CosmosRl.Utils

open CosmosRl.Foundation

/-- `replica_name_to_rank` of a mesh. -/
abbrev ReplicaRanks := List (String × Nat)

/-- What stands in `cmd_queue`. -/
inductive NcclCommand where
  | destroy
  | buildMesh (replicaNameToRank : ReplicaRanks)
  deriving DecidableEq, Repr

inductive NcclOp where
  | broadcast (srcReplica : String)
  | allreduce
  | send (dstReplica : String)
  | recv (srcReplica : String)
  deriving DecidableEq, Repr

def NcclOp.peer : NcclOp → Option String
  | .broadcast srcReplica => some srcReplica
  | .allreduce => none
  | .send dstReplica => some dstReplica
  | .recv srcReplica => some srcReplica

inductive BackgroundStage where
  | waiting
  | clearReady (cmd : NcclCommand)
  | abortComm (cmd : NcclCommand)
  | buildMesh (replicaNameToRank : ReplicaRanks)
  | setSinglePeer
  | adoptRanks (replicaNameToRank : ReplicaRanks)
  | clearSinglePeer
  | setReady
  | stopped
  deriving DecidableEq, Repr

/-- The background thread holds `build_mesh_lock`. -/
def BackgroundStage.locks : BackgroundStage → Bool
  | .waiting => false
  | .stopped => false
  | _ => true

/-- How a statement that talks to the controller or to the other replicas ends: with a
result, with an exception that is reported, or with one that ends the thread. -/
inductive BuildOutcome where
  | created
  | failed
  | raised
  deriving DecidableEq, Repr

structure NcclCall where
  op : NcclOp
  rank : Option Nat
  deriving DecidableEq, Repr

inductive CallerStage where
  | idle
  | getReplicaRank (op : NcclOp) (replicaName : String)
  | checkSinglePeer (call : NcclCall)
  | waitCommReady (call : NcclCall) (i : Nat)
  | runFunc (call : NcclCall) (i : Nat)
  | waitStream (call : NcclCall) (i commIdx : Nat) (communicator : ReplicaRanks)
      (mesh : Option ReplicaRanks)
  | recover (call : NcclCall) (i : Nat)
  deriving DecidableEq, Repr

/-- How a call ended: skipped in a mesh, executed on the communicator of one mesh while
another or the same one was the current mesh, returned without a result, or raised. -/
inductive CallOutcome where
  | skipped (mesh : Option ReplicaRanks)
  | executed (call : NcclCall) (communicator : ReplicaRanks) (mesh : Option ReplicaRanks)
      (completed : Bool)
  | exhausted
  | raised
  deriving DecidableEq, Repr

/-- The shared fields, the two threads, and the record of the calls.  The current mesh is
the one of the last command that the background thread has started on. -/
structure HighAvailabilityNccl where
  replicaName : String
  commIdx : Option Nat := none
  replicaNameToRank : ReplicaRanks := []
  isSinglePeer : Bool := false
  isCommReady : Bool := false
  cmdQueue : List NcclCommand := []
  /-- The communicators that have not been aborted. -/
  registry : Dict Nat ReplicaRanks := ∅
  nextIdx : Nat := 0
  background : BackgroundStage := .waiting
  caller : CallerStage := .idle
  mesh : Option ReplicaRanks := none
  outcomes : List CallOutcome := []
  deriving DecidableEq

/-- `max_retry`. -/
def maxRetry : Nat := 3

inductive NcclEvent where
  /-- `push_cmd` and `destroy_nccl_comm`. -/
  | pushCmd (cmd : NcclCommand)
  | shutdown
  /-- The background thread gets a command and the lock. -/
  | takeCmd
  | background (outcome : BuildOutcome)
  | call (op : NcclOp)
  | getReplicaRank
  | checkSinglePeer
  | waitCommReady
  /-- The operation is enqueued, or it raises with or without aborting the communicator. -/
  | enqueued
  | notEnqueued (aborted : Bool)
  /-- The stream is flushed. -/
  | flushed
  /-- Waiting for the stream raises, with or without aborting the communicator. -/
  | timedOut (aborted : Bool)
  /-- The handler of the exception, which may raise when it reports the error. -/
  | recover (reported : Bool)
  deriving DecidableEq, Repr

namespace HighAvailabilityNccl

variable (state : HighAvailabilityNccl)

/-- `nccl_abort`. -/
def ncclAbort (commIdx : Option Nat) : HighAvailabilityNccl :=
  { state with
    registry :=
      match commIdx with
      | none => state.registry
      | some idx => state.registry.erase idx }

/-- `__execute_build_mesh` up to the creation of the communicator. -/
def startBuild (ranks : ReplicaRanks) (outcome : BuildOutcome) : HighAvailabilityNccl :=
  if ranks.length = 1 then
    { state with
      replicaNameToRank := ranks
      background :=
        if state.replicaName ∈ ranks.map Prod.fst then .setSinglePeer else .stopped }
  else if state.replicaName ∈ ranks.map Prod.fst then
    match outcome with
    | .created =>
      { state with
        commIdx := some state.nextIdx
        registry := state.registry.set state.nextIdx ranks
        nextIdx := state.nextIdx + 1
        background := .adoptRanks ranks }
    -- the error is reported, and there is no communicator to destroy
    | .failed => { state with isCommReady := false, background := .waiting }
    | .raised => { state with background := .stopped }
  else { state with background := .stopped }

def backgroundStep (outcome : BuildOutcome) : HighAvailabilityNccl :=
  match state.background with
  | .waiting => state
  | .clearReady cmd => { state with isCommReady := false, background := .abortComm cmd }
  | .abortComm cmd =>
    { state.ncclAbort state.commIdx with
      commIdx := none
      background :=
        match cmd with
        | .destroy => .waiting
        | .buildMesh ranks => .buildMesh ranks }
  | .buildMesh ranks => state.startBuild ranks outcome
  | .setSinglePeer => { state with isSinglePeer := true, background := .setReady }
  | .adoptRanks ranks =>
    { state with replicaNameToRank := ranks, background := .clearSinglePeer }
  | .clearSinglePeer => { state with isSinglePeer := false, background := .setReady }
  | .setReady =>
    { state with
      isCommReady := true
      -- clearing the store of the old mesh may raise
      background := if outcome = .raised then .stopped else .waiting }
  | .stopped => state

def takeCmd : HighAvailabilityNccl :=
  match state.cmdQueue with
  | [] => state
  | cmd :: cmdQueue =>
    { state with
      cmdQueue := cmdQueue
      background := .clearReady cmd
      mesh :=
        match cmd with
        | .destroy => none
        | .buildMesh ranks => some ranks }

def finish (outcome : CallOutcome) : HighAvailabilityNccl :=
  { state with caller := .idle, outcomes := outcome :: state.outcomes }

/-- `broadcast`, `allreduce`, `send` and `recv`. -/
def startCall (op : NcclOp) : HighAvailabilityNccl :=
  { state with
    caller :=
      match op.peer with
      | some replicaName => .getReplicaRank op replicaName
      | none => .checkSinglePeer ⟨op, none⟩ }

/-- `get_replica_rank`, after the wait. -/
def getReplicaRank : HighAvailabilityNccl :=
  match state.caller with
  | .getReplicaRank op replicaName =>
    match state.replicaNameToRank.lookup replicaName with
    | some rank => { state with caller := .checkSinglePeer ⟨op, some rank⟩ }
    | none => state.finish .raised
  | _ => state

/-- The check in front of the loop of `__do_nccl_op_with_retry`. -/
def checkSinglePeer : HighAvailabilityNccl :=
  match state.caller with
  | .checkSinglePeer call =>
    if state.isSinglePeer then state.finish (.skipped state.mesh)
    else { state with caller := .waitCommReady call 0 }
  | _ => state

def waitCommReady : HighAvailabilityNccl :=
  match state.caller with
  | .waitCommReady call i => { state with caller := .runFunc call i }
  | _ => state

/-- The communicator of `comm_idx`, which raises a `KeyError` if it is not registered. -/
def communicator : Option ReplicaRanks := state.commIdx.bind state.registry.get?

/-- `func` enqueues the operation on the communicator. -/
def enqueue : HighAvailabilityNccl :=
  match state.caller, state.commIdx, state.communicator with
  | .runFunc call i, some commIdx, some communicator =>
    { state with caller := .waitStream call i commIdx communicator state.mesh }
  | _, _, _ => state

def enqueueFails (aborted : Bool) : HighAvailabilityNccl :=
  match state.caller with
  | .runFunc call i =>
    { (if aborted then state.ncclAbort state.commIdx else state) with
      caller := .recover call i }
  | _ => state

def flush : HighAvailabilityNccl :=
  match state.caller with
  | .waitStream call _ commIdx communicator mesh =>
    state.finish (.executed call communicator mesh (state.registry.get? commIdx).isSome)
  | _ => state

def streamFails (aborted : Bool) : HighAvailabilityNccl :=
  match state.caller with
  | .waitStream call i commIdx _ _ =>
    { (if aborted then state.ncclAbort (some commIdx) else state) with
      caller := .recover call i }
  | _ => state

def recover (reported : Bool) : HighAvailabilityNccl :=
  match state.caller with
  | .recover call i =>
    if reported then
      if i + 1 < maxRetry then
        { state with isCommReady := false, caller := .waitCommReady call (i + 1) }
      else { state with isCommReady := false }.finish .exhausted
    else { state with isCommReady := false }.finish .raised
  | _ => state

def handle : NcclEvent → HighAvailabilityNccl
  | .pushCmd cmd => { state with cmdQueue := state.cmdQueue ++ [cmd] }
  | .shutdown => { state with background := .stopped }
  | .takeCmd => state.takeCmd
  | .background outcome => state.backgroundStep outcome
  | .call op => state.startCall op
  | .getReplicaRank => state.getReplicaRank
  | .checkSinglePeer => state.checkSinglePeer
  | .waitCommReady => state.waitCommReady
  | .enqueued => state.enqueue
  | .notEnqueued aborted => state.enqueueFails aborted
  | .flushed => state.flush
  | .timedOut aborted => state.streamFails aborted
  | .recover reported => state.recover reported

/-- When a thread can take its next step.  The lock is free when the background thread
waits for a command or has ended, since the caller gives it back before it waits. -/
def Allowed : NcclEvent → Prop
  | .pushCmd _ => True
  | .shutdown => state.background = .waiting
  | .takeCmd => state.background = .waiting ∧ state.cmdQueue ≠ []
  | .background _ => state.background.locks = true
  | .call _ => state.caller = .idle
  | .getReplicaRank | .waitCommReady => state.isCommReady = true
  | .enqueued => state.background.locks = false ∧ state.communicator.isSome = true
  | .notEnqueued _ => state.background.locks = false
  | .checkSinglePeer | .flushed | .timedOut _ | .recover _ => True

instance (event : NcclEvent) : Decidable (state.Allowed event) :=
  match event with
  | .pushCmd _ => inferInstanceAs (Decidable True)
  | .shutdown => inferInstanceAs (Decidable (_ = _))
  | .takeCmd => inferInstanceAs (Decidable (_ ∧ _ ≠ _))
  | .background _ => inferInstanceAs (Decidable (_ = _))
  | .call _ => inferInstanceAs (Decidable (_ = _))
  | .getReplicaRank => inferInstanceAs (Decidable (_ = _))
  | .checkSinglePeer => inferInstanceAs (Decidable True)
  | .waitCommReady => inferInstanceAs (Decidable (_ = _))
  | .enqueued => inferInstanceAs (Decidable (_ ∧ _))
  | .notEnqueued _ => inferInstanceAs (Decidable (_ = _))
  | .flushed => inferInstanceAs (Decidable True)
  | .timedOut _ => inferInstanceAs (Decidable True)
  | .recover _ => inferInstanceAs (Decidable True)

end HighAvailabilityNccl

def ncclThreads : EventSystem HighAvailabilityNccl NcclEvent where
  handle := HighAvailabilityNccl.handle
  Allowed := HighAvailabilityNccl.Allowed

instance (state : HighAvailabilityNccl) (event : NcclEvent) :
    Decidable (ncclThreads.Allowed state event) :=
  inferInstanceAs (Decidable (state.Allowed event))

end CosmosRl.Utils
