import Mathlib.Data.Fintype.Basic
import CosmosRl.Foundation.Run

/-!
`DistKVStore.broadcast_command`: how a command gets from one rank of a replica to
all of them.

Every rank runs its own copy of the loop.  One attempt sets or awaits the key of
the current round, reads it, marks the rank as done and awaits the marks of all
ranks; the `finally` clause then deletes the keys of the previous round and ends
the call, unless an earlier attempt of the same call raised an exception.  The
ranks take these steps in any order, and every operation of the store may raise,
before or after it had its effect.  A wait that raises is `blocking_wait` giving
up after its last retry.  Runs end before the shutdown event is set.
-/

namespace CosmosRl.Utils

open CosmosRl.Foundation

universe u

/-- Where a rank is in `broadcast_command`. -/
inductive BroadcastPhase where
  /-- The source has no command to broadcast. -/
  | idle
  | setKey
  | waitKey
  | getKey
  | setDone
  | waitDones
  /-- The `finally` clause of an attempt that ends the call. -/
  | cleanUp
  /-- An exception has left the call. -/
  | raised
  deriving DecidableEq

/-- What one rank's `DistKVStore` object and its current call hold. -/
structure DistKVStore (Command : Type u) where
  counter : Nat
  phase : BroadcastPhase
  /-- The argument of the current call; only the source gets one. -/
  command : Option Command
  errorRaised : Bool
  cmd : Option Command
  /-- The results of the finished calls. -/
  returned : List (Option Command)

/-- The `TCPStore` of the replica: `#BROADCAST-k` and `#BROADCAST-k-done-i`. -/
structure LocalStore (Command : Type u) (worldSize : Nat) where
  key : Nat → Option Command
  keyDones : Nat → Fin worldSize → Bool

namespace LocalStore

variable {Command : Type u} {worldSize : Nat}

def empty : LocalStore Command worldSize where
  key := fun _ => none
  keyDones := fun _ _ => false

def set (store : LocalStore Command worldSize) (counter : Nat) (command : Option Command) :
    LocalStore Command worldSize :=
  { store with key := Function.update store.key counter command }

def markDone (store : LocalStore Command worldSize) (counter : Nat) (rank : Fin worldSize) :
    LocalStore Command worldSize :=
  { store with
      keyDones := Function.update store.keyDones counter
        (Function.update (store.keyDones counter) rank true) }

def allDone (store : LocalStore Command worldSize) (counter : Nat) : Prop :=
  ∀ rank, store.keyDones counter rank = true

instance (store : LocalStore Command worldSize) (counter : Nat) :
    Decidable (store.allDone counter) :=
  inferInstanceAs (Decidable (∀ rank, store.keyDones counter rank = true))

/-- Delete the key and the marks of the round before `counter`; round 0 has none. -/
def deleteLast (store : LocalStore Command worldSize) : Nat → LocalStore Command worldSize
  | 0 => store
  | last + 1 =>
    { key := Function.update store.key last none
      keyDones := Function.update store.keyDones last fun _ => false }

end LocalStore

structure BroadcastState (Command : Type u) (worldSize : Nat) where
  localStore : LocalStore Command worldSize
  ranks : Fin worldSize → DistKVStore Command
  commands : List Command

inductive BroadcastEvent (Command : Type u) (worldSize : Nat) where
  /-- The fetching thread of the source reads one more command. -/
  | command (command : Command)
  /-- A rank executes the operation it is at. -/
  | act (rank : Fin worldSize)
  /-- The operation a rank is at raises, after or without having had its effect. -/
  | fault (rank : Fin worldSize) (applied : Bool)

namespace BroadcastState

variable {Command : Type u} {worldSize : Nat}

def betweenCalls (src rank : Fin worldSize) : BroadcastPhase :=
  if rank = src then .idle else .waitKey

def attempt (src rank : Fin worldSize) : BroadcastPhase :=
  if rank = src then .setKey else .waitKey

def initial (src : Fin worldSize) : BroadcastState Command worldSize where
  localStore := .empty
  ranks := fun rank =>
    { counter := 0
      phase := betweenCalls src rank
      command := none
      errorRaised := false
      cmd := none
      returned := [] }
  commands := []

def setRank (state : BroadcastState Command worldSize) (rank : Fin worldSize)
    (kvStore : DistKVStore Command) : BroadcastState Command worldSize :=
  { state with ranks := Function.update state.ranks rank kvStore }

def nextCommand (state : BroadcastState Command worldSize) (rank : Fin worldSize) :
    Option Command :=
  state.commands[(state.ranks rank).returned.length]?

def canAct (state : BroadcastState Command worldSize) (rank : Fin worldSize) : Prop :=
  match (state.ranks rank).phase with
  | .idle => (state.nextCommand rank).isSome = true
  | .waitKey | .getKey => (state.localStore.key (state.ranks rank).counter).isSome = true
  | .waitDones => state.localStore.allDone (state.ranks rank).counter
  | .setKey | .setDone | .cleanUp => True
  | .raised => False

instance (state : BroadcastState Command worldSize) (rank : Fin worldSize) :
    Decidable (state.canAct rank) := by
  unfold canAct
  cases (state.ranks rank).phase <;> exact inferInstance

def rankAfter (src : Fin worldSize) (state : BroadcastState Command worldSize)
    (rank : Fin worldSize) : DistKVStore Command :=
  let kvStore := state.ranks rank
  match kvStore.phase with
  | .idle =>
    if worldSize = 1 then
      -- a single rank gets its argument back, and no key or counter is used
      { kvStore with returned := kvStore.returned ++ [state.nextCommand rank] }
    else
      { kvStore with
          phase := attempt src rank, command := state.nextCommand rank
          errorRaised := false, cmd := none }
  | .setKey | .waitKey => { kvStore with phase := .getKey }
  | .getKey => { kvStore with phase := .setDone, cmd := state.localStore.key kvStore.counter }
  | .setDone => { kvStore with phase := .waitDones }
  | .waitDones =>
    -- `finally` does nothing once an attempt of this call has raised
    if kvStore.errorRaised then { kvStore with phase := attempt src rank }
    else { kvStore with phase := .cleanUp }
  | .cleanUp =>
    { kvStore with
        counter := kvStore.counter + 1, phase := betweenCalls src rank
        command := none, errorRaised := false, cmd := none
        returned := kvStore.returned ++ [kvStore.cmd] }
  | .raised => kvStore

def storeAfter (src : Fin worldSize) (state : BroadcastState Command worldSize)
    (rank : Fin worldSize) : LocalStore Command worldSize :=
  let kvStore := state.ranks rank
  match kvStore.phase with
  | .setKey => state.localStore.set kvStore.counter kvStore.command
  | .setDone => state.localStore.markDone kvStore.counter rank
  | .cleanUp =>
    if rank = src then state.localStore.deleteLast kvStore.counter else state.localStore
  | _ => state.localStore

/-- One operation of `broadcast_command`. -/
def act (src : Fin worldSize) (state : BroadcastState Command worldSize)
    (rank : Fin worldSize) : BroadcastState Command worldSize :=
  { state.setRank rank (rankAfter src state rank) with
      localStore := storeAfter src state rank }

def canFault (src : Fin worldSize) (state : BroadcastState Command worldSize)
    (rank : Fin worldSize) : Prop :=
  match (state.ranks rank).phase with
  | .setKey | .waitKey | .getKey | .setDone | .waitDones => True
  | .cleanUp => rank = src
  | .idle | .raised => False

instance (src : Fin worldSize) (state : BroadcastState Command worldSize)
    (rank : Fin worldSize) : Decidable (state.canFault src rank) := by
  unfold canFault
  cases (state.ranks rank).phase <;> exact inferInstance

/-- The handler of `except` starts the next attempt; an exception inside `finally`
leaves the call. -/
def rankAfterFault (src : Fin worldSize) (state : BroadcastState Command worldSize)
    (rank : Fin worldSize) : DistKVStore Command :=
  let kvStore := state.ranks rank
  if kvStore.phase = .cleanUp then { kvStore with phase := .raised }
  else { kvStore with errorRaised := true, phase := attempt src rank }

def fault (src : Fin worldSize) (state : BroadcastState Command worldSize)
    (rank : Fin worldSize) (applied : Bool) : BroadcastState Command worldSize :=
  { state.setRank rank (rankAfterFault src state rank) with
      localStore := if applied then storeAfter src state rank else state.localStore }

def handle (src : Fin worldSize) (state : BroadcastState Command worldSize) :
    BroadcastEvent Command worldSize → BroadcastState Command worldSize
  | .command command => { state with commands := state.commands ++ [command] }
  | .act rank => act src state rank
  | .fault rank applied => fault src state rank applied

def Allowed (src : Fin worldSize) (state : BroadcastState Command worldSize) :
    BroadcastEvent Command worldSize → Prop
  | .command _ => True
  | .act rank => state.canAct rank
  | .fault rank _ => state.canFault src rank

instance (src : Fin worldSize) (state : BroadcastState Command worldSize)
    (event : BroadcastEvent Command worldSize) : Decidable (Allowed src state event) :=
  match event with
  | .command _ => inferInstanceAs (Decidable True)
  | .act rank => inferInstanceAs (Decidable (state.canAct rank))
  | .fault rank _ => inferInstanceAs (Decidable (state.canFault src rank))

end BroadcastState

/-- The ranks of a replica broadcasting commands from `src`. -/
def broadcastSystem (Command : Type u) {worldSize : Nat} (src : Fin worldSize) :
    EventSystem (BroadcastState Command worldSize) (BroadcastEvent Command worldSize) where
  handle := BroadcastState.handle src
  Allowed := BroadcastState.Allowed src

instance (Command : Type u) {worldSize : Nat} (src : Fin worldSize)
    (state : BroadcastState Command worldSize) (event : BroadcastEvent Command worldSize) :
    Decidable ((broadcastSystem Command src).Allowed state event) :=
  inferInstanceAs (Decidable (BroadcastState.Allowed src state event))

namespace BroadcastEvent

variable {Command : Type u} {worldSize : Nat}

def IsAct : BroadcastEvent Command worldSize → Prop
  | .act _ => True
  | _ => False

def IsQuiet : BroadcastEvent Command worldSize → Prop
  | .fault _ _ => False
  | _ => True

end BroadcastEvent

end CosmosRl.Utils
