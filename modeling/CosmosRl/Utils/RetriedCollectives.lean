import CosmosRl.Utils.HighAvailabilityNccl

/-!
Which retried collectives are lost.

While the lock is free, the communicator is that of the current mesh, so that an operation
is enqueued on the right one.  A call is lost in three ways: the flag of a single peer is
older than the current mesh, a command aborts the communicator while the stream is not
flushed, or the loop ends after the last retry.
-/

namespace CosmosRl.Utils

open CosmosRl.Foundation HighAvailabilityNccl

def OnlyReplica (replicaName : String) (mesh : Option ReplicaRanks) : Prop :=
  mesh.map (List.map Prod.fst) = some [replicaName]

instance (replicaName : String) (mesh : Option ReplicaRanks) :
    Decidable (OnlyReplica replicaName mesh) :=
  inferInstanceAs (Decidable (_ = _))

/-- A call that returns has executed its operation on the communicator of the current mesh,
or was skipped while the mesh contained only the replica. -/
def KeepsOperation (replicaName : String) : CallOutcome → Prop
  | .skipped mesh => OnlyReplica replicaName mesh
  | .executed _ communicator mesh completed => mesh = some communicator ∧ completed = true
  | .exhausted => False
  | .raised => True

def NoneLost (state : HighAvailabilityNccl) : Prop :=
  ∀ outcome ∈ state.outcomes, KeepsOperation state.replicaName outcome

@[simp] def CallerStage.checks : CallerStage → Bool
  | .checkSinglePeer _ => true
  | _ => false

@[simp] def CallerStage.awaited : CallerStage → Option Nat
  | .waitStream _ _ commIdx _ _ => some commIdx
  | _ => none

@[simp] def CallerStage.failedRetry : CallerStage → Option Nat
  | .recover _ i => some i
  | _ => none

/-- What a step must find: a set flag of a single peer belongs to a current mesh of this
replica alone, the communicator of a flushed operation has not been aborted, and a handled
exception is not that of the last retry. -/
def KeepsStep (state : HighAvailabilityNccl) : NcclEvent → Prop
  | .checkSinglePeer =>
    state.caller.checks = true → state.isSinglePeer = true →
      OnlyReplica state.replicaName state.mesh
  | .flushed => ∀ commIdx ∈ state.caller.awaited, commIdx ∈ state.registry.keys
  | .recover reported => ∀ i ∈ state.caller.failedRetry, reported = true → i + 1 < maxRetry
  | _ => True

instance (state : HighAvailabilityNccl) (event : NcclEvent) :
    Decidable (KeepsStep state event) :=
  match event with
  | .checkSinglePeer => inferInstanceAs (Decidable (_ → _ → _))
  | .flushed => inferInstanceAs (Decidable (∀ commIdx ∈ _, commIdx ∈ state.registry.keys))
  | .recover reported =>
    inferInstanceAs (Decidable (∀ i ∈ _, reported = true → i + 1 < maxRetry))
  | .pushCmd _ => inferInstanceAs (Decidable True)
  | .shutdown => inferInstanceAs (Decidable True)
  | .takeCmd => inferInstanceAs (Decidable True)
  | .background _ => inferInstanceAs (Decidable True)
  | .call _ => inferInstanceAs (Decidable True)
  | .getReplicaRank => inferInstanceAs (Decidable True)
  | .waitCommReady => inferInstanceAs (Decidable True)
  | .enqueued => inferInstanceAs (Decidable True)
  | .notEnqueued _ => inferInstanceAs (Decidable True)
  | .timedOut _ => inferInstanceAs (Decidable True)

namespace HighAvailabilityNccl

variable {state : HighAvailabilityNccl}

def ended (state : HighAvailabilityNccl) : NcclEvent → Option CallOutcome
  | .getReplicaRank =>
    match state.caller with
    | .getReplicaRank _ replicaName =>
      if (state.replicaNameToRank.lookup replicaName).isNone then some .raised else none
    | _ => none
  | .checkSinglePeer =>
    match state.caller with
    | .checkSinglePeer _ =>
      if state.isSinglePeer then some (.skipped state.mesh) else none
    | _ => none
  | .flushed =>
    match state.caller with
    | .waitStream call _ commIdx communicator mesh =>
      some (.executed call communicator mesh (state.registry.get? commIdx).isSome)
    | _ => none
  | .recover reported =>
    match state.caller with
    | .recover _ i =>
      if reported then if i + 1 < maxRetry then none else some .exhausted
      else some .raised
    | _ => none
  | _ => none

section

variable (state : HighAvailabilityNccl)

theorem backgroundStep_outcomes (outcome : BuildOutcome) :
    (state.backgroundStep outcome).outcomes = state.outcomes ∧
      (state.backgroundStep outcome).replicaName = state.replicaName := by
  rw [backgroundStep]
  split
  case h_4 ranks _ =>
    unfold startBuild
    split
    · exact ⟨rfl, rfl⟩
    · split
      · cases outcome <;> exact ⟨rfl, rfl⟩
      · exact ⟨rfl, rfl⟩
  all_goals exact ⟨rfl, rfl⟩

/-- A step records the call it ends and nothing else. -/
theorem outcomes_handle (event : NcclEvent) :
    (state.handle event).outcomes = (state.ended event).toList ++ state.outcomes ∧
      (state.handle event).replicaName = state.replicaName := by
  cases event with
  | pushCmd cmd => exact ⟨rfl, rfl⟩
  | shutdown => exact ⟨rfl, rfl⟩
  | takeCmd =>
    change state.takeCmd.outcomes = state.outcomes ∧ state.takeCmd.replicaName = _
    rw [takeCmd]
    split <;> exact ⟨rfl, rfl⟩
  | background outcome => exact state.backgroundStep_outcomes outcome
  | call op => exact ⟨rfl, rfl⟩
  | getReplicaRank =>
    cases caller : state.caller with
    | getReplicaRank op replicaName =>
      cases found : state.replicaNameToRank.lookup replicaName <;>
        simp [handle, getReplicaRank, ended, caller, found, finish]
    | _ => simp [handle, getReplicaRank, ended, caller]
  | checkSinglePeer =>
    cases caller : state.caller with
    | checkSinglePeer call =>
      cases flag : state.isSinglePeer <;>
        simp [handle, checkSinglePeer, ended, caller, flag, finish]
    | _ => simp [handle, checkSinglePeer, ended, caller]
  | waitCommReady => cases caller : state.caller <;> simp [handle, waitCommReady, ended, caller]
  | enqueued =>
    change state.enqueue.outcomes = state.outcomes ∧ state.enqueue.replicaName = _
    rw [enqueue]
    split <;> exact ⟨rfl, rfl⟩
  | notEnqueued aborted =>
    cases caller : state.caller <;> cases aborted <;>
      simp [handle, enqueueFails, ended, caller, ncclAbort]
  | flushed => cases caller : state.caller <;> simp [handle, flush, ended, caller, finish]
  | timedOut aborted =>
    cases caller : state.caller <;> cases aborted <;>
      simp [handle, streamFails, ended, caller, ncclAbort]
  | recover reported =>
    cases caller : state.caller with
    | recover call i =>
      cases reported
      · simp [handle, recover, ended, caller, finish]
      · by_cases again : i + 1 < maxRetry <;>
          simp [handle, recover, ended, caller, finish, again]
    | _ => simp [handle, recover, ended, caller]

theorem noneLost_handle_iff (event : NcclEvent) :
    NoneLost (state.handle event) ↔
      (∀ outcome ∈ state.ended event, KeepsOperation state.replicaName outcome) ∧
        NoneLost state := by
  obtain ⟨outcomes, name⟩ := outcomes_handle state event
  rw [NoneLost, outcomes, name, List.forall_mem_append, NoneLost]
  simp only [Option.mem_toList, Option.mem_def]

end

structure Sound (state : HighAvailabilityNccl) : Prop where
  current : (∀ cmd, state.background ≠ .clearReady cmd ∧ state.background ≠ .abortComm cmd) →
    ∀ ranks, state.communicator = some ranks → state.mesh = some ranks
  started : ∀ ranks, state.background = .clearReady (.buildMesh ranks) ∨
    state.background = .abortComm (.buildMesh ranks) → state.mesh = some ranks
  building : ∀ ranks, state.background = .buildMesh ranks →
    state.commIdx = none ∧ state.mesh = some ranks
  fresh : ∀ idx ∈ state.registry.keys, idx < state.nextIdx
  enqueued : ∀ call i commIdx communicator mesh,
    state.caller = .waitStream call i commIdx communicator mesh → mesh = some communicator

theorem keepsStep_iff (sound : Sound state) (event : NcclEvent) :
    KeepsStep state event ↔
      ∀ outcome ∈ state.ended event, KeepsOperation state.replicaName outcome := by
  cases event with
  | checkSinglePeer =>
    cases caller : state.caller with
    | checkSinglePeer call =>
      cases flag : state.isSinglePeer <;>
        simp [KeepsStep, ended, caller, flag, KeepsOperation]
    | _ => simp [KeepsStep, ended, caller]
  | flushed =>
    cases caller : state.caller with
    | waitStream call i commIdx communicator mesh =>
      have same := sound.enqueued call i commIdx communicator mesh caller
      simp [KeepsStep, ended, caller, KeepsOperation, same, Dict.mem_keys_iff_get?,
        Option.isSome_iff_exists]
    | _ => simp [KeepsStep, ended, caller]
  | recover reported =>
    cases caller : state.caller with
    | recover call i =>
      cases reported
      · simp [KeepsStep, ended, caller, KeepsOperation]
      · by_cases again : i + 1 < maxRetry <;>
          simp [KeepsStep, ended, caller, KeepsOperation, again]
    | _ => simp [KeepsStep, ended, caller]
  | getReplicaRank =>
    cases caller : state.caller with
    | getReplicaRank op replicaName =>
      cases found : state.replicaNameToRank.lookup replicaName <;>
        simp [KeepsStep, ended, caller, found, KeepsOperation]
    | _ => simp [KeepsStep, ended, caller]
  | _ => simp [KeepsStep, ended]

section Steps

variable {next : HighAvailabilityNccl}

/-- The caller's steps leave the communicator to the background thread, except that they
may abort communicators. -/
theorem Sound.of_shared (sound : Sound state) (background : next.background = state.background)
    (commIdx : next.commIdx = state.commIdx) (mesh : next.mesh = state.mesh)
    (nextIdx : next.nextIdx = state.nextIdx)
    (registry : ∀ idx ranks, next.registry.get? idx = some ranks →
      state.registry.get? idx = some ranks) (enqueued : ∀ call i commIdx communicator mesh,
      next.caller = .waitStream call i commIdx communicator mesh → mesh = some communicator) :
    Sound next := by
  refine ⟨?_, ?_, ?_, ?_, enqueued⟩
  · intro idle ranks isCommunicator
    rw [communicator, commIdx, Option.bind_eq_some_iff] at isCommunicator
    obtain ⟨idx, isIdx, found⟩ := isCommunicator
    rw [mesh]
    refine sound.current (fun cmd => background ▸ idle cmd) ranks ?_
    rw [communicator, isIdx]
    exact registry idx ranks found
  · intro ranks isStarted
    rw [mesh]
    exact sound.started ranks (background ▸ isStarted)
  · intro ranks isBuilding
    rw [commIdx, mesh]
    exact sound.building ranks (background ▸ isBuilding)
  · intro idx member
    obtain ⟨ranks, found⟩ := Dict.mem_keys_iff_get?.mp member
    rw [nextIdx]
    exact sound.fresh idx (Dict.mem_keys_iff_get?.mpr ⟨ranks, registry idx ranks found⟩)

theorem get?_ncclAbort {commIdx : Option Nat} {idx : Nat} {ranks : ReplicaRanks}
    (found : (state.ncclAbort commIdx).registry.get? idx = some ranks) :
    state.registry.get? idx = some ranks := by
  cases commIdx with
  | none => exact found
  | some aborted =>
    rw [ncclAbort, Dict.get?_erase] at found
    split at found
    · cases found
    · exact found

section

variable (sound : Sound state)

include sound

/-- Starting the build of a mesh keeps a state sound: a new communicator has a new index and
is that of the mesh. -/
theorem Sound.startBuild {ranks : ReplicaRanks}
    (stage : state.background = .buildMesh ranks) (outcome : BuildOutcome) :
    Sound (state.startBuild ranks outcome) := by
  obtain ⟨noComm, isMesh⟩ := sound.building ranks stage
  have none : ∀ ranks, state.communicator ≠ some ranks := by
    intro ranks
    rw [communicator, noComm]
    exact Option.some_ne_none ranks |>.symm
  unfold HighAvailabilityNccl.startBuild
  split
  · refine ⟨fun _ ranks found => absurd found (none ranks), ?_, ?_, sound.fresh, sound.enqueued⟩
    · intro ranks started
      split at started <;> rcases started with started | started <;> cases started
    · intro ranks building
      split at building <;> cases building
  · split
    · cases outcome with
      | created =>
        refine ⟨?_, ?_, ?_, ?_, sound.enqueued⟩
        · intro _ other found
          rw [communicator, Option.bind_some, Dict.get?_set, if_pos rfl] at found
          exact isMesh.trans found
        · rintro ranks (started | started) <;> cases started
        · intro ranks building
          cases building
        · intro idx member
          rw [Dict.mem_keys_iff_get?] at member
          obtain ⟨other, found⟩ := member
          rw [Dict.get?_set] at found
          split at found
          case isTrue same => exact same ▸ Nat.lt_succ_self _
          case isFalse =>
            exact Nat.lt_succ_of_lt (sound.fresh idx (Dict.mem_keys_iff_get?.mpr ⟨other, found⟩))
      | failed =>
        refine ⟨fun _ ranks found => absurd found (none ranks), ?_, fun ranks building => ?_,
          sound.fresh, sound.enqueued⟩
        · rintro ranks (started | started) <;> cases started
        · cases building
      | raised =>
        refine ⟨fun _ ranks found => absurd found (none ranks), ?_, fun ranks building => ?_,
          sound.fresh, sound.enqueued⟩
        · rintro ranks (started | started) <;> cases started
        · cases building
    · refine ⟨fun _ ranks found => absurd found (none ranks), ?_, fun ranks building => ?_,
        sound.fresh, sound.enqueued⟩
      · rintro ranks (started | started) <;> cases started
      · cases building

/-- Behind the creation of the communicator the background thread only sets fields that the
communicator does not depend on. -/
theorem Sound.of_later
    (settled : ∀ cmd, state.background ≠ .clearReady cmd ∧ state.background ≠ .abortComm cmd)
    (later : ∀ cmd ranks, next.background ≠ .clearReady cmd ∧
      next.background ≠ .abortComm cmd ∧ next.background ≠ .buildMesh ranks)
    (communicator : next.communicator = state.communicator) (mesh : next.mesh = state.mesh)
    (nextIdx : next.nextIdx = state.nextIdx) (registry : next.registry = state.registry)
    (caller : next.caller = state.caller) : Sound next := by
  refine ⟨?_, ?_, ?_, ?_, ?_⟩
  · rw [communicator, mesh]
    exact fun _ => sound.current settled
  · rintro ranks (started | started)
    · exact absurd started (later _ ranks).1
    · exact absurd started (later _ ranks).2.1
  · exact fun ranks building => absurd building (later .destroy ranks).2.2
  · rw [registry, nextIdx]
    exact sound.fresh
  · rw [caller]
    exact sound.enqueued

theorem Sound.backgroundStep (outcome : BuildOutcome) : Sound (state.backgroundStep outcome) := by
  cases stage : state.background with
  | waiting =>
    rw [HighAvailabilityNccl.backgroundStep, stage]
    exact sound
  | stopped =>
    rw [HighAvailabilityNccl.backgroundStep, stage]
    exact sound
  | clearReady cmd =>
    rw [HighAvailabilityNccl.backgroundStep, stage]
    refine ⟨fun idle => absurd rfl (idle cmd).2, ?_, ?_, sound.fresh, sound.enqueued⟩
    · rintro ranks (started | started)
      · cases started
      · cases started
        exact sound.started ranks (.inl stage)
    · intro ranks building
      cases building
  | abortComm cmd =>
    rw [HighAvailabilityNccl.backgroundStep, stage]
    refine ⟨fun _ ranks found => ?_, ?_, ?_, ?_, sound.enqueued⟩
    · cases found
    · intro ranks started
      cases cmd <;> rcases started with started | started <;> cases started
    · intro ranks building
      cases cmd with
      | destroy => cases building
      | buildMesh built =>
        cases building
        exact ⟨rfl, sound.started ranks (.inr stage)⟩
    · intro idx member
      obtain ⟨ranks, found⟩ := Dict.mem_keys_iff_get?.mp member
      exact sound.fresh idx (Dict.mem_keys_iff_get?.mpr ⟨ranks, get?_ncclAbort found⟩)
  | buildMesh ranks =>
    rw [HighAvailabilityNccl.backgroundStep, stage]
    exact sound.startBuild stage outcome
  | setSinglePeer | adoptRanks ranks | clearSinglePeer =>
    rw [HighAvailabilityNccl.backgroundStep, stage]
    refine sound.of_later (by simp [stage]) ?_ rfl rfl rfl rfl rfl
    intro cmd ranks
    simp
  | setReady =>
    rw [HighAvailabilityNccl.backgroundStep, stage]
    refine sound.of_later (by simp [stage]) ?_ rfl rfl rfl rfl rfl
    intro cmd ranks
    cases outcome <;> simp

theorem Sound.takeCmd : Sound state.takeCmd := by
  rw [HighAvailabilityNccl.takeCmd]
  split
  case h_1 => exact sound
  case h_2 cmd cmdQueue _ =>
    refine ⟨fun idle => absurd rfl (idle cmd).1, ?_, ?_, sound.fresh, sound.enqueued⟩
    · rintro ranks (started | started)
      · cases started
        rfl
      · cases started
    · intro ranks building
      cases building

/-- With the lock free, the operation is enqueued on the communicator of the current mesh. -/
theorem Sound.enqueue (free : state.background.locks = false) : Sound state.enqueue := by
  rw [HighAvailabilityNccl.enqueue]
  split
  case h_2 => exact sound
  case h_1 call i commIdx communicator _ _ found =>
    refine sound.of_shared rfl rfl rfl rfl (fun _ _ found => found) ?_
    intro call' i' commIdx' communicator' mesh same
    cases same
    refine sound.current (fun cmd => ⟨?_, ?_⟩) communicator found
    · intro stage
      rw [stage] at free
      cases free
    · intro stage
      rw [stage] at free
      cases free

theorem Sound.of_caller (background : next.background = state.background)
    (commIdx : next.commIdx = state.commIdx) (mesh : next.mesh = state.mesh)
    (nextIdx : next.nextIdx = state.nextIdx)
    (registry : ∀ idx ranks, next.registry.get? idx = some ranks →
      state.registry.get? idx = some ranks) (elsewhere : ∀ call i commIdx communicator mesh,
      next.caller ≠ .waitStream call i commIdx communicator mesh) : Sound next :=
  sound.of_shared background commIdx mesh nextIdx registry
    fun call i commIdx communicator mesh isStage =>
      absurd isStage (elsewhere call i commIdx communicator mesh)

theorem Sound.finish (outcome : CallOutcome) : Sound (state.finish outcome) :=
  sound.of_caller rfl rfl rfl rfl (fun _ _ found => found) (by simp [HighAvailabilityNccl.finish])

theorem Sound.handle {event : NcclEvent} (allowed : state.Allowed event) :
    Sound (state.handle event) := by
  cases event with
  | pushCmd cmd => exact ⟨sound.current, sound.started, sound.building, sound.fresh, sound.enqueued⟩
  | shutdown =>
    have waiting : state.background = .waiting := allowed
    refine sound.of_later (by simp [waiting]) ?_ rfl rfl rfl rfl rfl
    intro cmd ranks
    simp [HighAvailabilityNccl.handle]
  | takeCmd => exact sound.takeCmd
  | background outcome => exact sound.backgroundStep outcome
  | call op =>
    refine sound.of_caller rfl rfl rfl rfl (fun _ _ found => found) ?_
    intro call i commIdx communicator mesh
    cases op <;> simp [HighAvailabilityNccl.handle, startCall, NcclOp.peer]
  | getReplicaRank =>
    change Sound state.getReplicaRank
    rw [getReplicaRank]
    split
    · split
      · exact sound.of_caller rfl rfl rfl rfl (fun _ _ found => found) (by simp)
      · exact sound.finish .raised
    · exact sound
  | checkSinglePeer =>
    change Sound state.checkSinglePeer
    rw [checkSinglePeer]
    split
    · split
      · exact sound.finish _
      · exact sound.of_caller rfl rfl rfl rfl (fun _ _ found => found) (by simp)
    · exact sound
  | waitCommReady =>
    change Sound state.waitCommReady
    rw [waitCommReady]
    split
    · exact sound.of_caller rfl rfl rfl rfl (fun _ _ found => found) (by simp)
    · exact sound
  | enqueued => exact sound.enqueue allowed.1
  | notEnqueued aborted =>
    change Sound (state.enqueueFails aborted)
    rw [enqueueFails]
    split
    · cases aborted
      · exact sound.of_caller rfl rfl rfl rfl (fun _ _ found => found) (by simp)
      · exact sound.of_caller rfl rfl rfl rfl (fun _ _ => get?_ncclAbort) (by simp)
    · exact sound
  | flushed =>
    change Sound state.flush
    rw [flush]
    split
    · exact sound.finish _
    · exact sound
  | timedOut aborted =>
    change Sound (state.streamFails aborted)
    rw [streamFails]
    split
    case h_1 call i commIdx communicator mesh _ =>
      cases aborted
      · exact sound.of_caller rfl rfl rfl rfl (fun _ _ found => found) (by simp)
      · exact sound.of_caller rfl rfl rfl rfl
          (fun idx ranks => @get?_ncclAbort state (some commIdx) idx ranks) (by simp)
    case h_2 => exact sound
  | recover reported =>
    change Sound (state.recover reported)
    rw [recover]
    have cleared : ∀ stage, (∀ call i commIdx communicator mesh,
        stage ≠ .waitStream call i commIdx communicator mesh) → ∀ outcomes,
        Sound { state with isCommReady := false, caller := stage, outcomes := outcomes } :=
      fun stage elsewhere outcomes =>
        sound.of_caller rfl rfl rfl rfl (fun _ _ found => found) elsewhere
    split
    · split
      · split
        · exact cleared _ (by simp) _
        · exact cleared _ (by simp) _
      · exact cleared _ (by simp) _
    · exact sound

end

end Steps

def initial (replicaName : String) : HighAvailabilityNccl where
  replicaName := replicaName

theorem sound_initial (replicaName : String) : Sound (initial replicaName) where
  current := fun _ _ found => by cases found
  started := by rintro ranks (started | started) <;> cases started
  building := fun ranks building => by cases building
  fresh := fun idx member => by cases member
  enqueued := fun _ _ _ _ _ stage => by cases stage

end HighAvailabilityNccl

/-- No call of a run is lost exactly if every step keeps operations: it checks no flag of a
single peer that is older than the mesh, flushes no stream of an aborted communicator, and
handles no exception of a last retry. -/
theorem noneLost_iff (replicaName : String) (events : List NcclEvent)
    (run : ncclThreads.IsRun (initial replicaName) events) :
    ncclThreads.Throughout NoneLost (initial replicaName) events ↔
      ncclThreads.StepsMeet KeepsStep (initial replicaName) events := by
  have start : Sound (initial replicaName) ∧ NoneLost (initial replicaName) :=
    ⟨sound_initial replicaName, fun outcome member => by cases member⟩
  refine @EventSystem.throughout_iff_stepsMeet _ _ ncclThreads
    (fun state => Sound state ∧ NoneLost state) NoneLost KeepsStep
    (fun state holds => holds.2) ?_ ?_ _ _ start run
  · rintro state event ⟨sound, noneLost⟩ allowed keeps
    exact ⟨sound.handle allowed, (state.noneLost_handle_iff event).mpr
      ⟨(keepsStep_iff sound event).mp keeps, noneLost⟩⟩
  · rintro state event ⟨sound, noneLost⟩ allowed loses after
    exact loses ((keepsStep_iff sound event).mpr ((state.noneLost_handle_iff event).mp after).1)

def singleMesh : List NcclEvent :=
  .pushCmd (.buildMesh [("a", 0)]) :: .takeCmd :: List.replicate 5 (.background .created)

def twoReplicas : ReplicaRanks := [("a", 0), ("b", 1)]

def twoMesh : List NcclEvent :=
  .pushCmd (.buildMesh twoReplicas) :: .takeCmd :: List.replicate 6 (.background .created)

def completedCall : List NcclEvent :=
  twoMesh ++ [.call .allreduce, .checkSinglePeer, .waitCommReady, .enqueued, .flushed]

/-- The call keeps its operation. -/
theorem noneLost_iff_completedCall : ncclThreads.Throughout NoneLost (initial "a") completedCall :=
  (noneLost_iff "a" completedCall (by decide)).mpr (by decide)

/-- A call behind the command of a mesh of two replicas that is skipped because the mesh
before contained one replica. -/
def staleSinglePeer : List NcclEvent :=
  singleMesh ++ [.pushCmd (.buildMesh twoReplicas), .takeCmd, .call .allreduce, .checkSinglePeer]

def threeFailures : List NcclEvent :=
  twoMesh ++ [.call .allreduce, .checkSinglePeer, .waitCommReady, .enqueued, .timedOut true,
    .recover true] ++ twoMesh ++ [.waitCommReady, .enqueued, .timedOut true, .recover true] ++
    twoMesh ++ [.waitCommReady, .enqueued, .timedOut true, .recover true]

def abortedInFlight : List NcclEvent :=
  twoMesh ++ [.call .allreduce, .checkSinglePeer, .waitCommReady, .enqueued,
    .pushCmd .destroy, .takeCmd, .background .created, .background .created, .flushed]

def LosesCall (events : List NcclEvent) : Prop :=
  ncclThreads.IsRun (initial "a") events ∧
    ¬ ncclThreads.Throughout NoneLost (initial "a") events

theorem losesCall_of_only {events : List NcclEvent} {outcome : CallOutcome}
    (run : ncclThreads.IsRun (initial "a") events)
    (only : (ncclThreads.after (initial "a") events).outcomes = [outcome])
    (loses : ¬ KeepsOperation (ncclThreads.after (initial "a") events).replicaName outcome) :
    LosesCall events :=
  ⟨run, fun kept => loses (kept.finish outcome (only ▸ List.mem_singleton_self outcome))⟩

theorem not_noneLost_runs :
    LosesCall staleSinglePeer ∧ LosesCall threeFailures ∧ LosesCall abortedInFlight := by
  refine ⟨?_, ?_, ?_⟩
  · refine @losesCall_of_only _ (.skipped (some twoReplicas)) (by decide) (by decide) ?_
    change ¬ OnlyReplica _ _
    decide
  · exact @losesCall_of_only _ .exhausted (by decide) (by decide) id
  · refine @losesCall_of_only _
      (.executed ⟨.allreduce, none⟩ twoReplicas (some twoReplicas) false) (by decide)
      (by decide) ?_
    exact fun kept => Bool.noConfusion kept.2

end CosmosRl.Utils
