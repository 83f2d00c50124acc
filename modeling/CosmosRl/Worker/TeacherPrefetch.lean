import CosmosRl.Worker.DispatchedBatches

/-!
Which data-parallel index fetches the teacher's result of a rollout.

Uuids are dealt to the indices when they are taken from `teacher_prefetch_queue`,
rollouts when they are dispatched.  Both counters go round the indices, but the one
of the uuids starts at 0 with every dispatch and only counts the uuids of this
dispatch.  The uuids that were dealt ahead in earlier dispatches therefore have to
be full rounds; then, and if every rollout has a uuid that is queued in time, every
uuid is prefetched once and by the index that gets its rollout.
-/

namespace CosmosRl.Worker

open List

open CosmosRl.Foundation
open CosmosRl.Dispatcher (PyError)

universe u v

variable {Uuid : Type u} {Payload : Type v} [DecidableEq Uuid]

namespace WorkerState

/-- `fetch_teacher_logprobs` on a rank of an index ends for these rollouts: their ids
have been put into the `teacher_interact_queue` of the index. -/
def FetchReturns (interact : List (Uuid × Nat)) (index : Nat)
    (rollouts : List (Rollout Uuid Payload)) : Prop :=
  ∀ rollout ∈ rollouts, ∃ uuid, rollout.teacherResultUuid = some uuid ∧
    (uuid, index) ∈ interact

structure TeacherResultsReach (config : WorkerConfig) (state : WorkerState Uuid Payload) :
    Prop where
  asserted : state.shardMismatch = false
  once : (state.teacherInteract.map Prod.fst).Nodup
  fetched : ∀ entry ∈ state.handed, ∀ rank, rank < config.parallelDims.worldSize →
    ∀ rollouts, entry rank = .ok rollouts →
      FetchReturns state.teacherInteract (config.parallelDims.dpRank rank) rollouts

/-- A step deals the uuids that wait as the dispatch will deal their rollouts: all
rollouts have a uuid, the uuid of the rollout in hand has been queued, and if uuids
wait, those dealt ahead of the dispatch are full rounds. -/
def PrefetchesInStep (config : WorkerConfig) (state : WorkerState Uuid Payload) :
    WorkerEvent Uuid Payload → Prop
  | .train batch => ∀ rollout ∈ batch, rollout.teacherResultUuid.isSome = true
  | .placeRollout =>
    (state.dataQueue = [] → state.pendingUuid = none) ∧
      ∀ dispatch ∈ state.dispatch, state.teacherPrefetchQueue = [] ∨
        config.parallelDims.dpWorldSize ∣ dispatch.uuidsAhead
  | _ => True

instance (config : WorkerConfig) (state : WorkerState Uuid Payload) :
    (event : WorkerEvent Uuid Payload) → Decidable (state.PrefetchesInStep config event)
  | .train _ => inferInstanceAs (Decidable (∀ _ ∈ _, _))
  | .placeRollout => inferInstanceAs (Decidable (_ ∧ _))
  | .trainFake | .buildMesh _ | .putRollout | .putUuid | .dataFetch | .getRollout | .scatter =>
    inferInstanceAs (Decidable True)

end WorkerState

structure WorkerConfig.Distills (config : WorkerConfig) : Prop where
  enabled : config.distillationEnable = true
  central : config.uncentralizedTraining = false
  unfused : config.parallelDims.tpFusedWithDp = true → config.parallelDims.tp = 1

section Uuids

open WorkerState

section

omit [DecidableEq Uuid]

theorem uuidsOf_append (front back : List (Rollout Uuid Payload)) :
    uuidsOf (front ++ back) = uuidsOf front ++ uuidsOf back :=
  filterMap_append

theorem uuidsOf_singleton {rollout : Rollout Uuid Payload} {uuid : Uuid}
    (has : rollout.teacherResultUuid = some uuid) : uuidsOf [rollout] = [uuid] := by
  simp [uuidsOf, has]

theorem length_uuidsOf {rollouts : List (Rollout Uuid Payload)}
    (all : ∀ rollout ∈ rollouts, rollout.teacherResultUuid.isSome = true) :
    (uuidsOf rollouts).length = rollouts.length := by
  induction rollouts with
  | nil => rfl
  | cons rollout rest ih =>
    obtain ⟨uuid, has⟩ := Option.isSome_iff_exists.mp (all rollout mem_cons_self)
    have tail := ih fun other member => all other (by simp [member])
    rw [uuidsOf] at tail ⊢
    rw [filterMap_cons_some has, length_cons, length_cons, tail]

end

end Uuids

/-- The uuids with the indices they are dealt to, the first one being number `dealt`. -/
def dealtUuids (receivers : Nat) : Nat → List Uuid → List (Uuid × Nat)
  | _, [] => []
  | dealt, uuid :: rest => (uuid, dealt % receivers) :: dealtUuids receivers (dealt + 1) rest

section

omit [DecidableEq Uuid]

theorem dealtUuids_fst (receivers dealt : Nat) (uuids : List Uuid) :
    (dealtUuids receivers dealt uuids).map Prod.fst = uuids := by
  induction uuids generalizing dealt with
  | nil => rfl
  | cons uuid rest ih =>
    rw [dealtUuids, map_cons, ih]

theorem dealtUuids_append (receivers dealt : Nat) (front back : List Uuid) :
    dealtUuids receivers dealt (front ++ back) =
      dealtUuids receivers dealt front ++ dealtUuids receivers (dealt + front.length) back := by
  induction front generalizing dealt with
  | nil => rfl
  | cons uuid rest ih =>
    rw [cons_append, dealtUuids, dealtUuids, ih, cons_append,
      length_cons, Nat.add_assoc, Nat.add_comm 1]

theorem drop_dealtUuids (receivers dealt count : Nat) (uuids : List Uuid) :
    (dealtUuids receivers dealt uuids).drop count =
      dealtUuids receivers (dealt + count) (uuids.drop count) := by
  induction count generalizing dealt uuids with
  | zero => rfl
  | succ count ih =>
    cases uuids with
    | nil => rfl
    | cons uuid rest =>
      rw [dealtUuids, drop_succ_cons, drop_succ_cons, ih, Nat.add_assoc, Nat.add_comm 1]

end

/-- What the loop of `prepare_teacher_uuids_for_prefetch` does to fresh uuids. -/
theorem prefetchUuids_eq {dims : ParallelDims}
    (unfused : dims.tpFusedWithDp = true → dims.tp = 1) (state : WorkerState Uuid Payload)
    (dealt : Nat) {uuids : List Uuid} (distinct : uuids.Nodup)
    (fresh : ∀ uuid ∈ uuids, uuid ∉ state.teacherUuidToDpShard.keys) :
    (WorkerState.prefetchUuids dims state (dealt % dims.dpWorldSize) uuids).2 =
        (dealt + uuids.length) % dims.dpWorldSize ∧
      (WorkerState.prefetchUuids dims state (dealt % dims.dpWorldSize) uuids).1.teacherInteract =
        state.teacherInteract ++ dealtUuids dims.dpWorldSize dealt uuids ∧
      (WorkerState.prefetchUuids dims state
        (dealt % dims.dpWorldSize) uuids).1.teacherUuidToDpShard.entries =
        state.teacherUuidToDpShard.entries ++ dealtUuids dims.dpWorldSize dealt uuids := by
  have positive := dims.dpWorldSize_pos
  have sameSize : dims.dpCoordSize = dims.dpWorldSize := by
    have size := dims.dpWorldSize_eq unfused
    unfold ParallelDims.dpCoordSize
    split
    · exact size.symm
    · rename_i disabled
      rw [ParallelDims.dpWorldSize, if_neg disabled]
  have delivered : ∀ dealt, 1 < dims.dpCoordSize ∨ dealt % dims.dpWorldSize = 0 := by
    intro dealt
    by_cases several : 1 < dims.dpWorldSize
    · exact .inl (sameSize ▸ several)
    · have one : dims.dpWorldSize = 1 := by omega
      exact .inr (by rw [one, Nat.mod_one])
  induction uuids generalizing state dealt with
  | nil => simp [WorkerState.prefetchUuids, dealtUuids]
  | cons uuid rest ih =>
    obtain ⟨notLater, restDistinct⟩ := nodup_cons.mp distinct
    have absent := fresh uuid mem_cons_self
    have step : state.prefetchUuid dims (dealt % dims.dpWorldSize) uuid =
        { state with
            teacherUuidToDpShard := state.teacherUuidToDpShard.set uuid (dealt % dims.dpWorldSize)
            teacherInteract := state.teacherInteract ++ [(uuid, dealt % dims.dpWorldSize)] } := by
      rw [WorkerState.prefetchUuid, if_pos (delivered dealt)]
    have entries : (state.teacherUuidToDpShard.set uuid (dealt % dims.dpWorldSize)).entries =
        state.teacherUuidToDpShard.entries ++ [(uuid, dealt % dims.dpWorldSize)] := by
      rw [Dict.set, dif_neg absent]
    obtain ⟨next, interact, shards⟩ := ih
      (state.prefetchUuid dims (dealt % dims.dpWorldSize) uuid) (dealt + 1) restDistinct (by
        intro other member known
        rw [step, Dict.mem_keys_set] at known
        rcases known with same | earlier
        · exact notLater (same ▸ member)
        · exact fresh other (by simp [member]) earlier)
    rw [WorkerState.prefetchUuids, nextTurn_mod positive]
    refine ⟨next.trans ?_, interact.trans ?_, shards.trans ?_⟩
    · rw [length_cons, Nat.add_assoc, Nat.add_comm 1]
    · rw [step, dealtUuids, append_assoc]
      rfl
    · rw [step]
      dsimp only
      rw [entries, dealtUuids, append_assoc]
      rfl

def Turn (config : WorkerConfig) (placed dealt : Nat) : Option (Dispatch Uuid Payload) → Prop
  | none => config.parallelDims.dpWorldSize ∣ placed
  | some dispatch => dispatch.dpId = placed % config.parallelDims.dpWorldSize ∧
      config.parallelDims.dpWorldSize ∣
        placed + dispatch.rollout.toList.length + dispatch.remaining ∧
      dispatch.prefetchDpId < config.parallelDims.dpWorldSize ∧
      (dispatch.prefetchDpId + dispatch.uuidsAhead) % config.parallelDims.dpWorldSize =
        dealt % config.parallelDims.dpWorldSize

/-- The uuids have been dealt in the order of their rollouts, and the shards on record are
those of the uuids whose rollouts have not been placed. -/
structure DealsInOrder (config : WorkerConfig) (state : WorkerState Uuid Payload)
    (placed : List (Rollout Uuid Payload)) (dealt : List Uuid) : Prop where
  rollouts : state.batches.flatten =
    placed ++ inHand state.dispatch ++ state.dataQueue ++ state.stream
  uuids : dealt ++ state.teacherPrefetchQueue ++ state.pendingUuid.toList =
    WorkerState.uuidsOf (placed ++ inHand state.dispatch ++ state.dataQueue)
  interact : state.teacherInteract = dealtUuids config.parallelDims.dpWorldSize 0 dealt
  ahead : placed.length ≤ dealt.length
  shards : state.teacherUuidToDpShard.entries =
    dealtUuids config.parallelDims.dpWorldSize placed.length (dealt.drop placed.length)
  turn : Turn config placed.length dealt.length state.dispatch

structure Prefetching (config : WorkerConfig) (state : WorkerState Uuid Payload) : Prop where
  present : ∀ rollout ∈ state.batches.flatten, rollout.teacherResultUuid.isSome = true
  distinct : (WorkerState.uuidsOf state.batches.flatten).Nodup
  asserted : state.shardMismatch = false
  order : ∃ placed dealt, DealsInOrder config state placed dealt
  placed : ∀ dispatch, state.dispatch = some dispatch → ∀ rank,
    rank < config.parallelDims.worldSize → WorkerState.FetchReturns state.teacherInteract
      (config.parallelDims.dpRank rank) (dispatch.scatteredRollouts rank)
  fetched : ∀ entry ∈ state.handed, ∀ rank, rank < config.parallelDims.worldSize →
    ∀ rollouts, entry rank = .ok rollouts → WorkerState.FetchReturns state.teacherInteract
      (config.parallelDims.dpRank rank) rollouts

theorem Prefetching.initial (config : WorkerConfig) :
    Prefetching config (WorkerState.initial : WorkerState Uuid Payload) := by
  refine ⟨by simp [WorkerState.initial], by simp [WorkerState.initial, WorkerState.uuidsOf], rfl,
    ⟨[], [], ?_⟩, by simp [WorkerState.initial], by simp [WorkerState.initial]⟩
  exact ⟨rfl, rfl, rfl, Nat.le_refl 0, rfl, Nat.dvd_zero _⟩

section Steps

variable {config : WorkerConfig} {state : WorkerState Uuid Payload}

variable {placed : List (Rollout Uuid Payload)} {dealt : List Uuid}
  {dispatch : Dispatch Uuid Payload} {rollout : Rollout Uuid Payload} {interact : List (Uuid × Nat)}
  {rollouts : List (Rollout Uuid Payload)}

theorem DealsInOrder.size (deals : DealsInOrder config state placed dealt) :
    state.teacherUuidToDpShard.size = dealt.length - placed.length := by
  rw [Dict.size, deals.shards, ← length_map (f := Prod.fst), dealtUuids_fst, length_drop]

section

variable (prefetching : Prefetching config state)

include prefetching

theorem Prefetching.train {batch : List (Rollout Uuid Payload)}
    (all : ∀ rollout ∈ batch, rollout.teacherResultUuid.isSome = true)
    (fresh : (WorkerState.uuidsOf (state.batches.flatten ++ batch)).Nodup) :
    Prefetching config (state.train batch) := by
  obtain ⟨present, distinct, asserted, ⟨placed, dealt, deals⟩, scattered, fetched⟩ := prefetching
  have published : (state.train batch).batches.flatten = state.batches.flatten ++ batch := by
    unfold WorkerState.train
    split
    · rename_i empty
      simp [isEmpty_iff.mp empty]
    · simp
  refine ⟨?_, ?_, asserted, ⟨placed, dealt, ?_, deals.uuids, deals.interact, deals.ahead,
    deals.shards, deals.turn⟩, scattered, fetched⟩
  · rw [published]
    intro rollout member
    rcases mem_append.mp member with earlier | new
    · exact present rollout earlier
    · exact all rollout new
  · rw [published]
    exact fresh
  · rw [published, deals.rollouts]
    simp [WorkerState.train]

theorem Prefetching.putRollout
    (free : state.pendingUuid = none) : Prefetching config state.putRollout := by
  obtain ⟨present, distinct, asserted, ⟨placed, dealt, deals⟩, scattered, fetched⟩ := prefetching
  unfold WorkerState.putRollout
  cases unread : state.stream with
  | nil => exact ⟨present, distinct, asserted, ⟨placed, dealt, deals⟩, scattered, fetched⟩
  | cons rollout rest =>
    refine ⟨present, distinct, asserted, ⟨placed, dealt, ?_, ?_, deals.interact, deals.ahead,
      deals.shards, deals.turn⟩, scattered, fetched⟩
    · rw [deals.rollouts, unread]
      simp
    · have uuids := deals.uuids
      rw [free, Option.toList_none, append_nil] at uuids
      dsimp only
      rw [← append_assoc, uuidsOf_append, ← uuids]
      congr 1

theorem Prefetching.putUuid : Prefetching config state.putUuid := by
  obtain ⟨present, distinct, asserted, ⟨placed, dealt, deals⟩, scattered, fetched⟩ := prefetching
  refine ⟨present, distinct, asserted, ⟨placed, dealt, deals.rollouts, ?_, deals.interact,
    deals.ahead, deals.shards, deals.turn⟩, scattered, fetched⟩
  refine Eq.trans ?_ deals.uuids
  simp [WorkerState.putUuid]

theorem Prefetching.dataFetch (distills : config.Distills) (idle : state.dispatch.isNone = true) :
    Prefetching config (state.dataFetch config) := by
  obtain ⟨present, distinct, asserted, ⟨placed, dealt, deals⟩, scattered, fetched⟩ := prefetching
  have nothing : state.dispatch = none := Option.isNone_iff_eq_none.mp idle
  unfold WorkerState.dataFetch
  split
  · exact ⟨present, distinct, asserted, ⟨placed, dealt, deals⟩, scattered, fetched⟩
  · split
    · exact ⟨present, distinct, asserted, ⟨placed, dealt, deals.rollouts, deals.uuids,
        deals.interact, deals.ahead, deals.shards, deals.turn⟩, scattered, fetched⟩
    · have rollouts := deals.rollouts
      have uuids := deals.uuids
      have turn := deals.turn
      rw [nothing] at rollouts uuids turn
      have ahead := deals.ahead
      refine ⟨present, distinct, asserted, ⟨placed, dealt, rollouts, uuids, deals.interact,
        ahead, deals.shards, ?_, ?_, config.parallelDims.dpWorldSize_pos, ?_⟩, ?_, fetched⟩
      · exact (Nat.mod_eq_zero_of_dvd turn).symm
      · simp only [distills.central, Bool.false_eq_true, if_false, Option.toList_none,
          length_nil, Nat.add_zero]
        exact (Nat.dvd_add_right turn).mpr (Nat.dvd_mul_left _ _)
      · obtain ⟨rounds, full⟩ := turn
        dsimp only
        rw [deals.size, Nat.zero_add]
        have split : dealt.length = dealt.length - placed.length +
            config.parallelDims.dpWorldSize * rounds := by omega
        rw [split, full, Nat.add_mul_mod_self_left]
        congr 1
        omega
      · intro dispatch started rank isRank rollout member
        cases started
        simp at member

theorem Prefetching.getRollout (running : state.dispatch = some dispatch)
    (wanted : 0 < dispatch.remaining) (free : dispatch.rollout = none) :
    Prefetching config (state.getRollout dispatch) := by
  obtain ⟨present, distinct, asserted, ⟨placed, dealt, deals⟩, scattered, fetched⟩ := prefetching
  unfold WorkerState.getRollout
  cases queued : state.dataQueue with
  | nil => exact ⟨present, distinct, asserted, ⟨placed, dealt, deals⟩, scattered, fetched⟩
  | cons rollout rest =>
    have rollouts := deals.rollouts
    have uuids := deals.uuids
    have turn := deals.turn
    rw [running] at rollouts uuids turn
    refine ⟨present, distinct, asserted, ⟨placed, dealt, ?_, ?_, deals.interact,
      deals.ahead, deals.shards, turn.1, ?_, turn.2.2⟩, ?_, fetched⟩
    · rw [rollouts, queued]
      simp [inHand, free]
    · rw [uuids, queued]
      simp [inHand, free]
    · have rounds := turn.2.1
      simp only [free, Option.toList_none, Option.toList_some, length_nil,
        length_singleton] at rounds ⊢
      have same : placed.length + 1 + (dispatch.remaining - 1) =
          placed.length + 0 + dispatch.remaining := by omega
      rw [same]
      exact rounds
    · intro next started
      cases started
      exact scattered dispatch running

end

omit [DecidableEq Uuid] in
theorem WorkerState.FetchReturns.mono {later : List (Uuid × Nat)} {index : Nat}
    (returns : FetchReturns interact index rollouts)
    (more : interact ⊆ later) : FetchReturns later index rollouts := by
  intro rollout member
  obtain ⟨uuid, has, known⟩ := returns rollout member
  exact ⟨uuid, has, more known⟩

/-- All waiting uuids are dealt in the order of their rollouts. -/
theorem DealsInOrder.prepared
    (deals : DealsInOrder config state placed dealt) (distills : config.Distills)
    (distinct : (WorkerState.uuidsOf state.batches.flatten).Nodup)
    (running : state.dispatch = some dispatch)
    (inStep : state.teacherPrefetchQueue = [] ∨
      config.parallelDims.dpWorldSize ∣ dispatch.uuidsAhead) :
    ∃ (shards : Dict Uuid Nat) (next : Nat),
      state.prepareTeacherUuidsForPrefetch config dispatch.prefetchDpId =
        ({ state with
            teacherPrefetchQueue := []
            teacherUuidToDpShard := shards
            teacherInteract := dealtUuids config.parallelDims.dpWorldSize 0
              (dealt ++ state.teacherPrefetchQueue) }, next) ∧
      next < config.parallelDims.dpWorldSize ∧
      (next + dispatch.uuidsAhead) % config.parallelDims.dpWorldSize =
        (dealt ++ state.teacherPrefetchQueue).length % config.parallelDims.dpWorldSize ∧
      shards.entries = dealtUuids config.parallelDims.dpWorldSize placed.length
        ((dealt ++ state.teacherPrefetchQueue).drop placed.length) := by
  have interact := deals.interact
  have shards := deals.shards
  have turn := deals.turn
  rw [running] at turn
  unfold WorkerState.prepareTeacherUuidsForPrefetch
  rw [if_pos distills.enabled]
  cases waiting : state.teacherPrefetchQueue with
  | nil =>
    refine ⟨state.teacherUuidToDpShard, dispatch.prefetchDpId, ?_, turn.2.2.1, ?_, ?_⟩
    · rw [WorkerState.prefetchUuids, append_nil, ← interact]
    · rw [append_nil]
      exact turn.2.2.2
    · rw [append_nil]
      exact shards
  | cons first others =>
    rw [← waiting]
    have fullRounds : config.parallelDims.dpWorldSize ∣ dispatch.uuidsAhead := by
      rcases inStep with empty | full
      · rw [waiting] at empty
        simp at empty
      · exact full
    have start : dispatch.prefetchDpId = dealt.length % config.parallelDims.dpWorldSize := by
      obtain ⟨rounds, full⟩ := fullRounds
      rw [← turn.2.2.2, full, Nat.add_mul_mod_self_left, Nat.mod_eq_of_lt turn.2.2.1]
    have known : (dealt ++ state.teacherPrefetchQueue).Nodup := by
      have whole : (WorkerState.uuidsOf (placed ++ inHand state.dispatch ++
          state.dataQueue)).Nodup := by
        rw [deals.rollouts, uuidsOf_append] at distinct
        exact (nodup_append.mp distinct).1
      rw [← deals.uuids] at whole
      exact (nodup_append.mp whole).1
    obtain ⟨dealtDistinct, waitingDistinct, disjoint⟩ := nodup_append.mp known
    obtain ⟨next, newInteract, newShards⟩ := prefetchUuids_eq distills.unfused
      { state with teacherPrefetchQueue := [] } dealt.length waitingDistinct (by
        intro uuid member recorded
        rw [Dict.keys, shards, dealtUuids_fst] at recorded
        exact disjoint uuid (mem_of_mem_drop recorded) uuid member rfl)
    rw [← start] at next newInteract newShards
    obtain ⟨newShardDict, newInteractList, frame⟩ := prefetchUuids_frame config.parallelDims
      { state with teacherPrefetchQueue := [] } dispatch.prefetchDpId
      state.teacherPrefetchQueue
    rw [frame] at newInteract newShards
    dsimp only at newInteract newShards
    refine ⟨newShardDict, _, Prod.ext ?_ next, Nat.mod_lt _ config.parallelDims.dpWorldSize_pos,
      ?_, ?_⟩
    · rw [frame, newInteract, interact, dealtUuids_append, Nat.zero_add]
    · obtain ⟨rounds, full⟩ := fullRounds
      rw [full, Nat.add_mul_mod_self_left, Nat.mod_mod, length_append]
    · rw [newShards, shards, drop_append_of_le_length deals.ahead, dealtUuids_append,
        length_drop, Nat.add_sub_cancel' deals.ahead]

/-- The next uuid that has been dealt is that of the rollout in hand. -/
theorem DealsInOrder.next (deals : DealsInOrder config state placed dealt)
    (present : ∀ rollout ∈ state.batches.flatten, rollout.teacherResultUuid.isSome = true)
    (running : state.dispatch = some dispatch) (held : dispatch.rollout = some rollout)
    {uuid : Uuid} (has : rollout.teacherResultUuid = some uuid)
    (queued : state.dataQueue = [] → state.pendingUuid = none) :
    ∃ rest, (dealt ++ state.teacherPrefetchQueue).drop placed.length = uuid :: rest ∧
      placed.length < (dealt ++ state.teacherPrefetchQueue).length := by
  have inHandIs : inHand state.dispatch = [rollout] := by simp [inHand, running, held]
  have uuids := deals.uuids
  have rollouts := deals.rollouts
  rw [inHandIs] at uuids rollouts
  rw [rollouts] at present
  have placedCount : (WorkerState.uuidsOf placed).length = placed.length :=
    length_uuidsOf fun other member => present other (by simp [member])
  have total := congrArg List.length uuids
  rw [length_uuidsOf fun other member => present other (by
    simp only [mem_append] at member ⊢
    exact .inl member)] at total
  simp only [length_append, length_singleton] at total
  have enough : placed.length < (dealt ++ state.teacherPrefetchQueue).length := by
    rw [length_append]
    cases waiting : state.dataQueue with
    | nil =>
      simp only [queued waiting, waiting, Option.toList_none, length_nil] at total
      omega
    | cons head tail =>
      have atMostOne : state.pendingUuid.toList.length ≤ 1 := by
        cases state.pendingUuid <;> simp
      simp only [waiting, length_cons] at total
      omega
  have behind := congrArg (List.drop placed.length) uuids
  rw [drop_append_of_le_length (Nat.le_of_lt enough), uuidsOf_append, uuidsOf_append,
    uuidsOf_singleton has, ← placedCount, append_assoc, drop_left] at behind
  cases left : (dealt ++ state.teacherPrefetchQueue).drop (WorkerState.uuidsOf placed).length with
  | nil =>
    rw [drop_eq_nil_iff] at left
    omega
  | cons first rest =>
    rw [left, cons_append, singleton_append, List.cons.injEq] at behind
    rw [← placedCount]
    exact ⟨rest, by rw [left, behind.1], by omega⟩

/-- A rollout is placed on the index its uuid has been dealt to. -/
theorem Prefetching.placeRollout (prefetching : Prefetching config state)
    (distills : config.Distills) (running : state.dispatch = some dispatch)
    (held : dispatch.rollout = some rollout)
    (queued : state.dataQueue = [] → state.pendingUuid = none)
    (inStep : state.teacherPrefetchQueue = [] ∨
      config.parallelDims.dpWorldSize ∣ dispatch.uuidsAhead) :
    Prefetching config (state.placeRollout config dispatch rollout) := by
  obtain ⟨present, distinct, asserted, ⟨placed, dealt, deals⟩, scattered, fetched⟩ := prefetching
  have inHandIs : inHand state.dispatch = [rollout] := by simp [inHand, running, held]
  have known : rollout ∈ state.batches.flatten := by simp [deals.rollouts, inHandIs]
  obtain ⟨uuid, has⟩ := Option.isSome_iff_exists.mp (present rollout known)
  obtain ⟨rest, isNext, enough⟩ := deals.next present running held has queued
  obtain ⟨shards, next, prepared, nextBelow, nextRounds, entries⟩ :=
    deals.prepared distills distinct running inStep
  have turn := deals.turn
  rw [running] at turn
  rw [isNext, dealtUuids] at entries
  have popped := Dict.entries_erase_head entries
  have found : shards.get? uuid = some dispatch.dpId := by
    rw [Dict.get?_eq_some_iff, entries, turn.1]
    exact mem_cons_self
  have isDealt : (uuid, dispatch.dpId) ∈ dealtUuids config.parallelDims.dpWorldSize 0
      (dealt ++ state.teacherPrefetchQueue) := by
    have tail := drop_dealtUuids config.parallelDims.dpWorldSize 0 placed.length
      (dealt ++ state.teacherPrefetchQueue)
    rw [Nat.zero_add, isNext, dealtUuids, ← turn.1] at tail
    refine mem_of_mem_drop (i := placed.length) ?_
    rw [tail]
    exact mem_cons_self
  have more : state.teacherInteract ⊆ dealtUuids config.parallelDims.dpWorldSize 0
      (dealt ++ state.teacherPrefetchQueue) := by
    rw [deals.interact, dealtUuids_append]
    exact subset_append_left _ _
  unfold WorkerState.placeRollout
  simp only [distills.central, Bool.false_eq_true, if_false]
  rw [prepared, has]
  refine ⟨present, distinct, ?_, ⟨placed ++ [rollout], dealt ++ state.teacherPrefetchQueue,
    ?_, ?_, rfl, ?_, ?_, ?_, ?_, nextBelow, nextRounds⟩, ?_, ?_⟩
  · simp [WorkerState.popShard, asserted, found]
  · refine deals.rollouts.trans ?_
    rw [inHandIs]
    simp [WorkerState.popShard, inHand]
  · refine Eq.trans ?_ (deals.uuids.trans ?_)
    · simp [WorkerState.popShard]
    · rw [inHandIs]
      simp [WorkerState.popShard, inHand]
  · rw [length_append, length_singleton]
    exact enough
  · refine popped.trans ?_
    rw [length_append, length_singleton, ← drop_drop, isNext]
    rfl
  · rw [turn.1, nextTurn_mod config.parallelDims.dpWorldSize_pos, length_append,
      length_singleton]
  · have rounds := turn.2.1
    simp only [held, Option.toList_some, Option.toList_none, length_singleton,
      length_nil, length_append, Nat.add_zero] at rounds ⊢
    exact rounds
  · intro next started rank isRank
    cases started
    dsimp only
    split
    · rename_i own
      intro other member
      rcases mem_append.mp member with earlier | new
      · exact (scattered dispatch running rank isRank).mono more other earlier
      · rw [mem_singleton.mp new]
        exact ⟨uuid, has, own ▸ isDealt⟩
    · exact (scattered dispatch running rank isRank).mono more
  · intro entry member rank isRank rollouts ok
    exact (fetched entry member rank isRank rollouts ok).mono more

omit [DecidableEq Uuid] in
theorem fetchReturns_of_preprocessed {fetcher : DataFetcher Payload} {mesh : Option MeshPlace}
    {processed : List (Rollout Uuid Payload)}
    (ok : preprocessRollouts config fetcher mesh rollouts = .ok processed) {index : Nat}
    (returns : WorkerState.FetchReturns interact index rollouts) :
    WorkerState.FetchReturns interact index processed := by
  have kept : processed = rollouts ∨ processed = rollouts.map (Rollout.populate fetcher) := by
    unfold preprocessRollouts at ok
    split at ok
    · split at ok
      · split at ok
        · simp at ok
        · simp only [Except.ok.injEq] at ok
          exact .inr ok.symm
      · simp only [Except.ok.injEq] at ok
        exact .inl ok.symm
    · simp at ok
  rcases kept with rfl | rfl
  · exact returns
  · intro rollout member
    obtain ⟨original, originalMember, rfl⟩ := mem_map.mp member
    exact returns original originalMember

theorem Prefetching.scatter (prefetching : Prefetching config state)
    (distills : config.Distills) (fetcher : DataFetcher Payload)
    (running : state.dispatch = some dispatch)
    (done : dispatch.remaining = 0) (free : dispatch.rollout = none) :
    Prefetching config (state.scatter config fetcher dispatch) := by
  obtain ⟨present, distinct, asserted, ⟨placed, dealt, deals⟩, scattered, fetched⟩ := prefetching
  have rollouts := deals.rollouts
  have uuids := deals.uuids
  have turn := deals.turn
  rw [running] at rollouts uuids turn
  refine ⟨present, distinct, asserted, ⟨placed, dealt, ?_, ?_, deals.interact, deals.ahead,
    deals.shards, ?_⟩, ?_, ?_⟩
  · refine rollouts.trans ?_
    simp [WorkerState.scatter, inHand, free]
  · refine uuids.trans ?_
    simp [WorkerState.scatter, inHand, free]
  · have rounds := turn.2.1
    simp only [free, done, Option.toList_none, length_nil, Nat.add_zero] at rounds
    exact rounds
  · intro next started
    simp [WorkerState.scatter] at started
  · intro entry member rank isRank processed ok
    rcases mem_append.mp member with earlier | new
    · exact fetched entry earlier rank isRank processed ok
    · rw [mem_singleton.mp new, WorkerState.scatteredTo,
        if_neg (by simp [distills.central])] at ok
      exact fetchReturns_of_preprocessed ok (scattered dispatch running rank isRank)

theorem Prefetching.handle (prefetching : Prefetching config state)
    (distills : config.Distills) (fetcher : DataFetcher Payload)
    {event : WorkerEvent Uuid Payload} (allowed : WorkerState.Allowed config state event)
    (inStep : state.PrefetchesInStep config event) :
    Prefetching config (state.handle config fetcher event) := by
  cases event with
  | train batch => exact prefetching.train inStep allowed.2
  | trainFake =>
    obtain ⟨present, distinct, asserted, ⟨placed, dealt, deals⟩, scattered, fetched⟩ := prefetching
    exact ⟨present, distinct, asserted, ⟨placed, dealt, deals.rollouts, deals.uuids,
      deals.interact, deals.ahead, deals.shards, deals.turn⟩, scattered, fetched⟩
  | buildMesh place =>
    obtain ⟨present, distinct, asserted, ⟨placed, dealt, deals⟩, scattered, fetched⟩ := prefetching
    exact ⟨present, distinct, asserted, ⟨placed, dealt, deals.rollouts, deals.uuids,
      deals.interact, deals.ahead, deals.shards, deals.turn⟩, scattered, fetched⟩
  | putRollout => exact prefetching.putRollout allowed.2
  | putUuid => exact prefetching.putUuid
  | dataFetch => exact prefetching.dataFetch distills allowed.2.1
  | getRollout =>
    obtain ⟨dispatch, running, asks, free, handled⟩ := WorkerState.exists_getRollout allowed
    rw [handled]
    exact prefetching.getRollout running asks free
  | placeRollout =>
    obtain ⟨dispatch, rollout, running, held, handled⟩ := WorkerState.exists_placeRollout allowed
    rw [handled]
    exact prefetching.placeRollout distills running held inStep.1 (inStep.2 dispatch running)
  | scatter =>
    obtain ⟨dispatch, running, done, free, handled⟩ := WorkerState.exists_scatter allowed
    rw [handled]
    exact prefetching.scatter distills fetcher running done free

end Steps

theorem Prefetching.teacherResultsReach {config : WorkerConfig}
    {state : WorkerState Uuid Payload} (prefetching : Prefetching config state) :
    state.TeacherResultsReach config := by
  obtain ⟨present, distinct, asserted, ⟨placed, dealt, deals⟩, scattered, fetched⟩ := prefetching
  refine ⟨asserted, ?_, fetched⟩
  rw [deals.rollouts, uuidsOf_append, ← deals.uuids, append_assoc, append_assoc]
    at distinct
  rw [deals.interact, dealtUuids_fst]
  exact (nodup_append.mp distinct).1

/-- In every run of a distilling replica that prefetches in step, every uuid is prefetched
once and by the index that gets its rollout. -/
theorem teacherResultsReach_run (config : WorkerConfig) (fetcher : DataFetcher Payload)
    (distills : config.Distills) (events : List (WorkerEvent Uuid Payload))
    (run : (workerSystem config fetcher).IsRun WorkerState.initial events)
    (inStep : (workerSystem config fetcher).StepsMeet (WorkerState.PrefetchesInStep config)
      WorkerState.initial events) :
    (workerSystem config fetcher).Throughout (WorkerState.TeacherResultsReach config)
      WorkerState.initial events := by
  have prefetching : (workerSystem config fetcher).Throughout (Prefetching config)
      WorkerState.initial events := by
    apply EventSystem.throughout_of_stepsMeet _ (Prefetching.initial config) run inStep
    intro state event prefetching allowed inStep
    exact prefetching.handle distills fetcher allowed inStep
  exact prefetching.mono fun _ prefetching => prefetching.teacherResultsReach

def twoShardConfig : WorkerConfig where
  parallelDims :=
    { dpReplicate := 1, dpShard := 2, cp := 1, tp := 1, pp := 1, tpFusedWithDp := false
      positive := by simp }
  trainBatchPerReplica := 2
  miniBatch := 1
  uncentralizedTraining := false
  distillationEnable := true
  localDataset := false
  dataDispatchAsRankInMesh := false

def distilledRollout (uuid : Nat) : Rollout Nat Nat :=
  { promptIdx := 0, prompt := none, conversation := none, completion := 0
    teacherResultUuid := some uuid }

def stepInTime : List (WorkerEvent Nat Nat) :=
  [.train [distilledRollout 0, distilledRollout 1], .putRollout, .putUuid, .putRollout, .putUuid,
    .dataFetch, .getRollout, .placeRollout, .getRollout, .placeRollout, .scatter]

theorem teacherResultsReach_stepInTime :
    (workerSystem twoShardConfig ⟨fun _ => 0, fun _ => 0⟩).Throughout
      (WorkerState.TeacherResultsReach twoShardConfig) WorkerState.initial stepInTime := by
  refine teacherResultsReach_run twoShardConfig ⟨fun _ => 0, fun _ => 0⟩
    ⟨rfl, rfl, by simp [twoShardConfig]⟩ stepInTime (by decide) ?_
  decide

/-- Three of the four rollouts of two steps are read before the first step.  Their uuids
are dealt to the indices 0, 1 and 0; the second step starts again with index 0 for the
uuid of its second rollout, which goes to index 1. -/
def threeAhead : List (WorkerEvent Nat Nat) :=
  [.train [distilledRollout 0, distilledRollout 1],
    .train [distilledRollout 2, distilledRollout 3],
    .putRollout, .putUuid, .putRollout, .putUuid, .putRollout, .putUuid,
    .dataFetch, .getRollout, .placeRollout, .getRollout, .placeRollout, .scatter,
    .putRollout, .putUuid,
    .dataFetch, .getRollout, .placeRollout, .getRollout, .placeRollout]

/-- The assertion of the second step fails. -/
theorem not_teacherResultsReach_threeAhead :
    twoShardConfig.checkConfig ∧
      (workerSystem twoShardConfig ⟨fun _ => 0, fun _ => 0⟩).IsRun
        WorkerState.initial threeAhead ∧
      ¬ (workerSystem twoShardConfig ⟨fun _ => 0, fun _ => 0⟩).Throughout
        (WorkerState.TeacherResultsReach twoShardConfig) WorkerState.initial threeAhead := by
  refine ⟨by decide, by decide, ?_⟩
  intro reach
  have asserted := reach.finish.asserted
  exact absurd asserted (by decide)

end CosmosRl.Worker
