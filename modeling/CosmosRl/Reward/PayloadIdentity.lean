import CosmosRl.Reward.RewardDispatcher
import CosmosRl.Foundation.Batching
import Mathlib.Data.Rat.Cast.Order

/-!
Payloads come back from the reward calculation in order and with their identity.

The queue always holds the payloads that are enqueued and not yet handed back.  The local
calculator keeps the identity of payloads whose columns are long enough.  The remote
calculator rebuilds a payload without its weight version, which is then 0, and never takes
a result that was put into its queue.
-/

namespace CosmosRl.Reward

open CosmosRl.Foundation List
open CosmosRl.Dispatcher (PyError)

variable {contents : Contents}

section Specification

def QueuedTask.payloadCount : QueuedTask contents → Nat
  | .uuid _ => 1
  | .result task => task.payloads.length
  | .future task _ => task.payloads.length

variable [Field contents.Value] [LinearOrder contents.Value]

def QueuedTask.Ready (config : DispatcherConfig contents) (responses : Responses contents) :
    QueuedTask contents → Prop
  | .uuid request =>
    ∃ rewards, fetchReward config.remoteReward (responses request) = .ok rewards
  | .result _ => True
  | .future _ done => done ≠ none

/-- The first payloads have come back in order with their identity, the queue holds as many
as are left, and the first task is taken when it is ready. -/
structure PreservesPayloads (config : DispatcherConfig contents)
    (dispatcher : RewardDispatcher contents) : Prop where
  order : ∃ taken pending, dispatcher.enqueued = taken ++ pending ∧
    List.Forall₂ KeepsIdentity taken dispatcher.handedBack ∧
    (dispatcher.failed = none →
      pending.length = (dispatcher.taskQueue.map QueuedTask.payloadCount).sum)
  taken : dispatcher.failed = none → ∀ responses head rest,
    dispatcher.taskQueue = head :: rest → head.Ready config responses →
      (∃ exn, (dequeueRewardsCal config responses dispatcher).1 = .error exn) ∨
        (dequeueRewardsCal config responses dispatcher).2.taskQueue.length <
          dispatcher.taskQueue.length

/-- The local calculator gets payloads with long enough columns, unless rewards are
bypassed; the remote one gets payloads of version 0 and rewards are not bypassed. -/
def CalculatorKeeps (config : DispatcherConfig contents) (_ : RewardDispatcher contents) :
    DispatcherEvent contents → Prop
  | .enqueue payloads _ _ bypassReward _ =>
    if config.isRemote then
      bypassReward = false ∧ ∀ payload ∈ payloads, payload.weightVersion = 0
    else bypassReward = true ∨ ∀ payload ∈ payloads, payload.Aligned
  | .finish _ _ | .dequeue _ => True

end Specification

section Queue

def Holds (kept : Dict String (RLPayload contents)) :
    QueuedTask contents → List (RLPayload contents) → Prop
  | .uuid uuid, payloads => ∃ payload, kept.get? uuid = some payload ∧ payloads = [payload] ∧
      payload.weightVersion = 0
  | .result task, payloads => List.Forall₂ KeepsIdentity payloads task.payloads
  | .future task done, payloads => payloads = task.payloads ∧
      (∀ payload ∈ payloads, payload.Aligned) ∧
      ∀ result, done = some (.ok result) → List.Forall₂ KeepsIdentity payloads result.payloads

def QueuedTask.request : QueuedTask contents → Option String
  | .uuid request => some request
  | .result _ | .future _ _ => none

structure Queueing (config : DispatcherConfig contents) (dispatcher : RewardDispatcher contents)
    (groups : List (List (RLPayload contents))) : Prop where
  running : dispatcher.failed = none
  holds : List.Forall₂ (Holds dispatcher.uuid2payload) dispatcher.taskQueue groups
  kind : ∀ task ∈ dispatcher.taskQueue, task.request.isSome = config.isRemote
  distinct : (dispatcher.taskQueue.filterMap QueuedTask.request).Nodup

def InOrder (dispatcher : RewardDispatcher contents) (pending : List (RLPayload contents)) :
    Prop :=
  ∃ taken, dispatcher.enqueued = taken ++ pending ∧
    List.Forall₂ KeepsIdentity taken dispatcher.handedBack

def Orderly (config : DispatcherConfig contents) (dispatcher : RewardDispatcher contents) :
    Prop :=
  ∃ pending, InOrder dispatcher pending ∧
    ((∃ exn, dispatcher.failed = some exn) ∨
      ∃ groups, pending = groups.flatten ∧ Queueing config dispatcher groups)

variable {config : DispatcherConfig contents} {dispatcher : RewardDispatcher contents}
  {groups : List (List (RLPayload contents))}

variable {kept : Dict String (RLPayload contents)} {payloads : List (RLPayload contents)}
  {task : QueuedTask contents} {payloadPerTask : Nat}

theorem Holds.length_eq (holds : Holds kept task payloads) :
    payloads.length = task.payloadCount := by
  cases task with
  | uuid uuid =>
    obtain ⟨payload, -, rfl, -⟩ := holds
    rfl
  | result task => exact List.Forall₂.length_eq holds
  | future task done => exact congrArg List.length holds.1

/-- A task is put at the end of the queue. -/
theorem Queueing.put (queueing : Queueing config dispatcher groups)
    (holds : Holds kept task payloads) (keeps : ∀ other ∈ dispatcher.taskQueue, ∀ others,
      Holds dispatcher.uuid2payload other others → Holds kept other others)
    (kind : task.request.isSome = config.isRemote) (fresh : ∀ request ∈ task.request,
      request ∉ dispatcher.taskQueue.filterMap QueuedTask.request) :
    Queueing config
      { dispatcher with
        taskQueue := dispatcher.taskQueue ++ [task]
        uuid2payload := kept } (groups ++ [payloads]) := by
  refine ⟨queueing.running, ?_, ?_, ?_⟩
  · exact rel_append (forall₂_imp_of_mem queueing.holds keeps) (.cons holds .nil)
  · intro other isTask
    rcases mem_append.mp isTask with isOld | isNew
    · exact queueing.kind other isOld
    · rw [mem_singleton.mp isNew]
      exact kind
  · have last : [task].filterMap QueuedTask.request = task.request.toList := by
      cases requestIs : task.request with
      | none => rw [filterMap_cons_none requestIs, filterMap_nil, Option.toList_none]
      | some request =>
        rw [filterMap_cons_some requestIs, filterMap_nil, Option.toList_some]
    rw [filterMap_append, last]
    refine nodup_append'.mpr ⟨queueing.distinct, ?_, ?_⟩
    · cases task.request with
      | none => exact nodup_nil
      | some request => exact nodup_singleton request
    · intro request isOpen isNew
      exact fresh request (Option.mem_toList.mp isNew) isOpen

theorem Queueing.mem_keys (queueing : Queueing config dispatcher groups) {request : String}
    (isOpen : request ∈ dispatcher.taskQueue.filterMap QueuedTask.request) :
    request ∈ dispatcher.uuid2payload.keys := by
  obtain ⟨task, isTask, requestIs⟩ := mem_filterMap.mp isOpen
  obtain ⟨payloads, -, holds⟩ := exists_related_of_mem queueing.holds isTask
  cases task with
  | uuid uuid =>
    obtain ⟨payload, found, -⟩ := holds
    rw [← Option.some.inj requestIs]
    exact Dict.mem_keys_iff_get?.mpr ⟨payload, found⟩
  | result task => cases requestIs
  | future task done => cases requestIs

theorem queueing_putAll {Item : Type}
    (put : Item → RewardDispatcher contents → Except PyError (RewardDispatcher contents))
    (ready : List Item → RewardDispatcher contents → Prop)
    (payloadsOf : Item → List (RLPayload contents))
    (puts : ∀ item rest dispatcher next groups, ready (item :: rest) dispatcher →
      Queueing config dispatcher groups → put item dispatcher = .ok next →
        ready rest next ∧ next.handedBack = dispatcher.handedBack ∧
          Queueing config next (groups ++ [payloadsOf item]))
    {items : List Item} (isReady : ready items dispatcher)
    (queueing : Queueing config dispatcher groups) :
    (putAll put items dispatcher).handedBack = dispatcher.handedBack ∧
      ((∃ exn, (putAll put items dispatcher).failed = some exn) ∨
        Queueing config (putAll put items dispatcher) (groups ++ items.map payloadsOf)) := by
  induction items generalizing dispatcher groups with
  | nil =>
    rw [map_nil, append_nil]
    exact ⟨rfl, .inr queueing⟩
  | cons item rest ih =>
    rw [putAll]
    cases placed : put item dispatcher with
    | error exn => exact ⟨rfl, .inl ⟨exn, rfl⟩⟩
    | ok next =>
      obtain ⟨nextReady, sameBack, nextQueueing⟩ :=
        puts item rest dispatcher next groups isReady queueing placed
      have later := ih nextReady nextQueueing
      rw [sameBack, append_assoc] at later
      exact later

theorem flatten_tasksOf {Payload : Type} (positive : 0 < payloadPerTask)
    (payloads : List Payload) : (tasksOf payloadPerTask payloads).flatten = payloads :=
  flatten_inBatches positive payloads

theorem mem_of_mem_tasksOf {Payload : Type} {payloads task : List Payload}
    (isTask : task ∈ tasksOf payloadPerTask payloads) {payload : Payload}
    (isPayload : payload ∈ task) : payload ∈ payloads := by
  obtain ⟨i, -, rfl⟩ := mem_map.mp isTask
  exact mem_of_mem_drop (mem_of_mem_take isPayload)

end Queue

section Enqueue

variable [Field contents.Value]
  {config : DispatcherConfig contents} {dispatcher : RewardDispatcher contents}
  {groups : List (List (RLPayload contents))}

theorem keepsIdentity_bypassed {payload given : RLPayload contents}
    (isBypassed : bypassed payload = .ok given) : KeepsIdentity payload given := by
  rw [bypassed] at isBypassed
  split at isBypassed
  next => cases isBypassed
  next completions completionsIs =>
    cases isBypassed
    refine ⟨rfl, rfl, rfl, fun _ _ _ => rfl, ⟨_, rfl, ?_⟩, ⟨_, rfl, ?_⟩⟩
    · rw [length_map, completionsIs, Option.getD_some]
    · rw [length_map, completionsIs, Option.getD_some]

variable {isValidation : Bool} {step : Int} {payloads : List (RLPayload contents)}
  {next : RewardDispatcher contents} {answers : Nat → Except PyError String}

theorem queueing_putResult
    (isLocal : config.isRemote = false) (queueing : Queueing config dispatcher groups)
    (placed : putResult isValidation step payloads dispatcher = .ok next) :
    next.handedBack = dispatcher.handedBack ∧ Queueing config next (groups ++ [payloads]) := by
  rw [putResult] at placed
  cases given : payloads.mapM bypassed with
  | error exn => simp [given, bind, Except.bind] at placed
  | ok results =>
    simp only [given, bind, Except.bind, Except.ok.injEq] at placed
    rw [← placed]
    refine ⟨rfl, queueing.put ?_ (fun _ _ _ holds => holds) isLocal.symm
      fun _ impossible => by cases impossible⟩
    exact (forall₂_of_mapM_ok given).imp fun _ _ => keepsIdentity_bypassed

variable [LinearOrder contents.Value] {bypassReward : Bool}

section

omit [Field contents.Value] [LinearOrder contents.Value]

theorem queueing_putFuture
    (isLocal : config.isRemote = false) (aligned : ∀ payload ∈ payloads, payload.Aligned)
    (queueing : Queueing config dispatcher groups)
    (placed : putFuture config isValidation step payloads dispatcher = .ok next) :
    next.handedBack = dispatcher.handedBack ∧ Queueing config next (groups ++ [payloads]) := by
  rw [putFuture] at placed
  split at placed
  next => cases placed
  next =>
    cases placed
    exact ⟨rfl, queueing.put ⟨rfl, aligned, fun _ impossible => by cases impossible⟩
      (fun _ _ _ holds => holds) isLocal.symm fun _ impossible => by cases impossible⟩

theorem queueing_putRequest {entry : RLPayload contents × Nat}
    (isRemote : config.isRemote = true) (initial : entry.1.weightVersion = 0)
    (fresh : ∀ uuid, answers entry.2 = .ok uuid → uuid ∉ dispatcher.uuid2payload.keys)
    (queueing : Queueing config dispatcher groups)
    (placed : putRequest isValidation answers entry dispatcher = .ok next) :
    next.handedBack = dispatcher.handedBack ∧
      Queueing config next (groups ++ [[entry.1]]) ∧
        ∃ uuid, answers entry.2 = .ok uuid ∧
          ∀ other, other ∈ next.uuid2payload.keys →
            other ∈ dispatcher.uuid2payload.keys ∨ other = uuid := by
  rw [putRequest] at placed
  cases requested : requestOf isValidation entry.1 (answers entry.2) with
  | error exn => simp [requested, bind, Except.bind] at placed
  | ok uuid =>
    simp only [requested, bind, Except.bind, Except.ok.injEq] at placed
    have answered : answers entry.2 = .ok uuid := by
      rw [requestOf] at requested
      split at requested
      next => cases requested
      next =>
        split at requested
        next => cases requested
        next => cases requested
        next => exact requested
    have absent := fresh uuid answered
    rw [← placed]
    refine ⟨rfl, queueing.put ⟨entry.1, ?_, rfl, initial⟩ ?_ isRemote.symm ?_, uuid, answered, ?_⟩
    · rw [Dict.get?_set, if_pos rfl]
    · intro other isTask others holds
      cases other with
      | uuid known =>
        obtain ⟨payload, found, same⟩ := holds
        refine ⟨payload, ?_, same⟩
        have different : known ≠ uuid := by
          rintro rfl
          exact absent (Dict.mem_keys_iff_get?.mpr ⟨payload, found⟩)
        rw [Dict.get?_set, if_neg different, found]
      | result task => exact holds
      | future task done => exact holds
    · intro request isRequest isOpen
      rw [← Option.some.inj isRequest] at isOpen
      exact absent (queueing.mem_keys isOpen)
    · intro other isKey
      rw [Dict.keys_set_of_notMem _ absent] at isKey
      rcases mem_append.mp isKey with isOld | isNew
      · exact .inl isOld
      · exact .inr (mem_singleton.mp isNew)

end

omit [LinearOrder contents.Value] in
/-- Enqueueing puts groups that together are the payloads, unless it raises. -/
theorem grown_enqueueRewardsCal (queueing : Queueing config dispatcher groups)
    (answered : (DispatcherEvent.enqueue payloads isValidation step bypassReward
      answers).Answered dispatcher) (keeps : CalculatorKeeps config dispatcher
      (.enqueue payloads isValidation step bypassReward answers)) :
    (enqueueRewardsCal config payloads isValidation step bypassReward answers
        dispatcher).handedBack = dispatcher.handedBack ∧
      ((∃ exn, (enqueueRewardsCal config payloads isValidation step bypassReward answers
        dispatcher).failed = some exn) ∨
        ∃ added, added.flatten = payloads ∧ Queueing config (enqueueRewardsCal config payloads
          isValidation step bypassReward answers dispatcher) (groups ++ added)) := by
  rw [enqueueRewardsCal]
  cases isRemote : config.isRemote with
  | true =>
    simp only [CalculatorKeeps, isRemote, if_true] at keeps
    obtain ⟨notBypassed, initial⟩ := keeps
    rw [if_pos ⟨by rw [notBypassed]; exact Bool.false_ne_true, rfl⟩]
    refine (queueing_putAll (putRequest isValidation answers)
      (fun entries dispatcher => (∀ entry ∈ entries, entry.1.weightVersion = 0) ∧
        (∀ entry ∈ entries, ∀ uuid, answers entry.2 = .ok uuid →
          uuid ∉ dispatcher.uuid2payload.keys) ∧ (entries.map Prod.snd).Nodup)
      (fun entry => [entry.1]) ?_ ⟨?_, ?_, ?_⟩ queueing).imp_right
        (Or.imp_right fun queued => ⟨_, ?_, queued⟩)
    · rintro entry rest before next groups ⟨initial, fresh, distinct⟩ queueing placed
      rw [forall_mem_cons] at initial fresh
      rw [map_cons, nodup_cons] at distinct
      obtain ⟨sameBack, queued, uuid, named, keys⟩ :=
        queueing_putRequest isRemote initial.1 fresh.1 queueing placed
      refine ⟨⟨initial.2, fun other isLater request answer isKey => ?_, distinct.2⟩,
        sameBack, queued⟩
      rcases keys request isKey with isOld | rfl
      · exact fresh.2 other isLater request answer isOld
      · have same := answered.2 _ _ _ named answer
        exact distinct.1 (same ▸ mem_map_of_mem isLater)
    · intro entry isEntry
      exact initial entry.1 (fst_mem_of_mem_zipIdx isEntry)
    · exact fun entry _ => answered.1 entry.2
    · rw [zipIdx_map_snd]
      exact nodup_range'
    · rw [← flatMap_def, ← map_eq_flatMap, zipIdx_map_fst]
  | false =>
    simp only [CalculatorKeeps, isRemote, Bool.false_eq_true, if_false] at keeps
    rw [if_neg (fun both => Bool.false_ne_true both.2)]
    split
    next => exact ⟨rfl, .inl ⟨_, rfl⟩⟩
    next positive =>
      have together (added : List (List (RLPayload contents)))
          (same : added = (tasksOf config.payloadPerTask payloads).map id) :
          added.flatten = payloads := by
        rw [same, map_id, flatten_tasksOf (Nat.pos_of_ne_zero positive)]
      split
      next isBypassed =>
        refine (queueing_putAll (putResult isValidation step) (fun _ _ => True) id ?_ trivial
          queueing).imp_right (Or.imp_right fun queued => ⟨_, together _ rfl, queued⟩)
        intro task rest before next groups _ queueing placed
        exact ⟨trivial, queueing_putResult isRemote queueing placed⟩
      next notBypassed =>
        have aligned := keeps.resolve_left notBypassed
        refine (queueing_putAll (putFuture config isValidation step)
          (fun tasks _ => ∀ task ∈ tasks, ∀ payload ∈ task, payload.Aligned) id ?_
          (fun task isTask payload isPayload =>
            aligned payload (mem_of_mem_tasksOf isTask isPayload)) queueing).imp_right
          (Or.imp_right fun queued => ⟨_, together _ rfl, queued⟩)
        intro task rest before next groups tasksAligned queueing placed
        rw [forall_mem_cons] at tasksAligned
        exact ⟨tasksAligned.2, queueing_putFuture isRemote tasksAligned.1 queueing placed⟩

theorem orderly_enqueue (orderly : Orderly config dispatcher) (running : dispatcher.failed = none)
    (answered : (DispatcherEvent.enqueue payloads isValidation step bypassReward
      answers).Answered dispatcher) (keeps : CalculatorKeeps config dispatcher
      (.enqueue payloads isValidation step bypassReward answers)) :
    Orderly config ((DispatcherEvent.enqueue payloads isValidation step bypassReward
      answers).apply config dispatcher) := by
  obtain ⟨pending, ⟨taken, enqueued, back⟩, failed | ⟨groups, rfl, queueing⟩⟩ := orderly
  · rw [running] at failed
    obtain ⟨exn, impossible⟩ := failed
    cases impossible
  obtain ⟨sameBack, grown⟩ := grown_enqueueRewardsCal queueing answered keeps
  refine ⟨groups.flatten ++ payloads, ⟨taken, ?_, ?_⟩, ?_⟩
  · rw [DispatcherEvent.apply, enqueued, append_assoc]
  · rw [DispatcherEvent.apply, sameBack]
    exact back
  · rcases grown with failed | ⟨added, together, grown⟩
    · exact .inl failed
    · refine .inr ⟨groups ++ added, ?_, ⟨grown.1, grown.2, grown.3, grown.4⟩⟩
      rw [flatten_append, together]

end Enqueue

section Taking

variable [Field contents.Value] [LinearOrder contents.Value]
  {config : DispatcherConfig contents} {dispatcher : RewardDispatcher contents}
  {groups : List (List (RLPayload contents))} {responses : Responses contents}

/-- A worker that finishes a task leaves the queue in order. -/
theorem Queueing.finish (queueing : Queueing config dispatcher groups) (index : Nat)
    (calculator : LocalRewardCalculator contents) :
    Queueing config
      { dispatcher with
        taskQueue := dispatcher.taskQueue.modify index (QueuedTask.finish calculator) }
      groups := by
  have requests : (dispatcher.taskQueue.modify index (QueuedTask.finish calculator)).map
      QueuedTask.request = dispatcher.taskQueue.map QueuedTask.request := by
    refine map_modify_of_eq (fun task => ?_) _ index
    cases task with
    | uuid uuid => rfl
    | result task => rfl
    | future task done =>
      cases done with
      | none => rfl
      | some done => rfl
  refine ⟨queueing.running, ?_, ?_, ?_⟩
  · refine forall₂_modify queueing.holds (fun task payloads holds => ?_) index
    cases task with
    | uuid uuid => exact holds
    | result task => exact holds
    | future task done =>
      cases done with
      | some done => exact holds
      | none =>
        obtain ⟨rfl, aligned, -⟩ := holds
        exact ⟨rfl, aligned, fun result computed =>
          LocalRewardCalculator.computeRewards_keeps aligned (Option.some.inj computed)⟩
  · rw [← forall_mem_map (f := QueuedTask.request)
      (P := fun request => request.isSome = config.isRemote), requests, forall_mem_map]
    exact queueing.kind
  · have distinct := queueing.distinct
    rw [← Function.id_comp QueuedTask.request, ← filterMap_map] at distinct
    rw [← Function.id_comp QueuedTask.request, ← filterMap_map, requests]
    exact distinct

theorem queue_fetchReady_suffix (remote : RemoteRewardConfig contents)
    (responses : Responses contents) (kept : Dict String (RLPayload contents))
    (queue : List (QueuedTask contents)) :
    (fetchReady remote responses queue kept).queue <:+ queue := by
  induction queue generalizing kept with
  | nil => exact suffix_rfl
  | cons task rest ih =>
    cases task with
    | result task => exact suffix_rfl
    | future task done => exact suffix_rfl
    | uuid uuid =>
      rw [fetchReady]
      split
      · exact suffix_rfl
      · split
        · exact suffix_cons _ _
        · exact (ih _).trans (suffix_cons _ _)

structure TakenFromFront (remote : RemoteRewardConfig contents)
    (groups : List (List (RLPayload contents))) (fetched : Fetched contents) : Prop where
  split : ∃ front back, groups = front ++ back ∧ front.flatten = fetched.payloads ∧
    List.Forall₂ (Holds fetched.uuid2payload) fetched.queue back
  rebuilt : List.Forall₂ (fun payload rewards =>
    KeepsIdentity payload (remotePayload remote payload rewards)) fetched.payloads fetched.results

theorem takenFromFront_fetchReady (remote : RemoteRewardConfig contents)
    {kept : Dict String (RLPayload contents)} {queue : List (QueuedTask contents)}
    (holds : List.Forall₂ (Holds kept) queue groups)
    (distinct : (queue.filterMap QueuedTask.request).Nodup)
    (lengths : ∀ uuid payload, kept.get? uuid = some payload →
      ∀ name scores, responses uuid name = some scores → ∀ entry ∈ scores.entries,
        entry.2.length = (payload.completions.getD []).length) :
    TakenFromFront remote groups (fetchReady remote responses queue kept) := by
  -- Without a fetched request, nothing is taken.
  have nothing {queue : List (QueuedTask contents)}
      {groups : List (List (RLPayload contents))} {kept : Dict String (RLPayload contents)}
      (holds : List.Forall₂ (Holds kept) queue groups)
      (untouched : fetchReady remote responses queue kept = ⟨[], [], queue, kept⟩) :
      TakenFromFront remote groups (fetchReady remote responses queue kept) := by
    rw [untouched]
    exact ⟨⟨[], groups, rfl, rfl, holds⟩, .nil⟩
  induction queue generalizing kept groups with
  | nil => exact nothing holds (by simp only [fetchReady])
  | cons task rest ih =>
    cases task with
    | result task => exact nothing holds (by simp only [fetchReady])
    | future task done => exact nothing holds (by simp only [fetchReady])
    | uuid uuid =>
      cases fetched : fetchReward remote (responses uuid) with
      | error exn => exact nothing holds (by simp only [fetchReady, fetched])
      | ok rewards =>
        cases holds with
        | @cons _ payloads _ others head tail =>
          obtain ⟨payload, found, rfl, initial⟩ := head
          have opened : (QueuedTask.uuid uuid :: rest).filterMap QueuedTask.request =
              uuid :: rest.filterMap QueuedTask.request := filterMap_cons_some rfl
          rw [opened, nodup_cons] at distinct
          have tailHolds : List.Forall₂ (Holds (kept.erase uuid)) rest others := by
            refine forall₂_imp_of_mem tail fun other isTask others holds => ?_
            cases other with
            | result task => exact holds
            | future task done => exact holds
            | uuid known =>
              obtain ⟨payload, found, same⟩ := holds
              have different : known ≠ uuid := by
                rintro rfl
                exact distinct.1 (mem_filterMap.mpr ⟨_, isTask, rfl⟩)
              exact ⟨payload, by rw [Dict.get?_erase, if_neg different, found], same⟩
          have tailLengths : ∀ other payload, (kept.erase uuid).get? other =
              some payload → ∀ name scores, responses other name = some scores →
                ∀ entry ∈ scores.entries,
                  entry.2.length = (payload.completions.getD []).length := by
            intro other payload isKept
            rw [Dict.get?_erase] at isKept
            split at isKept
            next => cases isKept
            next => exact lengths other payload isKept
          obtain ⟨⟨front, back, rfl, frontIs, held⟩, keeps⟩ := ih tailHolds distinct.2 tailLengths
          have rewardsLength :
              rewards.length = (payload.completions.getD []).length := by
            refine fetchReward_length (fun name scores answered key score isScore => ?_) fetched
            exact lengths uuid payload found name scores answered (key, score)
              (Dict.get?_eq_some_iff.mp isScore)
          simp only [fetchReady, fetched, found]
          refine ⟨⟨[payload] :: front, back, rfl, ?_, held⟩, .cons ?_ keeps⟩
          · rw [flatten_cons, frontIs, singleton_append]
          · exact (keepsIdentity_remotePayload rewardsLength).mpr initial

omit [LinearOrder contents.Value] in
theorem forall₂_zip_remotePayload {remote : RemoteRewardConfig contents}
    {payloads : List (RLPayload contents)} {results : List (List contents.Value)}
    (keeps : List.Forall₂ (fun payload rewards =>
      KeepsIdentity payload (remotePayload remote payload rewards)) payloads results) :
    List.Forall₂ KeepsIdentity payloads
      ((payloads.zip results).map fun (payload, rewards) =>
        remotePayload remote payload rewards) := by
  induction keeps with
  | nil => exact .nil
  | cons head tail ih => exact .cons head ih

variable {head : QueuedTask contents} {rest : List (QueuedTask contents)}

theorem dequeueRewardsCal_remote
    (queue : dispatcher.taskQueue = head :: rest) (isRemote : config.isRemote = true) :
    dequeueRewardsCal config responses dispatcher = getResults config responses dispatcher := by
  rw [dequeueRewardsCal, queue]
  exact if_pos isRemote

theorem dequeueRewardsCal_local
    (queue : dispatcher.taskQueue = head :: rest) (isLocal : config.isRemote = false) :
    dequeueRewardsCal config responses dispatcher = takeFirst head rest dispatcher := by
  rw [dequeueRewardsCal, queue]
  exact if_neg (by rw [isLocal]; exact Bool.false_ne_true)

/-- Payloads that are handed back are taken from the front of the queue. -/
theorem orderly_dequeue (orderly : Orderly config dispatcher) (running : dispatcher.failed = none)
    (answered : (DispatcherEvent.dequeue responses).Answered dispatcher) :
    Orderly config ((DispatcherEvent.dequeue responses).apply config dispatcher) := by
  obtain ⟨pending, ⟨taken, enqueued, back⟩, failed | ⟨groups, rfl, queueing⟩⟩ := orderly
  · rw [running] at failed
    obtain ⟨exn, impossible⟩ := failed
    cases impossible
  -- The front group comes back, unless the calculation has raised.
  have taking (front : List (List (RLPayload contents)))
      {others : List (List (RLPayload contents))}
      {given : List (RLPayload contents)} {next : RewardDispatcher contents}
      (same : groups = front ++ others) (keeps : List.Forall₂ KeepsIdentity front.flatten given)
      (enqueuedSame : next.enqueued = dispatcher.enqueued)
      (handedBack : next.handedBack = dispatcher.handedBack ++ given)
      (queueing : Queueing config next others) : Orderly config next := by
    refine ⟨others.flatten, ⟨taken ++ front.flatten, ?_, ?_⟩, .inr ⟨others, rfl, queueing⟩⟩
    · rw [enqueuedSame, enqueued, same, flatten_append, append_assoc]
    · rw [handedBack]
      exact rel_append back keeps
  have raising {next : RewardDispatcher contents} {exn : PyError}
      (enqueuedSame : next.enqueued = dispatcher.enqueued)
      (backSame : next.handedBack = dispatcher.handedBack)
      (failed : next.failed = some exn) : Orderly config next :=
    ⟨groups.flatten, ⟨taken, enqueuedSame.trans enqueued, backSame ▸ back⟩, .inl ⟨exn, failed⟩⟩
  cases queue : dispatcher.taskQueue with
  | nil =>
    have computed : dequeueRewardsCal config responses dispatcher =
        (.ok { allDone := true }, dispatcher) := by
      rw [dequeueRewardsCal, queue]
    rw [DispatcherEvent.apply, computed]
    exact taking [] rfl .nil rfl rfl ⟨queueing.1, queueing.2, queueing.3, queueing.4⟩
  | cons head rest =>
    cases isRemote : config.isRemote with
    | true =>
      have fromFront := takenFromFront_fetchReady config.remoteReward
        queueing.holds queueing.distinct answered
      have suffix := queue_fetchReady_suffix config.remoteReward responses
        dispatcher.uuid2payload dispatcher.taskQueue
      rw [DispatcherEvent.apply, dequeueRewardsCal_remote queue isRemote, getResults]
      generalize fetchReady config.remoteReward responses dispatcher.taskQueue
        dispatcher.uuid2payload = fetched at fromFront suffix
      obtain ⟨⟨front, others, same, frontIs, held⟩, rebuilt⟩ := fromFront
      rw [Fetched.task]
      cases checkPromptIdx fetched.payloads with
      | error exn => exact raising rfl rfl rfl
      | ok =>
        refine taking front same ?_ rfl rfl ⟨queueing.running, held, ?_, ?_⟩
        · rw [frontIs]
          exact forall₂_zip_remotePayload rebuilt
        · exact fun task isTask => queueing.kind task (suffix.mem isTask)
        · exact queueing.distinct.sublist (suffix.sublist.filterMap _)
    | false =>
      have kind := queueing.kind
      have distinct := queueing.distinct
      have holds := queueing.holds
      rw [queue] at kind distinct holds
      rw [forall_mem_cons] at kind
      have restDistinct : (rest.filterMap QueuedTask.request).Nodup :=
        distinct.sublist ((sublist_cons_self _ _).filterMap _)
      cases holds with
      | @cons _ payloads _ others headHolds restHold =>
        have later : Queueing config { dispatcher with taskQueue := rest } others :=
          ⟨queueing.running, restHold, kind.2, restDistinct⟩
        cases head with
        | uuid uuid =>
          have impossible := kind.1
          rw [isRemote] at impossible
          cases impossible
        | result task =>
          rw [DispatcherEvent.apply, dequeueRewardsCal_local queue isRemote, takeFirst]
          refine taking [payloads] rfl ?_ rfl rfl ⟨later.1, later.2, later.3, later.4⟩
          rw [flatten_singleton]
          exact headHolds
        | future task done =>
          cases done with
          | none =>
            rw [DispatcherEvent.apply, dequeueRewardsCal_local queue isRemote, takeFirst]
            exact taking [] rfl .nil rfl rfl ⟨queueing.1, queueing.2, queueing.3, queueing.4⟩
          | some done =>
            cases done with
            | error exn =>
              rw [DispatcherEvent.apply, dequeueRewardsCal_local queue isRemote, takeFirst]
              exact raising rfl rfl rfl
            | ok result =>
              rw [DispatcherEvent.apply, dequeueRewardsCal_local queue isRemote, takeFirst]
              refine taking [payloads] rfl ?_ rfl rfl ⟨later.1, later.2, later.3, later.4⟩
              rw [flatten_singleton]
              exact headHolds.2.2 result rfl

theorem taken_of_ready (queueing : Queueing config dispatcher groups)
    (front : dispatcher.taskQueue = head :: rest) (ready : head.Ready config responses) :
    (∃ exn, (dequeueRewardsCal config responses dispatcher).1 = .error exn) ∨
      (dequeueRewardsCal config responses dispatcher).2.taskQueue.length <
        dispatcher.taskQueue.length := by
  have kind := queueing.kind head (by rw [front]; exact mem_cons_self)
  cases isRemote : config.isRemote with
  | true =>
    have holds := queueing.holds
    rw [front] at holds
    rw [isRemote] at kind
    rw [dequeueRewardsCal_remote front isRemote, getResults, front]
    cases head with
    | result task => cases kind
    | future task done => cases kind
    | uuid uuid =>
      cases holds with
      | cons headHolds restHold =>
        obtain ⟨payload, found, -⟩ := headHolds
        obtain ⟨rewards, fetched⟩ := ready
        simp only [fetchReady, fetched, found]
        exact .inr (Nat.lt_succ_of_le (queue_fetchReady_suffix _ _ _ rest).length_le)
  | false =>
    rw [dequeueRewardsCal_local front isRemote, front]
    rw [isRemote] at kind
    cases head with
    | uuid uuid => cases kind
    | result task => exact .inr (Nat.lt_succ_self _)
    | future task done =>
      cases done with
      | none => exact absurd rfl ready
      | some done => exact .inr (Nat.lt_succ_self _)

end Taking

section Runs

variable [Field contents.Value] [LinearOrder contents.Value]
  {config : DispatcherConfig contents} {dispatcher : RewardDispatcher contents}

theorem Orderly.preservesPayloads (orderly : Orderly config dispatcher) :
    PreservesPayloads config dispatcher := by
  obtain ⟨pending, ⟨taken, enqueued, back⟩, rest⟩ := orderly
  refine ⟨⟨taken, pending, enqueued, back, fun running => ?_⟩,
    fun running responses head later front ready => ?_⟩
  · rcases rest with ⟨exn, failed⟩ | ⟨groups, rfl, queueing⟩
    · rw [running] at failed
      cases failed
    · have holds := queueing.holds
      clear enqueued queueing
      generalize dispatcher.taskQueue = queue at holds
      induction holds with
      | nil => rfl
      | cons head tail ih =>
        rw [flatten_cons, length_append, map_cons, sum_cons, head.length_eq, ih]
  · rcases rest with ⟨exn, failed⟩ | ⟨groups, rfl, queueing⟩
    · rw [running] at failed
      cases failed
    · exact taken_of_ready queueing front ready

theorem Orderly.apply (orderly : Orderly config dispatcher) {event : DispatcherEvent contents}
    (allowed : (dispatcherSystem config).Allowed dispatcher event)
    (keeps : CalculatorKeeps config dispatcher event) :
    Orderly config (event.apply config dispatcher) := by
  cases event with
  | enqueue payloads isValidation step bypassReward answers =>
    exact orderly_enqueue orderly allowed.1 allowed.2 keeps
  | dequeue responses => exact orderly_dequeue orderly allowed.1 allowed.2
  | finish index calculator =>
    obtain ⟨pending, inOrder, failed | ⟨groups, same, queueing⟩⟩ := orderly
    · exact ⟨pending, inOrder, .inl failed⟩
    · exact ⟨pending, inOrder, .inr ⟨groups, same, queueing.finish index calculator⟩⟩

/-- As long as the local calculator gets payloads with long enough columns, and the remote
one payloads of version 0 whose rewards are not bypassed, payloads come back in order with
their identity, and nothing is lost or duplicated. -/
theorem preservesPayloads_of_calculatorKeeps (config : DispatcherConfig contents)
    (events : List (DispatcherEvent contents)) (isRun : (dispatcherSystem config).IsRun {} events)
    (keeps : (dispatcherSystem config).StepsMeet (CalculatorKeeps config) {} events) :
    (dispatcherSystem config).Throughout (PreservesPayloads config) {} events := by
  have initial : Orderly config ({} : RewardDispatcher contents) :=
    ⟨[], ⟨[], rfl, .nil⟩, .inr ⟨[], rfl, rfl, .nil,
      fun _ impossible => absurd impossible not_mem_nil, nodup_nil⟩⟩
  refine EventSystem.Throughout.mono
    (fun _ (orderly : Orderly config _) => orderly.preservesPayloads) ?_
  exact EventSystem.throughout_of_stepsMeet
    (fun dispatcher event orderly allowed keeps => orderly.apply allowed keeps)
    initial isRun keeps

end Runs

section Scored

abbrev rationalContents : Contents where
  Prompt := String
  Content := String
  Completion := String
  Value := ℚ
  Info := ℚ
  emptyText := ""
  noCompletion := ""
  ofValue := id

abbrev defaultRemoteReward : RemoteRewardConfig rationalContents where
  scale := 1
  rewardFns := [⟨"dance_grpo", 1, "overall_reward", -5, 5⟩]
  rewardClipMin := -5
  rewardClipMax := 5
  sqrt := id

abbrev remoteCalculator : DispatcherConfig rationalContents where
  isRemote := true
  remoteReward := defaultRemoteReward

abbrev imagePayload (version : Int) : RLPayload rationalContents :=
  { promptIdx := 0
    weightVersion := version
    completions := some ["image"]
    extraInfo := some ∅ }

abbrev scores : Dict String (List ℚ) := (∅ : Dict String (List ℚ)).set "overall_reward" [1]

abbrev scored (version : Int) : List (DispatcherEvent rationalContents) :=
  [.enqueue [imagePayload version] false version false
      fun index => if index = 0 then .ok "request" else .error .keyError,
    .dequeue fun _ _ => some scores]

theorem isRun_scored (version : Int) :
    (dispatcherSystem remoteCalculator).IsRun {} (scored version) := by
  refine ⟨⟨rfl, fun index uuid _ => not_mem_nil, ?_⟩, ⟨rfl, ?_⟩, trivial⟩
  · intro first second uuid firstAnswer secondAnswer
    dsimp only at firstAnswer secondAnswer
    split at firstAnswer
    next firstIs =>
      split at secondAnswer
      next secondIs => rw [firstIs, secondIs]
      next => cases secondAnswer
    next => cases firstAnswer
  · intro uuid payload kept name found answered entry isEntry
    cases Option.some.inj answered
    have same : payload = imagePayload version := by
      have stored : ((∅ : Dict String (RLPayload rationalContents)).set "request"
          (imagePayload version)).get? uuid = some payload := kept
      rw [Dict.get?_set] at stored
      split at stored
      · exact (Option.some.inj stored).symm
      · cases stored
    have isScore : entry ∈ [("overall_reward", [(1 : ℚ)])] := isEntry
    rw [same, mem_singleton.mp isScore]
    rfl

/-- A payload of version 3 comes back from the remote calculator with version 0. -/
theorem not_preservesPayloads_scored :
    (dispatcherSystem remoteCalculator).IsRun {} (scored 3) ∧
      ¬ (dispatcherSystem remoteCalculator).Throughout (PreservesPayloads remoteCalculator) {}
        (scored 3) := by
  refine ⟨isRun_scored 3, fun throughout => ?_⟩
  obtain ⟨taken, pending, enqueued, back, -⟩ := throughout.finish.order
  have versions : ((dispatcherSystem remoteCalculator).after {} (scored 3)).handedBack.map
      RLPayload.weightVersion = [0] := rfl
  have given : ((dispatcherSystem remoteCalculator).after {} (scored 3)).enqueued =
      [imagePayload 3] := rfl
  rw [given] at enqueued
  cases back with
  | cons keeps rest =>
    rw [cons_append] at enqueued
    have first := (List.cons.inj enqueued).1
    have version := keeps.weightVersion
    rw [← first, (List.cons.inj versions).1] at version
    cases version

/-- Payloads of version 0 come back with their identity. -/
theorem preservesPayloads_scored :
    (dispatcherSystem remoteCalculator).Throughout (PreservesPayloads remoteCalculator) {}
      (scored 0) :=
  preservesPayloads_of_calculatorKeeps remoteCalculator (scored 0) (isRun_scored 0)
    ⟨⟨rfl, fun _ isPayload => by rw [mem_singleton.mp isPayload]⟩, trivial, trivial⟩

end Scored

end CosmosRl.Reward
