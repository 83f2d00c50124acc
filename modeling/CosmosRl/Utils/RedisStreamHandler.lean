import CosmosRl.Foundation.NumberedLog
import CosmosRl.Foundation.Run

/-!
Commands and rollouts on Redis streams.

The controller adds entries with `XADD`, one call of `make_request_with_retry` for
each; a call whose attempt fails tries again on the next address of the server.  An
attempt may fail before or after the server has applied it.  The replica reads with
`XREAD` after the last id it has seen, a batch at a time, and remembers the last id
of the batch before anything is decoded.
-/

namespace CosmosRl.Utils

open CosmosRl.Foundation List

universe u

/-- The counters of a call of `make_request_with_retry`. -/
structure RetryState where
  requestIdx : Nat
  totalAttempts : Nat
  deriving DecidableEq

namespace RetryState

def start : RetryState := ⟨0, 0⟩

/-- The `except` branch, without urls and without an `exception_parser`. -/
def failed (requests : Nat) (retry : RetryState) : RetryState :=
  if requests ≤ retry.requestIdx + 1 then ⟨0, retry.totalAttempts + 1⟩
  else ⟨retry.requestIdx + 1, retry.totalAttempts⟩

def afterFailures (requests : Nat) : Nat → RetryState
  | 0 => start
  | failures + 1 => (afterFailures requests failures).failed requests

end RetryState

/-- `COSMOS_HTTP_RETRY_CONFIG.max_retries` -/
def maxRetries : Nat := 60

inductive StreamKind where
  | command
  | rollout
  deriving DecidableEq

/-- `CMD_FETCH_SIZE` and `ROLLOUT_FETCH_SIZE` -/
def StreamKind.fetchSize : StreamKind → Nat
  | .command => 5
  | .rollout => 8

/-- `STREAM_MAXLEN` -/
def streamMaxlen : Nat := 10000

structure StreamConfig (Value : Type u) where
  kind : StreamKind
  clients : Nat
  decodable : Value → Bool

/-- What the caller of `subscribe_command` gets for a batch, or what `fetch_rollouts`
puts into its queue: it decodes a batch in one expression. -/
def StreamConfig.deliver {Value : Type u} (config : StreamConfig Value) (batch : List Value) :
    List Value :=
  match config.kind with
  | .command => batch
  | .rollout => if batch.all config.decodable then batch else []

def StreamConfig.expected {Value : Type u} (config : StreamConfig Value)
    (values : List Value) : List Value :=
  match config.kind with
  | .command => values
  | .rollout => values.filter config.decodable

structure StreamState (Value : Type u) where
  stream : NumberedLog Value
  /-- The call of `publish_command` or `publish_rollout` in progress. -/
  call : Option (Value × RetryState)
  /-- The arguments of all calls so far. -/
  published : List Value
  /-- `latest_id_command` or `latest_id_rollout` of the reader. -/
  latestId : Nat
  returned : List Value

inductive StreamEvent (Value : Type u) where
  | publish (value : Value)
  /-- An attempt of the call fails before the server has applied it. -/
  | requestLost
  /-- An attempt fails after the server has applied it. -/
  | replyLost (gap trimmed : Nat)
  /-- An attempt succeeds. -/
  | answered (gap trimmed : Nat)
  /-- The reader subscribes; its `XREAD` succeeds after some failed attempts. -/
  | subscribe (failures : Nat)

namespace StreamState

variable {Value : Type u}

def initial : StreamState Value where
  stream := .empty
  call := none
  published := []
  latestId := 0
  returned := []

/-- `XADD` with `maxlen`: the server also trims old entries. -/
def xadd (state : StreamState Value) (gap trimmed : Nat) (value : Value) : StreamState Value :=
  { state with stream := (state.stream.add gap value).trim trimmed }

def unread (state : StreamState Value) : List (Nat × Value) :=
  state.stream.after state.latestId

/-- `XREAD` with `count`. -/
def xread (config : StreamConfig Value) (state : StreamState Value) : List (Nat × Value) :=
  state.unread.take config.kind.fetchSize

/-- `subscribe_command`, or `subscribe_rollout` and the decoding of what it returns.  If
all attempts fail nothing has been read. -/
def subscribe (config : StreamConfig Value) (state : StreamState Value) (failures : Nat) :
    StreamState Value :=
  if (RetryState.afterFailures config.clients failures).totalAttempts < maxRetries then
    { state with
        latestId := NumberedLog.lastRead state.latestId (state.xread config)
        returned := state.returned ++ config.deliver ((state.xread config).map Prod.snd) }
  else state

def attemptFailed (config : StreamConfig Value) (state : StreamState Value) :
    StreamState Value :=
  { state with call := state.call.map fun call => (call.1, call.2.failed config.clients) }

def applied (state : StreamState Value) (gap trimmed : Nat) : StreamState Value :=
  match state.call with
  | none => state
  | some call => state.xadd gap trimmed call.1

def handle (config : StreamConfig Value) (state : StreamState Value) :
    StreamEvent Value → StreamState Value
  | .publish value =>
    { state with
        call := some (value, .start)
        published := state.published ++ [value] }
  | .requestLost => state.attemptFailed config
  | .replyLost gap trimmed => (state.applied gap trimmed).attemptFailed config
  | .answered gap trimmed => { state.applied gap trimmed with call := none }
  | .subscribe failures => state.subscribe config failures

def Survives (config : StreamConfig Value) (state : StreamState Value) : Prop :=
  state.call.any fun call => decide ((call.2.failed config.clients).totalAttempts < maxRetries)

def Fits (state : StreamState Value) (trimmed : Nat) : Prop :=
  state.unread.length < streamMaxlen ∧
    (trimmed = 0 ∨ trimmed + streamMaxlen ≤ state.stream.entries.length + 1)

/-- When an event can happen, if the retry policy survives the failures and the reader
does not fall behind by more than the stream keeps. -/
def Allowed (config : StreamConfig Value) (state : StreamState Value) :
    StreamEvent Value → Prop
  | .publish _ => state.call.isNone = true
  | .requestLost => state.Survives config
  | .replyLost _ trimmed => state.Survives config ∧ state.Fits trimmed
  | .answered _ trimmed => state.call.isSome = true ∧ state.Fits trimmed
  | .subscribe _ => True

instance (config : StreamConfig Value) (state : StreamState Value) :
    Decidable (state.Survives config) := inferInstanceAs (Decidable (_ = true))

instance (state : StreamState Value) (trimmed : Nat) : Decidable (state.Fits trimmed) :=
  inferInstanceAs (Decidable (_ ∧ _))

instance (config : StreamConfig Value) (state : StreamState Value) :
    (event : StreamEvent Value) → Decidable (state.Allowed config event)
  | .publish _ => inferInstanceAs (Decidable (_ = true))
  | .requestLost => inferInstanceAs (Decidable (state.Survives config))
  | .replyLost _ _ => inferInstanceAs (Decidable (_ ∧ _))
  | .answered _ _ => inferInstanceAs (Decidable (_ ∧ _))
  | .subscribe _ => inferInstanceAs (Decidable True)

end StreamState

def streamSystem {Value : Type u} (config : StreamConfig Value) :
    EventSystem (StreamState Value) (StreamEvent Value) where
  handle := StreamState.handle config
  Allowed := StreamState.Allowed config

instance {Value : Type u} (config : StreamConfig Value) (state : StreamState Value)
    (event : StreamEvent Value) : Decidable ((streamSystem config).Allowed state event) :=
  inferInstanceAs (Decidable (state.Allowed config event))

namespace StreamState

variable {Value : Type u}

/-- The reader has got published values, each once and in order, and all of them when
nothing is unread and no call is in progress. -/
structure ExactlyOnce (config : StreamConfig Value) (state : StreamState Value) : Prop where
  inOrder : state.returned <+: config.expected state.published
  complete : state.call = none → state.unread = [] →
    state.returned = config.expected state.published

/-- No reply is lost after its request has been applied, and a batch with an undecodable
rollout has no decodable one. -/
def DeliversOnce (config : StreamConfig Value) (state : StreamState Value) :
    StreamEvent Value → Prop
  | .replyLost _ _ => False
  | .subscribe _ => config.kind = .rollout →
      ∀ entry ∈ state.xread config, config.decodable entry.2 = false →
        ∀ other ∈ state.xread config, config.decodable other.2 = false
  | _ => True

instance (config : StreamConfig Value) (state : StreamState Value) :
    (event : StreamEvent Value) → Decidable (state.DeliversOnce config event)
  | .replyLost _ _ => inferInstanceAs (Decidable False)
  | .subscribe _ => inferInstanceAs (Decidable (_ → ∀ _ ∈ _, _))
  | .publish _ | .requestLost | .answered _ _ => inferInstanceAs (Decidable True)

end StreamState

section Delivery

variable {Value : Type u} {config : StreamConfig Value} {state : StreamState Value}
  {taken : List Value}

theorem StreamConfig.expected_append (config : StreamConfig Value) (front back : List Value) :
    config.expected (front ++ back) = config.expected front ++ config.expected back := by
  unfold StreamConfig.expected
  split
  · rfl
  · exact filter_append front back

theorem StreamConfig.deliver_eq {batch : List Value}
    (alike : config.kind = .rollout → ∀ value ∈ batch, config.decodable value = false →
      ∀ other ∈ batch, config.decodable other = false) :
    config.deliver batch = config.expected batch := by
  unfold StreamConfig.deliver StreamConfig.expected
  cases kind : config.kind with
  | command => rfl
  | rollout =>
    dsimp only
    split
    · rename_i all
      exact (filter_eq_self.mpr (all_eq_true.mp all)).symm
    · rename_i some
      obtain ⟨value, member, undecodable⟩ : ∃ value ∈ batch, config.decodable value = false := by
        simpa using some
      apply Eq.symm
      apply filter_eq_nil_iff.mpr
      intro other otherMember
      simp [alike kind value member undecodable other otherMember]

structure InTransit (config : StreamConfig Value) (state : StreamState Value)
    (taken : List Value) : Prop where
  returned : state.returned = config.expected taken
  published : taken ++ (state.unread.map Prod.snd ++ (state.call.map Prod.fst).toList) =
    state.published
  past : state.latestId ≤ state.stream.lastId

theorem inTransit_initial : InTransit config .initial [] := by
  refine ⟨?_, rfl, Nat.le_refl 0⟩
  unfold StreamConfig.expected
  split <;> rfl

theorem InTransit.exactlyOnce (inTransit : InTransit config state taken) :
    state.ExactlyOnce config := by
  refine ⟨?_, ?_⟩
  · rw [← inTransit.published, StreamConfig.expected_append, inTransit.returned]
    exact prefix_append _ _
  · intro idle allRead
    rw [← inTransit.published, idle, allRead, inTransit.returned]
    exact congrArg config.expected (append_nil taken).symm

theorem StreamState.unread_xadd {gap trimmed : Nat} (past : state.latestId ≤ state.stream.lastId)
    (fits : state.Fits trimmed) (value : Value) :
    (state.xadd gap trimmed value).unread =
      state.unread ++ [(state.stream.lastId + gap + 1, value)] := by
  have added := state.stream.after_add past gap value
  unfold StreamState.unread StreamState.xadd
  dsimp only
  rw [NumberedLog.after_trim, added]
  rw [added, length_append, length_singleton]
  have length : (state.stream.add gap value).entries.length = state.stream.entries.length + 1 := by
    simp [NumberedLog.add]
  rw [length]
  obtain ⟨room, few | many⟩ := fits
  · have part := length_filter_le
      (fun entry : Nat × Value => decide (state.latestId < entry.1)) state.stream.entries
    rw [NumberedLog.after]
    omega
  · rw [StreamState.unread] at room
    omega

/-- One step keeps the values in transit. -/
theorem InTransit.handle (inTransit : InTransit config state taken)
    {event : StreamEvent Value} (allowed : state.Allowed config event)
    (once : state.DeliversOnce config event) :
    ∃ taken, InTransit config (state.handle config event) taken := by
  cases event with
  | publish value =>
    have idle : state.call = none := Option.isNone_iff_eq_none.mp allowed
    refine ⟨taken, inTransit.returned, ?_, inTransit.past⟩
    have before := inTransit.published
    rw [idle, Option.map_none, Option.toList_none, append_nil] at before
    rw [StreamState.handle]
    dsimp only
    rw [← before, append_assoc]
    rfl
  | requestLost =>
    refine ⟨taken, inTransit.returned, ?_, inTransit.past⟩
    have before := inTransit.published
    rw [StreamState.handle, StreamState.attemptFailed]
    dsimp only
    rw [Option.map_map]
    exact before
  | replyLost gap trimmed => exact False.elim once
  | answered gap trimmed =>
    obtain ⟨inProgress, fits⟩ := allowed
    obtain ⟨call, isCall⟩ := Option.isSome_iff_exists.mp inProgress
    have before := inTransit.published
    have unread : (state.xadd gap trimmed call.1).unread =
        state.unread ++ [(state.stream.lastId + gap + 1, call.1)] :=
      StreamState.unread_xadd inTransit.past fits call.1
    have result : state.handle config (.answered gap trimmed) =
        { state.xadd gap trimmed call.1 with call := none } := by
      rw [StreamState.handle, StreamState.applied, isCall]
    rw [result]
    refine ⟨taken, inTransit.returned, ?_, ?_⟩
    · rw [isCall] at before
      rw [StreamState.unread] at unread ⊢
      dsimp only
      rw [unread, map_append]
      simpa [StreamState.xadd] using before
    · have past := inTransit.past
      simp only [StreamState.xadd, NumberedLog.trim, NumberedLog.add]
      omega
  | subscribe failures =>
    rw [StreamState.handle, StreamState.subscribe]
    split
    · refine ⟨taken ++ (state.xread config).map Prod.snd, ?_, ?_, ?_⟩
      · dsimp only
        rw [StreamConfig.expected_append, inTransit.returned, StreamConfig.deliver_eq]
        intro kind value member undecodable other otherMember
        obtain ⟨entry, read, isValue⟩ := mem_map.mp member
        obtain ⟨otherEntry, otherRead, isOther⟩ := mem_map.mp otherMember
        rw [← isValue] at undecodable
        rw [← isOther]
        exact once kind entry read undecodable otherEntry otherRead
      · rw [StreamState.unread]
        dsimp only
        rw [StreamState.xread, StreamState.unread, NumberedLog.after_lastRead, ← append_assoc,
          append_assoc taken, ← map_append, take_append_drop, append_assoc]
        exact inTransit.published
      · exact state.stream.lastRead_le inTransit.past config.kind.fetchSize
    · exact ⟨taken, inTransit⟩

/-- Without lost replies and with undecodable rollouts among themselves, every published
value is returned once and in order. -/
theorem exactlyOnce_run {events : List (StreamEvent Value)}
    (run : (streamSystem config).IsRun .initial events)
    (once : (streamSystem config).StepsMeet (StreamState.DeliversOnce config) .initial events) :
    (streamSystem config).Throughout (StreamState.ExactlyOnce config) .initial events := by
  have throughout : (streamSystem config).Throughout
      (fun state => ∃ taken, InTransit config state taken) .initial events :=
    EventSystem.throughout_of_stepsMeet
      (fun state event inTransit allowed once => inTransit.elim fun _ here =>
        here.handle allowed once)
      ⟨[], inTransit_initial⟩ run once
  exact throughout.mono fun state inTransit => inTransit.elim fun _ here => here.exactlyOnce

def oddRollouts : StreamConfig Nat where
  kind := .rollout
  clients := 2
  decodable := fun value => decide (value % 2 = 1)

theorem exactlyOnce_oddRollouts :
    (streamSystem oddRollouts).Throughout (StreamState.ExactlyOnce oddRollouts) .initial
      [.publish 1, .requestLost, .answered 4 0, .publish 3, .subscribe 1, .answered 0 0,
        .subscribe 0, .publish 2, .answered 0 0, .subscribe 0] :=
  exactlyOnce_run (by decide) (by decide)

def plainCommands : StreamConfig Nat where
  kind := .command
  clients := 2
  decodable := fun _ => true

/-- The first attempt has added the command, and so does the second one. -/
theorem not_exactlyOnce_replyLost :
    ¬ ∀ (config : StreamConfig Nat) (events : List (StreamEvent Nat)),
      (streamSystem config).IsRun .initial events →
        (streamSystem config).Throughout (StreamState.ExactlyOnce config) .initial events := by
  intro always
  have once := (always plainCommands [.publish 7, .replyLost 0 0, .answered 0 0, .subscribe 0]
    (by decide)).finish.complete (by decide) (by decide)
  exact absurd once (by decide)

/-- An undecodable rollout takes the other ones of its batch with it. -/
example : ((streamSystem oddRollouts).after .initial
    [.publish 1, .answered 0 0, .publish 2, .answered 0 0, .publish 3, .answered 0 0,
      .subscribe 0]).returned = [] := by decide

end Delivery

end CosmosRl.Utils
