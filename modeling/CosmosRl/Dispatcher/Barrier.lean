import CosmosRl.Dispatcher.World

/-!
The step barrier.

A step is complete when every replica that was sent it, and is still there, has
acknowledged it.  The controller reads this off the statuses, which carry no
step number.  The invariant that makes this sound is that a replica owing the
oldest outstanding step is never `REDUCED`; it is lost when a replica leaves
owing a step, or when the last ack of a step meets a status that is not
`REDUCED`.
-/

namespace CosmosRl.Dispatcher

open CosmosRl.Foundation List

variable (config : Config)

def World.Awaited (world : World) (step : Nat) : Prop :=
  ∃ fetch ∈ world.outstanding, fetch.globalStep = step

/-- The completion branch has been executed exactly once for every issued step
that is no longer awaited, and not at all for a step that is. -/
def StepBarrier (world : World) : Prop :=
  ∀ fetch ∈ world.controller.sentFetches,
    (world.Awaited fetch.globalStep → world.completed.count fetch.globalStep = 0) ∧
      (¬ world.Awaited fetch.globalStep → world.completed.count fetch.globalStep = 1)

def barrierSystem : EventSystem World Event where
  handle := World.handle config
  Allowed := AckInOrder

def World.OwedByOther (world : World) (name : ReplicaName) (step : Nat) : Prop :=
  ∃ fetch ∈ world.outstanding, fetch.replicaName ≠ name ∧ fetch.globalStep = step

/-- A replica acknowledges a step while others owe it too, or it is the last one
and the completion branch runs through; a replica leaves only owing what others
owe too. -/
def BarrierKept (world : World) : Event → Prop
  | .trainAck name step _ _ =>
    name ∉ world.controller.policy.policyReplicas.keys ∨ world.OwedByOther name step ∨
      (entersCompletion name world.controller = true ∧
        (world.controller.rolloutsPerStep config : Int) ≤
          world.controller.policy.samplesOnTheFly)
  | .unregister name =>
    ∀ fetch ∈ world.outstanding, fetch.replicaName = name →
      world.OwedByOther name fetch.globalStep
  | _ => True

variable {config}

def outstandingOf (settled : List SentFetch) (controller : Controller) : List SentFetch :=
  controller.sentFetches.filter fun fetch => decide (fetch ∉ settled)

variable {settled removed : List SentFetch} {controller : Controller} {fetch : SentFetch}
  {world : World} {name : ReplicaName} {event : Event} {totalSteps : Int} {reportData : ReportData}

theorem mem_outstandingOf :
    fetch ∈ outstandingOf settled controller ↔
      fetch ∈ controller.sentFetches ∧ fetch ∉ settled := by
  simp [outstandingOf]

structure BarrierInvariant (settled : List SentFetch) (completed : List Nat)
    (controller : Controller) : Prop where
  wellFormed : WellFormed controller
  fetchesIssued : FetchesIssued controller
  /-- Commands are sent in the order of their steps, once to each replica. -/
  fetchesOrdered : controller.sentFetches.Pairwise fun first second =>
    first.globalStep ≤ second.globalStep ∧
      (first.replicaName = second.replicaName → first.globalStep < second.globalStep)
  settledSent : ∀ fetch ∈ settled, fetch ∈ controller.sentFetches
  owersKnown : ∀ fetch ∈ outstandingOf settled controller,
    fetch.replicaName ∈ controller.policy.status.keys
  completedSent : ∀ step ∈ completed, ∃ fetch ∈ controller.sentFetches,
    fetch.globalStep = step
  barrier : ∀ fetch ∈ controller.sentFetches,
    ((∃ other ∈ outstandingOf settled controller,
        other.globalStep = fetch.globalStep) → completed.count fetch.globalStep = 0) ∧
      ((¬ ∃ other ∈ outstandingOf settled controller,
        other.globalStep = fetch.globalStep) → completed.count fetch.globalStep = 1)
  /-- A replica owing the oldest outstanding step is not `REDUCED`. -/
  oldestNotReduced : ∀ fetch ∈ outstandingOf settled controller,
    (∀ other ∈ outstandingOf settled controller, fetch.globalStep ≤ other.globalStep) →
    controller.policy.status.get? fetch.replicaName ≠ some .reduced

namespace BarrierInvariant

variable {settled : List SentFetch} {completed : List Nat} {before after : Controller}

section

variable (invariant : BarrierInvariant settled completed before)

include invariant

/-- A change that keeps the commands, the counter and the statuses that matter. -/
theorem transfer (wellFormed : WellFormed after) (fetches : after.sentFetches = before.sentFetches)
    (step : before.policy.currentStep ≤ after.policy.currentStep)
    (known : ∀ name ∈ before.policy.status.keys,
      (∃ fetch ∈ outstandingOf settled before, fetch.replicaName = name) →
      name ∈ after.policy.status.keys ∧
        (after.policy.status.get? name = some .reduced →
          before.policy.status.get? name = some .reduced)) :
    BarrierInvariant settled completed after := by
  have outstanding : outstandingOf settled after = outstandingOf settled before := by
    unfold outstandingOf
    rw [fetches]
  refine ⟨wellFormed, ?_, ?_, ?_, ?_, ?_, ?_, ?_⟩
  · intro fetch membership
    rw [fetches] at membership
    exact le_trans (invariant.fetchesIssued fetch membership) step
  · rw [fetches]
    exact invariant.fetchesOrdered
  · rw [fetches]
    exact invariant.settledSent
  · intro fetch membership
    rw [outstanding] at membership
    exact (known _ (invariant.owersKnown fetch membership) ⟨fetch, membership, rfl⟩).1
  · rw [fetches]
    exact invariant.completedSent
  · rw [fetches, outstanding]
    exact invariant.barrier
  · intro fetch membership oldest reduced
    rw [outstanding] at membership oldest
    have same := known _ (invariant.owersKnown fetch membership) ⟨fetch, membership, rfl⟩
    exact invariant.oldestNotReduced fetch membership oldest (same.2 reduced)

theorem of_quiet (quiet : Quiet before after) : BarrierInvariant settled completed after := by
  apply invariant.transfer (quiet.wellFormed invariant.wellFormed) quiet.sentFetches_eq
  · exact quiet.currentStep_eq.ge
  · intro name known _
    rw [quiet.status_eq]
    exact ⟨known, id⟩

/-- Issuing a step: its commands are new, everybody owes it, nobody is `REDUCED`. -/
theorem of_issued (arrived : before.anyArrived) (issued : Issued before after) :
    BarrierInvariant settled completed after := by
  obtain ⟨itemsCount, totalSteps, fetches⟩ := issued.sentFetches_eq
  let sent : List SentFetch := before.arrivedPolicyNames.map fun name =>
    ⟨name, itemsCount, before.policy.currentStep + 1, totalSteps⟩
  have sentStep : ∀ fetch ∈ sent, fetch.globalStep = before.policy.currentStep + 1 := by
    intro fetch membership
    obtain ⟨name, _, rfl⟩ := mem_map.mp membership
    rfl
  have sentFresh : ∀ fetch ∈ sent, fetch ∉ settled := by
    intro fetch membership already
    have old := invariant.fetchesIssued fetch (invariant.settledSent fetch already)
    have new := sentStep fetch membership
    omega
  have outstanding : outstandingOf settled after = outstandingOf settled before ++ sent := by
    unfold outstandingOf
    rw [fetches, filter_append]
    congr 1
    rw [filter_eq_self]
    intro fetch membership
    simpa using sentFresh fetch membership
  have arrivedNodup : before.arrivedPolicyNames.Nodup :=
    before.policy.policyReplicas.nodup_keys.sublist (List.Sublist.map Prod.fst filter_sublist)
  refine ⟨(Advance.issued arrived issued).wellFormed invariant.wellFormed,
    (Advance.issued arrived issued).fetchesIssued invariant.fetchesIssued,
    ?_, ?_, ?_, ?_, ?_, ?_⟩
  · rw [fetches, pairwise_append]
    refine ⟨invariant.fetchesOrdered, ?_, ?_⟩
    · rw [pairwise_map]
      refine arrivedNodup.imp ?_
      intro first second different
      exact ⟨Nat.le_refl _, fun same => absurd same different⟩
    · intro first earlier second new
      have old := invariant.fetchesIssued first earlier
      have newStep := sentStep second new
      exact ⟨by omega, fun _ => by omega⟩
  · intro fetch membership
    rw [fetches]
    exact mem_append_left _ (invariant.settledSent fetch membership)
  · intro fetch membership
    rw [issued.statusKeys_eq]
    rw [outstanding, mem_append] at membership
    rcases membership with earlier | new
    · exact invariant.owersKnown fetch earlier
    · obtain ⟨name, present, rfl⟩ := mem_map.mp new
      exact (invariant.wellFormed.statusKeys name).mpr present
  · intro step membership
    obtain ⟨fetch, earlier, same⟩ := invariant.completedSent step membership
    rw [fetches]
    exact ⟨fetch, mem_append_left _ earlier, same⟩
  · intro fetch membership
    rw [fetches, mem_append] at membership
    rw [outstanding]
    rcases membership with earlier | new
    · -- an earlier step: the new commands are of a later one
      have old := invariant.fetchesIssued fetch earlier
      have same : (∃ other ∈ outstandingOf settled before ++ sent,
          other.globalStep = fetch.globalStep) ↔
          ∃ other ∈ outstandingOf settled before,
            other.globalStep = fetch.globalStep := by
        constructor
        · rintro ⟨other, otherMembership, equality⟩
          rcases mem_append.mp otherMembership with inside | outside
          · exact ⟨other, inside, equality⟩
          · have newStep := sentStep other outside
            omega
        · rintro ⟨other, inside, equality⟩
          exact ⟨other, mem_append_left _ inside, equality⟩
      rw [same]
      exact invariant.barrier fetch earlier
    · -- the new step: it is owed and has not been completed
      refine ⟨fun _ => ?_, fun unowed => ?_⟩
      · rw [count_eq_zero]
        intro completedBefore
        obtain ⟨older, earlier, same⟩ := invariant.completedSent _ completedBefore
        have old := invariant.fetchesIssued older earlier
        have newStep := sentStep fetch new
        omega
      · exact absurd ⟨fetch, mem_append_right _ new, rfl⟩ unowed
  · intro fetch membership _ reduced
    cases issued.allRunning _ _ reduced

theorem of_advance (advance : Advance before after) : BarrierInvariant settled completed after := by
  cases advance with
  | quiet quiet => exact invariant.of_quiet quiet
  | stalled quiet =>
    have advanced : BarrierInvariant settled completed before.advanceStep :=
      invariant.transfer
        ⟨invariant.wellFormed.shapesValid, invariant.wellFormed.statusKeys⟩ rfl
        (Nat.le_succ _) fun name known _ => ⟨known, id⟩
    exact advanced.of_quiet quiet
  | issued arrived issued => exact invariant.of_issued arrived issued
  | readied names present =>
    refine invariant.transfer
      ((Advance.readied names present).wellFormed invariant.wellFormed) rfl
      (Nat.le_refl _) ?_
    intro name known _
    refine ⟨?_, ?_⟩
    · show name ∈ (setAllStatus names .ready before.policy.status).keys
      rw [keys_setAllStatus _ present]
      exact known
    · intro reduced
      change (setAllStatus names .ready before.policy.status).get? name = _ at reduced
      rw [get?_setAllStatus] at reduced
      split at reduced
      · cases reduced
      · exact reduced

theorem of_progress (progress : Progress before after) : BarrierInvariant settled completed after :=
  progress.preserves (fun _ _ holds advance => holds.of_advance advance) invariant

end

end BarrierInvariant

theorem mem_outstandingOf_append :
    fetch ∈ outstandingOf (settled ++ removed) controller ↔
      fetch ∈ outstandingOf settled controller ∧ fetch ∉ removed := by
  simp only [mem_outstandingOf, mem_append, not_or, and_assoc]

theorem allReduced_iff :
    controller.allReduced = true ↔
      ∀ name status, controller.policy.status.get? name = some status →
        status = .reduced := by
  simp only [Controller.allReduced, Controller.allWithStatus, all_eq_true,
    mem_singleton, decide_eq_true_eq, Dict.values, mem_map]
  constructor
  · intro all name status found
    exact all status ⟨(name, status), Dict.get?_eq_some_iff.mp found, rfl⟩
  · rintro all _ ⟨⟨name, status⟩, stored, rfl⟩
    exact all name status (Dict.get?_eq_some_iff.mpr stored)

namespace BarrierInvariant

variable {world : World}

theorem outstandingOrdered {completed : List Nat}
    (invariant : BarrierInvariant settled completed controller) :
    (outstandingOf settled controller).Pairwise fun first second =>
      first.globalStep ≤ second.globalStep ∧
        (first.replicaName = second.replicaName →
          first.globalStep < second.globalStep) :=
  invariant.fetchesOrdered.sublist filter_sublist

variable {name : ReplicaName} {next : SentFetch}

section

variable (invariant : BarrierInvariant world.settled world.completed world.controller)

include invariant

theorem nextFetch_oldest
    (found : world.nextFetch name = some next) (outstanding : fetch ∈ world.outstanding)
    (same : fetch.replicaName = name) :
    fetch = next ∨ next.globalStep < fetch.globalStep := by
  have ordered := invariant.outstandingOrdered
  obtain ⟨nextName, earlier, later, split, skipped⟩ := find?_eq_some_iff_append.mp found
  change outstandingOf world.settled world.controller = _ at split
  change fetch ∈ outstandingOf world.settled world.controller at outstanding
  rw [split] at ordered outstanding
  rcases mem_append.mp outstanding with inside | outside
  · have excluded := skipped fetch inside
    simp [same] at excluded
  · rcases mem_cons.mp outside with here | after
    · exact .inl here
    · right
      have pair := (pairwise_cons.mp (pairwise_append.mp ordered).2.1).1 fetch after
      apply pair.2
      rw [same]
      simpa using nextName

/-- While another replica owes the step too, its last ack is still to come. -/
theorem not_allReduced (found : world.nextFetch name = some next)
    (others : world.OwedByOther name next.globalStep) :
    (world.controller.withReduced name).allReduced = false := by
  -- a replica other than the acknowledging one that owes the oldest step
  have waiting : ∃ fetch ∈ world.outstanding, fetch.replicaName ≠ name ∧
      ∀ other ∈ world.outstanding, fetch.globalStep ≤ other.globalStep := by
    obtain ⟨owed, owedOutstanding, owedOther, owedStep⟩ := others
    have ordered := invariant.outstandingOrdered
    change world.outstanding.Pairwise _ at ordered
    cases list : world.outstanding with
    | nil =>
      rw [list] at owedOutstanding
      cases owedOutstanding
    | cons oldest rest =>
      rw [list] at ordered
      have least : ∀ other ∈ oldest :: rest, oldest.globalStep ≤ other.globalStep := by
        intro other membership
        rcases mem_cons.mp membership with here | later
        · rw [here]
        · exact ((pairwise_cons.mp ordered).1 other later).1
      rw [list] at owedOutstanding
      by_cases same : oldest.replicaName = name
      · refine ⟨owed, owedOutstanding, owedOther, ?_⟩
        intro other membership
        refine le_trans ?_ (least other membership)
        rw [owedStep]
        rcases invariant.nextFetch_oldest found (list ▸ mem_cons_self) same with
          here | later
        · rw [here]
        · exact later.le
      · exact ⟨oldest, mem_cons_self, same, least⟩
  obtain ⟨fetch, outstanding, other, oldest⟩ := waiting
  obtain ⟨status, known⟩ := Dict.mem_keys_iff_get?.mp (invariant.owersKnown fetch outstanding)
  rw [Bool.eq_false_iff]
  intro reduced
  have sameStatus : status = .reduced := by
    apply allReduced_iff.mp reduced fetch.replicaName
    show (world.controller.policy.status.set name .reduced).get? _ = _
    rw [Dict.get?_set, if_neg other]
    exact known
  exact invariant.oldestNotReduced fetch outstanding oldest (sameStatus ▸ known)

theorem next_known (found : world.nextFetch name = some next) :
    name ∈ world.controller.policy.status.keys := by
  have outstanding := mem_of_find?_eq_some found
  have same : next.replicaName = name := by simpa using find?_some found
  exact same ▸ invariant.owersKnown next outstanding

end

/-- Steps that stay awaited when commands are settled keep the barrier. -/
theorem settle {completed completed' : List Nat}
    {before after : Controller} (invariant : BarrierInvariant settled completed before)
    (wellFormed : WellFormed after) (fetches : after.sentFetches = before.sentFetches)
    (step : after.policy.currentStep = before.policy.currentStep)
    (removedOutstanding : ∀ fetch ∈ removed, fetch ∈ outstandingOf settled before)
    (known : ∀ fetch ∈ outstandingOf settled before, fetch ∉ removed →
      fetch.replicaName ∈ after.policy.status.keys)
    (completedSent : ∀ completedStep ∈ completed', ∃ fetch ∈ before.sentFetches,
      fetch.globalStep = completedStep) (barrier : ∀ fetch ∈ before.sentFetches,
      ((∃ other ∈ outstandingOf settled before, other ∉ removed ∧
          other.globalStep = fetch.globalStep) →
        completed'.count fetch.globalStep = 0) ∧
      ((¬ ∃ other ∈ outstandingOf settled before, other ∉ removed ∧
          other.globalStep = fetch.globalStep) →
        completed'.count fetch.globalStep = 1))
    (oldest : ∀ fetch ∈ outstandingOf settled before, fetch ∉ removed →
      (∀ other ∈ outstandingOf settled before, other ∉ removed →
        fetch.globalStep ≤ other.globalStep) →
      after.policy.status.get? fetch.replicaName ≠ some .reduced) :
    BarrierInvariant (settled ++ removed) completed' after := by
  have outstanding : ∀ fetch, fetch ∈ outstandingOf (settled ++ removed) after ↔
      fetch ∈ outstandingOf settled before ∧ fetch ∉ removed := by
    intro fetch
    rw [mem_outstandingOf_append, mem_outstandingOf, mem_outstandingOf, fetches]
  refine ⟨wellFormed, ?_, ?_, ?_, ?_, ?_, ?_, ?_⟩
  · intro fetch membership
    rw [fetches] at membership
    rw [step]
    exact invariant.fetchesIssued fetch membership
  · rw [fetches]
    exact invariant.fetchesOrdered
  · intro fetch membership
    rw [fetches]
    rcases mem_append.mp membership with earlier | new
    · exact invariant.settledSent fetch earlier
    · exact (mem_outstandingOf.mp (removedOutstanding fetch new)).1
  · intro fetch membership
    obtain ⟨inside, kept⟩ := (outstanding fetch).mp membership
    exact known fetch inside kept
  · rw [fetches]
    exact completedSent
  · intro fetch membership
    rw [fetches] at membership
    simp only [outstanding, and_assoc]
    exact barrier fetch membership
  · intro fetch membership least
    obtain ⟨inside, kept⟩ := (outstanding fetch).mp membership
    exact oldest fetch inside kept fun other otherInside otherKept =>
      least other ((outstanding other).mpr ⟨otherInside, otherKept⟩)

end BarrierInvariant

def World.BarrierSound (world : World) : Prop :=
  BarrierInvariant world.settled world.completed world.controller

section

variable (invariant : world.BarrierSound)

include invariant

theorem World.BarrierSound.stepBarrier : StepBarrier world := by
  exact invariant.barrier

theorem none_outstanding (unknown : name ∉ world.controller.policy.status.keys) :
    ∀ fetch ∈ world.outstanding, fetch.replicaName ≠ name := by
  rintro fetch outstanding rfl
  exact unknown (invariant.owersKnown fetch outstanding)

theorem barrier_keepsReplicas (keeps : event.keepsReplicas = true) :
    (world.handle config event).BarrierSound := by
  have handed : BarrierInvariant world.settled world.completed
      (world.controller.withHandedOut config (eventHandedOut config world.controller event)) :=
    invariant.transfer ⟨invariant.wellFormed.shapesValid, invariant.wellFormed.statusKeys⟩
      rfl (Nat.le_refl _) fun name known _ => ⟨known, id⟩
  unfold World.BarrierSound World.handle
  rw [settledFetches_keepsReplicas world keeps, append_nil,
    completedStep_keepsReplicas world.controller keeps, append_nil]
  exact handed.of_progress (handleEvent_progress invariant.wellFormed keeps)

theorem barrier_registerPolicy (atom : Atom) (now : Nat) :
    (world.handle config (.registerPolicy atom now)).BarrierSound := by
  obtain ⟨joined, extended, progress⟩ :=
    @registerPolicy_joined config world.controller invariant.wellFormed atom now
  have middle : BarrierInvariant world.settled world.completed
      joined := by
    apply invariant.transfer extended.wellFormed extended.sentFetches_eq
    · exact extended.currentStep_eq.ge
    · intro name known _
      rw [extended.status_kept name known]
      refine ⟨?_, id⟩
      obtain ⟨status, found⟩ := Dict.mem_keys_iff_get?.mp known
      exact Dict.mem_keys_iff_get?.mpr ⟨status, (extended.status_kept name known).trans found⟩
  unfold World.BarrierSound World.handle settledFetches completedStep
  rw [append_nil, append_nil]
  exact middle.of_progress progress

end

theorem mem_settled_unregister :
    fetch ∈ settledFetches world (.unregister name) ↔
      fetch ∈ world.outstanding ∧ fetch.replicaName = name := by
  simp [settledFetches]

theorem mem_settled_trainAck {step : Nat} :
    fetch ∈ settledFetches world (.trainAck name step totalSteps reportData) ↔
      fetch ∈ world.outstanding ∧ fetch.replicaName = name ∧ fetch.globalStep = step := by
  simp [settledFetches]

theorem awaited_of_twins
    (twins : ∀ fetch ∈ removed, ∃ other ∈ outstandingOf settled controller,
      other ∉ removed ∧ other.globalStep = fetch.globalStep) (step : Nat) :
    (∃ other ∈ outstandingOf settled controller, other ∉ removed ∧
        other.globalStep = step) ↔
      ∃ other ∈ outstandingOf settled controller, other.globalStep = step := by
  constructor
  · rintro ⟨other, outstanding, _, same⟩
    exact ⟨other, outstanding, same⟩
  · rintro ⟨other, outstanding, same⟩
    by_cases gone : other ∈ removed
    · obtain ⟨twin, twinOutstanding, kept, twinStep⟩ := twins other gone
      exact ⟨twin, twinOutstanding, kept, twinStep.trans same⟩
    · exact ⟨other, outstanding, gone, same⟩

/-- Settling commands that have twins: the controller may change the statuses of
the settled replicas only. -/
theorem BarrierInvariant.settle_twins {completed : List Nat} {before after : Controller}
    (invariant : BarrierInvariant settled completed before) (wellFormed : WellFormed after)
    (fetches : after.sentFetches = before.sentFetches)
    (step : after.policy.currentStep = before.policy.currentStep)
    (removedOutstanding : ∀ fetch ∈ removed, fetch ∈ outstandingOf settled before)
    (twins : ∀ fetch ∈ removed, ∃ other ∈ outstandingOf settled before,
      other ∉ removed ∧ other.globalStep = fetch.globalStep)
    (known : ∀ fetch ∈ outstandingOf settled before, fetch ∉ removed →
      fetch.replicaName ∈ after.policy.status.keys)
    (oldest : ∀ fetch ∈ outstandingOf settled before, fetch ∉ removed →
      (∀ other ∈ outstandingOf settled before,
        fetch.globalStep ≤ other.globalStep) →
      after.policy.status.get? fetch.replicaName ≠ some .reduced) :
    BarrierInvariant (settled ++ removed) completed after := by
  apply invariant.settle wellFormed fetches step removedOutstanding known invariant.completedSent
  · intro fetch membership
    rw [awaited_of_twins twins]
    exact invariant.barrier fetch membership
  · intro fetch outstanding kept least
    apply oldest fetch outstanding kept
    intro other otherOutstanding
    by_cases gone : other ∈ removed
    · obtain ⟨twin, twinOutstanding, twinKept, twinStep⟩ := twins other gone
      rw [← twinStep]
      exact least twin twinOutstanding twinKept
    · exact least other otherOutstanding gone

section

variable (invariant : world.BarrierSound) {next : SentFetch}

include invariant

theorem barrier_unregister (kept : BarrierKept config world (.unregister name)) :
    (world.handle config (.unregister name)).BarrierSound := by
  have settledOutstanding : ∀ fetch ∈ settledFetches world (.unregister name),
      fetch ∈ outstandingOf world.settled world.controller :=
    fun fetch membership => (mem_settled_unregister.mp membership).1
  have twins : ∀ fetch ∈ settledFetches world (.unregister name),
      ∃ other ∈ outstandingOf world.settled world.controller,
        other ∉ settledFetches world (.unregister name) ∧
          other.globalStep = fetch.globalStep := by
    intro fetch membership
    obtain ⟨outstanding, same⟩ := mem_settled_unregister.mp membership
    obtain ⟨other, otherOutstanding, different, step⟩ := kept fetch outstanding same
    refine ⟨other, otherOutstanding, ?_, step⟩
    rw [mem_settled_unregister]
    exact fun contrary => different contrary.2
  unfold World.BarrierSound World.handle completedStep
  rw [append_nil]
  rcases @unregister_spec config world.controller name with
    ⟨_, quiet⟩ | ⟨unregistered, quiet⟩
  · have middle : BarrierInvariant
        (world.settled ++ settledFetches world (.unregister name)) world.completed
        (world.controller.withoutReplica name) := by
      apply invariant.settle_twins (invariant.wellFormed.withoutReplica name) rfl rfl
        settledOutstanding twins
      · intro fetch outstanding notSettled
        show fetch.replicaName ∈ (world.controller.policy.status.erase name).keys
        rw [Dict.mem_keys_erase]
        refine ⟨invariant.owersKnown fetch outstanding, fun same => ?_⟩
        exact notSettled (mem_settled_unregister.mpr ⟨outstanding, same⟩)
      · intro fetch outstanding notSettled oldest
        show (world.controller.policy.status.erase name).get? fetch.replicaName ≠ _
        rw [Dict.get?_erase, if_neg]
        · exact invariant.oldestNotReduced fetch outstanding oldest
        · intro same
          exact notSettled (mem_settled_unregister.mpr ⟨outstanding, same⟩)
    exact middle.of_quiet quiet
  · have middle : BarrierInvariant
        (world.settled ++ settledFetches world (.unregister name)) world.completed
        world.controller := by
      apply invariant.settle_twins invariant.wellFormed rfl rfl settledOutstanding twins
      · exact fun fetch outstanding _ => invariant.owersKnown fetch outstanding
      · exact fun fetch outstanding _ => invariant.oldestNotReduced fetch outstanding
    exact middle.of_quiet quiet

/-- An ack that is not the last one of its step. -/
theorem barrier_ack_waiting (found : world.nextFetch name = some next)
    (others : world.OwedByOther name next.globalStep) (totalSteps : Int) (reportData : ReportData) :
    (world.handle config
      (.trainAck name next.globalStep totalSteps reportData)).BarrierSound := by
  have known := BarrierInvariant.next_known invariant found
  have waiting := BarrierInvariant.not_allReduced invariant found others
  have none_completed : completedStep config world.controller
      (.trainAck name next.globalStep totalSteps reportData) = [] := by
    simp [completedStep, entersCompletion, waiting]
  have acked : BarrierInvariant
      (world.settled ++ settledFetches world
        (.trainAck name next.globalStep totalSteps reportData)) world.completed
      (world.controller.withReduced name) := by
    obtain ⟨owed, owedOutstanding, owedOther, owedStep⟩ := others
    apply invariant.settle_twins (invariant.wellFormed.withReduced known) rfl rfl
    · exact fun fetch membership => (mem_settled_trainAck.mp membership).1
    · intro fetch membership
      obtain ⟨_, _, step⟩ := mem_settled_trainAck.mp membership
      refine ⟨owed, owedOutstanding, ?_, owedStep.trans step.symm⟩
      rw [mem_settled_trainAck]
      exact fun contrary => owedOther contrary.2.1
    · intro fetch outstanding _
      show fetch.replicaName ∈ (world.controller.policy.status.set name .reduced).keys
      rw [Dict.mem_keys_set]
      exact .inr (invariant.owersKnown fetch outstanding)
    · intro fetch outstanding notSettled oldest
      show (world.controller.policy.status.set name .reduced).get? fetch.replicaName ≠ _
      by_cases same : fetch.replicaName = name
      · -- what the replica still owes is newer than what the other one owes
        exfalso
        rcases BarrierInvariant.nextFetch_oldest invariant found outstanding same with
          here | later
        · exact notSettled (mem_settled_trainAck.mpr ⟨outstanding, same, by rw [here]⟩)
        · have bound := oldest owed owedOutstanding
          omega
      · rw [Dict.get?_set, if_neg same]
        exact invariant.oldestNotReduced fetch outstanding oldest
  unfold World.BarrierSound World.handle
  rw [none_completed, append_nil]
  rcases @trainAck_spec config world.controller invariant.wellFormed name known
    next.globalStep totalSteps reportData with
    ⟨_, quiet⟩ | ⟨reduced, _, _⟩ | ⟨reduced, _, _⟩
  · exact acked.of_quiet quiet
  · rw [waiting] at reduced
    cases reduced
  · rw [waiting] at reduced
    cases reduced

/-- The last ack of a step, when it completes the step. -/
theorem barrier_ack_completing (found : world.nextFetch name = some next)
    (last : ¬ world.OwedByOther name next.globalStep)
    (enters : entersCompletion name world.controller = true)
    (enough : (world.controller.rolloutsPerStep config : Int) ≤
      world.controller.policy.samplesOnTheFly) (totalSteps : Int) (reportData : ReportData) :
    (world.handle config
      (.trainAck name next.globalStep totalSteps reportData)).BarrierSound := by
  have known := BarrierInvariant.next_known invariant found
  have nextOutstanding : next ∈ world.outstanding := mem_of_find?_eq_some found
  have reduced : (world.controller.withReduced name).allReduced = true := by
    simp only [entersCompletion, Bool.and_eq_true] at enters
    exact enters.2
  have completing : completedStep config world.controller
      (.trainAck name next.globalStep totalSteps reportData) = [next.globalStep] := by
    simp only [completedStep]
    rw [if_pos ⟨enters, enough⟩]
  -- the step is awaited by nobody else
  have lastOne : ∀ other ∈ outstandingOf world.settled world.controller,
      other.globalStep = next.globalStep →
      other ∈ settledFetches world
        (.trainAck name next.globalStep totalSteps reportData) := by
    intro other outstanding step
    rw [mem_settled_trainAck]
    refine ⟨outstanding, ?_, step⟩
    by_contra different
    exact last ⟨other, outstanding, different, step⟩
  have wellFormedAcked := invariant.wellFormed.withReduced known
  have wellFormedConsumed :
      WellFormed ((world.controller.withReduced name).consumed config) :=
    ⟨wellFormedAcked.shapesValid, wellFormedAcked.statusKeys⟩
  have readied : BarrierInvariant
      (world.settled ++ settledFetches world (.trainAck name next.globalStep totalSteps reportData))
      (world.completed ++ [next.globalStep])
      ((world.controller.withReduced name).consumed config).allReadied := by
    apply invariant.settle wellFormedConsumed.allReadied rfl rfl
    · exact fun fetch membership => (mem_settled_trainAck.mp membership).1
    · intro fetch outstanding _
      rw [wellFormedConsumed.allReadied.statusKeys]
      have arrived := (invariant.wellFormed.statusKeys _).mp
        (invariant.owersKnown fetch outstanding)
      exact arrived
    · intro step membership
      rcases mem_append.mp membership with earlier | new
      · exact invariant.completedSent step earlier
      · rw [mem_singleton] at new
        exact ⟨next, (mem_outstandingOf.mp nextOutstanding).1, new.symm⟩
    · intro fetch membership
      rw [count_append, count_singleton]
      by_cases step : fetch.globalStep = next.globalStep
      · have earlier := (invariant.barrier fetch membership).1 ⟨next, nextOutstanding, step.symm⟩
        refine ⟨?_, fun _ => ?_⟩
        · rintro ⟨other, outstanding, notSettled, same⟩
          exact absurd (lastOne other outstanding (same.trans step)) notSettled
        · rw [earlier, if_pos (by simp [step])]
      · rw [if_neg (by simpa using fun same => step same.symm), Nat.add_zero]
        have awaited : (∃ other ∈ outstandingOf world.settled world.controller,
            other ∉ settledFetches world
              (.trainAck name next.globalStep totalSteps reportData) ∧
              other.globalStep = fetch.globalStep) ↔
            ∃ other ∈ outstandingOf world.settled world.controller,
              other.globalStep = fetch.globalStep := by
          constructor
          · rintro ⟨other, outstanding, _, same⟩
            exact ⟨other, outstanding, same⟩
          · rintro ⟨other, outstanding, same⟩
            refine ⟨other, outstanding, ?_, same⟩
            rw [mem_settled_trainAck]
            exact fun contrary => step (same.symm.trans contrary.2.2)
        rw [awaited]
        exact invariant.barrier fetch membership
    · intro fetch outstanding _ _ isReduced
      have arrived : fetch.replicaName ∈
          ((world.controller.withReduced name).consumed config).arrivedPolicyNames :=
        (invariant.wellFormed.statusKeys _).mp (invariant.owersKnown fetch outstanding)
      change (setAllStatus _ .ready _).get? _ = _ at isReduced
      rw [get?_setAllStatus, if_pos (mem_sortedPolicyNames.mpr arrived)] at isReduced
      cases isReduced
  unfold World.BarrierSound World.handle
  rw [completing]
  rcases @trainAck_spec config world.controller invariant.wellFormed name known
    next.globalStep totalSteps reportData with
    ⟨waiting, _⟩ | ⟨_, short, _⟩ | ⟨_, _, progress⟩
  · rw [reduced] at waiting
    cases waiting
  · omega
  · exact readied.of_progress progress

theorem barrier_ack_unregistered
    (unregistered : name ∉ world.controller.policy.policyReplicas.keys) (step : Nat)
    (totalSteps : Int) (reportData : ReportData) :
    (world.handle config (.trainAck name step totalSteps reportData)).BarrierSound := by
  have unknown : name ∉ world.controller.policy.status.keys :=
    fun known => unregistered (registered_of_status invariant.wellFormed known)
  have none_settled : settledFetches world (.trainAck name step totalSteps reportData) = [] := by
    unfold settledFetches
    rw [filter_eq_nil_iff]
    intro fetch outstanding
    have other := none_outstanding invariant unknown fetch outstanding
    simp [other]
  have none_completed : completedStep config world.controller
      (.trainAck name step totalSteps reportData) = [] := by
    simp [completedStep, entersCompletion, unknown]
  unfold World.BarrierSound World.handle
  rw [none_settled, none_completed, append_nil, append_nil]
  exact invariant.of_quiet (quiet_trainAck_of_notMem unknown step totalSteps reportData)

theorem barrierSound_handle (inOrder : AckInOrder world event)
    (kept : BarrierKept config world event) :
    (world.handle config event).BarrierSound := by
  by_cases keeps : event.keepsReplicas = true
  · exact barrier_keepsReplicas invariant keeps
  · cases event with
    | registerRollout | putRolloutGroup | rolloutEndSignal | validationReport
    | tryTriggerDataFetchAndTraining | getBatchedPrompt => exact absurd rfl keeps
    | registerPolicy atom now => exact barrier_registerPolicy invariant atom now
    | unregister name => exact barrier_unregister invariant kept
    | trainAck name step totalSteps reportData =>
      by_cases registered : name ∈ world.controller.policy.policyReplicas.keys
      · obtain ⟨next, found, rfl⟩ := inOrder.fetch registered
        by_cases others : world.OwedByOther name next.globalStep
        · exact barrier_ack_waiting invariant found others totalSteps reportData
        · rcases kept with unregistered | owed | ⟨enters, enough⟩
          · exact absurd registered unregistered
          · exact absurd owed others
          · exact barrier_ack_completing invariant found others enters enough totalSteps reportData
      · exact barrier_ack_unregistered invariant registered step totalSteps reportData

end

theorem not_stepBarrier_of_abandoned {before after : World}
    (invariant : before.BarrierSound) (outstanding : fetch ∈ before.outstanding)
    (fetches : after.controller.sentFetches = before.controller.sentFetches)
    (completed : after.completed = before.completed)
    (abandoned : ¬ after.Awaited fetch.globalStep) : ¬ StepBarrier after := by
  intro barrier
  have sent := (mem_outstandingOf.mp outstanding).1
  have notYet := (invariant.barrier fetch sent).1 ⟨fetch, outstanding, rfl⟩
  have once := (barrier fetch (fetches ▸ sent)).2 abandoned
  rw [completed] at once
  omega

theorem outstanding_handle {after : Controller}
    (same : (handleEvent config world.controller event).state = after)
    (fetches : after.sentFetches = world.controller.sentFetches) (fetch : SentFetch) :
    fetch ∈ (world.handle config event).outstanding ↔
      fetch ∈ world.outstanding ∧ fetch ∉ settledFetches world event := by
  show fetch ∈ outstandingOf (world.settled ++ settledFetches world event)
    (handleEvent config world.controller event).state ↔ _
  rw [mem_outstandingOf_append, mem_outstandingOf, same, fetches]
  rw [show (fetch ∈ world.outstanding ↔ _) from mem_outstandingOf]

theorem breaks_unregister (invariant : world.BarrierSound)
    (broken : ¬ BarrierKept config world (.unregister name)) :
    ¬ StepBarrier (world.handle config (.unregister name)) := by
  simp only [BarrierKept, not_forall] at broken
  obtain ⟨fetch, outstanding, same, alone⟩ := broken
  have fetches : (handleEvent config world.controller (.unregister name)).state.sentFetches =
      world.controller.sentFetches := by
    rcases @unregister_spec config world.controller name with ⟨_, quiet⟩ | ⟨_, quiet⟩
    · exact quiet.sentFetches_eq
    · exact quiet.sentFetches_eq
  apply not_stepBarrier_of_abandoned invariant outstanding fetches
  · simp [World.handle, completedStep]
  · rintro ⟨otherFetch, otherOutstanding, step⟩
    rw [outstanding_handle rfl fetches, mem_settled_unregister] at otherOutstanding
    apply alone
    refine ⟨otherFetch, otherOutstanding.1, ?_, step⟩
    exact fun otherSame => otherOutstanding.2 ⟨otherOutstanding.1, otherSame⟩

theorem breaks_trainAck (invariant : world.BarrierSound) {step : Nat}
    (inOrder : AckInOrder world (.trainAck name step totalSteps reportData))
    (broken : ¬ BarrierKept config world (.trainAck name step totalSteps reportData)) :
    ¬ StepBarrier (world.handle config (.trainAck name step totalSteps reportData)) := by
  simp only [BarrierKept, not_or, not_not] at broken
  obtain ⟨registered, alone, incomplete⟩ := broken
  obtain ⟨next, found, rfl⟩ := inOrder.fetch registered
  have known := BarrierInvariant.next_known invariant found
  have nextName : next.replicaName = name := by simpa using find?_some found
  have outstanding : next ∈ world.outstanding := mem_of_find?_eq_some found
  have fetches : (handleEvent config world.controller (.trainAck name next.globalStep
      totalSteps reportData)).state.sentFetches = world.controller.sentFetches := by
    rcases @trainAck_spec config world.controller invariant.wellFormed name known
      next.globalStep totalSteps reportData with
      ⟨_, quiet⟩ | ⟨_, _, quiet⟩ | ⟨reduced, enough, _⟩
    · exact quiet.sentFetches_eq
    · exact quiet.sentFetches_eq
    · exfalso
      apply incomplete
      refine ⟨?_, enough⟩
      simp [entersCompletion, known, reduced]
  apply not_stepBarrier_of_abandoned invariant outstanding fetches
  · simp only [World.handle, completedStep]
    rw [if_neg incomplete, append_nil]
  · rintro ⟨otherFetch, otherOutstanding, same⟩
    rw [outstanding_handle rfl fetches, mem_settled_trainAck] at otherOutstanding
    apply alone
    refine ⟨otherFetch, otherOutstanding.1, ?_, same⟩
    exact fun otherName => otherOutstanding.2 ⟨otherOutstanding.1, otherName, same⟩

theorem SetUp.barrierSound {created started : Controller} (setUp : SetUp config created started) :
    ({ controller := started } : World).BarrierSound := by
  have fetches := setUp.sentFetches_eq
  have none_outstanding : outstandingOf [] started = [] := by
    rw [outstandingOf, fetches]
    rfl
  unfold World.BarrierSound
  refine ⟨setUp.wellFormed, ?_, ?_, ?_, ?_, ?_, ?_, ?_⟩
  · simp [FetchesIssued, fetches]
  · simp [fetches]
  · simp
  · simp [none_outstanding]
  · simp
  · simp [fetches]
  · simp [none_outstanding]

theorem not_stepBarrier_of_broken
    (invariant : world.BarrierSound) (inOrder : AckInOrder world event)
    (broken : ¬ BarrierKept config world event) :
    ¬ StepBarrier (world.handle config event) := by
  cases event with
  | unregister name => exact breaks_unregister invariant broken
  | trainAck name step totalSteps reportData =>
    exact breaks_trainAck invariant inOrder broken
  | registerPolicy | registerRollout | putRolloutGroup | rolloutEndSignal
  | validationReport | tryTriggerDataFetchAndTraining | getBatchedPrompt =>
    exact absurd trivial broken

/-- The barrier holds throughout a run precisely when no replica leaves as the
only one that owes a step, and the last ack of every step meets nothing but
`REDUCED` statuses and a counter that covers the step. -/
theorem stepBarrier_iff_kept (currentStep : Nat) (remainSamplesNum : Int)
    (nInitPolicyReplicas nInitRolloutReplicas : Nat) (fetcher : ControllerDataFetcher)
    (events : List Event) (run : (barrierSystem config).IsRun (World.start config currentStep
      remainSamplesNum nInitPolicyReplicas nInitRolloutReplicas fetcher) events) :
    (barrierSystem config).Throughout StepBarrier
        (World.start config currentStep remainSamplesNum nInitPolicyReplicas
          nInitRolloutReplicas fetcher) events ↔
      (barrierSystem config).StepsMeet (BarrierKept config)
        (World.start config currentStep remainSamplesNum nInitPolicyReplicas
          nInitRolloutReplicas fetcher) events :=
  @EventSystem.throughout_iff_stepsMeet _ _ (barrierSystem config) World.BarrierSound
    StepBarrier (BarrierKept config)
    (fun _ invariant => World.BarrierSound.stepBarrier invariant)
    (fun _ _ invariant inOrder kept => barrierSound_handle invariant inOrder kept)
    (fun _ _ invariant inOrder broken =>
      not_stepBarrier_of_broken invariant inOrder broken)
    _ _ (SetUp.barrierSound (.setup ..)) run

def barrierExampleConfig : Config :=
  .small 4
    { trainDataloader := fun _ => [[0], [1], [2], [3]]
      valDataloader := [[0]]
      valDatasize := 1 }

def barrierExampleFetcher : ControllerDataFetcher where
  trainDataloaderIter := [[0], [1], [2], [3]]

def barrierExampleStart : World :=
  World.start barrierExampleConfig 0 4 2 1 barrierExampleFetcher

def issuingRun : List Event :=
  [.registerPolicy (singleAtom 0) 0, .registerPolicy (singleAtom 1) 1,
    .getBatchedPrompt 2 none none,
    .putRolloutGroup { rollouts := [⟨0, 0, 0⟩, ⟨1, 0, 0⟩] }]

def completingRun : List Event :=
  issuingRun ++ [.trainAck 0 1 2 (some (0, 0)), .trainAck 1 1 2 (some (0, 0))]

def abandoningRun : List Event :=
  issuingRun ++ [.trainAck 0 1 2 (some (0, 0)), .unregister 1]

instance (world : World) (step : Nat) : Decidable (world.Awaited step) :=
  inferInstanceAs (Decidable (∃ fetch ∈ _, _))

instance (world : World) (name : ReplicaName) (step : Nat) :
    Decidable (world.OwedByOther name step) :=
  inferInstanceAs (Decidable (∃ fetch ∈ _, _))

instance (world : World) : Decidable (StepBarrier world) :=
  inferInstanceAs (Decidable (∀ fetch ∈ _, _))

instance (world : World) : (event : Event) → Decidable (BarrierKept config world event)
  | .trainAck .. => inferInstanceAs (Decidable (_ ∨ _))
  | .unregister .. => inferInstanceAs (Decidable (∀ fetch ∈ _, _))
  | .registerPolicy .. | .registerRollout .. | .getBatchedPrompt .. | .putRolloutGroup ..
  | .rolloutEndSignal .. | .tryTriggerDataFetchAndTraining | .validationReport .. =>
    .isTrue trivial

instance (world : World) (event : Event) :
    Decidable ((barrierSystem config).Allowed world event) :=
  inferInstanceAs (Decidable (AckInOrder world event))

theorem stepBarrier_completingRun :
    (barrierSystem barrierExampleConfig).Throughout StepBarrier barrierExampleStart
      completingRun :=
  (stepBarrier_iff_kept 0 4 2 1 barrierExampleFetcher completingRun (by decide)).mpr
    (by decide)

theorem not_stepBarrier_abandoningRun :
    (barrierSystem barrierExampleConfig).IsRun barrierExampleStart abandoningRun ∧
      ¬ (barrierSystem barrierExampleConfig).Throughout StepBarrier barrierExampleStart
        abandoningRun := by
  refine ⟨by decide, ?_⟩
  intro throughout
  have finish := throughout.finish
  revert finish
  decide

end CosmosRl.Dispatcher
