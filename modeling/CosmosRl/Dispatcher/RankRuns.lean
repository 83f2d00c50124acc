import CosmosRl.Dispatcher.RankDispatch

/-!
Exactly-once dispatch over whole runs.

Arrivals and departures publish no rollouts.  Those that rebuild the mesh make ranks and
queues agree; the others either leave a fleet in which nobody is initialized or find the
last step issued.  The flow of the rollouts, the announcements of the `DataFetch` commands
and the ranks of the receivers then hold in every run.
-/

namespace CosmosRl.Dispatcher

open CosmosRl.Foundation

variable {config : Config}

variable {before controller : Controller} {name : ReplicaName} {event : Event}

theorem Rebuilt.rankSound {after : Controller} (rebuilt : Rebuilt config before after) :
    RankSound config after := by
  refine ⟨fun byRank => ?_, fun byRank => .aligned rebuilt.ranksInOrder ?_⟩
  · rw [rebuilt.queues_eq, rebuiltQueues, if_pos byRank.2]
    exact placedByRank_distributeByRank _ _
  · rw [rebuilt.queues_eq, length_rebuiltQueues byRank, rebuilt.arrivedCount]

structure RanksKept (before after : Controller) : Prop where
  queues_eq : after.policy.rolloutBufferPerRank = before.policy.rolloutBufferPerRank
  count_eq : after.arrivedPolicyReplicas.length = before.arrivedPolicyReplicas.length
  ranks : RanksInOrder before.arrivedPolicyReplicas →
    RanksInOrder after.arrivedPolicyReplicas

namespace RanksKept

variable {first second third before after : Controller}

theorem refl (controller : Controller) : RanksKept controller controller :=
  ⟨rfl, rfl, fun ranks => ranks⟩

theorem trans (left : RanksKept first second) (right : RanksKept second third) :
    RanksKept first third :=
  ⟨right.queues_eq.trans left.queues_eq, right.count_eq.trans left.count_eq,
    fun ranks => right.ranks (left.ranks ranks)⟩

theorem of_map {change : ReplicaName → Replica → Replica}
    (replicas : after.policy.policyReplicas = before.policy.policyReplicas.mapValues change)
    (sameArrival : ∀ name stored, (change name stored).allAtomsArrived = stored.allAtomsArrived)
    (sameStart : ∀ name stored, (change name stored).startTime = stored.startTime)
    (sameRank : ∀ name stored, (change name stored).meshRank = stored.meshRank)
    (queues : after.policy.rolloutBufferPerRank = before.policy.rolloutBufferPerRank) :
    RanksKept before after := by
  have arrived : after.arrivedPolicyReplicas =
      before.arrivedPolicyReplicas.map fun entry => (entry.1, change entry.1 entry.2) := by
    rw [Controller.arrivedPolicyReplicas, replicas]
    exact allAtomsArrivedReplicas_mapValues sameArrival _
  refine ⟨queues, ?_, fun ranks => ?_⟩
  · rw [arrived, List.length_map]
  · rw [arrived]
    exact ranks.map (fun entry => sameStart entry.1 entry.2) fun entry => sameRank entry.1 entry.2

theorem of_replicas_eq (replicas : after.policy.policyReplicas = before.policy.policyReplicas)
    (queues : after.policy.rolloutBufferPerRank = before.policy.rolloutBufferPerRank) :
    RanksKept before after := by
  have arrived : after.arrivedPolicyReplicas = before.arrivedPolicyReplicas := by
    rw [Controller.arrivedPolicyReplicas, replicas, Controller.arrivedPolicyReplicas]
  refine ⟨queues, by rw [arrived], fun ranks => ?_⟩
  rw [arrived]
  exact ranks

theorem rankSound_of_rebuilt (kept : RanksKept second third)
    (rebuilt : Rebuilt config first second) : RankSound config third := by
  have rank := rebuilt.rankSound
  refine ⟨?_, fun byRank => .aligned (kept.ranks rebuilt.ranksInOrder) ?_⟩
  · rw [kept.queues_eq]
    exact rank.placed
  · rw [kept.queues_eq, kept.count_eq, rebuilt.queues_eq, length_rebuiltQueues byRank,
      rebuilt.arrivedCount]

end RanksKept

theorem ranksKept_broadcastInitialWeights (controller : Controller) :
    RanksKept controller (broadcastInitialWeights controller).state := by
  unfold broadcastInitialWeights
  split
  · split
    · exact .refl controller
    · refine @RanksKept.of_map _ _ (fun name stored =>
        if name ∈ controller.arrivedPolicyNames then
          { stored with weightsLoadedInViewOfCommand := true }
        else stored) rfl ?_ ?_ ?_ rfl
      · intro name stored
        split <;> rfl
      · intro name stored
        split <;> rfl
      · intro name stored
        split <;> rfl
  · exact .refl controller

theorem ranksKept_policyToPolicyUnicast (srcReplica dstReplica : ReplicaName)
    (totalSteps : Int) (controller : Controller) :
    RanksKept controller
      (policyToPolicyUnicastTrigger srcReplica dstReplica totalSteps controller) := by
  refine @RanksKept.of_map _ _ (fun name stored =>
    if name = dstReplica then { stored with weightsLoadedInViewOfCommand := true }
    else stored) rfl ?_ ?_ ?_ rfl
  · intro name stored
    split <;> rfl
  · intro name stored
    split <;> rfl
  · intro name stored
    split <;> rfl

theorem ranksKept_setStatus (name : ReplicaName) (status : PolicyStatus)
    (controller : Controller) : RanksKept controller (setStatus name status controller).state := by
  apply RanksKept.of_replicas_eq
  · exact (sameMesh_setStatus name status controller).replicas_eq
  · unfold setStatus
    split
    · split <;> rfl
    · split <;> rfl

theorem rankSound_colocated (colocated : config.mode = .colocated) (controller : Controller) :
    RankSound config controller :=
  ⟨fun byRank => absurd colocated byRank.1, fun byRank => absurd colocated byRank.1⟩

theorem RankSound.completePolicyInit (controller : Controller) :
    RankSound config (completePolicyInit config controller).state := by
  by_cases colocated : config.mode = .colocated
  · exact rankSound_colocated colocated _
  · let base : Controller := { controller with policy.policyInitDone := true }
    let rebuilt := triggerRebuildPolicyMesh config base
    have mesh : Rebuilt config base rebuilt := rebuilt_triggerRebuildPolicyMesh base
    have kept : RanksKept rebuilt (Dispatcher.completePolicyInit config controller).state := by
      unfold Dispatcher.completePolicyInit
      apply Outcome.andThen_preserves (ranksKept_broadcastInitialWeights rebuilt)
      intro synchronized keptSynchronized
      simp only [colocated, if_false]
      refine Outcome.andThen_preserves ?_ fun ready keptReady => keptReady
      apply Outcome.forEach_preserves _ keptSynchronized
      intro name _ current keptCurrent
      exact keptCurrent.trans (ranksKept_setStatus name .ready current)
    exact kept.rankSound_of_rebuilt mesh

theorem Newcomer.rankSound {after : Controller}
    (newcomer : Newcomer before name after) (rank : RankSound config before)
    (phase : config.ByRank → RankPhase before)
    (unavailable : before.policy.policyInitDone = true → weightsAvailable before = false) :
    RankSound config after := by
  refine ⟨?_, fun byRank => ?_⟩
  · rw [newcomer.queues_eq]
    exact rank.placed
  · cases phase byRank with
    | ended atEnd positive =>
      apply RankOrder.ended
      · rw [newcomer.currentStep_eq, newcomer.totalSteps_eq]
        exact atEnd
      · rw [newcomer.totalSteps_eq]
        exact positive
    | waiting uninitialized _ => exact .waiting (newcomer.uninitialized uninitialized)
    | meshed initDone someone loaded _ =>
      have none_available := unavailable initDone
      rw [weightsAvailable_of_loaded someone loaded] at none_available
      cases none_available

theorem RankSound.scalePolicyMesh {hooked : Controller}
    (newcomer : Newcomer before name hooked) (rank : RankSound config before)
    (phase : config.ByRank → RankPhase before) :
    RankSound config (scalePolicyMesh config name hooked).state := by
  have outside := newcomer.outside
  unfold Dispatcher.scalePolicyMesh
  rw [if_neg (by simp [outside])]
  cases source : firstLoadedReplica (sortedByStartTime hooked.arrivedPolicyReplicas) with
  | none =>
    refine newcomer.rankSound rank phase fun _ => ?_
    rw [Bool.eq_false_iff]
    intro available
    obtain ⟨entry, present, loaded⟩ := newcomer.someLoaded_iff.mpr available
    rw [firstLoadedReplica_eq_none.mp source entry present] at loaded
    cases loaded
  | some srcReplica =>
    let rebuilt := triggerRebuildPolicyMesh config hooked
    have mesh : Rebuilt config hooked rebuilt := rebuilt_triggerRebuildPolicyMesh hooked
    have kept := (ranksKept_policyToPolicyUnicast srcReplica name
      rebuilt.policy.totalSteps rebuilt).trans (ranksKept_setStatus name .ready _)
    exact kept.rankSound_of_rebuilt mesh

theorem RankSound.policyPostRegisterHook {arrived : Controller}
    (newcomer : Newcomer before name arrived) (rank : RankSound config before)
    (phase : config.ByRank → RankPhase before) :
    RankSound config (policyPostRegisterHook config name arrived).state := by
  have samePolicy := @policy_activateValidationBeforeTrain config arrived
  have gatedNewcomer := newcomer.of_policy samePolicy
  unfold Dispatcher.policyPostRegisterHook
  dsimp only
  rw [gatedNewcomer.initDone_eq]
  cases initDone : before.policy.policyInitDone with
  | true => exact RankSound.scalePolicyMesh gatedNewcomer rank phase
  | false =>
    rw [Bool.not_false, if_pos rfl]
    split
    · exact RankSound.completePolicyInit _
    · refine gatedNewcomer.rankSound rank phase fun contrary => ?_
      rw [initDone] at contrary
      cases contrary

theorem RankSound.registerPolicy
    (sound : FleetSound config controller) (rank : RankSound config controller) (atom : Atom)
    (now : Nat) : RankSound config (registerPolicy config atom now controller).state := by
  have wellFormed := sound.wellFormed
  cases arrive : arriveReplica atom controller.policy.policyReplicas with
  | error exn =>
    rw [registerPolicy_refused arrive]
    exact rank
  | ok replica =>
    cases complete : replica.allAtomsArrived with
    | false =>
      have same : SamePhase controller
          (storePolicyReplica atom.replicaName replica controller) :=
        ⟨arrived_store wellFormed arrive complete, rfl, rfl, rfl, rfl, rfl⟩
      rw [registerPolicy_stored arrive complete]
      exact ⟨rank.placed, fun byRank => (rank.order byRank).of_same same⟩
    | true =>
      obtain ⟨arrived, newcomer, ⟨stays, unavailable⟩ | ⟨hooked, _⟩⟩ :=
        @FleetSound.registerPolicy_newcomer config _ sound atom now replica arrive complete
      · rw [stays]
        exact newcomer.rankSound rank sound.phase fun _ => unavailable
      · rw [hooked]
        exact RankSound.policyPostRegisterHook newcomer rank sound.phase

/-- While training is finished the mesh stays as it is when a replica leaves, which is
harmless once the last step has been issued. -/
def MeshKept (controller : Controller) : Event → Prop
  | .unregister name =>
    name ∈ controller.policy.policyReplicas.keys → controller.trainingFinished = true →
      (controller.policy.currentStep : Int) = controller.policy.totalSteps
  | _ => True

instance (controller : Controller) : (event : Event) → Decidable (MeshKept controller event)
  | .unregister .. => inferInstanceAs (Decidable (_ → _ → _))
  | .putRolloutGroup .. | .rolloutEndSignal .. | .registerPolicy .. | .registerRollout ..
  | .getBatchedPrompt .. | .tryTriggerDataFetchAndTraining | .trainAck ..
  | .validationReport .. => .isTrue trivial

theorem RanksInOrder.rebuildsMesh (ranks : RanksInOrder controller.arrivedPolicyReplicas)
    (arrived : name ∈ controller.arrivedPolicyNames) :
    rebuildsMesh name controller = true := by
  obtain ⟨⟨_, replica⟩, present, rfl⟩ := List.mem_map.mp arrived
  obtain ⟨position, found⟩ := List.getElem?_of_mem (mem_sortedByStartTime.mpr present)
  have stored : controller.policy.policyReplicas.get? _ = some replica :=
    Dict.get?_eq_some_iff.mpr (mem_arrivedPolicyReplicas.mp present).1
  have rank : replica.meshRank = position := ranks position _ found
  rw [Dispatcher.rebuildsMesh, stored]
  simp [Replica.inMesh, rank]

theorem RankSound.departed (sound : FleetSound config controller)
    (rank : RankSound config controller) (known : name ∈ controller.policy.status.keys)
    (stays : (controller.policy.currentStep : Int) = controller.policy.totalSteps ∧
        0 < controller.policy.totalSteps ∨ rebuildsMesh name controller = false ∨
      (controller.departed name).arrivedPolicyReplicas = []) :
    RankSound config (controller.departed name) := by
  have nobodyKnown : (controller.departed name).arrivedPolicyReplicas = [] →
      ∀ other status, (controller.departed name).policy.status.get? other = some status →
        status = .uninitialized := by
    intro nobody other status found
    have present : other ∈ (controller.departed name).policy.status.keys :=
      Dict.mem_keys_iff_get?.mpr ⟨status, found⟩
    rw [(wellFormed_departed sound.wellFormed name).statusKeys] at present
    simp [Controller.arrivedPolicyNames, nobody] at present
  refine ⟨rank.placed, fun byRank => ?_⟩
  rcases stays with ⟨atEnd, positive⟩ | outside | nobody
  · exact .ended atEnd positive
  · cases rank.order byRank with
    | ended atEnd positive => exact .ended atEnd positive
    | waiting uninitialized =>
      apply RankOrder.waiting
      intro other status found
      simp only [Controller.departed, Dict.get?_erase] at found
      split at found
      · cases found
      · exact uninitialized other status found
    | aligned ranks _ =>
      have inMesh := ranks.rebuildsMesh ((sound.wellFormed.statusKeys name).mp known)
      rw [inMesh] at outside
      cases outside
  · exact .waiting (nobodyKnown nobody)

theorem RankSound.unregister (sound : FleetSound config controller)
    (rank : RankSound config controller) (kept : MeshKept controller (.unregister name)) :
    RankSound config (unregister config name controller).state := by
  have wellFormed := sound.wellFormed
  unfold Dispatcher.unregister
  by_cases registered : name ∈ controller.policy.policyReplicas.keys
  · rw [if_pos registered]
    by_cases known : name ∈ controller.policy.status.keys
    · rcases @unregisterPolicy_departed config controller name registered known with
        ⟨stays, reason⟩ | ⟨_, _, rebuilt⟩
      · rw [stays]
        apply rank.departed sound known
        refine reason.imp_left fun finished => ?_
        have atEnd := kept registered finished
        refine ⟨atEnd, ?_⟩
        simp only [Controller.trainingFinished, Bool.and_eq_true, decide_eq_true_eq] at finished
        exact finished.2
      · exact rebuilt.rankSound
    · have same : SamePhase controller (controller.withoutIncomplete name) :=
        ⟨arrived_withoutIncomplete wellFormed known, rfl, rfl, rfl, rfl, rfl⟩
      rw [unregisterPolicy_incomplete registered known]
      exact ⟨rank.placed, fun byRank => (rank.order byRank).of_same same⟩
  · rw [if_neg registered]
    split
    · exact rank.of_policyKept (policyKept_unregisterRollout name controller)
    · exact rank

def ServesRanks (config : Config) (controller : Controller) (event : Event) : Prop :=
  let after := (handleEvent config controller event).state
  ∃ sent, after.redis = controller.redis ++ sent ∧
    (config.dataDispatchAsRankInMesh = true → SentByRank sent after)

theorem servesRanks_of_undispatched {changed : Controller}
    (sameRedis : changed.redis = controller.redis)
    (undispatched : Undispatched config changed (handleEvent config controller event).state) :
    ServesRanks config controller event := by
  obtain ⟨sent, redis, commands⟩ := undispatched.log
  exact ⟨sent, by rw [redis, sameRedis], fun _ => sentByRank_of_commands commands _⟩

theorem RankSound.handle {world : World} (running : FleetRunning config world)
    (rank : RankSound config world.controller)
    (inOrder : AckInOrder world event) (kept : MeshKept world.controller event) :
    ServesRanks config world.controller event ∧
      RankSound config (handleEvent config world.controller event).state := by
  have sound := running.sound
  cases event with
  | registerPolicy atom now =>
    obtain ⟨stored, sameRedis, _, _, undispatched⟩ :=
      @undispatched_registerPolicy config atom now world.controller
    exact ⟨servesRanks_of_undispatched sameRedis undispatched,
      RankSound.registerPolicy sound rank atom now⟩
  | registerRollout atom now =>
    exact ⟨servesRanks_of_undispatched rfl
        (undispatched_parts.rolloutParts.registerRollout atom now world.controller),
      rank.of_policyKept (policyKept_registerRollout atom now world.controller)⟩
  | unregister name =>
    refine ⟨?_, RankSound.unregister sound rank kept⟩
    by_cases registered : name ∈ world.controller.policy.policyReplicas.keys
    · obtain ⟨removed, sameRedis, _, _, undispatched⟩ :=
        @undispatched_unregisterPolicy config name world.controller
      apply servesRanks_of_undispatched sameRedis
      show Undispatched config removed (Dispatcher.unregister config name world.controller).state
      rw [Dispatcher.unregister, if_pos registered]
      exact undispatched
    · apply servesRanks_of_undispatched rfl
      show Undispatched config world.controller
        (Dispatcher.unregister config name world.controller).state
      rw [Dispatcher.unregister, if_neg registered]
      split
      · exact undispatched_parts.rolloutParts.unregisterRollout name world.controller
      · exact .refl _
  | getBatchedPrompt n validationStep rankInMesh =>
    obtain ⟨served, after⟩ := RankSound.getBatchedPrompt rank n validationStep rankInMesh
    unfold ServesRanks
    simp only [handleEvent]
    rcases result : Dispatcher.getBatchedPrompt config n validationStep rankInMesh
      world.controller with ⟨answer, fetched⟩
    rw [result] at served after
    cases answer <;> exact ⟨served.log, after⟩
  | putRolloutGroup report =>
    obtain ⟨served, after⟩ := RankSound.putRolloutGroup sound rank report
    exact ⟨served.log, after⟩
  | rolloutEndSignal name =>
    obtain ⟨served, after⟩ := RankSound.rolloutEndSignal sound rank name
    exact ⟨served.log, after⟩
  | tryTriggerDataFetchAndTraining =>
    obtain ⟨served, after⟩ := RankSound.tryTrigger sound rank
    exact ⟨served.log, after⟩
  | trainAck name step totalSteps reportData =>
    obtain ⟨served, after⟩ := RankSound.trainAck sound rank
      (running.owers.started_of_inOrder sound.wellFormed inOrder) step totalSteps reportData
    exact ⟨served.log, after⟩
  | validationReport validationStep numResults =>
    obtain ⟨served, after⟩ := RankSound.validationReport sound rank validationStep numResults
    exact ⟨served.log, after⟩

/-- The account of the rollouts in one state of a run: each accepted rollout has been
published, cleared or still waits, and each `DataFetch` follows its rollouts. -/
structure RolloutsAccounted (config : Config) (ledger : Ledger) : Prop where
  flow : Flow (config.dataDispatchAsRankInMesh = false) [] ledger.accepted
    (sentRollouts ledger.world.controller.redis) ledger.cleared
    (ledger.world.controller.pendingRollouts config)
  fed : config.mode ≠ .colocated → FetchesFed ledger.world.controller.redis

theorem RolloutsAccounted.handle {ledger : Ledger} (accounted : RolloutsAccounted config ledger)
    (running : FleetRunning config ledger.world) (inOrder : AckInOrder ledger.world event) :
    RolloutsAccounted config (ledger.handle config event) := by
  obtain ⟨sent, redis, flow, fed⟩ := (running.handle inOrder).traffic.log
  have redisAfter : (ledger.handle config event).world.controller.redis =
      ledger.world.controller.redis ++ sent := redis
  refine ⟨?_, fun separate => ?_⟩
  · rw [redisAfter, sentRollouts, List.filterMap_append]
    exact accounted.flow.trans flow
  · rw [redisAfter]
    exact (accounted.fed separate).append (fed separate).1

variable {created started : Controller} (setUp : SetUp config created started)

include setUp

theorem SetUp.rolloutsAccounted :
    RolloutsAccounted config { world := { controller := started } } := by
  have silent : created.redis = [] := by
    cases setUp
    rfl
  obtain ⟨sent, redis, flow, fed⟩ := (traffic_parts.setUp setUp).log
  rw [silent, List.nil_append] at redis
  rw [setUp.pendingRollouts_eq] at flow
  refine ⟨?_, fun separate => ?_⟩
  · show Flow _ [] [] (sentRollouts started.redis) [] _
    rw [redis]
    exact flow
  · show FetchesFed started.redis
    rw [redis]
    exact (fed separate).1

theorem SetUp.rankSound : RankSound config started := by
  have status_eq := setUp.status_eq
  have queues_parts : RespectsParts fun before after =>
      after.policy.rolloutBufferPerRank = before.policy.rolloutBufferPerRank :=
    ⟨fun first second => second.trans first, fun _ books => books.queues_eq,
      fun _ _ books => books.queues_eq⟩
  have queues : started.policy.rolloutBufferPerRank = [] := by
    rw [queues_parts.setUp setUp]
    cases setUp
    rfl
  refine ⟨fun _ => ?_, fun _ => ?_⟩
  · rw [queues]
    exact placedByRank_nil
  · apply RankOrder.waiting
    intro name status found
    rw [status_eq] at found
    cases found

omit setUp

/-- In every run each accepted rollout is published once, cleared or still waits, in the
order of arrival where the queue is shared; each `DataFetch` follows the rollouts it
announces; no queue is read when it is empty; and as long as the mesh is kept, rollouts
that are dispatched by rank go to the replicas of their own ranks. -/
theorem rolloutsAccounted_run (currentStep : Nat) (remainSamplesNum : Int)
    (nInitPolicyReplicas nInitRolloutReplicas : Nat) (fetcher : ControllerDataFetcher)
    (events : List Event)
    (run : (ledgerSystem config).IsRun (Ledger.start config currentStep remainSamplesNum
      nInitPolicyReplicas nInitRolloutReplicas fetcher) events) :
    let start := Ledger.start config currentStep remainSamplesNum nInitPolicyReplicas
      nInitRolloutReplicas fetcher
    (ledgerSystem config).Throughout (RolloutsAccounted config) start events ∧
      (ledgerSystem config).StepsMeet (fun ledger event =>
        (handleEvent config ledger.world.controller event).raised ≠ some .blocked)
        start events ∧
      ((ledgerSystem config).StepsMeet (fun ledger event =>
          MeshKept ledger.world.controller event) start events →
        (ledgerSystem config).StepsMeet (fun ledger event =>
          ServesRanks config ledger.world.controller event) start events) := by
  intro start
  have setUp : SetUp config _ start.world.controller := .setup ..
  have running : FleetRunning config start.world := setUp.fleetRunning
  have accounted : RolloutsAccounted config start := setUp.rolloutsAccounted
  have ranked : RankSound config start.world.controller := setUp.rankSound
  refine ⟨?_, ?_, fun kept => ?_⟩
  · have throughout := @EventSystem.throughout_of_preserved _ _ (ledgerSystem config)
      (fun ledger => FleetRunning config ledger.world ∧ RolloutsAccounted config ledger)
      (fun _ _ invariant inOrder =>
        ⟨invariant.1.next inOrder, invariant.2.handle invariant.1 inOrder⟩)
      start events ⟨running, accounted⟩ run
    exact throughout.mono fun _ invariant => invariant.2
  · exact @EventSystem.stepsMeet_of_preserved _ _ (ledgerSystem config)
      (fun ledger => FleetRunning config ledger.world) (fun _ _ => True) _
      (fun _ _ invariant inOrder _ =>
        ⟨(invariant.handle inOrder).raised, invariant.next inOrder⟩)
      start events running run (.of_forall fun _ _ => trivial)
  · exact @EventSystem.stepsMeet_of_preserved _ _ (ledgerSystem config)
      (fun ledger => FleetRunning config ledger.world ∧ RankSound config ledger.world.controller)
      (fun ledger event => MeshKept ledger.world.controller event) _
      (fun _ _ invariant inOrder kept =>
        have served := RankSound.handle invariant.1 invariant.2 inOrder kept
        ⟨served.1, invariant.1.next inOrder, served.2⟩)
      start events ⟨running, ranked⟩ run kept

/-- In every run the status table has exactly the replicas all of whose ranks have registered,
no replica has a rank twice or one outside its group, only complete replicas are in the mesh
or hold weights, and whoever owes an ack has been given weights. -/
theorem fleetConsistent_run (currentStep : Nat) (remainSamplesNum : Int)
    (nInitPolicyReplicas nInitRolloutReplicas : Nat) (fetcher : ControllerDataFetcher)
    (events : List Event)
    (run : (ledgerSystem config).IsRun (Ledger.start config currentStep remainSamplesNum
      nInitPolicyReplicas nInitRolloutReplicas fetcher) events) :
    (ledgerSystem config).Throughout
      (fun ledger => WellFormed ledger.world.controller ∧ FlagsArrived ledger.world.controller ∧
        OwersInitialized ledger.world.settled ledger.world.controller)
      (Ledger.start config currentStep remainSamplesNum nInitPolicyReplicas
        nInitRolloutReplicas fetcher) events := by
  have throughout := @EventSystem.throughout_of_preserved _ _ (ledgerSystem config)
    (fun ledger => FleetRunning config ledger.world)
    (fun _ _ running inOrder => running.next inOrder) _ _
    (SetUp.fleetRunning (.setup ..)) run
  exact throughout.mono fun _ running =>
    ⟨running.sound.wellFormed, running.sound.flags, running.owers⟩

def servedExampleConfig : Config :=
  { Config.small 1
      { trainDataloader := fun _ => [[0], [1], [2], [3]]
        valDataloader := [[0]]
        valDatasize := 1 } with
    maxNumSteps := some 3
    validation := { enable := true, valBeforeTrain := true } }

def rankExampleConfig : Config := { servedExampleConfig with dataDispatchAsRankInMesh := true }

def colocatedExampleConfig : Config := { servedExampleConfig with mode := .colocated }

def servedExampleFetcher : ControllerDataFetcher where
  trainDataloaderIter := [[0], [1], [2], [3]]

/-- A rollout waits for rank 1 when the replica of rank 0 leaves, and goes to the replica
that is left, which has rank 0 now. -/
def rebuiltRun : List Event :=
  [.registerPolicy (singleAtom 0) 0, .registerPolicy (singleAtom 1) 1,
    .putRolloutGroup { rollouts := [⟨1, 0, 0⟩] }, .unregister 0, .validationReport 0 1]

def clearedRun : List Event :=
  [.registerPolicy (singleAtom 0) 0, .registerPolicy (singleAtom 1) 1,
    .registerRollout (singleAtom 2) 2, .putRolloutGroup { rollouts := [⟨0, 0, 0⟩] },
    .rolloutEndSignal 2]

def colocatedRun : List Event := [.registerPolicy (singleAtom 0) 0]

/-- A resumed run is past its last step.  A replica leaves a mesh that is not rebuilt, the
forced last step is swallowed by the validation gate, and the rollouts of both ranks are
used after the gate has closed. -/
def staleMeshRun : List Event :=
  [.registerPolicy (singleAtom 0) 0, .registerPolicy (singleAtom 1) 1,
    .registerRollout (singleAtom 2) 2, .unregister 0, .rolloutEndSignal 2,
    .putRolloutGroup { rollouts := [⟨0, 5, 0⟩, ⟨1, 5, 0⟩] }, .validationReport 0 1]

def servedStart (config : Config) (currentStep nInitPolicyReplicas : Nat) : Ledger :=
  Ledger.start config currentStep 4 nInitPolicyReplicas 1 servedExampleFetcher

theorem rolloutsAccounted_rebuiltRun :
    (ledgerSystem rankExampleConfig).Throughout (RolloutsAccounted rankExampleConfig)
        (servedStart rankExampleConfig 0 2) rebuiltRun ∧
      (ledgerSystem rankExampleConfig).StepsMeet (fun ledger event =>
        ServesRanks rankExampleConfig ledger.world.controller event)
        (servedStart rankExampleConfig 0 2) rebuiltRun := by
  have accounted := rolloutsAccounted_run 0 4 2 1 servedExampleFetcher rebuiltRun
    (show (ledgerSystem rankExampleConfig).IsRun (servedStart rankExampleConfig 0 2) rebuiltRun
      by decide)
  exact ⟨accounted.1, accounted.2.2 (by decide)⟩

theorem fleetConsistent_rebuiltRun :
    WellFormed ((ledgerSystem rankExampleConfig).after (servedStart rankExampleConfig 0 2)
      rebuiltRun).world.controller :=
  (fleetConsistent_run 0 4 2 1 servedExampleFetcher rebuiltRun
    (show (ledgerSystem rankExampleConfig).IsRun (servedStart rankExampleConfig 0 2) rebuiltRun
      by decide)).finish.1

/-- A rollout may be cleared, a colocated step is announced without rollouts, and a mesh
that has not been rebuilt gets rollouts of the wrong rank. -/
theorem not_servedExactlyOnce :
    ((ledgerSystem servedExampleConfig).IsRun (servedStart servedExampleConfig 0 2)
        clearedRun ∧
      ¬ ((ledgerSystem servedExampleConfig).after (servedStart servedExampleConfig 0 2)
          clearedRun).accepted.Perm
        (sentRollouts ((ledgerSystem servedExampleConfig).after
            (servedStart servedExampleConfig 0 2) clearedRun).world.controller.redis ++
          Controller.pendingRollouts servedExampleConfig
            ((ledgerSystem servedExampleConfig).after (servedStart servedExampleConfig 0 2)
              clearedRun).world.controller)) ∧
    ((ledgerSystem colocatedExampleConfig).IsRun (servedStart colocatedExampleConfig 0 1)
        colocatedRun ∧
      ¬ FetchesFed ((ledgerSystem colocatedExampleConfig).after
        (servedStart colocatedExampleConfig 0 1) colocatedRun).world.controller.redis) ∧
    ((ledgerSystem rankExampleConfig).IsRun (servedStart rankExampleConfig 5 2)
        staleMeshRun ∧
      ¬ (ledgerSystem rankExampleConfig).StepsMeet (fun ledger event =>
        ServesRanks rankExampleConfig ledger.world.controller event)
        (servedStart rankExampleConfig 5 2) staleMeshRun) := by
  refine ⟨⟨by decide, by decide⟩, ⟨by decide, ?_⟩, ⟨by decide, ?_⟩⟩
  · intro fed
    have announced := (fed 0).announces
      [⟨0, .command (.weightResume 0)⟩, ⟨0, .command (.buildMesh [(0, 0)])⟩]
      ⟨0, .command (.dataFetch 0 1 1 3 3 false)⟩ [] 1 (by decide) (by decide)
    revert announced
    decide
  · intro served
    obtain ⟨sent, redis, byRank⟩ := served.2.2.2.2.2.2.1
    let last := (ledgerSystem rankExampleConfig).after (servedStart rankExampleConfig 5 2)
      (staleMeshRun.take 6)
    let after := (handleEvent rankExampleConfig last.world.controller (.validationReport 0 1)).state
    have published : sent = after.redis.drop last.world.controller.redis.length := by
      rw [show after.redis = last.world.controller.redis ++ sent from redis]
      simp
    obtain ⟨replica, arrived, rank⟩ := byRank rfl ⟨1, .rollout ⟨0, 5, 0⟩⟩
      (by rw [published]; decide) ⟨0, 5, 0⟩ rfl
    have stale : ∀ entry ∈ after.arrivedPolicyReplicas, entry.2.meshRank = 1 := by decide
    have single : after.arrivedPolicyReplicas.length = 1 := by decide
    have expected : replica.meshRank = (0 % after.arrivedPolicyReplicas.length : Nat) := rank
    rw [stale _ arrived, single] at expected
    cases expected

end CosmosRl.Dispatcher
