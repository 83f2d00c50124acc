import CosmosRl.Dispatcher.FleetMembership

/-!
Policy replicas joining, seen from the trigger.

The atom that completes a replica gives it the first status.  The replica stays
uninitialized until weights can be sent to it, and then becomes `READY`, either together
with all others when the first mesh is built or alone when the mesh is scaled up.
-/

namespace CosmosRl.Dispatcher

open CosmosRl.Foundation List

variable {config : Config}

variable {name srcReplica : ReplicaName} {replica : Replica}
  {controller before after hooked rebuilt : Controller} {atom : Atom} {totalSteps : Int}

theorem arrivedReplicas_set_incomplete {replicas : Dict ReplicaName Replica}
    (absent : ∀ old, (name, old) ∈ replicas.entries → old.allAtomsArrived = false)
    (incomplete : replica.allAtomsArrived = false) :
    allAtomsArrivedReplicas (replicas.set name replica) =
      allAtomsArrivedReplicas replicas := by
  unfold allAtomsArrivedReplicas
  by_cases present : name ∈ replicas.keys
  · have written : (replicas.set name replica).entries = replicas.entries.map fun entry =>
        (entry.1, if entry.1 = name then replica else entry.2) := by
      simp [Dict.set, present, Dict.modify, Dict.mapValues]
    rw [written, filter_map]
    have sameTest : ∀ entry ∈ replicas.entries,
        ((fun entry : ReplicaName × Replica => entry.2.allAtomsArrived) ∘ fun entry =>
          (entry.1, if entry.1 = name then replica else entry.2)) entry =
        entry.2.allAtomsArrived := by
      rintro ⟨other, old⟩ stored
      by_cases same : other = name
      · subst same
        simp [incomplete, absent old stored]
      · simp [same]
    rw [filter_congr sameTest]
    have kept : ∀ entry ∈ replicas.entries.filter fun entry => entry.2.allAtomsArrived,
        (entry.1, if entry.1 = name then replica else entry.2) = entry := by
      rintro ⟨other, old⟩ stored
      obtain ⟨inside, arrived⟩ := mem_filter.mp stored
      have different : other ≠ name := by
        rintro rfl
        rw [absent old inside] at arrived
        cases arrived
      simp [different]
    rw [map_congr_left kept, map_id']
  · simp [Dict.set, present, incomplete]

theorem arriveReplica_flags (wellFormed : WellFormed controller) (flags : FlagsArrived controller)
    (arrive : arriveReplica atom controller.policy.policyReplicas = .ok replica) :
    replica.inMesh = false ∧ replica.weightsLoadedInViewOfCommand = false := by
  have notArrived := arriveReplica_notArrived wellFormed arrive
  unfold arriveReplica at arrive
  split at arrive
  · cases arrive
    exact ⟨rfl, rfl⟩
  · rename_i stored found
    have incomplete : ¬ stored.allAtomsArrived = true :=
      fun complete => notArrived (mem_arrivedPolicyNames.mpr ⟨stored, found, complete⟩)
    have unset := mt (flags (atom.replicaName, stored) (Dict.get?_eq_some_iff.mp found)) incomplete
    simp only [not_or, Bool.not_eq_true] at unset
    unfold Replica.arrive at arrive
    split at arrive
    · cases arrive
    · split at arrive
      · cases arrive
      · cases arrive
        exact unset

theorem flagsArrived_store (flags : FlagsArrived controller) (outside : replica.inMesh = false)
    (unloaded : replica.weightsLoadedInViewOfCommand = false) :
    FlagsArrived (storePolicyReplica name replica controller) := by
  intro entry stored set
  rcases Dict.mem_entries_set.mp stored with rfl | ⟨old, _⟩
  · simp [outside, unloaded] at set
  · exact flags entry old set

theorem arrived_store (wellFormed : WellFormed controller)
    (arrive : arriveReplica atom controller.policy.policyReplicas = .ok replica)
    (incomplete : replica.allAtomsArrived = false) :
    (storePolicyReplica atom.replicaName replica controller).arrivedPolicyReplicas =
      controller.arrivedPolicyReplicas := by
  have notArrived := arriveReplica_notArrived wellFormed arrive
  apply arrivedReplicas_set_incomplete ?_ incomplete
  intro old stored
  rw [Bool.eq_false_iff]
  intro complete
  apply notArrived
  exact mem_arrivedPolicyNames.mpr ⟨old, Dict.get?_eq_some_iff.mpr stored, complete⟩

theorem FleetSound.store (sound : FleetSound config controller)
    (arrive : arriveReplica atom controller.policy.policyReplicas = .ok replica)
    (incomplete : replica.allAtomsArrived = false) :
    FleetSound config (storePolicyReplica atom.replicaName replica controller) := by
  have wellFormed := sound.wellFormed
  have notArrived := arriveReplica_notArrived wellFormed arrive
  obtain ⟨outside, unloaded⟩ := arriveReplica_flags wellFormed sound.flags arrive
  have samePhase : SamePhase controller
      (storePolicyReplica atom.replicaName replica controller) :=
    ⟨arrived_store wellFormed arrive incomplete, rfl, rfl, rfl, rfl, rfl⟩
  refine ⟨?_, flagsArrived_store sound.flags outside unloaded, ?_⟩
  · exact wellFormed.store (arriveReplica_shapeValid wellFormed arrive) notArrived incomplete
  · exact fun byRank => (sound.phase byRank).of_same samePhase

theorem NothingMissed.store (missed : NothingMissed config controller)
    (arrive : arriveReplica atom controller.policy.policyReplicas = .ok replica)
    (incomplete : replica.allAtomsArrived = false) :
    NothingMissed config (storePolicyReplica atom.replicaName replica controller) := by
  refine ⟨missed.sound.store arrive incomplete, fun enabled => missed.disabled ?_⟩
  obtain ⟨ahead, idle⟩ := triggerEnabled_iff_ahead.mp enabled
  rw [arrived_store missed.sound.wellFormed arrive incomplete] at ahead
  exact triggerEnabled_iff_ahead.mpr
    ⟨⟨ahead.noValidation, ahead.someone, ahead.notFinished, ahead.enough⟩, idle⟩

/-- Weights can be sent to a replica that arrives now: it is the first one ever, or one
of those that are there has them. -/
def weightsAvailable (controller : Controller) : Bool :=
  if controller.arrivedPolicyReplicas = [] then !controller.policy.firstPolicyReplicaArrived
  else controller.arrivedPolicyReplicas.any fun entry => entry.2.weightsLoadedInViewOfCommand

theorem weightsAvailable_of_loaded (someone : controller.arrivedPolicyReplicas ≠ [])
    (loaded : ∀ entry ∈ controller.arrivedPolicyReplicas,
      entry.2.weightsLoadedInViewOfCommand = true) : weightsAvailable controller = true := by
  obtain ⟨entry, present⟩ := exists_mem_of_ne_nil _ someone
  unfold weightsAvailable
  rw [if_neg someone, any_eq_true]
  exact ⟨entry, present, loaded entry present⟩

structure Newcomer (before : Controller) (name : ReplicaName) (after : Controller) : Prop where
  wellFormed : WellFormed after
  flags : FlagsArrived after
  unknown : name ∉ before.arrivedPolicyNames
  status_eq : after.policy.status = before.policy.status.set name .uninitialized
  count_eq : after.arrivedPolicyReplicas.length = before.arrivedPolicyReplicas.length + 1
  others : ∀ entry, entry.1 ≠ name →
    (entry ∈ after.arrivedPolicyReplicas ↔ entry ∈ before.arrivedPolicyReplicas)
  initialized : ∀ entry ∈ after.arrivedPolicyReplicas, entry.1 = name →
    (entry.2.weightsLoadedInViewOfCommand = true ↔
      before.arrivedPolicyReplicas = [] ∧ before.policy.firstPolicyReplicaArrived = false)
  outside : (after.policy.policyReplicas.get? name).any Replica.inMesh = false
  initDone_eq : after.policy.policyInitDone = before.policy.policyInitDone
  totalSteps_eq : after.policy.totalSteps = before.policy.totalSteps
  currentStep_eq : after.policy.currentStep = before.policy.currentStep
  remain_eq : after.policy.remainSamplesNum = before.policy.remainSamplesNum
  buffer_eq : after.policy.rolloutBuffer = before.policy.rolloutBuffer
  queues_eq : after.policy.rolloutBufferPerRank = before.policy.rolloutBufferPerRank

namespace Newcomer

variable {before after : Controller} {name : ReplicaName}

section

variable (newcomer : Newcomer before name after)

include newcomer

theorem found : after.policy.status.get? name = some .uninitialized := by
  simp [newcomer.status_eq, Dict.get?_set]

theorem arrived : name ∈ after.arrivedPolicyNames := by
  rw [← newcomer.wellFormed.statusKeys]
  exact Dict.mem_keys_iff_get?.mpr ⟨_, newcomer.found⟩

theorem someone : after.arrivedPolicyReplicas ≠ [] := by
  apply ne_nil_of_length_pos
  rw [newcomer.count_eq]
  exact Nat.succ_pos _

theorem of_policy {later : Controller}
    (same : later.policy = after.policy) : Newcomer before name later := by
  have sameArrived : later.arrivedPolicyReplicas = after.arrivedPolicyReplicas := by
    simp only [Controller.arrivedPolicyReplicas, same]
  have sameNames : later.arrivedPolicyNames = after.arrivedPolicyNames := by
    simp only [Controller.arrivedPolicyNames, sameArrived]
  constructor
  case wellFormed =>
    refine ⟨?_, ?_⟩
    · simpa only [same] using newcomer.wellFormed.shapesValid
    · simpa only [same, sameNames] using newcomer.wellFormed.statusKeys
  case flags => simpa only [FlagsArrived, same] using newcomer.flags
  case unknown => exact newcomer.unknown
  case others => simpa only [sameArrived] using newcomer.others
  case initialized => simpa only [sameArrived] using newcomer.initialized
  case count_eq => simpa only [sameArrived] using newcomer.count_eq
  case status_eq => simpa only [same] using newcomer.status_eq
  case outside => simpa only [same] using newcomer.outside
  case initDone_eq => simpa only [same] using newcomer.initDone_eq
  case totalSteps_eq => simpa only [same] using newcomer.totalSteps_eq
  case currentStep_eq => simpa only [same] using newcomer.currentStep_eq
  case remain_eq => simpa only [same] using newcomer.remain_eq
  case buffer_eq => simpa only [same] using newcomer.buffer_eq
  case queues_eq => simpa only [same] using newcomer.queues_eq

theorem ne_name {entry : ReplicaName × Replica}
    (present : entry ∈ before.arrivedPolicyReplicas) : entry.1 ≠ name := by
  rintro rfl
  exact newcomer.unknown (mem_map_of_mem present)

theorem someLoaded_iff :
    (∃ entry ∈ after.arrivedPolicyReplicas, entry.2.weightsLoadedInViewOfCommand = true) ↔
      weightsAvailable before = true := by
  unfold weightsAvailable
  constructor
  · rintro ⟨entry, present, loaded⟩
    by_cases same : entry.1 = name
    · obtain ⟨nobody, first⟩ := (newcomer.initialized entry present same).mp loaded
      simp [nobody, first]
    · have earlier := (newcomer.others entry same).mp present
      rw [if_neg (ne_nil_of_mem earlier), any_eq_true]
      exact ⟨entry, earlier, loaded⟩
  · intro available
    by_cases nobody : before.arrivedPolicyReplicas = []
    · obtain ⟨entry, present, same⟩ := mem_map.mp newcomer.arrived
      refine ⟨entry, present, (newcomer.initialized entry present same).mpr ⟨nobody, ?_⟩⟩
      simpa [nobody] using available
    · rw [if_neg nobody, any_eq_true] at available
      obtain ⟨entry, earlier, loaded⟩ := available
      exact ⟨entry, (newcomer.others entry (newcomer.ne_name earlier)).mpr earlier, loaded⟩

theorem none_loaded (unavailable : weightsAvailable before = false) :
    ∀ entry ∈ after.arrivedPolicyReplicas, entry.2.weightsLoadedInViewOfCommand = false := by
  intro entry present
  rw [Bool.eq_false_iff]
  intro loaded
  have available := newcomer.someLoaded_iff.mp ⟨entry, present, loaded⟩
  rw [unavailable] at available
  cases available

theorem uninitialized
    (waiting : ∀ other status, before.policy.status.get? other = some status →
      status = .uninitialized) :
    ∀ other status, after.policy.status.get? other = some status →
      status = .uninitialized := by
  intro other status found
  rw [newcomer.status_eq, Dict.get?_set] at found
  split at found
  · exact (Option.some.inj found).symm
  · exact waiting other status found

theorem phase (phase : RankPhase before)
    (unavailable : before.policy.policyInitDone = true → weightsAvailable before = false) :
    RankPhase after := by
  cases phase with
  | ended atEnd positive =>
    apply RankPhase.ended
    · rw [newcomer.currentStep_eq, newcomer.totalSteps_eq]
      exact atEnd
    · rw [newcomer.totalSteps_eq]
      exact positive
  | waiting uninitialized _ =>
    apply RankPhase.waiting (newcomer.uninitialized uninitialized)
    intro initDone
    rw [newcomer.initDone_eq] at initDone
    exact newcomer.none_loaded (unavailable initDone)
  | meshed initDone someone loaded _ =>
    have none_available := unavailable initDone
    rw [weightsAvailable_of_loaded someone loaded] at none_available
    cases none_available

theorem nothingMissed (phase : config.ByRank → RankPhase before)
    (unavailable : before.policy.policyInitDone = true → weightsAvailable before = false) :
    NothingMissed config after :=
  ⟨⟨newcomer.wellFormed, newcomer.flags, fun byRank =>
    newcomer.phase (phase byRank) unavailable⟩, not_enabled_of_uninitialized newcomer.found⟩

end

end Newcomer

structure Arriving (before : Controller) (name : ReplicaName) (replica : Replica) : Prop where
  wellFormed : WellFormed before
  flags : FlagsArrived before
  unknown : name ∉ before.arrivedPolicyNames
  valid : ShapeValid replica.shape
  complete : replica.allAtomsArrived = true
  outside : replica.inMesh = false
  unloaded : replica.weightsLoadedInViewOfCommand = false

namespace Arriving

variable {before : Controller} {name : ReplicaName} {replica : Replica}

theorem mem_arrived (_ : Arriving before name replica) {entry : ReplicaName × Replica} :
    entry ∈ (before.withArrived name replica).arrivedPolicyReplicas ↔
      (entry = (name, replica) ∧ replica.allAtomsArrived = true) ∨
        (entry ∈ before.arrivedPolicyReplicas ∧ entry.1 ≠ name) := by
  rw [mem_arrivedPolicyReplicas, mem_arrivedPolicyReplicas]
  show entry ∈ (before.policy.policyReplicas.set name replica).entries ∧ _ ↔ _
  rw [Dict.mem_entries_set]
  constructor
  · rintro ⟨rfl | ⟨stored, different⟩, complete⟩
    · exact .inl ⟨rfl, complete⟩
    · exact .inr ⟨⟨stored, complete⟩, different⟩
  · rintro (⟨rfl, complete⟩ | ⟨⟨stored, complete⟩, different⟩)
    · exact ⟨.inl rfl, complete⟩
    · exact ⟨.inr ⟨stored, different⟩, complete⟩

section

variable (arriving : Arriving before name replica)

include arriving

theorem count_eq :
    (before.withArrived name replica).arrivedPolicyReplicas.length =
      before.arrivedPolicyReplicas.length + 1 := by
  have wellFormed : WellFormed (before.withArrived name replica) :=
    arriving.wellFormed.withArrived arriving.valid arriving.complete
  have absent : name ∉ before.policy.status.keys :=
    fun known => arriving.unknown ((arriving.wellFormed.statusKeys name).mp known)
  have keys : (before.withArrived name replica).policy.status.keys =
      before.policy.status.keys ++ [name] := Dict.keys_set_of_notMem _ absent
  rw [← wellFormed.statusCount, keys, length_append, arriving.wellFormed.statusCount]
  rfl

theorem newcomer
    (notFirst : ¬ (before.arrivedPolicyReplicas = [] ∧
      before.policy.firstPolicyReplicaArrived = false)) :
    Newcomer before name (before.withArrived name replica) := by
  refine ⟨arriving.wellFormed.withArrived arriving.valid arriving.complete, ?_,
    arriving.unknown, rfl, arriving.count_eq, ?_, ?_, ?_, rfl, rfl, rfl, rfl, rfl, rfl⟩
  · exact flagsArrived_store arriving.flags arriving.outside arriving.unloaded
  · intro entry different
    rw [arriving.mem_arrived]
    constructor
    · rintro (⟨rfl, _⟩ | ⟨earlier, _⟩)
      · exact absurd rfl different
      · exact earlier
    · exact fun earlier => .inr ⟨earlier, different⟩
  · intro entry present same
    rcases arriving.mem_arrived.mp present with ⟨rfl, _⟩ | ⟨_, different⟩
    · simpa [arriving.unloaded] using notFirst
    · exact absurd same different
  · show ((before.policy.policyReplicas.set name replica).get? name).any _ = _
    simp [Dict.get?_set, arriving.outside]

/-- The weights of the first replica are initialized. -/
theorem newcomer_resumed (nobody : before.arrivedPolicyReplicas = [])
    (first : before.policy.firstPolicyReplicaArrived = false) :
    Newcomer before name (weightResumeTrigger name
      { before.withArrived name replica with policy.firstPolicyReplicaArrived := true }) := by
  let stored := before.withArrived name replica
  let resumed := weightResumeTrigger name
    { stored with policy.firstPolicyReplicaArrived := true }
  have replicas : resumed.policy.policyReplicas =
      (before.policy.policyReplicas.set name replica).modify name
        fun old => { old with weightsLoadedInViewOfCommand := true } := rfl
  have started : Quiet stored { stored with policy.firstPolicyReplicaArrived := true } :=
    ⟨rfl, rfl, rfl, rfl, rfl⟩
  have quiet := started.trans (quiet_parts.weightResume name _)
  have entries : ∀ entry, entry ∈ resumed.policy.policyReplicas.entries →
      entry = (name, { replica with weightsLoadedInViewOfCommand := true }) ∨
        (entry ∈ before.policy.policyReplicas.entries ∧ entry.1 ≠ name) := by
    rintro ⟨other, changed⟩ member
    rw [replicas, ← Dict.get?_eq_some_iff, Dict.get?_modify, Dict.get?_set] at member
    by_cases same : other = name
    · simp only [same, if_true, Option.map_some, Option.some.injEq] at member
      exact .inl (by rw [same, ← member])
    · simp only [same, if_false] at member
      exact .inr ⟨Dict.get?_eq_some_iff.mp member, same⟩
  have complete : ({ replica with
      weightsLoadedInViewOfCommand := true } : Replica).allAtomsArrived = true :=
    arriving.complete
  have only : ∀ entry ∈ resumed.arrivedPolicyReplicas,
      entry = (name, { replica with weightsLoadedInViewOfCommand := true }) := by
    intro entry present
    obtain ⟨member, arrived⟩ := mem_arrivedPolicyReplicas.mp present
    rcases entries entry member with same | ⟨earlier, _⟩
    · exact same
    · have present := mem_arrivedPolicyReplicas.mpr ⟨earlier, arrived⟩
      rw [nobody] at present
      cases present
  refine ⟨quiet.wellFormed (arriving.wellFormed.withArrived arriving.valid arriving.complete),
    ?_, arriving.unknown, rfl, ?_, ?_, ?_, ?_, rfl, rfl, rfl, rfl, rfl, rfl⟩
  · intro entry member set
    rcases entries entry member with rfl | ⟨earlier, _⟩
    · exact complete
    · exact arriving.flags entry earlier set
  · rw [← arriving.count_eq]
    exact arrivedReplicas_length_of_shapes quiet.shapes_eq
  · intro entry different
    rw [nobody]
    constructor
    · intro present
      rw [only entry present] at different
      exact absurd rfl different
    · intro present
      cases present
  · intro entry present _
    rw [only entry present]
    exact ⟨fun _ => ⟨nobody, first⟩, fun _ => rfl⟩
  · show (resumed.policy.policyReplicas.get? name).any _ = _
    have stillOutside : ({ replica with
        weightsLoadedInViewOfCommand := true } : Replica).inMesh = false := arriving.outside
    simp [replicas, Dict.get?_modify, Dict.get?_set, stillOutside]

end

end Arriving

theorem policy_rolloutToRolloutBroadcast (srcReplica : ReplicaName)
    (dstReplicas : List ReplicaName) (weightStep : Option Nat) (totalSteps : Option Int)
    (controller : Controller) :
    let sent := rolloutToRolloutBroadcastTrigger srcReplica dstReplicas weightStep totalSteps
      controller
    sent.policy = controller.policy ∧ sent.dataFetcher = controller.dataFetcher := by
  unfold rolloutToRolloutBroadcastTrigger
  dsimp only
  split
  · exact ⟨rfl, rfl⟩
  · exact ⟨rfl, rfl⟩

theorem policy_initializeWeights {name : ReplicaName} {controller : Controller}
    (first : controller.policy.firstPolicyReplicaArrived = false) :
    let result := initializeWeights name controller
    result.raised = none ∧
      result.state.policy = (weightResumeTrigger name
        { controller with policy.firstPolicyReplicaArrived := true }).policy ∧
      result.state.dataFetcher = controller.dataFetcher := by
  unfold initializeWeights
  rw [if_neg (by simp [first])]
  dsimp only
  split
  · exact ⟨rfl, rfl, rfl⟩
  · split
    · exact ⟨rfl, policy_rolloutToRolloutBroadcast _ _ _ _ _⟩
    · exact ⟨rfl, rfl, rfl⟩

theorem SameTrigger.wellFormed (same : SameTrigger before after)
    (wellFormed : WellFormed before) : WellFormed after := by
  refine ⟨?_, ?_⟩
  · rw [same.shapes_eq]
    exact wellFormed.shapesValid
  · intro other
    rw [same.status_eq, wellFormed.statusKeys]
    simp only [Controller.arrivedPolicyNames, Controller.arrivedPolicyReplicas,
      arrivedNames_eq_shapes, same.shapes_eq]

structure Synchronized (before after : Controller) : Prop where
  trigger : SameTrigger before after
  initDone_eq : after.policy.policyInitDone = before.policy.policyInitDone
  evolve : FlagsEvolve before after
  loaded : ∀ entry ∈ after.arrivedPolicyReplicas,
    entry.2.weightsLoadedInViewOfCommand = true

theorem mem_policyToPolicyBroadcast
    (stored : (name, replica) ∈ (policyToPolicyBroadcastTrigger srcReplica
      controller.arrivedPolicyNames totalSteps controller).policy.policyReplicas.entries) :
    ∃ old, (name, old) ∈ controller.policy.policyReplicas.entries ∧
      replica.shape = old.shape ∧ replica.inMesh = old.inMesh ∧
      replica.weightsLoadedInViewOfCommand =
        (old.allAtomsArrived || old.weightsLoadedInViewOfCommand) := by
  obtain ⟨old, found, changed⟩ := Dict.mem_entries_mapValues.mp stored
  refine ⟨old, found, ?_⟩
  have named : name ∈ controller.arrivedPolicyNames ↔ old.allAtomsArrived = true := by
    rw [← mem_sortedPolicyNames]
    exact mem_sortedPolicyNames_iff_arrived found
  by_cases complete : old.allAtomsArrived = true
  · rw [if_pos (named.mpr complete)] at changed
    rw [← changed, complete]
    exact ⟨rfl, rfl, rfl⟩
  · rw [if_neg (mt named.mp complete)] at changed
    rw [← changed, Bool.eq_false_iff.mpr complete]
    exact ⟨rfl, rfl, rfl⟩

theorem synchronized_broadcast (srcReplica : ReplicaName) (totalSteps : Int)
    (controller : Controller) :
    Synchronized controller (policyToPolicyBroadcastTrigger srcReplica
      controller.arrivedPolicyNames totalSteps controller) := by
  refine ⟨sameTrigger_policyToPolicyBroadcast _ _ _ _, rfl, ?_, ?_⟩
  · intro name replica stored
    obtain ⟨old, found, shape, mesh, weights⟩ := mem_policyToPolicyBroadcast stored
    refine ⟨old, found, shape, ?_⟩
    by_cases complete : old.allAtomsArrived = true
    · exact .inl ((allAtomsArrived_of_shape shape).trans complete)
    · refine .inr ⟨mesh, ?_⟩
      simpa [complete] using weights
  · intro entry arrived
    obtain ⟨stored, complete⟩ := mem_arrivedPolicyReplicas.mp arrived
    obtain ⟨old, _, shape, _, weights⟩ := mem_policyToPolicyBroadcast stored
    rw [weights, ← allAtomsArrived_of_shape shape, complete, Bool.true_or]

theorem broadcastInitialWeights_spec (someone : controller.arrivedPolicyReplicas ≠ [])
    (alone : controller.arrivedPolicyReplicas.length ≤ 1 →
      ∀ entry ∈ controller.arrivedPolicyReplicas,
        entry.2.weightsLoadedInViewOfCommand = true) :
    (∃ exn, broadcastInitialWeights controller = .raise controller exn ∧
        ∀ entry ∈ controller.arrivedPolicyReplicas,
          entry.2.weightsLoadedInViewOfCommand = false) ∨
      ∃ synchronized, broadcastInitialWeights controller = .ok synchronized ∧
        Synchronized controller synchronized ∧
        ∃ entry ∈ controller.arrivedPolicyReplicas,
          entry.2.weightsLoadedInViewOfCommand = true := by
  unfold broadcastInitialWeights
  by_cases several : 1 < controller.arrivedPolicyReplicas.length
  · rw [if_pos several]
    cases source : firstLoadedReplica (sortedByStartTime controller.arrivedPolicyReplicas) with
    | none => exact .inl ⟨_, rfl, firstLoadedReplica_eq_none.mp source⟩
    | some srcReplica =>
      refine .inr ⟨_, rfl, synchronized_broadcast srcReplica _ controller, ?_⟩
      by_contra nobody
      have none_loaded : firstLoadedReplica
          (sortedByStartTime controller.arrivedPolicyReplicas) = none := by
        rw [firstLoadedReplica_eq_none]
        intro entry present
        rw [Bool.eq_false_iff]
        exact fun loaded => nobody ⟨entry, present, loaded⟩
      rw [source] at none_loaded
      cases none_loaded
  · rw [if_neg several]
    have loaded := alone (Nat.not_lt.mp several)
    obtain ⟨entry, present⟩ := exists_mem_of_ne_nil _ someone
    refine .inr ⟨controller, rfl, ?_, entry, present, loaded entry present⟩
    exact ⟨SameTrigger.refl controller, rfl,
      fun _ replica stored => ⟨replica, stored, rfl, .inr ⟨rfl, rfl⟩⟩, loaded⟩

def ArrivalAhead (config : Config) (controller : Controller) : Prop :=
  StepAhead config (controller.arrivedPolicyReplicas.length + 1)
    (rebuiltTotalSteps config (controller.arrivedPolicyReplicas.length + 1) controller)
    (rebuiltQueues config (controller.arrivedPolicyReplicas.length + 1)
      controller.policy.rolloutBufferPerRank)
    (activateValidationBeforeTrain config controller)

instance (controller : Controller) : Decidable (ArrivalAhead config controller) :=
  inferInstanceAs (Decidable (StepAhead _ _ _ _ _))

theorem policy_activateValidationBeforeTrain (controller : Controller) :
    (activateValidationBeforeTrain config controller).policy = controller.policy := by
  unfold activateValidationBeforeTrain validationActivateDataloader
  split
  · split <;> rfl
  · rfl

theorem dataFetcher_activateValidationBeforeTrain (same : after.dataFetcher = before.dataFetcher) :
    (activateValidationBeforeTrain config after).dataFetcher =
      (activateValidationBeforeTrain config before).dataFetcher := by
  unfold activateValidationBeforeTrain validationActivateDataloader
  rw [same]
  split
  · split
    · exact same
    · simp
  · exact same

structure Hooked (config : Config) (before : Controller) (name : ReplicaName)
    (hooked : Controller) : Prop where
  newcomer : Newcomer before name hooked
  gate_eq : hooked.dataFetcher.activatedValIter =
    (activateValidationBeforeTrain config before).dataFetcher.activatedValIter

theorem Hooked.arrivalAhead {initDone : Bool} (hook : Hooked config before name hooked)
    (mesh : Rebuilt config { hooked with policy.policyInitDone := initDone } rebuilt)
    (same : SameTrigger rebuilt after)
    (ahead : StepAhead config after.arrivedPolicyReplicas.length after.policy.totalSteps
      after.policy.rolloutBufferPerRank after) : ArrivalAhead config before := by
  have newcomer := hook.newcomer
  let base : Controller := { hooked with policy.policyInitDone := initDone }
  have step : base.policy.currentStep = before.policy.currentStep := newcomer.currentStep_eq
  have total : base.policy.totalSteps = before.policy.totalSteps := newcomer.totalSteps_eq
  have remain : base.policy.remainSamplesNum = before.policy.remainSamplesNum := newcomer.remain_eq
  have queues : base.policy.rolloutBufferPerRank = before.policy.rolloutBufferPerRank :=
    newcomer.queues_eq
  have count : base.arrivedPolicyReplicas.length = before.arrivedPolicyReplicas.length + 1 :=
    newcomer.count_eq
  have finished : base.trainingFinished = before.trainingFinished := by
    rw [trainingFinished_eq, step, total, trainingFinished_eq]
  have rebuiltTotal : ∀ numReplicas, rebuiltTotalSteps config numReplicas base =
      rebuiltTotalSteps config numReplicas before := by
    intro numReplicas
    unfold rebuiltTotalSteps
    rw [finished, total, step, remain]
  rw [same.arrivedCount_eq, same.totalSteps_eq, same.queues_eq, mesh.arrivedCount,
    mesh.totalSteps_eq, mesh.queues_eq, count, queues, rebuiltTotal] at ahead
  apply ahead.transfer
  · rw [same.gate_eq, mesh.gate_eq]
    exact hook.gate_eq
  · rw [same.currentStep_eq, mesh.currentStep_eq, policy_activateValidationBeforeTrain]
    exact step
  · rw [same.buffer_eq, mesh.buffer_eq, policy_activateValidationBeforeTrain]
    exact newcomer.buffer_eq

theorem sameMesh_startColocated (names : List ReplicaName) (controller : Controller) :
    SameMesh controller (startColocated config names controller).state := by
  unfold startColocated
  apply Outcome.forEach_preserves
  · intro name _ current same
    let prepared : Controller := { current with
      policy.remainSamplesNum := current.policy.remainSamplesNum - config.trainBatchPerReplica }
    let sent := dataFetchTrigger name config.trainBatchPerReplica
      prepared.policy.currentStep prepared.policy.totalSteps
      prepared.policy.remainSamplesNum false prepared
    have sentSame : SameMesh controller sent := same.trans ⟨rfl, rfl, rfl⟩
    exact sentSame.trans (sameMesh_setStatus name .running sent)
  · unfold validationActivateDataloader
    dsimp only
    split
    · split
      · exact ⟨rfl, rfl, rfl⟩
      · exact ⟨rfl, rfl, rfl⟩
    · exact ⟨rfl, rfl, rfl⟩

theorem FleetSound.of_synchronized {synchronized : Controller}
    (wellFormed : WellFormed after) (flags : FlagsArrived rebuilt)
    (initDone : rebuilt.policy.policyInitDone = true) (someone : rebuilt.arrivedPolicyReplicas ≠ [])
    (queues : config.ByRank → rebuilt.arrivedPolicyReplicas.length ≤
      rebuilt.policy.rolloutBufferPerRank.length)
    (synchronization : Synchronized rebuilt synchronized) (same : SameMesh synchronized after)
    (sameQueues : after.policy.rolloutBufferPerRank =
      synchronized.policy.rolloutBufferPerRank) : FleetSound config after := by
  have count := synchronization.trigger.arrivedCount_eq
  refine ⟨wellFormed, same.flags (flags.evolve synchronization.evolve), ?_⟩
  intro byRank
  apply RankPhase.meshed
  · rw [same.initDone_eq, synchronization.initDone_eq]
    exact initDone
  · rw [same.arrived_eq]
    apply ne_nil_of_length_pos
    rw [count]
    exact length_pos_of_ne_nil someone
  · rw [same.arrived_eq]
    exact synchronization.loaded
  · rw [same.arrived_eq, sameQueues, count, synchronization.trigger.queues_eq]
    exact queues byRank

theorem Newcomer.rebuilt_phase
    {initDone : Bool} (newcomer : Newcomer before name after) (phase : RankPhase before)
    (notDone : before.policy.policyInitDone = false)
    (mesh : Rebuilt config { after with policy.policyInitDone := initDone } rebuilt)
    (none_loaded : ∀ entry ∈ rebuilt.arrivedPolicyReplicas,
      entry.2.weightsLoadedInViewOfCommand = false) : RankPhase rebuilt := by
  cases phase with
  | ended atEnd positive =>
    obtain ⟨stillAtEnd, stillPositive⟩ := mesh.atEnd
      ((congrArg Nat.cast newcomer.currentStep_eq).trans (atEnd.trans newcomer.totalSteps_eq.symm))
      (newcomer.totalSteps_eq.symm ▸ positive)
    exact .ended stillAtEnd stillPositive
  | waiting uninitialized _ =>
    apply RankPhase.waiting
    · rw [mesh.status_eq]
      exact newcomer.uninitialized uninitialized
    · exact fun _ => none_loaded
  | meshed initDone _ _ _ =>
    rw [notDone] at initDone
    cases initDone

/-- The first mesh: nobody has weights and everybody waits, or all become ready. -/
theorem completePolicyInit_hooked
    (hook : Hooked config before name hooked) (notDone : before.policy.policyInitDone = false)
    (phase : config.ByRank → RankPhase before)
    (notResumed : before.arrivedPolicyReplicas = [] → weightsAvailable before = true) :
    let result := (completePolicyInit config hooked).state
    FleetSound config result ∧ (TriggerEnabled config result →
      weightsAvailable before = true ∧ config.mode ≠ .colocated ∧
        ArrivalAhead config before) := by
  intro result
  let base : Controller := { hooked with policy.policyInitDone := true }
  let rebuilt := triggerRebuildPolicyMesh config base
  have newcomer := hook.newcomer
  have mesh : Rebuilt config base rebuilt := rebuilt_triggerRebuildPolicyMesh base
  have baseWell : WellFormed base :=
    ⟨newcomer.wellFormed.shapesValid, newcomer.wellFormed.statusKeys⟩
  have rebuiltWell : WellFormed rebuilt := mesh.wellFormed baseWell
  have rebuiltFlags : FlagsArrived rebuilt :=
    @FlagsArrived.evolve base rebuilt newcomer.flags mesh.evolve
  have someone : rebuilt.arrivedPolicyReplicas ≠ [] := by
    apply ne_nil_of_length_pos
    rw [mesh.arrivedCount]
    exact length_pos_of_ne_nil newcomer.someone
  have backwards : ∀ entry ∈ rebuilt.arrivedPolicyReplicas,
      ∃ old ∈ hooked.arrivedPolicyReplicas, old.1 = entry.1 ∧
        entry.2.weightsLoadedInViewOfCommand = old.2.weightsLoadedInViewOfCommand :=
    fun entry present => mesh.loaded present
  have alone : rebuilt.arrivedPolicyReplicas.length ≤ 1 →
      ∀ entry ∈ rebuilt.arrivedPolicyReplicas,
        entry.2.weightsLoadedInViewOfCommand = true := by
    intro atMostOne entry present
    have nobody : before.arrivedPolicyReplicas = [] := by
      have count := mesh.arrivedCount.symm.trans_le atMostOne
      rw [show base.arrivedPolicyReplicas.length = _ from newcomer.count_eq] at count
      exact length_eq_zero_iff.mp (by omega)
    obtain ⟨old, oldPresent, _, weights⟩ := backwards entry present
    have first := notResumed nobody
    simp only [weightsAvailable, nobody, if_true, Bool.not_eq_true'] at first
    rw [weights]
    by_cases same : old.1 = name
    · exact (newcomer.initialized old oldPresent same).mpr ⟨nobody, first⟩
    · have earlier := (newcomer.others old same).mp oldPresent
      rw [nobody] at earlier
      cases earlier
  have unfolded : completePolicyInit config hooked =
      (broadcastInitialWeights rebuilt).andThen fun synchronized =>
        (Outcome.forEach (fun name => setStatus name .ready)
          synchronized.arrivedPolicyNames synchronized).andThen fun ready =>
            if config.mode = .colocated then
              startColocated config ready.arrivedPolicyNames ready
            else .ok ready := rfl
  rcases broadcastInitialWeights_spec someone alone with
    ⟨exn, raised, none_loaded⟩ | ⟨synchronized, sent, synchronization, entry, present, loaded⟩
  · have stays : result = rebuilt := by
      rw [show result = (completePolicyInit config hooked).state from rfl, unfolded, raised]
      rfl
    rw [stays]
    refine ⟨⟨rebuiltWell, rebuiltFlags, fun byRank =>
      hook.newcomer.rebuilt_phase (phase byRank) notDone mesh none_loaded⟩, ?_⟩
    · intro enabled
      have waits : rebuilt.policy.status.get? name = some .uninitialized := by
        rw [mesh.status_eq]
        exact newcomer.found
      exact absurd enabled (not_enabled_of_uninitialized waits)
  · have available : weightsAvailable before = true := by
      obtain ⟨old, oldPresent, _, weights⟩ := backwards entry present
      exact newcomer.someLoaded_iff.mp ⟨old, oldPresent, weights ▸ loaded⟩
    have syncQuiet : WellFormed synchronized := synchronization.trigger.wellFormed rebuiltWell
    have known : ∀ other ∈ synchronized.arrivedPolicyNames,
        other ∈ synchronized.policy.status.keys :=
      fun other arrived => (syncQuiet.statusKeys other).mpr arrived
    let ready : Controller := { synchronized with
      policy.status := setAllStatus synchronized.arrivedPolicyNames .ready
        synchronized.policy.status }
    have readyWell : WellFormed ready :=
      (Advance.readied synchronized.arrivedPolicyNames known).wellFormed syncQuiet
    have queuesLong : config.ByRank → rebuilt.arrivedPolicyReplicas.length ≤
        rebuilt.policy.rolloutBufferPerRank.length := by
      intro byRank
      rw [mesh.arrivedCount, mesh.queues_eq, length_rebuiltQueues byRank]
    have readySound : FleetSound config ready :=
      FleetSound.of_synchronized readyWell rebuiltFlags mesh.initDone_eq someone queuesLong
        synchronization ⟨rfl, rfl, rfl⟩ rfl
    have reached : completePolicyInit config hooked =
        if config.mode = .colocated then
          startColocated config ready.arrivedPolicyNames ready
        else .ok ready := by
      rw [unfolded, sent, Outcome.ok_andThen, forEach_setStatus known (by decide),
        Outcome.ok_andThen]
    by_cases colocated : config.mode = .colocated
    · rw [if_pos colocated] at reached
      have issued := @startColocated_issued config ready readyWell
      have readySomeone : ready.anyArrived := by
        apply anyArrived_of_replicas
        apply ne_nil_of_length_pos
        rw [show ready.arrivedPolicyReplicas.length = _ from
          synchronization.trigger.arrivedCount_eq]
        exact length_pos_of_ne_nil someone
      rw [show result = _ from congrArg Outcome.state reached]
      refine ⟨⟨?_, ?_, ?_⟩, ?_⟩
      · exact (startColocated_progress readyWell readySomeone).wellFormed readyWell
      · exact (sameMesh_startColocated _ ready).flags readySound.flags
      · exact fun byRank => absurd colocated byRank.1
      · exact fun enabled => absurd enabled (issued.not_enabled readyWell readySomeone)
    · rw [if_neg colocated] at reached
      rw [show result = _ from congrArg Outcome.state reached]
      refine ⟨readySound, fun enabled => ⟨available, colocated, ?_⟩⟩
      obtain ⟨ahead, _⟩ := triggerEnabled_iff_ahead.mp enabled
      refine hook.arrivalAhead mesh synchronization.trigger ?_
      exact ⟨ahead.noValidation, ahead.someone, ahead.notFinished, ahead.enough⟩

theorem mem_policyToPolicyUnicast {dstReplica : ReplicaName}
    (stored : (name, replica) ∈ (policyToPolicyUnicastTrigger srcReplica dstReplica totalSteps
      controller).policy.policyReplicas.entries) :
    ∃ old, (name, old) ∈ controller.policy.policyReplicas.entries ∧
      replica.shape = old.shape ∧ replica.inMesh = old.inMesh ∧
      ((name = dstReplica ∧ replica.weightsLoadedInViewOfCommand = true) ∨
        (name ≠ dstReplica ∧ replica = old)) := by
  obtain ⟨old, found, changed⟩ := Dict.mem_entries_mapValues.mp stored
  refine ⟨old, found, ?_⟩
  by_cases same : name = dstReplica
  · rw [if_pos same] at changed
    rw [← changed]
    exact ⟨rfl, rfl, .inl ⟨same, rfl⟩⟩
  · rw [if_neg same] at changed
    rw [← changed]
    exact ⟨rfl, rfl, .inr ⟨same, rfl⟩⟩

/-- The newcomer is initialized from a replica that has weights. -/
theorem Newcomer.scaled_sound {scaled : Controller} (newcomer : Newcomer before name after)
    (phase : config.ByRank → RankPhase before) (initDone : before.policy.policyInitDone = true)
    (available : weightsAvailable before = true) (mesh : Rebuilt config after rebuilt)
    (sent : scaled = { policyToPolicyUnicastTrigger srcReplica name totalSteps rebuilt with
      policy.status := rebuilt.policy.status.set name .ready }) :
    FleetSound config scaled := by
  let unicast := policyToPolicyUnicastTrigger srcReplica name totalSteps rebuilt
  have rebuiltWell := mesh.wellFormed newcomer.wellFormed
  have rebuiltFlags := newcomer.flags.evolve mesh.evolve
  have arrivedRebuilt : name ∈ rebuilt.arrivedPolicyNames := by
    rw [← rebuiltWell.statusKeys, mesh.status_eq]
    exact Dict.mem_keys_iff_get?.mpr ⟨_, newcomer.found⟩
  have quiet : Quiet rebuilt unicast := quiet_parts.policyToPolicyUnicast _ _ _ _
  have unicastWell : WellFormed unicast := quiet.wellFormed rebuiltWell
  have count : scaled.arrivedPolicyReplicas.length = rebuilt.arrivedPolicyReplicas.length := by
    rw [sent]
    exact quiet.arrivedCount_eq
  have known : name ∈ unicast.policy.status.keys := (rebuiltWell.statusKeys name).mpr arrivedRebuilt
  have readied : Advance unicast { unicast with
      policy.status := setAllStatus [name] .ready unicast.policy.status } :=
    .readied [name] (by simpa using known)
  have flags : FlagsArrived unicast := by
    rintro ⟨other, replica⟩ stored set
    obtain ⟨old, found, shape, mesh, ⟨same, _⟩ | ⟨_, unchanged⟩⟩ := mem_policyToPolicyUnicast stored
    · rw [allAtomsArrived_of_shape shape]
      rw [← mem_sortedPolicyNames, mem_sortedPolicyNames_iff_arrived (same ▸ found)]
        at arrivedRebuilt
      exact arrivedRebuilt
    · rw [unchanged] at set ⊢
      exact rebuiltFlags (other, old) found set
  refine ⟨?_, ?_, ?_⟩
  · rw [sent]
    exact readied.wellFormed unicastWell
  · rw [sent]
    exact flags
  · intro byRank
    have loaded : (∀ entry ∈ before.arrivedPolicyReplicas,
        entry.2.weightsLoadedInViewOfCommand = true) →
        ∀ entry ∈ scaled.arrivedPolicyReplicas,
          entry.2.weightsLoadedInViewOfCommand = true := by
      rintro allLoaded ⟨other, replica⟩ present
      rw [sent] at present
      obtain ⟨stored, complete⟩ := mem_arrivedPolicyReplicas.mp present
      obtain ⟨old, found, shape, _, ⟨_, weights⟩ | ⟨different, unchanged⟩⟩ :=
        mem_policyToPolicyUnicast stored
      · exact weights
      · rw [unchanged] at complete ⊢
        obtain ⟨earlier, earlierPresent, sameName, weights⟩ :=
          mesh.loaded (mem_arrivedPolicyReplicas.mpr ⟨found, complete⟩)
        rw [weights]
        apply allLoaded
        refine (newcomer.others earlier ?_).mp earlierPresent
        rw [sameName]
        exact different
    have meshed : (∀ entry ∈ before.arrivedPolicyReplicas,
        entry.2.weightsLoadedInViewOfCommand = true) → RankPhase scaled := by
      intro allLoaded
      apply RankPhase.meshed _ _ (loaded allLoaded)
      · rw [count, sent]
        show rebuilt.arrivedPolicyReplicas.length ≤ rebuilt.policy.rolloutBufferPerRank.length
        rw [mesh.arrivedCount, mesh.queues_eq, length_rebuiltQueues byRank]
      · rw [sent]
        exact mesh.initDone_eq.trans (newcomer.initDone_eq.trans initDone)
      · apply ne_nil_of_length_pos
        rw [count, mesh.arrivedCount]
        exact length_pos_of_ne_nil newcomer.someone
    cases phase byRank with
    | ended atEnd positive =>
      rw [← newcomer.currentStep_eq, ← newcomer.totalSteps_eq] at atEnd
      rw [← newcomer.totalSteps_eq] at positive
      obtain ⟨stillAtEnd, stillPositive⟩ := mesh.atEnd atEnd positive
      rw [sent]
      exact .ended stillAtEnd stillPositive
    | waiting _ unloaded =>
      apply meshed
      intro entry present
      have none_available : weightsAvailable before = false := by
        unfold weightsAvailable
        rw [if_neg (ne_nil_of_mem present), any_eq_false]
        intro other otherPresent
        simp [unloaded initDone other otherPresent]
      rw [available] at none_available
      cases none_available
    | meshed _ _ allLoaded _ => exact meshed allLoaded

/-- A replica that joins later: nobody has weights and it waits, or it becomes ready. -/
theorem scalePolicyMesh_hooked
    (hook : Hooked config before name hooked) (initDone : before.policy.policyInitDone = true)
    (phase : config.ByRank → RankPhase before) :
    let result := (scalePolicyMesh config name hooked).state
    FleetSound config result ∧ (TriggerEnabled config result →
      weightsAvailable before = true ∧ OthersIdle name before ∧
        ArrivalAhead config before) := by
  intro result
  have newcomer := hook.newcomer
  have outside := newcomer.outside
  cases source : firstLoadedReplica (sortedByStartTime hooked.arrivedPolicyReplicas) with
  | none =>
    have stays : result = hooked := by
      show (scalePolicyMesh config name hooked).state = _
      unfold scalePolicyMesh
      rw [if_neg (by simp [outside]), source]
      rfl
    have unavailable : weightsAvailable before = false := by
      rw [Bool.eq_false_iff]
      intro available
      obtain ⟨entry, present, loaded⟩ := newcomer.someLoaded_iff.mpr available
      rw [firstLoadedReplica_eq_none.mp source entry present] at loaded
      cases loaded
    have missed := newcomer.nothingMissed phase fun _ => unavailable
    rw [stays]
    exact ⟨missed.sound, fun enabled => absurd enabled missed.disabled⟩
  | some srcReplica =>
    let rebuilt := triggerRebuildPolicyMesh config hooked
    have mesh : Rebuilt config hooked rebuilt := rebuilt_triggerRebuildPolicyMesh hooked
    let unicast := policyToPolicyUnicastTrigger srcReplica name rebuilt.policy.totalSteps rebuilt
    let scaled : Controller := { unicast with
      policy.status := rebuilt.policy.status.set name .ready }
    have available : weightsAvailable before = true := by
      apply newcomer.someLoaded_iff.mp
      by_contra nobody
      have none_loaded : firstLoadedReplica
          (sortedByStartTime hooked.arrivedPolicyReplicas) = none := by
        rw [firstLoadedReplica_eq_none]
        intro entry present
        rw [Bool.eq_false_iff]
        exact fun loaded => nobody ⟨entry, present, loaded⟩
      rw [source] at none_loaded
      cases none_loaded
    have known : name ∈ unicast.policy.status.keys := by
      have stillKnown : name ∈ rebuilt.policy.status.keys := by
        rw [mesh.status_eq]
        exact Dict.mem_keys_iff_get?.mpr ⟨_, newcomer.found⟩
      exact stillKnown
    have reached : result = scaled := by
      show (scalePolicyMesh config name hooked).state = _
      unfold scalePolicyMesh
      rw [if_neg (by simp [outside]), source]
      exact congrArg Outcome.state (setStatus_of_mem known (by decide))
    rw [reached]
    refine ⟨newcomer.scaled_sound phase initDone available mesh rfl, ?_⟩
    intro enabled
    obtain ⟨ahead, idle⟩ := triggerEnabled_iff_ahead.mp enabled
    refine ⟨available, ?_, ?_⟩
    · refine othersIdle_of_idle ?_ idle
      intro other status different found
      show (rebuilt.policy.status.set name .ready).get? other = _
      rw [Dict.get?_set, if_neg different, mesh.status_eq, newcomer.status_eq, Dict.get?_set,
        if_neg different]
      exact found
    · have sameMesh : Rebuilt config
          { hooked with policy.policyInitDone := hooked.policy.policyInitDone } rebuilt := mesh
      refine hook.arrivalAhead sameMesh (sameTrigger_policyToPolicyUnicast srcReplica name
        rebuilt.policy.totalSteps rebuilt) ?_
      exact ⟨ahead.noValidation, ahead.someone, ahead.notFinished, ahead.enough⟩

def JoinsIdle (config : Config) (name : ReplicaName) (replica : Replica)
    (controller : Controller) : Prop :=
  weightsAvailable controller = true ∧
    if controller.policy.policyInitDone then OthersIdle name controller
    else config.mode ≠ .colocated ∧
      (storePolicyReplica name replica controller).policy.nInitReplicas ≤
        controller.arrivedPolicyReplicas.length + 1

instance (name : ReplicaName) (replica : Replica) (controller : Controller) :
    Decidable (JoinsIdle config name replica controller) :=
  inferInstanceAs (Decidable (weightsAvailable controller = true ∧
    if controller.policy.policyInitDone then OthersIdle name controller
    else config.mode ≠ .colocated ∧
      (storePolicyReplica name replica controller).policy.nInitReplicas ≤
        controller.arrivedPolicyReplicas.length + 1))

theorem policyPostRegisterHook_newcomer {arrived : Controller}
    (newcomer : Newcomer before name arrived)
    (dataFetcher : arrived.dataFetcher = before.dataFetcher) (nInit : arrived.policy.nInitReplicas =
      (storePolicyReplica name replica before).policy.nInitReplicas)
    (phase : config.ByRank → RankPhase before)
    (notResumed : before.arrivedPolicyReplicas = [] → weightsAvailable before = true) :
    let result := (policyPostRegisterHook config name arrived).state
    FleetSound config result ∧ (TriggerEnabled config result →
      JoinsIdle config name replica before ∧ ArrivalAhead config before) := by
  intro result
  let gated := activateValidationBeforeTrain config arrived
  have samePolicy : gated.policy = arrived.policy := policy_activateValidationBeforeTrain arrived
  have gatedNewcomer : Newcomer before name gated := newcomer.of_policy samePolicy
  have hook : Hooked config before name gated := by
    refine ⟨gatedNewcomer, ?_⟩
    show (activateValidationBeforeTrain config arrived).dataFetcher.activatedValIter = _
    rw [dataFetcher_activateValidationBeforeTrain dataFetcher]
  have required : gated.policy.nInitReplicas =
      (storePolicyReplica name replica before).policy.nInitReplicas := by
    rw [samePolicy]
    exact nInit
  have unfolded : result = (if !gated.policy.policyInitDone then
      if gated.policy.nInitReplicas ≤ gated.arrivedPolicyReplicas.length then
        completePolicyInit config gated
      else .ok gated
    else scalePolicyMesh config name gated).state := rfl
  rw [gatedNewcomer.initDone_eq, required, gatedNewcomer.count_eq] at unfolded
  rw [unfolded]
  cases initDone : before.policy.policyInitDone with
  | true =>
    obtain ⟨sound, frees⟩ := scalePolicyMesh_hooked hook initDone phase
    refine ⟨sound, fun enabled => ?_⟩
    obtain ⟨available, idle, ahead⟩ := frees enabled
    refine ⟨⟨available, ?_⟩, ahead⟩
    rw [initDone]
    exact idle
  | false =>
    by_cases required : (storePolicyReplica name replica before).policy.nInitReplicas ≤
        before.arrivedPolicyReplicas.length + 1
    · obtain ⟨sound, frees⟩ := completePolicyInit_hooked hook initDone phase notResumed
      simp only [Bool.not_false, if_true, if_pos required]
      refine ⟨sound, fun enabled => ?_⟩
      obtain ⟨available, separate, ahead⟩ := frees enabled
      refine ⟨⟨available, ?_⟩, ahead⟩
      rw [initDone]
      exact ⟨separate, required⟩
    · have missed : NothingMissed config gated := by
        apply gatedNewcomer.nothingMissed phase
        rw [initDone]
        intro contrary
        cases contrary
      simp only [Bool.not_false, if_true, if_neg required]
      exact ⟨missed.sound, fun enabled => absurd enabled missed.disabled⟩

/-- The atom that completes a replica makes it a newcomer.  The hook runs unless the first
replica arrives for a second time. -/
theorem FleetSound.registerPolicy_newcomer {controller : Controller}
    (sound : FleetSound config controller) {atom : Atom} {now : Nat} {replica : Replica}
    (arrive : arriveReplica atom controller.policy.policyReplicas = .ok replica)
    (complete : replica.allAtomsArrived = true) :
    let result := (registerPolicy config atom now controller).state
    ∃ arrived, Newcomer controller atom.replicaName arrived ∧
      ((result = arrived ∧ weightsAvailable controller = false) ∨
        (result = (policyPostRegisterHook config atom.replicaName arrived).state ∧
          arrived.dataFetcher = controller.dataFetcher ∧
          arrived.policy.nInitReplicas = (storePolicyReplica atom.replicaName replica
            controller).policy.nInitReplicas ∧
          (controller.arrivedPolicyReplicas = [] → weightsAvailable controller = true))) := by
  intro result
  have wellFormed := sound.wellFormed
  have flagless : (replica.startAt now).inMesh = replica.inMesh ∧
      (replica.startAt now).weightsLoadedInViewOfCommand =
        replica.weightsLoadedInViewOfCommand := by
    unfold Replica.startAt
    split <;> exact ⟨rfl, rfl⟩
  obtain ⟨outside, unloaded⟩ := arriveReplica_flags wellFormed sound.flags arrive
  have arriving : Arriving controller atom.replicaName (replica.startAt now) := by
    refine ⟨wellFormed, sound.flags, arriveReplica_notArrived wellFormed arrive, ?_, ?_,
      flagless.1.trans outside, flagless.2.trans unloaded⟩
    · simpa using arriveReplica_shapeValid wellFormed arrive
    · rw [← shapeArrived_shape, Replica.shape_startAt]
      exact complete
  let arrived := controller.withArrived atom.replicaName (replica.startAt now)
  have sameSize : (storePolicyReplica atom.replicaName (replica.startAt now)
      controller).policy.nInitReplicas =
      (storePolicyReplica atom.replicaName replica controller).policy.nInitReplicas := by
    simp only [storePolicyReplica, Dict.size_set]
  have reached : result = ((if arrived.arrivedPolicyReplicas.length = 1 then
      initializeWeights atom.replicaName arrived else .ok arrived).andThen
        (policyPostRegisterHook config atom.replicaName)).state :=
    congrArg Outcome.state (Dispatcher.registerPolicy_arrived wellFormed arrive complete)
  rw [arriving.count_eq] at reached
  rw [reached]
  by_cases nobody : controller.arrivedPolicyReplicas = []
  · rw [if_pos (by simp [nobody])]
    cases first : controller.policy.firstPolicyReplicaArrived with
    | true =>
      have raises : initializeWeights atom.replicaName arrived = .raise arrived
          (.assertionError
            "Expect only one policy replica to load weight during training process") := by
        unfold initializeWeights
        exact if_pos first
      rw [raises]
      refine ⟨arrived, arriving.newcomer (by simp [first]), .inl ⟨rfl, ?_⟩⟩
      simp [weightsAvailable, nobody, first]
    | false =>
      obtain ⟨fine, samePolicy, sameFetcher⟩ :=
        @policy_initializeWeights atom.replicaName arrived first
      rcases Outcome.andThen_cases (initializeWeights atom.replicaName arrived)
        (policyPostRegisterHook config atom.replicaName) with
        ⟨⟨exn, raised⟩, _⟩ | ⟨_, continued⟩
      · rw [fine] at raised
        cases raised
      · rw [continued]
        refine ⟨_, (arriving.newcomer_resumed nobody first).of_policy samePolicy,
          .inr ⟨rfl, sameFetcher, ?_, fun _ => ?_⟩⟩
        · rw [samePolicy]
          exact sameSize
        · simp [weightsAvailable, nobody, first]
  · have several : ¬ controller.arrivedPolicyReplicas.length + 1 = 1 := by
      simpa using nobody
    rw [if_neg several, Outcome.ok_andThen]
    exact ⟨arrived, arriving.newcomer fun contrary => nobody contrary.1,
      .inr ⟨rfl, rfl, sameSize, fun contrary => absurd contrary nobody⟩⟩

/-- The atom that completes a replica keeps the fleet sound, and enables the trigger only
when the replica becomes ready among idle ones with a step ahead. -/
theorem FleetSound.registerPolicy_arrived {controller : Controller}
    (sound : FleetSound config controller) {atom : Atom} {now : Nat} {replica : Replica}
    (arrive : arriveReplica atom controller.policy.policyReplicas = .ok replica)
    (complete : replica.allAtomsArrived = true) :
    let result := (registerPolicy config atom now controller).state
    FleetSound config result ∧ (TriggerEnabled config result →
      JoinsIdle config atom.replicaName replica controller ∧
        ArrivalAhead config controller) := by
  intro result
  obtain ⟨arrived, newcomer, ⟨stays, unavailable⟩ | ⟨hooked, sameFetcher, nInit, available⟩⟩ :=
    @FleetSound.registerPolicy_newcomer config _ sound atom now replica arrive complete
  · have missed : NothingMissed config arrived :=
      newcomer.nothingMissed sound.phase fun _ => unavailable
    rw [show result = _ from stays]
    exact ⟨missed.sound, fun enabled => absurd enabled missed.disabled⟩
  · rw [show result = _ from hooked]
    exact policyPostRegisterHook_newcomer newcomer sameFetcher nInit sound.phase available

end CosmosRl.Dispatcher
