import Mathlib.Data.List.Perm.Subperm
import CosmosRl.Dispatcher.Handlers

/-!
Policy replicas joining, leaving and acknowledging, and prompts being handed
out: the handlers that do more than make progress.
-/

namespace CosmosRl.Dispatcher

open CosmosRl.Foundation List

variable {config : Config}

variable {controller : Controller} {name : ReplicaName} {replica : Replica} {atom : Atom}
  {other : ReplicaName}

theorem mem_arrivedPolicyNames :
    name ∈ controller.arrivedPolicyNames ↔
      ∃ replica, controller.policy.policyReplicas.get? name = some replica ∧
        replica.allAtomsArrived = true := by
  simp only [Controller.arrivedPolicyNames, Controller.arrivedPolicyReplicas,
    allAtomsArrivedReplicas, mem_map, mem_filter]
  constructor
  · rintro ⟨⟨key, replica⟩, ⟨stored, arrived⟩, rfl⟩
    exact ⟨replica, Dict.get?_eq_some_iff.mpr stored, arrived⟩
  · rintro ⟨replica, found, arrived⟩
    exact ⟨(name, replica), ⟨Dict.get?_eq_some_iff.mp found, arrived⟩, rfl⟩

theorem mem_shapes {replicas : Dict ReplicaName Replica} {shape : List Nat × GroupSize} :
    (name, shape) ∈ shapes replicas ↔
      ∃ replica, replicas.get? name = some replica ∧ replica.shape = shape := by
  simp only [shapes, mem_map]
  constructor
  · rintro ⟨⟨key, replica⟩, stored, equality⟩
    cases equality
    exact ⟨replica, Dict.get?_eq_some_iff.mpr stored, rfl⟩
  · rintro ⟨replica, found, rfl⟩
    exact ⟨(name, replica), Dict.get?_eq_some_iff.mp found, rfl⟩

theorem WellFormed.shapeValid (wellFormed : WellFormed controller)
    (found : controller.policy.policyReplicas.get? name = some replica) :
    ShapeValid replica.shape :=
  wellFormed.shapesValid (name, replica.shape) (mem_shapes.mpr ⟨replica, found, rfl⟩)

theorem WellFormed.arrivedCount (wellFormed : WellFormed controller) :
    controller.policy.status.keys.Perm controller.arrivedPolicyNames := by
  rw [perm_ext_iff_of_nodup controller.policy.status.nodup_keys]
  · exact wellFormed.statusKeys
  · exact controller.policy.policyReplicas.nodup_keys.sublist
      (List.Sublist.map Prod.fst filter_sublist)

theorem mem_sortedPolicyNames :
    name ∈ controller.sortedPolicyNames ↔ name ∈ controller.arrivedPolicyNames := by
  simp only [Controller.sortedPolicyNames, Controller.arrivedPolicyNames, mem_map,
    mem_sortedByStartTime]

def Controller.withoutReplica (name : ReplicaName) (controller : Controller) :
    Controller :=
  { controller with
    policy.policyReplicas := controller.policy.policyReplicas.erase name
    policy.status := controller.policy.status.erase name }

theorem erase_of_notMem {Value : Type} {dict : Dict ReplicaName Value} (absent : name ∉ dict.keys) :
    dict.erase name = dict := by
  apply Dict.ext
  show dict.entries.filter _ = dict.entries
  rw [filter_eq_self]
  intro entry membership
  simp only [decide_eq_true_eq]
  intro same
  exact absent (same ▸ mem_map_of_mem membership)

theorem unregisterPolicy_spec {name : ReplicaName} {controller : Controller}
    (registered : name ∈ controller.policy.policyReplicas.keys) :
    Quiet (controller.withoutReplica name)
      (unregisterPolicy config name controller).state := by
  obtain ⟨replica, found⟩ := Dict.mem_keys_iff_get?.mp registered
  unfold unregisterPolicy
  rw [found]
  dsimp only
  split
  · have removed : Quiet (controller.withoutReplica name) { controller with
        policy.policyReplicas := controller.policy.policyReplicas.erase name
        policy.status := controller.policy.status.erase name
        policy.replicaScalingLog := controller.policy.replicaScalingLog ++ [name] } :=
      ⟨rfl, rfl, rfl, rfl, rfl⟩
    split
    · exact removed
    · split
      · exact removed.trans (quiet_triggerRebuildPolicyMesh _)
      · exact removed
  · rename_i absent
    refine ⟨rfl, ?_, rfl, rfl, rfl⟩
    exact (erase_of_notMem absent).symm

theorem mem_arrived_withoutReplica :
    other ∈ (controller.withoutReplica name).arrivedPolicyNames ↔
      other ∈ controller.arrivedPolicyNames ∧ other ≠ name := by
  simp only [mem_arrivedPolicyNames, Controller.withoutReplica, Dict.get?_erase]
  by_cases same : other = name <;> simp [same]

theorem WellFormed.withoutReplica (wellFormed : WellFormed controller) (name : ReplicaName) :
    WellFormed (controller.withoutReplica name) := by
  refine ⟨?_, ?_⟩
  · rintro ⟨other, shape⟩ membership
    obtain ⟨replica, found, rfl⟩ := mem_shapes.mp membership
    rw [Controller.withoutReplica, Dict.get?_erase] at found
    split at found
    · cases found
    · exact wellFormed.shapeValid found
  · intro other
    rw [mem_arrived_withoutReplica, ← wellFormed.statusKeys]
    exact Dict.mem_keys_erase

theorem arrive_of_arrived (valid : ShapeValid replica.shape)
    (arrived : replica.allAtomsArrived = true) (atom : Atom) :
    ∃ exn, replica.arrive atom = .error exn := by
  unfold Replica.arrive
  by_cases known : atom.globalRank ∈ replica.atoms
  · exact ⟨_, if_pos known⟩
  · by_cases sameSize : atom.groupSize = replica.groupSize
    · exfalso
      -- the ranks below the size are all taken
      have full : replica.atoms.length = replica.groupSize.prod := by
        simpa [Replica.allAtomsArrived] using arrived
      have subset : replica.atoms ⊆ List.range replica.groupSize.prod := by
        intro rank membership
        exact mem_range.mpr (valid.2 rank membership)
      have everyRank : replica.atoms.Perm (List.range replica.groupSize.prod) :=
        (subperm_of_subset valid.1 subset).perm_of_length_le
        (by rw [length_range]; exact full.ge)
      apply known
      rw [everyRank.mem_iff, mem_range, ← sameSize]
      exact atom.rank_lt
    · exact ⟨_, by rw [if_neg known, if_pos sameSize]⟩

theorem arrive_shapeValid {arrived : Replica}
    (valid : ShapeValid replica.shape) (arrive : replica.arrive atom = .ok arrived) :
    ShapeValid arrived.shape := by
  unfold Replica.arrive at arrive
  split at arrive
  · cases arrive
  · rename_i fresh
    split at arrive
    · cases arrive
    · rename_i sameSize
      cases arrive
      have sizes : atom.groupSize = replica.groupSize := by simpa using sameSize
      refine ⟨?_, ?_⟩
      · show (replica.atoms ++ [atom.globalRank]).Nodup
        rw [nodup_append]
        refine ⟨valid.1, by simp, ?_⟩
        intro first inside second last equality
        rw [mem_singleton] at last
        exact fresh (by rw [← last, ← equality]; exact inside)
      · intro rank membership
        rcases mem_append.mp membership with earlier | last
        · exact valid.2 rank earlier
        · rw [mem_singleton] at last
          rw [last]
          show atom.globalRank < replica.groupSize.prod
          rw [← sizes]
          exact atom.rank_lt

theorem arriveReplica_shapeValid (wellFormed : WellFormed controller)
    (arrive : arriveReplica atom controller.policy.policyReplicas = .ok replica) :
    ShapeValid replica.shape := by
  unfold arriveReplica at arrive
  split at arrive
  · cases arrive
    refine ⟨by simp [Replica.shape, Replica.ofAtom], ?_⟩
    intro rank membership
    have same : rank = atom.globalRank := by
      simpa [Replica.shape, Replica.ofAtom] using membership
    rw [same]
    exact atom.rank_lt
  · rename_i stored found
    exact arrive_shapeValid (wellFormed.shapeValid found) arrive

theorem arriveReplica_notArrived (wellFormed : WellFormed controller)
    (arrive : arriveReplica atom controller.policy.policyReplicas = .ok replica) :
    atom.replicaName ∉ controller.arrivedPolicyNames := by
  intro membership
  obtain ⟨stored, found, arrived⟩ := mem_arrivedPolicyNames.mp membership
  unfold arriveReplica at arrive
  rw [found] at arrive
  obtain ⟨exn, failed⟩ := arrive_of_arrived (wellFormed.shapeValid found) arrived atom
  dsimp only at arrive
  rw [failed] at arrive
  cases arrive

theorem shapeArrived_shape (replica : Replica) :
    shapeArrived replica.shape = replica.allAtomsArrived := rfl

@[simp]
theorem Replica.shape_startAt (now : Nat) (replica : Replica) :
    (replica.startAt now).shape = replica.shape := by
  unfold Replica.startAt
  split <;> rfl

theorem mem_arrived_store :
    other ∈ (storePolicyReplica name replica controller).arrivedPolicyNames ↔
      (other = name ∧ replica.allAtomsArrived = true) ∨
        (other ≠ name ∧ other ∈ controller.arrivedPolicyNames) := by
  simp only [mem_arrivedPolicyNames, storePolicyReplica, Dict.get?_set]
  by_cases same : other = name <;> simp [same]

def Controller.withArrived (name : ReplicaName) (replica : Replica)
    (controller : Controller) : Controller :=
  let stored := storePolicyReplica name replica controller
  { stored with policy.status := stored.policy.status.set name .uninitialized }

theorem shapesValid_store (wellFormed : WellFormed controller) (valid : ShapeValid replica.shape) :
    ∀ entry ∈ shapes (storePolicyReplica name replica controller).policy.policyReplicas,
      ShapeValid entry.2 := by
  rintro ⟨other, shape⟩ membership
  obtain ⟨stored, found, rfl⟩ := mem_shapes.mp membership
  rw [storePolicyReplica, Dict.get?_set] at found
  split at found
  · cases found
    exact valid
  · exact wellFormed.shapeValid found

theorem WellFormed.store (wellFormed : WellFormed controller) (valid : ShapeValid replica.shape)
    (notArrived : name ∉ controller.arrivedPolicyNames)
    (incomplete : replica.allAtomsArrived = false) :
    WellFormed (storePolicyReplica name replica controller) := by
  refine ⟨shapesValid_store wellFormed valid, ?_⟩
  intro other
  rw [mem_arrived_store]
  show other ∈ controller.policy.status.keys ↔ _
  rw [wellFormed.statusKeys]
  constructor
  · intro arrived
    refine .inr ⟨?_, arrived⟩
    rintro rfl
    exact notArrived arrived
  · rintro (⟨_, complete⟩ | ⟨_, arrived⟩)
    · simp [incomplete] at complete
    · exact arrived

theorem WellFormed.withArrived {controller : Controller}
    (wellFormed : WellFormed controller) {name : ReplicaName} {replica : Replica}
    (valid : ShapeValid replica.shape) (complete : replica.allAtomsArrived = true) :
    WellFormed (controller.withArrived name replica) := by
  refine ⟨shapesValid_store wellFormed valid, ?_⟩
  intro other
  show other ∈ (controller.policy.status.set name .uninitialized).keys ↔
    other ∈ (storePolicyReplica name replica controller).arrivedPolicyNames
  rw [mem_arrived_store, Dict.mem_keys_set, wellFormed.statusKeys]
  by_cases same : other = name
  · simp [same, complete]
  · simp [same]

theorem forEach_setReady {names : List ReplicaName} {controller : Controller}
    (present : ∀ name ∈ names, name ∈ controller.policy.status.keys) :
    Progress controller
      (Outcome.forEach (fun name => setStatus name .ready) names controller).state := by
  rw [forEach_setStatus present (by decide)]
  exact .of_advance (.readied names present)

/-- In colocated mode the first step is issued. -/
theorem startColocated_issued {controller : Controller} (wellFormed : WellFormed controller) :
    Issued controller
      (startColocated config controller.arrivedPolicyNames controller).state := by
  have gated : Quiet controller.advanceStep
      (if isValidationStep config controller.advanceStep.policy.currentStep
          controller.advanceStep.policy.totalSteps then
        validationActivateDataloader config controller.advanceStep.policy.currentStep
          controller.advanceStep
      else controller.advanceStep) := by
    split
    · exact quiet_parts.validationActivateDataloader _ _
    · exact Quiet.refl _
  have present : ∀ name ∈ controller.arrivedPolicyNames, name ∈
      (if isValidationStep config controller.advanceStep.policy.currentStep
          controller.advanceStep.policy.totalSteps then
        validationActivateDataloader config controller.advanceStep.policy.currentStep
          controller.advanceStep
      else controller.advanceStep).policy.status.keys := by
    intro name membership
    rw [gated.status_eq]
    exact (wellFormed.statusKeys name).mpr membership
  obtain ⟨after, sent, sameShapes, status, fetches, step, samples⟩ :=
    @forEach_sendDataFetch (fun current => { current with
        policy.remainSamplesNum := current.policy.remainSamplesNum - config.trainBatchPerReplica })
      (fun current => ⟨⟨rfl, rfl, rfl, rfl, rfl⟩, rfl⟩)
      config.trainBatchPerReplica false _ _ present
  have names : controller.arrivedPolicyNames = _ := gated.arrivedPolicyNames_eq.symm
  have result : startColocated config controller.arrivedPolicyNames controller = .ok after := sent
  rw [result]
  rw [names] at status fetches
  exact issued_of_sent wellFormed gated sameShapes status fetches step samples

section

variable (wellFormed : WellFormed controller)

include wellFormed

theorem startColocated_progress (arrived : controller.anyArrived) :
    Progress controller
      (startColocated config controller.arrivedPolicyNames controller).state :=
  .of_advance (.issued arrived (startColocated_issued wellFormed))

theorem completePolicyInit_progress (arrived : controller.anyArrived) :
    Progress controller (completePolicyInit config controller).state := by
  have marked : Quiet controller { controller with policy.policyInitDone := true } :=
    ⟨rfl, rfl, rfl, rfl, rfl⟩
  have rebuilt := marked.trans (@quiet_triggerRebuildPolicyMesh config _)
  have synchronized := rebuilt.trans (quiet_parts.broadcastInitialWeights _)
  unfold completePolicyInit
  apply progress_andThen (.of_quiet synchronized)
  intro state progress
  have present : ∀ name ∈ state.arrivedPolicyNames, name ∈ state.policy.status.keys :=
    fun name membership =>
      ((progress.wellFormed wellFormed).statusKeys name).mpr membership
  apply progress_andThen (forEach_setReady present)
  intro ready readied
  split
  · have wellFormedReady := readied.wellFormed (progress.wellFormed wellFormed)
    apply startColocated_progress wellFormedReady
    exact (progress.trans readied).anyArrived arrived
  · exact Progress.refl ready

theorem scalePolicyMesh_progress (arrived : name ∈ controller.arrivedPolicyNames) :
    Progress controller (scalePolicyMesh config name controller).state := by
  unfold scalePolicyMesh
  split
  · exact Progress.refl controller
  · split
    · exact Progress.refl controller
    · rename_i source _
      have sent := (@quiet_triggerRebuildPolicyMesh config controller).trans
        (quiet_parts.policyToPolicyUnicast source name
          (triggerRebuildPolicyMesh config controller).policy.totalSteps _)
      have ready := @forEach_setReady [name] _ (by
        intro other membership
        rw [mem_singleton] at membership
        rw [membership, (sent.wellFormed wellFormed).statusKeys, sent.arrivedPolicyNames_eq]
        exact arrived)
      refine (Progress.of_quiet sent).trans ?_
      rw [Outcome.forEach_cons] at ready
      rcases Outcome.andThen_cases (setStatus name .ready _)
        (Outcome.forEach (fun name => setStatus name .ready) []) with
        ⟨_, equality⟩ | ⟨_, equality⟩
      · rw [equality] at ready
        exact ready
      · rw [equality] at ready
        exact ready

theorem policyPostRegisterHook_progress (arrived : name ∈ controller.arrivedPolicyNames) :
    Progress controller (policyPostRegisterHook config name controller).state := by
  have gated : Quiet controller (activateValidationBeforeTrain config controller) := by
    unfold activateValidationBeforeTrain
    split
    · exact quiet_parts.validationActivateDataloader _ _
    · exact Quiet.refl controller
  have arrivedGated := gated.arrivedPolicyNames_eq ▸ arrived
  unfold policyPostRegisterHook
  dsimp only
  refine (Progress.of_quiet gated).trans ?_
  split
  · split
    · exact completePolicyInit_progress (gated.wellFormed wellFormed)
        (ne_nil_of_mem arrivedGated)
    · exact Progress.refl _
  · exact scalePolicyMesh_progress (gated.wellFormed wellFormed) arrivedGated

end

theorem registerPolicy_arrived {controller : Controller} (wellFormed : WellFormed controller)
    {atom : Atom} {now : Nat} {replica : Replica}
    (arrive : arriveReplica atom controller.policy.policyReplicas = .ok replica)
    (complete : replica.allAtomsArrived = true) :
    let arrived := controller.withArrived atom.replicaName (replica.startAt now)
    registerPolicy config atom now controller =
      (if arrived.arrivedPolicyReplicas.length = 1 then
          initializeWeights atom.replicaName arrived
        else .ok arrived).andThen (policyPostRegisterHook config atom.replicaName) := by
  intro arrived
  have fresh : atom.replicaName ∉ (storePolicyReplica atom.replicaName
      (replica.startAt now) controller).policy.status.keys := by
    show atom.replicaName ∉ controller.policy.status.keys
    rw [wellFormed.statusKeys]
    exact arriveReplica_notArrived wellFormed arrive
  have created : setStatus atom.replicaName .uninitialized
      (storePolicyReplica atom.replicaName (replica.startAt now) controller) =
      .ok arrived := by
    unfold setStatus
    rw [if_neg fresh, if_pos rfl]
    rfl
  simp only [registerPolicy, arrive, complete, if_true, policyReplicaArrived, created,
    Outcome.ok_andThen]

theorem registerPolicy_refused {controller : Controller} {atom : Atom} {exn : PyError}
    (arrive : arriveReplica atom controller.policy.policyReplicas = .error exn) (now : Nat) :
    registerPolicy config atom now controller = .raise controller exn := by
  simp [registerPolicy, arrive]

theorem registerPolicy_stored {controller : Controller} {atom : Atom} {replica : Replica}
    (arrive : arriveReplica atom controller.policy.policyReplicas = .ok replica)
    (incomplete : replica.allAtomsArrived = false) (now : Nat) :
    registerPolicy config atom now controller =
      .ok (storePolicyReplica atom.replicaName replica controller) := by
  simp [registerPolicy, arrive, incomplete]

/-- A registration changes nothing, extends a replica that stays incomplete, or lets a replica
arrive. -/
theorem registerPolicy_cases {controller : Controller} (wellFormed : WellFormed controller)
    (atom : Atom) (now : Nat) :
    (registerPolicy config atom now controller).state = controller ∨
      ∃ replica, ShapeValid replica.shape ∧
        atom.replicaName ∉ controller.arrivedPolicyNames ∧
        let joined := controller.withArrived atom.replicaName replica
        ((replica.allAtomsArrived = false ∧
            (registerPolicy config atom now controller).state =
              storePolicyReplica atom.replicaName replica controller) ∨
          (replica.allAtomsArrived = true ∧ WellFormed joined ∧
            atom.replicaName ∈ joined.arrivedPolicyNames ∧
            registerPolicy config atom now controller =
              (if joined.arrivedPolicyReplicas.length = 1 then
                  initializeWeights atom.replicaName joined
                else .ok joined).andThen (policyPostRegisterHook config atom.replicaName))) := by
  cases arrive : arriveReplica atom controller.policy.policyReplicas with
  | error exn => exact .inl (congrArg Outcome.state (registerPolicy_refused arrive now))
  | ok replica =>
    have valid := arriveReplica_shapeValid wellFormed arrive
    have notArrived := arriveReplica_notArrived wellFormed arrive
    cases complete : replica.allAtomsArrived with
    | true =>
      have validStarted : ShapeValid (replica.startAt now).shape := by simpa using valid
      have completeStarted : (replica.startAt now).allAtomsArrived = true := by
        rw [← shapeArrived_shape, Replica.shape_startAt]
        exact complete
      exact .inr ⟨replica.startAt now, validStarted, notArrived, .inr ⟨completeStarted,
        wellFormed.withArrived validStarted completeStarted,
        mem_arrived_store.mpr (.inl ⟨rfl, completeStarted⟩),
        registerPolicy_arrived wellFormed arrive complete⟩⟩
    | false =>
      exact .inr ⟨replica, valid, notArrived, .inl ⟨complete,
        congrArg Outcome.state (registerPolicy_stored arrive complete now)⟩⟩

theorem registerPolicy_progress {joined : Controller} (wellFormed : WellFormed joined)
    (arrived : name ∈ joined.arrivedPolicyNames) :
    Progress joined ((if joined.arrivedPolicyReplicas.length = 1 then
      initializeWeights name joined else .ok joined).andThen
        (policyPostRegisterHook config name)).state := by
  apply progress_andThen
  · split
    · exact .of_quiet (quiet_parts.initializeWeights _ _)
    · exact Progress.refl _
  · intro state progress
    apply policyPostRegisterHook_progress (progress.wellFormed wellFormed)
    exact progress.arrivedPolicyNames_eq ▸ arrived

structure Joined (before after : Controller) : Prop where
  wellFormed : WellFormed after
  sentFetches_eq : after.sentFetches = before.sentFetches
  currentStep_eq : after.policy.currentStep = before.policy.currentStep
  samples_eq : after.policy.samplesOnTheFly = before.policy.samplesOnTheFly
  status_kept : ∀ name ∈ before.policy.status.keys,
    after.policy.status.get? name = before.policy.status.get? name

theorem registerPolicy_joined {controller : Controller}
    (wellFormed : WellFormed controller) (atom : Atom) (now : Nat) :
    ∃ joined, Joined controller joined ∧
      Progress joined (registerPolicy config atom now controller).state := by
  rcases @registerPolicy_cases config controller wellFormed atom now with
    same | ⟨replica, valid, notArrived, ⟨incomplete, same⟩ | ⟨_, joined, arrived, same⟩⟩
  · refine ⟨controller, ⟨wellFormed, rfl, rfl, rfl, fun _ _ => rfl⟩, ?_⟩
    rw [same]
    exact Progress.refl controller
  · refine ⟨_, ⟨wellFormed.store valid notArrived incomplete, rfl, rfl, rfl, fun _ _ => rfl⟩, ?_⟩
    rw [same]
    exact Progress.refl _
  · rw [same]
    refine ⟨_, ⟨joined, rfl, rfl, rfl, ?_⟩, registerPolicy_progress joined arrived⟩
    intro name present
    show (controller.policy.status.set atom.replicaName .uninitialized).get? name = _
    have other : name ≠ atom.replicaName := by
      rintro rfl
      exact notArrived ((wellFormed.statusKeys _).mp present)
    rw [Dict.get?_set, if_neg other]

def Controller.withReduced (name : ReplicaName) (controller : Controller) : Controller :=
  { controller with policy.status := controller.policy.status.set name .reduced }

def Controller.allReadied (controller : Controller) : Controller :=
  { controller with
    policy.status :=
      setAllStatus controller.sortedPolicyNames .ready controller.policy.status }

section

variable (wellFormed : WellFormed controller)

include wellFormed

theorem WellFormed.withReduced (arrived : name ∈ controller.policy.status.keys) :
    WellFormed (controller.withReduced name) := by
  refine ⟨wellFormed.shapesValid, ?_⟩
  intro other
  show other ∈ (controller.policy.status.set name .reduced).keys ↔ _
  rw [Dict.keys_set_of_mem _ arrived]
  exact wellFormed.statusKeys other

theorem WellFormed.allReadied : WellFormed controller.allReadied := by
  refine ⟨wellFormed.shapesValid, ?_⟩
  intro other
  show other ∈ (setAllStatus _ _ _).keys ↔ _
  rw [keys_setAllStatus]
  · exact wellFormed.statusKeys other
  · intro name membership
    rw [wellFormed.statusKeys]
    exact mem_sortedPolicyNames.mp membership

theorem finishStep_progress (step : Nat) (totalSteps : Int) :
    Progress controller (finishStep config step totalSteps controller).state := by
  have synced : Quiet controller (syncedWeights config step totalSteps controller) :=
    quiet_parts.rolloutParts.syncedWeights step totalSteps controller
  rw [finishStep_eq]
  apply progress_andThen
  · exact (Progress.of_quiet synced).trans
      (tryTrigger_progress (synced.wellFormed wellFormed) false)
  · intro state _
    split
    · exact .of_quiet ⟨rfl, rfl, rfl, rfl, rfl⟩
    · exact Progress.refl state

end

theorem policyReplicas_sumAndReportData (controller : Controller) :
    (sumAndReportData config controller).policy.policyReplicas =
      controller.policy.policyReplicas := by
  have folded : ∀ (reports : List (Nat × Nat)) (current : Controller),
      (reports.foldl (fun current data =>
        updateDynamicSamplingStatistics data.1 data.2 current)
        current).policy.policyReplicas = current.policy.policyReplicas := by
    intro reports
    induction reports with
    | nil => intro current; rfl
    | cons data rest ih =>
      intro current
      rw [foldl_cons, ih]
      rfl
  unfold sumAndReportData
  dsimp only
  split
  · split
    · rfl
    · split
      · exact folded _ controller
      · rfl
  · rfl

def Controller.reported (name : ReplicaName) (reportData : ReportData)
    (controller : Controller) : Controller :=
  { controller with
    policy.reportDataList := controller.policy.reportDataList ++ [reportData]
    policy.status := controller.policy.status.set name .reduced }

def Controller.readied (config : Config) (name : ReplicaName) (reportData : ReportData)
    (controller : Controller) : Controller :=
  (sumAndReportData config ((controller.reported name reportData).consumed config)).allReadied

/-- The ways an ack can go: nothing answers for the replica, others are not reduced yet, the
samples do not cover the step, or the step is completed. -/
theorem trainAck_cases (wellFormed : WellFormed controller) (name : ReplicaName) (step : Nat)
    (totalSteps : Int) (reportData : ReportData) :
    let reported := controller.reported name reportData
    let result := trainAck config name step totalSteps reportData controller
    (name ∉ controller.policy.status.keys ∧ ∃ exn, exn ≠ .blocked ∧
        (result = .raise controller exn ∨ result = .raise { controller with
          policy.reportDataList := controller.policy.reportDataList ++ [reportData] } exn)) ∨
      name ∈ controller.policy.status.keys ∧
        (((controller.withReduced name).allReduced = false ∧ WellFormed reported ∧
            result = .ok reported) ∨
          ((controller.withReduced name).allReduced = true ∧
            controller.policy.samplesOnTheFly < controller.rolloutsPerStep config ∧
            WellFormed (reported.consumed config) ∧ result = .raise (reported.consumed config)
              (.assertionError "samples_on_the_fly should not be negative")) ∨
          ((controller.withReduced name).allReduced = true ∧
            (controller.rolloutsPerStep config : Int) ≤ controller.policy.samplesOnTheFly ∧
            WellFormed (controller.readied config name reportData) ∧
            result = finishStep config step totalSteps
              (controller.readied config name reportData))) := by
  intro reported result
  by_cases known : name ∈ controller.policy.status.keys
  · refine .inr ⟨known, ?_⟩
    have acked := wellFormed.withReduced known
    have reportedWell : WellFormed reported := ⟨acked.shapesValid, acked.statusKeys⟩
    have consumedWell : WellFormed (reported.consumed config) :=
      ⟨acked.shapesValid, acked.statusKeys⟩
    have registered : name ∈ controller.policy.policyReplicas.keys := by
      obtain ⟨replica, found, _⟩ :=
        mem_arrivedPolicyNames.mp ((wellFormed.statusKeys name).mp known)
      exact Dict.mem_keys_iff_get?.mpr ⟨replica, found⟩
    have resultEq : result = if (controller.withReduced name).allReduced then
        completeStep config step totalSteps reported else .ok reported := by
      unfold result trainAck
      rw [if_pos registered, setStatus_of_mem]
      · rfl
      · exact known
      · decide
    rw [resultEq]
    cases (controller.withReduced name).allReduced with
    | false => exact .inl ⟨rfl, reportedWell, rfl⟩
    | true =>
      rw [if_pos rfl]
      by_cases short : controller.policy.samplesOnTheFly - controller.rolloutsPerStep config < 0
      · exact .inr (.inl ⟨rfl, by omega, consumedWell, if_pos short⟩)
      · let summed := sumAndReportData config (reported.consumed config)
        have summedWell : WellFormed summed := (quiet_sumAndReportData _).wellFormed consumedWell
        have present : ∀ other ∈ summed.sortedPolicyNames,
            other ∈ summed.policy.status.keys := by
          intro other membership
          rw [summedWell.statusKeys]
          exact mem_sortedPolicyNames.mp membership
        refine .inr (.inr ⟨rfl, by omega, summedWell.allReadied, ?_⟩)
        refine (if_neg short).trans ?_
        dsimp only
        rw [forEach_setStatus present (by decide), Outcome.ok_andThen]
        rfl
  · refine .inl ⟨known, ?_⟩
    unfold result trainAck
    split
    · unfold setStatus
      rw [if_neg known, if_neg (by decide)]
      refine ⟨_, ?_, .inr rfl⟩
      simp
    · exact ⟨_, by simp, .inl rfl⟩

/-- The three ways an ack of an arrived replica can go. -/
theorem trainAck_spec {controller : Controller} (wellFormed : WellFormed controller)
    {name : ReplicaName} (arrived : name ∈ controller.policy.status.keys)
    (step : Nat) (totalSteps : Int) (reportData : ReportData) :
    let acked := controller.withReduced name
    let result := (trainAck config name step totalSteps reportData controller).state
    (acked.allReduced = false ∧ Quiet acked result) ∨
      (acked.allReduced = true ∧
        controller.policy.samplesOnTheFly < controller.rolloutsPerStep config ∧
        Quiet (acked.consumed config) result) ∨
      (acked.allReduced = true ∧
        (controller.rolloutsPerStep config : Int) ≤ controller.policy.samplesOnTheFly ∧
        Progress (acked.consumed config).allReadied result) := by
  intro acked result
  rcases @trainAck_cases config controller wellFormed name step totalSteps reportData with
    ⟨unknown, _⟩ | ⟨_, ⟨waits, _, same⟩ | ⟨reduced, short, _, same⟩ |
      ⟨reduced, enough, readiedWell, same⟩⟩
  · exact absurd arrived unknown
  · rw [show result = _ from congrArg Outcome.state same]
    exact .inl ⟨waits, ⟨rfl, rfl, rfl, rfl, rfl⟩⟩
  · rw [show result = _ from congrArg Outcome.state same]
    exact .inr (.inl ⟨reduced, short, ⟨rfl, rfl, rfl, rfl, rfl⟩⟩)
  · rw [show result = _ from congrArg Outcome.state same]
    refine .inr (.inr ⟨reduced, enough, ?_⟩)
    let consumed := (controller.reported name reportData).consumed config
    have summed : Quiet consumed (sumAndReportData config consumed) := quiet_sumAndReportData _
    have sorted : (sumAndReportData config consumed).sortedPolicyNames =
        consumed.sortedPolicyNames := by
      unfold Controller.sortedPolicyNames Controller.arrivedPolicyReplicas
      rw [policyReplicas_sumAndReportData]
    have readied : Quiet (acked.consumed config).allReadied
        (controller.readied config name reportData) := by
      refine ⟨summed.shapes_eq, ?_, summed.sentFetches_eq, summed.currentStep_eq,
        summed.samples_eq⟩
      unfold Controller.readied Controller.allReadied
      rw [sorted, summed.status_eq]
      rfl
    exact (Progress.of_quiet readied).trans (finishStep_progress readiedWell step totalSteps)

def handedOut (config : Config) (n : Nat) (validationStep rankInMesh : Option Nat)
    (controller : Controller) : Nat :=
  match validationStep, (getBatchedPrompt config n validationStep rankInMesh controller).1 with
  | none, .ok (payloads, _) => payloads.length
  | _, _ => 0

def Controller.withHandedOut (config : Config) (count : Nat) (controller : Controller) :
    Controller :=
  { controller with
    policy.samplesOnTheFly :=
      controller.policy.samplesOnTheFly + count * config.nGeneration }

theorem getBatchedPrompt_spec (n : Nat) (validationStep rankInMesh : Option Nat)
    (controller : Controller) :
    let result := getBatchedPrompt config n validationStep rankInMesh controller
    ((∃ exn, result.1 = .error exn) ∧
        result.2.policy = controller.policy ∧ result.2.redis = controller.redis) ∨
      ∃ payloads isEnd base,
        result = handOut config validationStep.isSome payloads isEnd base ∧
        base.policy = controller.policy ∧ base.redis = controller.redis := by
  unfold getBatchedPrompt
  dsimp only
  split
  · exact .inl ⟨⟨_, rfl⟩, rfl, rfl⟩
  · split
    · split
      · exact .inl ⟨⟨_, rfl⟩, rfl, rfl⟩
      · split
        · exact .inl ⟨⟨_, rfl⟩, rfl, rfl⟩
        · exact .inr ⟨_, _, _, rfl, rfl, rfl⟩
    · exact .inr ⟨_, _, _, rfl, rfl, rfl⟩

theorem quiet_of_samePolicy {before after : Controller}
    (samePolicy : after.policy = before.policy) (sameRedis : after.redis = before.redis) :
    Quiet before after := by
  refine ⟨by rw [samePolicy], by rw [samePolicy], ?_, by rw [samePolicy], by rw [samePolicy]⟩
  unfold Controller.sentFetches
  rw [sameRedis]

@[simp]
theorem withHandedOut_zero (controller : Controller) :
    controller.withHandedOut config 0 = controller := by
  simp [Controller.withHandedOut]

theorem quiet_getBatchedPrompt (n : Nat) (validationStep rankInMesh : Option Nat)
    (controller : Controller) :
    Quiet (controller.withHandedOut config
        (handedOut config n validationStep rankInMesh controller))
      (getBatchedPrompt config n validationStep rankInMesh controller).2 := by
  unfold handedOut
  rcases @getBatchedPrompt_spec config n validationStep rankInMesh controller with
    ⟨⟨exn, failed⟩, samePolicy, sameRedis⟩ | ⟨payloads, isEnd, base, result, samePolicy, sameRedis⟩
  · have none_handed : (match validationStep,
        (getBatchedPrompt config n validationStep rankInMesh controller).1 with
        | none, .ok (payloads, _) => payloads.length
        | _, _ => 0) = 0 := by
      rw [failed]
      cases validationStep <;> rfl
    rw [none_handed, withHandedOut_zero]
    exact quiet_of_samePolicy samePolicy sameRedis
  · rw [result]
    have quiet := quiet_of_samePolicy samePolicy sameRedis
    cases validationStep with
    | some step =>
      show Quiet (controller.withHandedOut config 0) base
      rw [withHandedOut_zero]
      exact quiet
    | none =>
      refine ⟨quiet.shapes_eq, quiet.status_eq, quiet.sentFetches_eq, quiet.currentStep_eq, ?_⟩
      show base.policy.samplesOnTheFly + payloads.length * config.nGeneration =
        controller.policy.samplesOnTheFly + payloads.length * config.nGeneration
      rw [quiet.samples_eq]

end CosmosRl.Dispatcher
