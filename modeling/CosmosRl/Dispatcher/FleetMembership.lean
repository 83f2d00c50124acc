import CosmosRl.Dispatcher.FleetPhase

/-!
Policy replicas leaving and joining, seen from the trigger.

A departure lowers the number of rollouts one step needs and takes a status out of the
way; an arrival brings a status that is soon `READY` and recomputes the total number of
steps.  Neither is followed by a poll.  This module shows that both keep the fleet sound
and says when they leave the trigger enabled.
-/

namespace CosmosRl.Dispatcher

open CosmosRl.Foundation

variable {config : Config}

/-- A step could be issued to `numReplicas` idle replicas. -/
structure StepAhead (config : Config) (numReplicas : Nat) (totalSteps : Int)
    (queues : List (List Rollout)) (controller : Controller) : Prop where
  noValidation : controller.dataFetcher.activatedValIter = none
  someone : 0 < numReplicas
  notFinished : finishedAt controller.policy.currentStep totalSteps = false
  enough : enoughFor config numReplicas controller.policy.rolloutBuffer queues = true

variable {numReplicas : Nat} {controller before after : Controller} {name : ReplicaName}
  {totalSteps : Int} {queues : List (List Rollout)}

theorem stepAhead_iff :
    StepAhead config numReplicas totalSteps queues controller ↔
      controller.dataFetcher.activatedValIter = none ∧ 0 < numReplicas ∧
        finishedAt controller.policy.currentStep totalSteps = false ∧
        enoughFor config numReplicas controller.policy.rolloutBuffer queues = true :=
  ⟨fun ahead => ⟨ahead.noValidation, ahead.someone, ahead.notFinished, ahead.enough⟩,
   fun ⟨noValidation, someone, notFinished, enough⟩ =>
    ⟨noValidation, someone, notFinished, enough⟩⟩

instance (numReplicas : Nat) (totalSteps : Int) (queues : List (List Rollout))
    (controller : Controller) :
    Decidable (StepAhead config numReplicas totalSteps queues controller) :=
  decidable_of_iff _ stepAhead_iff.symm

theorem StepAhead.transfer (ahead : StepAhead config numReplicas totalSteps queues after)
    (gate : after.dataFetcher.activatedValIter = before.dataFetcher.activatedValIter)
    (step : after.policy.currentStep = before.policy.currentStep)
    (buffer : after.policy.rolloutBuffer = before.policy.rolloutBuffer) :
    StepAhead config numReplicas totalSteps queues before := by
  obtain ⟨noValidation, someone, notFinished, enough⟩ := ahead
  rw [gate] at noValidation
  rw [step] at notFinished
  rw [buffer] at enough
  exact ⟨noValidation, someone, notFinished, enough⟩

/-- Every replica but the given one is `READY` or `REDUCED`. -/
def OthersIdle (name : ReplicaName) (controller : Controller) : Prop :=
  ∀ entry ∈ controller.policy.status.entries, entry.1 ≠ name →
    entry.2 = .ready ∨ entry.2 = .reduced

instance (name : ReplicaName) (controller : Controller) :
    Decidable (OthersIdle name controller) :=
  inferInstanceAs (Decidable (∀ entry ∈ _, _))

theorem triggerEnabled_iff_ahead :
    TriggerEnabled config controller ↔
      StepAhead config controller.arrivedPolicyReplicas.length controller.policy.totalSteps
        controller.policy.rolloutBufferPerRank controller ∧
      controller.allReadyOrReduced = true := by
  constructor
  · intro enabled
    refine ⟨⟨enabled.noValidation, ?_, enabled.notFinished, ?_⟩, enabled.idle⟩
    · exact List.length_pos_of_ne_nil enabled.arrived
    · simpa only [rolloutsEnough_eq] using enabled.enough
  · rintro ⟨ahead, idle⟩
    refine ⟨ahead.noValidation, ?_, ahead.notFinished, idle, ?_⟩
    · exact List.ne_nil_of_length_pos ahead.someone
    · simpa only [rolloutsEnough_eq] using ahead.enough

theorem othersIdle_of_idle
    (kept : ∀ other status, other ≠ name →
      before.policy.status.get? other = some status →
      after.policy.status.get? other = some status)
    (idle : after.allReadyOrReduced = true) : OthersIdle name before := by
  rintro ⟨other, status⟩ stored different
  exact allReadyOrReduced_iff.mp idle other status
    (kept other status different (Dict.get?_eq_some_iff.mpr stored))

theorem not_enabled_of_uninitialized
    (found : controller.policy.status.get? name = some .uninitialized) :
    ¬ TriggerEnabled config controller := by
  intro enabled
  rcases allReadyOrReduced_iff.mp enabled.idle name _ found with ready | reduced
  · cases ready
  · cases reduced

theorem rebuiltTotalSteps_of_finished (finished : controller.trainingFinished = true) :
    rebuiltTotalSteps config numReplicas controller = controller.policy.totalSteps := by
  simp [rebuiltTotalSteps, finished]

theorem length_rebuiltQueues (byRank : config.ByRank) (numReplicas : Nat)
    (queues : List (List Rollout)) :
    (rebuiltQueues config numReplicas queues).length = numReplicas := by
  simp [rebuiltQueues, byRank.2, length_distributeByRank]

theorem Rebuilt.wellFormed (rebuilt : Rebuilt config before after)
    (wellFormed : WellFormed before) : WellFormed after := by
  have sameShapes : shapes after.policy.policyReplicas =
      shapes before.policy.policyReplicas := by
    rw [rebuilt.replicas_eq, shapes_assignMeshRanks]
  refine ⟨?_, ?_⟩
  · rw [sameShapes]
    exact wellFormed.shapesValid
  · intro name
    rw [rebuilt.status_eq, wellFormed.statusKeys]
    simp only [Controller.arrivedPolicyNames, Controller.arrivedPolicyReplicas,
      arrivedNames_eq_shapes, sameShapes]

theorem Rebuilt.atEnd (rebuilt : Rebuilt config before after)
    (atEnd : (before.policy.currentStep : Int) = before.policy.totalSteps)
    (positive : 0 < before.policy.totalSteps) :
    (after.policy.currentStep : Int) = after.policy.totalSteps ∧
      0 < after.policy.totalSteps := by
  have finished := NothingMissed.finished_of_atEnd atEnd positive
  have total : after.policy.totalSteps = before.policy.totalSteps :=
    rebuilt.totalSteps_eq.trans (rebuiltTotalSteps_of_finished finished)
  rw [rebuilt.currentStep_eq, total]
  exact ⟨atEnd, positive⟩

/-- A rebuild keeps a sound fleet sound. -/
theorem FleetSound.rebuilt (sound : FleetSound config before)
    (rebuilt : Rebuilt config before after) (someone : before.arrivedPolicyReplicas ≠ []) :
    FleetSound config after := by
  refine ⟨rebuilt.wellFormed sound.wellFormed, sound.flags.evolve rebuilt.evolve, ?_⟩
  intro byRank
  cases sound.phase byRank with
  | ended atEnd positive =>
    obtain ⟨stillAtEnd, stillPositive⟩ := rebuilt.atEnd atEnd positive
    exact .ended stillAtEnd stillPositive
  | waiting uninitialized unloaded =>
    apply RankPhase.waiting
    · rw [rebuilt.status_eq]
      exact uninitialized
    · intro initDone entry arrived
      rw [rebuilt.initDone_eq] at initDone
      obtain ⟨old, oldArrived, _, sameWeights⟩ := rebuilt.loaded arrived
      rw [sameWeights]
      exact unloaded initDone old oldArrived
  | meshed initDone _ loaded _ =>
    apply RankPhase.meshed
    · rw [rebuilt.initDone_eq]
      exact initDone
    · apply List.ne_nil_of_length_pos
      rw [rebuilt.arrivedCount]
      exact List.length_pos_of_ne_nil someone
    · intro entry arrived
      obtain ⟨old, oldArrived, _, sameWeights⟩ := rebuilt.loaded arrived
      rw [sameWeights]
      exact loaded old oldArrived
    · rw [rebuilt.arrivedCount, rebuilt.queues_eq, length_rebuiltQueues byRank]

def Controller.departed (name : ReplicaName) (controller : Controller) : Controller :=
  { controller with
    policy.policyReplicas := controller.policy.policyReplicas.erase name
    policy.status := controller.policy.status.erase name
    policy.replicaScalingLog := controller.policy.replicaScalingLog ++ [name] }

def rebuildsMesh (name : ReplicaName) (controller : Controller) : Bool :=
  (controller.policy.policyReplicas.get? name).any Replica.inMesh

/-- An arrived replica is removed, and the mesh may be rebuilt. -/
theorem unregisterPolicy_departed {controller : Controller} {name : ReplicaName}
    (registered : name ∈ controller.policy.policyReplicas.keys)
    (known : name ∈ controller.policy.status.keys) :
    let result := (unregisterPolicy config name controller).state
    let departed := controller.departed name
    (result = departed ∧ (controller.trainingFinished = true ∨
        rebuildsMesh name controller = false ∨ departed.arrivedPolicyReplicas = [])) ∨
      (rebuildsMesh name controller = true ∧ departed.arrivedPolicyReplicas ≠ [] ∧
        Rebuilt config departed result) := by
  intro result departed
  obtain ⟨replica, found⟩ := Dict.mem_keys_iff_get?.mp registered
  have rebuilds : rebuildsMesh name controller = replica.inMesh := by
    simp [rebuildsMesh, found]
  have unfolded : result = (if departed.trainingFinished then Outcome.ok departed
      else if replica.inMesh && decide (departed.arrivedPolicyReplicas ≠ []) then
        .ok (triggerRebuildPolicyMesh config departed)
      else (.ok departed : Result)).state := by
    show (unregisterPolicy config name controller).state = _
    unfold unregisterPolicy
    rw [found]
    dsimp only
    rw [if_pos known]
    rfl
  rw [rebuilds]
  by_cases finished : departed.trainingFinished = true
  · rw [if_pos finished] at unfolded
    exact .inl ⟨unfolded, .inl finished⟩
  · rw [if_neg finished] at unfolded
    by_cases leaves : (replica.inMesh && decide (departed.arrivedPolicyReplicas ≠ [])) = true
    · rw [if_pos leaves] at unfolded
      simp only [Bool.and_eq_true, decide_eq_true_eq] at leaves
      refine .inr ⟨leaves.1, leaves.2, ?_⟩
      rw [unfolded]
      exact rebuilt_triggerRebuildPolicyMesh departed
    · rw [if_neg leaves] at unfolded
      refine .inl ⟨unfolded, .inr ?_⟩
      by_cases inMesh : replica.inMesh = true
      · refine .inr ?_
        simpa [inMesh] using leaves
      · exact .inl (by simpa using inMesh)

theorem arrived_departed_sublist (name : ReplicaName) (controller : Controller) :
    (controller.departed name).arrivedPolicyReplicas.Sublist
      controller.arrivedPolicyReplicas :=
  List.Sublist.filter _ List.filter_sublist

section

variable (wellFormed : WellFormed controller)

include wellFormed

theorem WellFormed.statusCount :
    controller.policy.status.keys.length = controller.arrivedPolicyReplicas.length := by
  simpa [Controller.arrivedPolicyNames] using wellFormed.arrivedCount.length_eq

theorem wellFormed_departed (name : ReplicaName) : WellFormed (controller.departed name) :=
  ⟨(wellFormed.withoutReplica name).shapesValid, (wellFormed.withoutReplica name).statusKeys⟩

theorem arrivedCount_departed (known : name ∈ controller.policy.status.keys) :
    (controller.departed name).arrivedPolicyReplicas.length =
      controller.arrivedPolicyReplicas.length - 1 := by
  have keys : (controller.departed name).policy.status.keys =
      controller.policy.status.keys.erase name := by
    rw [controller.policy.status.nodup_keys.erase_eq_filter]
    refine (Dict.keys_erase controller.policy.status name).trans ?_
    apply List.filter_congr
    intro other _
    rw [Bool.eq_iff_iff]
    simp
  rw [← (wellFormed_departed wellFormed name).statusCount, keys,
    List.length_erase_of_mem known, wellFormed.statusCount]

end

theorem flagsArrived_erase (flags : FlagsArrived controller)
    (name : ReplicaName) : ∀ entry ∈ (controller.policy.policyReplicas.erase name).entries,
      entry.2.inMesh = true ∨ entry.2.weightsLoadedInViewOfCommand = true →
        entry.2.allAtomsArrived = true := by
  intro entry stored
  simp only [Dict.erase, Dict.mem_entries_filter] at stored
  exact flags entry stored.1

/-- A departure keeps the fleet sound. -/
theorem FleetSound.departed (sound : FleetSound config controller)
    (name : ReplicaName) : FleetSound config (controller.departed name) := by
  have fewer := arrived_departed_sublist name controller
  refine ⟨wellFormed_departed sound.wellFormed name, flagsArrived_erase sound.flags name, ?_⟩
  intro byRank
  have statusKept : ∀ other status,
      (controller.departed name).policy.status.get? other = some status →
      controller.policy.status.get? other = some status := by
    intro other status found
    simp only [Controller.departed, Dict.get?_erase] at found
    split at found
    · cases found
    · exact found
  cases sound.phase byRank with
  | ended atEnd positive => exact .ended atEnd positive
  | waiting uninitialized unloaded =>
    apply RankPhase.waiting
    · intro other status found
      exact uninitialized other status (statusKept other status found)
    · intro initDone entry arrived
      exact unloaded initDone entry (fewer.subset arrived)
  | meshed initDone _ loaded queues =>
    by_cases nobody : (controller.departed name).arrivedPolicyReplicas = []
    · -- the last replica has left, and the fleet waits for new ones
      apply RankPhase.waiting
      · intro other status found
        have known : other ∈ (controller.departed name).policy.status.keys :=
          Dict.mem_keys_iff_get?.mpr ⟨status, found⟩
        rw [(wellFormed_departed sound.wellFormed name).statusKeys] at known
        simp [Controller.arrivedPolicyNames, nobody] at known
      · intro _ entry arrived
        simp [nobody] at arrived
    · apply RankPhase.meshed
      · exact initDone
      · exact nobody
      · intro entry arrived
        exact loaded entry (fewer.subset arrived)
      · exact fewer.length_le.trans queues

def departedTotalSteps (config : Config) (name : ReplicaName) (controller : Controller) :
    Int :=
  if rebuildsMesh name controller then
    rebuiltTotalSteps config (controller.arrivedPolicyReplicas.length - 1) controller
  else controller.policy.totalSteps

def departedQueues (config : Config) (name : ReplicaName) (controller : Controller) :
    List (List Rollout) :=
  if rebuildsMesh name controller then
    rebuiltQueues config (controller.arrivedPolicyReplicas.length - 1)
      controller.policy.rolloutBufferPerRank
  else controller.policy.rolloutBufferPerRank

/-- A departure keeps the fleet sound, and enables the trigger only when the others are
idle and a step is ahead of them. -/
theorem FleetSound.unregisterPolicy_arrived (sound : FleetSound config controller)
    (registered : name ∈ controller.policy.policyReplicas.keys)
    (known : name ∈ controller.policy.status.keys) :
    let result := (unregisterPolicy config name controller).state
    FleetSound config result ∧
      (TriggerEnabled config result →
        StepAhead config (controller.arrivedPolicyReplicas.length - 1)
          (departedTotalSteps config name controller) (departedQueues config name controller)
          controller ∧ OthersIdle name controller) := by
  intro result
  have soundDeparted := sound.departed name
  have count := arrivedCount_departed sound.wellFormed known
  have others : ∀ after : Controller,
      after.policy.status = (controller.departed name).policy.status →
      after.allReadyOrReduced = true → OthersIdle name controller := by
    intro after same
    apply othersIdle_of_idle
    intro other status different found
    rw [same]
    simpa [Controller.departed, Dict.get?_erase, different] using found
  rcases @unregisterPolicy_departed config controller name registered known with
    ⟨same, kept⟩ | ⟨rebuilds, someone, rebuilt⟩
  · rw [show result = _ from same]
    refine ⟨soundDeparted, ?_⟩
    intro enabled
    obtain ⟨ahead, idle⟩ := triggerEnabled_iff_ahead.mp enabled
    refine ⟨?_, others _ rfl idle⟩
    rcases kept with finished | outside | nobody
    · have notFinished := enabled.notFinished
      rw [show (controller.departed name).trainingFinished =
        controller.trainingFinished from rfl, finished] at notFinished
      cases notFinished
    · rw [count] at ahead
      simp only [departedTotalSteps, departedQueues, outside, Bool.false_eq_true, if_false]
      exact ⟨ahead.noValidation, ahead.someone, ahead.notFinished, ahead.enough⟩
    · exact absurd nobody enabled.arrived
  · refine ⟨soundDeparted.rebuilt rebuilt someone, ?_⟩
    intro enabled
    obtain ⟨ahead, idle⟩ := triggerEnabled_iff_ahead.mp enabled
    refine ⟨?_, others _ rebuilt.status_eq idle⟩
    rw [rebuilt.arrivedCount, rebuilt.totalSteps_eq, rebuilt.queues_eq, count] at ahead
    simp only [departedTotalSteps, departedQueues, rebuilds, if_true]
    exact ahead.transfer rebuilt.gate_eq rebuilt.currentStep_eq rebuilt.buffer_eq

end CosmosRl.Dispatcher
