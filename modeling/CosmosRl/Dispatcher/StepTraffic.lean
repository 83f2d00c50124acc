import CosmosRl.Dispatcher.RolloutTraffic

/-!
Issuing a step, seen from the rollouts.

A step takes the same number of rollouts for every arrived replica, off the front of the
shared buffer or off the queue of its rank, publishes them, and then announces that number
in a `DataFetch` to each of these replicas.
-/

namespace CosmosRl.Dispatcher

open CosmosRl.Foundation List

variable {config : Config}

structure TakenPerRank (itemsCount : Nat) (targets : List ReplicaName)
    (queues : List (List Rollout)) (taken : List (ReplicaName × Rollout))
    (rest : List (List Rollout)) : Prop where
  moved : queues.flatten.Perm (taken.map Prod.snd ++ rest.flatten)
  shares : ∀ name, taken.countP (fun item => decide (item.1 = name)) =
    itemsCount * targets.count name
  total : taken.length = itemsCount * targets.length
  origin : ∀ item ∈ taken, ∃ (position : Nat) (queue : List Rollout),
    targets[position]? = some item.1 ∧ queues[position]? = some queue ∧ item.2 ∈ queue
  length_eq : rest.length = queues.length
  left : ∀ (position : Nat) (queue : List Rollout), rest[position]? = some queue →
    ∃ before : List Rollout, queues[position]? = some before ∧ ∀ rollout ∈ queue, rollout ∈ before

theorem countP_map_target (name target : ReplicaName) (rollouts : List Rollout) :
    (rollouts.map fun rollout => (target, rollout)).countP
        (fun item => decide (item.1 = name)) =
      if target = name then rollouts.length else 0 := by
  rw [countP_map]
  by_cases same : target = name
  · simp [Function.comp_def, same]
  · simp [Function.comp_def, same]

variable {itemsCount : Nat} {taken : List (ReplicaName × Rollout)} {controller : Controller}
  {targets : List ReplicaName}

theorem takePerRank_spec {queues : List (List Rollout)} {rest : List (List Rollout)}
    (result : takePerRank itemsCount targets queues = .ok (taken, rest)) :
    TakenPerRank itemsCount targets queues taken rest := by
  induction targets generalizing queues taken rest with
  | nil =>
    obtain ⟨rfl, rfl⟩ : [] = taken ∧ queues = rest := by simpa [takePerRank] using result
    refine ⟨?_, by simp, by simp, by simp, rfl, ?_⟩
    · simp
    · exact fun position queue found => ⟨queue, found, fun rollout inside => inside⟩
  | cons target targets ih =>
    cases queues with
    | nil => simp [takePerRank] at result
    | cons queue queues =>
      unfold takePerRank at result
      dsimp only at result
      split at result
      · cases result
      · rename_i long
        split at result
        · cases result
        · rename_i laterTaken laterRest later
          cases result
          obtain ⟨moved, shares, total, origin, sameLength, left⟩ := ih later
          have sorted : (sortQueueByPromptIdx queue).Perm queue := perm_insertionSort _ queue
          have enough : min itemsCount (sortQueueByPromptIdx queue).length = itemsCount := by omega
          refine ⟨?_, ?_, ?_, ?_, by simp [sameLength], ?_⟩
          · have cut : queue.Perm ((sortQueueByPromptIdx queue).take itemsCount ++
                (sortQueueByPromptIdx queue).drop itemsCount) := by
              rw [take_append_drop]
              exact sorted.symm
            have both := cut.append moved
            simp only [flatten_cons, map_append, map_map,
              Function.comp_def, map_id', append_assoc] at both ⊢
            refine both.trans (List.Perm.append_left _ ?_)
            rw [← append_assoc, ← append_assoc]
            exact List.Perm.append_right _ perm_append_comm
          · intro name
            rw [countP_append, shares, countP_map_target, length_take,
              count_cons, enough, Nat.mul_add, Nat.add_comm]
            congr 1
            by_cases same : target = name
            · simp [same]
            · simp [same]
          · rw [length_append, length_map, length_take, enough, total,
              length_cons, Nat.mul_succ, Nat.add_comm]
          · intro item inside
            rcases mem_append.mp inside with here | there
            · obtain ⟨rollout, front, rfl⟩ := mem_map.mp here
              exact ⟨0, queue, rfl, rfl, sorted.subset (mem_of_mem_take front)⟩
            · obtain ⟨position, source, found, sourceFound, inSource⟩ := origin item there
              exact ⟨position + 1, source, by simpa using found,
                by simpa using sourceFound, inSource⟩
          · intro position source found
            cases position with
            | zero =>
              have same : (sortQueueByPromptIdx queue).drop itemsCount = source := by
                simpa using found
              refine ⟨queue, rfl, fun rollout inside => ?_⟩
              rw [← same] at inside
              exact sorted.subset (mem_of_mem_drop inside)
            | succ position =>
              simpa using left position source (by simpa using found)

theorem takeForEach_spec {queue rest : List Rollout}
    (result : takeForEach targets queue = some (taken, rest)) :
    queue = taken.map Prod.snd ++ rest ∧ taken.map Prod.fst = targets := by
  induction targets generalizing queue taken with
  | nil =>
    obtain ⟨rfl, rfl⟩ : [] = taken ∧ queue = rest := by simpa [takeForEach] using result
    exact ⟨rfl, rfl⟩
  | cons target targets ih =>
    cases queue with
    | nil => simp [takeForEach] at result
    | cons rollout queue =>
      unfold takeForEach at result
      cases later : takeForEach targets queue with
      | none => simp [later] at result
      | some found =>
        obtain ⟨laterTaken, laterRest⟩ := found
        rw [later] at result
        obtain ⟨rfl, rfl⟩ : (target, rollout) :: laterTaken = taken ∧
            laterRest = rest := by simpa using result
        obtain ⟨front, names⟩ := ih later
        exact ⟨by simp [← front], by simp [names]⟩

structure Taken (config : Config) (itemsCount : Nat) (before : Controller)
    (taken : List (ReplicaName × Rollout)) (after : Controller) : Prop where
  moved : (before.pendingRollouts config).Perm
    (taken.map Prod.snd ++ after.pendingRollouts config)
  inOrder : config.dataDispatchAsRankInMesh = false → before.pendingRollouts config =
    taken.map Prod.snd ++ after.pendingRollouts config
  shares : ∀ name, taken.countP (fun item => decide (item.1 = name)) =
    itemsCount * before.arrivedPolicyNames.count name
  total : taken.length = itemsCount * before.arrivedPolicyNames.length
  origin : config.dataDispatchAsRankInMesh = true → ∀ item ∈ taken,
    ∃ (position : Nat) (queue : List Rollout),
      before.sortedPolicyNames[position]? = some item.1 ∧
        before.policy.rolloutBufferPerRank[position]? = some queue ∧ item.2 ∈ queue
  count_eq : after.policy.rolloutBufferPerRank.length =
    before.policy.rolloutBufferPerRank.length
  left : ∀ (position : Nat) (queue : List Rollout),
    after.policy.rolloutBufferPerRank[position]? = some queue →
      ∃ source : List Rollout, before.policy.rolloutBufferPerRank[position]? = some source ∧
        ∀ rollout ∈ queue, rollout ∈ source

theorem count_flatten_replicate (name : ReplicaName) (itemsCount : Nat) (names : List ReplicaName) :
    (List.replicate itemsCount names).flatten.count name = itemsCount * names.count name := by
  simp [count_flatten]

theorem perm_sortedPolicyNames (controller : Controller) :
    controller.sortedPolicyNames.Perm controller.arrivedPolicyNames :=
  (perm_insertionSort _ controller.arrivedPolicyReplicas).map Prod.fst

/-- Dispatching raises and leaves everything as it is, or publishes what it takes. -/
theorem dispatchRollouts_taken (separate : config.mode ≠ .colocated) (itemsCount : Nat)
    (controller : Controller) :
    (∃ exn, dispatchRollouts config itemsCount controller = .raise controller exn) ∨
      ∃ taken buffer queues,
        let popped : Controller := { controller with
          policy.rolloutBuffer := buffer
          policy.rolloutBufferPerRank := queues }
        dispatchRollouts config itemsCount controller = .ok (publishRollouts taken popped) ∧
          Taken config itemsCount controller taken popped := by
  unfold dispatchRollouts
  rw [if_neg separate]
  by_cases byRank : config.dataDispatchAsRankInMesh = true
  · rw [if_pos byRank]
    split
    · exact .inl ⟨_, rfl⟩
    · rename_i taken rest result
      have spec := takePerRank_spec result
      refine .inr ⟨taken, controller.policy.rolloutBuffer, rest, rfl, ?_, ?_, ?_, ?_,
        fun _ => spec.origin, spec.length_eq, spec.left⟩
      · simpa [Controller.pendingRollouts, byRank] using spec.moved
      · simp [byRank]
      · intro name
        rw [spec.shares, (perm_sortedPolicyNames controller).count_eq]
      · rw [spec.total, (perm_sortedPolicyNames controller).length_eq]
  · rw [if_neg byRank]
    split
    · exact .inl ⟨_, rfl⟩
    · rename_i taken rest result
      obtain ⟨front, names⟩ := takeForEach_spec result
      have whole : controller.pendingRollouts config = taken.map Prod.snd ++
          Controller.pendingRollouts config
            { controller with policy.rolloutBuffer := rest } := by
        simpa [Controller.pendingRollouts, byRank] using front
      refine .inr ⟨taken, rest, controller.policy.rolloutBufferPerRank, rfl,
        .of_eq whole, fun _ => whole, ?_, ?_, fun rank => absurd rank byRank, rfl,
        fun position queue found => ⟨queue, found, fun rollout inside => inside⟩⟩
      · intro name
        rw [← count_flatten_replicate, ← names, List.count, countP_map]
        rfl
      · rw [← length_targets, ← names, length_map]

/-- The `DataFetch` command of a step for one replica. -/
def fetchCommand (itemsCount : Nat) (doSave : Bool) (controller : Controller)
    (name : ReplicaName) : Published :=
  ⟨name, .command (.dataFetch name itemsCount controller.policy.currentStep
    controller.policy.totalSteps controller.policy.remainSamplesNum doSave)⟩

/-- The state after the `DataFetch` commands of a step. -/
def Controller.announced (itemsCount : Nat) (doSave : Bool) (names : List ReplicaName)
    (controller : Controller) : Controller :=
  { controller with
    redis := controller.redis ++ names.map (fetchCommand itemsCount doSave controller)
    policy.status := setAllStatus names .running controller.policy.status }

theorem sendDataFetches_eq (itemsCount : Nat) (doSave : Bool) {names : List ReplicaName}
    {controller : Controller} (present : ∀ name ∈ names, name ∈ controller.policy.status.keys) :
    Outcome.forEach (sendDataFetch itemsCount doSave) names controller =
      .ok (controller.announced itemsCount doSave names) := by
  induction names generalizing controller with
  | nil => simp [setAllStatus, Controller.announced]
  | cons first rest ih =>
    let sent : Controller :=
      { dataFetchTrigger first itemsCount controller.policy.currentStep
          controller.policy.totalSteps controller.policy.remainSamplesNum doSave
          controller with
        policy.status := controller.policy.status.set first .running }
    have laterPresent : ∀ name ∈ rest, name ∈ sent.policy.status.keys := by
      intro name inside
      exact Dict.mem_keys_set.mpr (.inr (present name (by simp [inside])))
    have later := ih laterPresent
    rw [Outcome.forEach_cons,
      sendDataFetch_of_mem itemsCount doSave (present first (by simp)), Outcome.ok_andThen]
    refine later.trans ?_
    simp [sent, dataFetchTrigger, Controller.publishCommand, setAllStatus, fetchCommand,
      Controller.announced]
    rfl

theorem nodup_arrivedPolicyNames (controller : Controller) : controller.arrivedPolicyNames.Nodup :=
  (filter_sublist.map Prod.fst).nodup controller.policy.policyReplicas.nodup_keys

/-- The rollouts of a step and the commands that announce them. -/
theorem fetchesFed_step {names : List ReplicaName} (nodup : names.Nodup)
    (shares : ∀ name, taken.countP (fun item => decide (item.1 = name)) =
      itemsCount * names.count name) (doSave : Bool) (controller : Controller) :
    FetchesFed (taken.map (fun item => ⟨item.1, .rollout item.2⟩) ++
      names.map (fetchCommand itemsCount doSave controller)) := by
  intro name
  have unmarked : ∀ entry ∈ taken.map fun item => (⟨item.1, .rollout item.2⟩ : Published),
      entry.itemsFor name = none := by
    intro entry inside
    obtain ⟨item, _, rfl⟩ := mem_map.mp inside
    simp [Published.itemsFor, Published.sentFetch?]
  have others : ∀ others : List ReplicaName, name ∉ others →
      (∀ entry ∈ others.map (fetchCommand itemsCount doSave controller),
        entry.itemsFor name = none) ∧
      (∀ entry ∈ others.map (fetchCommand itemsCount doSave controller),
        entry.isRolloutFor name = false) := by
    intro others absent
    refine ⟨?_, ?_⟩
    · intro entry inside
      obtain ⟨other, member, rfl⟩ := mem_map.mp inside
      have different : other ≠ name := fun same => absent (same ▸ member)
      simp [Published.itemsFor, fetchCommand, different]
    · intro entry inside
      obtain ⟨other, _, rfl⟩ := mem_map.mp inside
      simp [Published.isRolloutFor, Published.rollout?, fetchCommand]
  have rollouts : (taken.map fun item => (⟨item.1, .rollout item.2⟩ : Published)).countP
      (Published.isRolloutFor name) = itemsCount * names.count name := by
    rw [← shares, countP_map]
    congr 1
    funext item
    simp [Published.isRolloutFor, Published.rollout?]
  by_cases member : name ∈ names
  · obtain ⟨earlier, later, rfl⟩ := append_of_mem member
    rw [nodup_append, nodup_cons] at nodup
    obtain ⟨_, ⟨notLater, _⟩, apart⟩ := nodup
    have notEarlier : name ∉ earlier := fun inside => apart name inside name (by simp) rfl
    obtain ⟨earlierUnmarked, earlierOther⟩ := others earlier notEarlier
    obtain ⟨laterUnmarked, laterOther⟩ := others later notLater
    have once : (earlier ++ name :: later).count name = 1 := by
      simp [count_append, count_eq_zero_of_not_mem notEarlier,
        count_eq_zero_of_not_mem notLater]
    rw [once, Nat.mul_one] at rollouts
    have earlierCount : (earlier.map (fetchCommand itemsCount doSave controller)).countP
        (Published.isRolloutFor name) = 0 :=
      countP_eq_zero.mpr fun entry inside => by simp [earlierOther entry inside]
    have batch : Announced (Published.isRolloutFor name) (Published.itemsFor name)
        ((taken.map (fun item => (⟨item.1, .rollout item.2⟩ : Published)) ++
          earlier.map (fetchCommand itemsCount doSave controller)) ++
            [fetchCommand itemsCount doSave controller name]) := by
      apply Announced.of_batch
      · intro entry inside
        rcases mem_append.mp inside with front | back
        · exact unmarked entry front
        · exact earlierUnmarked entry back
      · rw [countP_append, rollouts, earlierCount, Nat.add_zero]
        simp [Published.itemsFor, Published.sentFetch?, fetchCommand]
    have whole := batch.append (Announced.of_quiet laterUnmarked laterOther)
    simpa using whole
  · obtain ⟨noMarks, noItems⟩ := others names member
    rw [count_eq_zero_of_not_mem member, Nat.mul_zero, countP_eq_zero] at rollouts
    apply Announced.of_quiet
    · intro entry inside
      rcases mem_append.mp inside with front | back
      · exact unmarked entry front
      · exact noMarks entry back
    · intro entry inside
      rcases mem_append.mp inside with front | back
      · simpa using rollouts entry front
      · exact noItems entry back

theorem sentRollouts_step (taken : List (ReplicaName × Rollout)) (itemsCount : Nat)
    (doSave : Bool) (controller : Controller) (names : List ReplicaName) :
    sentRollouts (taken.map (fun item => ⟨item.1, .rollout item.2⟩) ++
      names.map (fetchCommand itemsCount doSave controller)) = taken.map Prod.snd := by
  have rollouts : (taken.map fun item => (⟨item.1, .rollout item.2⟩ : Published)).filterMap
      Published.rollout? = taken.map Prod.snd := by
    rw [filterMap_map, ← filterMap_eq_map]
    rfl
  have fetches : (names.map (fetchCommand itemsCount doSave controller)).filterMap
      Published.rollout? = [] := by
    rw [filterMap_map, filterMap_eq_nil_iff]
    intro name _
    rfl
  rw [sentRollouts, filterMap_append, rollouts, fetches, append_nil]

structure StepDispatched (config : Config) (itemsCount required : Nat) (before : Controller)
    (taken : List (ReplicaName × Rollout)) (after : Controller) : Prop where
  spec : Taken config itemsCount before taken after
  log : ∃ (doSave : Bool) (announcing : Controller), after.redis = before.redis ++
    (taken.map (fun item => ⟨item.1, .rollout item.2⟩) ++
      before.arrivedPolicyNames.map (fetchCommand itemsCount doSave announcing))
  remain_eq : after.policy.remainSamplesNum = before.policy.remainSamplesNum - required

/-- Issuing raises before anything is taken, or dispatches the step. -/
theorem issueStep_dispatched (separate : config.mode ≠ .colocated)
    (wellFormed : WellFormed controller) (itemsCount required : Nat) :
    let result := issueStep config itemsCount required controller
    (∃ exn, result = .raise (issueGated config required controller) exn) ∨
      (result.raised = none ∧
        ∃ taken, StepDispatched config itemsCount required controller taken result.state) := by
  intro result
  let gated := issueGated config required controller
  obtain ⟨same, sameBuffer, sameQueues, _⟩ := @gated_fields config required controller
  have gatedStatus : gated.policy.status = controller.policy.status :=
    (quiet_issueGated required controller).status_eq
  have gatedRemain : gated.policy.remainSamplesNum =
      controller.policy.remainSamplesNum - required := by
    unfold gated issueGated validationActivateDataloader
    dsimp only
    split
    · split <;> rfl
    · rfl
  have gatedNames : gated.arrivedPolicyNames = controller.arrivedPolicyNames := by
    unfold Controller.arrivedPolicyNames Controller.arrivedPolicyReplicas
    rw [same.replicas_eq]
  have gatedPending : gated.pendingRollouts config = controller.pendingRollouts config := by
    unfold Controller.pendingRollouts
    rw [sameBuffer, sameQueues]
  have unfolded := @issueStep_eq config itemsCount required controller
  rcases dispatchRollouts_taken separate itemsCount gated with
    ⟨exn, raised⟩ | ⟨taken, buffer, queues, dispatched, spec⟩
  · refine .inl ⟨exn, ?_⟩
    rw [show result = _ from unfolded, raised, Outcome.raise_andThen]
  · let popped : Controller := { gated with
      policy.rolloutBuffer := buffer
      policy.rolloutBufferPerRank := queues }
    let sent := publishRollouts taken popped
    let doSave := checkCheckpointSaving config required sent
    have sentPolicy : sent.policy = popped.policy := policy_publishRollouts taken popped
    have sentNames : sent.arrivedPolicyNames = controller.arrivedPolicyNames := by
      rw [← gatedNames]
      unfold Controller.arrivedPolicyNames Controller.arrivedPolicyReplicas
      rw [sentPolicy]
    have present : ∀ name ∈ sent.arrivedPolicyNames, name ∈ sent.policy.status.keys := by
      intro name inside
      rw [sentPolicy]
      show name ∈ gated.policy.status.keys
      rw [gatedStatus]
      rw [sentNames] at inside
      exact (wellFormed.statusKeys name).mpr inside
    have announced := @sendDataFetches_eq itemsCount doSave _ sent present
    have resultEq : result =
        .ok (sent.announced itemsCount doSave sent.arrivedPolicyNames) := by
      rw [show result = _ from unfolded, dispatched, Outcome.ok_andThen]
      exact announced
    have sentPending : Controller.pendingRollouts config
        (sent.announced itemsCount doSave sent.arrivedPolicyNames) =
          popped.pendingRollouts config := by
      show sent.pendingRollouts config = _
      unfold Controller.pendingRollouts
      rw [sentPolicy]
    have sentRedis : sent.redis = controller.redis ++
        taken.map (fun item => ⟨item.1, .rollout item.2⟩) := by
      rw [← redis_issueGated required controller]
      exact redis_publishRollouts taken popped
    have gatedSorted : gated.sortedPolicyNames = controller.sortedPolicyNames := by
      unfold Controller.sortedPolicyNames Controller.arrivedPolicyReplicas
      rw [same.replicas_eq]
    have sentQueues : sent.policy.rolloutBufferPerRank = queues := by rw [sentPolicy]
    obtain ⟨moved, inOrder, shares, total, origin, count, left⟩ := spec
    rw [gatedPending] at moved inOrder
    rw [gatedNames] at shares total
    rw [gatedSorted, sameQueues] at origin
    rw [sameQueues] at count left
    rw [resultEq]
    refine .inr ⟨rfl, taken, ⟨?_, ?_, shares, total, origin, ?_, ?_⟩, ⟨doSave, sent, ?_⟩, ?_⟩
    · rw [Outcome.ok_state, sentPending]
      exact moved
    · rw [Outcome.ok_state, sentPending]
      exact inOrder
    · show sent.policy.rolloutBufferPerRank.length = _
      rw [sentQueues]
      exact count
    · intro position queue found
      rw [Outcome.ok_state] at found
      exact left position queue (sentQueues ▸ found)
    · rw [Outcome.ok_state, Controller.announced, sentNames, sentRedis, append_assoc]
    · show sent.policy.remainSamplesNum = _
      rw [sentPolicy]
      exact gatedRemain

theorem StepDispatched.traffic {required : Nat} {before after : Controller}
    (step : StepDispatched config itemsCount required before taken after)
    (consumed : required = itemsCount * before.arrivedPolicyNames.length) :
    Traffic config {} before after := by
  obtain ⟨doSave, announcing, redis⟩ := step.log
  refine ⟨_, redis, ?_, ?_⟩
  · rw [sentRollouts_step]
    exact .deliver step.spec.moved step.spec.inOrder
  · intro _
    refine ⟨fetchesFed_step (nodup_arrivedPolicyNames before) step.spec.shares doSave
      announcing, ?_⟩
    rw [sentRollouts_step, length_map, step.spec.total, step.remain_eq, consumed]
    simp

theorem traffic_issueStep_colocated (colocated : config.mode = .colocated)
    (itemsCount required : Nat) (controller : Controller) :
    Traffic config {} controller
      (issueStep config itemsCount required controller).state := by
  have announce : ∀ doSave name current, Traffic config {} current
      (sendDataFetch itemsCount doSave name current).state := by
    intro doSave name current
    have sent : Traffic config {} current
        (dataFetchTrigger name itemsCount current.policy.currentStep
          current.policy.totalSteps current.policy.remainSamplesNum doSave current) :=
      @Traffic.published _ _ _ [name]
        (.dataFetch name itemsCount current.policy.currentStep current.policy.totalSteps
          current.policy.remainSamplesNum doSave)
        (fun separate => absurd colocated separate) rfl rfl rfl
    exact sent.still (traffic_setStatus name .running _)
  have advanced : Traffic config {} controller { controller with
      policy.remainSamplesNum := controller.policy.remainSamplesNum - required
      policy.currentStep := controller.policy.currentStep + 1 } :=
    .silent 0 rfl rfl fun separate => absurd colocated separate
  have gated : Traffic config {} controller (issueGated config required controller) := by
    unfold issueGated
    dsimp only
    split
    · exact advanced.still (traffic_parts.validationActivateDataloader _ _)
    · exact advanced
  rw [issueStep_eq]
  apply Traffic.andThen
  · unfold dispatchRollouts
    rw [if_pos colocated]
    exact gated
  · exact fun state => .forEach (announce _) state

theorem FleetSound.poll (sound : FleetSound config controller) :
    (tryTriggerDataFetchAndTraining config false controller).raised = none ∧
      Traffic config {} controller
        (tryTriggerDataFetchAndTraining config false controller).state := by
  rw [tryTrigger_eq]
  by_cases enabled : TriggerEnabled config controller
  · rw [if_pos enabled]
    have raised := (issueStep_of_enabled sound.wellFormed enabled sound.queuesBuilt).1
    refine ⟨raised, ?_⟩
    by_cases colocated : config.mode = .colocated
    · exact traffic_issueStep_colocated colocated _ _ controller
    · rcases issueStep_dispatched colocated sound.wellFormed config.trainBatchPerReplica
        (controller.rolloutsPerStep config) with ⟨exn, failed⟩ | ⟨_, taken, dispatched⟩
      · rw [failed] at raised
        cases raised
      · apply dispatched.traffic
        simp [Controller.rolloutsPerStep, Controller.arrivedPolicyNames]
  · rw [if_neg enabled]
    exact ⟨rfl, .refl controller⟩

theorem traffic_fakeStep (wellFormed : WellFormed controller) :
    Traffic config {} controller (issueStep config 0 0 controller).state := by
  by_cases colocated : config.mode = .colocated
  · exact traffic_issueStep_colocated colocated 0 0 controller
  · rcases issueStep_dispatched colocated wellFormed 0 0 with
      ⟨exn, failed⟩ | ⟨_, taken, dispatched⟩
    · obtain ⟨_, sameBuffer, sameQueues, _⟩ := @gated_fields config 0 controller
      rw [failed]
      refine .untouched (redis_issueGated 0 controller) sameBuffer sameQueues ?_
      unfold Outcome.raise issueGated validationActivateDataloader
      dsimp only
      split
      · split <;> exact Int.sub_zero _
      · exact Int.sub_zero _
    · apply dispatched.traffic
      simp

end CosmosRl.Dispatcher
