import CosmosRl.Foundation.Routes
import CosmosRl.Policy.MiniBatchSlots

/-!
The mini-batches that a pass over the batch meets, and the slots it uses for them.

The route of a pass holds the mini-batches that are not skipped, up to the first point
where the step ends for a reason of its own: a mini-batch that cannot be read, a chunk that
cannot be arranged.  Whatever else ends it, a pass uses slots for stations of its route
only, in steps of one or none.
-/

namespace CosmosRl.Policy

open CosmosRl.Data CosmosRl.Foundation List
open CosmosRl.Dispatcher (PyError)

section Routes

variable {Value : Type} [Zero Value] [LT Value] [DecidableLT Value]
  (config : SlotConfig) (rollouts : List (Rollout Value))
  (results : String → Option (List (List Value)))

/-- By how much a mini-batch moves `local_mini_step`. -/
def slotStride (config : SlotConfig) (phase : TrainerPhase) : Nat :=
  if config.pipeline.isSome ∧ phase ≠ .train then 0 else 1

def roundRoute (phase : TrainerPhase)
    (round : MiniBatchId × List ProcessedSample × List Nat) : Route MiniBatchId :=
  if skipsMiniBatch config.grpo rollouts results round.2.2 then .onward
  else
    match readSignals config.grpo rollouts results round.2.1 round.2.2 with
    | .error _ => .stop
    | .ok _ => ⟨[round.1], !(decide (phase = .train) && decide (config.stepInterval = some 0))⟩

def closingRoute (phase : TrainerPhase) (bound : Bool) (step : Nat)
    (visited : List MiniBatchId) : Route MiniBatchId :=
  if phase = .train ∧ bound = false ∧ step = 0 ∧ visited = [] then .stop else .onward

variable (policyInput : Rollout Value → RLPolicyInput) (gathered : Nat → Nat)

def roundsRoute (phase : TrainerPhase) (step : Nat)
    (arrangement : List (List ProcessedSample) × List (List Nat)) : Route MiniBatchId :=
  .through ((roundsOf step arrangement).map
    (roundRoute config rollouts results phase))

def chunkRoute (phase : TrainerPhase) (bound : Bool) (chunk : Nat × Nat) :
    Route MiniBatchId :=
  match arrangementOf config.grpo rollouts policyInput gathered chunk.1 chunk.2 with
  | .error _ => .stop
  | .ok arrangement =>
    let rounds := roundsRoute config rollouts results phase chunk.2 arrangement
    rounds.andThen (closingRoute phase bound chunk.2 rounds.visited)

/-- One mu-iteration of a phase; `bound` says whether `all_reduced` was assigned before. -/
def passRoute (phase : TrainerPhase) (bound : Bool) : Route MiniBatchId :=
  .through ((chunkStarts config.grpo rollouts).zipIdx.map
    (chunkRoute config rollouts results policyInput gathered phase bound))

def keptIds (chunk : Nat × Nat) : List MiniBatchId :=
  match arrangementOf config.grpo rollouts policyInput gathered chunk.1 chunk.2 with
  | .error _ => []
  | .ok arrangement => (roundsOf chunk.2 arrangement).flatMap fun round =>
    if skipsMiniBatch config.grpo rollouts results round.2.2 then []
    else [round.1]

def allKeptIds : List MiniBatchId :=
  (chunkStarts config.grpo rollouts).zipIdx.flatMap
    (keptIds config rollouts results policyInput gathered)

theorem roundRoute_along (phase : TrainerPhase)
    (round : MiniBatchId × List ProcessedSample × List Nat) :
    Route.Along
      (if skipsMiniBatch config.grpo rollouts results round.2.2 then []
        else [round.1])
      (roundRoute config rollouts results phase round) := by
  unfold roundRoute
  split
  · exact .onward
  · split
    · exact .stop _
    · exact ⟨prefix_refl _, fun _ => rfl⟩

theorem passRoute_along (phase : TrainerPhase) (bound : Bool) :
    Route.Along (allKeptIds config rollouts results policyInput gathered)
      (passRoute config rollouts results policyInput gathered phase bound) := by
  refine Route.Along.through fun chunk _ => ?_
  unfold keptIds chunkRoute
  split
  · exact .stop _
  · rw [← append_nil (List.flatMap _ _)]
    refine Route.Along.andThen (Route.Along.through fun round _ => roundRoute_along ..) ?_
    unfold closingRoute
    split
    · exact .stop _
    · exact .onward

theorem pairwise_zipIdx {Entry : Type*} (entries : List Entry) :
    entries.zipIdx.Pairwise fun first second => first.2 ≠ second.2 := by
  have distinct : (entries.zipIdx.map Prod.snd).Nodup := by
    rw [zipIdx_map_snd]
    exact nodup_range'
  exact pairwise_map.mp distinct

omit [Zero Value] [LT Value] [DecidableLT Value] in
/-- No mini-batch is met twice. -/
theorem nodup_allKeptIds :
    (allKeptIds config rollouts results policyInput gathered).Nodup := by
  have places : ∀ chunk id, id ∈ keptIds config rollouts results policyInput
      gathered chunk → id.1 = chunk.2 := by
    intro chunk id member
    unfold keptIds at member
    split at member
    · cases member
    · obtain ⟨round, inRounds, isRound⟩ := mem_flatMap.mp member
      obtain ⟨entry, -, rfl⟩ := mem_map.mp inRounds
      split at isRound
      · cases isRound
      · rw [mem_singleton.mp isRound]
  rw [allKeptIds, nodup_flatMap]
  constructor
  · intro chunk _
    unfold keptIds
    split
    · exact nodup_nil
    · rw [roundsOf, flatMap_map, nodup_flatMap]
      constructor
      · intro entry _
        split
        · exact nodup_nil
        · exact nodup_singleton _
      · refine (pairwise_zipIdx _).imp ?_
        intro first second different id inFirst inSecond
        simp only at inFirst inSecond
        split at inFirst
        · cases inFirst
        · split at inSecond
          · cases inSecond
          · rw [mem_singleton] at inFirst inSecond
            exact different (Prod.mk.inj (inFirst.symm.trans inSecond)).2
  · refine (pairwise_zipIdx _).imp ?_
    intro first second different id inFirst inSecond
    exact different ((places _ _ inFirst).symm.trans (places _ _ inSecond))

structure Follows (phase : TrainerPhase) (route : Route MiniBatchId)
    (before : StepSlots Value) (outcome : Outcome PyError (StepSlots Value)) : Prop where
  uses : ∃ new, outcome.state.uses = before.uses ++ new ∧ ∀ use ∈ new, ∃ place,
    route.visited[place]? = some use.miniBatch ∧
      use.index = before.localMiniStep + slotStride config phase * place
  goesOn : outcome.raised = none → route.goesOn = true
  counted : outcome.raised = none → outcome.state.localMiniStep =
    before.localMiniStep + slotStride config phase * route.visited.length
  bound : outcome.raised = none → outcome.state.progress.miniSteps.allReducedBound =
    (before.progress.miniSteps.allReducedBound ||
      (decide (phase = .train) && !route.visited.isEmpty))

variable {config} {phase : TrainerPhase}

section

omit [Zero Value] [LT Value] [DecidableLT Value]

theorem Follows.onward (before : StepSlots Value) :
    Follows config phase .onward before (.ok before) where
  uses := ⟨[], by simp, by simp⟩
  goesOn := fun _ => rfl
  counted := fun _ => rfl
  bound := fun _ => by simp [Route.onward]

theorem Follows.stop (before : StepSlots Value) (exn : PyError) :
    Follows config phase .stop before (.raise before exn) where
  uses := ⟨[], by simp, by simp⟩
  goesOn := fun finished => by cases finished
  counted := fun finished => by cases finished
  bound := fun finished => by cases finished

end

variable {before : StepSlots Value} {outcome : Outcome PyError (StepSlots Value)}
  {next : StepSlots Value → Outcome PyError (StepSlots Value)}

omit [Zero Value] [LT Value] [DecidableLT Value] in
/-- Two parts, one after the other. -/
theorem Follows.andThen {first second : Route MiniBatchId}
    (follows : Follows config phase first before outcome) (later : outcome.raised = none →
      Follows config phase second outcome.state (next outcome.state)) :
    Follows config phase (first.andThen second) before (outcome.andThen next) := by
  obtain ⟨new, isNew, placed⟩ := follows.uses
  rcases outcome.andThen_cases next with ⟨⟨exn, raised⟩, same⟩ | ⟨finished, same⟩
  · rw [same]
    have failed : outcome.raised ≠ none := by simp [raised]
    refine ⟨⟨new, isNew, fun use member => ?_⟩, fun finished => absurd finished failed,
      fun finished => absurd finished failed, fun finished => absurd finished failed⟩
    obtain ⟨place, met, index⟩ := placed use member
    exact ⟨place, getElem?_of_prefix (Route.prefix_visited_andThen first second) met, index⟩
  · have back := later finished
    obtain ⟨newer, isNewer, placedLater⟩ := back.uses
    rw [same, Route.andThen_of_goesOn (follows.goesOn finished)]
    have counted := follows.counted finished
    refine ⟨⟨new ++ newer, by rw [isNewer, isNew, append_assoc], ?_⟩, back.goesOn, ?_, ?_⟩
    · intro use member
      rcases mem_append.mp member with early | late
      · obtain ⟨place, met, index⟩ := placed use early
        exact ⟨place, getElem?_of_prefix (prefix_append _ _) met, index⟩
      · obtain ⟨place, met, index⟩ := placedLater use late
        refine ⟨first.visited.length + place, ?_, ?_⟩
        · rw [getElem?_append_right (Nat.le_add_right _ _), Nat.add_sub_cancel_left, met]
        · rw [index, counted, Nat.mul_add, Nat.add_assoc]
    · intro ended
      rw [back.counted ended, counted, length_append, Nat.mul_add, Nat.add_assoc]
    · intro ended
      rw [back.bound ended, follows.bound finished, Bool.or_assoc, ← Bool.and_or_distrib_left]
      cases first.visited <;> simp

structure UsesHere (phase : TrainerPhase) (miniBatch : MiniBatchId) (before : StepSlots Value)
    (outcome : Outcome PyError (StepSlots Value)) : Prop where
  uses : ∃ new, outcome.state.uses = before.uses ++ new ∧
    ∀ use ∈ new, use.miniBatch = miniBatch ∧ use.index = before.localMiniStep
  progress : outcome.state.progress = before.progress
  oldLength : outcome.state.oldPerTokenLogps.length = before.oldPerTokenLogps.length
  refLength : outcome.state.refPerTokenLogps.length = before.refPerTokenLogps.length
  others : ∀ slot, slot ≠ before.localMiniStep →
    outcome.state.oldPerTokenLogps[slot]? = before.oldPerTokenLogps[slot]?
  refKept : phase = .train → outcome.state.refPerTokenLogps = before.refPerTokenLogps

variable {iMu : Nat} {miniBatch : MiniBatchId}

section

omit [Zero Value] [LT Value] [DecidableLT Value]

theorem UsesHere.andThen (here : UsesHere phase miniBatch before outcome)
    (later : ∀ slots : StepSlots Value, UsesHere phase miniBatch slots (next slots)) :
    UsesHere phase miniBatch before (outcome.andThen next) := by
  obtain ⟨new, isNew, placed⟩ := here.uses
  rcases outcome.andThen_cases next with ⟨-, same⟩ | ⟨-, same⟩
  · rw [same]
    exact here
  · obtain ⟨newer, isNewer, placedLater⟩ := (later outcome.state).uses
    rw [same]
    have sameStep : outcome.state.localMiniStep = before.localMiniStep := by
      rw [StepSlots.localMiniStep, here.progress]
      rfl
    refine ⟨⟨new ++ newer, by rw [isNewer, isNew, append_assoc], ?_⟩,
      (later _).progress.trans here.progress, (later _).oldLength.trans here.oldLength,
      (later _).refLength.trans here.refLength, ?_,
      fun train => ((later _).refKept train).trans (here.refKept train)⟩
    · intro use member
      rcases mem_append.mp member with early | late
      · exact placed use early
      · obtain ⟨isId, index⟩ := placedLater use late
        exact ⟨isId, index.trans sameStep⟩
    · intro slot other
      exact ((later _).others slot (sameStep ▸ other)).trans (here.others slot other)

theorem usesHere_of_use (phase : TrainerPhase) (iMu : Nat)
    (written : outcome.state = before.use phase iMu miniBatch ∨
      (∃ stored, outcome.state = (before.use phase iMu miniBatch).setOld stored) ∨
      (phase ≠ .train ∧
        ∃ stored, outcome.state = (before.use phase iMu miniBatch).setRef stored)) :
    UsesHere phase miniBatch before outcome := by
  rcases written with same | ⟨stored, same⟩ | ⟨notTrain, stored, same⟩
  · refine ⟨⟨_, by rw [same]; rfl, ?_⟩, by rw [same]; rfl, ?_, ?_, ?_, ?_⟩ <;>
      simp [same, StepSlots.use]
  · refine ⟨⟨_, by rw [same]; rfl, ?_⟩, by rw [same]; rfl, ?_, ?_, ?_, ?_⟩
    · simp
    · simp [same, StepSlots.use, StepSlots.setOld]
    · simp [same, StepSlots.use, StepSlots.setOld]
    · intro slot other
      rw [same]
      exact getElem?_set_ne (Ne.symm other)
    · simp [same, StepSlots.use, StepSlots.setOld]
  · refine ⟨⟨_, by rw [same]; rfl, ?_⟩, by rw [same]; rfl, ?_, ?_, ?_,
      fun train => absurd train notTrain⟩ <;>
      simp [same, StepSlots.use, StepSlots.setRef]

theorem usesHere_self (before : StepSlots Value) (same : outcome.state = before) :
    UsesHere phase miniBatch before outcome := by
  rw [← same]
  exact ⟨⟨[], by simp, by simp⟩, rfl, rfl, rfl, fun _ _ => rfl, fun _ => rfl⟩

theorem usesHere_useSlot (slots : StepSlots Value) :
    UsesHere phase miniBatch slots (useSlot config rollouts phase iMu miniBatch slots) := by
  apply usesHere_of_use phase iMu
  unfold useSlot
  cases phase with
  | refCompute =>
    simp only
    split
    · exact .inr (.inr ⟨by decide, 1, rfl⟩)
    · exact .inl rfl
  | oldLogpCompute =>
    simp only
    split
    · exact .inr (.inl ⟨1, rfl⟩)
    · exact .inl rfl
  | train =>
    simp only
    split
    · exact .inl rfl
    · split
      · exact .inr (.inl ⟨1, rfl⟩)
      · exact .inl rfl
    · split <;> exact .inl rfl

theorem usesHere_ppGrpoForward (microBatch : Nat) (slots : StepSlots Value) :
    UsesHere phase miniBatch slots (ppGrpoForward phase iMu miniBatch microBatch slots) := by
  unfold ppGrpoForward
  cases phase with
  | refCompute =>
    apply usesHere_of_use .refCompute iMu
    simp only
    split
    · exact .inl rfl
    · exact .inr (.inr ⟨by decide, _, rfl⟩)
  | oldLogpCompute =>
    apply usesHere_of_use .oldLogpCompute iMu
    simp only
    split
    · exact .inl rfl
    · exact .inr (.inl ⟨_, rfl⟩)
  | train =>
    refine UsesHere.andThen (usesHere_of_use .train iMu ?_) fun used => usesHere_self used ?_
    · split
      · exact .inl rfl
      · split
        · exact .inr (.inl ⟨_, rfl⟩)
        · exact .inl rfl
      · split
        · exact .inl rfl
        · split <;> exact .inr (.inl ⟨_, rfl⟩)
    · split
      · rfl
      · rfl
      · split <;> rfl

theorem usesHere_forEach (microBatches : List Nat) (slots : StepSlots Value) :
    UsesHere phase miniBatch slots
      (Outcome.forEach (ppGrpoForward phase iMu miniBatch) microBatches slots) := by
  induction microBatches generalizing slots with
  | nil => exact usesHere_self slots rfl
  | cons microBatch rest ih =>
    rw [Outcome.forEach_cons]
    exact (usesHere_ppGrpoForward microBatch slots).andThen ih

theorem usesHere_useSlots (slots : StepSlots Value) :
    UsesHere phase miniBatch slots (useSlots config rollouts phase iMu miniBatch slots) := by
  unfold useSlots
  split
  · exact usesHere_useSlot rollouts slots
  · unfold usePipelineSlots
    split
    · have used : UsesHere phase miniBatch slots (.ok (slots.use phase iMu miniBatch)) :=
        usesHere_of_use phase iMu (.inl rfl)
      simp only
      split
      · exact usesHere_of_use phase iMu (.inl rfl)
      · exact used.andThen (usesHere_forEach _)
    · exact usesHere_self slots rfl

/-- What the end of a round does. -/
theorem endRound_spec (slots : StepSlots Value) :
    (endRound config phase slots).state.uses = slots.uses ∧
      (endRound config phase slots).state.oldPerTokenLogps = slots.oldPerTokenLogps ∧
      (endRound config phase slots).state.refPerTokenLogps = slots.refPerTokenLogps ∧
      ((endRound config phase slots).state.progress.cachedMinibatchArrangements =
          slots.progress.cachedMinibatchArrangements ∧
        (endRound config phase slots).state.progress.localOptimizeStep =
          slots.progress.localOptimizeStep) ∧
      ((endRound config phase slots).raised = none ↔
        ¬(phase = .train ∧ config.stepInterval = some 0)) ∧
      ((endRound config phase slots).raised = none →
        (endRound config phase slots).state.localMiniStep =
            slots.localMiniStep + slotStride config phase ∧
          (endRound config phase slots).state.progress.miniSteps.allReducedBound =
            (slots.progress.miniSteps.allReducedBound || decide (phase = .train))) := by
  unfold endRound slotStride
  by_cases train : phase = .train
  · simp only [train, if_true]
    split
    case isTrue zero => simp [zero, StepSlots.advance]
    case isFalse positive => simp [positive, StepSlots.advance, StepSlots.localMiniStep]
  · simp only [train, if_false, ne_eq, not_false_eq_true, and_true]
    split
    case isTrue => simp
    case isFalse => simp [StepSlots.advance, StepSlots.localMiniStep]

end

variable {rollouts results}

/-- A mini-batch that can be read is given its slot. -/
theorem slotRound_follows (round : MiniBatchId × List ProcessedSample × List Nat)
    (before : StepSlots Value) :
    Follows config phase (roundRoute config rollouts results phase round) before
      (slotRound config rollouts results phase iMu round before) := by
  unfold roundRoute slotRound
  split
  · exact .onward before
  · cases read : readSignals config.grpo rollouts results round.2.1
        round.2.2 with
    | error exn => exact .stop before exn
    | ok signals =>
      have here := @usesHere_useSlots Value config rollouts phase iMu round.1 before
      obtain ⟨new, isNew, placed⟩ := here.uses
      rcases (useSlots config rollouts phase iMu round.1 before).andThen_cases
        (endRound config phase) with ⟨⟨exn, raised⟩, same⟩ | ⟨finished, same⟩
      · simp only [same]
        have failed : (useSlots config rollouts phase iMu round.1 before).raised ≠ none := by
          simp [raised]
        refine ⟨⟨new, isNew, fun use member => ⟨0, ?_, ?_⟩⟩, fun ended => absurd ended failed,
          fun ended => absurd ended failed, fun ended => absurd ended failed⟩
        · rw [getElem?_cons_zero, (placed use member).1]
        · exact (placed use member).2
      · obtain ⟨sameUses, -, -, -, ends, counts⟩ := @endRound_spec Value config phase
          (useSlots config rollouts phase iMu round.1 before).state
        have sameStep :
            (useSlots config rollouts phase iMu round.1 before).state.localMiniStep =
              before.localMiniStep := by
          rw [StepSlots.localMiniStep, here.progress]
          rfl
        simp only [same]
        refine ⟨⟨new, sameUses.trans isNew, fun use member => ⟨0, ?_, ?_⟩⟩, fun ended => ?_,
          fun ended => ?_, fun ended => ?_⟩
        · rw [getElem?_cons_zero, (placed use member).1]
        · exact (placed use member).2
        · have goes := ends.mp ended
          simp only [Bool.not_eq_true', Bool.and_eq_false_imp, decide_eq_true_eq,
            decide_eq_false_iff_not]
          exact fun train zero => goes ⟨train, zero⟩
        · rw [(counts ended).1, sameStep]
          simp
        · rw [(counts ended).2, here.progress]
          simp

theorem slotRounds_follows (rounds : List (MiniBatchId × List ProcessedSample × List Nat))
    (before : StepSlots Value) :
    Follows config phase
      (.through (rounds.map (roundRoute config rollouts results phase))) before
      (Outcome.forEach (slotRound config rollouts results phase iMu) rounds
        before) := by
  induction rounds generalizing before with
  | nil => exact .onward before
  | cons round rest ih =>
    rw [Outcome.forEach_cons, map_cons, Route.through]
    exact (slotRound_follows round before).andThen fun _ => ih _

theorem slotRounds_outside (rounds : List (MiniBatchId × List ProcessedSample × List Nat))
    (before : StepSlots Value) :
    (Outcome.forEach (slotRound config rollouts results phase iMu) rounds
        before).state.progress.cachedMinibatchArrangements =
          before.progress.cachedMinibatchArrangements ∧
      (Outcome.forEach (slotRound config rollouts results phase iMu) rounds
        before).state.progress.localOptimizeStep = before.progress.localOptimizeStep := by
  let Outside (slots : StepSlots Value) : Prop :=
    slots.progress.cachedMinibatchArrangements = before.progress.cachedMinibatchArrangements ∧
      slots.progress.localOptimizeStep = before.progress.localOptimizeStep
  refine @Outcome.forEach_preserves PyError (StepSlots Value) _ Outside _ rounds ?_ before
    ⟨rfl, rfl⟩
  intro round _ slots outside
  unfold slotRound
  split
  · exact outside
  · split
    · exact outside
    · have here := @usesHere_useSlots Value config rollouts phase iMu round.1 slots
      refine @Outcome.andThen_preserves PyError (StepSlots Value) Outside _ _ ?_ ?_
      · simp only [Outside, here.progress]
        exact outside
      · intro next outside
        obtain ⟨-, -, -, ⟨cached, number⟩, -, -⟩ := @endRound_spec Value config phase next
        simp only [Outside, cached, number]
        exact outside

variable (config rollouts) in
structure AtStep (step : Nat) (slots : StepSlots Value) : Prop where
  atChunk : AtChunk config.grpo rollouts policyInput gathered slots.progress
  number : slots.progress.localOptimizeStep = step

variable {policyInput} {gathered}

section

omit [Zero Value] [LT Value] [DecidableLT Value]

theorem cachedArrangement_error {progress : Progress Value} {i : Nat} {exn : PyError}
    (atChunk : AtChunk config.grpo rollouts policyInput gathered progress)
    (failed : cachedArrangement config.grpo rollouts policyInput gathered progress i =
      .error exn) :
    arrangementOf config.grpo rollouts policyInput gathered i progress.localOptimizeStep =
      .error exn := by
  rw [cachedArrangement] at failed
  cases lookup : progress.cachedMinibatchArrangements[progress.localOptimizeStep]? with
  | some cached => simp [lookup] at failed
  | none =>
    have last : progress.cachedMinibatchArrangements.length = progress.localOptimizeStep :=
      Nat.le_antisymm (getElem?_eq_none_iff.mp lookup) atChunk.reached
    simp only [lookup, last] at failed
    rw [arrangementOf]
    cases arranged : arrangeMiniBatches config.grpo (chunkAt config.grpo rollouts policyInput i)
        (gathered progress.localOptimizeStep) with
    | error other => simpa [arranged, Except.map] using failed
    | ok arrangement => simp [arranged, Except.map] at failed

theorem endChunk_follows {bound : Bool} {step : Nat} {visited : List MiniBatchId}
    (slots : StepSlots Value) (assigned : step = 0 → slots.progress.miniSteps.allReducedBound =
      (bound || (decide (phase = .train) && !visited.isEmpty))) :
    Follows config phase (closingRoute phase bound step visited) slots
        (endChunk phase slots) := by
  unfold endChunk
  split
  case isTrue raises =>
    have failed : (Outcome.raise slots (PyError.exception
        "local variable 'all_reduced' referenced before assignment")).raised ≠ none := by simp
    exact ⟨⟨[], by simp, by simp⟩, fun ended => absurd ended failed,
      fun ended => absurd ended failed, fun ended => absurd ended failed⟩
  case isFalse ends =>
    have further : closingRoute phase bound step visited = .onward := by
      refine if_neg ?_
      rintro ⟨train, fresh, first, none⟩
      apply ends
      rw [assigned first, fresh, none]
      exact ⟨train, by simp⟩
    rw [further]
    exact ⟨⟨[], by simp, by simp⟩, fun _ => rfl, fun _ => rfl, fun _ => by simp [Route.onward]⟩

end

/-- A chunk goes along its route and to the next number. -/
theorem slotChunk_follows {bound : Bool} {step i : Nat} {before : StepSlots Value}
    (atStep : AtStep config rollouts policyInput gathered step before)
    (current : (chunkStarts config.grpo rollouts)[step]? = some i)
    (assigned : step = 0 → before.progress.miniSteps.allReducedBound = bound) :
    Follows config phase
        (chunkRoute config rollouts results policyInput gathered phase bound
          (i, step)) before
        (slotChunk config rollouts results policyInput gathered phase iMu i
          before) ∧
      ((slotChunk config rollouts results policyInput gathered phase iMu i
          before).raised = none →
        AtStep config rollouts policyInput gathered (step + 1)
          (slotChunk config rollouts results policyInput gathered phase iMu i
            before).state) := by
  obtain ⟨atChunk, number⟩ := atStep
  subst number
  unfold slotChunk chunkRoute
  cases cached : cachedArrangement config.grpo rollouts policyInput gathered before.progress i with
  | error exn =>
    rw [cachedArrangement_error atChunk cached]
    exact ⟨.stop before exn, fun ended => by cases ended⟩
  | ok found =>
    obtain ⟨progress, arrangement⟩ := found
    obtain ⟨arranged, sound, reached, sameNumber, sameSteps, -⟩ :=
      cachedArrangement_ok config.grpo rollouts policyInput gathered atChunk current cached
    rw [arranged]
    simp only
    have follows := @slotRounds_follows Value _ _ _ config rollouts results
      phase iMu (roundsOf before.progress.localOptimizeStep arrangement)
      { before with progress := progress }
    obtain ⟨sameCache, outerNumber⟩ := @slotRounds_outside Value _ _ _ config rollouts
      results phase iMu
      (roundsOf before.progress.localOptimizeStep arrangement)
      { before with progress := progress }
    have here : Follows config phase
        (roundsRoute config rollouts results phase
          before.progress.localOptimizeStep arrangement) before
        (Outcome.forEach (slotRound config rollouts results phase iMu)
          (roundsOf before.progress.localOptimizeStep arrangement)
          { before with progress := progress }) := by
      obtain ⟨uses, goesOn, counted, boundAfter⟩ := follows
      simp only [StepSlots.localMiniStep, sameSteps] at uses counted boundAfter
      exact ⟨uses, goesOn, counted, boundAfter⟩
    constructor
    · refine here.andThen fun finished => endChunk_follows _ fun first => ?_
      rw [here.bound finished, assigned first]
    · intro ended
      rcases Outcome.andThen_cases (Outcome.forEach
          (slotRound config rollouts results phase iMu)
          (roundsOf before.progress.localOptimizeStep arrangement)
          { before with progress := progress }) (endChunk phase) with
        ⟨⟨exn, raised⟩, same⟩ | ⟨finished, same⟩
      · rw [same, raised] at ended
        cases ended
      · rw [same] at ended ⊢
        unfold endChunk at ended ⊢
        split at ended
        · cases ended
        · rename_i ends
          rw [if_neg ends]
          refine ⟨⟨?_, ?_⟩, ?_⟩
          · intro number arrangement' member
            exact sound number arrangement' (sameCache ▸ member)
          · simp only [Outcome.ok_state, outerNumber, sameCache, sameNumber]
            exact reached
          · simp only [Outcome.ok_state, outerNumber, sameNumber]

theorem slotChunks_follows {bound : Bool} {rest : List Nat} {step : Nat} {before : StepSlots Value}
    (atStep : AtStep config rollouts policyInput gathered step before)
    (isRest : (chunkStarts config.grpo rollouts).drop step = rest)
    (assigned : step = 0 → before.progress.miniSteps.allReducedBound = bound) :
    Follows config phase
        (.through ((rest.zipIdx step).map
          (chunkRoute config rollouts results policyInput gathered phase bound)))
        before
        (Outcome.forEach
          (slotChunk config rollouts results policyInput gathered phase iMu) rest
          before) ∧
      ((Outcome.forEach
          (slotChunk config rollouts results policyInput gathered phase iMu) rest
          before).raised = none →
        CacheSound config.grpo rollouts policyInput gathered
          (Outcome.forEach
            (slotChunk config rollouts results policyInput gathered phase iMu)
            rest before).state.progress) := by
  induction rest generalizing step before with
  | nil => exact ⟨.onward before, fun _ => atStep.atChunk.sound⟩
  | cons i rest ih =>
    have current : (chunkStarts config.grpo rollouts)[step]? = some i := by
      rw [← head?_drop, isRest, head?_cons]
    have next : (chunkStarts config.grpo rollouts).drop (step + 1) = rest := by
      rw [← tail_drop, isRest, tail_cons]
    obtain ⟨follows, moves⟩ := @slotChunk_follows Value _ _ _ config rollouts
      results policyInput gathered phase iMu bound step i before atStep current
      assigned
    rw [Outcome.forEach_cons, zipIdx_cons, map_cons, Route.through]
    have later := fun finished => ih (moves finished) next
      (fun zero => absurd zero (Nat.succ_ne_zero step))
    refine ⟨follows.andThen fun finished => (later finished).1, ?_⟩
    rcases Outcome.andThen_cases
        (slotChunk config rollouts results policyInput gathered phase iMu i before)
        (Outcome.forEach (slotChunk config rollouts results policyInput gathered
          phase iMu) rest) with ⟨⟨exn, raised⟩, same⟩ | ⟨finished, same⟩
    · rw [same, raised]
      intro ended
      cases ended
    · rw [same]
      exact (later finished).2

def StepSlots.restarted (slots : StepSlots Value) : StepSlots Value :=
  { slots with progress := iterationStart slots.progress }

theorem slotPass_follows {bound : Bool} {slots : StepSlots Value}
    (sound : CacheSound config.grpo rollouts policyInput gathered slots.progress)
    (assigned : slots.progress.miniSteps.allReducedBound = bound) :
    Follows config phase
        (passRoute config rollouts results policyInput gathered phase bound)
        slots.restarted
        (slotPass config rollouts results policyInput gathered (phase, iMu)
          slots) ∧
      ((slotPass config rollouts results policyInput gathered (phase, iMu)
          slots).raised = none →
        CacheSound config.grpo rollouts policyInput gathered
          (slotPass config rollouts results policyInput gathered (phase, iMu)
            slots).state.progress) :=
  slotChunks_follows ⟨⟨sound, Nat.zero_le _⟩, rfl⟩ drop_zero fun _ => assigned

end Routes

end CosmosRl.Policy
