import CosmosRl.Policy.SlotAgreement

/-!
A step whose first pass meets more mini-batches than it has slots for.

As long as there are slots, the first pass gives one to every mini-batch on its route
without an exception.  The next mini-batch uses a slot behind the last, or one that another
mini-batch has used.
-/

namespace CosmosRl.Policy

open CosmosRl.Data CosmosRl.Foundation List
open CosmosRl.Dispatcher (PyError)

section Rank

variable {Value : Type} [Zero Value] [LT Value] [DecidableLT Value]
  {config : SlotConfig} {rollouts : List (Rollout Value)}
  {results : String → Option (List (List Value))}
  {policyInput : Rollout Value → RLPolicyInput} {gathered : Nat → Nat}
  {phase : TrainerPhase} {miniBatch : MiniBatchId}

def StageReady (phase : TrainerPhase) (slots : StepSlots Value) : Prop :=
  match phase with
  | .refCompute => slots.localMiniStep < slots.refPerTokenLogps.length
  | .oldLogpCompute => slots.localMiniStep < slots.oldPerTokenLogps.length
  | .train => (∃ stored, 0 < stored ∧
      slots.oldPerTokenLogps[slots.localMiniStep]? = some (some stored)) ∧
    slots.refPerTokenLogps[slots.localMiniStep]? = some none

omit [Zero Value] [LT Value] [DecidableLT Value] in
theorem refPerTokenLogps_setOld (slots : StepSlots Value) (iMu stored : Nat) :
    ((slots.use phase iMu miniBatch).setOld stored).refPerTokenLogps =
      slots.refPerTokenLogps := rfl

variable {slots before : StepSlots Value} {iMu met : Nat}
  {outcome : Outcome PyError (StepSlots Value)}

section

omit [Zero Value] [LT Value] [DecidableLT Value]

theorem getElem?_setOld {former : Option Nat}
    (found : slots.oldPerTokenLogps[slots.localMiniStep]? = some former) (stored : Nat) :
    ((slots.use phase iMu miniBatch).setOld stored).oldPerTokenLogps[slots.localMiniStep]? =
      some (some stored) :=
  List.getElem?_set_self (List.getElem?_eq_some_iff.mp found).1

theorem ppGrpoForward_ready {iMu microBatch : Nat} {slots : StepSlots Value}
    (ready : StageReady phase slots) :
    (ppGrpoForward phase iMu miniBatch microBatch slots).raised = none ∧
      StageReady phase (ppGrpoForward phase iMu miniBatch microBatch slots).state := by
  have here := @usesHere_ppGrpoForward Value phase iMu miniBatch microBatch slots
  have sameStep : (ppGrpoForward phase iMu miniBatch microBatch slots).state.localMiniStep =
      slots.localMiniStep := by
    rw [StepSlots.localMiniStep, here.progress]
    rfl
  cases phase with
  | refCompute =>
    refine ⟨?_, by rw [StageReady, sameStep, here.refLength]; exact ready⟩
    obtain ⟨stored, found⟩ : ∃ stored,
        slots.refPerTokenLogps[slots.localMiniStep]? = some stored :=
      ⟨_, getElem?_eq_getElem ready⟩
    simp only [ppGrpoForward, found, Outcome.ok_raised]
  | oldLogpCompute =>
    refine ⟨?_, by rw [StageReady, sameStep, here.oldLength]; exact ready⟩
    obtain ⟨stored, found⟩ : ∃ stored,
        slots.oldPerTokenLogps[slots.localMiniStep]? = some stored :=
      ⟨_, getElem?_eq_getElem ready⟩
    simp only [ppGrpoForward, found, Outcome.ok_raised]
  | train =>
    obtain ⟨⟨stored, positive, found⟩, free⟩ := ready
    rw [StageReady, sameStep, here.refKept rfl]
    simp only [ppGrpoForward, found]
    split
    · simp only [Outcome.ok_andThen, StepSlots.use, free]
      exact ⟨rfl, ⟨stored, positive, found⟩, trivial⟩
    · split <;> simp only [Outcome.ok_andThen, refPerTokenLogps_setOld, free]
      · exact ⟨rfl, ⟨1, Nat.one_pos, getElem?_setOld found 1⟩, trivial⟩
      · exact ⟨rfl, ⟨stored + 1, Nat.succ_pos _, getElem?_setOld found _⟩, trivial⟩

theorem forEach_ppGrpoForward_ready (microBatches : List Nat) (ready : StageReady phase slots) :
    (Outcome.forEach (ppGrpoForward phase iMu miniBatch) microBatches slots).raised = none := by
  induction microBatches generalizing slots with
  | nil => rfl
  | cons microBatch rest ih =>
    obtain ⟨finished, next⟩ := @ppGrpoForward_ready Value phase miniBatch iMu microBatch slots ready
    rw [Outcome.forEach_cons, Outcome.andThen_of_finished finished]
    exact ih next

theorem forEach_ppGrpoForward_fresh {microBatches : List Nat}
    (startsWithFirst : microBatches.head? = some 0)
    (free : slots.oldPerTokenLogps[slots.localMiniStep]? = some none)
    (refInside : slots.localMiniStep < slots.refPerTokenLogps.length)
    (refFree : phase = .train → slots.refPerTokenLogps[slots.localMiniStep]? = some none) :
    (Outcome.forEach (ppGrpoForward phase iMu miniBatch) microBatches slots).raised = none := by
  cases phase with
  | refCompute => exact forEach_ppGrpoForward_ready microBatches refInside
  | oldLogpCompute =>
    exact forEach_ppGrpoForward_ready microBatches (List.getElem?_eq_some_iff.mp free).1
  | train =>
    obtain ⟨rest, rfl⟩ : ∃ rest, microBatches = 0 :: rest := by
      cases microBatches with
      | nil => cases startsWithFirst
      | cons first rest =>
        cases startsWithFirst
        exact ⟨rest, rfl⟩
    have refNone := refFree rfl
    have first : ppGrpoForward .train iMu miniBatch 0 slots =
        .ok ((slots.use .train iMu miniBatch).setOld 1) := by
      simp only [ppGrpoForward, free, if_true, Outcome.ok_andThen, refPerTokenLogps_setOld, refNone]
    rw [Outcome.forEach_cons, first, Outcome.ok_andThen]
    exact forEach_ppGrpoForward_ready rest ⟨⟨1, Nat.one_pos, getElem?_setOld free 1⟩, refNone⟩

theorem useSlots_fresh (free : slots.oldPerTokenLogps[slots.localMiniStep]? = some none)
    (refInside : slots.localMiniStep < slots.refPerTokenLogps.length)
    (refFree : phase = .train → slots.refPerTokenLogps[slots.localMiniStep]? = some none)
    (leading : phase = .train → needComputeOldAhead config.grpo rollouts.length = false) :
    (useSlots config rollouts phase 0 miniBatch slots).raised = none := by
  have inside := (List.getElem?_eq_some_iff.mp free).1
  unfold useSlots
  split
  · unfold useSlot
    cases phase with
    | refCompute => simp only [refInside, if_true, Outcome.ok_raised]
    | oldLogpCompute => simp only [inside, if_true, Outcome.ok_raised]
    | train => simp only [free, leading rfl, and_self, if_true, Outcome.ok_raised]
  · rename_i pipeline _
    unfold usePipelineSlots
    split
    · have passes : checkOldLogps config rollouts pipeline 0 slots = none := by
        simp only [checkOldLogps, free, if_true]
      simp only [passes]
      exact forEach_ppGrpoForward_fresh pipeline.startsWithFirst free refInside refFree
    · rfl

theorem exists_use {slots : StepSlots Value} {iMu : Nat} (lists : usesLists config = true) :
    ∃ use ∈ (useSlots config rollouts phase iMu miniBatch slots).state.uses,
      use.miniBatch = miniBatch ∧ use.index = slots.localMiniStep := by
  have recorded : ∀ outcome : Outcome PyError (StepSlots Value),
      (slots.use phase iMu miniBatch).uses <+: outcome.state.uses →
      ∃ use ∈ outcome.state.uses, use.miniBatch = miniBatch ∧ use.index = slots.localMiniStep :=
    fun outcome longer => ⟨⟨phase, iMu, miniBatch, slots.localMiniStep⟩,
      longer.subset (mem_append_right _ (mem_singleton_self _)), rfl, rfl⟩
  unfold useSlots
  split
  · refine recorded _ ?_
    unfold useSlot
    cases phase with
    | refCompute =>
      simp only
      split <;> exact prefix_refl _
    | oldLogpCompute =>
      simp only
      split <;> exact prefix_refl _
    | train =>
      simp only
      split
      · exact prefix_refl _
      · split <;> exact prefix_refl _
      · split <;> exact prefix_refl _
  · rename_i pipeline piped
    have last : pipeline.isLastStage = true := by
      rwa [usesLists, piped] at lists
    refine recorded _ ?_
    rw [usePipelineSlots, if_pos last]
    simp only
    split
    · exact prefix_refl _
    · obtain ⟨new, isNew, -⟩ := (@usesHere_forEach Value phase iMu miniBatch
        pipeline.microBatchCalls (slots.use phase iMu miniBatch)).uses
      exact ⟨new, isNew.symm⟩

end

variable (config rollouts) in
structure Fresh (phase : TrainerPhase) (met : Nat) (slots : StepSlots Value) : Prop where
  counted : slots.localMiniStep = slotStride config phase * met
  oldLength : slots.oldPerTokenLogps.length = numMiniBatch config.grpo rollouts.length
  refLength : slots.refPerTokenLogps.length = numMiniBatch config.grpo rollouts.length
  oldFree : ∀ slot, met ≤ slot → slot < numMiniBatch config.grpo rollouts.length →
    slots.oldPerTokenLogps[slot]? = some none
  refFree : phase = .train → ∀ slot, slot < numMiniBatch config.grpo rollouts.length →
    slots.refPerTokenLogps[slot]? = some none
  bound : phase = .train → 0 < met → slots.progress.miniSteps.allReducedBound = true

variable (config rollouts) in
structure Reaches (phase : TrainerPhase) (route : Route MiniBatchId) (met : Nat)
    (outcome : Outcome PyError (StepSlots Value)) : Prop where
  used : ∀ place id, route.visited[place]? = some id →
    met + place ≤ slotCapacity config rollouts phase →
      ∃ use ∈ outcome.state.uses, use.miniBatch = id ∧
        use.index = slotStride config phase * (met + place)
  finished : route.goesOn = true →
    met + route.visited.length ≤ slotCapacity config rollouts phase →
      outcome.raised = none ∧
        Fresh config rollouts phase (met + route.visited.length) outcome.state

section

omit [Zero Value] [LT Value] [DecidableLT Value]

theorem Reaches.onward (fresh : Fresh config rollouts phase met slots) :
    Reaches config rollouts phase .onward met (.ok slots) where
  used place id found _ := by simp [Route.onward] at found
  finished _ _ := ⟨rfl, fresh⟩

theorem Reaches.stop (outcome : Outcome PyError (StepSlots Value)) :
    Reaches config rollouts phase .stop met outcome where
  used place id found _ := by simp [Route.stop] at found
  finished further _ := by simp [Route.stop] at further

theorem Reaches.andThen {first second : Route MiniBatchId}
    {next : StepSlots Value → Outcome PyError (StepSlots Value)}
    (reaches : Reaches config rollouts phase first met outcome)
    (grows : outcome.raised = none → outcome.state.uses <+: (next outcome.state).state.uses)
    (later : outcome.raised = none →
      Fresh config rollouts phase (met + first.visited.length) outcome.state →
      Reaches config rollouts phase second (met + first.visited.length) (next outcome.state)) :
    Reaches config rollouts phase (first.andThen second) met (outcome.andThen next) := by
  have longer : outcome.state.uses <+: (outcome.andThen next).state.uses := by
    rcases outcome.andThen_cases next with ⟨-, same⟩ | ⟨finished, same⟩
    · exact ⟨[], by rw [same, append_nil]⟩
    · rw [same]
      exact grows finished
  have early : ∀ place id, first.visited[place]? = some id →
      met + place ≤ slotCapacity config rollouts phase →
      ∃ use ∈ (outcome.andThen next).state.uses, use.miniBatch = id ∧
        use.index = slotStride config phase * (met + place) := by
    intro place id found room
    obtain ⟨use, member, isUse⟩ := reaches.used place id found room
    exact ⟨use, longer.subset member, isUse⟩
  cases further : first.goesOn with
  | false =>
    rw [Route.andThen_of_stops further]
    exact ⟨early, fun goesOn => absurd goesOn (by simp [further])⟩
  | true =>
    rw [Route.andThen_of_goesOn further]
    by_cases room : met + first.visited.length ≤ slotCapacity config rollouts phase
    · obtain ⟨finished, fresh⟩ := reaches.finished further room
      have back := later finished fresh
      rw [Outcome.andThen_of_finished finished] at early ⊢
      constructor
      · intro place id found roomHere
        rw [getElem?_append] at found
        split at found
        · exact early place id found roomHere
        · rename_i behind
          obtain ⟨use, member, isId, index⟩ := back.used _ id found (by omega)
          refine ⟨use, member, isId, index.trans ?_⟩
          congr 1
          omega
      · intro goesOn roomAll
        rw [length_append, ← Nat.add_assoc] at roomAll ⊢
        exact back.finished goesOn roomAll
    · constructor
      · intro place id found roomHere
        rw [getElem?_append_left (by omega)] at found
        exact early place id found roomHere
      · intro _ roomAll
        rw [length_append] at roomAll
        omega

theorem slotCapacity_of_still (still : slotStride config phase = 0) :
    slotCapacity config rollouts phase ≤ 1 := by
  unfold slotStride at still
  split at still
  case isTrue piped =>
    rw [slotCapacity, if_pos piped]
  case isFalse => cases still

end

/-- A mini-batch that is met has its slot, or is the first for which there is none. -/
theorem slotRound_reaches
    (lists : usesLists config = true) (checked : checkSizes config rollouts = none)
    (leading : phase = .train → needComputeOldAhead config.grpo rollouts.length = false)
    (fresh : Fresh config rollouts phase met before)
    (round : MiniBatchId × List ProcessedSample × List Nat) :
    Reaches config rollouts phase
      (roundRoute config rollouts results phase round) met
      (slotRound config rollouts results phase 0 round before) := by
  unfold roundRoute slotRound
  split
  · exact .onward fresh
  · cases read : readSignals config.grpo rollouts results round.2.1
        round.2.2 with
    | error exn => exact .stop _
    | ok signals =>
      have here := @usesHere_useSlots Value config rollouts phase 0 round.1 before
      obtain ⟨sameUses, sameOld, sameRef, -, ends, counts⟩ := @endRound_spec Value config
        phase (useSlots config rollouts phase 0 round.1 before).state
      simp only
      constructor
      · intro place id found room
        obtain ⟨rfl, rfl⟩ : place = 0 ∧ round.1 = id := by
          rw [getElem?_singleton] at found
          split at found
          · exact ⟨by omega, by simpa using found⟩
          · cases found
        obtain ⟨use, member, isId, index⟩ := @exists_use Value config rollouts phase round.1
          before 0 lists
        refine ⟨use, ?_, isId, index.trans fresh.counted⟩
        rcases (useSlots config rollouts phase 0 round.1 before).andThen_cases
          (endRound config phase) with ⟨-, same⟩ | ⟨-, same⟩
        · rwa [same]
        · rwa [same, sameUses]
      · intro goesOn room
        have current : before.localMiniStep = met :=
          fresh.counted.trans (stride_mul_place slotCapacity_of_still (Nat.lt_of_succ_le room))
        have inside : met < numMiniBatch config.grpo rollouts.length :=
          Nat.lt_of_lt_of_le (Nat.lt_of_succ_le room) (slotCapacity_le checked phase)
        have free : before.oldPerTokenLogps[before.localMiniStep]? = some none := by
          rw [current]
          exact fresh.oldFree met (Nat.le_refl _) inside
        have served : (useSlots config rollouts phase 0 round.1 before).raised = none := by
          refine useSlots_fresh free ?_ (fun train => ?_) leading
          · rw [current, fresh.refLength]
            exact inside
          · rw [current]
            exact fresh.refFree train _ inside
        have continues := Outcome.andThen_of_finished served (endRound config phase)
        have ended := ends.mpr fun both => by simp [both.1, both.2] at goesOn
        obtain ⟨moved, bound⟩ := counts ended
        have sameStep :
            (useSlots config rollouts phase 0 round.1 before).state.localMiniStep =
              before.localMiniStep := by
          rw [StepSlots.localMiniStep, here.progress]
          rfl
        rw [continues]
        refine ⟨ended, ?_, ?_, ?_, ?_, ?_, ?_⟩
        · rw [moved, sameStep, fresh.counted, length_singleton, Nat.mul_succ]
        · rw [sameOld, here.oldLength, fresh.oldLength]
        · rw [sameRef, here.refLength, fresh.refLength]
        · intro slot later within
          have other : slot ≠ before.localMiniStep := by
            rw [current]
            exact Nat.ne_of_gt (Nat.lt_of_succ_le later)
          rw [sameOld, here.others slot other]
          exact fresh.oldFree slot (Nat.le_of_succ_le later) within
        · intro train slot within
          rw [sameRef, here.refKept train]
          exact fresh.refFree train slot within
        · intro train _
          rw [bound, train]
          simp

omit [Zero Value] [LT Value] [DecidableLT Value] in
theorem Follows.grows {route : Route MiniBatchId}
    (follows : Follows config phase route before outcome) :
    before.uses <+: outcome.state.uses := by
  obtain ⟨new, isNew, -⟩ := follows.uses
  exact ⟨new, isNew.symm⟩

theorem slotRounds_reaches {met : Nat} {before : StepSlots Value}
    (lists : usesLists config = true) (checked : checkSizes config rollouts = none)
    (leading : phase = .train → needComputeOldAhead config.grpo rollouts.length = false)
    (rounds : List (MiniBatchId × List ProcessedSample × List Nat))
    (fresh : Fresh config rollouts phase met before) :
    Reaches config rollouts phase
      (.through (rounds.map (roundRoute config rollouts results phase))) met
      (Outcome.forEach (slotRound config rollouts results phase 0) rounds
        before) := by
  induction rounds generalizing met before with
  | nil => exact .onward fresh
  | cons round rest ih =>
    rw [Outcome.forEach_cons, map_cons, Route.through]
    exact (slotRound_reaches lists checked leading fresh round).andThen
      (fun _ => (slotRounds_follows rest _).grows) fun _ next => ih next

omit [Zero Value] [LT Value] [DecidableLT Value] in
theorem endChunk_of_assigned
    (assigned : phase = .train → slots.progress.miniSteps.allReducedBound = true) :
    endChunk phase slots = .ok { slots with
      progress := { slots.progress with
        localOptimizeStep := slots.progress.localOptimizeStep + 1 } } := by
  refine if_neg fun unassigned => ?_
  rw [assigned unassigned.1] at unassigned
  cases unassigned.2

/-- A chunk of the first pass.  In the training phase, an earlier chunk has met a
mini-batch. -/
theorem slotChunk_reaches {met step i : Nat} {before : StepSlots Value}
    (lists : usesLists config = true) (checked : checkSizes config rollouts = none)
    (leading : phase = .train → needComputeOldAhead config.grpo rollouts.length = false)
    (atStep : AtStep config rollouts policyInput gathered step before)
    (current : (chunkStarts config.grpo rollouts)[step]? = some i)
    (fresh : Fresh config rollouts phase met before)
    (entered : phase = .train → 0 < step → 0 < met) :
    Reaches config rollouts phase
        (chunkRoute config rollouts results policyInput gathered phase false
          (i, step)) met
        (slotChunk config rollouts results policyInput gathered phase 0 i
          before) ∧
      ((chunkRoute config rollouts results policyInput gathered phase false
          (i, step)).goesOn = true → phase = .train → 0 < met +
        (chunkRoute config rollouts results policyInput gathered phase false
          (i, step)).visited.length) := by
  obtain ⟨atChunk, number⟩ := atStep
  subst number
  unfold slotChunk chunkRoute
  cases cached : cachedArrangement config.grpo rollouts policyInput gathered before.progress i with
  | error exn =>
    rw [cachedArrangement_error atChunk cached]
    exact ⟨.stop _, fun goesOn => by simp [Route.stop] at goesOn⟩
  | ok found =>
    obtain ⟨progress, arrangement⟩ := found
    obtain ⟨arranged, -, -, -, sameSteps, -⟩ :=
      cachedArrangement_ok config.grpo rollouts policyInput gathered atChunk current cached
    rw [arranged]
    simp only
    have freshHere : Fresh config rollouts phase met { before with progress := progress } := by
      obtain ⟨counted, oldLength, refLength, oldFree, refFree, bound⟩ := fresh
      simp only [StepSlots.localMiniStep, ← sameSteps] at counted bound
      exact ⟨counted, oldLength, refLength, oldFree, refFree, bound⟩
    have reaches := @slotRounds_reaches Value _ _ _ config rollouts results
      phase met _ lists checked leading
      (roundsOf before.progress.localOptimizeStep arrangement) freshHere
    obtain ⟨rounds, isRounds⟩ : ∃ rounds, roundsRoute config rollouts results
      phase before.progress.localOptimizeStep arrangement = rounds := ⟨_, rfl⟩
    rw [← roundsRoute, isRounds] at reaches
    rw [isRounds]
    -- training goes on only if a mini-batch has been met
    have closes : (closingRoute phase false before.progress.localOptimizeStep
        rounds.visited).goesOn = true → phase = .train → 0 < met + rounds.visited.length := by
      intro goesOn train
      by_contra none
      have first : ¬0 < before.progress.localOptimizeStep := fun later =>
        none (Nat.add_pos_left (entered train later) _)
      rw [closingRoute, if_pos ⟨train, rfl, by omega, length_eq_zero_iff.mp (by omega)⟩]
        at goesOn
      simp [Route.stop] at goesOn
    have noneVisited : (closingRoute phase false before.progress.localOptimizeStep
        rounds.visited).visited = [] := by
      unfold closingRoute
      split <;> rfl
    constructor
    · refine reaches.andThen (fun _ => ?_) fun _ next => ?_
      · unfold endChunk
        split <;> exact prefix_refl _
      · constructor
        · intro place id found
          rw [noneVisited] at found
          simp at found
        · intro goesOn _
          rw [noneVisited, endChunk_of_assigned fun train =>
            next.bound train (closes goesOn train)]
          obtain ⟨counted, oldLength, refLength, oldFree, refFree, bound⟩ := next
          exact ⟨rfl, counted, oldLength, refLength, oldFree, refFree, bound⟩
    · intro goesOn train
      obtain ⟨roundsOn, closingOn⟩ := Route.goesOn_andThen_iff.mp goesOn
      rw [Route.andThen_of_goesOn roundsOn, noneVisited, append_nil]
      exact closes closingOn train

theorem slotChunks_reaches {rest : List Nat} {step : Nat}
    (lists : usesLists config = true) (checked : checkSizes config rollouts = none)
    (leading : phase = .train → needComputeOldAhead config.grpo rollouts.length = false)
    (atStep : AtStep config rollouts policyInput gathered step before)
    (isRest : (chunkStarts config.grpo rollouts).drop step = rest)
    (fresh : Fresh config rollouts phase met before)
    (assigned : step = 0 → before.progress.miniSteps.allReducedBound = false)
    (entered : phase = .train → 0 < step → 0 < met) :
    Reaches config rollouts phase
      (.through ((rest.zipIdx step).map
        (chunkRoute config rollouts results policyInput gathered phase false)))
      met
      (Outcome.forEach
        (slotChunk config rollouts results policyInput gathered phase 0) rest
        before) := by
  induction rest generalizing met step before with
  | nil => exact .onward fresh
  | cons i rest ih =>
    have current : (chunkStarts config.grpo rollouts)[step]? = some i := by
      rw [← head?_drop, isRest, head?_cons]
    have next : (chunkStarts config.grpo rollouts).drop (step + 1) = rest := by
      rw [← tail_drop, isRest, tail_cons]
    obtain ⟨follows, moves⟩ := @slotChunk_follows Value _ _ _ config rollouts
      results policyInput gathered phase 0 false step i before atStep current
      assigned
    obtain ⟨reaches, enters⟩ := @slotChunk_reaches Value _ _ _ config rollouts
      results policyInput gathered phase met step i before lists checked leading
      atStep current fresh entered
    rw [Outcome.forEach_cons, zipIdx_cons, map_cons, Route.through]
    have notFirst : ∀ {Goal : Prop}, step + 1 = 0 → Goal := fun zero =>
      absurd zero (Nat.succ_ne_zero step)
    refine reaches.andThen (fun finished => ?_) fun finished later => ?_
    · exact (@slotChunks_follows Value _ _ _ config rollouts results
        policyInput gathered phase 0 false rest (step + 1) _ (moves finished) next
        notFirst).1.grows
    · exact ih (moves finished) next later notFirst
        fun train _ => enters (follows.goesOn finished) train

theorem slotPasses_grow {passes : List (TrainerPhase × Nat)}
    (sound : CacheSound config.grpo rollouts policyInput gathered slots.progress) :
    slots.uses <+: (Outcome.forEach
      (slotPass config rollouts results policyInput gathered) passes
      slots).state.uses := by
  induction passes generalizing slots with
  | nil => exact prefix_refl _
  | cons pass rest ih =>
    obtain ⟨follows, keeps⟩ := @slotPass_follows Value _ _ _ config rollouts
      results policyInput gathered pass.1 pass.2 _ slots sound rfl
    rw [Outcome.forEach_cons]
    rcases Outcome.andThen_cases (slotPass config rollouts results policyInput
        gathered pass slots) (Outcome.forEach (slotPass config rollouts results
        policyInput gathered) rest) with ⟨-, same⟩ | ⟨finished, same⟩
    · rw [same]
      exact follows.grows
    · rw [same]
      exact follows.grows.trans (ih (keeps finished))

omit [Zero Value] [LT Value] [DecidableLT Value] in
/-- More mini-batches than slots do not agree: one is behind the last slot, or two share the
first. -/
theorem not_slotsAgree_of_short {ids : List MiniBatchId} {uses : List SlotUse}
    (distinct : ids.Nodup) (tooMany : slotCapacity config rollouts phase < ids.length)
    (metUse : ∀ place id, ids[place]? = some id → place ≤ slotCapacity config rollouts phase →
      ∃ use ∈ uses, use.miniBatch = id ∧ use.index = slotStride config phase * place) :
    ¬SlotsAgree (numMiniBatch config.grpo rollouts.length) uses := by
  intro agree
  obtain ⟨use, member, isId, index⟩ := metUse _ _ (getElem?_eq_getElem tooMany) le_rfl
  by_cases still : config.pipeline.isSome ∧ phase ≠ .train
  · rw [slotCapacity, if_pos still] at tooMany
    obtain ⟨first, inFirst, isFirst, firstIndex⟩ :=
      metUse 0 _ (getElem?_eq_getElem (Nat.lt_trans Nat.one_pos tooMany)) (Nat.zero_le _)
    obtain ⟨second, inSecond, isSecond, secondIndex⟩ :=
      metUse 1 _ (getElem?_eq_getElem tooMany) (by rw [slotCapacity, if_pos still])
    rw [slotStride, if_pos still, Nat.zero_mul] at firstIndex secondIndex
    have same := agree.ownSlot first inFirst second inSecond (firstIndex.trans secondIndex.symm)
    rw [isFirst, isSecond] at same
    exact absurd ((distinct.getElem_inj_iff).mp same) Nat.zero_ne_one
  · have behind := agree.inside use member
    rw [index, slotStride, if_neg still, Nat.one_mul, slotCapacity, if_neg still] at behind
    exact Nat.lt_irrefl _ behind

variable (config rollouts results policyInput gathered) in
/-- The mini-batches of a step agree on their slots exactly if the first pass of the step
meets no more of them than it has slots for: `num_mini_batch`, or one in the last stage of a
pipeline in a phase before training. -/
theorem slotsAgree_iff :
    SlotsAgree (numMiniBatch config.grpo rollouts.length)
        (slotStep config rollouts results policyInput gathered).state.uses ↔
      SlotsSuffice config rollouts results policyInput gathered := by
  refine ⟨fun agree => ?_, slotsAgree_of_suffice⟩
  by_contra short
  simp only [SlotsSuffice, not_or, not_not, Bool.not_eq_false, not_forall, Nat.not_le] at short
  obtain ⟨checked, lists, pass, isFirst, tooMany⟩ := short
  obtain ⟨rest, passes⟩ : ∃ rest, slotPasses config rollouts = pass :: rest := by
    cases passes : slotPasses config rollouts with
    | nil =>
      rw [passes] at isFirst
      cases isFirst
    | cons first rest =>
      rw [passes] at isFirst
      cases isFirst
      exact ⟨rest, rfl⟩
  obtain ⟨phase, iMu⟩ := pass
  obtain ⟨rfl, leading⟩ := first_pass passes
  simp only at tooMany
  have fresh : Fresh config rollouts phase 0
      (StepSlots.restarted (initialSlots config rollouts)) :=
    ⟨rfl, length_replicate, length_replicate,
      fun slot _ within => getElem?_replicate_of_lt within,
      fun _ slot within => getElem?_replicate_of_lt within,
      fun _ positive => absurd positive (Nat.lt_irrefl 0)⟩
  have reaches : Reaches config rollouts phase
      (passRoute config rollouts results policyInput gathered phase false) 0
      (slotPass config rollouts results policyInput gathered (phase, 0)
        (initialSlots config rollouts)) :=
    slotChunks_reaches lists checked (fun train => (leading train).1)
      ⟨⟨cacheSound_initialSlots, Nat.zero_le _⟩, rfl⟩ drop_zero fresh (fun _ => rfl)
      fun _ later => absurd later (Nat.lt_irrefl 0)
  have grows : (slotPass config rollouts results policyInput gathered (phase, 0)
      (initialSlots config rollouts)).state.uses <+:
        (slotStep config rollouts results policyInput gathered).state.uses := by
    rw [slotStep, checked, passes]
    simp only
    rw [Outcome.forEach_cons]
    rcases Outcome.andThen_cases (slotPass config rollouts results policyInput
        gathered (phase, 0) (initialSlots config rollouts)) (Outcome.forEach (slotPass config
        rollouts results policyInput gathered) rest) with
      ⟨-, same⟩ | ⟨finished, same⟩
    · exact ⟨[], by rw [same, append_nil]⟩
    · rw [same]
      exact slotPasses_grow ((@slotPass_follows Value _ _ _ config rollouts
        results policyInput gathered phase 0 false (initialSlots config rollouts)
        cacheSound_initialSlots rfl).2 finished)
  refine not_slotsAgree_of_short ((nodup_allKeptIds config rollouts
    results policyInput gathered).sublist
      (passRoute_along ..).isPrefix.sublist) tooMany (fun place id found room => ?_) agree
  obtain ⟨use, member, isId, index⟩ := reaches.used place id found (by omega)
  exact ⟨use, grows.subset member, isId, by rw [index, Nat.zero_add]⟩

end Rank

def pairsConfig (pipeline : Option Pipeline) : SlotConfig where
  grpo :=
    { batchSizePerOptimize := none
      miniBatch := 2
      maxTokenLenPerMiniBatch := none
      cpSize := 1
      cpPositive := Nat.one_pos
      muIterations := 1
      needComputeRef := true
      useDecoupledLoss := false
      useRolloutLogprobsForLoss := false
      collectRolloutLogprobs := false
      positiveNll := false
      distillation := false
      includePrompt := false }
  stepInterval := none
  pipeline := pipeline

def lastOfTwoStages : Pipeline where
  pp := 2
  ppMicroBatchSize := 1
  isLastStage := true
  microBatchCalls := [0, 1]
  startsWithFirst := rfl

def plainRollout : Rollout Int where
  advantage := 1
  reward := 1
  completion := .tokenIds [7, 8]
  completionLogprobs := none
  promptLogprobs := none
  teacherResultUuid := ""
  nIgnorePrefixTokens := 0

def usesOfBatch (pipeline : Option Pipeline) (size : Nat) : List SlotUse :=
  (slotStep (pairsConfig pipeline) (List.replicate size plainRollout) (fun _ => none)
    (fun _ => ⟨[7, 8], [true, true]⟩) (fun _ => 0)).state.uses

/-- Of three rollouts, the second mini-batch has no slot.  In a pipeline with four, both
mini-batches of the reference phase use the first slot. -/
theorem not_slotsAgree_secondMiniBatch :
    ¬SlotsAgree (numMiniBatch (pairsConfig none).grpo 3) (usesOfBatch none 3) ∧
      ¬SlotsAgree (numMiniBatch (pairsConfig (some lastOfTwoStages)).grpo 4)
        (usesOfBatch (some lastOfTwoStages) 4) := by
  constructor
  · intro agree
    have member : ⟨.refCompute, 0, (0, 1), 1⟩ ∈ usesOfBatch none 3 := by decide
    exact absurd (agree.inside _ member) (by decide)
  · intro agree
    have first : ⟨.refCompute, 0, (0, 0), 0⟩ ∈ usesOfBatch (some lastOfTwoStages) 4 := by
      decide
    have second : ⟨.refCompute, 0, (0, 1), 0⟩ ∈ usesOfBatch (some lastOfTwoStages) 4 := by
      decide
    exact absurd (agree.ownSlot _ first _ second rfl) (by decide)

end CosmosRl.Policy
