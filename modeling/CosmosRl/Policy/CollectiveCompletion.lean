import CosmosRl.Policy.CollectiveSchedule
import CosmosRl.Policy.OwnSignals

/-!
What a rank had that went through its step without an exception: it could read all it
kept, had a slot for it, and kept a mini-batch of the first chunk.
-/

namespace CosmosRl.Policy

open CosmosRl.Data CosmosRl.Foundation List
open CosmosRl.Dispatcher (PyError)

section Rank

variable {Value : Type} [Zero Value] [LT Value] [DecidableLT Value]
  {config : CollectiveConfig} {rollouts : List (Rollout Value)}
  {results : String → Option (List (List Value))}
  {policyInput : Rollout Value → RLPolicyInput} {gathered : Nat → Nat}

structure FinishedMiniBatches (config : CollectiveConfig) (rollouts : List (Rollout Value))
    (results : String → Option (List (List Value))) (phase : TrainerPhase)
    (kept : List (List ProcessedSample × List Nat)) (before after : TracedProgress Value) :
    Prop where
  readable : ∀ miniBatch ∈ kept,
    Readable config.grpo rollouts results miniBatch
  bounded : before.progress.miniSteps.localMiniStep ≤ numMiniBatch config.grpo rollouts.length →
    before.progress.miniSteps.localMiniStep + kept.length ≤
      numMiniBatch config.grpo rollouts.length
  moved : after.progress.miniSteps.localMiniStep =
    before.progress.miniSteps.localMiniStep + kept.length
  slots : after.progress.miniSteps.oldPerTokenLogps.length =
    numMiniBatch config.grpo rollouts.length
  outside : { after.progress with miniSteps := before.progress.miniSteps } = before.progress
  divides : phase = .train → kept ≠ [] → config.stepInterval ≠ some 0
  unassigned : (phase = .train → kept = []) → after.allReduced = before.allReduced

variable {phase : TrainerPhase} {traced after : TracedProgress Value} {iMu : Nat}
  {miniBatches : List (List ProcessedSample × List Nat)}
  {miniBatch : List ProcessedSample × List Nat}

theorem FinishedMiniBatches.append {first rest : List (List ProcessedSample × List Nat)}
    {before middle : TracedProgress Value}
    (front : FinishedMiniBatches config rollouts results phase first before
      middle) (back : FinishedMiniBatches config rollouts results phase rest middle
      after) :
    FinishedMiniBatches config rollouts results phase (first ++ rest) before
      after where
  readable := forall_mem_append.mpr ⟨front.readable, back.readable⟩
  bounded := by
    intro within
    have here := front.bounded within
    have there := back.bounded (by rw [front.moved]; exact here)
    rw [front.moved] at there
    rw [length_append]
    omega
  moved := by rw [back.moved, front.moved, length_append, Nat.add_assoc]
  slots := back.slots
  outside := by rw [← front.outside, ← back.outside]
  divides := by
    intro train some
    by_cases none : first = []
    · rw [none, nil_append] at some
      exact back.divides train some
    · exact front.divides train none
  unassigned := by
    intro none
    have both := fun train => append_eq_nil_iff.mp (none train)
    rw [back.unassigned fun train => (both train).2, front.unassigned fun train => (both train).1]

/-- One round: the mini-batch is skipped, or it had what it needed. -/
theorem tracedMiniBatch_ok (sameLength : miniBatch.1.length = miniBatch.2.length)
    (slots : traced.progress.miniSteps.oldPerTokenLogps.length =
      numMiniBatch config.grpo rollouts.length)
    (ran : tracedMiniBatch config rollouts results phase iMu miniBatch traced =
      .ok after) :
    FinishedMiniBatches config rollouts results phase
      (keptMiniBatches config.grpo rollouts results [miniBatch]) traced after := by
  rw [tracedMiniBatch] at ran
  cases skipped : skipsMiniBatch config.grpo rollouts results miniBatch.2 with
  | true =>
    have none : keptMiniBatches config.grpo rollouts results [miniBatch] =
        [] := filter_cons_of_neg (by simp [skipped])
    rw [skipped, if_pos rfl] at ran
    cases ran
    rw [none]
    exact ⟨by simp, id, rfl, slots, rfl, fun _ some => absurd rfl some, fun _ => rfl⟩
  | false =>
    have one : keptMiniBatches config.grpo rollouts results [miniBatch] =
        [miniBatch] := filter_cons_of_pos (by simp [skipped])
    rw [skipped, if_neg (by simp)] at ran
    cases read : readSignals config.grpo rollouts results miniBatch.1
        miniBatch.2 with
    | error exn => simp [read, Outcome.raise, Outcome.ok] at ran
    | ok signals =>
      simp only [read] at ran
      cases forwarded : forwardMiniBatch config.grpo rollouts results phase
          iMu traced.progress.miniSteps miniBatch.1 miniBatch.2 with
      | error exn => simp [forwarded, Outcome.raise, Outcome.ok] at ran
      | ok steps =>
        simp only [forwarded] at ran
        rcases forwardMiniBatch_ok config.grpo rollouts results sameLength
          slots forwarded with ⟨skips, -⟩ | ⟨-, readable, slots', moved, within, -⟩
        · rw [skipped] at skips
          cases skips
        · rw [one]
          by_cases train : phase = .train
          · rw [if_pos train, reduceAtInterval] at ran
            cases reached : intervalReached config
                (TracedProgress.record (lossCollectives config)
                  { traced.record [.forward] with
                    progress := { traced.progress with miniSteps := steps } }
                  ).progress.miniSteps.localMiniStep with
            | error exn => simp [reached, Outcome.raise, Outcome.ok] at ran
            | ok due =>
              have divides : config.stepInterval ≠ some 0 := by
                intro zero
                rw [intervalReached, zero] at reached
                simp at reached
              have assigned : (phase = .train → [miniBatch] = []) → False :=
                fun none => absurd (none train) (by simp)
              cases due with
              | true =>
                simp only [reached] at ran
                cases ran
                exact ⟨by simpa using readable, fun _ => within, moved, slots', rfl,
                  fun _ _ => divides, fun none => (assigned none).elim⟩
              | false =>
                simp only [reached] at ran
                cases ran
                exact ⟨by simpa using readable, fun _ => within, moved, slots', rfl,
                  fun _ _ => divides, fun none => (assigned none).elim⟩
          · rw [if_neg train] at ran
            cases ran
            exact ⟨by simpa using readable, fun _ => within, moved, slots', rfl,
              fun isTrain => absurd isTrain train, fun _ => rfl⟩

theorem tracedMiniBatches_ok
    (sameLength : ∀ miniBatch ∈ miniBatches, miniBatch.1.length = miniBatch.2.length)
    (slots : traced.progress.miniSteps.oldPerTokenLogps.length =
      numMiniBatch config.grpo rollouts.length) (ran : Outcome.forEach
      (tracedMiniBatch config rollouts results phase iMu) miniBatches traced =
        .ok after) :
    FinishedMiniBatches config rollouts results phase
      (keptMiniBatches config.grpo rollouts results miniBatches) traced after := by
  induction miniBatches generalizing traced with
  | nil =>
    cases ran
    exact ⟨by simp [keptMiniBatches], id, rfl, slots, rfl,
      fun _ some => absurd rfl some, fun _ => rfl⟩
  | cons miniBatch rest ih =>
    rw [forall_mem_cons] at sameLength
    rw [Outcome.forEach_cons] at ran
    obtain ⟨middle, first, others⟩ := Outcome.andThen_eq_ok ran
    have front := tracedMiniBatch_ok sameLength.1 slots first
    have back := ih sameLength.2 front.slots others
    have both := front.append back
    rwa [keptMiniBatches, keptMiniBatches, ← filter_append] at both

structure FinishedChunks (config : CollectiveConfig) (rollouts : List (Rollout Value))
    (results : String → Option (List (List Value)))
    (policyInput : Rollout Value → RLPolicyInput) (gathered : Nat → Nat) (phase : TrainerPhase)
    (starts : List Nat) (before after : TracedProgress Value) : Prop where
  arranged : ∀ entry ∈ starts.zipIdx before.progress.localOptimizeStep, ∃ arrangement,
    arrangementOf config.grpo rollouts policyInput gathered entry.1 entry.2 =
        .ok arrangement ∧
      ∀ miniBatch ∈ keptOf config rollouts results arrangement,
        Readable config.grpo rollouts results miniBatch
  bounded : before.progress.miniSteps.localMiniStep ≤ numMiniBatch config.grpo rollouts.length →
    before.progress.miniSteps.localMiniStep +
        ((starts.zipIdx before.progress.localOptimizeStep).map fun (i, step) =>
          keptCount config rollouts results policyInput gathered i step).sum ≤
      numMiniBatch config.grpo rollouts.length
  sound : CacheSound config.grpo rollouts policyInput gathered after.progress
  slots : after.progress.miniSteps.oldPerTokenLogps.length =
    numMiniBatch config.grpo rollouts.length
  begins : phase = .train → before.allReduced = none → ∀ i ∈ starts.head?,
    0 < keptCount config rollouts results policyInput gathered i
        before.progress.localOptimizeStep ∧
      config.stepInterval ≠ some 0
  unassigned : phase ≠ .train → after.allReduced = before.allReduced

omit [Zero Value] [LT Value] [DecidableLT Value] in
theorem reduceLeftover_ok (ran : reduceLeftover traced = .ok after) :
    traced.allReduced ≠ none ∧ after.progress = traced.progress ∧
      after.allReduced = traced.allReduced := by
  cases reduced : traced.allReduced with
  | none =>
    rw [reduceLeftover, reduced] at ran
    cases ran
  | some allReduced =>
    rw [reduceLeftover_eq reduced] at ran
    cases ran
    exact ⟨by simp, rfl, reduced⟩

theorem tracedChunk_ok {i : Nat}
    (atChunk : AtChunk config.grpo rollouts policyInput gathered traced.progress)
    (slots : traced.progress.miniSteps.oldPerTokenLogps.length =
      numMiniBatch config.grpo rollouts.length)
    (current : (chunkStarts config.grpo rollouts)[traced.progress.localOptimizeStep]? = some i)
    (ran : tracedChunk config rollouts results policyInput gathered phase iMu i
      traced = .ok after) :
    AtChunk config.grpo rollouts policyInput gathered after.progress ∧
      after.progress.localOptimizeStep = traced.progress.localOptimizeStep + 1 ∧
      after.progress.miniSteps.localMiniStep = traced.progress.miniSteps.localMiniStep +
        keptCount config rollouts results policyInput gathered i
          traced.progress.localOptimizeStep ∧
      FinishedChunks config rollouts results policyInput gathered phase [i]
        traced after := by
  rw [tracedChunk] at ran
  cases found : cachedArrangement config.grpo rollouts policyInput gathered traced.progress i with
  | error exn => simp [found, Outcome.raise, Outcome.ok] at ran
  | ok result =>
    obtain ⟨cached, arrangement⟩ := result
    obtain ⟨arranged, sound, longer, sameStep, sameSteps, sameIterations⟩ :=
      cachedArrangement_ok config.grpo rollouts policyInput gathered atChunk current found
    have count := keptCount_of_arranged results arranged
    simp only [found] at ran
    obtain ⟨reduced, reducing, moving⟩ := Outcome.andThen_eq_ok ran
    obtain ⟨middle, running, leftover⟩ := Outcome.andThen_eq_ok reducing
    have startSlots : ({ traced with progress := cached } : TracedProgress Value
        ).progress.miniSteps.oldPerTokenLogps.length =
        numMiniBatch config.grpo rollouts.length := by
      rw [sameSteps]
      exact slots
    have finished := tracedMiniBatches_ok
      (sameLength_of_arrangeMiniBatches config.grpo arranged) startSlots running
    obtain ⟨sameProgress, sameReduced, assigned⟩ : reduced.progress = middle.progress ∧
        reduced.allReduced = middle.allReduced ∧
        (phase = .train → middle.allReduced ≠ none) := by
      by_cases train : phase = .train
      · rw [if_pos train] at leftover
        obtain ⟨assigned, sameProgress, sameReduced⟩ := reduceLeftover_ok leftover
        exact ⟨sameProgress, sameReduced, fun _ => assigned⟩
      · rw [if_neg train] at leftover
        cases leftover
        exact ⟨rfl, rfl, fun isTrain => absurd isTrain train⟩
    have outside := finished.outside
    have stepKept : reduced.progress.localOptimizeStep = traced.progress.localOptimizeStep :=
      (congrArg Progress.localOptimizeStep sameProgress).trans
        ((congrArg Progress.localOptimizeStep outside).trans sameStep)
    have cacheKept : reduced.progress.cachedMinibatchArrangements =
        cached.cachedMinibatchArrangements :=
      (congrArg Progress.cachedMinibatchArrangements sameProgress).trans
        ((congrArg Progress.cachedMinibatchArrangements outside).trans rfl)
    have moved : reduced.progress.miniSteps.localMiniStep =
        traced.progress.miniSteps.localMiniStep +
          keptCount config rollouts results policyInput gathered i
            traced.progress.localOptimizeStep := by
      rw [sameProgress, finished.moved, count]
      simp only [sameSteps]
      rfl
    have bounded := finished.bounded
    simp only [sameSteps] at bounded
    cases moving
    have soundAfter : CacheSound config.grpo rollouts policyInput gathered
        { reduced.progress with
          localOptimizeStep := reduced.progress.localOptimizeStep + 1 } :=
      fun step arrangement member => sound step arrangement (cacheKept ▸ member)
    refine ⟨⟨soundAfter, ?_⟩, congrArg (· + 1) stepKept, moved, ?_⟩
    · simp only [cacheKept, stepKept]
      exact longer
    · refine ⟨?_, ?_, soundAfter, sameProgress ▸ finished.slots, ?_, ?_⟩
      · intro entry member
        rw [zipIdx_singleton, mem_singleton] at member
        subst member
        exact ⟨arrangement, arranged, finished.readable⟩
      · intro within
        rw [zipIdx_singleton, map_singleton, sum_singleton]
        simp only [count]
        exact bounded within
      · intro train unset i' first
        cases first
        have some : keptMiniBatches config.grpo rollouts results
            (arrangement.1.zip arrangement.2) ≠ [] := by
          intro none
          exact assigned train ((finished.unassigned fun _ => none).trans unset)
        rw [count]
        exact ⟨length_pos_iff.mpr some, finished.divides train some⟩
      · intro notTrain
        exact sameReduced.trans (finished.unassigned fun train => absurd train notTrain)

/-- The loop over the chunks, by induction on those that are left. -/
theorem tracedChunks_ok {starts : List Nat}
    (atChunk : AtChunk config.grpo rollouts policyInput gathered traced.progress)
    (slots : traced.progress.miniSteps.oldPerTokenLogps.length =
      numMiniBatch config.grpo rollouts.length)
    (current : (chunkStarts config.grpo rollouts).drop traced.progress.localOptimizeStep =
      starts) (ran : Outcome.forEach
      (tracedChunk config rollouts results policyInput gathered phase iMu) starts
      traced = .ok after) :
    FinishedChunks config rollouts results policyInput gathered phase starts
      traced after := by
  induction starts generalizing traced with
  | nil =>
    cases ran
    exact ⟨by simp, id, atChunk.sound, slots, by simp, fun _ => rfl⟩
  | cons i starts ih =>
    rw [Outcome.forEach_cons] at ran
    obtain ⟨middle, first, others⟩ := Outcome.andThen_eq_ok ran
    have here : (chunkStarts config.grpo rollouts)[traced.progress.localOptimizeStep]? =
        some i := by
      rw [← head?_drop, current]
      rfl
    obtain ⟨middleAt, stepped, moved, front⟩ := tracedChunk_ok atChunk slots here first
    have rest : (chunkStarts config.grpo rollouts).drop middle.progress.localOptimizeStep =
        starts := by
      rw [stepped, ← tail_drop, current]
      rfl
    have back := ih middleAt front.slots rest others
    have bounded := back.bounded
    have arranged := back.arranged
    rw [stepped] at bounded arranged
    refine ⟨?_, ?_, back.sound, back.slots, ?_, ?_⟩
    · rw [zipIdx_cons, forall_mem_cons]
      exact ⟨front.arranged _ (by simp), arranged⟩
    · intro within
      have firstBound := front.bounded within
      rw [zipIdx_singleton, map_singleton, sum_singleton] at firstBound
      rw [moved] at bounded
      have laterBound := bounded firstBound
      rw [zipIdx_cons, map_cons, sum_cons, ← Nat.add_assoc]
      exact laterBound
    · intro train unset i' head
      cases head
      exact front.begins train unset i rfl
    · intro notTrain
      rw [back.unassigned notTrain, front.unassigned notTrain]

structure BetweenPhases (config : CollectiveConfig) (rollouts : List (Rollout Value))
    (policyInput : Rollout Value → RLPolicyInput) (gathered : Nat → Nat)
    (traced : TracedProgress Value) : Prop where
  sound : CacheSound config.grpo rollouts policyInput gathered traced.progress
  slots : traced.progress.miniSteps.oldPerTokenLogps.length =
    numMiniBatch config.grpo rollouts.length
  unset : traced.allReduced = none

theorem tracedIteration_ok (between : BetweenPhases config rollouts policyInput gathered traced)
    (ran : tracedIteration config rollouts results policyInput gathered phase
      iMu traced = .ok after) :
    ∃ middle, FinishedChunks config rollouts results policyInput gathered phase
        (chunkStarts config.grpo rollouts)
        { traced with progress := iterationStart traced.progress } middle ∧
      (phase ≠ .train → after = middle) := by
  rw [tracedIteration] at ran
  obtain ⟨middle, chunks, finishing⟩ := Outcome.andThen_eq_ok ran
  refine ⟨middle, tracedChunks_ok ⟨between.sound, Nat.zero_le _⟩ between.slots
    drop_zero chunks, fun notTrain => ?_⟩
  rw [if_neg notTrain] at finishing
  cases finishing
  rfl

theorem tracedPhase_ok
    (before : phase ≠ .train) (between : BetweenPhases config rollouts policyInput gathered traced)
    (ran : tracedPhase config rollouts results policyInput gathered phase
      traced = .ok after) :
    BetweenPhases config rollouts policyInput gathered after := by
  rw [tracedPhase, if_neg before, range_one, Outcome.forEach_cons] at ran
  obtain ⟨middle, iteration, rest⟩ := Outcome.andThen_eq_ok ran
  cases rest
  obtain ⟨middle, finished, same⟩ := tracedIteration_ok between iteration
  rw [same before]
  exact ⟨finished.sound, finished.slots, (finished.unassigned before).trans between.unset⟩

theorem tracedPhases_ok {phases : List TrainerPhase} (before : ∀ phase ∈ phases, phase ≠ .train)
    (between : BetweenPhases config rollouts policyInput gathered traced) (ran : Outcome.forEach
      (tracedPhase config rollouts results policyInput gathered) phases traced =
        .ok after) :
    BetweenPhases config rollouts policyInput gathered after := by
  induction phases generalizing traced with
  | nil =>
    cases ran
    exact between
  | cons phase phases ih =>
    rw [forall_mem_cons] at before
    rw [Outcome.forEach_cons] at ran
    obtain ⟨middle, first, rest⟩ := Outcome.andThen_eq_ok ran
    exact ih before.2 (tracedPhase_ok before.1 between first) rest

omit [Zero Value] [LT Value] [DecidableLT Value] in
theorem chunkStarts_ne_nil (sized : miniBatchSize config.grpo rollouts.length ≠ 0) :
    chunkStarts config.grpo rollouts ≠ [] := by
  have positive : 0 < perOptimizeBatchSize config.grpo rollouts.length := by
    rw [Nat.pos_iff_ne_zero]
    intro zero
    apply sized
    rw [miniBatchSize, zero, Nat.min_zero, ite_self]
  have bounded : perOptimizeBatchSize config.grpo rollouts.length ≤ rollouts.length :=
    perOptimizeBatchSize_le rollouts.length
  rw [chunkStarts, Ne, stridedRange_eq_nil_iff positive]
  omega

/-- A rank goes through its step without an exception exactly if it has what it needs. -/
theorem tracedStep_ok_iff (iterates : 0 < config.grpo.muIterations) :
    (∃ after, tracedStep config rollouts results policyInput gathered =
        .ok after) ↔
      RankReady config rollouts results policyInput gathered := by
  constructor
  · rintro ⟨after, ran⟩
    rw [tracedStep] at ran
    by_cases sized : miniBatchSize config.grpo rollouts.length = 0
    · rw [if_pos sized] at ran
      cases ran
    · rw [if_neg sized, trainerPhases, Outcome.forEach_append] at ran
      obtain ⟨middle, earlier, training⟩ := Outcome.andThen_eq_ok ran
      have between : BetweenPhases config rollouts policyInput gathered middle := by
        refine tracedPhases_ok ?_ ⟨?_, length_replicate, rfl⟩ earlier
        · intro phase member train
          subst train
          simp at member
        · intro step arrangement found
          simp [initialProgress] at found
      rw [Outcome.forEach_cons, tracedPhase, if_pos rfl, range_eq_range'] at training
      obtain ⟨rounds, more⟩ : ∃ rounds, config.grpo.muIterations = rounds + 1 :=
        ⟨config.grpo.muIterations - 1, by omega⟩
      rw [more, range'_succ, Outcome.forEach_cons] at training
      obtain ⟨trained, iterating, -⟩ := Outcome.andThen_eq_ok training
      obtain ⟨first, iteration, -⟩ := Outcome.andThen_eq_ok iterating
      obtain ⟨last, finished, -⟩ := tracedIteration_ok between iteration
      obtain ⟨i, starts, chunks⟩ := exists_cons_of_ne_nil (chunkStarts_ne_nil sized)
      have begins := finished.begins rfl between.unset i (by rw [chunks]; rfl)
      refine ⟨sized, begins.2, ?_, ?_, ?_⟩
      · intro i step current
        exact finished.arranged (i, step) (mem_zipIdx_iff_getElem?.mpr current)
      · have bounded := finished.bounded (Nat.zero_le _)
        simp only [iterationStart, Nat.zero_add] at bounded
        exact bounded
      · intro count head
        rw [keptCounts, chunks, zipIdx_cons, map_cons] at head
        cases head
        exact begins.1
  · intro rank
    obtain ⟨after, ran, -⟩ := tracedStep_ready rank
    exact ⟨after, ran⟩

/-- The variable `all_reduced` is known to be assigned whenever it has a value. -/
def Assigned (traced : TracedProgress Value) : Prop :=
  traced.allReduced ≠ none → traced.progress.miniSteps.allReducedBound = true

theorem forwardMiniBatch_assigns
    {steps steps' : MiniSteps Value} {samples : List ProcessedSample} {indices : List Nat}
    (kept : skipsMiniBatch config.grpo rollouts results indices = false)
    (forwarded : forwardMiniBatch config.grpo rollouts results phase iMu steps
      samples indices = .ok steps') :
    (phase = .train → steps'.allReducedBound = true) ∧
      (phase ≠ .train → steps'.allReducedBound = steps.allReducedBound) := by
  rw [forwardMiniBatch, kept, if_neg (by simp)] at forwarded
  split at forwarded
  case h_1 => cases forwarded
  case h_2 =>
    cases phase with
    | refCompute =>
      simp only at forwarded
      split at forwarded <;> cases forwarded
      exact ⟨fun train => (by cases train), fun _ => rfl⟩
    | oldLogpCompute =>
      simp only at forwarded
      split at forwarded <;> cases forwarded
      exact ⟨fun train => (by cases train), fun _ => rfl⟩
    | train =>
      refine ⟨fun _ => ?_, fun notTrain => absurd rfl notTrain⟩
      simp only at forwarded
      split at forwarded
      case h_1 => cases forwarded
      case h_2 => split at forwarded <;> cases forwarded; rfl
      case h_3 => split at forwarded <;> cases forwarded; rfl

theorem tracedMiniBatch_forwards (assigned : Assigned traced)
    (ran : tracedMiniBatch config rollouts results phase iMu miniBatch traced =
      .ok after) :
    ∃ steps, forwardMiniBatch config.grpo rollouts results phase iMu
        traced.progress.miniSteps miniBatch.1 miniBatch.2 = .ok steps ∧
      after.progress = { traced.progress with miniSteps := steps } ∧ Assigned after := by
  rw [tracedMiniBatch] at ran
  cases skipped : skipsMiniBatch config.grpo rollouts results miniBatch.2 with
  | true =>
    rw [skipped, if_pos rfl] at ran
    cases ran
    exact ⟨traced.progress.miniSteps, by rw [forwardMiniBatch, skipped, if_pos rfl], rfl, assigned⟩
  | false =>
    rw [skipped, if_neg (by simp)] at ran
    split at ran
    case h_1 => cases ran
    case h_2 =>
      split at ran
      case h_1 => cases ran
      case h_2 steps forwarded =>
        obtain ⟨assigns, keeps⟩ := forwardMiniBatch_assigns skipped forwarded
        by_cases train : phase = .train
        · rw [if_pos train, reduceAtInterval] at ran
          split at ran <;> cases ran
          · exact ⟨steps, forwarded, rfl, fun _ => assigns train⟩
          · exact ⟨steps, forwarded, rfl, fun _ => assigns train⟩
        · rw [if_neg train] at ran
          cases ran
          exact ⟨steps, forwarded, rfl, fun set => (keeps train).trans (assigned set)⟩

section

variable (assigned : Assigned traced)

include assigned

theorem tracedMiniBatches_forward (ran : Outcome.forEach
      (tracedMiniBatch config rollouts results phase iMu) miniBatches traced =
        .ok after) :
    ∃ steps, forwardMiniBatches config.grpo rollouts results phase iMu
        traced.progress.miniSteps miniBatches = .ok steps ∧
      after.progress = { traced.progress with miniSteps := steps } ∧ Assigned after := by
  induction miniBatches generalizing traced with
  | nil =>
    cases ran
    exact ⟨_, rfl, rfl, assigned⟩
  | cons miniBatch rest ih =>
    rw [Outcome.forEach_cons] at ran
    obtain ⟨middle, first, others⟩ := Outcome.andThen_eq_ok ran
    obtain ⟨middleSteps, forwarded, middleProgress, middleAssigned⟩ :=
      tracedMiniBatch_forwards assigned first
    obtain ⟨steps, later, progress, afterAssigned⟩ := ih middleAssigned others
    rw [middleProgress] at later progress
    refine ⟨steps, ?_, progress, afterAssigned⟩
    rw [forwardMiniBatches, forwarded]
    exact later

theorem tracedChunk_optimizes {i : Nat}
    (ran : tracedChunk config rollouts results policyInput gathered phase iMu i
      traced = .ok after) :
    optimizeChunk config.grpo rollouts results policyInput gathered phase iMu
        traced.progress i = .ok after.progress ∧ Assigned after := by
  rw [tracedChunk] at ran
  rw [optimizeChunk]
  cases found : cachedArrangement config.grpo rollouts policyInput gathered traced.progress i with
  | error exn => simp [found, Outcome.raise, Outcome.ok] at ran
  | ok result =>
    obtain ⟨cached, arrangement⟩ := result
    have cachedAssigned : Assigned { traced with progress := cached } := by
      intro set
      have sameSteps : cached.miniSteps = traced.progress.miniSteps := by
        rw [cachedArrangement] at found
        split at found
        · cases found
          rfl
        · cases arranged : arrangeMiniBatches config.grpo
              (chunkAt config.grpo rollouts policyInput i)
              (gathered traced.progress.cachedMinibatchArrangements.length) with
          | error exn => simp [arranged, Except.map] at found
          | ok computed =>
            simp only [arranged, Except.map] at found
            cases found
            rfl
      simp only [sameSteps]
      exact assigned set
    simp only [found] at ran ⊢
    obtain ⟨reduced, reducing, moving⟩ := Outcome.andThen_eq_ok ran
    obtain ⟨middle, running, leftover⟩ := Outcome.andThen_eq_ok reducing
    obtain ⟨steps, forwarded, progress, middleAssigned⟩ :=
      tracedMiniBatches_forward cachedAssigned running
    simp only at forwarded
    rw [forwarded]
    simp only
    cases moving
    by_cases train : phase = .train
    · rw [if_pos train] at leftover
      obtain ⟨set, sameProgress, sameReduced⟩ := reduceLeftover_ok leftover
      have bound : steps.allReducedBound = true := by
        have middleBound := middleAssigned set
        rw [progress] at middleBound
        exact middleBound
      rw [if_neg (by simp [bound]), sameProgress, progress]
      exact ⟨rfl, fun _ => bound⟩
    · rw [if_neg train] at leftover
      cases leftover
      rw [if_neg fun both => train both.1, progress]
      refine ⟨rfl, fun set => ?_⟩
      have bound := middleAssigned set
      rw [progress] at bound
      exact bound

theorem tracedChunks_optimize {starts : List Nat}
    (ran : Outcome.forEach
      (tracedChunk config rollouts results policyInput gathered phase iMu) starts
      traced = .ok after) :
    optimizeChunks config.grpo rollouts results policyInput gathered phase iMu
        traced.progress starts = .ok after.progress ∧ Assigned after := by
  induction starts generalizing traced with
  | nil =>
    cases ran
    exact ⟨rfl, assigned⟩
  | cons i starts ih =>
    rw [Outcome.forEach_cons] at ran
    obtain ⟨middle, first, others⟩ := Outcome.andThen_eq_ok ran
    obtain ⟨optimized, middleAssigned⟩ := tracedChunk_optimizes assigned first
    rw [optimizeChunks, optimized]
    exact ih middleAssigned others

theorem tracedIterations_iterate {rounds : Nat} (ran : Outcome.forEach
      (tracedIteration config rollouts results policyInput gathered phase)
      (List.range' iMu rounds) traced = .ok after) :
    muIterations config.grpo rollouts results policyInput gathered phase rounds
        iMu traced.progress = .ok after.progress ∧ Assigned after := by
  induction rounds generalizing iMu traced with
  | zero =>
    cases ran
    exact ⟨rfl, assigned⟩
  | succ rounds ih =>
    rw [range'_succ, Outcome.forEach_cons] at ran
    obtain ⟨middle, first, others⟩ := Outcome.andThen_eq_ok ran
    rw [tracedIteration] at first
    obtain ⟨last, chunks, finishing⟩ := Outcome.andThen_eq_ok first
    have startAssigned : Assigned { traced with progress := iterationStart traced.progress } :=
      assigned
    obtain ⟨optimized, lastAssigned⟩ := tracedChunks_optimize startAssigned chunks
    rw [iterationStart] at optimized
    rw [muIterations, optimized]
    simp only
    by_cases train : phase = .train
    · rw [if_pos train] at finishing ⊢
      cases finishing
      refine ih ?_ others
      exact lastAssigned
    · rw [if_neg train] at finishing ⊢
      cases finishing
      refine ih ?_ others
      exact lastAssigned

end

theorem stepTraining_of_tracedStep
    (ran : tracedStep config rollouts results policyInput gathered =
      .ok after) :
    stepTraining config.grpo rollouts results policyInput gathered =
      .ok after.progress.iterations := by
  have phases : ∀ {phases : List TrainerPhase} {traced after : TracedProgress Value},
      Assigned traced → Outcome.forEach
        (tracedPhase config rollouts results policyInput gathered) phases
          traced = .ok after →
      runPhases config.grpo rollouts results policyInput gathered traced.progress
        phases = .ok after.progress := by
    intro phases
    induction phases with
    | nil =>
      intro traced after _ ran
      cases ran
      rfl
    | cons phase phases ih =>
      intro traced after assigned ran
      rw [Outcome.forEach_cons] at ran
      obtain ⟨middle, first, others⟩ := Outcome.andThen_eq_ok ran
      rw [tracedPhase, range_eq_range'] at first
      obtain ⟨iterated, middleAssigned⟩ := tracedIterations_iterate assigned first
      rw [runPhases, iterated]
      exact ih middleAssigned others
  rw [tracedStep] at ran
  rw [stepTraining]
  by_cases sized : miniBatchSize config.grpo rollouts.length = 0
  · rw [if_pos sized] at ran
    cases ran
  · rw [if_neg sized] at ran ⊢
    have run := phases (fun set => absurd rfl set) ran
    rw [initialProgress] at run
    rw [run]
    rfl

end Rank

end CosmosRl.Policy
