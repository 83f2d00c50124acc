import CosmosRl.Policy.OwnSignals

/-!
A batch of one optimize chunk whose signals can all be read: every mu-iteration trains
every sample once, with the signals of its own rollout.
-/

namespace CosmosRl.Policy

open CosmosRl.Data CosmosRl.Foundation CosmosRl.Utils List
open CosmosRl.Dispatcher (PyError)

section Sufficient

variable {Value : Type} [Zero Value] [LT Value] [DecidableLT Value]
  {config : GrpoConfig} {rollouts : List (Rollout Value)}
  {results : String → Option (List (List Value))}
  {policyInput : Rollout Value → RLPolicyInput} {gathered : Nat → Nat}

omit [Zero Value] [LT Value] [DecidableLT Value] in
theorem freshOldLogps_cons (sample : ProcessedSample) (samples : List ProcessedSample)
    (signal : Signals Value) (signals : List (Signals Value)) :
    ∃ oldLogp, freshOldLogps config [sample] [signal] = [oldLogp] ∧
      freshOldLogps config (sample :: samples) (signal :: signals) =
        oldLogp :: freshOldLogps config samples signals := by
  cases used : config.useRolloutLogprobsForLoss with
  | true => exact ⟨_, by simp [freshOldLogps, used]; rfl, by simp [freshOldLogps, used]⟩
  | false => exact ⟨_, by simp [freshOldLogps, used]; rfl, by simp [freshOldLogps, used]⟩

/-- A mini-batch whose samples stand next to their own positions trains each of them with
its own signals. -/
theorem trained_own (samples : List ProcessedSample) (indices : List Nat)
    (signals : List (Signals Value)) (sameLength : samples.length = indices.length)
    (positions : ∀ entry ∈ samples.zip indices,
      entry.1 ∈ processedSamples rollouts policyInput ∧ entry.1.position = entry.2)
    (read : (samples.zip indices).map (fun entry =>
      signalsOf config rollouts results entry.1 entry.2) = signals.map .ok) :
    ((samples.zip (signals.zip (freshOldLogps config samples signals))).map fun entry =>
        (⟨entry.1.position, entry.2.1, entry.2.2⟩ : TrainedSample Value)).map
          TrainedSample.position = indices ∧
      ∀ entry ∈ (samples.zip (signals.zip (freshOldLogps config samples signals))).map
          fun entry => (⟨entry.1.position, entry.2.1, entry.2.2⟩ : TrainedSample Value),
        OwnSignals config rollouts results policyInput entry := by
  induction samples generalizing indices signals with
  | nil =>
    have none : indices = [] := eq_nil_of_length_eq_zero sameLength.symm
    subst none
    simp
  | cons sample samples ih =>
    cases indices with
    | nil => cases sameLength
    | cons index indices =>
      cases signals with
      | nil => cases read
      | cons signal signals =>
        obtain ⟨head, rest⟩ := List.cons.inj read
        rw [zip_cons_cons, forall_mem_cons] at positions
        obtain ⟨restPositions, restOwn⟩ := ih indices signals
          (by simpa using sameLength) positions.2 rest
        obtain ⟨oldLogp, single, fresh⟩ :=
          @freshOldLogps_cons _ config sample samples signal signals
        rw [fresh, zip_cons_cons, zip_cons_cons, map_cons]
        refine ⟨?_, ?_⟩
        · rw [map_cons, restPositions, positions.1.2]
        · rw [forall_mem_cons]
          refine ⟨⟨sample, positions.1.1, rfl, ?_, single⟩, restOwn⟩
          rw [positions.1.2]
          exact head

structure Trainable (arrangement : List (List ProcessedSample) × List (List Nat)) :
    Prop where
  nonempty : rollouts ≠ []
  whole : perOptimizeBatchSize config rollouts.length = rollouts.length
  arranged : arrangeMiniBatches config (processedSamples rollouts policyInput) (gathered 0) =
    .ok arrangement
  arranges : Arranges (processedSamples rollouts policyInput) arrangement
  fits : (arrangement.1.zip arrangement.2).length ≤ numMiniBatch config rollouts.length
  readable : ∀ miniBatch ∈ arrangement.1.zip arrangement.2,
    Readable config rollouts results miniBatch
  unskipped : ∀ miniBatch ∈ arrangement.1.zip arrangement.2,
    skipsMiniBatch config rollouts results miniBatch.2 = false

omit [Zero Value] [LT Value] [DecidableLT Value] in
theorem Arranges.own_positions {arrangement : List (List ProcessedSample) × List (List Nat)}
    (arranges : Arranges (processedSamples rollouts policyInput) arrangement)
    {miniBatch : List ProcessedSample × List Nat}
    (member : miniBatch ∈ arrangement.1.zip arrangement.2) :
    ∀ entry ∈ miniBatch.1.zip miniBatch.2,
      entry.1 ∈ processedSamples rollouts policyInput ∧ entry.1.position = entry.2 := by
  rintro ⟨sample, index⟩ entryMember
  have found := getElem?_of_mem_zip (arranges.aligned miniBatch member) entryMember
  exact ⟨mem_of_getElem? found, position_of_getElem?_processedSamples found⟩

theorem OwnSignalsCondition.trainable
    (condition : OwnSignalsCondition config rollouts results policyInput
      gathered) :
    ∃ arrangement, @Trainable _ _ _ _ config rollouts results policyInput
      gathered arrangement := by
  have whole := (perOptimizeBatchSize_eq_iff _).mpr condition.oneChunk
  obtain ⟨arrangement, arranged, arranges, fits⟩ :=
    (splitsWithinSlots_iff condition.nonempty whole).mpr condition.splits
  refine ⟨arrangement, condition.nonempty, whole, arranged, arranges, ?_, ?_, ?_⟩
  · rw [length_zip, arranges.sameLength, Nat.min_self]
    exact fits
  · intro miniBatch member
    rw [readable_iff config rollouts results (arranges.length_eq member)]
    intro entry entryMember
    obtain ⟨sampleMember, position⟩ := arranges.own_positions member entry entryMember
    rw [← position]
    exact condition.complete entry.1 sampleMember
  · intro miniBatch member
    apply condition.taught arrangement arranged
    rw [← arranges.map_snd]
    exact mem_map.mpr ⟨miniBatch, member, rfl⟩

namespace Trainable

variable {arrangement : List (List ProcessedSample) × List (List Nat)}
  (trainable : @Trainable _ _ _ _ config rollouts results policyInput
    gathered arrangement)

include trainable

theorem together : needComputeOldAhead config rollouts.length = false := by
  rw [needComputeOldAhead, trainable.whole]
  simp

/-- The loop over the only chunk runs the mini-batches of its arrangement, cached or
not. -/
theorem optimizeChunks_eq {phase : TrainerPhase} {iMu : Nat} {progress : Progress Value}
    {miniSteps : MiniSteps Value} (cached : progress.cachedMinibatchArrangements = [] ∨
      progress.cachedMinibatchArrangements = [arrangement])
    (forwarded : forwardMiniBatches config rollouts results phase iMu
      (iterationStart progress).miniSteps (arrangement.1.zip arrangement.2) = .ok miniSteps)
    (bound : phase = .train → miniSteps.allReducedBound = true) :
    optimizeChunks config rollouts results policyInput gathered phase iMu
        (iterationStart progress) (chunkStarts config rollouts) =
      .ok
        { cachedMinibatchArrangements := [arrangement]
          localOptimizeStep := 1
          miniSteps := miniSteps
          iterations := progress.iterations } := by
  have found : cachedArrangement config rollouts policyInput gathered
      (iterationStart progress) 0 =
        .ok ({ iterationStart progress with
          cachedMinibatchArrangements := [arrangement] }, arrangement) := by
    rw [cachedArrangement]
    rcases cached with empty | filled
    · have arranged : arrangeMiniBatches config (chunkAt config rollouts policyInput 0)
          (gathered 0) = .ok arrangement := by
        rw [chunkAt_zero trainable.whole]
        exact trainable.arranged
      simp [iterationStart, empty, arranged, Except.map]
    · simp [iterationStart, filled]
  have assigned : ¬ (phase = .train ∧ miniSteps.allReducedBound = false) := by
    rintro ⟨isTrain, unbound⟩
    rw [bound isTrain] at unbound
    cases unbound
  rw [chunkStarts_whole trainable.nonempty trainable.whole, optimizeChunks, optimizeChunk, found]
  simp only [forwarded]
  rw [if_neg assigned]
  rfl

def trainedSamples (config : GrpoConfig) (rollouts : List (Rollout Value))
    (results : String → Option (List (List Value)))
    (arrangement : List (List ProcessedSample) × List (List Nat)) :
    List (TrainedSample Value) :=
  (arrangement.1.zip arrangement.2).flatMap (trainedOf config rollouts results)

omit trainable in
theorem nonempty_zip
    (trainable : @Trainable _ _ _ _ config rollouts results policyInput
      gathered arrangement) :
    arrangement.1.zip arrangement.2 ≠ [] := by
  intro none
  have covered := trainable.arranges.covered.length_eq
  have listed := trainable.arranges.map_snd
  have some := length_pos_of_ne_nil trainable.nonempty
  rw [none, map_nil] at listed
  rw [← listed, length_range, length_processedSamples] at covered
  simp only [flatten_nil, length_nil] at covered
  omega

/-- Training from mu-iteration `iMu` on adds the same samples in every round. -/
theorem muIterations_eq (rounds iMu : Nat) (progress : Progress Value)
    (cached : progress.cachedMinibatchArrangements = [] ∨
      progress.cachedMinibatchArrangements = [arrangement])
    (slots : progress.miniSteps.oldPerTokenLogps =
      filledSlots config rollouts results
        (if iMu = 0 then [] else arrangement.1.zip arrangement.2)) :
    ∃ progress',
      muIterations config rollouts results policyInput gathered .train rounds
          iMu progress = .ok progress' ∧
        progress'.iterations = progress.iterations ++ List.replicate rounds
          (trainedSamples config rollouts results arrangement) := by
  induction rounds generalizing iMu progress with
  | zero => exact ⟨progress, rfl, by simp⟩
  | succ rounds ih =>
    have forwarded : forwardMiniBatches config rollouts results .train iMu
        (iterationStart progress).miniSteps (arrangement.1.zip arrangement.2) =
          .ok (advance config rollouts results
            (iterationStart progress).miniSteps
            (filledSlots config rollouts results
              (arrangement.1.zip arrangement.2)) (arrangement.1.zip arrangement.2)) := by
      cases iMu with
      | zero =>
        have startSlots : (iterationStart progress).miniSteps.oldPerTokenLogps =
            filledSlots config rollouts results [] := slots
        exact forwardMiniBatches_first config rollouts results
          trainable.readable trainable.unskipped trainable.together startSlots rfl
          trainable.fits
      | succ iMu =>
        have startSlots : (iterationStart progress).miniSteps.oldPerTokenLogps =
            filledSlots config rollouts results
              ([] ++ arrangement.1.zip arrangement.2) := slots
        exact forwardMiniBatches_later config rollouts results
          (Nat.succ_pos iMu) trainable.readable trainable.unskipped startSlots rfl
    have assigned : (arrangement.1.zip arrangement.2).isEmpty = false := by
      cases batches : arrangement.1.zip arrangement.2 with
      | nil => exact absurd batches trainable.nonempty_zip
      | cons miniBatch rest => rfl
    have round := trainable.optimizeChunks_eq cached forwarded
      (fun _ => by simp [advance, assigned])
    rw [iterationStart] at round
    rw [muIterations, round]
    obtain ⟨progress', later, iterations⟩ := ih (iMu + 1)
      { cachedMinibatchArrangements := [arrangement]
        localOptimizeStep := 1
        miniSteps := advance config rollouts results
          (iterationStart progress).miniSteps
          (filledSlots config rollouts results
            (arrangement.1.zip arrangement.2)) (arrangement.1.zip arrangement.2)
        iterations := progress.iterations ++
          [trainedSamples config rollouts results arrangement] }
      (Or.inr rfl) (by simp [advance])
    refine ⟨progress', later, ?_⟩
    rw [iterations, append_assoc, replicate_succ]
    rfl

theorem reference_eq (progress : Progress Value)
    (cached : progress.cachedMinibatchArrangements = []) :
    ∃ progress',
      muIterations config rollouts results policyInput gathered .refCompute 1
          0 progress = .ok progress' ∧
        progress'.cachedMinibatchArrangements = [arrangement] ∧
        progress'.miniSteps.oldPerTokenLogps = progress.miniSteps.oldPerTokenLogps ∧
        progress'.iterations = progress.iterations := by
  have room : (iterationStart progress).miniSteps.localMiniStep +
      (arrangement.1.zip arrangement.2).length ≤ numMiniBatch config rollouts.length := by
    have fits := trainable.fits
    simpa [iterationStart] using fits
  have forwarded := forwardMiniBatches_reference config rollouts results
    trainable.readable trainable.unskipped room
  have round := trainable.optimizeChunks_eq (Or.inl cached) forwarded
    (fun isTrain => by cases isTrain)
  rw [muIterations]
  rw [iterationStart] at round
  rw [round]
  exact ⟨_, rfl, rfl, rfl, rfl⟩

/-- A step trains the same samples in every mu-iteration. -/
theorem stepTraining_eq :
    stepTraining config rollouts results policyInput gathered =
      .ok (List.replicate config.muIterations
        (trainedSamples config rollouts results arrangement)) := by
  have nonzero : miniBatchSize config rollouts.length ≠ 0 := by
    have some := length_pos_of_ne_nil trainable.nonempty
    rw [miniBatchSize, trainable.whole]
    split <;> omega
  have slots : (initialProgress config rollouts).miniSteps.oldPerTokenLogps =
      filledSlots config rollouts results [] := by
    simp [initialProgress, filledSlots]
  have trains : ∀ progress : Progress Value,
      (progress.cachedMinibatchArrangements = [] ∨
        progress.cachedMinibatchArrangements = [arrangement]) →
      progress.miniSteps.oldPerTokenLogps =
        (initialProgress config rollouts).miniSteps.oldPerTokenLogps →
      progress.iterations = [] →
      ∃ progress',
        runPhases config rollouts results policyInput gathered progress
            [.train] = .ok progress' ∧
          progress'.iterations = List.replicate config.muIterations
            (trainedSamples config rollouts results arrangement) := by
    intro progress cached same none
    obtain ⟨progress', iterated, iterations⟩ := trainable.muIterations_eq
      config.muIterations 0 progress cached (same.trans slots)
    refine ⟨progress', ?_, ?_⟩
    · rw [runPhases, if_pos rfl, iterated]
      rfl
    · rw [iterations, none, nil_append]
  rw [stepTraining, if_neg nonzero, trainerPhases, trainable.together]
  have run : ∃ progress',
      runPhases config rollouts results policyInput gathered
          (initialProgress config rollouts)
          ((if config.needComputeRef = true then [TrainerPhase.refCompute] else []) ++
            (if false = true then [TrainerPhase.oldLogpCompute] else []) ++
              [TrainerPhase.train]) = .ok progress' ∧
        progress'.iterations = List.replicate config.muIterations
          (trainedSamples config rollouts results arrangement) := by
    cases config.needComputeRef with
    | false => exact trains _ (Or.inl rfl) rfl rfl
    | true =>
      obtain ⟨middle, iterated, cached, same, iterations⟩ :=
        trainable.reference_eq (initialProgress config rollouts) rfl
      obtain ⟨progress', trained, final⟩ := trains middle (Or.inr cached) same iterations
      refine ⟨progress', ?_, final⟩
      simp only [if_true, Bool.false_eq_true, if_false, append_nil, cons_append, nil_append]
      rw [runPhases, if_neg (by simp), iterated]
      exact trained
  obtain ⟨progress', phases, iterations⟩ := run
  rw [initialProgress] at phases
  rw [phases, ← iterations]
  rfl

end Trainable

theorem OwnSignalsCondition.trainsOwn
    (condition : OwnSignalsCondition config rollouts results policyInput
      gathered) {iMu : Nat} (iterated : iMu < config.muIterations) :
    TrainsOwn config rollouts results policyInput gathered iMu := by
  obtain ⟨arrangement, trainable⟩ := condition.trainable
  have each : ∀ miniBatch ∈ arrangement.1.zip arrangement.2,
      (trainedOf config rollouts results miniBatch).map
          TrainedSample.position = miniBatch.2 ∧
        ∀ entry ∈ trainedOf config rollouts results miniBatch,
          OwnSignals config rollouts results policyInput entry := by
    intro miniBatch member
    have lengths := trainable.arranges.length_eq member
    exact trained_own miniBatch.1 miniBatch.2 _ lengths
      (trainable.arranges.own_positions member)
      ((readSignals_eq_ok_iff config rollouts results _ _ lengths _).mp
        ((trainable.readable miniBatch member).readSignals_eq))
  refine ⟨_, Trainable.trainedSamples config rollouts results arrangement,
    trainable.stepTraining_eq, ?_, ?_, ?_⟩
  · rw [getElem?_replicate, if_pos iterated]
  · have positions : (Trainable.trainedSamples config rollouts results
        arrangement).map TrainedSample.position = arrangement.2.flatten := by
      rw [Trainable.trainedSamples, map_flatMap, List.flatMap,
        map_congr_left fun miniBatch member => (each miniBatch member).1,
        trainable.arranges.map_snd]
    rw [positions, ← @length_processedSamples _ rollouts policyInput]
    exact trainable.arranges.covered
  · intro entry member
    obtain ⟨miniBatch, miniBatchMember, inMiniBatch⟩ := mem_flatMap.mp member
    exact (each miniBatch miniBatchMember).2 entry inMiniBatch

end Sufficient

section Claim

variable {Value : Type} [Zero Value] [LT Value] [DecidableLT Value]

/-- A step of four rollouts with decoupled loss and positive flags, in mini-batches of two
samples, with two mu-iterations. -/
def fourRolloutsConfig (batchSizePerOptimize maxTokenLenPerMiniBatch : Option Int) :
    GrpoConfig where
  batchSizePerOptimize := batchSizePerOptimize
  miniBatch := 2
  maxTokenLenPerMiniBatch := maxTokenLenPerMiniBatch
  cpSize := 1
  cpPositive := Nat.one_pos
  muIterations := 2
  needComputeRef := true
  useDecoupledLoss := true
  useRolloutLogprobsForLoss := false
  collectRolloutLogprobs := true
  positiveNll := true
  distillation := false
  includePrompt := false

def scoredRollout (score : Int) : Rollout Int where
  advantage := score
  reward := score
  completion := .tokenIds [7, 8]
  completionLogprobs := some [[score], [score]]
  promptLogprobs := none
  teacherResultUuid := ""
  nIgnorePrefixTokens := 0

def fourRollouts : List (Rollout Int) :=
  [scoredRollout 1, scoredRollout (-1), scoredRollout 2, scoredRollout (-2)]

def fourRolloutsInput (_ : Rollout Int) : RLPolicyInput :=
  ⟨[5, 7, 8], [true, true, false]⟩

end Claim

end CosmosRl.Policy
