import CosmosRl.Policy.MiniBatchSteps

/-!
The outer loops of a step.  The arrangement of a chunk is computed once and cached, so
that every mu-iteration of every phase runs the same mini-batches.
-/

namespace CosmosRl.Policy

open CosmosRl.Data CosmosRl.Foundation CosmosRl.Utils List
open CosmosRl.Dispatcher (PyError)

section Chunks

variable {Value : Type} [Zero Value] [LT Value] [DecidableLT Value]
  (config : GrpoConfig) (rollouts : List (Rollout Value))
  (teacherInteractResults : String → Option (List (List Value)))
  (policyInput : Rollout Value → RLPolicyInput) (gathered : Nat → Nat)

/-- The arrangement of the chunk that begins at `i`, whose number is `step`. -/
def arrangementOf (i step : Nat) :
    Except PyError (List (List ProcessedSample) × List (List Nat)) :=
  arrangeMiniBatches config (chunkAt config rollouts policyInput i) (gathered step)

def CacheSound (progress : Progress Value) : Prop :=
  ∀ step arrangement, progress.cachedMinibatchArrangements[step]? = some arrangement →
    ∃ i, (chunkStarts config rollouts)[step]? = some i ∧
      arrangementOf config rollouts policyInput gathered i step = .ok arrangement

structure AtChunk (progress : Progress Value) : Prop where
  sound : CacheSound config rollouts policyInput gathered progress
  reached : progress.localOptimizeStep ≤ progress.cachedMinibatchArrangements.length

variable {progress progress' : Progress Value}

section

variable (atChunk : AtChunk config rollouts policyInput gathered progress) {phase : TrainerPhase}

include atChunk

omit [Zero Value] [LT Value] [DecidableLT Value] in
/-- A chunk's arrangement does not depend on whether it comes from the cache. -/
theorem cachedArrangement_ok {i : Nat} {arrangement : List (List ProcessedSample) × List (List Nat)}
    (current : (chunkStarts config rollouts)[progress.localOptimizeStep]? = some i)
    (found : cachedArrangement config rollouts policyInput gathered progress i =
      .ok (progress', arrangement)) :
    arrangementOf config rollouts policyInput gathered i progress.localOptimizeStep =
        .ok arrangement ∧
      CacheSound config rollouts policyInput gathered progress' ∧
      progress.localOptimizeStep < progress'.cachedMinibatchArrangements.length ∧
      progress'.localOptimizeStep = progress.localOptimizeStep ∧
      progress'.miniSteps = progress.miniSteps ∧
      progress'.iterations = progress.iterations := by
  rw [cachedArrangement] at found
  cases lookup : progress.cachedMinibatchArrangements[progress.localOptimizeStep]? with
  | some cached =>
    simp only [lookup, Except.ok.injEq, Prod.mk.injEq] at found
    obtain ⟨rfl, rfl⟩ := found
    obtain ⟨start, started, arranged⟩ := atChunk.sound _ _ lookup
    rw [current, Option.some.injEq] at started
    subst started
    exact ⟨arranged, atChunk.sound, (List.getElem?_eq_some_iff.mp lookup).1, rfl, rfl, rfl⟩
  | none =>
    have last : progress.cachedMinibatchArrangements.length =
        progress.localOptimizeStep := by
      have outside := getElem?_eq_none_iff.mp lookup
      have reached := atChunk.reached
      omega
    simp only [lookup, last] at found
    cases arranged : arrangeMiniBatches config (chunkAt config rollouts policyInput i)
        (gathered progress.localOptimizeStep) with
    | error exn => simp [arranged, Except.map] at found
    | ok computed =>
      simp only [arranged, Except.map, Except.ok.injEq, Prod.mk.injEq] at found
      obtain ⟨rfl, rfl⟩ := found
      refine ⟨arranged, ?_, ?_, rfl, rfl, rfl⟩
      · intro step arrangement member
        simp only at member
        rw [getElem?_append, last] at member
        split at member
        case isTrue => exact atChunk.sound step arrangement member
        case isFalse later =>
          have zero : step - progress.localOptimizeStep = 0 := by
            have inside := (List.getElem?_eq_some_iff.mp member).1
            rw [length_singleton] at inside
            omega
          have same : step = progress.localOptimizeStep := by omega
          rw [zero, getElem?_cons_zero, Option.some.injEq] at member
          subst member
          rw [same]
          exact ⟨i, current, arranged⟩
      · simp only
        rw [length_append, last]
        simp

theorem optimizeChunk_ok {iMu i : Nat}
    (current : (chunkStarts config rollouts)[progress.localOptimizeStep]? = some i)
    (optimized : optimizeChunk config rollouts teacherInteractResults policyInput gathered
      phase iMu progress i = .ok progress') :
    ∃ arrangement,
      arrangementOf config rollouts policyInput gathered i progress.localOptimizeStep =
        .ok arrangement ∧
      forwardMiniBatches config rollouts teacherInteractResults phase iMu progress.miniSteps
        (arrangement.1.zip arrangement.2) = .ok progress'.miniSteps ∧
      AtChunk config rollouts policyInput gathered progress' ∧
      progress'.localOptimizeStep = progress.localOptimizeStep + 1 ∧
      progress'.iterations = progress.iterations := by
  rw [optimizeChunk] at optimized
  cases found : cachedArrangement config rollouts policyInput gathered progress i with
  | error exn => simp [found] at optimized
  | ok result =>
    obtain ⟨cachedProgress, arrangement⟩ := result
    obtain ⟨arranged, sound, longer, sameStep, sameSteps, sameIterations⟩ :=
      cachedArrangement_ok config rollouts policyInput gathered atChunk current found
    simp only [found, sameSteps] at optimized
    cases forwarded : forwardMiniBatches config rollouts teacherInteractResults phase iMu
        progress.miniSteps (arrangement.1.zip arrangement.2) with
    | error exn => simp [forwarded] at optimized
    | ok miniSteps =>
      simp only [forwarded] at optimized
      split at optimized
      case isTrue => cases optimized
      case isFalse =>
        cases optimized
        refine ⟨arrangement, arranged, forwarded, ⟨sound, ?_⟩, ?_, sameIterations⟩
        · simp only [sameStep]
          omega
        · simp only [sameStep]

/-- The loop over the chunks runs the mini-batches of all arrangements in turn. -/
theorem optimizeChunks_ok {iMu : Nat} {starts : List Nat}
    (current : (chunkStarts config rollouts).drop progress.localOptimizeStep = starts)
    (optimized : optimizeChunks config rollouts teacherInteractResults policyInput gathered
      phase iMu progress starts = .ok progress') :
    ∃ arrangements : List (List (List ProcessedSample) × List (List Nat)),
      ((starts.zipIdx progress.localOptimizeStep).map fun entry =>
        arrangementOf config rollouts policyInput gathered entry.1 entry.2) =
          arrangements.map .ok ∧
      forwardMiniBatches config rollouts teacherInteractResults phase iMu progress.miniSteps
        (arrangements.flatMap fun arrangement => arrangement.1.zip arrangement.2) =
          .ok progress'.miniSteps ∧
      CacheSound config rollouts policyInput gathered progress' ∧
      progress'.iterations = progress.iterations := by
  induction starts generalizing progress with
  | nil =>
    rw [optimizeChunks, Except.ok.injEq] at optimized
    subst optimized
    exact ⟨[], rfl, rfl, atChunk.sound, rfl⟩
  | cons i starts ih =>
    rw [optimizeChunks] at optimized
    cases first : optimizeChunk config rollouts teacherInteractResults policyInput gathered
        phase iMu progress i with
    | error exn => simp [first] at optimized
    | ok middle =>
      simp only [first] at optimized
      have here : (chunkStarts config rollouts)[progress.localOptimizeStep]? =
          some i := by
        rw [← head?_drop, current]
        rfl
      obtain ⟨arrangement, arranged, forwarded, middleAt, moved, sameIterations⟩ :=
        optimizeChunk_ok config rollouts teacherInteractResults policyInput gathered
          atChunk here first
      have rest : (chunkStarts config rollouts).drop middle.localOptimizeStep =
          starts := by
        rw [moved, ← tail_drop, current]
        rfl
      obtain ⟨arrangements, allArranged, laterForwarded, sound, laterIterations⟩ :=
        ih middleAt rest optimized
      refine ⟨arrangement :: arrangements, ?_, ?_, sound, laterIterations.trans sameIterations⟩
      · rw [zipIdx_cons, map_cons, arranged, map_cons, ← moved, allArranged]
      · rw [flatMap_cons, forwardMiniBatches_append, forwarded]
        exact laterForwarded

end

end Chunks

section Iterations

variable {Value : Type} [Zero Value] [LT Value] [DecidableLT Value]
  (config : GrpoConfig) (rollouts : List (Rollout Value))
  (teacherInteractResults : String → Option (List (List Value)))
  (policyInput : Rollout Value → RLPolicyInput) (gathered : Nat → Nat)

def ChunksArranged
    (arrangements : List (List (List ProcessedSample) × List (List Nat))) : Prop :=
  ((chunkStarts config rollouts).zipIdx.map fun entry =>
    arrangementOf config rollouts policyInput gathered entry.1 entry.2) =
      arrangements.map .ok

def TrainedBy (trained : List (TrainedSample Value)) : Prop :=
  ∃ iMu steps steps' arrangements,
    ChunksArranged config rollouts policyInput gathered arrangements ∧
      steps.oldPerTokenLogps.length = numMiniBatch config rollouts.length ∧
      steps.localMiniStep = 0 ∧ steps.trained = [] ∧
      forwardMiniBatches config rollouts teacherInteractResults .train iMu steps
        (arrangements.flatMap fun arrangement => arrangement.1.zip arrangement.2) =
          .ok steps' ∧
      trained = steps'.trained

structure StepInvariant (progress : Progress Value) : Prop where
  sound : CacheSound config rollouts policyInput gathered progress
  slots : progress.miniSteps.oldPerTokenLogps.length = numMiniBatch config rollouts.length
  trained : ∀ iteration ∈ progress.iterations,
    TrainedBy config rollouts teacherInteractResults policyInput gathered iteration

variable {arrangement : List (List ProcessedSample) × List (List Nat)}
  {arrangements : List (List (List ProcessedSample) × List (List Nat))}
  {chunk : List ProcessedSample}

/-- The arrangements are cuts of their chunks, or have no mini-batch at all. -/
theorem arrangeMiniBatches_cases {others : Nat}
    (arranged : arrangeMiniBatches config chunk others = .ok arrangement) :
    Arranges chunk arrangement ∨ arrangement = ([], []) := by
  have static : ∀ found, arrangeMiniBatches.splitStatic config chunk = .ok found →
      Arranges chunk found ∨ found = ([], []) := by
    intro found split
    rw [arrangeMiniBatches.splitStatic] at split
    split at split
    case isTrue => cases split
    case isFalse nonzero =>
      split at split
      case isTrue =>
        cases split
        exact Or.inr rfl
      case isFalse nonnegative =>
        cases split
        exact Or.inl (splitMiniBatches_arranges chunk (by omega))
  rw [arrangeMiniBatches] at arranged
  split at arranged
  case h_1 maxTokenLen _ =>
    split at arranged
    case isTrue =>
      exact Or.inl (rearrangeMiniBatches_arranges (by rw [length_map]) arranged)
    case isFalse => exact static arrangement arranged
  case h_2 => exact static arrangement arranged

theorem sameLength_of_arrangeMiniBatches {others : Nat}
    (arranged : arrangeMiniBatches config chunk others = .ok arrangement) :
    ∀ miniBatch ∈ arrangement.1.zip arrangement.2,
      miniBatch.1.length = miniBatch.2.length := by
  intro miniBatch member
  rcases arrangeMiniBatches_cases config arranged with arranges | none
  · exact arranges.length_eq member
  · rw [none] at member
    cases member

section

omit [Zero Value] [LT Value] [DecidableLT Value]

theorem ChunksArranged.of_mem
    (all : ChunksArranged config rollouts policyInput gathered arrangements)
    (member : arrangement ∈ arrangements) :
    ∃ i ∈ chunkStarts config rollouts, ∃ step,
      arrangementOf config rollouts policyInput gathered i step = .ok arrangement := by
  have mapped : (Except.ok arrangement : Except PyError _) ∈
      (chunkStarts config rollouts).zipIdx.map fun entry =>
        arrangementOf config rollouts policyInput gathered entry.1 entry.2 := by
    rw [all]
    exact mem_map.mpr ⟨arrangement, member, rfl⟩
  obtain ⟨entry, entryMember, arranged⟩ := mem_map.mp mapped
  exact ⟨entry.1, fst_mem_of_mem_zipIdx entryMember, entry.2, arranged⟩

theorem ChunksArranged.sameLength
    (all : ChunksArranged config rollouts policyInput gathered arrangements) :
    ∀ miniBatch ∈ arrangements.flatMap fun arrangement => arrangement.1.zip arrangement.2,
      miniBatch.1.length = miniBatch.2.length := by
  intro miniBatch member
  obtain ⟨arrangement, arrangementMember, inArrangement⟩ := mem_flatMap.mp member
  obtain ⟨i, _, step, arranged⟩ := all.of_mem config rollouts policyInput gathered arrangementMember
  exact sameLength_of_arrangeMiniBatches config arranged miniBatch inArrangement

end

def iterationStart (progress : Progress Value) : Progress Value :=
  { progress with
    localOptimizeStep := 0
    miniSteps := { progress.miniSteps with localMiniStep := 0, trained := [] } }

theorem muIterations_invariant {phase : TrainerPhase} {rounds iMu : Nat}
    {progress progress' : Progress Value}
    (invariant : StepInvariant config rollouts teacherInteractResults policyInput gathered
      progress) (iterated : muIterations config rollouts teacherInteractResults policyInput gathered
      phase rounds iMu progress = .ok progress') :
    StepInvariant config rollouts teacherInteractResults policyInput gathered
      progress' := by
  induction rounds generalizing iMu progress with
  | zero =>
    rw [muIterations, Except.ok.injEq] at iterated
    exact iterated ▸ invariant
  | succ rounds ih =>
    rw [muIterations] at iterated
    split at iterated
    case h_1 => cases iterated
    case h_2 middle optimized =>
      refine ih ?_ iterated
      have atChunk : AtChunk config rollouts policyInput gathered
          (iterationStart progress) := ⟨invariant.sound, Nat.zero_le _⟩
      have startSlots : (iterationStart progress).miniSteps.oldPerTokenLogps.length =
          numMiniBatch config rollouts.length := invariant.slots
      obtain ⟨arrangements, arranged, forwarded, sound, sameIterations⟩ :=
        optimizeChunks_ok config rollouts teacherInteractResults policyInput gathered
          atChunk rfl optimized
      have slots := (forwardMiniBatches_ok config rollouts teacherInteractResults
        (ChunksArranged.sameLength config rollouts policyInput gathered arranged)
        startSlots (Nat.zero_le _) forwarded).1
      have before : ∀ iteration ∈ middle.iterations,
          TrainedBy config rollouts teacherInteractResults policyInput gathered
            iteration := by
        rw [sameIterations]
        exact invariant.trained
      cases phase with
      | train =>
        refine ⟨sound, slots, ?_⟩
        intro iteration member
        rw [if_pos rfl, mem_append, mem_singleton] at member
        rcases member with earlier | rfl
        · exact before iteration earlier
        · exact ⟨iMu, _, _, arrangements, arranged, startSlots, rfl, rfl, forwarded, rfl⟩
      | refCompute => exact ⟨sound, slots, before⟩
      | oldLogpCompute => exact ⟨sound, slots, before⟩

theorem runPhases_invariant {phases : List TrainerPhase} {progress progress' : Progress Value}
    (invariant : StepInvariant config rollouts teacherInteractResults policyInput gathered
      progress)
    (run : runPhases config rollouts teacherInteractResults policyInput gathered progress
      phases = .ok progress') :
    StepInvariant config rollouts teacherInteractResults policyInput gathered
      progress' := by
  induction phases generalizing progress with
  | nil =>
    rw [runPhases, Except.ok.injEq] at run
    exact run ▸ invariant
  | cons phase phases ih =>
    rw [runPhases] at run
    split at run
    case h_1 => cases run
    case h_2 middle iterated =>
      exact ih (muIterations_invariant config rollouts
        teacherInteractResults policyInput gathered invariant iterated) run

def initialProgress : Progress Value :=
  { cachedMinibatchArrangements := []
    localOptimizeStep := 0
    miniSteps :=
      { oldPerTokenLogps := List.replicate (numMiniBatch config rollouts.length) none
        localMiniStep := 0
        allReducedBound := false
        trained := [] }
    iterations := [] }

/-- A step that does not fail has trained every mu-iteration by the arrangements of the
chunks. -/
theorem stepTraining_trainedBy {iterations : List (List (TrainedSample Value))}
    (stepped : stepTraining config rollouts teacherInteractResults policyInput gathered =
      .ok iterations) :
    miniBatchSize config rollouts.length ≠ 0 ∧ ∀ iteration ∈ iterations,
      TrainedBy config rollouts teacherInteractResults policyInput gathered iteration := by
  rw [stepTraining] at stepped
  split at stepped
  case isTrue => cases stepped
  case isFalse nonzero =>
    refine ⟨nonzero, ?_⟩
    cases run : runPhases config rollouts teacherInteractResults policyInput gathered
        (initialProgress config rollouts) (trainerPhases config rollouts) with
    | error exn =>
      rw [initialProgress] at run
      simp [run, Except.map] at stepped
    | ok progress =>
      have started : StepInvariant config rollouts teacherInteractResults policyInput
          gathered (initialProgress config rollouts) :=
        ⟨fun step arrangement found => by simp [initialProgress] at found,
          length_replicate, by simp [initialProgress]⟩
      have invariant := runPhases_invariant config rollouts teacherInteractResults
        policyInput gathered started run
      rw [initialProgress] at run
      simp only [run, Except.map, Except.ok.injEq] at stepped
      exact stepped ▸ invariant.trained

end Iterations

end CosmosRl.Policy
