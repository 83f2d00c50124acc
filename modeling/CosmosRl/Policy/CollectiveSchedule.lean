import CosmosRl.Policy.StepCollectives

/-!
The operations of one rank, from the numbers of mini-batches it keeps.

A rank whose mini-batches can all be read and have their slots goes through its step
without an exception, provided that it keeps a mini-batch of the first chunk.  The
operations it records are then a word of segments, one segment for every chunk.
-/

namespace CosmosRl.Policy

open CosmosRl.Data CosmosRl.Foundation List
open CosmosRl.Dispatcher (PyError)

section Rank

variable {Value : Type} [Zero Value] [LT Value] [DecidableLT Value]
  (config : CollectiveConfig) (rollouts : List (Rollout Value))
  (results : String → Option (List (List Value)))
  (policyInput : Rollout Value → RLPolicyInput) (gathered : Nat → Nat)

def keptOf (arrangement : List (List ProcessedSample) × List (List Nat)) :
    List (List ProcessedSample × List Nat) :=
  keptMiniBatches config.grpo rollouts results
    (arrangement.1.zip arrangement.2)

def keptCount (i step : Nat) : Nat :=
  match arrangementOf config.grpo rollouts policyInput gathered i step with
  | .error _ => 0
  | .ok arrangement => (keptOf config rollouts results arrangement).length

def keptCounts : List Nat :=
  (chunkStarts config.grpo rollouts).zipIdx.map fun (i, step) =>
    keptCount config rollouts results policyInput gathered i step

def isDue (number : Nat) : Bool :=
  match config.stepInterval with
  | none => false
  | some interval => decide ((number : Int) % interval = 0) && decide (1 < number)

/-- What a rank needs for its step.  The first three are checked by the code, or follow from
the configuration; the last two bound what it skips and what it keeps. -/
structure RankReady : Prop where
  sized : miniBatchSize config.grpo rollouts.length ≠ 0
  divides : config.stepInterval ≠ some 0
  arranged : ∀ i step, (chunkStarts config.grpo rollouts)[step]? = some i →
    ∃ arrangement, arrangementOf config.grpo rollouts policyInput gathered i step =
        .ok arrangement ∧
      ∀ miniBatch ∈ keptOf config rollouts results arrangement,
        Readable config.grpo rollouts results miniBatch
  fits : (keptCounts config rollouts results policyInput gathered).sum ≤
    numMiniBatch config.grpo rollouts.length
  begins : ∀ count ∈
    (keptCounts config rollouts results policyInput gathered).head?, 0 < count

def FilledBelow (number : Nat) (slots : List (Option (List (OldLogps Value)))) : Prop :=
  ∀ slot, slot < number → ∃ oldLogps, slots[slot]? = some (some oldLogps)

def FreeFrom (number : Nat) (slots : List (Option (List (OldLogps Value)))) : Prop :=
  ∀ slot, number ≤ slot → slot < slots.length → slots[slot]? = some none

def SlotsReady (phase : TrainerPhase) (iMu total : Nat) (steps : MiniSteps Value) : Prop :=
  steps.oldPerTokenLogps.length = numMiniBatch config.grpo rollouts.length ∧
    match phase with
    | .refCompute => FreeFrom 0 steps.oldPerTokenLogps
    | .oldLogpCompute => FilledBelow steps.localMiniStep steps.oldPerTokenLogps
    | .train =>
      if iMu = 0 ∧ needComputeOldAhead config.grpo rollouts.length = false then
        FilledBelow steps.localMiniStep steps.oldPerTokenLogps ∧
          FreeFrom steps.localMiniStep steps.oldPerTokenLogps
      else FilledBelow total steps.oldPerTokenLogps

variable {slots : List (Option (List (OldLogps Value)))} {phase : TrainerPhase} {iMu total i : Nat}
  {miniBatch : List ProcessedSample × List Nat} {traced : TracedProgress Value}
  {arrangement : List (List ProcessedSample) × List (List Nat)} {counts : List Nat}

section

omit [Zero Value] [LT Value] [DecidableLT Value]

theorem FilledBelow.set {number : Nat}
    (filled : FilledBelow number slots) (room : number < slots.length)
    (oldLogps : List (OldLogps Value)) :
    FilledBelow (number + 1) (slots.set number (some oldLogps)) := by
  intro slot below
  rw [getElem?_set]
  by_cases last : number = slot
  · rw [if_pos last, if_pos (by omega)]
    exact ⟨oldLogps, rfl⟩
  · rw [if_neg last]
    exact filled slot (by omega)

theorem FreeFrom.set {number : Nat}
    (free : FreeFrom number slots) (oldLogps : Option (List (OldLogps Value))) :
    FreeFrom (number + 1) (slots.set number oldLogps) := by
  intro slot above below
  rw [length_set] at below
  rw [getElem?_set_ne (by omega)]
  exact free slot (by omega) below

end

variable {config rollouts results} {steps : MiniSteps Value}

/-- A mini-batch that is kept finds the slot it needs. -/
theorem forwardMiniBatch_ready (ready : SlotsReady config rollouts phase iMu total steps)
    (kept : skipsMiniBatch config.grpo rollouts results miniBatch.2 = false)
    (readable : Readable config.grpo rollouts results miniBatch)
    (room : steps.localMiniStep < total) (fits : total ≤ numMiniBatch config.grpo rollouts.length) :
    ∃ steps', forwardMiniBatch config.grpo rollouts results phase iMu steps
        miniBatch.1 miniBatch.2 = .ok steps' ∧
      steps'.localMiniStep = steps.localMiniStep + 1 ∧
      SlotsReady config rollouts phase iMu total steps' := by
  obtain ⟨signals, read⟩ := readable
  obtain ⟨length, slots⟩ := ready
  have below : steps.localMiniStep < steps.oldPerTokenLogps.length := by omega
  rw [forwardMiniBatch, kept, if_neg (by simp), read]
  cases phase with
  | refCompute =>
    simp only
    rw [if_pos (by omega)]
    exact ⟨_, rfl, rfl, length, slots⟩
  | oldLogpCompute =>
    simp only
    rw [if_pos below]
    refine ⟨_, rfl, rfl, ?_, ?_⟩
    · simpa using length
    · exact FilledBelow.set slots below _
  | train =>
    simp only
    by_cases fresh : iMu = 0 ∧ needComputeOldAhead config.grpo rollouts.length = false
    · simp only [fresh, and_self, if_true] at slots
      rw [slots.2 _ (Nat.le_refl _) below]
      simp only
      rw [if_pos fresh]
      refine ⟨_, rfl, rfl, ?_, ?_⟩
      · simpa [trainMiniBatch] using length
      · rw [if_pos fresh]
        exact ⟨slots.1.set below _, slots.2.set _⟩
    · simp only [fresh, if_false] at slots
      obtain ⟨oldLogps, found⟩ := slots _ room
      rw [found]
      simp only
      have reuses : 0 < iMu ∨ needComputeOldAhead config.grpo rollouts.length = true := by
        rcases Nat.eq_zero_or_pos iMu with zero | positive
        · refine .inr (Bool.not_eq_false _ |>.mp fun together => fresh ⟨zero, together⟩)
        · exact .inl positive
      rw [if_pos reuses]
      refine ⟨_, rfl, rfl, length, ?_⟩
      rw [if_neg fresh]
      exact slots

def phaseItem (config : CollectiveConfig) (phase : TrainerPhase) : List Collective :=
  .forward :: if phase = .train then lossCollectives config else []

def phaseDue (config : CollectiveConfig) (phase : TrainerPhase) (number : Nat) : Bool :=
  decide (phase = .train) && isDue config number

theorem intervalReached_eq (divides : config.stepInterval ≠ some 0) (localMiniStep : Nat) :
    intervalReached config localMiniStep = .ok (isDue config localMiniStep) := by
  unfold intervalReached isDue
  cases interval : config.stepInterval with
  | none => rfl
  | some interval' =>
    rw [interval] at divides
    simp only
    rw [if_neg fun zero => divides (by rw [zero])]

/-- What running mini-batches, `kept` of which are not skipped, does to a step. -/
structure RanKept (config : CollectiveConfig) (phase : TrainerPhase) (kept : Nat)
    (before after : TracedProgress Value) : Prop where
  collectives_eq : after.collectives = before.collectives ++
    (List.range' (before.progress.miniSteps.localMiniStep + 1) kept).flatMap fun number =>
      phaseItem config phase ++
        if phaseDue config phase number then [.allReduceStates] else []
  localMiniStep_eq : after.progress.miniSteps.localMiniStep =
    before.progress.miniSteps.localMiniStep + kept
  allReduced_eq : phase = .train → after.allReduced =
    if kept = 0 then before.allReduced
    else some (isDue config (before.progress.miniSteps.localMiniStep + kept))
  outside_eq : { after.progress with miniSteps := before.progress.miniSteps } =
    before.progress

section

omit [Zero Value] [LT Value] [DecidableLT Value]

theorem RanKept.nothing (phase : TrainerPhase) (traced : TracedProgress Value) :
    RanKept config phase 0 traced traced :=
  ⟨by simp, rfl, fun _ => rfl, rfl⟩

theorem RanKept.append {kept later : Nat}
    {before middle after : TracedProgress Value} (front : RanKept config phase kept before middle)
    (back : RanKept config phase later middle after) :
    RanKept config phase (kept + later) before after := by
  refine ⟨?_, ?_, ?_, ?_⟩
  · rw [back.collectives_eq, front.collectives_eq, front.localMiniStep_eq, append_assoc,
      ← flatMap_append, Nat.add_right_comm, range'_append_1]
  · rw [back.localMiniStep_eq, front.localMiniStep_eq, Nat.add_assoc]
  · intro train
    rw [back.allReduced_eq train, front.allReduced_eq train, front.localMiniStep_eq, Nat.add_assoc]
    rcases Nat.eq_zero_or_pos later with rfl | positive
    · rw [if_pos rfl, Nat.add_zero]
    · rw [if_neg (by omega), if_neg (by omega)]
  · rw [← front.outside_eq, ← back.outside_eq]

end

theorem tracedMiniBatch_ready (divides : config.stepInterval ≠ some 0)
    (ready : SlotsReady config rollouts phase iMu total traced.progress.miniSteps)
    (kept : skipsMiniBatch config.grpo rollouts results miniBatch.2 = false)
    (readable : Readable config.grpo rollouts results miniBatch)
    (room : traced.progress.miniSteps.localMiniStep < total)
    (fits : total ≤ numMiniBatch config.grpo rollouts.length) :
    ∃ after, tracedMiniBatch config rollouts results phase iMu miniBatch traced =
        .ok after ∧
      SlotsReady config rollouts phase iMu total after.progress.miniSteps ∧
      RanKept config phase 1 traced after := by
  obtain ⟨steps, forwarded, counted, ready'⟩ := forwardMiniBatch_ready ready kept readable room fits
  obtain ⟨signals, read⟩ := readable
  rw [tracedMiniBatch, kept, if_neg (by simp), read]
  simp only [forwarded]
  by_cases train : phase = .train
  · rw [if_pos train, reduceAtInterval, TracedProgress.record, TracedProgress.record,
      intervalReached_eq divides]
    simp only [counted]
    cases due : isDue config (traced.progress.miniSteps.localMiniStep + 1) with
    | true =>
      refine ⟨_, rfl, ready', ?_, counted, fun _ => ?_, rfl⟩
      · simp [phaseItem, phaseDue, train, due, TracedProgress.record]
      · rw [if_neg (by omega), due]
    | false =>
      refine ⟨_, rfl, ready', ?_, counted, fun _ => ?_, rfl⟩
      · simp [phaseItem, phaseDue, train, due]
      · rw [if_neg (by omega), due]
  · rw [if_neg train]
    refine ⟨_, rfl, ready', ?_, counted, fun isTrain => absurd isTrain train, rfl⟩
    simp [phaseItem, phaseDue, train, TracedProgress.record]

/-- The loop over the mini-batches of a chunk, by induction on the mini-batches. -/
theorem tracedMiniBatches_ready {miniBatches : List (List ProcessedSample × List Nat)}
    (divides : config.stepInterval ≠ some 0)
    (ready : SlotsReady config rollouts phase iMu total traced.progress.miniSteps)
    (readable : ∀ miniBatch ∈ keptMiniBatches config.grpo rollouts results
      miniBatches, Readable config.grpo rollouts results miniBatch)
    (room : traced.progress.miniSteps.localMiniStep + (keptMiniBatches config.grpo rollouts
      results miniBatches).length ≤ total)
    (fits : total ≤ numMiniBatch config.grpo rollouts.length) :
    ∃ after, Outcome.forEach
        (tracedMiniBatch config rollouts results phase iMu) miniBatches traced =
        .ok after ∧
      SlotsReady config rollouts phase iMu total after.progress.miniSteps ∧
      RanKept config phase (keptMiniBatches config.grpo rollouts results
        miniBatches).length traced after := by
  induction miniBatches generalizing traced with
  | nil => exact ⟨traced, rfl, ready, RanKept.nothing phase traced⟩
  | cons miniBatch rest ih =>
    rw [Outcome.forEach_cons]
    cases skipped : skipsMiniBatch config.grpo rollouts results miniBatch.2 with
    | true =>
      have same : keptMiniBatches config.grpo rollouts results
          (miniBatch :: rest) =
          keptMiniBatches config.grpo rollouts results rest :=
        filter_cons_of_neg (by simp [skipped])
      rw [same] at readable room ⊢
      rw [tracedMiniBatch, skipped, if_pos rfl, Outcome.ok_andThen]
      exact ih ready readable room
    | false =>
      have more : keptMiniBatches config.grpo rollouts results
          (miniBatch :: rest) = miniBatch ::
          keptMiniBatches config.grpo rollouts results rest :=
        filter_cons_of_pos (by simp [skipped])
      rw [more, forall_mem_cons] at readable
      rw [more, length_cons] at room
      obtain ⟨middle, ran, middleReady, first⟩ := tracedMiniBatch_ready divides ready skipped
        readable.1 (by omega) fits
      obtain ⟨after, later, afterReady, others⟩ := ih middleReady readable.2
        (by rw [first.localMiniStep_eq]; omega)
      rw [ran, Outcome.ok_andThen, more, length_cons]
      refine ⟨after, later, afterReady, ?_⟩
      rw [Nat.add_comm]
      exact first.append others

/-- What the chunks with these numbers of kept mini-batches take in a phase, after `done`
mini-batches. -/
def phaseWord (config : CollectiveConfig) (phase : TrainerPhase) (done : Nat)
    (counts : List Nat) : List Collective :=
  if phase = .train then
    segmentWord (.forward :: lossCollectives config) .allReduceStates (isDue config) done counts
  else List.replicate counts.sum .forward

theorem phaseWord_cons (phase : TrainerPhase) (done count : Nat) (counts : List Nat) :
    phaseWord config phase done (count :: counts) =
      phaseWord config phase done [count] ++ phaseWord config phase (done + count) counts := by
  unfold phaseWord
  by_cases train : phase = .train
  · rw [if_pos train, if_pos train, if_pos train, segmentWord, segmentWord, segmentWord,
      append_nil]
  · rw [if_neg train, if_neg train, if_neg train, sum_cons, sum_singleton, replicate_add]

theorem phaseWord_singleton (phase : TrainerPhase) (done count : Nat) :
    phaseWord config phase done [count] =
      ((List.range' (done + 1) count).flatMap fun number =>
        phaseItem config phase ++
          if phaseDue config phase number then [.allReduceStates] else []) ++
        if phase = .train ∧ isDue config (done + count) = false then [.allReduceStates]
        else [] := by
  unfold phaseWord phaseItem phaseDue
  by_cases train : phase = .train
  · subst train
    rw [if_pos rfl, segmentWord, segmentWord, append_nil]
    cases isDue config (done + count) <;> simp
  · simp only [train, decide_false, Bool.false_and, Bool.false_eq_true, if_false, false_and,
      append_nil]
    rw [sum_singleton, ← map_eq_flatMap, map_const', length_range']

/-- A chunk can be run: its number has been reached in the cache, its slots are ready, and
the variable `all_reduced` is up to date. -/
structure ChunkReady (config : CollectiveConfig) (rollouts : List (Rollout Value))
    (policyInput : Rollout Value → RLPolicyInput) (gathered : Nat → Nat)
    (phase : TrainerPhase) (iMu total : Nat) (traced : TracedProgress Value) : Prop where
  atChunk : AtChunk config.grpo rollouts policyInput gathered traced.progress
  slots : SlotsReady config rollouts phase iMu total traced.progress.miniSteps
  reduced : phase = .train → traced.progress.miniSteps.localMiniStep = 0 ∨
    traced.allReduced = some (isDue config traced.progress.miniSteps.localMiniStep)

structure RanChunks (config : CollectiveConfig) (phase : TrainerPhase) (counts : List Nat)
    (before after : TracedProgress Value) : Prop where
  collectives_eq : after.collectives = before.collectives ++
    phaseWord config phase before.progress.miniSteps.localMiniStep counts
  localMiniStep_eq : after.progress.miniSteps.localMiniStep =
    before.progress.miniSteps.localMiniStep + counts.sum
  iterations_eq : after.progress.iterations = before.progress.iterations

variable {policyInput gathered}

section

omit [Zero Value] [LT Value] [DecidableLT Value]

theorem cachedArrangement_of_arranged {progress : Progress Value}
    (atChunk : AtChunk config.grpo rollouts policyInput gathered progress)
    (current : (chunkStarts config.grpo rollouts)[progress.localOptimizeStep]? = some i)
    (arranged : arrangementOf config.grpo rollouts policyInput gathered i
      progress.localOptimizeStep = .ok arrangement) :
    ∃ progress', cachedArrangement config.grpo rollouts policyInput gathered progress i =
      .ok (progress', arrangement) := by
  cases found : cachedArrangement config.grpo rollouts policyInput gathered progress i with
  | ok result =>
    have same := (cachedArrangement_ok config.grpo rollouts policyInput gathered atChunk
      current found).1
    rw [arranged, Except.ok.injEq] at same
    exact ⟨result.1, by rw [same]⟩
  | error exn =>
    rw [cachedArrangement] at found
    cases lookup : progress.cachedMinibatchArrangements[progress.localOptimizeStep]? with
    | some cached => simp [lookup] at found
    | none =>
      have outside := getElem?_eq_none_iff.mp lookup
      have last := Nat.le_antisymm outside atChunk.reached
      rw [arrangementOf] at arranged
      simp [last, arranged, Except.map] at found

theorem reduceLeftover_eq {allReduced : Bool} (reduced : traced.allReduced = some allReduced) :
    reduceLeftover traced =
      .ok (traced.record (if allReduced then [] else [.allReduceStates])) := by
  rw [reduceLeftover, reduced]
  cases allReduced with
  | true => simp [TracedProgress.record]
  | false => rfl

end

theorem tracedChunk_ready (divides : config.stepInterval ≠ some 0)
    (ready : ChunkReady config rollouts policyInput gathered phase iMu total traced)
    (current : (chunkStarts config.grpo rollouts)[traced.progress.localOptimizeStep]? = some i)
    (arranged : arrangementOf config.grpo rollouts policyInput gathered i
      traced.progress.localOptimizeStep = .ok arrangement)
    (readable : ∀ miniBatch ∈ keptOf config rollouts results arrangement,
      Readable config.grpo rollouts results miniBatch)
    (begun : 0 < traced.progress.miniSteps.localMiniStep +
      (keptOf config rollouts results arrangement).length)
    (room : traced.progress.miniSteps.localMiniStep +
      (keptOf config rollouts results arrangement).length ≤ total)
    (fits : total ≤ numMiniBatch config.grpo rollouts.length) :
    ∃ after, tracedChunk config rollouts results policyInput gathered phase iMu i
        traced = .ok after ∧
      ChunkReady config rollouts policyInput gathered phase iMu total after ∧
      after.progress.localOptimizeStep = traced.progress.localOptimizeStep + 1 ∧
      RanChunks config phase
        [(keptOf config rollouts results arrangement).length] traced after := by
  obtain ⟨cached, found⟩ := cachedArrangement_of_arranged ready.atChunk current arranged
  obtain ⟨-, sound, longer, sameStep, sameSteps, sameIterations⟩ := cachedArrangement_ok
    config.grpo rollouts policyInput gathered ready.atChunk current found
  have startReady : SlotsReady config rollouts phase iMu total
      ({ traced with progress := cached } : TracedProgress Value).progress.miniSteps := by
    rw [sameSteps]
    exact ready.slots
  obtain ⟨ran, runs, ranReady, kept⟩ := tracedMiniBatches_ready
    divides startReady readable (by rw [sameSteps]; exact room) fits
  have counted := kept.localMiniStep_eq
  have outside := kept.outside_eq
  have collected := kept.collectives_eq
  simp only [sameSteps] at counted collected
  have stepKept : ran.progress.localOptimizeStep = traced.progress.localOptimizeStep :=
    (congrArg Progress.localOptimizeStep outside).trans sameStep
  have cacheKept : ran.progress.cachedMinibatchArrangements =
      cached.cachedMinibatchArrangements :=
    (congrArg Progress.cachedMinibatchArrangements outside).trans rfl
  have iterationsKept : ran.progress.iterations = traced.progress.iterations :=
    (congrArg Progress.iterations outside).trans sameIterations
  have reduced : phase = .train → ran.allReduced =
      some (isDue config ran.progress.miniSteps.localMiniStep) := by
    intro train
    rw [kept.allReduced_eq train, counted]
    simp only [sameSteps]
    by_cases none : (keptMiniBatches config.grpo rollouts results
        (arrangement.1.zip arrangement.2)).length = 0
    · rw [if_pos none, none]
      rcases ready.reduced train with zero | upToDate
      · rw [keptOf, none] at begun
        omega
      · exact upToDate
    · rw [if_neg none]
  have atNext : AtChunk config.grpo rollouts policyInput gathered
      { ran.progress with localOptimizeStep := ran.progress.localOptimizeStep + 1 } := by
    refine ⟨?_, ?_⟩
    · intro step arrangement member
      exact sound step arrangement (cacheKept ▸ member)
    · simp only [cacheKept, stepKept]
      exact longer
  rw [tracedChunk, found]
  simp only [runs, Outcome.ok_andThen]
  by_cases train : phase = .train
  · rw [if_pos train, reduceLeftover_eq (reduced train), Outcome.ok_andThen]
    refine ⟨_, rfl, ⟨atNext, ranReady, fun _ => .inr (reduced train)⟩,
      congrArg (· + 1) stepKept, ?_, ?_, iterationsKept⟩
    · rw [phaseWord_singleton, keptOf, ← counted, TracedProgress.record, collected,
        append_assoc]
      cases isDue config ran.progress.miniSteps.localMiniStep <;> simp [train]
    · rw [sum_singleton]
      exact counted
  · rw [if_neg train]
    refine ⟨_, rfl, ⟨atNext, ranReady, fun isTrain => absurd isTrain train⟩,
      congrArg (· + 1) stepKept, ?_, ?_, iterationsKept⟩
    · rw [phaseWord_singleton, if_neg fun both => train both.1, append_nil]
      exact collected
    · rw [sum_singleton]
      exact counted

omit [Zero Value] [LT Value] [DecidableLT Value] in
theorem RanChunks.append {count : Nat} {before middle after : TracedProgress Value}
    (first : RanChunks config phase [count] before middle)
    (rest : RanChunks config phase counts middle after) :
    RanChunks config phase (count :: counts) before after := by
  have moved := first.localMiniStep_eq
  rw [sum_singleton] at moved
  refine ⟨?_, ?_, rest.iterations_eq.trans first.iterations_eq⟩
  · rw [rest.collectives_eq, first.collectives_eq, moved,
      phaseWord_cons phase _ count counts, append_assoc]
  · rw [rest.localMiniStep_eq, moved, sum_cons, Nat.add_assoc]

variable (results) in
omit [Zero Value] [LT Value] [DecidableLT Value] in
theorem keptCount_of_arranged {step : Nat}
    (arranged : arrangementOf config.grpo rollouts policyInput gathered i step =
      .ok arrangement) :
    keptCount config rollouts results policyInput gathered i step =
      (keptOf config rollouts results arrangement).length := by
  rw [keptCount, arranged]

/-- The loop over the chunks, by induction on the chunks that are left. -/
theorem tracedChunks_ready {starts : List Nat}
    (rank : RankReady config rollouts results policyInput gathered)
    (ready : ChunkReady config rollouts policyInput gathered phase iMu total traced)
    (current : (chunkStarts config.grpo rollouts).drop traced.progress.localOptimizeStep =
      starts) (counted : counts = (starts.zipIdx traced.progress.localOptimizeStep).map
      fun (i, step) => keptCount config rollouts results policyInput gathered i
        step)
    (begun : 0 < traced.progress.miniSteps.localMiniStep ∨ ∀ count ∈ counts.head?, 0 < count)
    (room : traced.progress.miniSteps.localMiniStep + counts.sum ≤ total)
    (fits : total ≤ numMiniBatch config.grpo rollouts.length) :
    ∃ after, Outcome.forEach
        (tracedChunk config rollouts results policyInput gathered phase iMu)
        starts traced = .ok after ∧
      CacheSound config.grpo rollouts policyInput gathered after.progress ∧
      SlotsReady config rollouts phase iMu total after.progress.miniSteps ∧
      RanChunks config phase counts traced after := by
  induction starts generalizing traced counts with
  | nil =>
    subst counted
    refine ⟨traced, rfl, ready.atChunk.sound, ready.slots, ?_, rfl, rfl⟩
    by_cases train : phase = .train <;> simp [phaseWord, train, segmentWord]
  | cons i starts ih =>
    have here : (chunkStarts config.grpo rollouts)[traced.progress.localOptimizeStep]? =
        some i := by
      rw [← head?_drop, current]
      rfl
    obtain ⟨arrangement, arranged, readable⟩ := rank.arranged i _ here
    have count := keptCount_of_arranged results arranged
    have split : counts = (keptOf config rollouts results arrangement).length ::
        (starts.zipIdx (traced.progress.localOptimizeStep + 1)).map fun (i, step) =>
          keptCount config rollouts results policyInput gathered i step := by
      rw [counted, zipIdx_cons, map_cons, ← count]
    subst split
    rw [sum_cons] at room
    have begunHere : 0 < traced.progress.miniSteps.localMiniStep +
        (keptOf config rollouts results arrangement).length := by
      rcases begun with positive | first
      · omega
      · have positive := first _ rfl
        omega
    obtain ⟨middle, ran, middleReady, moved, chunk⟩ := tracedChunk_ready rank.divides ready
      here arranged readable begunHere (by omega) fits
    have middleStep := chunk.localMiniStep_eq
    rw [sum_singleton] at middleStep
    have rest : (chunkStarts config.grpo rollouts).drop middle.progress.localOptimizeStep =
        starts := by
      rw [moved, ← tail_drop, current]
      rfl
    obtain ⟨after, later, sound, slots, others⟩ := ih middleReady rest
      (by rw [moved]) (.inl (by omega)) (by omega)
    rw [Outcome.forEach_cons, ran, Outcome.ok_andThen]
    exact ⟨after, later, sound, slots, chunk.append others⟩

/-- Between two mu-iterations: what the cache holds is sound, and the slots are as the next
one in this phase needs them. -/
structure IterationReady (config : CollectiveConfig) (rollouts : List (Rollout Value))
    (policyInput : Rollout Value → RLPolicyInput) (gathered : Nat → Nat)
    (phase : TrainerPhase) (iMu total : Nat) (traced : TracedProgress Value) : Prop where
  sound : CacheSound config.grpo rollouts policyInput gathered traced.progress
  slots : SlotsReady config rollouts phase iMu total
    { traced.progress.miniSteps with localMiniStep := 0 }

theorem tracedIteration_ready
    (rank : RankReady config rollouts results policyInput gathered)
    (counted : keptCounts config rollouts results policyInput gathered = counts)
    (ready : IterationReady config rollouts policyInput gathered phase iMu counts.sum traced) :
    ∃ after, tracedIteration config rollouts results policyInput gathered phase
        iMu traced = .ok after ∧
      CacheSound config.grpo rollouts policyInput gathered after.progress ∧
      SlotsReady config rollouts phase iMu counts.sum after.progress.miniSteps ∧
      after.progress.miniSteps.localMiniStep = counts.sum ∧
      after.collectives = traced.collectives ++ phaseWord config phase 0 counts := by
  have started : ChunkReady config rollouts policyInput gathered phase iMu counts.sum
      { traced with progress := iterationStart traced.progress } :=
    ⟨⟨ready.sound, Nat.zero_le _⟩, ready.slots, fun _ => .inl rfl⟩
  have begins := rank.begins
  have fits := rank.fits
  rw [counted] at begins fits
  obtain ⟨ran, runs, sound, slots, chunks⟩ := tracedChunks_ready rank started
    drop_zero counted.symm (.inr begins) (by rw [iterationStart, Nat.zero_add]) fits
  rw [tracedIteration, runs, Outcome.ok_andThen]
  have moved := chunks.localMiniStep_eq
  rw [iterationStart, Nat.zero_add] at moved
  by_cases train : phase = .train
  · rw [if_pos train]
    exact ⟨_, rfl, sound, slots, moved, chunks.collectives_eq⟩
  · rw [if_neg train]
    exact ⟨_, rfl, sound, slots, moved, chunks.collectives_eq⟩

omit [Zero Value] [LT Value] [DecidableLT Value] in
theorem SlotsReady.next (ready : SlotsReady config rollouts .train iMu total steps)
    (moved : steps.localMiniStep = total) :
    SlotsReady config rollouts .train (iMu + 1) total { steps with localMiniStep := 0 } := by
  obtain ⟨length, slots⟩ := ready
  refine ⟨length, ?_⟩
  simp only at slots ⊢
  rw [if_neg (by omega)]
  split at slots
  · rw [← moved]
    exact slots.1
  · exact slots

theorem trainIterations_ready (rounds : Nat)
    (rank : RankReady config rollouts results policyInput gathered)
    (counted : keptCounts config rollouts results policyInput gathered = counts)
    (ready : IterationReady config rollouts policyInput gathered .train iMu counts.sum traced) :
    ∃ after, Outcome.forEach
        (tracedIteration config rollouts results policyInput gathered .train)
        (List.range' iMu rounds) traced = .ok after ∧
      after.collectives = traced.collectives ++
        (List.replicate rounds (phaseWord config .train 0 counts)).flatten := by
  induction rounds generalizing iMu traced with
  | zero => exact ⟨traced, rfl, by simp⟩
  | succ rounds ih =>
    obtain ⟨middle, ran, sound, slots, moved, collected⟩ := tracedIteration_ready rank counted ready
    obtain ⟨after, later, others⟩ := ih ⟨sound, slots.next moved⟩
    rw [range'_succ, Outcome.forEach_cons, ran, Outcome.ok_andThen]
    refine ⟨after, later, ?_⟩
    rw [others, collected, replicate_succ, flatten_cons, append_assoc]

theorem tracedPhase_ready (before : phase ≠ .train)
    (rank : RankReady config rollouts results policyInput gathered)
    (counted : keptCounts config rollouts results policyInput gathered = counts)
    (ready : IterationReady config rollouts policyInput gathered phase 0 counts.sum traced) :
    ∃ after, tracedPhase config rollouts results policyInput gathered phase
        traced = .ok after ∧
      CacheSound config.grpo rollouts policyInput gathered after.progress ∧
      SlotsReady config rollouts phase 0 counts.sum after.progress.miniSteps ∧
      after.progress.miniSteps.localMiniStep = counts.sum ∧
      after.collectives = traced.collectives ++ List.replicate counts.sum .forward := by
  obtain ⟨after, ran, sound, slots, moved, collected⟩ := tracedIteration_ready rank counted ready
  rw [phaseWord, if_neg before] at collected
  rw [tracedPhase, if_neg before]
  refine ⟨after, ?_, sound, slots, moved, collected⟩
  rw [range_one, Outcome.forEach_cons, ran]
  rfl

def leadingForwards (config : CollectiveConfig) (batchSize total : Nat) : Nat :=
  (if config.grpo.needComputeRef then total else 0) +
    if needComputeOldAhead config.grpo batchSize then total else 0

def stepWord (config : CollectiveConfig) (batchSize : Nat) (counts : List Nat) :
    List Collective :=
  List.replicate (leadingForwards config batchSize counts.sum) .forward ++
    (List.replicate config.grpo.muIterations (phaseWord config .train 0 counts)).flatten

/-- A rank that has what it needs goes through its step; its operations are those of its
kept mini-batches. -/
theorem tracedStep_ready
    (rank : RankReady config rollouts results policyInput gathered) :
    ∃ after, tracedStep config rollouts results policyInput gathered =
        .ok after ∧
      after.collectives = stepWord config rollouts.length
        (keptCounts config rollouts results policyInput gathered) := by
  obtain ⟨counts, counted⟩ : ∃ counts, keptCounts config rollouts results
      policyInput gathered = counts := ⟨_, rfl⟩
  let start : TracedProgress Value := { progress := initialProgress config.grpo rollouts }
  have startSound : CacheSound config.grpo rollouts policyInput gathered start.progress := by
    intro step arrangement found
    simp [start, initialProgress] at found
  have startLength : start.progress.miniSteps.oldPerTokenLogps.length =
      numMiniBatch config.grpo rollouts.length := length_replicate
  have startFree : FreeFrom 0 start.progress.miniSteps.oldPerTokenLogps := by
    intro slot _ below
    exact getElem?_replicate_of_lt (startLength ▸ below)
  -- the reference phase leaves the slots as they are
  obtain ⟨referred, referring, referredSound, referredLength, referredFree, references⟩ :
      ∃ referred, Outcome.forEach
          (tracedPhase config rollouts results policyInput gathered)
          (if config.grpo.needComputeRef then [.refCompute] else []) start = .ok referred ∧
        CacheSound config.grpo rollouts policyInput gathered referred.progress ∧
        referred.progress.miniSteps.oldPerTokenLogps.length =
          numMiniBatch config.grpo rollouts.length ∧
        FreeFrom 0 referred.progress.miniSteps.oldPerTokenLogps ∧
        referred.collectives =
          List.replicate (if config.grpo.needComputeRef then counts.sum else 0) .forward := by
    by_cases reference : config.grpo.needComputeRef = true
    · rw [if_pos reference, if_pos reference]
      obtain ⟨after, ran, sound, slots, -, collected⟩ := tracedPhase_ready
        (show TrainerPhase.refCompute ≠ .train by decide) rank counted
        ⟨startSound, startLength, startFree⟩
      refine ⟨after, ?_, sound, slots.1, slots.2, collected⟩
      rw [Outcome.forEach_cons, ran]
      rfl
    · rw [if_neg reference, if_neg reference]
      exact ⟨start, rfl, startSound, startLength, startFree, rfl⟩
  -- the next phase fills them, or is left out
  obtain ⟨ahead, computing, aheadReady, olds⟩ :
      ∃ ahead, Outcome.forEach
          (tracedPhase config rollouts results policyInput gathered)
          (if needComputeOldAhead config.grpo rollouts.length then [.oldLogpCompute] else [])
          referred = .ok ahead ∧
        IterationReady config rollouts policyInput gathered .train 0 counts.sum ahead ∧
        ahead.collectives = referred.collectives ++
          List.replicate (if needComputeOldAhead config.grpo rollouts.length then counts.sum
            else 0) .forward := by
    have noneFilled : FilledBelow 0 referred.progress.miniSteps.oldPerTokenLogps :=
      fun slot below => absurd below (Nat.not_lt_zero slot)
    cases old : needComputeOldAhead config.grpo rollouts.length with
    | true =>
      obtain ⟨after, ran, sound, slots, moved, collected⟩ := tracedPhase_ready
        (show TrainerPhase.oldLogpCompute ≠ .train by decide) rank counted
        ⟨referredSound, referredLength, noneFilled⟩
      refine ⟨after, ?_, ⟨sound, slots.1, ?_⟩, collected⟩
      · rw [if_pos rfl, Outcome.forEach_cons, ran]
        rfl
      · simp only
        rw [if_neg (by simp [old]), ← moved]
        exact slots.2
    | false =>
      refine ⟨referred, rfl, ⟨referredSound, referredLength, ?_⟩, by simp⟩
      simp only
      rw [if_pos (by simp [old])]
      exact ⟨noneFilled, referredFree⟩
  obtain ⟨after, trained, collected⟩ :=
    trainIterations_ready config.grpo.muIterations rank counted aheadReady
  rw [tracedStep, if_neg rank.sized, trainerPhases, Outcome.forEach_append, Outcome.forEach_append,
    referring, Outcome.ok_andThen, computing, Outcome.ok_andThen, Outcome.forEach_cons,
    tracedPhase, if_pos rfl, range_eq_range', trained]
  refine ⟨after, rfl, ?_⟩
  rw [collected, olds, references, counted, stepWord, leadingForwards, replicate_add]

end Rank

end CosmosRl.Policy
