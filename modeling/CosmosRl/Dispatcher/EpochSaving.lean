import CosmosRl.Dispatcher.Accounting
import CosmosRl.Dispatcher.StepMoves

/-!
Checkpoints at the ends of epochs.

The samples that remain fall past the end of every epoch, and the first step after that is to
be saved if the saving frequency divides the number of the epoch.  The controller looks at the
samples of the step alone: at the epoch in which the step starts, after everything discarded
since the step before, and at whether the step ends it.
-/

namespace CosmosRl.Dispatcher

open CosmosRl.Foundation List

structure EpochConfig where
  config : Config
  enabled : config.ckpt.enableCheckpoint = true
  freq_pos : 0 < config.ckpt.saveFreqInEpoch

section Epochs

variable (config : EpochConfig)

def epochEnd (epoch : Int) : Int :=
  (config.config.epoch - epoch) * config.config.samplesPerEpoch

def currentEpoch (remain : Int) : Int :=
  config.config.epoch - (remain - 1) / config.config.samplesPerEpoch

def SavedEpoch (epoch : Int) : Prop :=
  1 ≤ epoch ∧ epoch ≤ config.config.epoch ∧ (config.config.ckpt.saveFreqInEpoch : Int) ∣ epoch

def EndsOwnEpoch (before remain : Int) : Prop :=
  (config.config.ckpt.saveFreqInEpoch : Int) ∣ currentEpoch config before ∧
    remain ≤ epochEnd config (currentEpoch config before)

/-- The counter falls past the end of an epoch to be saved, or to it. -/
def PassesSaved (high low : Int) : Prop :=
  ∃ epoch, SavedEpoch config epoch ∧ low ≤ epochEnd config epoch ∧ epochEnd config epoch < high

def InEpochs (before : Int) : Prop :=
  0 < before ∧ before ≤ config.config.epoch * config.config.samplesPerEpoch

variable {config}

/-- A counter that falls leaves its quotient exactly if it falls past its multiple below. -/
theorem quotient_ne_iff {period low high : Int} (positive : 0 < period) (falls : low ≤ high) :
    (high - 1) / period ≠ (low - 1) / period ↔ low ≤ (high - 1) / period * period := by
  have mono : (low - 1) / period ≤ (high - 1) / period :=
    Int.ediv_le_ediv positive (Int.sub_le_sub_right falls 1)
  have below : (low - 1) / period < (high - 1) / period ↔
      low - 1 < (high - 1) / period * period := Int.ediv_lt_iff_lt_mul positive
  constructor
  · intro differ
    exact Int.le_of_sub_one_lt (below.mp (lt_of_le_of_ne mono (Ne.symm differ)))
  · intro past same
    have lower := below.mpr (Int.sub_one_lt_of_le past)
    rw [same] at lower
    exact lt_irrefl _ lower

theorem samplesPerEpoch_pos (config : EpochConfig) : (0 : Int) < config.config.samplesPerEpoch :=
  Int.natCast_pos.mpr config.config.samplesPerEpoch_pos

theorem epochEnd_currentEpoch (remain : Int) :
    epochEnd config (currentEpoch config remain) =
      (remain - 1) / config.config.samplesPerEpoch * config.config.samplesPerEpoch := by
  rw [epochEnd, currentEpoch, Int.sub_sub_self]

theorem epochEnd_currentEpoch_lt (remain : Int) :
    epochEnd config (currentEpoch config remain) < remain := by
  rw [epochEnd_currentEpoch]
  have floor := Int.ediv_mul_le (remain - 1) (samplesPerEpoch_pos config).ne'
  exact Int.lt_of_le_sub_one floor

theorem inEpochs_iff {before : Int} :
    InEpochs config before ↔
      1 ≤ currentEpoch config before ∧ currentEpoch config before ≤ config.config.epoch := by
  have positive := samplesPerEpoch_pos config
  have started : 0 ≤ (before - 1) / (config.config.samplesPerEpoch : Int) ↔ 0 < before := by
    rw [Int.ediv_nonneg_iff_of_pos positive]
    exact Int.sub_nonneg
  have within : (before - 1) / (config.config.samplesPerEpoch : Int) < config.config.epoch ↔
      before ≤ config.config.epoch * config.config.samplesPerEpoch := by
    rw [Int.ediv_lt_iff_lt_mul positive]
    exact Int.sub_one_lt_iff
  rw [InEpochs, ← started, ← within, currentEpoch]
  omega

/-- Epochs to be saved whose end the counter passes lie above or below a value between. -/
theorem passesSaved_split {high middle low : Int} (first : middle ≤ high)
    (second : low ≤ middle) :
    PassesSaved config high low ↔
      PassesSaved config high middle ∨ PassesSaved config middle low := by
  constructor
  · rintro ⟨epoch, saved, reached, above⟩
    rcases Int.lt_or_le (epochEnd config epoch) middle with below | notBelow
    · exact .inr ⟨epoch, saved, reached, below⟩
    · exact .inl ⟨epoch, saved, notBelow, above⟩
  · rintro (⟨epoch, saved, reached, above⟩ | ⟨epoch, saved, reached, above⟩)
    · exact ⟨epoch, saved, second.trans reached, above⟩
    · exact ⟨epoch, saved, reached, above.trans_le first⟩

/-- An end below the counter is the end of its own epoch, or lies below that. -/
theorem epochEnd_eq_or_lt {epoch before : Int} (below : epochEnd config epoch < before) :
    epoch = currentEpoch config before ∨
      epochEnd config epoch < epochEnd config (currentEpoch config before) := by
  have positive := samplesPerEpoch_pos config
  have whole : config.config.epoch - epoch ≤
      (before - 1) / (config.config.samplesPerEpoch : Int) := by
    rw [Int.le_ediv_iff_mul_le positive]
    exact Int.le_sub_one_of_lt below
  rcases Int.lt_or_eq_of_le whole with less | equal
  · rw [epochEnd_currentEpoch]
    exact .inr (Int.mul_lt_mul_of_pos_right less positive)
  · refine .inl ?_
    rw [currentEpoch, ← equal]
    omega

/-- What a step itself passes: the end of the epoch in which it starts, and ends below. -/
theorem passesSaved_step {before remain : Int} :
    PassesSaved config before remain ↔
      (EndsOwnEpoch config before remain ∧ InEpochs config before) ∨
        PassesSaved config (epochEnd config (currentEpoch config before)) remain := by
  have below := @epochEnd_currentEpoch_lt config before
  constructor
  · rintro ⟨epoch, saved, reached, above⟩
    rcases epochEnd_eq_or_lt above with rfl | further
    · exact .inl ⟨⟨saved.2.2, reached⟩, inEpochs_iff.mpr ⟨saved.1, saved.2.1⟩⟩
    · exact .inr ⟨epoch, saved, reached, further⟩
  · rintro (⟨⟨divides, reached⟩, inEpochs⟩ | ⟨epoch, saved, reached, further⟩)
    · obtain ⟨atLeast, atMost⟩ := inEpochs_iff.mp inEpochs
      exact ⟨_, ⟨atLeast, atMost, divides⟩, reached, below⟩
    · exact ⟨epoch, saved, reached, further.trans below⟩

/-- A step of at most an epoch passes no end but that of the epoch in which it starts. -/
theorem not_passesSaved_of_short {before remain : Int}
    (short : before ≤ remain + config.config.samplesPerEpoch) :
    ¬ PassesSaved config (epochEnd config (currentEpoch config before)) remain := by
  rintro ⟨epoch, _, reached, further⟩
  have positive := samplesPerEpoch_pos config
  have earlier : config.config.epoch - epoch < config.config.epoch - currentEpoch config before :=
    lt_of_mul_lt_mul_right further positive.le
  have apart : epochEnd config epoch + config.config.samplesPerEpoch ≤
      epochEnd config (currentEpoch config before) := by
    calc epochEnd config epoch + config.config.samplesPerEpoch
        = (config.config.epoch - epoch + 1) * config.config.samplesPerEpoch := by
          rw [epochEnd, Int.add_mul, Int.one_mul]
      _ ≤ epochEnd config (currentEpoch config before) :=
          Int.mul_le_mul_of_nonneg_right earlier positive.le
  have below := @epochEnd_currentEpoch_lt config before
  omega

theorem checkpointSavingAt_iff (config : EpochConfig) (currentStep : Nat)
    (totalSteps remain : Int) (requiredRollouts : Nat) :
    checkpointSavingAt config.config currentStep totalSteps remain requiredRollouts = true ↔
      (currentStep : Int) = totalSteps ∨
        EndsOwnEpoch config (remain + requiredRollouts) remain := by
  unfold checkpointSavingAt checkCheckpointSaving EndsOwnEpoch
  dsimp only
  rw [config.enabled, Bool.and_true]
  by_cases last : (currentStep : Int) = totalSteps
  · rw [if_pos last]
    exact iff_of_true rfl (.inl last)
  · rw [if_neg last, if_pos config.freq_pos, epochEnd_currentEpoch,
      ← quotient_ne_iff (samplesPerEpoch_pos config)
        (Int.le_add_of_nonneg_right (Int.natCast_nonneg requiredRollouts))]
    split
    case isTrue differ =>
      rw [decide_eq_true_eq, ← Int.dvd_iff_emod_eq_zero]
      constructor
      · exact fun divides => .inr ⟨divides, differ⟩
      · rintro (isLast | ⟨divides, _⟩)
        · exact absurd isLast last
        · exact divides
    case isFalse same =>
      refine iff_of_false Bool.false_ne_true ?_
      rintro (isLast | ⟨_, differ⟩)
      · exact last isLast
      · exact same differ

end Epochs

structure SavingRun where
  controller : Controller
  started : List Nat := []

def SavingRun.handle (config : Config) (run : SavingRun) (event : Event) : SavingRun where
  controller := (handleEvent config run.controller event).state
  started :=
    match event with
    | .registerPolicy .. =>
      if (handleEvent config run.controller event).state.policy.currentStep =
          run.controller.policy.currentStep then run.started
      else run.started ++
        [(handleEvent config run.controller event).state.policy.currentStep]
    | _ => run.started

def savingSystem (config : Config) : EventSystem SavingRun Event where
  handle := SavingRun.handle config
  Allowed _ _ := True

section Log

variable (config : EpochConfig) (initial : Int) (log : List StepFetch) (fetch : StepFetch)

structure FirstPast (bound : Int) : Prop where
  reached : fetch.remainSamplesNum ≤ bound
  notAtStart : bound < initial
  notEarlier : ∀ other ∈ log, other.globalStep < fetch.globalStep →
    bound < other.remainSamplesNum

def AfterSavedEpoch : Prop :=
  ∃ epoch, SavedEpoch config epoch ∧ FirstPast initial log fetch (epochEnd config epoch)

def SavesEpochs : Prop :=
  ∀ fetch ∈ log, fetch.doSave = true ↔
    (fetch.globalStep : Int) = fetch.totalSteps ∨ AfterSavedEpoch config initial log fetch

def remainBefore : Int :=
  fetch.remainSamplesNum +
    (((log.filter fun other => decide (other.globalStep = fetch.globalStep)).map
      StepFetch.itemsCount).sum : Nat)

/-- The counter after the step before, or at the start. -/
def remainAtPrevious : Int :=
  ((log.filter fun other => decide (other.globalStep < fetch.globalStep)).map
    StepFetch.remainSamplesNum).foldr min initial

/-- What the counters are to be at a step, unless it is the last one.  If the samples
discarded since the step before pass an epoch to be saved, or those of the step pass one beyond
the epoch in which it starts, then the step must end that epoch too and its number be divisible.
And a step that ends such an epoch must find the counter within the epochs of the run.  A step
that a registration announces must pass no epoch to be saved, and not be the last one. -/
def KeepsEpochs (started : List Nat) : Prop :=
  let previous := remainAtPrevious initial log fetch
  let before := remainBefore log fetch
  let remain := fetch.remainSamplesNum
  let passesOthers := PassesSaved config previous before ∨
    PassesSaved config (epochEnd config (currentEpoch config before)) remain
  if fetch.globalStep ∈ started then
    (fetch.globalStep : Int) ≠ fetch.totalSteps ∧ ¬ PassesSaved config previous remain
  else
    (fetch.globalStep : Int) = fetch.totalSteps ∨
      ((passesOthers → EndsOwnEpoch config before remain) ∧
        (EndsOwnEpoch config before remain → InEpochs config before ∨ passesOthers))

/-- No epoch to be saved ends between two steps, and no step takes more than an epoch. -/
structure StepsWithinEpochs (started : List Nat) : Prop where
  triggered : fetch.globalStep ∉ started
  discards : ¬ PassesSaved config (remainAtPrevious initial log fetch) (remainBefore log fetch)
  short : remainBefore log fetch ≤ fetch.remainSamplesNum + config.config.samplesPerEpoch
  inEpochs : InEpochs config (remainBefore log fetch)

structure Decided : Prop where
  saved_iff : fetch.doSave = true ↔ (fetch.globalStep : Int) = fetch.totalSteps ∨
    EndsOwnEpoch config (remainBefore log fetch) fetch.remainSamplesNum
  before_le : remainBefore log fetch ≤ initial
  before_le_earlier : ∀ other ∈ log, other.globalStep < fetch.globalStep →
    remainBefore log fetch ≤ other.remainSamplesNum

end Log

variable {config : EpochConfig} {initial : Int} {log : List StepFetch} {fetch : StepFetch}
  {sent : List StepFetch}

theorem StepsWithinEpochs.keepsEpochs {started : List Nat}
    (within : StepsWithinEpochs config initial log fetch started) :
    KeepsEpochs config initial log fetch started := by
  unfold KeepsEpochs
  rw [if_neg within.triggered]
  refine .inr ⟨fun others => ?_, fun _ => .inl within.inEpochs⟩
  rcases others with discarded | further
  · exact absurd discarded within.discards
  · exact absurd further (not_passesSaved_of_short within.short)

theorem lt_foldr_min_iff {bound start : Int} {values : List Int} :
    bound < values.foldr min start ↔ bound < start ∧ ∀ value ∈ values, bound < value := by
  induction values with
  | nil => simp
  | cons value rest ih =>
    rw [foldr_cons, lt_min_iff, ih, forall_mem_cons]
    exact and_left_comm

theorem lt_remainAtPrevious_iff {bound : Int} :
    bound < remainAtPrevious initial log fetch ↔ bound < initial ∧
      ∀ other ∈ log, other.globalStep < fetch.globalStep → bound < other.remainSamplesNum := by
  rw [remainAtPrevious, lt_foldr_min_iff]
  simp only [forall_mem_map, mem_filter, decide_eq_true_eq, and_imp]

theorem afterSavedEpoch_iff :
    AfterSavedEpoch config initial log fetch ↔
      PassesSaved config (remainAtPrevious initial log fetch) fetch.remainSamplesNum := by
  unfold AfterSavedEpoch PassesSaved
  refine exists_congr fun epoch => and_congr_right fun _ => ?_
  rw [lt_remainAtPrevious_iff]
  exact ⟨fun first => ⟨first.reached, first.notAtStart, first.notEarlier⟩,
    fun ⟨reached, notAtStart, notEarlier⟩ => ⟨reached, notAtStart, notEarlier⟩⟩

theorem Decided.before_le_previous (decided : Decided config initial log fetch) :
    remainBefore log fetch ≤ remainAtPrevious initial log fetch := by
  refine Int.le_of_sub_one_lt (lt_remainAtPrevious_iff.mpr ⟨?_, fun other member earlier => ?_⟩)
  · exact Int.sub_one_lt_of_le decided.before_le
  · exact Int.sub_one_lt_of_le (decided.before_le_earlier other member earlier)

/-- The epochs to be saved since the step before: passed by discards, or by the step. -/
theorem Decided.afterSavedEpoch_iff (decided : Decided config initial log fetch) :
    AfterSavedEpoch config initial log fetch ↔
      (EndsOwnEpoch config (remainBefore log fetch) fetch.remainSamplesNum ∧
          InEpochs config (remainBefore log fetch)) ∨
        PassesSaved config (remainAtPrevious initial log fetch) (remainBefore log fetch) ∨
          PassesSaved config (epochEnd config (currentEpoch config (remainBefore log fetch)))
            fetch.remainSamplesNum := by
  have falls : fetch.remainSamplesNum ≤ remainBefore log fetch :=
    Int.le_add_of_nonneg_right (Int.natCast_nonneg _)
  rw [Dispatcher.afterSavedEpoch_iff, passesSaved_split decided.before_le_previous falls,
    @passesSaved_step config (remainBefore log fetch)]
  exact or_left_comm

theorem Decided.saved_iff_keeps {started : List Nat}
    (decided : Decided config initial log fetch) (triggered : fetch.globalStep ∉ started) :
    (fetch.doSave = true ↔
        (fetch.globalStep : Int) = fetch.totalSteps ∨
          AfterSavedEpoch config initial log fetch) ↔
      KeepsEpochs config initial log fetch started := by
  unfold KeepsEpochs
  rw [if_neg triggered, decided.saved_iff, decided.afterSavedEpoch_iff]
  by_cases last : (fetch.globalStep : Int) = fetch.totalSteps
  · exact iff_of_true ⟨fun _ => .inl last, fun _ => .inl last⟩ (.inl last)
  · rw [or_iff_right last, or_iff_right last, or_iff_right last]
    tauto

/-- What the `DataFetch` commands of a run record of the counters. -/
structure Recorded (config : EpochConfig) (initial : Int) (started : List Nat)
    (controller : Controller) : Prop where
  remain_le : controller.policy.remainSamplesNum ≤ initial
  started_le : ∀ step ∈ started, step ≤ controller.policy.currentStep
  fetch_le : ∀ fetch ∈ controller.stepFetches,
    fetch.globalStep ≤ controller.policy.currentStep ∧
      controller.policy.remainSamplesNum ≤ fetch.remainSamplesNum
  unsaved : ∀ fetch ∈ controller.stepFetches, fetch.globalStep ∈ started →
    fetch.doSave = false
  decided : ∀ fetch ∈ controller.stepFetches, fetch.globalStep ∉ started →
    Decided config initial controller.stepFetches fetch

theorem remainBefore_append (later : ∀ other ∈ sent, other.globalStep ≠ fetch.globalStep) :
    remainBefore (log ++ sent) fetch = remainBefore log fetch := by
  have nothing : (sent.filter fun other => decide (other.globalStep = fetch.globalStep)) = [] := by
    rw [filter_eq_nil_iff]
    intro other member
    rw [decide_eq_true_eq]
    exact later other member
  rw [remainBefore, remainBefore, filter_append, nothing, append_nil]

theorem Decided.append (decided : Decided config initial log fetch)
    (later : ∀ other ∈ sent, fetch.globalStep < other.globalStep) :
    Decided config initial (log ++ sent) fetch := by
  have same : remainBefore (log ++ sent) fetch = remainBefore log fetch :=
    remainBefore_append fun other member => (later other member).ne'
  refine ⟨?_, ?_, ?_⟩
  · rw [same]
    exact decided.saved_iff
  · rw [same]
    exact decided.before_le
  · rw [same]
    intro other member earlier
    rcases mem_append.mp member with old | new
    · exact decided.before_le_earlier other old earlier
    · exact absurd earlier (Nat.not_lt_of_lt (later other new))

section Extend

variable {started : List Nat} {before after : Controller}

/-- The record goes on with the commands of a later step. -/
theorem Recorded.extend {sent : List StepFetch} {startedAfter : List Nat}
    (recorded : Recorded config initial started before)
    (fetches : after.stepFetches = before.stepFetches ++ sent)
    (step_le : before.policy.currentStep ≤ after.policy.currentStep)
    (remain_le : after.policy.remainSamplesNum ≤ before.policy.remainSamplesNum)
    (new : ∀ fetch ∈ sent, before.policy.currentStep < fetch.globalStep ∧
      fetch.globalStep ≤ after.policy.currentStep ∧
        after.policy.remainSamplesNum ≤ fetch.remainSamplesNum)
    (startedBefore : ∀ step ≤ before.policy.currentStep,
      step ∈ startedAfter ↔ step ∈ started)
    (started_le : ∀ step ∈ startedAfter, step ≤ after.policy.currentStep)
    (unsaved : ∀ fetch ∈ sent, fetch.globalStep ∈ startedAfter → fetch.doSave = false)
    (decided : ∀ fetch ∈ sent, fetch.globalStep ∉ startedAfter →
      Decided config initial after.stepFetches fetch) :
    Recorded config initial startedAfter after := by
  refine ⟨remain_le.trans recorded.remain_le, started_le, ?_, ?_, ?_⟩
  · intro fetch member
    rw [fetches] at member
    rcases mem_append.mp member with old | isNew
    · obtain ⟨issued, above⟩ := recorded.fetch_le fetch old
      exact ⟨issued.trans step_le, remain_le.trans above⟩
    · exact (new fetch isNew).2
  · intro fetch member isStarted
    rw [fetches] at member
    rcases mem_append.mp member with old | isNew
    · exact recorded.unsaved fetch old
        ((startedBefore _ (recorded.fetch_le fetch old).1).mp isStarted)
    · exact unsaved fetch isNew isStarted
  · intro fetch member notStarted
    rw [fetches] at member
    rcases mem_append.mp member with old | isNew
    · have issued := (recorded.fetch_le fetch old).1
      have decidedBefore := recorded.decided fetch old fun isStarted =>
        notStarted ((startedBefore _ issued).mpr isStarted)
      rw [fetches]
      exact decidedBefore.append fun other isLater =>
        Nat.lt_of_le_of_lt issued (new other isLater).1
    · exact decided fetch isNew notStarted

theorem Recorded.held (recorded : Recorded config initial started before)
    (held : Held before after) : Recorded config initial started after := by
  refine @Recorded.extend _ _ _ _ _ [] _ recorded ?_ held.step_le held.remain_le ?_
    (fun step _ => Iff.rfl) (fun step isStarted => ?_) ?_ ?_
  · rw [held.fetches_eq, append_nil]
  · exact fun fetch member => absurd member not_mem_nil
  · exact (recorded.started_le step isStarted).trans held.step_le
  · exact fun fetch member => absurd member not_mem_nil
  · exact fun fetch member => absurd member not_mem_nil

theorem remainBefore_announced {names : List ReplicaName} {announce : ReplicaName → StepFetch}
    {itemsCount step : Nat} (old : ∀ other ∈ log, other.globalStep ≠ step)
    (stepIs : ∀ name, (announce name).globalStep = step)
    (itemsIs : ∀ name, (announce name).itemsCount = itemsCount) (isStep : fetch.globalStep = step) :
    remainBefore (log ++ names.map announce) fetch =
      fetch.remainSamplesNum + (itemsCount * names.length : Nat) := by
  have nothing : (log.filter fun other => decide (other.globalStep = fetch.globalStep)) = [] := by
    rw [filter_eq_nil_iff]
    intro other member
    rw [decide_eq_true_eq, isStep]
    exact old other member
  have everything : ((names.map announce).filter fun other =>
      decide (other.globalStep = fetch.globalStep)) = names.map announce := by
    rw [filter_eq_self]
    intro other member
    obtain ⟨name, _, rfl⟩ := mem_map.mp member
    rw [decide_eq_true_eq, stepIs, isStep]
  have items : (names.map announce).map StepFetch.itemsCount =
      List.replicate names.length itemsCount := by
    rw [map_map]
    exact map_eq_replicate_iff.mpr fun name _ => itemsIs name
  rw [remainBefore, filter_append, nothing, everything, nil_append, items,
    sum_replicate_nat, Nat.mul_comm]

section

variable (recorded : Recorded config initial started before)

include recorded

/-- A triggered step is decided by the counters it finds. -/
theorem Recorded.triggered {itemsCount : Nat} {names : List ReplicaName} {totalSteps : Int}
    (triggered : Triggered config.config itemsCount names totalSteps before after) :
    Recorded config initial started after := by
  obtain ⟨fetches, step, remain⟩ := triggered
  have falls : after.policy.remainSamplesNum ≤ before.policy.remainSamplesNum := by
    rw [remain]
    exact Int.sub_le_self _ (Int.natCast_nonneg _)
  have old : ∀ other ∈ before.stepFetches,
      other.globalStep ≠ before.policy.currentStep + 1 := fun other member =>
    (Nat.lt_succ_of_le (recorded.fetch_le other member).1).ne
  refine recorded.extend fetches (by rw [step]; exact Nat.le_succ _) falls ?_
    (fun _ _ => Iff.rfl) ?_ ?_ ?_
  · intro fetch member
    obtain ⟨name, _, rfl⟩ := mem_map.mp member
    exact ⟨Nat.lt_succ_self _, step.ge, Int.le_refl _⟩
  · intro other isStarted
    exact (recorded.started_le other isStarted).trans (by rw [step]; exact Nat.le_succ _)
  · intro fetch member isStarted
    obtain ⟨name, _, rfl⟩ := mem_map.mp member
    exact absurd (recorded.started_le _ isStarted) (Nat.not_succ_le_self _)
  · intro fetch member _
    obtain ⟨name, _, rfl⟩ := mem_map.mp member
    have beforeIs : remainBefore after.stepFetches
        ⟨name, itemsCount, before.policy.currentStep + 1, totalSteps,
          after.policy.remainSamplesNum,
          checkpointSavingAt config.config (before.policy.currentStep + 1) totalSteps
            after.policy.remainSamplesNum (itemsCount * names.length)⟩ =
        after.policy.remainSamplesNum + (itemsCount * names.length : Nat) := by
      rw [fetches]
      exact remainBefore_announced old (fun _ => rfl) (fun _ => rfl) rfl
    have sameBefore : after.policy.remainSamplesNum + (itemsCount * names.length : Nat) =
        before.policy.remainSamplesNum := by
      rw [remain, Int.sub_add_cancel]
    refine ⟨?_, ?_, ?_⟩
    · rw [beforeIs]
      exact checkpointSavingAt_iff config _ _ _ _
    · rw [beforeIs, sameBefore]
      exact recorded.remain_le
    · rw [beforeIs, sameBefore, fetches]
      intro other isOther earlier
      rcases mem_append.mp isOther with isOld | isNew
      · exact (recorded.fetch_le other isOld).2
      · obtain ⟨_, _, rfl⟩ := mem_map.mp isNew
        exact absurd earlier (Nat.lt_irrefl _)

theorem Recorded.moves
    (moves : Moves config.config before after) : Recorded config initial started after := by
  refine moves.preserves ?_ recorded
  intro first second recordedFirst move
  cases move with
  | held held => exact recordedFirst.held held
  | triggered triggered => exact recordedFirst.triggered triggered

/-- A registration that moves the counter announces the step it moves to. -/
theorem Recorded.enlisted (enlisted : Enlisted before after) :
    Recorded config initial
      (if after.policy.currentStep = before.policy.currentStep then started
        else started ++ [after.policy.currentStep]) after := by
  by_cases stays : after.policy.currentStep = before.policy.currentStep
  · rw [if_pos stays]
    rcases enlisted with held | startedAt
    · exact recorded.held held
    · exact absurd stays startedAt.step_lt.ne'
  · rw [if_neg stays]
    obtain ⟨sent, fetches, each, step_le, remain_le⟩ : ∃ sent,
        after.stepFetches = before.stepFetches ++ sent ∧
          (∀ fetch ∈ sent, fetch.globalStep = after.policy.currentStep ∧
            fetch.doSave = false ∧
            after.policy.remainSamplesNum ≤ fetch.remainSamplesNum) ∧
          before.policy.currentStep ≤ after.policy.currentStep ∧
          after.policy.remainSamplesNum ≤ before.policy.remainSamplesNum := by
      rcases enlisted with held | ⟨⟨sent, fetches, each⟩, step_lt, remain_le⟩
      · exact ⟨[], by rw [held.fetches_eq, append_nil],
          fun fetch member => absurd member not_mem_nil, held.step_le, held.remain_le⟩
      · exact ⟨sent, fetches, each, step_lt.le, remain_le⟩
    have step_lt : before.policy.currentStep < after.policy.currentStep :=
      lt_of_le_of_ne step_le (Ne.symm stays)
    refine recorded.extend fetches step_le remain_le ?_ ?_ ?_ ?_ ?_
    · intro fetch member
      obtain ⟨stepIs, _, above⟩ := each fetch member
      exact ⟨stepIs ▸ step_lt, stepIs.le, above⟩
    · intro step bound
      rw [mem_append, mem_singleton]
      exact or_iff_left (Nat.lt_of_le_of_lt bound step_lt).ne
    · intro step member
      rcases mem_append.mp member with old | new
      · exact (recorded.started_le step old).trans step_le
      · exact (mem_singleton.mp new).le
    · exact fun fetch member _ => (each fetch member).2.1
    · intro fetch member notStarted
      rw [(each fetch member).1] at notStarted
      exact absurd (mem_append_right _ mem_cons_self) notStarted

end

end Extend

structure RunRecorded (config : EpochConfig) (initial : Int) (run : SavingRun) : Prop where
  wellFormed : WellFormed run.controller
  fetchesIssued : FetchesIssued run.controller
  recorded : Recorded config initial run.started run.controller

theorem RunRecorded.handle {run : SavingRun} (kept : RunRecorded config initial run)
    (event : Event) :
    RunRecorded config initial ((savingSystem config.config).handle run event) := by
  obtain ⟨wellFormed, issued, recorded⟩ := kept
  have accounted := @handleEvent_accountingStep config.config _ wellFormed issued event
  refine ⟨accounted.wellFormed, accounted.fetchesIssued, ?_⟩
  cases event with
  | registerPolicy atom now => exact recorded.enlisted (enlisted_handleEvent atom now _)
  | _ => exact recorded.moves (moves_handleEvent wellFormed (by intro atom now same; cases same))

def SavingRun.start (config : Config) (currentStep : Nat) (remainSamplesNum : Int)
    (nInitPolicyReplicas nInitRolloutReplicas : Nat) (fetcher : ControllerDataFetcher) :
    SavingRun where
  controller := setup config currentStep remainSamplesNum nInitPolicyReplicas
    nInitRolloutReplicas fetcher

theorem SetUp.runRecorded {created started : Controller}
    (setUp : SetUp config.config created started) {initial : Int}
    (remain : created.policy.remainSamplesNum = initial) :
    RunRecorded config initial { controller := started } := by
  refine ⟨setUp.wellFormed, ?_, ?_⟩
  · intro fetch member
    rw [show ({ controller := started } : SavingRun).controller.sentFetches = [] from
      setUp.sentFetches_eq] at member
    cases member
  · refine Recorded.held ?_ (held_parts.setUp setUp)
    cases setUp
    cases remain
    exact {
      remain_le := Int.le_refl _
      started_le := fun step member => absurd member not_mem_nil
      fetch_le := fun fetch member => absurd member not_mem_nil
      unsaved := fun fetch member => absurd member not_mem_nil
      decided := fun fetch member => absurd member not_mem_nil }

theorem Recorded.saved_iff_keeps {started : List Nat} {controller : Controller}
    (recorded : Recorded config initial started controller)
    (member : fetch ∈ controller.stepFetches) :
    (fetch.doSave = true ↔
        (fetch.globalStep : Int) = fetch.totalSteps ∨
          AfterSavedEpoch config initial controller.stepFetches fetch) ↔
      KeepsEpochs config initial controller.stepFetches fetch started := by
  by_cases isStarted : fetch.globalStep ∈ started
  · unfold KeepsEpochs
    rw [if_pos isStarted, recorded.unsaved fetch member isStarted, ← afterSavedEpoch_iff,
      ← not_or]
    exact (iff_congr (iff_of_false Bool.false_ne_true not_false) Iff.rfl).trans
      ⟨fun same due => same.mpr due, fun notDue => iff_of_false not_false notDue⟩
  · exact (recorded.decided fetch member isStarted).saved_iff_keeps isStarted

/-- In every run exactly the last step and the first steps after the epochs to be saved are
saved, if and only if the counters at every step meet the condition; and they do where no step
and no discards in between pass more than they should. -/
theorem savesEpochs_iff (config : EpochConfig) (currentStep : Nat) (remainSamplesNum : Int)
    (nInitPolicyReplicas nInitRolloutReplicas : Nat) (fetcher : ControllerDataFetcher)
    (events : List Event) :
    let run := (savingSystem config.config).after (SavingRun.start config.config currentStep
      remainSamplesNum nInitPolicyReplicas nInitRolloutReplicas fetcher) events
    let log := run.controller.stepFetches
    (SavesEpochs config remainSamplesNum log ↔
        ∀ fetch ∈ log, KeepsEpochs config remainSamplesNum log fetch run.started) ∧
      ((∀ fetch ∈ log, (fetch.globalStep : Int) = fetch.totalSteps ∧
              fetch.globalStep ∉ run.started ∨
            StepsWithinEpochs config remainSamplesNum log fetch run.started) →
        SavesEpochs config remainSamplesNum log) := by
  intro run log
  have preserved := @EventSystem.throughout_of_preserved _ _ (savingSystem config.config)
    (RunRecorded config remainSamplesNum) (fun _ event holds _ => RunRecorded.handle holds event)
    _ events (SetUp.runRecorded (.setup currentStep remainSamplesNum nInitPolicyReplicas
      nInitRolloutReplicas fetcher) rfl) (EventSystem.IsRun.of_forall (fun _ _ => trivial) _ events)
  have kept : RunRecorded config remainSamplesNum run := preserved.finish
  have saves : SavesEpochs config remainSamplesNum log ↔
      ∀ fetch ∈ log, KeepsEpochs config remainSamplesNum log fetch run.started :=
    forall₂_congr fun fetch member => kept.recorded.saved_iff_keeps member
  refine ⟨saves, fun within => saves.mpr fun fetch member => ?_⟩
  rcases within fetch member with ⟨last, triggered⟩ | short
  · unfold KeepsEpochs
    rw [if_neg triggered]
    exact .inl last
  · exact short.keepsEpochs

def twoEpochsAStep : EpochConfig where
  config :=
    { Config.small 4
        { trainDataloader := fun _ => [[0]], valDataloader := [], valDatasize := 0 } with
      trainBatchPerReplica := 2
      trainBatch_pos := Nat.two_pos
      epoch := 4
      ckpt := { enableCheckpoint := true, saveFreqInEpoch := 2 } }
  enabled := rfl
  freq_pos := Nat.two_pos

/-- The first step of the run spans the first two epochs, and the end of the second one is
not saved. -/
theorem not_savesEpochs_spanned :
    ¬ SavesEpochs twoEpochsAStep 4
      ((savingSystem twoEpochsAStep.config).after
        (SavingRun.start twoEpochsAStep.config 0 4 1 1 { trainDataloaderIter := [[0]] })
        [.registerPolicy (singleAtom 0) 0, .registerRollout (singleAtom 1) 1,
          .putRolloutGroup { rollouts := [⟨0, 0, 0⟩, ⟨0, 0, 0⟩] }]).controller.stepFetches := by
  have log : ((savingSystem twoEpochsAStep.config).after
      (SavingRun.start twoEpochsAStep.config 0 4 1 1 { trainDataloaderIter := [[0]] })
      [.registerPolicy (singleAtom 0) 0, .registerRollout (singleAtom 1) 1,
        .putRolloutGroup { rollouts := [⟨0, 0, 0⟩, ⟨0, 0, 0⟩] }]).controller.stepFetches =
      [⟨0, 2, 1, 2, 2, false⟩] := by decide
  rw [log]
  intro saves
  have unsaved := (saves ⟨0, 2, 1, 2, 2, false⟩ mem_cons_self).mpr
    (.inr ⟨2, ⟨by decide, by decide, by decide⟩, by decide, by decide, ?_⟩)
  · cases unsaved
  · intro other member earlier
    cases mem_singleton.mp member
    exact absurd earlier (Nat.lt_irrefl _)

end CosmosRl.Dispatcher
