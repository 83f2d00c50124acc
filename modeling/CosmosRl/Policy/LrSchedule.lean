import Mathlib.Data.Rat.Floor
import CosmosRl.Dispatcher.Protocol

/-!
The learning-rate schedule: warm-up, stable steps and decay.

Numbers are exact rationals, so the decay types are the two that stay rational.  The factors are
asked to be positive, to stay between the minimum and one outside the warm-up, and not to
decrease during the warm-up nor to increase after it.
-/

namespace CosmosRl.Policy

open CosmosRl.Dispatcher

/-- `optm_warmup_steps`, an integer or a float. -/
inductive OptmWarmupSteps where
  | int (steps : Nat)
  | float (value : ℚ)

/-- `optm_decay_type`, where the default stands for `none`. -/
inductive LrDecayType where
  | linear
  | none
  deriving DecidableEq, Repr

structure LrConfig where
  optmWarmupSteps : OptmWarmupSteps
  optmDecayRatio : Option ℚ
  optmDecayType : LrDecayType
  optmMinLrFactor : ℚ
  decayRatio_mem : ∀ ratio ∈ optmDecayRatio, 0 ≤ ratio ∧ ratio ≤ 1
  minLrFactor_mem : 0 ≤ optmMinLrFactor ∧ optmMinLrFactor ≤ 1

/-- What `build_lr_schedulers` hands to `warmup_stable_decay`.  The last step is virtual. -/
structure LrSchedule where
  trainingSteps : Nat
  warmupSteps : Nat
  stableSteps : Nat
  decaySteps : Nat
  lrDecayType : LrDecayType
  minLrFactor : ℚ
  total_eq : warmupSteps + stableSteps + decaySteps = trainingSteps + 1
  stableSteps_pos : 0 < stableSteps
  minLrFactor_mem : 0 ≤ minLrFactor ∧ minLrFactor ≤ 1

/-- Python's `round`: to the nearest integer, and to the even one of two. -/
def pyRound (value : ℚ) : Nat :=
  let rest := value - ⌊value⌋₊
  if rest + rest < 1 then ⌊value⌋₊
  else if 1 < rest + rest then ⌊value⌋₊ + 1
  else if ⌊value⌋₊ % 2 = 0 then ⌊value⌋₊
  else ⌊value⌋₊ + 1

def OptmWarmupSteps.of (trainingSteps : Nat) : OptmWarmupSteps → Nat
  | .int steps => steps
  | .float value => if value ≤ 1 then ⌊value * trainingSteps⌋₊ else ⌊value⌋₊

namespace LrConfig

variable (config : LrConfig)

def warmupSteps (trainingSteps : Nat) : Nat :=
  if trainingSteps < config.optmWarmupSteps.of trainingSteps then trainingSteps
  else config.optmWarmupSteps.of trainingSteps

def decaySteps (trainingSteps : Nat) : Nat :=
  match config.optmDecayRatio with
  | none => trainingSteps - config.warmupSteps trainingSteps
  | some ratio =>
    let decaySteps := pyRound (trainingSteps * ratio)
    if trainingSteps < config.warmupSteps trainingSteps + decaySteps then
      trainingSteps - config.warmupSteps trainingSteps
    else decaySteps

section

variable (trainingSteps : Nat)

theorem warmupSteps_le : config.warmupSteps trainingSteps ≤ trainingSteps := by
  unfold warmupSteps
  split
  case isTrue => exact le_rfl
  case isFalse fits => exact Nat.le_of_not_lt fits

theorem warmupSteps_add_decaySteps_le :
    config.warmupSteps trainingSteps + config.decaySteps trainingSteps ≤ trainingSteps := by
  have within := config.warmupSteps_le trainingSteps
  have filled : config.warmupSteps trainingSteps +
      (trainingSteps - config.warmupSteps trainingSteps) ≤ trainingSteps :=
    (Nat.add_sub_cancel' within).le
  unfold decaySteps
  split
  case h_1 => exact filled
  case h_2 ratio _ =>
    dsimp only
    split
    case isTrue => exact filled
    case isFalse fits => exact Nat.le_of_not_lt fits

theorem total_eq :
    config.warmupSteps trainingSteps +
      (trainingSteps + 1 - config.warmupSteps trainingSteps - config.decaySteps trainingSteps) +
      config.decaySteps trainingSteps = trainingSteps + 1 := by
  have within := config.warmupSteps_add_decaySteps_le trainingSteps
  omega

theorem stableSteps_pos :
    0 < trainingSteps + 1 - config.warmupSteps trainingSteps -
      config.decaySteps trainingSteps := by
  have within := config.warmupSteps_add_decaySteps_le trainingSteps
  omega

end

def buildLrSchedulers (trainingSteps : Nat) : LrSchedule where
  trainingSteps := trainingSteps
  warmupSteps := config.warmupSteps trainingSteps
  stableSteps :=
    trainingSteps + 1 - config.warmupSteps trainingSteps - config.decaySteps trainingSteps
  decaySteps := config.decaySteps trainingSteps
  lrDecayType := config.optmDecayType
  minLrFactor := config.optmMinLrFactor
  total_eq := config.total_eq trainingSteps
  stableSteps_pos := config.stableSteps_pos trainingSteps
  minLrFactor_mem := config.minLrFactor_mem

end LrConfig

def LrDecayType.adjustment (progress : ℚ) : LrDecayType → ℚ
  | .linear => 1 - progress
  | .none => 1

namespace LrSchedule

variable (schedule : LrSchedule)

def progress (currentStep : Nat) : ℚ :=
  ((currentStep + 1 : Nat) - (schedule.warmupSteps + schedule.stableSteps : Nat) : ℚ) /
    schedule.decaySteps

def warmupStableDecay (currentStep : Nat) : Except PyError ℚ :=
  if currentStep < schedule.warmupSteps then
    if schedule.warmupSteps = 0 then
      .error (.assertionError "warmup_steps must not be zero to reach this branch")
    else .ok ((currentStep + 1 : Nat) / schedule.warmupSteps)
  else if currentStep < schedule.warmupSteps + schedule.stableSteps then .ok 1
  else if schedule.decaySteps = 0 then
    .error (.assertionError "decay_steps must not be zero to reach this branch")
  else
    .ok (schedule.minLrFactor + (1 - schedule.minLrFactor) *
      schedule.lrDecayType.adjustment (schedule.progress currentStep))

end LrSchedule

structure AppliedFactor where
  step : Nat
  factor : ℚ
  deriving DecidableEq, Repr

namespace LrSchedule

variable (schedule : LrSchedule)

structure InRange (entry : AppliedFactor) : Prop where
  positive : 0 < entry.factor
  bounded : schedule.warmupSteps ≤ entry.step →
    schedule.minLrFactor ≤ entry.factor ∧ entry.factor ≤ 1

structure Continues (current next : AppliedFactor) : Prop where
  warmup : next.step < schedule.warmupSteps → current.factor ≤ next.factor
  after : schedule.warmupSteps ≤ current.step → next.factor ≤ current.factor

/-- The factor of a step is right: the step is one of those that the schedule was built for, or
it is past them, with a decay that takes no factor below the minimum or to zero. -/
def Covers (step : Nat) : Prop :=
  step < schedule.trainingSteps ∨
    0 < schedule.decaySteps ∧
      (schedule.lrDecayType = .none ∨ schedule.minLrFactor = 1 ∨
        step = schedule.trainingSteps ∧ 0 < schedule.minLrFactor)

/-- The factor of step 0 is right in the first step after the schedulers were built, and the
factor of the next can be computed. -/
def CoversFirst (step : Nat) : Prop :=
  (step < schedule.warmupSteps ∨ schedule.warmupSteps ≤ 1) ∧
    (step < schedule.trainingSteps ∨ 0 < schedule.decaySteps)

instance (step : Nat) : Decidable (schedule.Covers step) :=
  inferInstanceAs (Decidable (_ ∨ _ ∧ (_ ∨ _ ∨ _ ∧ _)))

instance (step : Nat) : Decidable (schedule.CoversFirst step) :=
  inferInstanceAs (Decidable ((_ ∨ _) ∧ (_ ∨ _)))

end LrSchedule

namespace LrSchedule

variable {schedule : LrSchedule} {step : Nat}

theorem warmupStableDecay_warmup (warming : step < schedule.warmupSteps) :
    schedule.warmupStableDecay step = .ok ((step + 1 : Nat) / schedule.warmupSteps) := by
  unfold warmupStableDecay
  rw [if_pos warming, if_neg (Nat.ne_zero_of_lt warming)]

theorem warmupStableDecay_stable (warmed : schedule.warmupSteps ≤ step)
    (stable : step < schedule.warmupSteps + schedule.stableSteps) :
    schedule.warmupStableDecay step = .ok 1 := by
  unfold warmupStableDecay
  rw [if_neg (Nat.not_lt.mpr warmed), if_pos stable]

theorem warmupStableDecay_decay (past : schedule.warmupSteps + schedule.stableSteps ≤ step)
    (decays : 0 < schedule.decaySteps) :
    schedule.warmupStableDecay step = .ok (schedule.minLrFactor + (1 - schedule.minLrFactor) *
      schedule.lrDecayType.adjustment (schedule.progress step)) := by
  have warmed : schedule.warmupSteps ≤ step := (Nat.le_add_right _ _).trans past
  unfold warmupStableDecay
  rw [if_neg (Nat.not_lt.mpr warmed), if_neg (Nat.not_lt.mpr past), if_neg decays.ne']

theorem parts (schedule : LrSchedule) (step : Nat) :
    step < schedule.warmupSteps ∨
      (schedule.warmupSteps ≤ step ∧ step < schedule.warmupSteps + schedule.stableSteps) ∨
      schedule.warmupSteps + schedule.stableSteps ≤ step := by
  rcases Nat.lt_or_ge step schedule.warmupSteps with warming | warmed
  · exact .inl warming
  · rcases Nat.lt_or_ge step (schedule.warmupSteps + schedule.stableSteps) with stable | past
    · exact .inr (.inl ⟨warmed, stable⟩)
    · exact .inr (.inr past)

theorem decaySteps_pos (covered : step ≤ schedule.trainingSteps ∨ 0 < schedule.decaySteps)
    (past : schedule.warmupSteps + schedule.stableSteps ≤ step) : 0 < schedule.decaySteps := by
  rcases covered with within | decays
  · have total := schedule.total_eq
    omega
  · exact decays

theorem exists_factor (covered : step ≤ schedule.trainingSteps ∨ 0 < schedule.decaySteps) :
    ∃ factor, schedule.warmupStableDecay step = .ok factor := by
  rcases schedule.parts step with warming | ⟨warmed, stable⟩ | past
  · exact ⟨_, warmupStableDecay_warmup warming⟩
  · exact ⟨_, warmupStableDecay_stable warmed stable⟩
  · exact ⟨_, warmupStableDecay_decay past (decaySteps_pos covered past)⟩

variable {factor first : ℚ}

theorem decays_of_factor (past : schedule.warmupSteps + schedule.stableSteps ≤ step)
    (computed : schedule.warmupStableDecay step = .ok factor) :
    0 < schedule.decaySteps ∧ factor = schedule.minLrFactor + (1 - schedule.minLrFactor) *
      schedule.lrDecayType.adjustment (schedule.progress step) := by
  by_cases decays : 0 < schedule.decaySteps
  · rw [warmupStableDecay_decay past decays] at computed
    exact ⟨decays, (Except.ok.inj computed).symm⟩
  · have warmed : schedule.warmupSteps ≤ step := (Nat.le_add_right _ _).trans past
    unfold warmupStableDecay at computed
    rw [if_neg (Nat.not_lt.mpr warmed), if_neg (Nat.not_lt.mpr past),
      if_pos (Nat.eq_zero_of_not_pos decays)] at computed
    cases computed

theorem progress_nonneg (past : schedule.warmupSteps + schedule.stableSteps ≤ step) :
    0 ≤ schedule.progress step := by
  have after : ((schedule.warmupSteps + schedule.stableSteps : Nat) : ℚ) ≤ (step + 1 : Nat) :=
    Nat.cast_le.mpr (Nat.le_succ_of_le past)
  exact div_nonneg (sub_nonneg.mpr after) (Nat.cast_nonneg _)

theorem progress_le_succ (schedule : LrSchedule) (step : Nat) :
    schedule.progress step ≤ schedule.progress (step + 1) := by
  have later : ((step + 1 : Nat) : ℚ) ≤ (step + 1 + 1 : Nat) := Nat.cast_le.mpr (Nat.le_succ _)
  exact div_le_div_of_nonneg_right (sub_le_sub_right later _) (Nat.cast_nonneg _)

theorem progress_lt_one (decays : 0 < schedule.decaySteps)
    (within : step < schedule.trainingSteps) : schedule.progress step < 1 := by
  have total : step + 1 < schedule.warmupSteps + schedule.stableSteps + schedule.decaySteps := by
    have total := schedule.total_eq
    omega
  have cast : ((step + 1 : Nat) : ℚ) <
      (schedule.warmupSteps + schedule.stableSteps : Nat) + schedule.decaySteps := by
    rw [← Nat.cast_add]
    exact Nat.cast_lt.mpr total
  apply (div_lt_one (Nat.cast_pos.mpr decays)).mpr
  exact sub_lt_iff_lt_add'.mpr cast

theorem progress_trainingSteps (decays : 0 < schedule.decaySteps) :
    schedule.progress schedule.trainingSteps = 1 := by
  have cast : ((schedule.trainingSteps + 1 : Nat) : ℚ) =
      (schedule.warmupSteps + schedule.stableSteps : Nat) + schedule.decaySteps := by
    rw [← Nat.cast_add, schedule.total_eq]
  unfold progress
  rw [cast, add_sub_cancel_left, div_self (Nat.cast_ne_zero.mpr decays.ne')]

theorem adjustment_le_one (decayType : LrDecayType) {progress : ℚ} (begun : 0 ≤ progress) :
    decayType.adjustment progress ≤ 1 := by
  cases decayType with
  | linear => exact sub_le_self 1 begun
  | none => exact le_rfl

theorem adjustment_anti (decayType : LrDecayType) {earlier later : ℚ} (order : earlier ≤ later) :
    decayType.adjustment later ≤ decayType.adjustment earlier := by
  cases decayType with
  | linear => exact sub_le_sub_left order 1
  | none => exact le_rfl

theorem scaled_mono (schedule : LrSchedule) {second : ℚ} (order : first ≤ second) :
    schedule.minLrFactor + (1 - schedule.minLrFactor) * first ≤
      schedule.minLrFactor + (1 - schedule.minLrFactor) * second := by
  have room : 0 ≤ 1 - schedule.minLrFactor := sub_nonneg.mpr schedule.minLrFactor_mem.2
  exact add_le_add_right (mul_le_mul_of_nonneg_left order room) _

theorem scaled_one (schedule : LrSchedule) :
    schedule.minLrFactor + (1 - schedule.minLrFactor) * 1 = 1 := by
  rw [mul_one, add_sub_cancel]

theorem scaled_zero (schedule : LrSchedule) :
    schedule.minLrFactor + (1 - schedule.minLrFactor) * 0 = schedule.minLrFactor := by
  rw [mul_zero, add_zero]

theorem factor_le_one (computed : schedule.warmupStableDecay step = .ok factor) : factor ≤ 1 := by
  rcases schedule.parts step with warming | ⟨warmed, stable⟩ | past
  · rw [warmupStableDecay_warmup warming] at computed
    have some_steps : (0 : ℚ) < schedule.warmupSteps := Nat.cast_pos.mpr (Nat.zero_lt_of_lt warming)
    rw [← Except.ok.inj computed]
    exact (div_le_one some_steps).mpr (Nat.cast_le.mpr warming)
  · rw [warmupStableDecay_stable warmed stable] at computed
    exact (Except.ok.inj computed).symm.le
  · obtain ⟨_, value⟩ := decays_of_factor past computed
    rw [value]
    calc schedule.minLrFactor + (1 - schedule.minLrFactor) *
          schedule.lrDecayType.adjustment (schedule.progress step)
        ≤ schedule.minLrFactor + (1 - schedule.minLrFactor) * 1 :=
          schedule.scaled_mono (adjustment_le_one _ (progress_nonneg past))
      _ = 1 := schedule.scaled_one

theorem adjustment_pos (decayType : LrDecayType) {progress : ℚ} (unfinished : progress < 1) :
    0 < decayType.adjustment progress := by
  cases decayType with
  | linear => exact sub_pos.mpr unfinished
  | none => exact one_pos

theorem adjustment_one_nonneg (decayType : LrDecayType) : 0 ≤ decayType.adjustment 1 := by
  cases decayType with
  | linear => exact (sub_self (1 : ℚ)).ge
  | none => exact zero_le_one

theorem min_le_scaled (schedule : LrSchedule) {adjustment : ℚ} (nonneg : 0 ≤ adjustment) :
    schedule.minLrFactor ≤ schedule.minLrFactor + (1 - schedule.minLrFactor) * adjustment := by
  calc schedule.minLrFactor
      = schedule.minLrFactor + (1 - schedule.minLrFactor) * 0 := schedule.scaled_zero.symm
    _ ≤ schedule.minLrFactor + (1 - schedule.minLrFactor) * adjustment :=
        schedule.scaled_mono nonneg

theorem scaled_pos (schedule : LrSchedule) {adjustment : ℚ} (positive : 0 < adjustment)
    (le_one : adjustment ≤ 1) :
    0 < schedule.minLrFactor + (1 - schedule.minLrFactor) * adjustment := by
  have share : schedule.minLrFactor * adjustment ≤ schedule.minLrFactor :=
    mul_le_of_le_one_right schedule.minLrFactor_mem.1 le_one
  calc (0 : ℚ) < adjustment := positive
    _ = schedule.minLrFactor * adjustment + (1 - schedule.minLrFactor) * adjustment := by
        rw [← add_mul, add_sub_cancel, one_mul]
    _ ≤ schedule.minLrFactor + (1 - schedule.minLrFactor) * adjustment := add_le_add_left share _

theorem decayed_of_covers (covers : schedule.Covers step) (decays : 0 < schedule.decaySteps)
    (past : schedule.warmupSteps + schedule.stableSteps ≤ step) :
    0 < schedule.minLrFactor + (1 - schedule.minLrFactor) *
        schedule.lrDecayType.adjustment (schedule.progress step) ∧
      schedule.minLrFactor ≤ schedule.minLrFactor + (1 - schedule.minLrFactor) *
        schedule.lrDecayType.adjustment (schedule.progress step) := by
  rcases covers with within | ⟨_, undecayed | highest | ⟨last, positive⟩⟩
  · have adjusted := adjustment_pos schedule.lrDecayType (progress_lt_one decays within)
    have le_one := adjustment_le_one schedule.lrDecayType (progress_nonneg past)
    exact ⟨schedule.scaled_pos adjusted le_one, schedule.min_le_scaled adjusted.le⟩
  · have full : schedule.lrDecayType.adjustment (schedule.progress step) = 1 := by
      rw [undecayed, LrDecayType.adjustment]
    rw [full, scaled_one]
    exact ⟨one_pos, schedule.minLrFactor_mem.2⟩
  · have full : schedule.minLrFactor + (1 - schedule.minLrFactor) *
        schedule.lrDecayType.adjustment (schedule.progress step) = 1 := by
      rw [highest, sub_self, zero_mul, add_zero]
    rw [full]
    exact ⟨one_pos, schedule.minLrFactor_mem.2⟩
  · have finished : schedule.progress step = 1 := by
      rw [last]
      exact progress_trainingSteps decays
    rw [finished]
    have above := schedule.min_le_scaled (adjustment_one_nonneg schedule.lrDecayType)
    exact ⟨positive.trans_le above, above⟩

theorem inRange_of_covers (covers : schedule.Covers step)
    (computed : schedule.warmupStableDecay step = .ok factor) :
    schedule.InRange ⟨step, factor⟩ := by
  refine ⟨?_, ?_⟩
  · rcases schedule.parts step with warming | ⟨warmed, stable⟩ | past
    · rw [warmupStableDecay_warmup warming] at computed
      rw [← Except.ok.inj computed]
      have some_steps : (0 : ℚ) < schedule.warmupSteps :=
        Nat.cast_pos.mpr (Nat.zero_lt_of_lt warming)
      exact div_pos (Nat.cast_pos.mpr (Nat.succ_pos step)) some_steps
    · rw [warmupStableDecay_stable warmed stable] at computed
      rw [← Except.ok.inj computed]
      exact one_pos
    · obtain ⟨decays, value⟩ := decays_of_factor past computed
      rw [value]
      exact (decayed_of_covers covers decays past).1
  · intro warmed
    refine ⟨?_, factor_le_one computed⟩
    rcases Nat.lt_or_ge step (schedule.warmupSteps + schedule.stableSteps) with stable | past
    · rw [warmupStableDecay_stable warmed stable] at computed
      rw [← Except.ok.inj computed]
      exact schedule.minLrFactor_mem.2
    · obtain ⟨decays, value⟩ := decays_of_factor past computed
      rw [value]
      exact (decayed_of_covers covers decays past).2

theorem continues_succ {next : ℚ} (computed : schedule.warmupStableDecay step = .ok factor)
    (following : schedule.warmupStableDecay (step + 1) = .ok next) :
    schedule.Continues ⟨step, factor⟩ ⟨step + 1, next⟩ := by
  refine ⟨?_, ?_⟩
  · intro warming
    rw [warmupStableDecay_warmup (Nat.lt_of_succ_lt warming)] at computed
    rw [warmupStableDecay_warmup warming] at following
    rw [← Except.ok.inj computed, ← Except.ok.inj following]
    exact div_le_div_of_nonneg_right (Nat.cast_le.mpr (Nat.le_succ _)) (Nat.cast_nonneg _)
  · intro warmed
    rcases Nat.lt_or_ge step (schedule.warmupSteps + schedule.stableSteps) with stable | past
    · rw [warmupStableDecay_stable warmed stable] at computed
      rw [← Except.ok.inj computed]
      exact factor_le_one following
    · obtain ⟨_, value⟩ := decays_of_factor past computed
      obtain ⟨_, nextValue⟩ := decays_of_factor (Nat.le_succ_of_le past) following
      rw [value, nextValue]
      exact schedule.scaled_mono (adjustment_anti _ (schedule.progress_le_succ step))

theorem warmupStableDecay_zero (schedule : LrSchedule) :
    schedule.warmupStableDecay 0 =
      .ok (if schedule.warmupSteps = 0 then 1 else 1 / schedule.warmupSteps) := by
  by_cases none_left : schedule.warmupSteps = 0
  · rw [if_pos none_left]
    exact warmupStableDecay_stable none_left.le
      (Nat.add_pos_right schedule.warmupSteps schedule.stableSteps_pos)
  · rw [if_neg none_left, warmupStableDecay_warmup (Nat.pos_of_ne_zero none_left)]
    rw [Nat.zero_add, Nat.cast_one]

section

variable (computed : schedule.warmupStableDecay 0 = .ok first)

include computed

theorem first_eq_one (short : schedule.warmupSteps ≤ 1) : first = 1 := by
  rw [warmupStableDecay_zero] at computed
  rw [← Except.ok.inj computed]
  rcases Nat.le_one_iff_eq_zero_or_eq_one.mp short with none_left | single
  · exact if_pos none_left
  · rw [single, if_neg one_ne_zero, Nat.cast_one, one_div_one]

theorem inRange_first (covers : schedule.CoversFirst step) : schedule.InRange ⟨step, first⟩ := by
  rcases covers.1 with warming | short
  · refine ⟨?_, fun warmed => absurd warming (Nat.not_lt.mpr warmed)⟩
    have some_steps : schedule.warmupSteps ≠ 0 := Nat.ne_zero_of_lt warming
    rw [warmupStableDecay_zero, if_neg some_steps] at computed
    rw [← Except.ok.inj computed]
    exact one_div_pos.mpr (Nat.cast_pos.mpr (Nat.pos_of_ne_zero some_steps))
  · rw [first_eq_one computed short]
    exact ⟨one_pos, fun _ => ⟨schedule.minLrFactor_mem.2, le_rfl⟩⟩

theorem continues_first {next : ℚ} (covers : schedule.CoversFirst step)
    (following : schedule.warmupStableDecay (step + 1) = .ok next) :
    schedule.Continues ⟨step, first⟩ ⟨step + 1, next⟩ := by
  refine ⟨?_, ?_⟩
  · intro warming
    have some_steps : schedule.warmupSteps ≠ 0 := Nat.ne_zero_of_lt warming
    rw [warmupStableDecay_zero, if_neg some_steps] at computed
    rw [warmupStableDecay_warmup warming] at following
    rw [← Except.ok.inj computed, ← Except.ok.inj following]
    apply div_le_div_of_nonneg_right _ (Nat.cast_nonneg schedule.warmupSteps)
    exact Nat.one_le_cast.mpr (Nat.succ_pos (step + 1))
  · intro warmed
    rcases covers.1 with warming | short
    · exact absurd warming (Nat.not_lt.mpr warmed)
    · rw [first_eq_one computed short]
      exact factor_le_one following

end

end LrSchedule

end CosmosRl.Policy
