import Mathlib.Data.List.Chain
import CosmosRl.Foundation.Run
import CosmosRl.Policy.LrSchedule

/-!
The learning-rate factors that a policy applies in its steps.

The schedule is built at the first data fetch, for as many training steps as the controller
counts then.  The controller may count again later, and the policy goes on with the schedule it
has.
-/

namespace CosmosRl.Policy

open CosmosRl.Foundation CosmosRl.Dispatcher

/-- The schedulers of a policy once they are built, with the factor that the optimizers' learning
rates carry now. -/
structure LrSchedulers where
  schedule : LrSchedule
  lastEpoch : Nat
  factor : ℚ

structure LrPolicy where
  /-- `last_epoch` in the state dict of the initial schedulers. -/
  lastEpoch : Nat := 0
  lrSchedulers : Option LrSchedulers := none
  applied : List AppliedFactor := []
  raised : Option PyError := none

/-- A `DataFetchCommand`. -/
structure LrDataFetch where
  itemsCount : Nat
  totalSteps : Nat
  deriving DecidableEq, Repr

namespace LrPolicy

variable (config : LrConfig)

def stepTraining (schedulers : LrSchedulers) (policy : LrPolicy) : LrPolicy :=
  let executed : AppliedFactor := { step := schedulers.lastEpoch, factor := schedulers.factor }
  let stepped := { schedulers with lastEpoch := schedulers.lastEpoch + 1 }
  let policy := { policy with applied := policy.applied ++ [executed] }
  match schedulers.schedule.warmupStableDecay stepped.lastEpoch with
  | .error exn => { policy with lrSchedulers := some stepped, raised := some exn }
  | .ok factor => { policy with lrSchedulers := some { stepped with factor := factor } }

/-- `update_lr_schedulers` and the step.  Building schedulers sets the factor of step 0, and
their state dict brings back `last_epoch` alone. -/
def executeDataFetch (totalSteps : Nat) (policy : LrPolicy) : LrPolicy :=
  match policy.lrSchedulers with
  | some schedulers => policy.stepTraining schedulers
  | none =>
    if totalSteps = 0 then
      { policy with
        raised := some (.assertionError "Total steps must be set for lr scheduler") }
    else
      match (config.buildLrSchedulers totalSteps).warmupStableDecay 0 with
      | .error exn => { policy with raised := some exn }
      | .ok factor =>
        policy.stepTraining ⟨config.buildLrSchedulers totalSteps, policy.lastEpoch, factor⟩

def handle (policy : LrPolicy) (command : LrDataFetch) : LrPolicy :=
  match policy.raised with
  | some _ => policy
  | none =>
    if command.itemsCount = 0 then policy
    else policy.executeDataFetch config command.totalSteps

def Allowed (policy : LrPolicy) (command : LrDataFetch) : Prop :=
  policy.lrSchedulers.isNone = true → command.itemsCount ≠ 0 → 1 ≤ command.totalSteps

instance (policy : LrPolicy) (command : LrDataFetch) : Decidable (policy.Allowed command) :=
  inferInstanceAs (Decidable (_ → _ → _))

end LrPolicy

def lrSystem (config : LrConfig) : EventSystem LrPolicy LrDataFetch where
  handle := LrPolicy.handle config
  Allowed := LrPolicy.Allowed

namespace LrPolicy

structure StaysInRange (policy : LrPolicy) : Prop where
  noAssertion : policy.raised = none
  inRange : ∀ schedulers ∈ policy.lrSchedulers, ∀ entry ∈ policy.applied,
    schedulers.schedule.InRange entry
  ordered : ∀ schedulers ∈ policy.lrSchedulers,
    policy.applied.IsChain schedulers.schedule.Continues

def ScheduleCovers (config : LrConfig) (lastEpoch totalSteps : Nat) :
    Option LrSchedulers → Prop
  | some schedulers => schedulers.schedule.Covers schedulers.lastEpoch
  | none => (config.buildLrSchedulers totalSteps).CoversFirst lastEpoch

instance (config : LrConfig) (lastEpoch totalSteps : Nat) :
    (schedulers : Option LrSchedulers) →
      Decidable (ScheduleCovers config lastEpoch totalSteps schedulers)
  | some schedulers =>
    inferInstanceAs (Decidable (schedulers.schedule.Covers schedulers.lastEpoch))
  | none =>
    inferInstanceAs (Decidable ((config.buildLrSchedulers totalSteps).CoversFirst lastEpoch))

def StepCovered (config : LrConfig) (policy : LrPolicy) (command : LrDataFetch) : Prop :=
  command.itemsCount ≠ 0 →
    ScheduleCovers config policy.lastEpoch command.totalSteps policy.lrSchedulers

instance (config : LrConfig) (policy : LrPolicy) (command : LrDataFetch) :
    Decidable (policy.StepCovered config command) :=
  inferInstanceAs (Decidable (_ → _))

end LrPolicy

namespace LrPolicy

/-- The schedulers may execute their step: the factor they carry is in range, follows the last
one, and is followed rightly by the next. -/
structure Ready (schedulers : LrSchedulers) (policy : LrPolicy) : Prop where
  noAssertion : policy.raised = none
  earlier : ∀ entry ∈ policy.applied, schedulers.schedule.InRange entry
  ordered : policy.applied.IsChain schedulers.schedule.Continues
  follows : ∀ last ∈ policy.applied.getLast?,
    schedulers.schedule.Continues last ⟨schedulers.lastEpoch, schedulers.factor⟩
  inRange : schedulers.schedule.InRange ⟨schedulers.lastEpoch, schedulers.factor⟩
  next : ∃ next, schedulers.schedule.warmupStableDecay (schedulers.lastEpoch + 1) = .ok next ∧
    schedulers.schedule.Continues ⟨schedulers.lastEpoch, schedulers.factor⟩
      ⟨schedulers.lastEpoch + 1, next⟩

structure OnSchedule (policy : LrPolicy) : Prop extends policy.StaysInRange where
  fresh : policy.lrSchedulers = none → policy.applied = []
  carried : ∀ schedulers ∈ policy.lrSchedulers,
    schedulers.schedule.warmupStableDecay schedulers.lastEpoch = .ok schedulers.factor
  follows : ∀ schedulers ∈ policy.lrSchedulers, ∀ last ∈ policy.applied.getLast?,
    schedulers.schedule.Continues last ⟨schedulers.lastEpoch, schedulers.factor⟩

variable {config : LrConfig} {policy : LrPolicy} {schedulers : LrSchedulers}

theorem onSchedule_start (lastEpoch : Nat) : OnSchedule { lastEpoch := lastEpoch } := by
  refine ⟨⟨rfl, ?_, ?_⟩, fun _ => rfl, ?_, ?_⟩
  · intro schedulers member
    cases member
  · intro schedulers member
    cases member
  · intro schedulers member
    cases member
  · intro schedulers member
    cases member

theorem Ready.onSchedule (ready : policy.Ready schedulers) :
    (policy.stepTraining schedulers).OnSchedule := by
  obtain ⟨next, following, continues⟩ := ready.next
  unfold stepTraining
  dsimp only
  rw [following]
  refine ⟨⟨ready.noAssertion, ?_, ?_⟩, ?_, ?_, ?_⟩
  · intro stepped member entry applied
    cases member
    rcases List.mem_append.mp applied with earlier | executed
    · exact ready.earlier entry earlier
    · rw [List.mem_singleton.mp executed]
      exact ready.inRange
  · intro stepped member
    cases member
    apply List.isChain_append.mpr
    refine ⟨ready.ordered, List.isChain_singleton _, ?_⟩
    intro last isLast executed isExecuted
    cases isExecuted
    exact ready.follows last isLast
  · intro absent
    cases absent
  · intro stepped member
    cases member
    exact following
  · intro stepped member last isLast
    cases member
    rw [List.getLast?_concat] at isLast
    cases isLast
    exact continues

theorem OnSchedule.ready (onSchedule : policy.OnSchedule)
    (built : policy.lrSchedulers = some schedulers)
    (covers : schedulers.schedule.Covers schedulers.lastEpoch) : policy.Ready schedulers := by
  have carried := onSchedule.carried schedulers built
  have computable : schedulers.lastEpoch + 1 ≤ schedulers.schedule.trainingSteps ∨
      0 < schedulers.schedule.decaySteps := by
    rcases covers with within | ⟨decays, _⟩
    · exact .inl within
    · exact .inr decays
  obtain ⟨next, following⟩ := LrSchedule.exists_factor computable
  exact {
    noAssertion := onSchedule.noAssertion
    earlier := onSchedule.inRange schedulers built
    ordered := onSchedule.ordered schedulers built
    follows := onSchedule.follows schedulers built
    inRange := LrSchedule.inRange_of_covers covers carried
    next := ⟨next, following, LrSchedule.continues_succ carried following⟩ }

theorem OnSchedule.ready_first {schedule : LrSchedule} {first : ℚ}
    (onSchedule : policy.OnSchedule) (unbuilt : policy.lrSchedulers = none)
    (computed : schedule.warmupStableDecay 0 = .ok first)
    (covers : schedule.CoversFirst policy.lastEpoch) :
    policy.Ready ⟨schedule, policy.lastEpoch, first⟩ := by
  have unused := onSchedule.fresh unbuilt
  obtain ⟨next, following⟩ := LrSchedule.exists_factor covers.2
  refine {
    noAssertion := onSchedule.noAssertion
    earlier := ?_
    ordered := ?_
    follows := ?_
    inRange := LrSchedule.inRange_first computed covers
    next := ⟨next, following, LrSchedule.continues_first computed covers following⟩ }
  · intro entry applied
    rw [unused] at applied
    cases applied
  · rw [unused]
    exact List.IsChain.nil
  · intro last isLast
    rw [unused] at isLast
    cases isLast

theorem OnSchedule.handle (onSchedule : policy.OnSchedule) {command : LrDataFetch}
    (allowed : policy.Allowed command) (covered : policy.StepCovered config command) :
    (policy.handle config command).OnSchedule := by
  unfold LrPolicy.handle
  rw [onSchedule.noAssertion]
  dsimp only
  split
  case isTrue => exact onSchedule
  case isFalse executes =>
    have covers := covered executes
    unfold executeDataFetch
    cases built : policy.lrSchedulers with
    | some schedulers =>
      rw [built] at covers
      exact (onSchedule.ready built covers).onSchedule
    | none =>
      have counted : command.totalSteps ≠ 0 := by
        apply Nat.one_le_iff_ne_zero.mp
        apply allowed _ executes
        rw [built, Option.isNone_none]
      rw [built] at covers
      dsimp only
      rw [if_neg counted, LrSchedule.warmupStableDecay_zero]
      exact (onSchedule.ready_first built (LrSchedule.warmupStableDecay_zero _) covers).onSchedule

end LrPolicy

/-- In every run whose steps are covered, the factors applied stay in range. -/
theorem lrSchedule_staysInRange (config : LrConfig) (lastEpoch : Nat) (commands : List LrDataFetch)
    (run : (lrSystem config).IsRun { lastEpoch := lastEpoch } commands)
    (covered : (lrSystem config).StepsMeet (LrPolicy.StepCovered config)
      { lastEpoch := lastEpoch } commands) :
    (lrSystem config).Throughout LrPolicy.StaysInRange { lastEpoch := lastEpoch } commands := by
  have onSchedule : (lrSystem config).Throughout LrPolicy.OnSchedule
      { lastEpoch := lastEpoch } commands :=
    EventSystem.throughout_of_stepsMeet
      (fun _ _ holds allowed covers => holds.handle allowed covers)
      (LrPolicy.onSchedule_start lastEpoch) run covered
  exact onSchedule.mono fun _ holds => holds.toStaysInRange

instance (config : LrConfig) (policy : LrPolicy) (command : LrDataFetch) :
    Decidable ((lrSystem config).Allowed policy command) :=
  inferInstanceAs (Decidable (policy.Allowed command))

theorem noDecayRatio_mem : ∀ ratio ∈ (none : Option ℚ), 0 ≤ ratio ∧ ratio ≤ 1 := by
  intro ratio member
  cases member

theorem zeroMinLrFactor_mem : (0 : ℚ) ≤ 0 ∧ (0 : ℚ) ≤ 1 := ⟨le_rfl, zero_le_one⟩

def decayingLinearly : LrConfig where
  optmWarmupSteps := .int 0
  optmDecayRatio := none
  optmDecayType := .linear
  optmMinLrFactor := 0
  decayRatio_mem := noDecayRatio_mem
  minLrFactor_mem := zeroMinLrFactor_mem

/-- A schedule whose number of steps stays as it was counted first. -/
theorem lrSchedule_staysInRange_twoSteps :
    (lrSystem decayingLinearly).Throughout LrPolicy.StaysInRange { lastEpoch := 0 }
      [⟨1, 2⟩, ⟨1, 2⟩] :=
  lrSchedule_staysInRange decayingLinearly 0 [⟨1, 2⟩, ⟨1, 2⟩] (by decide +kernel)
    (by decide +kernel)

/-- The schedule is built for two steps.  A replica leaves after the first, so that the steps are
counted again and become three, and the third is executed with a factor of zero. -/
theorem not_lrSchedule_staysInRange :
    ¬∀ (config : LrConfig) (lastEpoch : Nat) (commands : List LrDataFetch),
      (lrSystem config).IsRun { lastEpoch := lastEpoch } commands →
        (lrSystem config).Throughout LrPolicy.StaysInRange { lastEpoch := lastEpoch }
          commands := by
  intro always
  have stays := (always decayingLinearly 0 [⟨1, 2⟩, ⟨1, 3⟩, ⟨1, 3⟩] (by decide +kernel)).finish
  have applied : ((lrSystem decayingLinearly).after { lastEpoch := 0 }
      [⟨1, 2⟩, ⟨1, 3⟩, ⟨1, 3⟩]).applied = [⟨0, 1⟩, ⟨1, 1 / 2⟩, ⟨2, 0⟩] := by
    decide +kernel
  have built : ((lrSystem decayingLinearly).after { lastEpoch := 0 }
      [⟨1, 2⟩, ⟨1, 3⟩, ⟨1, 3⟩]).lrSchedulers.isSome = true := by
    decide +kernel
  obtain ⟨schedulers, member⟩ := Option.isSome_iff_exists.mp built
  have inRange := stays.inRange schedulers member ⟨2, 0⟩ (by rw [applied]; simp)
  exact lt_irrefl 0 inRange.positive

end CosmosRl.Policy
