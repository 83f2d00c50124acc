import Mathlib.Data.Int.CardIntervalMod
import Mathlib.Data.Rat.Floor
import CosmosRl.Worker.SftSaveLoop
import CosmosRl.Worker.SftStepAgreement

/-!
The cadence of the checkpoints.

What the local `do_save` holds is what the epoch announced last would decide, so that a
checkpoint is right exactly if the finished epochs of its round fit that epoch.
-/

namespace CosmosRl.Worker

open CosmosRl.Foundation CosmosRl.Dispatcher List

variable (config : SftConfig)

section Request

variable {config}

structure StillAt (before after : SftWorker) : Prop where
  phase_eq : after.phase = before.phase
  step_eq : ∀ step ∈ before.trainStep, after.trainStep = some step

theorem StillAt.refl (worker : SftWorker) : StillAt worker worker :=
  ⟨rfl, fun _ known => known⟩

variable {worker : SftWorker}

theorem stillAt_takePrompt (payload : SftPayload)
    (state : SftWorker × PromptTargets) (still : StillAt worker state.1) :
    StillAt worker (takePrompt payload state).state.1 := by
  have kept : ∀ step ∈ worker.trainStep,
      some (state.1.trainStep.getD payload.weightVersion) = some step := by
    intro step known
    rw [still.step_eq step known, Option.getD_some]
  unfold takePrompt
  dsimp only
  split
  · exact ⟨still.phase_eq, kept⟩
  · exact ⟨still.phase_eq, kept⟩

theorem stillAt_requestNewPrompts (name : ReplicaName) (batchSize : Nat) (isValidation : Bool)
    (answer : List SftPayload × Bool) (worker : SftWorker) :
    StillAt worker (requestNewPrompts config name batchSize isValidation answer worker).state := by
  unfold requestNewPrompts
  split
  case h_1 =>
    rw [checkQueue_state]
    exact StillAt.refl worker
  case h_2 prompts share =>
    have taken : StillAt worker (Outcome.forEach takePrompt prompts (worker, {})).state.1 := by
      apply @Outcome.forEach_preserves _ _ _ fun state : SftWorker × PromptTargets =>
        StillAt worker state.1
      · intro payload _ state still
        exact stillAt_takePrompt payload state still
      · exact StillAt.refl worker
    dsimp only
    split
    · exact taken
    · split
      · rw [checkQueue_state]
        exact ⟨taken.phase_eq, taken.step_eq⟩
      · exact taken

theorem epoch_takePrompt {payload : SftPayload} {state : SftWorker × PromptTargets}
    (ran : (takePrompt payload state).raised = none) :
    (takePrompt payload state).state.1.currentEpoch = state.1.currentEpoch ∧
      (takePrompt payload state).state.2.epoch = max state.2.epoch payload.epoch := by
  unfold takePrompt at ran ⊢
  dsimp only at ran ⊢
  split at ran
  · cases ran
  · exact ⟨rfl, rfl⟩

theorem epoch_takePrompts {prompts : List SftPayload} {state : SftWorker × PromptTargets}
    (ran : (Outcome.forEach takePrompt prompts state).raised = none) :
    (Outcome.forEach takePrompt prompts state).state.1.currentEpoch = state.1.currentEpoch ∧
      (Outcome.forEach takePrompt prompts state).state.2.epoch =
        (prompts.map SftPayload.epoch).foldl max state.2.epoch := by
  induction prompts generalizing state with
  | nil => exact ⟨rfl, rfl⟩
  | cons payload rest ih =>
    rw [Outcome.forEach_cons] at ran ⊢
    rcases (takePrompt payload state).andThen_cases (Outcome.forEach takePrompt rest) with
      ⟨⟨exn, raised⟩, stays⟩ | ⟨finished, continues⟩
    · rw [stays, raised] at ran
      cases ran
    · rw [continues] at ran ⊢
      obtain ⟨kept, epoch⟩ := ih ran
      obtain ⟨same, updated⟩ := epoch_takePrompt finished
      rw [updated] at epoch
      exact ⟨kept.trans same, epoch⟩

theorem currentEpoch_requestNewPrompts {name : ReplicaName} {batchSize : Nat}
    {isValidation : Bool} {answer : List SftPayload × Bool}
    (ran : (requestNewPrompts config name batchSize isValidation answer worker).raised = none) :
    (requestNewPrompts config name batchSize isValidation answer worker).state.currentEpoch =
      (epochTold config name answer).or worker.currentEpoch := by
  unfold requestNewPrompts epochTold at *
  split at ran
  case h_1 nothing =>
    rw [checkQueue_state, nothing]
    rfl
  case h_2 prompts share =>
    rw [share]
    dsimp only at ran ⊢
    split at ran
    · cases ran
    · rename_i finished
      split at ran
      case isTrue fits =>
        rw [if_pos fits, checkQueue_state]
        exact congrArg some (epoch_takePrompts finished).2
      case isFalse => cases ran

theorem filled_of_checkQueue {batchSize : Nat} {isEnd : Bool}
    (ran : (checkQueue batchSize isEnd worker).raised = none) :
    isEnd = true ∨ batchSize ≤ (checkQueue batchSize isEnd worker).state.dataQueue := by
  unfold checkQueue at ran ⊢
  split at ran
  case isTrue enough =>
    rw [if_pos enough, Outcome.ok_state]
    simpa using enough
  case isFalse => cases ran

theorem filled_of_requestNewPrompts {name : ReplicaName} {batchSize : Nat}
    {isValidation : Bool} {answer : List SftPayload × Bool}
    (ran : (requestNewPrompts config name batchSize isValidation answer worker).raised = none) :
    answer.2 = true ∨ batchSize ≤
      (requestNewPrompts config name batchSize isValidation answer worker).state.dataQueue := by
  unfold requestNewPrompts at ran ⊢
  split at ran
  case h_1 => exact filled_of_checkQueue ran
  case h_2 =>
    dsimp only at ran ⊢
    split at ran
    · cases ran
    · split at ran
      case isTrue fits =>
        rw [if_pos fits]
        exact filled_of_checkQueue ran
      case isFalse => cases ran

end Request

/-- The decision about a round, from the epoch announced last. -/
def SaveRound.due (ckpt : CheckpointConfig) (round : SaveRound) : Bool :=
  if 0 < ckpt.saveFreqInEpoch then
    round.announced.any fun epoch : Int => decide (epoch % ckpt.saveFreqInEpoch = 0)
  else decide (round.trainStep % ckpt.saveFreq = 0)

section Rounds

variable {ckpt : CheckpointConfig}

theorem SaveRound.owed_of_epochs (inEpochs : 0 < ckpt.saveFreqInEpoch) (round : SaveRound) :
    (round.owed ckpt : Int) = max (round.rise ckpt) 0 := by
  have positive : (0 : Int) < ckpt.saveFreqInEpoch := Int.natCast_pos.mpr inEpochs
  have counted := Int.Ioc_filter_dvd_card round.before round.epoch positive
  rw [Int.Ioc_eq_finset_map, Finset.filter_map, Finset.card_map] at counted
  simp only [Int.cast_natCast, Rat.floor_intCast_div_natCast] at counted
  rw [owed, if_pos inEpochs, rise]
  exact counted

/-- The decision is right exactly if the epochs fit. -/
theorem SaveRound.due_eq_owed_iff {round : SaveRound}
    (announced : 0 < ckpt.saveFreqInEpoch → round.announced ≠ none) :
    (round.due ckpt).toNat = round.owed ckpt ↔
      (0 < ckpt.saveFreqInEpoch → round.Agrees ckpt) := by
  by_cases inEpochs : 0 < ckpt.saveFreqInEpoch
  · obtain ⟨epoch, known⟩ := Option.ne_none_iff_exists'.mp (announced inEpochs)
    have owed := SaveRound.owed_of_epochs inEpochs round
    have agrees : round.Agrees ckpt ↔
        if (ckpt.saveFreqInEpoch : Int) ∣ epoch then round.rise ckpt = 1
        else round.rise ckpt ≤ 0 := by
      simp only [SaveRound.Agrees, known, Option.mem_some_iff, forall_eq']
    rw [due, if_pos inEpochs, known, Option.any_some, forall_prop_of_true inEpochs, agrees]
    by_cases counts : (ckpt.saveFreqInEpoch : Int) ∣ epoch
    · rw [if_pos counts, decide_eq_true (Int.emod_eq_zero_of_dvd counts), Bool.toNat_true]
      omega
    · rw [if_neg counts, decide_eq_false fun zero => counts (Int.dvd_of_emod_eq_zero zero),
        Bool.toNat_false]
      omega
  · refine iff_of_true ?_ fun positive => absurd positive inEpochs
    rw [due, owed, if_neg inEpochs, if_neg inEpochs]
    by_cases counts : ckpt.saveFreq ∣ round.trainStep
    · rw [if_pos counts, decide_eq_true (Nat.mod_eq_zero_of_dvd counts), Bool.toNat_true]
    · rw [if_neg counts, decide_eq_false fun zero => counts (Nat.dvd_of_mod_eq_zero zero),
        Bool.toNat_false]

theorem SaveRound.Successive.agrees {round : SaveRound} (successive : round.Successive ckpt)
    (inEpochs : 0 < ckpt.saveFreqInEpoch) : round.Agrees ckpt := by
  obtain ⟨announced, next | ⟨again, notCounted⟩⟩ := successive
  · have owed := SaveRound.owed_of_epochs inEpochs round
    have single : (round.epoch - round.before).toNat = 1 := by omega
    rw [SaveRound.owed, if_pos inEpochs, single, Finset.range_one, Finset.filter_singleton,
      Int.natCast_zero, Int.add_zero, ← next] at owed
    rw [SaveRound.Agrees, announced]
    rintro _ ⟨⟩
    by_cases counts : (ckpt.saveFreqInEpoch : Int) ∣ round.epoch
    · rw [if_pos counts, Finset.card_singleton] at owed
      rw [if_pos counts]
      omega
    · rw [if_neg counts, Finset.card_empty] at owed
      rw [if_neg counts]
      omega
  · rw [SaveRound.Agrees, announced]
    rintro _ ⟨⟩
    rw [if_neg notCounted, rise, again, Int.sub_self]

def savesOf (checkpoints : SaveRound → Nat) (rounds : List SaveRound) : List Nat :=
  rounds.flatMap fun round => List.replicate (checkpoints round) round.trainStep

theorem count_savesOf {rounds : List SaveRound} (checkpoints : SaveRound → Nat)
    (distinct : (rounds.map SaveRound.trainStep).Nodup) {round : SaveRound}
    (listed : round ∈ rounds) :
    (savesOf checkpoints rounds).count round.trainStep = checkpoints round := by
  induction rounds with
  | nil => cases listed
  | cons first rest ih =>
    rw [map_cons, nodup_cons] at distinct
    rw [savesOf, flatMap_cons, count_append, count_replicate]
    rcases mem_cons.mp listed with rfl | later
    · have nothing : (savesOf checkpoints rest).count round.trainStep = 0 := by
        rw [count_eq_zero, savesOf, mem_flatMap]
        rintro ⟨other, member, step⟩
        have same := eq_of_mem_replicate step
        exact distinct.1 (same ▸ mem_map_of_mem member)
      rw [beq_self_eq_true, if_pos rfl]
      exact congrArg _ nothing
    · have other : first.trainStep ≠ round.trainStep := fun same =>
        distinct.1 (same ▸ mem_map_of_mem later)
      rw [if_neg (by simpa using other), Nat.zero_add]
      exact ih distinct.2 later

theorem savesOf_eq_iff {rounds : List SaveRound} {first second : SaveRound → Nat}
    (distinct : (rounds.map SaveRound.trainStep).Nodup) :
    savesOf first rounds = savesOf second rounds ↔
      ∀ round ∈ rounds, first round = second round := by
  constructor
  · intro same round listed
    rw [← count_savesOf first distinct listed, same, count_savesOf second distinct listed]
  · intro same
    exact flatMap_congr fun round listed => by rw [same round listed]

end Rounds

namespace SaveLoop

/-- The decision that the epoch announced last leaves in the local. -/
def announcedSave (announced : Option Int) : Option Bool :=
  announced.map fun epoch : Int => decide (epoch % config.base.ckpt.saveFreqInEpoch = 0)

structure Waiting (loop : SaveLoop) : Prop where
  decided : ∀ round ∈ loop.pending, round.due config.base.ckpt = loop.doSave ∧
    loop.worker.trainStep = some round.trainStep
  first : loop.pending = none → loop.settled = [] ∧ loop.doSave = false
  bound : 0 < config.base.ckpt.saveFreqInEpoch →
    loop.localDoSave = announcedSave config loop.announced
  told_eq : loop.worker.currentEpoch = loop.told

/-- After a request, all rounds are settled, and `further` steps have been made since. -/
structure Settled (further : Nat) (loop : SaveLoop) : Prop where
  pending_eq : loop.pending = none
  last : ∀ round ∈ loop.settled.getLast?,
    loop.worker.trainStep = some (round.trainStep + further)
  further_le : ∀ step ∈ loop.worker.trainStep, further ≤ step
  /-- A new epoch is the one announced last; otherwise the local still holds that one. -/
  flag : 0 < config.base.ckpt.saveFreqInEpoch →
    if loop.newEpoch then loop.announced = loop.worker.currentEpoch ∧ loop.announced ≠ none
    else loop.localDoSave = announcedSave config loop.announced
  told_eq : loop.worker.currentEpoch = loop.told

def InPhase (loop : SaveLoop) : SftPhase → Prop
  | .validating false | .postingValidation false | .fetching => loop.Waiting config
  | .training _ => loop.Settled config 0
  | .postingAck _ => loop.Settled config 1
  | .validating true | .postingValidation true | .finished => loop.pending = none
  | .failed => True

structure Recorded (loop : SaveLoop) : Prop where
  computed : loop.unboundLocal = false ↔
    (0 < config.base.ckpt.saveFreqInEpoch → ∀ round ∈ loop.rounds, round.announced ≠ none)
  saves_eq : loop.saves = savesOf (fun round => (round.due config.base.ckpt).toNat) loop.settled
  consecutive : (loop.rounds.map SaveRound.trainStep).IsChain fun step next => next = step + 1

structure Booked (loop : SaveLoop) : Prop extends loop.Recorded config where
  inPhase : loop.InPhase config loop.worker.phase

variable {config} {loop : SaveLoop} {worker : SftWorker} {told : Option Int}

theorem Recorded.nodup_settled (recorded : loop.Recorded config) :
    (loop.settled.map SaveRound.trainStep).Nodup := by
  have increasing : (loop.rounds.map SaveRound.trainStep).IsChain (· < ·) :=
    recorded.consecutive.imp (by rintro step _ rfl; exact Nat.lt_succ_self step)
  have distinct : (loop.rounds.map SaveRound.trainStep).Nodup :=
    (isChain_iff_pairwise.mp increasing).imp fun less => less.ne
  rw [rounds, map_append] at distinct
  exact distinct.of_append_left

theorem Booked.cadence_iff (booked : loop.Booked config) :
    loop.Cadence config ↔ loop.EpochsAgree config := by
  have right : (∀ round ∈ loop.rounds, 0 < config.base.ckpt.saveFreqInEpoch →
      round.announced ≠ none) → (loop.saves = loop.settled.flatMap (fun round =>
        List.replicate (round.owed config.base.ckpt) round.trainStep) ↔
      ∀ round ∈ loop.settled, 0 < config.base.ckpt.saveFreqInEpoch →
        round.Agrees config.base.ckpt) := by
    intro announced
    rw [booked.saves_eq]
    refine (savesOf_eq_iff booked.nodup_settled).trans (forall₂_congr fun round listed => ?_)
    exact SaveRound.due_eq_owed_iff (announced round (mem_append_left _ listed))
  constructor
  · intro cadence
    have announced := booked.computed.mp cadence.computed
    refine ⟨announced, fun inEpochs round listed => ?_⟩
    exact (right fun round listed inEpochs => announced inEpochs round listed).mp cadence.saves_eq
      round listed inEpochs
  · rintro ⟨announced, agrees⟩
    refine ⟨booked.computed.mpr announced, ?_, booked.consecutive, ?_⟩
    · refine (right fun round listed inEpochs => announced inEpochs round listed).mpr ?_
      exact fun round listed inEpochs => agrees inEpochs round listed
    · intro finished
      have inPhase := booked.inPhase
      rw [finished] at inPhase
      exact inPhase

/-- Entering `validate` keeps what is known, whether or not it returns at once. -/
theorem Waiting.validate (waiting : loop.Waiting config) (worker : SftWorker) :
    loop.InPhase config (worker.validate config false).phase := by
  unfold SftWorker.validate
  dsimp only
  split
  · exact waiting
  · exact waiting

theorem inPhase_validate (settled : loop.pending = none) (worker : SftWorker) :
    loop.InPhase config (worker.validate config true).phase := by
  unfold SftWorker.validate
  dsimp only
  split
  · exact settled
  · exact settled

theorem booked_start (loadedTrainStep : Option Nat) (totalSteps startEpoch : Int) :
    (start config loadedTrainStep totalSteps startEpoch).Booked config := by
  have waiting : (start config loadedTrainStep totalSteps startEpoch).Waiting config :=
    ⟨fun round member => absurd member (Option.not_mem_none round), fun _ => ⟨rfl, rfl⟩,
      fun _ => rfl, rfl⟩
  have computed : (start config loadedTrainStep totalSteps startEpoch).unboundLocal = false ↔
      (0 < config.base.ckpt.saveFreqInEpoch → ∀ round ∈
        (start config loadedTrainStep totalSteps startEpoch).rounds, round.announced ≠ none) :=
    iff_of_true rfl fun _ round listed => absurd listed not_mem_nil
  exact ⟨⟨computed, rfl, List.IsChain.nil⟩, waiting.validate _⟩

theorem Recorded.setWorker (recorded : loop.Recorded config)
    (inPhase : { loop with worker := worker, told := told }.InPhase config worker.phase) :
    { loop with worker := worker, told := told }.Booked config :=
  ⟨⟨recorded.computed, recorded.saves_eq, recorded.consecutive⟩, inPhase⟩

theorem Waiting.setWorker (waiting : loop.Waiting config)
    (kept : ∀ step ∈ loop.worker.trainStep, worker.trainStep = some step)
    (same : worker.currentEpoch = told) :
    { loop with worker := worker, told := told }.Waiting config := by
  refine ⟨?_, waiting.first, waiting.bound, same⟩
  intro round member
  obtain ⟨due, known⟩ := waiting.decided round member
  exact ⟨due, kept round.trainStep known⟩

theorem endRound_eq {trainStep : Nat} (known : worker.trainStep = some trainStep)
    (isEnd : Bool) : worker.endRound config isEnd =
      worker.validate config (decide (worker.totalSteps ≤ trainStep) || isEnd) := by
  unfold SftWorker.endRound
  rw [known]

theorem Recorded.endRound_of_last (recorded : loop.Recorded config) (settled : loop.pending = none)
    {isEnd : Bool}
    (last : ∀ step ∈ loop.worker.trainStep, loop.worker.totalSteps ≤ step ∨ isEnd = true) :
    (loop.endRound config isEnd).Booked config := by
  unfold endRound
  dsimp only
  cases known : loop.worker.trainStep with
  | none =>
    refine recorded.setWorker ?_
    unfold SftWorker.endRound
    rw [known]
    trivial
  | some trainStep =>
    have flag : (decide (loop.worker.totalSteps ≤ (trainStep : Int)) || isEnd) = true := by
      simpa using last trainStep known
    dsimp only
    rw [if_pos flag]
    refine recorded.setWorker ?_
    rw [endRound_eq known, flag]
    apply inPhase_validate
    exact settled

/-- The local at the end of a round that goes on. -/
theorem Settled.decideSave (settled : loop.Settled config 1) {trainStep : Nat}
    (known : loop.worker.trainStep = some trainStep) :
    loop.decideSave config trainStep =
      if 0 < config.base.ckpt.saveFreqInEpoch then announcedSave config loop.announced
      else some ((loop.round trainStep).due config.base.ckpt) := by
  unfold SaveLoop.decideSave
  by_cases inEpochs : 0 < config.base.ckpt.saveFreqInEpoch
  · rw [if_pos inEpochs, if_pos inEpochs]
    have flag := settled.flag inEpochs
    split
    case isTrue found =>
      rw [if_pos found] at flag
      obtain ⟨same, some⟩ := flag
      obtain ⟨epoch, announced⟩ := Option.ne_none_iff_exists'.mp some
      rw [announcedSave, announced, ← same, announced]
      rfl
    case isFalse notFound =>
      rw [if_neg notFound] at flag
      exact flag
  · have positive : 0 < trainStep := settled.further_le trainStep known
    rw [if_neg inEpochs, if_neg inEpochs, SaveRound.due, if_neg inEpochs,
      decide_eq_true positive, Bool.and_true]
    rfl

/-- A round that goes on becomes the pending one. -/
theorem Recorded.addRound (recorded : loop.Recorded config) (settled : loop.Settled config 1)
    {trainStep : Nat} (known : loop.worker.trainStep = some trainStep) {next : SaveLoop}
    (settled_eq : next.settled = loop.settled)
    (pending_eq : next.pending = some (loop.round trainStep)) (saves_eq : next.saves = loop.saves)
    (computed : next.unboundLocal = false ↔ loop.unboundLocal = false ∧
      (0 < config.base.ckpt.saveFreqInEpoch → loop.announced ≠ none)) :
    next.Recorded config := by
  have before : loop.rounds = loop.settled := by
    rw [rounds, settled.pending_eq, Option.toList_none, append_nil]
  have after : next.rounds = loop.settled ++ [loop.round trainStep] := by
    rw [rounds, settled_eq, pending_eq, Option.toList_some]
  refine ⟨?_, ?_, ?_⟩
  · rw [computed, recorded.computed, before, after]
    simp only [mem_append, mem_singleton, or_imp, forall_and, forall_eq]
    exact Iff.rfl
  · rw [saves_eq, settled_eq, recorded.saves_eq]
  · have chain := recorded.consecutive
    rw [before] at chain
    rw [after, map_append, isChain_append]
    refine ⟨chain, isChain_singleton _, ?_⟩
    intro step isLast following isNext
    rw [getLast?_map] at isLast
    obtain ⟨round, member, rfl⟩ := Option.map_eq_some_iff.mp isLast
    have step_eq := settled.last round member
    rw [known] at step_eq
    cases isNext
    exact Option.some.inj step_eq

theorem Recorded.endRound_of_further (recorded : loop.Recorded config)
    (settled : loop.Settled config 1) {trainStep : Nat}
    (known : loop.worker.trainStep = some trainStep)
    (further : (trainStep : Int) < loop.worker.totalSteps) :
    (loop.endRound config false).Booked config := by
  have goesOn : (decide (loop.worker.totalSteps ≤ (trainStep : Int)) || false) = false := by
    simpa using further
  have decides := settled.decideSave known
  have ended : loop.worker.endRound config false = loop.worker.validate config false := by
    rw [endRound_eq known, goesOn]
  unfold endRound
  rw [known]
  dsimp only
  rw [goesOn, if_neg Bool.false_ne_true, ended]
  cases decided : loop.decideSave config trainStep with
  | none =>
    rw [decided] at decides
    dsimp only
    refine ⟨recorded.addRound settled known rfl rfl rfl ?_, trivial⟩
    split at decides
    case isTrue inEpochs =>
      have unknown : loop.announced = none := Option.map_eq_none_iff.mp decides.symm
      refine iff_of_false Bool.noConfusion ?_
      exact fun both => both.2 inEpochs unknown
    case isFalse => cases decides
  | some doSave =>
    rw [decided] at decides
    dsimp only
    have due : (loop.round trainStep).due config.base.ckpt = doSave ∧
        (0 < config.base.ckpt.saveFreqInEpoch → loop.announced ≠ none) := by
      split at decides
      case isTrue inEpochs =>
        obtain ⟨epoch, announced, isDue⟩ := Option.map_eq_some_iff.mp decides.symm
        refine ⟨?_, fun _ => announced ▸ Option.some_ne_none epoch⟩
        rw [SaveRound.due, if_pos inEpochs, show (loop.round trainStep).announced = some epoch
          from announced, Option.any_some, isDue]
      case isFalse inSteps =>
        exact ⟨(Option.some.inj decides).symm, fun inEpochs => absurd inEpochs inSteps⟩
    refine ⟨recorded.addRound settled known rfl rfl rfl (and_iff_left due.2).symm, ?_⟩
    apply Waiting.validate
    refine ⟨?_, fun none => absurd none (Option.some_ne_none _), fun inEpochs => ?_,
      settled.told_eq⟩
    · rintro round ⟨⟩
      exact ⟨due.1, known⟩
    · rw [if_pos inEpochs] at decides
      exact decides

section Events

theorem validationFetched_cases (isLastStep isEnd : Bool) (worker : SftWorker) :
    ((worker.validationFetched config isLastStep isEnd).phase = worker.phase ∨
      (worker.validationFetched config isLastStep isEnd).phase = .postingValidation isLastStep ∨
      (worker.validationFetched config isLastStep isEnd).phase = .failed) ∧
    (worker.validationFetched config isLastStep isEnd).trainStep = worker.trainStep ∧
    (worker.validationFetched config isLastStep isEnd).currentEpoch = worker.currentEpoch := by
  unfold SftWorker.validationFetched
  split
  · dsimp only
    split
    · refine ⟨.inr (.inl rfl), ?_⟩
      dsimp only
      split
      · exact ⟨rfl, rfl⟩
      · exact ⟨rfl, rfl⟩
    · split
      · exact ⟨.inl rfl, rfl, rfl⟩
      · exact ⟨.inl rfl, rfl, rfl⟩
  · exact ⟨.inr (.inr rfl), rfl, rfl⟩

section

variable (booked : loop.Booked config) {worker : SftWorker}

include booked

theorem Booked.validationRequest {isLastStep : Bool}
    (phase : loop.worker.phase = .validating isLastStep) (isEnd : Bool)
    {requested : Outcome PyError SftWorker} (still : StillAt loop.worker requested.state)
    (same : loop.Waiting config → requested.raised = none →
      requested.state.currentEpoch = told) :
    { loop with worker := SftWorker.fetched config isEnd requested, told := told }.Booked
      config := by
  refine booked.toRecorded.setWorker ?_
  have inPhase := booked.inPhase
  rw [phase] at inPhase
  have samePhase : requested.state.phase = .validating isLastStep := still.phase_eq.trans phase
  unfold SftWorker.fetched
  rw [samePhase]
  split
  case h_1 isLast raised isValidating =>
    cases isValidating
    obtain ⟨phases, sameStep, sameEpoch⟩ :=
      @validationFetched_cases config isLastStep isEnd requested.state
    have stage : { loop with
        worker := requested.state.validationFetched config isLastStep isEnd
        told := told }.InPhase config (.validating isLastStep) := by
      cases isLastStep with
      | true => exact inPhase
      | false =>
        refine Waiting.setWorker inPhase ?_ (sameEpoch.trans (same inPhase raised))
        intro step known
        rw [sameStep]
        exact still.step_eq step known
    rcases phases with unchanged | posting | failed
    · rw [unchanged, samePhase]
      exact stage
    · rw [posting]
      cases isLastStep with
      | true => exact stage
      | false => exact stage
    · rw [failed]
      trivial
  case h_2 isFetching => cases isFetching
  case h_3 => trivial

/-- After a request for a training batch the pending checkpoint is taken. -/
theorem Booked.checkpointing (waiting : loop.Waiting config)
    (enabled : config.base.ckpt.enableCheckpoint = true) (still : StillAt loop.worker worker)
    (same : worker.currentEpoch = told) (stays : loop.told.isSome = true → told ≠ none) :
    let requested := loop.answered worker told
    (requested.checkpointing config worker.trainStep).Recorded config ∧
      (requested.checkpointing config worker.trainStep).Settled config 0 := by
  intro requested
  have flag : 0 < config.base.ckpt.saveFreqInEpoch →
      if requested.newEpoch then
        requested.announced = worker.currentEpoch ∧ requested.announced ≠ none
      else loop.localDoSave = announcedSave config requested.announced := by
    intro inEpochs
    have newEpoch_eq : requested.newEpoch =
        (loop.told.isSome && decide (told ≠ loop.told)) := by
      dsimp only [requested, answered]
      rw [waiting.told_eq, same]
    have announced_eq : requested.announced =
        if loop.told.isSome && decide (told ≠ loop.told) then told else loop.announced := rfl
    rw [newEpoch_eq, announced_eq, same]
    by_cases another : (loop.told.isSome && decide (told ≠ loop.told)) = true
    · rw [if_pos another, if_pos another]
      exact ⟨rfl, stays (Bool.and_eq_true_iff.mp another).1⟩
    · rw [if_neg another, if_neg another]
      exact waiting.bound inEpochs
  have rounds_eq : loop.settled ++ loop.pending.toList ++ [] = loop.rounds := append_nil _
  have computed : loop.unboundLocal = false ↔ (0 < config.base.ckpt.saveFreqInEpoch →
      ∀ round ∈ loop.settled ++ loop.pending.toList ++ [], round.announced ≠ none) := by
    rw [rounds_eq]
    exact booked.computed
  have consecutive : ((loop.settled ++ loop.pending.toList ++ []).map
      SaveRound.trainStep).IsChain fun step next => next = step + 1 := by
    rw [rounds_eq]
    exact booked.consecutive
  dsimp only [requested, SaveLoop.checkpointing, answered]
  rw [enabled, Bool.and_true]
  cases pending : loop.pending with
  | none =>
    obtain ⟨nothing, notDue⟩ := waiting.first pending
    rw [pending] at consecutive computed
    rw [notDue, if_neg Bool.false_ne_true]
    refine ⟨⟨computed, ?_, consecutive⟩, rfl, ?_, fun _ _ => Nat.zero_le _, flag, same⟩
    · dsimp only
      rw [Option.toList_none, append_nil]
      exact booked.saves_eq
    · intro round member
      rw [nothing] at member
      cases member
  | some round =>
    obtain ⟨due, known⟩ := waiting.decided round pending
    have step := still.step_eq round.trainStep known
    rw [pending] at consecutive computed
    refine ⟨⟨computed, ?_, consecutive⟩, rfl, ?_, fun _ _ => Nat.zero_le _, flag, same⟩
    · dsimp only
      rw [Option.toList_some, savesOf, flatMap_append, flatMap_singleton, due, step]
      have before : loop.saves = savesOf _ loop.settled := booked.saves_eq
      cases doSave : loop.doSave with
      | true => exact congrArg (· ++ [round.trainStep]) before
      | false => exact before.trans (append_nil _).symm
    · intro last member
      rw [Option.toList_some, getLast?_concat] at member
      cases member
      exact step

theorem Booked.trainingRequest (waiting : loop.Waiting config)
    (enabled : config.base.ckpt.enableCheckpoint = true) (isEnd : Bool)
    (still : StillAt loop.worker worker) (same : worker.currentEpoch = told)
    (stays : loop.told.isSome = true → told ≠ none) (filled : isEnd = true ∨
      config.base.trainBatchPerReplica / config.dpWorldSize ≤ worker.dataQueue) :
    (((loop.answered worker told).checkpointing config worker.trainStep).trainingFetched config
      isEnd).Booked config := by
  obtain ⟨recorded, settled⟩ := booked.checkpointing waiting enabled still same stays
  unfold trainingFetched
  split
  case isTrue short =>
    have ends : isEnd = true := filled.resolve_right short.2
    exact recorded.endRound_of_last rfl fun _ _ => .inr ends
  case isFalse divided =>
    refine recorded.setWorker ?_
    unfold SftWorker.trainingFetched
    split
    case isTrue divides =>
      have enough : config.base.trainBatchPerReplica / config.dpWorldSize ≤ worker.dataQueue :=
        not_not.mp fun short => divided ⟨divides, short⟩
      split
      case isTrue =>
        exact ⟨settled.pending_eq, settled.last, settled.further_le, settled.flag,
          settled.told_eq⟩
      case isFalse short => exact absurd enough short
    case isFalse => trivial

theorem Booked.request (enabled : config.base.ckpt.enableCheckpoint = true) (name : ReplicaName)
    (answer : List SftPayload × Bool)
    (allowed : loop.worker.isValidating = true ∨ loop.worker.phase = .fetching) :
    (loop.request config name answer).Booked config := by
  have still := @stillAt_requestNewPrompts config name (loop.worker.requestSize config)
    loop.worker.isValidating answer loop.worker
  have toldAfter : loop.Waiting config →
      (requestNewPrompts config name (loop.worker.requestSize config)
        loop.worker.isValidating answer loop.worker).raised = none →
      (requestNewPrompts config name (loop.worker.requestSize config)
        loop.worker.isValidating answer loop.worker).state.currentEpoch =
          (epochTold config name answer).or loop.told := by
    intro waiting ran
    rw [currentEpoch_requestNewPrompts ran, waiting.told_eq]
  unfold SaveLoop.request
  split
  case isTrue =>
    dsimp only
    split
    case isTrue validating =>
      obtain ⟨isLastStep, phase⟩ : ∃ isLastStep, loop.worker.phase = .validating isLastStep := by
        unfold SftWorker.isValidating at validating
        split at validating
        case h_1 isLastStep phase => exact ⟨isLastStep, phase⟩
        case h_2 => cases validating
      exact booked.validationRequest phase answer.2 still toldAfter
    case isFalse notValidating =>
      have phase := allowed.resolve_left notValidating
      have waiting : loop.Waiting config := by
        have inPhase := booked.inPhase
        rw [phase] at inPhase
        exact inPhase
      split
      case h_1 => exact booked.toRecorded.setWorker trivial
      case h_2 ran =>
        have filled := filled_of_requestNewPrompts ran
        have size : loop.worker.requestSize config =
            config.base.trainBatchPerReplica / config.dpWorldSize := by
          unfold SftWorker.requestSize
          rw [if_neg notValidating]
        rw [size] at filled
        refine booked.trainingRequest waiting enabled answer.2 still
          (toldAfter waiting ran) ?_ ?_
        · intro known nothing
          rw [Option.or_eq_none_iff] at nothing
          rw [nothing.2] at known
          cases known
        · rw [size]
          exact filled
  case isFalse => exact booked.toRecorded.setWorker trivial

theorem Booked.completeStep {isEnd : Bool} (phase : loop.worker.phase = .training isEnd) :
    { loop with worker := loop.worker.stepped }.Booked config := by
  have settled : loop.Settled config 0 := by
    have inPhase := booked.inPhase
    rw [phase] at inPhase
    exact inPhase
  refine booked.toRecorded.setWorker ?_
  unfold SftWorker.stepped
  rw [phase]
  dsimp only
  refine ⟨settled.pending_eq, ?_, ?_, settled.flag, settled.told_eq⟩
  · intro round member
    dsimp only
    rw [settled.last round member]
    rfl
  · intro step stepped
    obtain ⟨before, _, rfl⟩ := Option.map_eq_some_iff.mp stepped
    exact Nat.le_add_left 1 before

theorem Booked.postAck (allowed : loop.worker.postsValidation = true ∨
      ∃ isEnd ∈ [true, false], loop.worker.phase = .postingAck isEnd) :
    (loop.postAck config).Booked config := by
  have inPhase := booked.inPhase
  unfold SaveLoop.postAck
  split
  case h_1 isEnd phase =>
    rw [phase] at inPhase
    have settled : loop.Settled config 1 := inPhase
    have recorded : Recorded config
        { loop with worker.ackedSteps := loop.worker.ackedSteps + 1 } :=
      ⟨booked.computed, booked.saves_eq, booked.consecutive⟩
    have stillSettled : Settled config 1
        { loop with worker.ackedSteps := loop.worker.ackedSteps + 1 } :=
      ⟨settled.pending_eq, settled.last, settled.further_le, settled.flag, settled.told_eq⟩
    by_cases last : ∀ step ∈ loop.worker.trainStep, loop.worker.totalSteps ≤ step ∨ isEnd = true
    · exact recorded.endRound_of_last settled.pending_eq last
    · push Not at last
      obtain ⟨trainStep, known, further, goesOn⟩ := last
      obtain rfl : isEnd = false := Bool.eq_false_of_not_eq_true goesOn
      exact recorded.endRound_of_further stillSettled known further
  case h_2 notAck =>
    have posting : loop.worker.postsValidation = true := by
      rcases allowed with posting | ⟨isEnd, _, phase⟩
      · exact posting
      · exact absurd phase (notAck isEnd)
    unfold SftWorker.postsValidation at posting
    split at posting
    case h_1 isLastStep phase =>
      rw [phase] at inPhase
      refine booked.toRecorded.setWorker ?_
      unfold SftWorker.acknowledged
      rw [phase]
      cases isLastStep with
      | true => exact inPhase
      | false =>
        have waiting : loop.Waiting config := inPhase
        exact waiting.setWorker (fun _ known => known) waiting.told_eq
    case h_2 => cases posting

end

end Events

end SaveLoop

instance (name : ReplicaName) (loop : SaveLoop) (event : SaveEvent) :
    Decidable ((saveSystem config name).Allowed loop event) :=
  inferInstanceAs (Decidable (loop.Allowed event))

def noData : Dataset where
  trainDataloader _ := []
  valDataloader := []
  valDatasize := 0

def savingEveryEpoch (validation : ValidationConfig) (valFreq_pos : 0 < validation.freq) :
    SavingConfig where
  config := {
    base := { Config.small 4 noData with
      ckpt := { enableCheckpoint := true, saveFreqInEpoch := 1 }
      validation := validation
      valFreq_pos := valFreq_pos }
    dpRank_lt := fun _ => Nat.one_pos }
  enabled := rfl
  frequency := .inl Nat.one_pos

def validatingFirst : SavingConfig :=
  savingEveryEpoch { enable := true, valBeforeTrain := true } (Nat.succ_pos 19)

def roundAt (step : Nat) (epoch : Int) : List SaveEvent :=
  [.request ([⟨step, step, epoch, 4 - step⟩], false), .completeStep, .postAck]

end CosmosRl.Worker
