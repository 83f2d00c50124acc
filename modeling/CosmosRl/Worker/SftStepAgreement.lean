import CosmosRl.Worker.MultiReplicaSFTPolicyWorker

/-!
Step agreement in supervised training with several replicas.

The train acks are acknowledgements of rounds, so the controller's step counts the
optimizer steps and its remaining samples lag behind while acks of a step are missing.
The tags of a batch are right as long as nothing is fetched, and no validation is
acknowledged, in that time.
-/

namespace CosmosRl.Worker

open CosmosRl.Foundation CosmosRl.Dispatcher List

variable (config : SftConfig) (names : List ReplicaName) (startStep : Nat)
  (initialSamples : Int)

/-- The tags of every payload are those of the `train_step` it was received at, and the
controller's step is the largest number of steps that a replica has acknowledged. -/
structure StepAgreement (world : SftWorld) : Prop where
  tags : ∀ name ∈ names, ∀ receipt ∈ (world.workers name).received,
    receipt.payload.weightVersion = receipt.trainStep ∧
      receipt.payload.remainSamplesNum = initialSamples - receipt.trainStep *
        (config.base.trainBatchPerReplica * names.length : Nat)
  acknowledged_le : ∀ name ∈ names,
    startStep + (world.workers name).ackedSteps ≤ world.controller.policy.currentStep
  acknowledged_eq : names ≠ [] → ∃ name ∈ names,
    world.controller.policy.currentStep = startStep + (world.workers name).ackedSteps

def SftWorld.AllAcknowledged (world : SftWorld) (name : ReplicaName) : Prop :=
  ∀ other ∈ names, (world.workers other).ackedSteps = (world.workers name).ackedSteps

/-- A request for which every rank of the replica gets prompts is made when all replicas
have acknowledged the last step. -/
def FetchesSettled (world : SftWorld) : SftEvent → Prop
  | .request name =>
    (world.workers name).dataQueue = 0 →
      config.dpWorldSize ≤ (world.nextPrompt config name).1.length →
        world.AllAcknowledged names name
  | _ => True

def ValidationsSettled (world : SftWorld) : SftEvent → Prop
  | .postAck name =>
    (world.workers name).postsValidation = true → world.AllAcknowledged names name
  | _ => True

/-- A start: every arrived replica has a status, no step is open, and the samples of the
steps before the start are taken off. -/
structure SftStart (controller : Controller) : Prop where
  fleet : SftFleet names controller
  currentStep_eq : controller.policy.currentStep = startStep
  remainSamples_eq : controller.policy.remainSamplesNum = initialSamples - startStep *
    (config.base.trainBatchPerReplica * names.length : Nat)
  notReduced : ∀ name ∈ names, controller.policy.status.get? name ≠ some .reduced

instance (world : SftWorld) (name : ReplicaName) :
    Decidable (world.AllAcknowledged names name) :=
  inferInstanceAs (Decidable (∀ _ ∈ _, _))

instance (world : SftWorld) :
    (event : SftEvent) → Decidable (FetchesSettled config names world event)
  | .request _ => inferInstanceAs (Decidable (_ → _ → SftWorld.AllAcknowledged _ _ _))
  | .completeStep _ | .postAck _ => .isTrue trivial

instance (world : SftWorld) :
    (event : SftEvent) → Decidable (ValidationsSettled names world event)
  | .postAck _ => inferInstanceAs (Decidable (_ → SftWorld.AllAcknowledged _ _ _))
  | .request _ | .completeStep _ => .isTrue trivial

section Request

theorem rankPrompts_ne_nil_iff (name : ReplicaName) (payloads : List SftPayload) :
    (rankPrompts config name payloads).getD [] ≠ [] ↔ config.dpWorldSize ≤ payloads.length := by
  have positive := config.dpWorldSize_pos
  unfold rankPrompts
  split
  · rename_i none
    simp [none, Nat.pos_iff_ne_zero.mp positive]
  · rename_i some
    have nonempty := length_pos_iff.mpr some
    split
    · rename_i several
      rw [Option.getD_some, ne_eq, filterMap_eq_nil_iff]
      have kept : (payloads.take
          (payloads.length - payloads.length % config.dpWorldSize)).length =
          payloads.length - payloads.length % config.dpWorldSize := by
        rw [length_take]
        omega
      constructor
      · intro gets
        by_contra few
        rw [kept, Nat.mod_eq_of_lt (by omega), Nat.sub_self] at gets
        rw [(stridedRange_eq_nil_iff positive).mpr (Nat.zero_le _)] at gets
        exact gets fun _ member => by simp at member
      · intro enough nothing
        have rank := config.dpRank_lt name
        have inside : config.dpRank name < (payloads.take
            (payloads.length - payloads.length % config.dpWorldSize)).length := by
          have remainder := Nat.mod_add_div payloads.length config.dpWorldSize
          have rounds := Nat.le_mul_of_pos_right config.dpWorldSize (Nat.div_pos enough positive)
          omega
        have dealt := nothing (config.dpRank name)
          ((mem_stridedRange positive).mpr ⟨inside, 0, by simp⟩)
        rw [getElem?_eq_none_iff] at dealt
        omega
    · rename_i single
      rw [Option.getD_some]
      exact ⟨fun _ => by omega, fun _ => some⟩

variable {config} {startStep} {payload : SftPayload}

structure TakenPrompts (tag : Nat) (prompts : List SftPayload) (before after : SftWorker) :
    Prop where
  phase_eq : after.phase = before.phase
  ackedSteps_eq : after.ackedSteps = before.ackedSteps
  computedSteps_eq : after.computedSteps = before.computedSteps
  trainStep_eq : after.trainStep =
    if prompts = [] then before.trainStep else some (before.trainStep.getD tag)
  dataQueue_eq : prompts = [] → after.dataQueue = before.dataQueue
  received : ∀ receipt ∈ after.received, receipt ∈ before.received ∨
    receipt.payload ∈ prompts ∧ receipt.trainStep = before.trainStep.getD tag
  kept : ∀ receipt ∈ before.received, receipt ∈ after.received
  first : ∀ payload ∈ prompts.head?,
    (⟨before.trainStep.getD tag, payload⟩ : SftReceipt) ∈ after.received

theorem TakenPrompts.nothing (tag : Nat) (worker : SftWorker) : TakenPrompts tag [] worker worker :=
  ⟨rfl, rfl, rfl, rfl, fun _ => rfl, fun _ => .inl, fun _ member => member, by simp⟩

theorem takenPrompts_takePrompt (payload : SftPayload) (state : SftWorker × PromptTargets) :
    TakenPrompts payload.weightVersion [payload] state.1 (takePrompt payload state).state.1 := by
  have records : ∀ receipt ∈ state.1.received ++
      [⟨state.1.trainStep.getD payload.weightVersion, payload⟩],
      receipt ∈ state.1.received ∨ receipt.payload ∈ [payload] ∧
        receipt.trainStep = state.1.trainStep.getD payload.weightVersion := by
    intro receipt member
    rcases mem_append.mp member with old | new
    · exact .inl old
    · rw [mem_singleton.mp new]
      exact .inr ⟨by simp, rfl⟩
  unfold takePrompt
  dsimp only
  split
  · exact ⟨rfl, rfl, rfl, rfl, by simp, records,
      fun receipt member => mem_append_left _ member, by simp⟩
  · exact ⟨rfl, rfl, rfl, rfl, by simp, records,
      fun receipt member => mem_append_left _ member, by simp⟩

theorem TakenPrompts.weaken {tag : Nat} {rest : List SftPayload}
    {before after : SftWorker} (taken : TakenPrompts tag [payload] before after) :
    TakenPrompts tag (payload :: rest) before after where
  phase_eq := taken.phase_eq
  ackedSteps_eq := taken.ackedSteps_eq
  computedSteps_eq := taken.computedSteps_eq
  trainStep_eq := taken.trainStep_eq
  dataQueue_eq := by simp
  received := by
    intro receipt member
    rcases taken.received receipt member with old | ⟨new, step⟩
    · exact .inl old
    · exact .inr ⟨mem_cons.mpr (.inl (mem_singleton.mp new)), step⟩
  kept := taken.kept
  first := taken.first

theorem TakenPrompts.cons {tag : Nat} {payload : SftPayload} {rest : List SftPayload}
    {before middle after : SftWorker} (head : TakenPrompts tag [payload] before middle)
    (tail : TakenPrompts tag rest middle after) :
    TakenPrompts tag (payload :: rest) before after := by
  have middleStep : middle.trainStep = some (before.trainStep.getD tag) := head.trainStep_eq
  refine ⟨tail.phase_eq.trans head.phase_eq, tail.ackedSteps_eq.trans head.ackedSteps_eq,
    tail.computedSteps_eq.trans head.computedSteps_eq, ?_, by simp, ?_, ?_, ?_⟩
  · rw [tail.trainStep_eq, middleStep, Option.getD_some]
    simp
  · intro receipt member
    rcases tail.received receipt member with old | ⟨new, step⟩
    · exact head.weaken.received receipt old
    · rw [middleStep, Option.getD_some] at step
      exact .inr ⟨mem_cons_of_mem _ new, step⟩
  · exact fun receipt member => tail.kept receipt (head.kept receipt member)
  · exact fun found member => tail.kept _ (head.first found member)

theorem takenPrompts_forEach {tag : Nat} {prompts : List SftPayload}
    (tags : ∀ payload ∈ prompts, payload.weightVersion = tag) (state : SftWorker × PromptTargets) :
    TakenPrompts tag prompts state.1 (Outcome.forEach takePrompt prompts state).state.1 := by
  induction prompts generalizing state with
  | nil => exact TakenPrompts.nothing tag state.1
  | cons payload rest ih =>
    have head := takenPrompts_takePrompt payload state
    rw [tags payload (by simp)] at head
    rw [Outcome.forEach_cons]
    rcases (takePrompt payload state).andThen_cases (Outcome.forEach takePrompt rest) with
      ⟨_, raised⟩ | ⟨_, went⟩
    · rw [raised]
      exact head.weaken
    · rw [went]
      exact head.cons (ih (fun later member => tags later (mem_cons_of_mem _ member)) _)

@[simp]
theorem checkQueue_state (batchSize : Nat) (isEnd : Bool) (worker : SftWorker) :
    (checkQueue batchSize isEnd worker).state = worker := by
  unfold checkQueue
  split <;> rfl

theorem mem_rankPrompts {name : ReplicaName} {payloads : List SftPayload}
    (member : payload ∈ (rankPrompts config name payloads).getD []) : payload ∈ payloads := by
  unfold rankPrompts at member
  split at member
  · simp at member
  · split at member
    · obtain ⟨index, _, found⟩ := mem_filterMap.mp member
      exact mem_of_mem_take (mem_of_getElem? found)
    · exact member

theorem takenPrompts_requestNewPrompts {tag : Nat} {name : ReplicaName} {batchSize : Nat}
    {isValidation : Bool} {answer : List SftPayload × Bool} {worker : SftWorker}
    (tags : ∀ payload ∈ answer.1, payload.weightVersion = tag) :
    TakenPrompts tag ((rankPrompts config name answer.1).getD []) worker
      (requestNewPrompts config name batchSize isValidation answer worker).state := by
  have ownTags : ∀ payload ∈ (rankPrompts config name answer.1).getD [],
      payload.weightVersion = tag := fun payload member => tags payload (mem_rankPrompts member)
  unfold requestNewPrompts
  cases share : rankPrompts config name answer.1 with
  | none =>
    rw [Option.getD_none]
    dsimp only
    rw [checkQueue_state]
    exact TakenPrompts.nothing tag worker
  | some prompts =>
    rw [share, Option.getD_some] at ownTags
    have taken := takenPrompts_forEach ownTags (worker, {})
    rw [Option.getD_some]
    dsimp only
    split
    · exact taken
    · split
      · rw [checkQueue_state]
        exact ⟨taken.phase_eq, taken.ackedSteps_eq, taken.computedSteps_eq,
          taken.trainStep_eq, taken.dataQueue_eq, taken.received, taken.kept, taken.first⟩
      · exact taken

end Request

section Worker

variable {config} {startStep}

/-- Outside a step, the replica has acknowledged all it has computed, and its
`train_step`, once set, says how many steps that are. -/
def SftWorker.Idle (startStep : Nat) (worker : SftWorker) : Prop :=
  worker.computedSteps = worker.ackedSteps ∧
    (worker.trainStep = none ∧ worker.ackedSteps = 0 ∨
      worker.trainStep = some (startStep + worker.ackedSteps))

/-- What the phase of a replica says about its counts and its `train_step`. -/
def SftWorker.Sound (startStep : Nat) (worker : SftWorker) : Prop :=
  match worker.phase with
  | .training _ => worker.computedSteps = worker.ackedSteps + 1 ∧
      worker.trainStep = some (startStep + worker.ackedSteps)
  | .postingAck _ => worker.computedSteps = worker.ackedSteps + 1 ∧
      worker.trainStep = some (startStep + worker.ackedSteps + 1)
  | .failed => True
  | _ => worker.Idle startStep

namespace SftWorker

variable {worker : SftWorker}

theorem Sound.idle (sound : worker.Sound startStep)
    (waiting : worker.isValidating = true ∨ worker.phase = .fetching) :
    worker.Idle startStep := by
  unfold Sound at sound
  unfold isValidating at waiting
  cases phase : worker.phase <;> simp_all

theorem Idle.trainStep_getD (idle : worker.Idle startStep) {tag : Nat}
    (current : tag = startStep + worker.ackedSteps) :
    worker.trainStep.getD tag = startStep + worker.ackedSteps := by
  rcases idle.2 with ⟨unset, _⟩ | set
  · rw [unset, Option.getD_none, current]
  · rw [set, Option.getD_some]

theorem Idle.validate (idle : worker.Idle startStep) (isLastStep : Bool) :
    (worker.validate config isLastStep).Sound startStep := by
  unfold SftWorker.validate Sound
  by_cases validates : worker.validates config isLastStep = true
  · simp only [validates, if_true]
    exact idle
  · cases isLastStep <;> simp only [validates, Bool.false_eq_true, if_false, if_true] <;>
      exact idle

theorem Idle.endRound (idle : worker.Idle startStep) (isEnd : Bool) :
    (worker.endRound config isEnd).Sound startStep := by
  unfold SftWorker.endRound
  split
  · trivial
  · exact idle.validate _

@[simp]
theorem ackedSteps_endRound (isEnd : Bool) :
    (worker.endRound config isEnd).ackedSteps = worker.ackedSteps := by
  unfold SftWorker.endRound
  split <;> rfl

@[simp]
theorem computedSteps_endRound (isEnd : Bool) :
    (worker.endRound config isEnd).computedSteps = worker.computedSteps := by
  unfold SftWorker.endRound
  split <;> rfl

@[simp]
theorem received_endRound (isEnd : Bool) :
    (worker.endRound config isEnd).received = worker.received := by
  unfold SftWorker.endRound
  split <;> rfl

theorem phase_endRound (isEnd isEnd' : Bool) :
    (worker.endRound config isEnd).phase ≠ .postingAck isEnd' := by
  unfold SftWorker.endRound
  split
  · simp [crash]
  · unfold SftWorker.validate
    dsimp only
    split
    · simp
    · split <;> simp

theorem acknowledged_postingAck {isEnd : Bool} (phase : worker.phase = .postingAck isEnd) :
    worker.acknowledged config =
      { worker with ackedSteps := worker.ackedSteps + 1 }.endRound config isEnd := by
  cases worker
  dsimp only at phase
  subst phase
  rfl

theorem acknowledged_postingValidation {isLastStep : Bool}
    (phase : worker.phase = .postingValidation isLastStep) :
    worker.acknowledged config =
      { worker with phase := if isLastStep then .finished else .fetching } := by
  cases worker
  dsimp only at phase
  subst phase
  rfl

theorem rankBatch_pos (divides : config.base.trainBatchPerReplica % config.dpWorldSize = 0) :
    0 < config.base.trainBatchPerReplica / config.dpWorldSize :=
  Nat.div_pos (Nat.le_of_dvd config.base.trainBatch_pos (Nat.dvd_of_mod_eq_zero divides))
    config.dpWorldSize_pos

/-- What a worker may look like after a request that has taken `prompts`. -/
structure AfterRequest (startStep : Nat) (prompts : List SftPayload)
    (before requested after : SftWorker) : Prop where
  sound : after.Sound startStep
  ackedSteps_eq : after.ackedSteps = before.ackedSteps
  computedSteps_eq : after.computedSteps = before.computedSteps ∨
    prompts ≠ [] ∧ before.computedSteps = before.ackedSteps ∧
      after.computedSteps = before.computedSteps + 1
  received_eq : after.received = requested.received
  notPosting : ∀ isEnd, after.phase ≠ .postingAck isEnd

/-- A request in the loop of `validate` or of training.  It starts a step only with
prompts it has just taken. -/
theorem afterRequest_fetched (config : SftConfig) (isEnd : Bool) {tag : Nat}
    {prompts : List SftPayload} {requested : Outcome PyError SftWorker}
    (sound : worker.Sound startStep)
    (waiting : worker.isValidating = true ∨ worker.phase = .fetching) (empty : worker.dataQueue = 0)
    (taken : TakenPrompts tag prompts worker requested.state)
    (current : prompts ≠ [] → tag = startStep + worker.ackedSteps) :
    AfterRequest startStep prompts worker requested.state
      (SftWorker.fetched config isEnd requested) := by
  have idle := sound.idle waiting
  have stepped : requested.state.Idle startStep ∧
      (prompts ≠ [] → requested.state.trainStep = some (startStep + worker.ackedSteps)) := by
    by_cases nothing : prompts = []
    · refine ⟨⟨?_, ?_⟩, fun some => absurd nothing some⟩
      · rw [taken.computedSteps_eq, taken.ackedSteps_eq]
        exact idle.1
      · rw [taken.trainStep_eq, if_pos nothing, taken.ackedSteps_eq]
        exact idle.2
    · have step : requested.state.trainStep = some (startStep + worker.ackedSteps) := by
        rw [taken.trainStep_eq, if_neg nothing, idle.trainStep_getD (current nothing)]
      refine ⟨⟨?_, ?_⟩, fun _ => step⟩
      · rw [taken.computedSteps_eq, taken.ackedSteps_eq]
        exact idle.1
      · rw [taken.ackedSteps_eq]
        exact .inr step
  have crashed : AfterRequest startStep prompts worker requested.state
      requested.state.crash :=
    ⟨trivial, taken.ackedSteps_eq, .inl taken.computedSteps_eq, rfl, by simp [crash]⟩
  unfold fetched
  split
  · -- in `validate`
    rename_i isLastStep _ phase
    unfold validationFetched
    split
    · have consumes : ∃ queue, (if config.valBatchSize / config.dpWorldSize ≤
          requested.state.dataQueue then { requested.state with
            dataQueue := requested.state.dataQueue - config.valBatchSize / config.dpWorldSize }
          else requested.state) = { requested.state with dataQueue := queue } := by
        split
        · exact ⟨_, rfl⟩
        · exact ⟨_, rfl⟩
      obtain ⟨queue, consumed⟩ := consumes
      simp only [consumed]
      split
      · exact ⟨stepped.1, taken.ackedSteps_eq, .inl taken.computedSteps_eq, rfl, by simp⟩
      · refine ⟨?_, taken.ackedSteps_eq, .inl taken.computedSteps_eq, rfl, by simp [phase]⟩
        unfold Sound
        simp only [phase]
        exact stepped.1
    · exact crashed
  · -- in the loop of training
    unfold trainingFetched
    split
    · rename_i divides
      split
      · rename_i enough
        have some : prompts ≠ [] := by
          intro nothing
          rw [taken.dataQueue_eq nothing, empty] at enough
          exact absurd (rankBatch_pos divides) (Nat.not_lt.mpr enough)
        refine ⟨⟨?_, ?_⟩, taken.ackedSteps_eq, .inr ⟨some, idle.1, ?_⟩, rfl, by simp⟩
        · change requested.state.computedSteps + 1 = requested.state.ackedSteps + 1
          rw [stepped.1.1]
        · change requested.state.trainStep = _
          rw [stepped.2 some, ← taken.ackedSteps_eq]
        · change requested.state.computedSteps + 1 = _
          rw [taken.computedSteps_eq]
      · refine ⟨stepped.1.endRound isEnd, ?_, .inl ?_, by simp,
          fun isEnd' => phase_endRound isEnd isEnd'⟩
        · rw [ackedSteps_endRound, taken.ackedSteps_eq]
        · rw [computedSteps_endRound, taken.computedSteps_eq]
    · exact crashed
  · exact crashed

end SftWorker

end Worker

structure SftInvariant (world : SftWorld) : Prop where
  fleet : SftFleet names world.controller
  counting : ∃ counter,
    CountsSteps config.base names startStep initialSamples world.controller counter ∧
      RoundCounter.InRounds names (fun name => (world.workers name).ackedSteps)
        (fun name => (world.workers name).computedSteps) counter
  sound : ∀ name ∈ names, (world.workers name).Sound startStep
  /-- A replica that is about to acknowledge a step is not ahead of any other. -/
  together : ∀ name ∈ names, ∀ isEnd, (world.workers name).phase = .postingAck isEnd →
    ∀ other ∈ names, (world.workers name).computedSteps ≤ (world.workers other).computedSteps
  tags : ∀ name ∈ names, ∀ receipt ∈ (world.workers name).received,
    receipt.payload.weightVersion = receipt.trainStep ∧
      receipt.payload.remainSamplesNum = initialSamples - receipt.trainStep *
        (config.base.trainBatchPerReplica * names.length : Nat)

section Steps

variable {config names startStep initialSamples} {world : SftWorld}

theorem SftInvariant.agreement
    (invariant : SftInvariant config names startStep initialSamples world) :
    StepAgreement config names startStep initialSamples world := by
  obtain ⟨counter, counts, rounds⟩ := invariant.counting
  refine ⟨invariant.tags, ?_, ?_⟩
  · intro name member
    rw [counts.currentStep_eq]
    exact Nat.add_le_add_left (rounds.acknowledged_le member) startStep
  · intro nonempty
    obtain ⟨name, member, last⟩ := rounds.exists_acknowledged nonempty
    exact ⟨name, member, by rw [counts.currentStep_eq, ← last]⟩

variable {counter : RoundCounter ReplicaName} {name : ReplicaName} {controller : Controller}
  {worker : SftWorker}

theorem settled_of_allAcknowledged
    (rounds : RoundCounter.InRounds names (fun name => (world.workers name).ackedSteps)
      (fun name => (world.workers name).computedSteps) counter)
    (member : name ∈ names) (all : world.AllAcknowledged names name) :
    RoundCounter.Settled names (fun name => (world.workers name).ackedSteps)
      (fun name => (world.workers name).computedSteps) counter ∧
      (world.workers name).ackedSteps = counter.counted := by
  obtain ⟨last, lastMember, counted⟩ := rounds.exists_acknowledged (ne_nil_of_mem member)
  have settled := rounds.settled_of_all fun other otherMember =>
    (all other otherMember).trans ((all last lastMember).symm.trans counted)
  exact ⟨settled, settled.acknowledged_eq name member⟩

theorem tags_nextPrompt {payload : SftPayload}
    (member : payload ∈ (world.nextPrompt config name).1) :
    payload.weightVersion = world.controller.policy.currentStep ∧
      payload.remainSamplesNum = world.controller.policy.remainSamplesNum := by
  unfold SftWorld.nextPrompt at member
  rcases answered : world.answer config name with ⟨answer, after⟩
  rw [answered] at member
  cases answer with
  | error exn => simp at member
  | ok found => exact tags_getBatchedPrompt config.base answered member

@[simp]
theorem workers_setWorker_self (name : ReplicaName) (worker : SftWorker) :
    (world.setWorker name worker).workers name = worker :=
  Function.update_self _ _ _

@[simp]
theorem workers_setWorker_of_ne {other : ReplicaName} (different : other ≠ name)
    (worker : SftWorker) :
    (world.setWorker name worker).workers other = world.workers other :=
  Function.update_of_ne different _ _

@[simp]
theorem controller_setWorker (name : ReplicaName) (worker : SftWorker) :
    (world.setWorker name worker).controller = world.controller := rfl

/-- A change of one replica that keeps its counts. -/
theorem SftInvariant.setWorker
    (invariant : SftInvariant config names startStep initialSamples world)
    (fleet : SftFleet names controller) (counting : ∃ counter,
      CountsSteps config.base names startStep initialSamples controller counter ∧
        RoundCounter.InRounds names
          (fun other => ((SftWorld.mk controller world.workers).setWorker name
            worker).workers other |>.ackedSteps)
          (fun other => ((SftWorld.mk controller world.workers).setWorker name
            worker).workers other |>.computedSteps) counter) (sound : worker.Sound startStep)
    (grows : (world.workers name).computedSteps ≤ worker.computedSteps)
    (together : ∀ isEnd, worker.phase = .postingAck isEnd → ∀ other ∈ names,
      worker.computedSteps ≤ (world.workers other).computedSteps)
    (tags : ∀ receipt ∈ worker.received,
      receipt.payload.weightVersion = receipt.trainStep ∧
        receipt.payload.remainSamplesNum = initialSamples - receipt.trainStep *
          (config.base.trainBatchPerReplica * names.length : Nat)) :
    SftInvariant config names startStep initialSamples
      ((SftWorld.mk controller world.workers).setWorker name worker) where
  fleet := fleet
  counting := counting
  sound := by
    intro other member
    by_cases same : other = name
    · subst same
      rw [workers_setWorker_self]
      exact sound
    · rw [workers_setWorker_of_ne same]
      exact invariant.sound other member
  together := by
    have mono : ∀ other, (world.workers other).computedSteps ≤
        (((SftWorld.mk controller world.workers).setWorker name worker).workers
          other).computedSteps := by
      intro other
      by_cases same : other = name
      · subst same
        rw [workers_setWorker_self]
        exact grows
      · rw [workers_setWorker_of_ne same]
    intro first member isEnd posting other otherMember
    refine Nat.le_trans ?_ (mono other)
    by_cases same : first = name
    · subst same
      rw [workers_setWorker_self] at posting ⊢
      exact together isEnd posting other otherMember
    · rw [workers_setWorker_of_ne same] at posting ⊢
      exact invariant.together first member isEnd posting other otherMember
  tags := by
    intro other member
    by_cases same : other = name
    · subst same
      rw [workers_setWorker_self]
      exact tags
    · rw [workers_setWorker_of_ne same]
      exact invariant.tags other member

theorem count_setWorker {Count : Type} (count : SftWorker → Count)
    (same : count worker = count (world.workers name)) :
    (fun other => count (((SftWorld.mk controller world.workers).setWorker name
      worker).workers other)) = fun other => count (world.workers other) := by
  funext other
  by_cases this : other = name
  · subst this
    rw [workers_setWorker_self, same]
  · rw [workers_setWorker_of_ne this]

theorem rounds_setWorker
    (rounds : RoundCounter.InRounds names (fun name => (world.workers name).ackedSteps)
      (fun name => (world.workers name).computedSteps) counter)
    (ackedSteps_eq : worker.ackedSteps = (world.workers name).ackedSteps)
    (computedSteps_eq : worker.computedSteps = (world.workers name).computedSteps) :
    RoundCounter.InRounds names
      (fun other => ((SftWorld.mk controller world.workers).setWorker name
        worker).workers other |>.ackedSteps)
      (fun other => ((SftWorld.mk controller world.workers).setWorker name
        worker).workers other |>.computedSteps) counter := by
  rw [count_setWorker SftWorker.ackedSteps ackedSteps_eq,
    count_setWorker SftWorker.computedSteps computedSteps_eq]
  exact rounds

section

variable (invariant : SftInvariant config names startStep initialSamples world)

include invariant

/-- A request that is made when all replicas have acknowledged the last step, or that
brings no prompts, keeps the invariant. -/
theorem invariant_request (allowed : world.Allowed (.request name))
    (settles : FetchesSettled config names world (.request name)) :
    SftInvariant config names startStep initialSamples (world.request config name) := by
  have member : name ∈ names := by
    rw [← invariant.fleet.arrived]
    exact allowed.1
  obtain ⟨counter, counts, rounds⟩ := invariant.counting
  have fetched : SftFetched world.controller (world.answer config name).2 :=
    sftFetched_getBatchedPrompt config.base _ _ _
  unfold SftWorld.request
  by_cases empty : (world.workers name).dataQueue = 0
  · rw [if_pos empty]
    have taken := @takenPrompts_requestNewPrompts config _ name (world.batchSize config name)
      (world.workers name).isValidating (world.nextPrompt config name) (world.workers name)
      fun payload inAnswer => (tags_nextPrompt inAnswer).1
    have settled : (rankPrompts config name (world.nextPrompt config name).1).getD [] ≠ [] →
        RoundCounter.Settled names (fun name => (world.workers name).ackedSteps)
          (fun name => (world.workers name).computedSteps) counter ∧
          (world.workers name).ackedSteps = counter.counted := fun some =>
      settled_of_allAcknowledged rounds member
        (settles empty ((rankPrompts_ne_nil_iff config name _).mp some))
    have current : (rankPrompts config name (world.nextPrompt config name).1).getD [] ≠ [] →
        world.controller.policy.currentStep =
          startStep + (world.workers name).ackedSteps := fun some => by
      rw [counts.currentStep_eq, (settled some).2]
    have after := SftWorker.afterRequest_fetched config (world.nextPrompt config name).2
      (invariant.sound name member) allowed.2 empty taken current
    apply invariant.setWorker (fetched.fleet invariant.fleet) _ after.sound _
      (fun isEnd posting => absurd posting (after.notPosting isEnd))
    · -- the tags of what was received
      intro receipt inReceived
      rw [after.received_eq] at inReceived
      rcases taken.received receipt inReceived with old | ⟨new, step⟩
      · exact invariant.tags name member receipt old
      · have tagged := tags_nextPrompt (mem_rankPrompts new)
        have some := ne_nil_of_mem new
        rw [((invariant.sound name member).idle allowed.2).trainStep_getD (current some),
          (settled some).2] at step
        rw [tagged.1, tagged.2, step, counts.currentStep_eq, counts.remainSamples_eq,
          (settled some).1.settled_eq]
        exact ⟨rfl, rfl⟩
    · -- the count of rounds
      refine ⟨counter, fetched.countsSteps counts, ?_⟩
      rcases after.computedSteps_eq with same | ⟨some, idle, more⟩
      · exact rounds_setWorker rounds after.ackedSteps_eq same
      · rw [count_setWorker SftWorker.ackedSteps after.ackedSteps_eq]
        refine .inl ((settled some).1.enter name ?_ ?_)
        · intro other _ different
          rw [workers_setWorker_of_ne different]
        · rw [workers_setWorker_self, more, idle, (settled some).2]
    · rcases after.computedSteps_eq with same | ⟨_, _, more⟩ <;> omega
  · rw [if_neg empty]
    exact invariant.setWorker invariant.fleet ⟨counter, counts, rounds_setWorker rounds rfl rfl⟩
      trivial (Nat.le_refl _) (fun isEnd posting => by simp [SftWorker.crash] at posting)
      (invariant.tags name member)

theorem invariant_completeStep (allowed : world.Allowed (.completeStep name)) :
    SftInvariant config names startStep initialSamples
      (world.setWorker name (world.workers name).stepped) := by
  obtain ⟨arrived, ⟨isEnd, _, training⟩, together⟩ := allowed
  rw [invariant.fleet.arrived] at arrived together
  have sound := invariant.sound name arrived
  simp only [SftWorker.Sound, training] at sound
  have stepped : (world.workers name).stepped = { world.workers name with
      trainStep := (world.workers name).trainStep.map (· + 1), phase := .postingAck isEnd } := by
    unfold SftWorker.stepped
    rw [training]
  obtain ⟨counter, counts, rounds⟩ := invariant.counting
  rw [stepped]
  refine invariant.setWorker invariant.fleet ⟨counter, counts, rounds_setWorker rounds rfl rfl⟩
    ⟨sound.1, ?_⟩ (Nat.le_refl _) (fun _ _ => together) (invariant.tags name arrived)
  rw [sound.2]
  rfl

/-- An ack that is handled keeps the invariant, a validation ack when all replicas have
acknowledged the last step. -/
theorem invariant_postAck (allowed : world.Allowed (.postAck name))
    (settles : ValidationsSettled names world (.postAck name)) :
    SftInvariant config names startStep initialSamples (world.postAck config name) := by
  have member : name ∈ names := by
    rw [← invariant.fleet.arrived]
    exact allowed.1
  have sound := invariant.sound name member
  obtain ⟨counter, counts, rounds⟩ := invariant.counting
  unfold SftWorld.postAck
  rcases posting : (world.workers name).postsValidation with _ | _
  · -- a train ack
    obtain ⟨isEnd, _, phase⟩ := allowed.2.resolve_left (by simp [posting])
    simp only [SftWorker.Sound, phase] at sound
    obtain ⟨after, handled, fleet, counts'⟩ :=
      sftPolicyTrainAck_training invariant.fleet counts member
    dsimp only
    rw [handled, Outcome.ok_raised, Option.isNone_none, if_pos rfl,
      SftWorker.acknowledged_postingAck phase]
    refine invariant.setWorker fleet ⟨_, counts', ?_⟩ (SftWorker.Idle.endRound ⟨sound.1, ?_⟩ _)
      ?_ (fun isEnd' posts => absurd posts (SftWorker.phase_endRound _ _)) ?_
    · have computed : (SftWorker.endRound config isEnd { world.workers name with
          ackedSteps := (world.workers name).ackedSteps + 1 }).computedSteps =
          (world.workers name).computedSteps := SftWorker.computedSteps_endRound _
      rw [count_setWorker SftWorker.computedSteps computed]
      refine rounds.acknowledge member sound.1 ?_ ?_ ?_
      · intro other otherMember
        have ahead := invariant.together name member isEnd phase other otherMember
        rwa [sound.1] at ahead
      · intro other _ different
        rw [workers_setWorker_of_ne different]
      · rw [workers_setWorker_self, SftWorker.ackedSteps_endRound]
    · rw [sound.2, Nat.add_assoc]
      exact .inr rfl
    · rw [SftWorker.computedSteps_endRound]
    · rw [SftWorker.received_endRound]
      exact invariant.tags name member
  · -- a validation ack
    obtain ⟨settled, _⟩ := settled_of_allAcknowledged rounds member (settles posting)
    obtain ⟨after, handled, fleet, counts'⟩ :=
      sftPolicyTrainAck_validation invariant.fleet counts settled.unmarked member
    obtain ⟨isLastStep, phase⟩ : ∃ isLastStep,
        (world.workers name).phase = .postingValidation isLastStep := by
      unfold SftWorker.postsValidation at posting
      split at posting
      · rename_i isLastStep phase
        exact ⟨isLastStep, phase⟩
      · simp at posting
    simp only [SftWorker.Sound, phase] at sound
    dsimp only
    rw [handled, Outcome.ok_raised, Option.isNone_none, if_pos rfl,
      SftWorker.acknowledged_postingValidation phase]
    refine invariant.setWorker fleet ⟨counter, counts', rounds_setWorker rounds rfl rfl⟩ ?_
      (Nat.le_refl _) ?_ (invariant.tags name member)
    · cases isLastStep <;> exact sound
    · intro isEnd posts
      cases isLastStep <;> simp at posts

/-- A request that brings prompts while acks of the last step are missing gets the
remaining samples from before that step. -/
theorem breaks_request
    (allowed : world.Allowed (.request name)) (empty : (world.workers name).dataQueue = 0)
    (finds : config.dpWorldSize ≤ (world.nextPrompt config name).1.length)
    (missing : ¬ world.AllAcknowledged names name) :
    ¬ StepAgreement config names startStep initialSamples (world.request config name) := by
  intro agreement
  have member : name ∈ names := by
    rw [← invariant.fleet.arrived]
    exact allowed.1
  have idle := (invariant.sound name member).idle allowed.2
  obtain ⟨counter, counts, rounds⟩ := invariant.counting
  rcases rounds with settled | opened
  · refine missing fun other otherMember => ?_
    exact (settled.acknowledged_eq other otherMember).trans
      (settled.acknowledged_eq name member).symm
  · -- this replica has acknowledged the open step
    have computed : (world.workers name).computedSteps = counter.counted :=
      opened.entered_eq name member
    have current : world.controller.policy.currentStep =
        startStep + (world.workers name).ackedSteps := by
      rw [counts.currentStep_eq, ← computed, idle.1]
    have taken := @takenPrompts_requestNewPrompts config _ name (world.batchSize config name)
      (world.workers name).isValidating (world.nextPrompt config name) (world.workers name)
      fun payload inAnswer => (tags_nextPrompt inAnswer).1
    have after := SftWorker.afterRequest_fetched config (world.nextPrompt config name).2
      (invariant.sound name member) allowed.2 empty taken fun _ => current
    have some := (rankPrompts_ne_nil_iff config name _).mpr finds
    obtain ⟨payload, rest, share⟩ := exists_cons_of_ne_nil some
    have first := taken.first payload (by rw [share]; rfl)
    have inShare : payload ∈
        (rankPrompts config name (world.nextPrompt config name).1).getD [] := by
      rw [share]
      exact mem_cons_self
    have tagged := tags_nextPrompt (mem_rankPrompts inShare)
    rw [idle.trainStep_getD current] at first
    have promised := (agreement.tags name member _ (by
      unfold SftWorld.request
      rw [if_pos empty, workers_setWorker_self, after.received_eq]
      exact first)).2
    dsimp only at promised
    have positive : 0 < ((config.base.trainBatchPerReplica * names.length : Nat) : Int) :=
      Int.natCast_pos.mpr (Nat.mul_pos config.base.trainBatch_pos (length_pos_of_mem member))
    rw [tagged.2, counts.remainSamples_eq, ← current, counts.currentStep_eq,
      ← opened.settled_eq, ← Nat.add_assoc, Int.natCast_succ, Int.add_mul, Int.one_mul] at promised
    omega

end

theorem invariant_begin (start : SftStart config names startStep initialSamples controller)
    (loadedTrainStep : ReplicaName → Option Nat) :
    SftInvariant config names startStep initialSamples
      (SftWorld.begin config controller loadedTrainStep) := by
  have idle : ∀ name, SftWorker.Idle startStep
      { loadedTrainStep := loadedTrainStep name
        totalSteps := controller.policy.totalSteps } := fun name => ⟨rfl, .inl ⟨rfl, rfl⟩⟩
  refine ⟨start.fleet, ⟨⟨0, 0, fun _ => false⟩, ⟨?_, ?_, ?_⟩, .inl ⟨rfl, ?_, ?_, ?_⟩⟩,
    fun name _ => (idle name).validate false, ?_, ?_⟩
  · exact start.currentStep_eq
  · exact start.remainSamples_eq
  · intro name member
    exact iff_of_false (start.notReduced name member) (by simp)
  · exact fun _ _ => rfl
  · exact fun _ _ => rfl
  · exact fun _ _ => .inl rfl
  · exact fun _ _ _ _ _ _ => Nat.le_refl 0
  · intro name _ receipt received
    simp [SftWorld.begin, SftWorker.validate] at received

end Steps

/-- In every run whose validation acks come between steps, the tags of all batches and the
controller's step are right throughout exactly if no prompts are fetched while acks of
the last step are missing. -/
theorem stepAgreement_iff_fetchesSettled {controller : Controller}
    (start : SftStart config names startStep initialSamples controller)
    (loadedTrainStep : ReplicaName → Option Nat) {events : List SftEvent}
    (run : (sftSystem config).IsRun (SftWorld.begin config controller loadedTrainStep) events)
    (validations : (sftSystem config).StepsMeet (ValidationsSettled names)
      (SftWorld.begin config controller loadedTrainStep) events) :
    (sftSystem config).Throughout (StepAgreement config names startStep initialSamples)
        (SftWorld.begin config controller loadedTrainStep) events ↔
      (sftSystem config).StepsMeet (FetchesSettled config names)
        (SftWorld.begin config controller loadedTrainStep) events := by
  refine EventSystem.throughout_iff_stepsMeet_of_side
    (fun world invariant => SftInvariant.agreement invariant) ?_ ?_
    (invariant_begin start loadedTrainStep) run validations
  · intro world event invariant allowed settles fetches
    cases event with
    | request name => exact invariant_request invariant allowed fetches
    | completeStep name => exact invariant_completeStep invariant allowed
    | postAck name => exact invariant_postAck invariant allowed settles
  · intro world event invariant allowed early
    cases event with
    | request name =>
      simp only [FetchesSettled, not_forall] at early
      obtain ⟨empty, finds, missing⟩ := early
      exact breaks_request invariant allowed empty finds missing
    | completeStep name => exact absurd trivial early
    | postAck name => exact absurd trivial early

def twoReplicasConfig : SftConfig where
  base := Config.small 0
    { trainDataloader := fun _ => (List.range 8).map fun idx => [idx]
      valDataloader := []
      valDatasize := 0 }

def twoReplicas : Controller where
  policy :=
    { policyReplicas := ((∅ : Dict ReplicaName Replica).set 0 { atoms := [0], groupSize := {} }).set
        1 { atoms := [0], groupSize := {} }
      status := ((∅ : Dict ReplicaName PolicyStatus).set 0 .ready).set 1 .ready
      totalSteps := 4
      remainSamplesNum := 8 }
  dataFetcher := { trainDataloaderIter := twoReplicasConfig.base.dataset.trainDataloader 1 }

def twoWorkers : SftWorld := SftWorld.begin twoReplicasConfig twoReplicas fun _ => none

theorem sftStart_twoReplicas : SftStart twoReplicasConfig [0, 1] 0 8 twoReplicas where
  fleet := by
    refine ⟨rfl, fun name => ?_⟩
    simp [twoReplicas, or_comm]
  currentStep_eq := rfl
  remainSamples_eq := rfl
  notReduced := by decide

/-- Both replicas acknowledge the first step before one asks for the next batch. -/
theorem stepAgreement_inStep :
    (sftSystem twoReplicasConfig).Throughout (StepAgreement twoReplicasConfig [0, 1] 0 8)
      twoWorkers [.request 0, .request 1, .completeStep 0, .postAck 0, .completeStep 1,
        .postAck 1, .request 0] :=
  (stepAgreement_iff_fetchesSettled twoReplicasConfig [0, 1] 0 8 sftStart_twoReplicas
    (fun _ => none) (by decide) (by decide)).mpr (by decide)

/-- One replica acknowledges the first step and asks for the next batch before the other
has acknowledged: the batch for step one still carries all eight samples. -/
theorem not_stepAgreement_ahead :
    SftStart twoReplicasConfig [0, 1] 0 8 twoReplicas ∧
      (sftSystem twoReplicasConfig).IsRun twoWorkers
        [.request 0, .request 1, .completeStep 0, .postAck 0, .request 0] ∧
      ¬ (sftSystem twoReplicasConfig).Throughout (StepAgreement twoReplicasConfig [0, 1] 0 8)
        twoWorkers [.request 0, .request 1, .completeStep 0, .postAck 0, .request 0] := by
  refine ⟨sftStart_twoReplicas, by decide, fun throughout => ?_⟩
  have tagged := throughout.finish.tags 0 (by decide) ⟨1, ⟨2, 1, 0, 8⟩⟩ (by decide)
  exact absurd tagged.2 (by decide)

end CosmosRl.Worker
