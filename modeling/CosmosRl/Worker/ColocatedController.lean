import CosmosRl.Dispatcher.ColocatedStreams

/-!
`ColocatedController`: the counters of the controller as a colocated worker keeps them.

The worker makes the decision about the checkpoint of a step again, with the counters of the
last command it has taken, and asserts that the command of the step agrees.  The epochs are
counted in an attribute that nothing ever assigns, and the number of steps may have changed
between the two commands.
-/

namespace CosmosRl.Worker

open CosmosRl.Foundation CosmosRl.Dispatcher List

structure ColocatedConfig where
  config : Config
  colocated : config.mode = .colocated
  fresh : config.resume = false

structure ColocatedController where
  currentStep : Nat := 0
  totalSteps : Int
  remainSamplesNum : Int
  /-- `setup` leaves `samples_per_epoch` out. -/
  samplesPerEpoch : Option Nat := none
  initDataFetchCommand : Option StepFetch := none

def pyBool : Bool → String
  | true => "True"
  | false => "False"

namespace ColocatedController

section Calls

variable (config : Config)

def setup : ColocatedController :=
  let remainSamplesNum : Int := config.samplesPerEpoch * config.epoch
  { totalSteps := remainSamplesNum / config.trainBatchPerReplica
    remainSamplesNum := remainSamplesNum }

/-- The checkpoint decision of `rollout_completed_for_data_fetch_n_training`. -/
def doSave (requiredRollouts : Nat) (controller : ColocatedController) :
    Except PyError Bool :=
  let remain := controller.remainSamplesNum
  if (controller.currentStep : Int) = controller.totalSteps then .ok true
  else if 0 < config.ckpt.saveFreqInEpoch then
    match controller.samplesPerEpoch with
    | none => .error .attributeError
    | some samplesPerEpoch =>
      if (remain + requiredRollouts - 1) / samplesPerEpoch ≠
          (remain - 1) / samplesPerEpoch then
        .ok (decide (((config.epoch : Int) -
          (remain + requiredRollouts - 1) / samplesPerEpoch) %
            config.ckpt.saveFreqInEpoch = 0))
      else .ok false
  else
    .ok (decide (controller.currentStep % config.ckpt.saveFreq = 0) &&
      decide (0 < controller.currentStep))

def advanceIteration (controller : ColocatedController) : ColocatedController :=
  { controller with currentStep := controller.currentStep + 1 }

def take (command : StepFetch) (controller : ColocatedController) : ColocatedController :=
  { controller with
    currentStep := command.globalStep
    totalSteps := command.totalSteps
    remainSamplesNum := command.remainSamplesNum }

def check (doSave : Bool) (command : StepFetch) (controller : ColocatedController) :
    Outcome PyError ColocatedController :=
  let expected := doSave && config.ckpt.enableCheckpoint
  if config.resume then .ok controller
  else if command.doSave ≠ expected then
    .raise controller (.assertionError
      s!"Expected do_save {pyBool expected} but got {pyBool command.doSave}")
  else if controller.currentStep ≠ command.globalStep then
    .raise controller (.assertionError
      s!"Expected global_step {controller.currentStep} but got {command.globalStep}")
  else .ok controller

/-- `rollout_completed_for_data_fetch_n_training`, where `incoming` are the `DataFetch`
commands that have not been taken off the stream. -/
def rolloutCompletedForDataFetchNTraining (requiredRollouts : Nat)
    (incoming : List StepFetch) (controller : ColocatedController) :
    Outcome PyError ColocatedController :=
  match controller.doSave config requiredRollouts with
  | .error exn => .raise controller exn
  | .ok doSave =>
    match controller.initDataFetchCommand with
    | some command =>
      .ok ({ controller with initDataFetchCommand := none }.take command)
    | none =>
      match incoming with
      | [] => .raise controller .blocked
      | command :: _ =>
        (controller.check config doSave command).andThen fun checked =>
          .ok (checked.take command)

end Calls

end ColocatedController

/-- One call of `rollout_completed_for_data_fetch_n_training` with what it finds. -/
structure ColocatedCall where
  controller : ColocatedController
  requiredRollouts : Nat
  incoming : List StepFetch

namespace ColocatedCall

variable (config : Config)

def outcome (call : ColocatedCall) : Outcome PyError ColocatedController :=
  call.controller.rolloutCompletedForDataFetchNTraining config call.requiredRollouts
    call.incoming

/-- The call raises nothing and, unless it takes the initial command, computes the flag and the
step number of the next command. -/
structure Agrees (call : ColocatedCall) : Prop where
  raised_eq : (call.outcome config).raised = none
  same : call.controller.initDataFetchCommand = none → ∃ doSave command,
    call.controller.doSave config call.requiredRollouts = .ok doSave ∧
      call.incoming.head? = some command ∧
      command.doSave = (doSave && config.ckpt.enableCheckpoint) ∧
      command.globalStep = call.controller.currentStep

/-- The epochs are not looked at, and the step is the last one by the previous command if and
only if it is by the next one, unless it is saved for its number or nothing is saved. -/
structure Foreseen (call : ColocatedCall) : Prop where
  countable : config.ckpt.saveFreqInEpoch = 0 ∨
    (call.controller.currentStep : Int) = call.controller.totalSteps
  sameEnd : call.controller.initDataFetchCommand = none →
    config.ckpt.enableCheckpoint = true → ∀ command ∈ call.incoming.head?,
      ((call.controller.currentStep : Int) = call.controller.totalSteps ↔
          (call.controller.currentStep : Int) = command.totalSteps) ∨
        (config.ckpt.saveFreqInEpoch = 0 ∧
          call.controller.currentStep % config.ckpt.saveFreq = 0)

end ColocatedCall

structure ColocatedWorker where
  controller : ColocatedController
  taken : Nat := 0
  raised : Option PyError := none

structure ColocatedRun where
  remote : Controller
  workers : ReplicaName → ColocatedWorker
  calls : List ColocatedCall := []

inductive ColocatedEvent where
  | remote (event : Event)
  | initCommands (name : ReplicaName)
  /-- One turn of `main_loop` up to the decision, with the samples it has pending. -/
  | iterate (name : ReplicaName) (pendingSamples : Nat)

namespace ColocatedRun

section Events

variable (config : Config)

def start (nInitPolicyReplicas nInitRolloutReplicas : Nat) (fetcher : ControllerDataFetcher) :
    ColocatedRun where
  remote := Dispatcher.setup config 0 (config.samplesPerEpoch * config.epoch) nInitPolicyReplicas
    nInitRolloutReplicas fetcher
  workers _ := { controller := .setup config }

/-- The `DataFetch` commands a worker has not taken. -/
def incoming (name : ReplicaName) (run : ColocatedRun) : List StepFetch :=
  (run.remote.fetchesOf name).drop (run.workers name).taken

def call (name : ReplicaName) (pendingSamples : Nat) (run : ColocatedRun) : ColocatedCall where
  controller := (run.workers name).controller.advanceIteration
  requiredRollouts := pendingSamples
  incoming := run.incoming name

def setWorker (name : ReplicaName) (worker : ColocatedWorker) (run : ColocatedRun) :
    ColocatedRun :=
  { run with workers := Function.update run.workers name worker }

def handle (run : ColocatedRun) : ColocatedEvent → ColocatedRun
  | .remote event => { run with remote := (handleEvent config run.remote event).state }
  | .initCommands name =>
    run.setWorker name { run.workers name with
      controller.initDataFetchCommand := (run.incoming name).head?
      taken := (run.workers name).taken + 1 }
  | .iterate name pendingSamples =>
    let call := run.call name pendingSamples
    let outcome := call.outcome config
    { run.setWorker name {
        controller := outcome.state
        taken := (run.workers name).taken +
          if call.controller.initDataFetchCommand.isSome then 0 else 1
        raised := outcome.raised } with
      calls := run.calls ++ [call] }

/-- A worker starts with the initial commands, waits for the command of a step, and has ended
once its loop has raised. -/
def Allowed (run : ColocatedRun) : ColocatedEvent → Prop
  | .remote event => ColocatedAllowed run.remote event
  | .initCommands name => (run.workers name).taken = 0 ∧ run.incoming name ≠ []
  | .iterate name _ => (run.workers name).taken ≠ 0 ∧ (run.workers name).raised = none ∧
      ((run.workers name).controller.initDataFetchCommand.isSome = true ∨
        run.incoming name ≠ [])

end Events

def Agrees (config : Config) (run : ColocatedRun) : Prop :=
  ∀ call ∈ run.calls, call.Agrees config

def Foreseen (config : Config) (run : ColocatedRun) : ColocatedEvent → Prop
  | .iterate name pendingSamples => (run.call name pendingSamples).Foreseen config
  | _ => True

end ColocatedRun

def colocatedSystem (config : Config) : EventSystem ColocatedRun ColocatedEvent where
  handle := ColocatedRun.handle config
  Allowed := ColocatedRun.Allowed

instance decidableColocatedAllowed (run : ColocatedRun) :
    (event : ColocatedEvent) → Decidable (run.Allowed event)
  | .remote event => inferInstanceAs (Decidable (ColocatedAllowed run.remote event))
  | .initCommands _ => inferInstanceAs (Decidable (_ ∧ _))
  | .iterate _ _ => inferInstanceAs (Decidable (_ ∧ _ ∧ _))

section Decision

variable {config : Config}

theorem doSave_of_countable {requiredRollouts : Nat} {controller : ColocatedController}
    (countable : config.ckpt.saveFreqInEpoch = 0 ∨
      (controller.currentStep : Int) = controller.totalSteps) :
    controller.doSave config requiredRollouts =
      .ok (decide ((controller.currentStep : Int) = controller.totalSteps) ||
        (decide (controller.currentStep % config.ckpt.saveFreq = 0) &&
          decide (0 < controller.currentStep))) := by
  unfold ColocatedController.doSave
  by_cases last : (controller.currentStep : Int) = controller.totalSteps
  · rw [if_pos last, decide_eq_true last, Bool.true_or]
  · have stepwise := countable.resolve_right last
    rw [if_neg last, if_neg (by rw [stepwise]; exact Nat.lt_irrefl 0), decide_eq_false last,
      Bool.false_or]

theorem checkpointSavingAt_of_countable {currentStep requiredRollouts : Nat}
    {totalSteps remain : Int}
    (countable : config.ckpt.saveFreqInEpoch = 0 ∨ (currentStep : Int) = totalSteps) :
    checkpointSavingAt config currentStep totalSteps remain requiredRollouts =
      ((decide ((currentStep : Int) = totalSteps) ||
        (decide (currentStep % config.ckpt.saveFreq = 0) && decide (0 < currentStep))) &&
          config.ckpt.enableCheckpoint) := by
  unfold checkpointSavingAt checkCheckpointSaving
  dsimp only
  by_cases last : (currentStep : Int) = totalSteps
  · rw [if_pos last, decide_eq_true last, Bool.true_or]
  · have stepwise := countable.resolve_right last
    rw [if_neg last, if_neg (by rw [stepwise]; exact Nat.lt_irrefl 0), decide_eq_false last,
      Bool.false_or]

variable {call : ColocatedCall} {command : StepFetch}

theorem ColocatedCall.Foreseen.doSave_eq
    (foreseen : call.Foreseen config) (initialized : call.controller.initDataFetchCommand = none)
    (next : call.incoming.head? = some command) (positive : 0 < call.controller.currentStep)
    (sameStep : command.globalStep = call.controller.currentStep)
    (decided : ∃ requiredRollouts, command.doSave = checkpointSavingAt config
      command.globalStep command.totalSteps command.remainSamplesNum requiredRollouts) :
    ∃ doSave, call.controller.doSave config call.requiredRollouts = .ok doSave ∧
      command.doSave = (doSave && config.ckpt.enableCheckpoint) := by
  obtain ⟨requiredRollouts, saved⟩ := decided
  refine ⟨_, doSave_of_countable foreseen.countable, ?_⟩
  rw [saved, sameStep]
  cases enabled : config.ckpt.enableCheckpoint with
  | false =>
    unfold checkpointSavingAt checkCheckpointSaving
    rw [enabled, Bool.and_false, Bool.and_false]
  | true =>
    rcases foreseen.sameEnd initialized enabled command next with sameEnd | ⟨stepwise, due⟩
    · have countable : config.ckpt.saveFreqInEpoch = 0 ∨
          (call.controller.currentStep : Int) = command.totalSteps :=
        foreseen.countable.imp_right sameEnd.mp
      rw [checkpointSavingAt_of_countable countable, decide_eq_decide.mpr sameEnd, enabled]
    · rw [checkpointSavingAt_of_countable (.inl stepwise), decide_eq_true due,
        decide_eq_true positive, Bool.and_true, Bool.or_true, Bool.or_true, enabled]

theorem outcome_of_same {rest : List StepFetch}
    {doSave : Bool} (decided : call.controller.doSave config call.requiredRollouts = .ok doSave)
    (initialized : call.controller.initDataFetchCommand = none)
    (incoming : call.incoming = command :: rest)
    (sameFlag : command.doSave = (doSave && config.ckpt.enableCheckpoint))
    (sameStep : command.globalStep = call.controller.currentStep) :
    call.outcome config = .ok (call.controller.take command) := by
  have checked : call.controller.check config doSave command = .ok call.controller := by
    unfold ColocatedController.check
    dsimp only
    split
    · rfl
    · rw [if_neg (not_not.mpr sameFlag), if_neg (not_not.mpr sameStep.symm)]
  unfold ColocatedCall.outcome ColocatedController.rolloutCompletedForDataFetchNTraining
  rw [decided, initialized, incoming]
  dsimp only
  rw [checked, Outcome.ok_andThen]

theorem outcome_of_initial {doSave : Bool}
    (decided : call.controller.doSave config call.requiredRollouts = .ok doSave)
    (initial : call.controller.initDataFetchCommand = some command) :
    call.outcome config =
      .ok ({ call.controller with initDataFetchCommand := none }.take command) := by
  unfold ColocatedCall.outcome ColocatedController.rolloutCompletedForDataFetchNTraining
  rw [decided, initial]

end Decision

variable {config : Config} {run : ColocatedRun} {name : ReplicaName}

theorem fetchesOf_handleEvent {controller : Controller}
    (wellFormed : WellFormed controller) (event : Event) (name : ReplicaName) :
    (controller.fetchesOf name) <+:
      ((handleEvent config controller event).state.fetchesOf name) := by
  have appended : controller.stepFetches <+:
      (handleEvent config controller event).state.stepFetches := by
    by_cases registers : ∃ atom now, event = .registerPolicy atom now
    · obtain ⟨atom, now, rfl⟩ := registers
      rcases @enlisted_handleEvent config atom now controller with held | started
      · rw [held.fetches_eq]
      · obtain ⟨sent, fetches, _⟩ := started.log
        exact ⟨sent, fetches.symm⟩
    · have other : ∀ atom now, event ≠ .registerPolicy atom now :=
        fun atom now same => registers ⟨atom, now, same⟩
      refine @Moves.preserves config (fun state => controller.stepFetches <+: state.stepFetches)
        ?_ _ _ (moves_handleEvent wellFormed other) (prefix_refl _)
      intro before after kept move
      cases move with
      | held held =>
        rw [held.fetches_eq]
        exact kept
      | triggered triggered => exact kept.trans ⟨_, triggered.fetches_eq.symm⟩
  exact appended.filter _

structure Mirrors (fetches : List StepFetch) (worker : ColocatedWorker) : Prop where
  initial : ∀ command ∈ worker.controller.initDataFetchCommand,
    worker.taken = 1 ∧ fetches[0]? = some command
  latest : worker.taken ≠ 0 → worker.raised = none →
    worker.controller.initDataFetchCommand = none →
      ∃ command, fetches[worker.taken - 1]? = some command ∧
        worker.controller.currentStep = command.globalStep

theorem Mirrors.extend {fetches longer : List StepFetch} {worker : ColocatedWorker}
    (mirrors : Mirrors fetches worker) (kept : fetches <+: longer) : Mirrors longer worker := by
  have same : ∀ {index : Nat} {command : StepFetch}, fetches[index]? = some command →
      longer[index]? = some command := by
    intro index command found
    obtain ⟨later, rfl⟩ := kept
    have inside := (List.getElem?_eq_some_iff.mp found).1
    rw [getElem?_append_left inside]
    exact found
  refine ⟨?_, ?_⟩
  · intro command isInitial
    exact (mirrors.initial command isInitial).imp_right same
  · intro started running initialized
    obtain ⟨command, found, sameStep⟩ := mirrors.latest started running initialized
    exact ⟨command, same found, sameStep⟩

structure Mirrored (config : Config) (run : ColocatedRun) : Prop where
  regular : Regular config run.remote
  mirrors : ∀ name, Mirrors (run.remote.fetchesOf name) (run.workers name)
  agrees : run.Agrees config

theorem Mirrors.start (fetches : List StepFetch) (config : Config) :
    Mirrors fetches { controller := .setup config } :=
  ⟨fun command isInitial => absurd isInitial (Option.not_mem_none command),
    fun started => absurd rfl started⟩

theorem mirrors_setWorker {worker : ColocatedWorker}
    (mirrors : ∀ other, Mirrors (run.remote.fetchesOf other) (run.workers other))
    (mirrored : Mirrors (run.remote.fetchesOf name) worker) (other : ReplicaName) :
    Mirrors (run.remote.fetchesOf other) ((run.setWorker name worker).workers other) := by
  show Mirrors _ (Function.update run.workers name worker other)
  by_cases same : other = name
  · subst same
    rw [Function.update_self]
    exact mirrored
  · rw [Function.update_of_ne same]
    exact mirrors other

theorem Mirrored.next (mirrored : Mirrored config run) {command : StepFetch}
    (started : (run.workers name).taken ≠ 0) (running : (run.workers name).raised = none)
    (initialized : (run.workers name).controller.initDataFetchCommand = none)
    (isNext : (run.incoming name).head? = some command) :
    command.globalStep = (run.workers name).controller.currentStep + 1 ∧
      ∃ requiredRollouts, command.doSave = checkpointSavingAt config command.globalStep
        command.totalSteps command.remainSamplesNum requiredRollouts := by
  obtain ⟨last, found, sameStep⟩ := (mirrored.mirrors name).latest started running initialized
  have nextFound : (run.remote.fetchesOf name)[(run.workers name).taken]? = some command := by
    rw [← isNext, ColocatedRun.incoming, head?_drop]
  obtain ⟨lastInside, lastIs⟩ := List.getElem?_eq_some_iff.mp found
  obtain ⟨inside, nextIs⟩ := List.getElem?_eq_some_iff.mp nextFound
  have follows := isChain_iff_getElem.mp (mirrored.regular.inStep.follows name)
    ((run.workers name).taken - 1) (by omega)
  simp only [Nat.sub_one_add_one started, lastIs, nextIs] at follows
  exact ⟨sameStep ▸ follows.step_eq, follows.decided⟩

/-- A foreseen call agrees with its command, and leaves the worker at it. -/
theorem Mirrored.iterate (mirrored : Mirrored config run) {pendingSamples : Nat}
    (allowed : run.Allowed (.iterate name pendingSamples))
    (foreseen : (run.call name pendingSamples).Foreseen config) :
    Mirrored config (run.handle config (.iterate name pendingSamples)) := by
  obtain ⟨started, running, waits⟩ := allowed
  let call := run.call name pendingSamples
  have decided := @doSave_of_countable config call.requiredRollouts call.controller
    foreseen.countable
  have joined : ∀ {worker : ColocatedWorker}, Mirrors (run.remote.fetchesOf name) worker →
      call.Agrees config → Mirrored config { run.setWorker name worker with
        calls := run.calls ++ [call] } := by
    intro worker mirrors agrees
    refine ⟨mirrored.regular, mirrors_setWorker mirrored.mirrors mirrors, ?_⟩
    intro other member
    rcases mem_append.mp member with earlier | last
    · exact mirrored.agrees other earlier
    · exact mem_singleton.mp last ▸ agrees
  unfold ColocatedRun.handle
  dsimp only
  cases initial : (run.workers name).controller.initDataFetchCommand with
  | some command =>
    obtain ⟨takenOne, first⟩ := (mirrored.mirrors name).initial command initial
    have result : call.outcome config = _ := outcome_of_initial decided initial
    apply joined
    · refine ⟨fun other isInitial => ?_, fun _ _ _ => ⟨command, ?_, ?_⟩⟩
      · rw [result] at isInitial
        cases isInitial
      · have isSome : call.controller.initDataFetchCommand.isSome = true :=
          congrArg Option.isSome initial
        rw [if_pos isSome, Nat.add_zero, takenOne]
        exact first
      · rw [result]
        rfl
    · refine ⟨?_, fun initialized => ?_⟩
      · rw [result]
        rfl
      · rw [show call.controller.initDataFetchCommand = some command from initial] at initialized
        cases initialized
  | none =>
    obtain ⟨command, rest, incoming⟩ := exists_cons_of_ne_nil
      (waits.resolve_left (by rw [initial]; exact Bool.false_ne_true))
    have isNext : (run.incoming name).head? = some command := by rw [incoming]; rfl
    obtain ⟨sameStep, saved⟩ := mirrored.next started running initial isNext
    obtain ⟨doSave, computed, sameFlag⟩ :=
      foreseen.doSave_eq initial isNext (Nat.succ_pos _) sameStep saved
    have result : call.outcome config = .ok (call.controller.take command) :=
      outcome_of_same computed initial incoming sameFlag sameStep
    apply joined
    · refine ⟨fun other isInitial => ?_, fun _ _ _ => ⟨command, ?_, ?_⟩⟩
      · rw [result] at isInitial
        have isHeld : other ∈ call.controller.initDataFetchCommand := isInitial
        rw [show call.controller.initDataFetchCommand = none from initial] at isHeld
        cases isHeld
      · have isNone : ¬ call.controller.initDataFetchCommand.isSome = true := by
          rw [show call.controller.initDataFetchCommand = none from initial]
          exact Bool.false_ne_true
        rw [if_neg isNone, Nat.add_sub_cancel, ← isNext, ColocatedRun.incoming, head?_drop]
      · rw [result]
        rfl
    · refine ⟨?_, fun _ => ⟨doSave, command, computed, isNext, sameFlag, sameStep⟩⟩
      rw [result]
      rfl

theorem Mirrored.handle (config : ColocatedConfig)
    (mirrored : Mirrored config.config run) {event : ColocatedEvent}
    (allowed : run.Allowed event) (foreseen : run.Foreseen config.config event) :
    Mirrored config.config (run.handle config.config event) := by
  cases event with
  | remote event =>
    refine ⟨mirrored.regular.handleEvent config.colocated allowed, ?_, mirrored.agrees⟩
    intro name
    exact (mirrored.mirrors name).extend
      (fetchesOf_handleEvent mirrored.regular.inStep.wellFormed event name)
  | initCommands name =>
    obtain ⟨fresh, waits⟩ := allowed
    obtain ⟨command, rest, incoming⟩ := exists_cons_of_ne_nil waits
    refine ⟨mirrored.regular, mirrors_setWorker mirrored.mirrors ⟨?_, ?_⟩, mirrored.agrees⟩
    · intro other isInitial
      refine ⟨congrArg Nat.succ fresh, ?_⟩
      have isHead : (run.incoming name).head? = some other := isInitial
      rw [ColocatedRun.incoming, fresh, drop_zero, head?_eq_getElem?] at isHead
      exact isHead
    · intro _ _ initialized
      have isNone : (run.incoming name).head? = none := initialized
      rw [incoming] at isNone
      cases isNone
  | iterate name pendingSamples => exact mirrored.iterate allowed foreseen

theorem mirrored_start (config : Config) (nInitPolicyReplicas nInitRolloutReplicas : Nat)
    (fetcher : ControllerDataFetcher) :
    Mirrored config (ColocatedRun.start config nInitPolicyReplicas nInitRolloutReplicas
      fetcher) where
  regular := SetUp.regular (.setup ..)
  mirrors _ := Mirrors.start _ config
  agrees _ member := absurd member not_mem_nil

/-- In every run whose decisions can be made with the counters at hand, every decision agrees
with the command of its step. -/
theorem colocatedControllers_agree (config : ColocatedConfig)
    (nInitPolicyReplicas nInitRolloutReplicas : Nat) (fetcher : ControllerDataFetcher)
    (events : List ColocatedEvent)
    (run : (colocatedSystem config.config).IsRun (ColocatedRun.start config.config
      nInitPolicyReplicas nInitRolloutReplicas fetcher) events)
    (foreseen : (colocatedSystem config.config).StepsMeet (ColocatedRun.Foreseen config.config)
      (ColocatedRun.start config.config nInitPolicyReplicas nInitRolloutReplicas fetcher)
      events) :
    (colocatedSystem config.config).Throughout (ColocatedRun.Agrees config.config)
      (ColocatedRun.start config.config nInitPolicyReplicas nInitRolloutReplicas fetcher)
      events := by
  have mirrored : (colocatedSystem config.config).Throughout (Mirrored config.config)
      (ColocatedRun.start config.config nInitPolicyReplicas nInitRolloutReplicas fetcher)
      events :=
    EventSystem.throughout_of_stepsMeet
      (fun _ _ mirrored allowed meets => Mirrored.handle config mirrored allowed meets)
      (mirrored_start config.config nInitPolicyReplicas nInitRolloutReplicas fetcher) run
      foreseen
  exact mirrored.mono fun _ holds => holds.agrees

instance (config : Config) (call : ColocatedCall) : Decidable (call.Foreseen config) :=
  decidable_of_iff ((config.ckpt.saveFreqInEpoch = 0 ∨
      (call.controller.currentStep : Int) = call.controller.totalSteps) ∧
    (call.controller.initDataFetchCommand = none →
      config.ckpt.enableCheckpoint = true → ∀ command ∈ call.incoming.head?,
        ((call.controller.currentStep : Int) = call.controller.totalSteps ↔
            (call.controller.currentStep : Int) = command.totalSteps) ∨
          (config.ckpt.saveFreqInEpoch = 0 ∧
            call.controller.currentStep % config.ckpt.saveFreq = 0)))
    ⟨fun both => ⟨both.1, both.2⟩, fun foreseen => ⟨foreseen.countable, foreseen.sameEnd⟩⟩

instance (config : Config) (run : ColocatedRun) :
    (event : ColocatedEvent) → Decidable (run.Foreseen config event)
  | .remote _ | .initCommands _ => .isTrue trivial
  | .iterate name pendingSamples =>
    inferInstanceAs (Decidable ((run.call name pendingSamples).Foreseen config))

instance (config : Config) (run : ColocatedRun) (event : ColocatedEvent) :
    Decidable ((colocatedSystem config).Allowed run event) :=
  inferInstanceAs (Decidable (run.Allowed event))

def fourColocatedSamples (saveFreqInEpoch : Nat) : ColocatedConfig where
  config := { Config.small 4
      { trainDataloader := fun _ => [[0], [1], [2], [3]], valDataloader := []
        valDatasize := 0 } with
    mode := .colocated
    epoch := 4
    ckpt := { enableCheckpoint := true, saveFreqInEpoch := saveFreqInEpoch } }
  colocated := rfl
  fresh := rfl

def colocatedSteps : List ColocatedEvent :=
  [.remote (.registerPolicy (singleAtom 0) 0), .remote (.getBatchedPrompt 2 none none),
    .initCommands 0, .iterate 0 1, .remote (.trainAck 0 1 4 (some (0, 0))), .iterate 0 1]

def colocatedDeparture : List ColocatedEvent :=
  [.remote (.registerPolicy (singleAtom 0) 0), .remote (.registerPolicy (singleAtom 1) 1),
    .remote (.getBatchedPrompt 2 none none), .initCommands 0, .iterate 0 1,
    .remote (.unregister 1), .remote (.trainAck 0 1 2 (some (0, 0))), .iterate 0 1]

theorem colocatedControllers_agree_steps :
    (colocatedSystem (fourColocatedSamples 0).config).Throughout
      (ColocatedRun.Agrees (fourColocatedSamples 0).config)
      (ColocatedRun.start (fourColocatedSamples 0).config 1 1
        { trainDataloaderIter := [[0], [1], [2], [3]] }) colocatedSteps :=
  colocatedControllers_agree (fourColocatedSamples 0) 1 1
    { trainDataloaderIter := [[0], [1], [2], [3]] } colocatedSteps (by decide) (by decide)

theorem not_agrees_of_raised {config : Config} {start : ColocatedRun}
    {events : List ColocatedEvent} {exn : PyError}
    (raised : ((colocatedSystem config).after start events).calls.getLast?.map
      (fun call => (call.outcome config).raised) = some (some exn)) :
    ¬ (colocatedSystem config).Throughout (ColocatedRun.Agrees config) start events := by
  intro throughout
  obtain ⟨call, isLast, isRaised⟩ := Option.map_eq_some_iff.mp raised
  have agrees := throughout.finish call (mem_of_getLast? isLast)
  rw [agrees.raised_eq] at isRaised
  cases isRaised

/-- With checkpoints by epochs the first decision fails, for want of the attribute; with
checkpoints by steps a departure makes the worker expect the last step where there is none. -/
theorem not_colocatedControllers_agree :
    ((colocatedSystem (fourColocatedSamples 1).config).IsRun
        (ColocatedRun.start (fourColocatedSamples 1).config 1 1
          { trainDataloaderIter := [[0], [1], [2], [3]] }) (colocatedSteps.take 4) ∧
      ¬ (colocatedSystem (fourColocatedSamples 1).config).Throughout
        (ColocatedRun.Agrees (fourColocatedSamples 1).config)
        (ColocatedRun.start (fourColocatedSamples 1).config 1 1
          { trainDataloaderIter := [[0], [1], [2], [3]] }) (colocatedSteps.take 4)) ∧
    (colocatedSystem (fourColocatedSamples 0).config).IsRun
      (ColocatedRun.start (fourColocatedSamples 0).config 2 1
        { trainDataloaderIter := [[0], [1], [2], [3]] }) colocatedDeparture ∧
    ¬ (colocatedSystem (fourColocatedSamples 0).config).Throughout
      (ColocatedRun.Agrees (fourColocatedSamples 0).config)
      (ColocatedRun.start (fourColocatedSamples 0).config 2 1
        { trainDataloaderIter := [[0], [1], [2], [3]] }) colocatedDeparture := by
  refine ⟨⟨by decide, ?_⟩, by decide, ?_⟩
  · exact @not_agrees_of_raised _ _ _ .attributeError (by decide)
  · exact @not_agrees_of_raised _ _ _
      (.assertionError "Expected do_save True but got False") (by decide)

end CosmosRl.Worker
