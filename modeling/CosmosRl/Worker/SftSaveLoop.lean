import Mathlib.Data.Finset.Card
import Mathlib.Data.List.Chain
import CosmosRl.Worker.MultiReplicaSFTPolicyWorker

/-!
The main loop of `MultiReplicaSFTPolicyWorker` with its checkpoints.

The decision about a checkpoint is made at the end of a round and carried out after the next
request.  When epochs count, it is made from a flag of the request, and the variable that
holds it is only assigned when that flag is up.

The replica followed is the master replica.  An ack that the controller does not take ends
the run.  The epochs that the answers tell, and the rounds, are recorded beside the loop.
-/

namespace CosmosRl.Worker

open CosmosRl.Foundation CosmosRl.Dispatcher

structure SavingConfig where
  config : SftConfig
  enabled : config.base.ckpt.enableCheckpoint = true
  frequency : 0 < config.base.ckpt.saveFreqInEpoch ∨ 0 < config.base.ckpt.saveFreq

/-- A round of the loop that trained and went on: the step it reached, and how many epochs
were finished with the batch before and with its own. -/
structure SaveRound where
  trainStep : Nat
  before : Int
  epoch : Int
  /-- The last epoch, up to this round, that a request for a batch was told after another. -/
  announced : Option Int
  deriving DecidableEq, Repr

/-- How many checkpoints the round calls for: one for every finished epoch that counts, or
one for a step that counts. -/
def SaveRound.owed (ckpt : CheckpointConfig) (round : SaveRound) : Nat :=
  if 0 < ckpt.saveFreqInEpoch then
    ((Finset.range (round.epoch - round.before).toNat).filter fun later : Nat =>
      (ckpt.saveFreqInEpoch : Int) ∣ round.before + 1 + later).card
  else if ckpt.saveFreq ∣ round.trainStep then 1
  else 0

/-- By how much the finished epochs rise, in whole multiples of the frequency. -/
def SaveRound.rise (ckpt : CheckpointConfig) (round : SaveRound) : Int :=
  round.epoch / ckpt.saveFreqInEpoch - round.before / ckpt.saveFreqInEpoch

/-- The epochs of the round fit the one announced last: they rise by one multiple if its number
counts, and by none if not. -/
def SaveRound.Agrees (ckpt : CheckpointConfig) (round : SaveRound) : Prop :=
  ∀ announced ∈ round.announced,
    if (ckpt.saveFreqInEpoch : Int) ∣ announced then round.rise ckpt = 1
    else round.rise ckpt ≤ 0

instance (ckpt : CheckpointConfig) (round : SaveRound) : Decidable (round.Agrees ckpt) :=
  inferInstanceAs (Decidable (∀ announced ∈ round.announced,
    if (ckpt.saveFreqInEpoch : Int) ∣ announced then round.rise ckpt = 1
    else round.rise ckpt ≤ 0))

/-- The epoch of the batch is the one announced last.  It comes next after the one before, or
is that one again if its number does not count. -/
structure SaveRound.Successive (ckpt : CheckpointConfig) (round : SaveRound) : Prop where
  announced_eq : round.announced = some round.epoch
  epoch_eq : round.epoch = round.before + 1 ∨
    round.epoch = round.before ∧ ¬ (ckpt.saveFreqInEpoch : Int) ∣ round.epoch

structure SaveLoop where
  worker : SftWorker
  /-- `self.do_save`. -/
  doSave : Bool := false
  /-- The local `do_save`, `none` while it is unbound. -/
  localDoSave : Option Bool := none
  newEpoch : Bool := false
  /-- The local was read while it was unbound. -/
  unboundLocal : Bool := false
  /-- The steps of the checkpoints taken in the loop. -/
  saves : List Nat := []
  /-- The epoch of the last answer with prompts for the rank. -/
  told : Option Int := none
  /-- The last one that a request for a batch was told after another. -/
  announced : Option Int := none
  /-- The finished epochs of the last round. -/
  lastEpoch : Int
  /-- The rounds after which a request has succeeded, and the round after them. -/
  settled : List SaveRound := []
  pending : Option SaveRound := none

inductive SaveEvent where
  /-- A request for prompts is answered. -/
  | request (answer : List SftPayload × Bool)
  | completeStep
  | postAck

variable (config : SftConfig)

def epochTold (name : ReplicaName) (answer : List SftPayload × Bool) : Option Int :=
  (rankPrompts config name answer.1).map fun prompts =>
    (prompts.map SftPayload.epoch).foldl max 0

def SftWorker.requestSize (worker : SftWorker) : Nat :=
  (if worker.isValidating then config.valBatchSize else config.base.trainBatchPerReplica) /
    config.dpWorldSize

namespace SaveLoop

def checkpointing (trainStep : Option Nat) (loop : SaveLoop) : SaveLoop :=
  { loop with
    saves :=
      if loop.doSave && config.base.ckpt.enableCheckpoint then loop.saves ++ trainStep.toList
      else loop.saves
    settled := loop.settled ++ loop.pending.toList
    pending := none }

/-- The local `do_save` at the end of a round. -/
def decideSave (trainStep : Nat) (loop : SaveLoop) : Option Bool :=
  if 0 < config.base.ckpt.saveFreqInEpoch then
    if loop.newEpoch then
      some (decide (loop.worker.currentEpoch.getD 0 % config.base.ckpt.saveFreqInEpoch = 0))
    else loop.localDoSave
  else
    some (decide (trainStep % config.base.ckpt.saveFreq = 0) && decide (0 < trainStep))

def round (trainStep : Nat) (loop : SaveLoop) : SaveRound where
  trainStep := trainStep
  before := loop.lastEpoch
  epoch := loop.told.getD loop.lastEpoch
  announced := loop.announced

def endRound (isEnd : Bool) (loop : SaveLoop) : SaveLoop :=
  let ended := { loop with worker := loop.worker.endRound config isEnd }
  match loop.worker.trainStep with
  | none => ended
  | some trainStep =>
    if decide (loop.worker.totalSteps ≤ trainStep) || isEnd then ended
    else
      match loop.decideSave config trainStep with
      | none =>
        { loop with
          worker := loop.worker.crash
          unboundLocal := true
          pending := some (loop.round trainStep) }
      | some doSave =>
        { ended with
          doSave := doSave
          localDoSave := some doSave
          lastEpoch := (loop.round trainStep).epoch
          pending := some (loop.round trainStep) }

def trainingFetched (isEnd : Bool) (loop : SaveLoop) : SaveLoop :=
  if config.base.trainBatchPerReplica % config.dpWorldSize = 0 ∧
      ¬config.base.trainBatchPerReplica / config.dpWorldSize ≤ loop.worker.dataQueue then
    loop.endRound config isEnd
  else { loop with worker := loop.worker.trainingFetched config isEnd }

def announcedAfter (told : Option Int) (loop : SaveLoop) : Option Int :=
  if loop.told.isSome && decide (told ≠ loop.told) then told else loop.announced

/-- A request for a training batch has succeeded. -/
def answered (worker : SftWorker) (told : Option Int) (loop : SaveLoop) : SaveLoop :=
  { loop with
    worker := worker
    newEpoch := loop.worker.currentEpoch.isSome &&
      decide (worker.currentEpoch ≠ loop.worker.currentEpoch)
    told := told
    announced := loop.announcedAfter told }

def request (name : ReplicaName) (answer : List SftPayload × Bool) (loop : SaveLoop) :
    SaveLoop :=
  if loop.worker.dataQueue = 0 then
    let requested := requestNewPrompts config name (loop.worker.requestSize config)
      loop.worker.isValidating answer loop.worker
    let told := (epochTold config name answer).or loop.told
    if loop.worker.isValidating then
      { loop with worker := SftWorker.fetched config answer.2 requested, told := told }
    else
      match requested.raised with
      | some _ => { loop with worker := requested.state.crash }
      | none =>
        (((loop.answered requested.state told).checkpointing config
          requested.state.trainStep).trainingFetched config answer.2)
  else { loop with worker := loop.worker.crash }

def postAck (loop : SaveLoop) : SaveLoop :=
  match loop.worker.phase with
  | .postingAck isEnd =>
    { loop with worker.ackedSteps := loop.worker.ackedSteps + 1 }.endRound config isEnd
  | _ => { loop with worker := loop.worker.acknowledged config }

def handle (name : ReplicaName) (loop : SaveLoop) : SaveEvent → SaveLoop
  | .request answer => loop.request config name answer
  | .completeStep => { loop with worker := loop.worker.stepped }
  | .postAck => loop.postAck config

def Allowed (loop : SaveLoop) : SaveEvent → Prop
  | .request _ => loop.worker.isValidating = true ∨ loop.worker.phase = .fetching
  | .completeStep => ∃ isEnd ∈ [true, false], loop.worker.phase = .training isEnd
  | .postAck => loop.worker.postsValidation = true ∨
      ∃ isEnd ∈ [true, false], loop.worker.phase = .postingAck isEnd

def start (loadedTrainStep : Option Nat) (totalSteps startEpoch : Int) : SaveLoop where
  worker := SftWorker.validate config false
    { loadedTrainStep := loadedTrainStep, totalSteps := totalSteps }
  lastEpoch := startEpoch

def rounds (loop : SaveLoop) : List SaveRound := loop.settled ++ loop.pending.toList

/-- Every decision that was read had been computed, and the checkpoints are those that the
rounds call for, in their order and at their steps. -/
structure Cadence (loop : SaveLoop) : Prop where
  computed : loop.unboundLocal = false
  saves_eq : loop.saves = loop.settled.flatMap fun round =>
    List.replicate (round.owed config.base.ckpt) round.trainStep
  /-- Every step but the last has its round. -/
  consecutive : (loop.rounds.map SaveRound.trainStep).IsChain fun step next => next = step + 1
  /-- Nothing is left to be carried out when the loop has ended. -/
  settledAtEnd : loop.worker.phase = .finished → loop.pending = none

/-- What the answers must have told when epochs count.  At the end of a first round that goes on
a request for a batch must have been told another epoch than the one known, which only a
validation before the training can have told.  And the epochs of every round after which a
request succeeds must fit the epoch announced last. -/
structure EpochsAgree (loop : SaveLoop) : Prop where
  announced : 0 < config.base.ckpt.saveFreqInEpoch →
    ∀ round ∈ loop.rounds, round.announced ≠ none
  agrees : 0 < config.base.ckpt.saveFreqInEpoch →
    ∀ round ∈ loop.settled, round.Agrees config.base.ckpt

end SaveLoop

instance decidableSaveAllowed (loop : SaveLoop) :
    (event : SaveEvent) → Decidable (loop.Allowed event)
  | .request _ => inferInstanceAs (Decidable (_ ∨ _))
  | .completeStep => inferInstanceAs (Decidable (∃ isEnd ∈ [true, false], _))
  | .postAck => inferInstanceAs (Decidable (_ ∨ ∃ isEnd ∈ [true, false], _))

def saveSystem (name : ReplicaName) : EventSystem SaveLoop SaveEvent where
  handle := SaveLoop.handle config name
  Allowed := SaveLoop.Allowed

end CosmosRl.Worker
