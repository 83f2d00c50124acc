import CosmosRl.Foundation.Batching
import CosmosRl.Foundation.Strided
import CosmosRl.Dispatcher.PromptResume

/-!
`SFTPolicyWorker`: the training dataloader of a data-parallel rank, a resumed run's
position in it, and the main loop.

Samples are represented by their indices.  Validation, reports and the trap of signals do
not touch the batches that are trained on and are left out.
-/

namespace CosmosRl.Worker

open CosmosRl.Foundation CosmosRl.Dispatcher

structure SftTrainConfig where
  datasetLength : Nat
  dpWorldSize : Nat
  trainBatchPerReplica : Nat
  dataloaderDropLast : Bool := false
  epoch : Nat := 1
  maxNumSteps : Option Nat := none
  /-- Not positive in the source where it is zero here: then `save_freq` is used. -/
  saveFreqInEpoch : Nat := 0
  saveFreq : Nat := 20
  enableCheckpoint : Bool := true
  resume : Bool := true
  dpWorldSize_pos : 0 < dpWorldSize := by decide
  /-- Required by `DataLoader`. -/
  trainBatchPerReplica_pos : 0 < trainBatchPerReplica := by decide
  maxNumSteps_pos : ∀ steps, maxNumSteps = some steps → 0 < steps := by
    intro steps given
    cases given
  saveFreq_pos : saveFreqInEpoch = 0 → 0 < saveFreq := by decide

theorem unsetMaxNumSteps_pos : ∀ steps, (none : Option Nat) = some steps → 0 < steps := by
  intro steps given
  cases given

theorem defaultSaveFreq_pos : 0 = 0 → 0 < 20 := fun _ => Nat.succ_pos 19

section Sampler

variable (config : SftTrainConfig)

def SftTrainConfig.numSamples : Nat := mathCeil config.datasetLength config.dpWorldSize

/-- `total_size`: as many for every rank. -/
def SftTrainConfig.totalSize : Nat := config.numSamples * config.dpWorldSize

def paddedIndices (totalSize : Nat) (indices : List Nat) : List Nat :=
  let paddingSize := totalSize - indices.length
  if paddingSize ≤ indices.length then indices ++ indices.take paddingSize
  else indices ++
    ((List.replicate (mathCeil paddingSize indices.length) indices).flatten).take paddingSize

/-- The sampler of one rank.  `epochOrder` is the order of the dataset in an epoch:
`range`, or a random permutation seeded with `seed + epoch`. -/
structure DistributedSampler where
  rank : Nat
  epochOrder : Nat → List Nat
  rank_lt : rank < config.dpWorldSize
  epochOrder_perm : ∀ epoch, (epochOrder epoch).Perm (List.range config.datasetLength)

variable {config}

/-- `DistributedSampler.__iter__` after `set_epoch`: every rank takes its turn. -/
def DistributedSampler.order (self : DistributedSampler config) (epoch : Nat) : List Nat :=
  (stridedRange self.rank config.totalSize config.dpWorldSize).map fun position =>
    (paddedIndices config.totalSize (self.epochOrder epoch)).getD position 0

theorem length_stridedRange_mul {start step rounds : Nat} (receiver : start < step) :
    (stridedRange start (rounds * step) step).length = rounds := by
  rw [stridedRange, List.length_range']
  cases rounds with
  | zero => exact Nat.div_eq_of_lt (by omega)
  | succ rounds =>
    have split : (rounds + 1) * step - start + step - 1 =
        (2 * step - start - 1) + rounds * step := by
      rw [Nat.succ_mul]
      omega
    rw [split, Nat.add_mul_div_right _ _ (by omega)]
    have once : (2 * step - start - 1) / step = 1 := Nat.div_eq_of_lt_le (by omega) (by omega)
    rw [once, Nat.add_comm]

theorem DistributedSampler.length_order (self : DistributedSampler config) (epoch : Nat) :
    (self.order epoch).length = config.numSamples := by
  rw [order, List.length_map, SftTrainConfig.totalSize, length_stridedRange_mul self.rank_lt]

def DistributedSampler.indexSampler (self : DistributedSampler config) :
    SizedSampler config.numSamples where
  order := self.order
  length_order := self.length_order

end Sampler

/-- `SkippingSampler.__len__` -/
def skippingSamplerLen (samples : Nat) (self : SkippingSampler) : Nat :=
  if self.usedOnce then samples else samples - self.initialSkip

/-- `len(self.train_sampler)` -/
def trainSamplerLen (samples : Nat) : TrainSampler → Nat
  | .plain _ => samples
  | .skipping sampler => skippingSamplerLen samples sampler

section BuildRunner

variable (config : SftTrainConfig)

/-- `len(train_data_loader)` -/
def trainDataLoaderLen (sampler : TrainSampler) : Nat :=
  batchCount config.trainBatchPerReplica config.dataloaderDropLast
    (trainSamplerLen config.numSamples sampler)

/-- The batches of one iteration over `train_data_loader`. -/
def trainDataLoaderBatches (indices : List Nat) : List (List Nat) :=
  inBatches config.trainBatchPerReplica config.dataloaderDropLast indices

/-- What `build_runner` sets up for the main loop. -/
structure SftRunner (config : SftTrainConfig) where
  startEpoch : Nat := 0
  epoch : Nat
  trainSampler : TrainSampler
  trainStep : Nat
  totalSteps : Nat
  saveFreq : Nat

/-- The sampler and the first epoch of a run.  The indices are no lists, so that
`skip_samples` is divided by one. -/
def resumePosition (sampler : SizedSampler config.numSamples) (trainStep : Nat) :
    Except PyError (TrainSampler × Nat) :=
  if config.resume ∧ 0 < trainStep then
    let totalStepsPerEpoch := trainDataLoaderLen config (.plain sampler)
    if totalStepsPerEpoch = 0 then .error .zeroDivisionError
    else
      let dataLoaderBias := trainStep % totalStepsPerEpoch * config.trainBatchPerReplica
      .ok (.skipping { base := sampler, initialSkip := dataLoaderBias },
        trainStep / totalStepsPerEpoch)
  else .ok (.plain sampler, 0)

/-- `total_steps` -/
def sftTotalSteps (ckptTotalSteps loaderLen : Nat) : Nat :=
  let stepsByDataset :=
    if 0 < ckptTotalSteps then ckptTotalSteps else loaderLen * config.epoch
  match config.maxNumSteps with
  | some maxNumSteps => min stepsByDataset maxNumSteps
  | none => stepsByDataset

/-- `_save_freq` -/
def sftSaveFreq (loaderLen : Nat) : Nat :=
  if 0 < config.saveFreqInEpoch then config.saveFreqInEpoch * loaderLen / config.dpWorldSize
  else config.saveFreq

/-- `build_runner` with the steps that `load_model` found in a checkpoint, zero without. -/
def buildRunner (sampler : SizedSampler config.numSamples)
    (ckptTotalSteps trainStep : Nat) : Except PyError (SftRunner config) :=
  (resumePosition config sampler trainStep).map fun position =>
    let loaderLen := trainDataLoaderLen config position.1
    { startEpoch := position.2
      epoch := config.epoch
      trainSampler := position.1
      trainStep := trainStep
      totalSteps := sftTotalSteps config ckptTotalSteps loaderLen
      saveFreq := sftSaveFreq config loaderLen }

end BuildRunner

structure SftRun where
  trainStep : Nat
  trained : List (List Nat) := []
  saved : List Nat := []
  stopTraining : Bool := false
  error : Option PyError := none
  deriving DecidableEq, Repr

def SftRun.Halted (run : SftRun) : Prop := run.stopTraining = true ∨ run.error ≠ none

instance (run : SftRun) : Decidable run.Halted :=
  inferInstanceAs (Decidable (_ ∨ _))

section MainLoop

variable {config : SftTrainConfig} (runner : SftRunner config)

def saveCheckpoint (config : SftTrainConfig) (run : SftRun) : SftRun :=
  if config.enableCheckpoint then { run with saved := run.saved ++ [run.trainStep] } else run

/-- `SFTTrainer.checkpointing` within the loop. -/
def checkpointing (run : SftRun) : SftRun :=
  if runner.saveFreq = 0 then { run with error := some .zeroDivisionError }
  else if run.trainStep % runner.saveFreq = 0 ∧ 0 < run.trainStep then
    saveCheckpoint config run
  else run

def trainBatch (batch : List Nat) (run : SftRun) : SftRun :=
  let next := { run with trained := run.trained ++ [batch], trainStep := run.trainStep + 1 }
  if runner.totalSteps ≤ next.trainStep then { next with stopTraining := true }
  else checkpointing runner next

def trainBatches : List (List Nat) → SftRun → SftRun
  | [], run => run
  | batch :: rest, run =>
    let next := trainBatch runner batch run
    if next.Halted then next else trainBatches rest next

/-- The loop over the epochs, from `curEpoch` on. -/
def trainEpochs : Nat → Nat → TrainSampler → SftRun → SftRun
  | 0, _, _, run => run
  | left + 1, curEpoch, sampler, run =>
    let iterated := sampler.iter curEpoch
    let next := trainBatches runner (trainDataLoaderBatches config iterated.1) run
    if next.Halted then next else trainEpochs left (curEpoch + 1) iterated.2 next

def finalCheckpointing (config : SftTrainConfig) (run : SftRun) : SftRun :=
  match run.error with
  | some _ => run
  | none => saveCheckpoint config run

/-- `SFTPolicyWorker.main_loop` -/
def mainLoop : SftRun :=
  finalCheckpointing config <|
    trainEpochs runner (runner.epoch - runner.startEpoch) runner.startEpoch
      runner.trainSampler { trainStep := runner.trainStep }

end MainLoop

end CosmosRl.Worker
