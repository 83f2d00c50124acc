import Mathlib.Algebra.Order.Ring.Int

/-!
The part of the configuration that the controller reads.

The fields carry the restrictions that `check_params_value` establishes when a
configuration is loaded, together with the positivity of every number the
controller divides by.
-/

namespace CosmosRl.Dispatcher

inductive Mode where
  | disaggregated
  | colocated
  | colocatedSeparated
  deriving DecidableEq, Repr

inductive Variant where
  | grpo
  | dapo
  | gspo
  deriving DecidableEq, Repr

structure ValidationConfig where
  enable : Bool := false
  valBeforeTrain : Bool := false
  freq : Nat := 20
  nGeneration : Nat := 1
  deriving DecidableEq, Repr

structure CheckpointConfig where
  enableCheckpoint : Bool := false
  saveFreq : Nat := 20
  saveFreqInEpoch : Nat := 0
  deriving DecidableEq, Repr

/-- What the loaders deliver: for every epoch the batches of prompt indices in
the order of the training dataloader, and the batches of one validation pass. -/
structure Dataset where
  trainDataloader : Nat → List (List Nat)
  valDataloader : List (List Nat)
  valDatasize : Nat

structure Config where
  mode : Mode := .disaggregated
  trainBatchPerReplica : Nat := 8
  maxNumSteps : Option Nat := none
  syncWeightInterval : Nat := 1
  resume : Bool := false
  epoch : Nat := 1
  variant : Variant := .grpo
  onPolicy : Bool := false
  allowedOutdatedSteps : Nat := 4
  outdatedRolloutFetchBatchSize : Nat := 0
  maxRetryForOnPolicy : Int := -1
  dataDispatchAsRankInMesh : Bool := false
  nGeneration : Nat := 16
  rolloutBatchSize : Nat := 1
  valBatchSize : Nat := 1
  loggerEnabled : Bool := true
  validation : ValidationConfig := {}
  ckpt : CheckpointConfig := {}
  samplesPerEpoch : Nat := 1
  dataset : Dataset
  trainBatch_pos : 0 < trainBatchPerReplica := by decide
  nGeneration_pos : 0 < nGeneration := by decide
  rolloutBatch_pos : 0 < rolloutBatchSize := by decide
  valBatch_pos : 0 < valBatchSize := by decide
  valFreq_pos : 0 < validation.freq := by decide
  syncWeightInterval_pos : 0 < syncWeightInterval := by decide
  samplesPerEpoch_pos : 0 < samplesPerEpoch := by decide
  /-- `allowed_outdated_steps` is raised until it covers the sync interval. -/
  outdated_covers_interval : syncWeightInterval ≤ allowedOutdatedSteps + 1 := by decide
  /-- `on_policy` requires a sync after every step and sets
  `allowed_outdated_steps` to zero. -/
  onPolicy_synchronous : onPolicy = true →
    syncWeightInterval = 1 ∧ allowedOutdatedSteps = 0 := by decide

def Config.small (allowedOutdatedSteps : Nat) (dataset : Dataset) : Config where
  trainBatchPerReplica := 1
  allowedOutdatedSteps := allowedOutdatedSteps
  nGeneration := 1
  dataset := dataset
  outdated_covers_interval := Nat.le_add_left 1 allowedOutdatedSteps
  onPolicy_synchronous := by simp

end CosmosRl.Dispatcher
