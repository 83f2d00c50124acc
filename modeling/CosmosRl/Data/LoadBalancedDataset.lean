import CosmosRl.Foundation.Generator
import CosmosRl.Foundation.Strided
import Mathlib.Data.List.Rotate
import Mathlib.Algebra.Order.Ring.Nat

/-!
`LoadBalancedDataset`: batches of samples of similar length, built from a pool.

A rank's loader worker walks its strided shard of the dataset in a shuffled
order, keeps up to `pool_size` samples in a pool and greedily forms batches
within the token budget.  A sample is identified by the draw that produced it,
the dataset index together with the epoch it was drawn in.
-/

namespace CosmosRl.Data

open CosmosRl.Foundation

/-- One access `base_dataset[idx]` of an epoch. -/
structure Draw where
  epoch : Nat
  index : Nat
  deriving DecidableEq, Repr

/-- `random.Random(seed).shuffle`, which puts a list into an order of its own. -/
structure SeededShuffle where
  shuffle : Int → List Nat → List Nat
  perm : ∀ seed indices, (shuffle seed indices).Perm indices

/-- The underlying dataset: its length, and `get_sample_length` of what an access
returns. -/
structure BaseDataset where
  size : Nat
  sampleLength : Draw → Nat

inductive BatchingStrategy where
  | preferFirst
  | preferClosest
  deriving DecidableEq, Repr

/-- The constructor's arguments.  `max_tokens_len` falls back to the token budget
when it is missing or zero. -/
structure LoadBalancedConfig where
  poolSize : Nat
  maxTokensForBatch : Int
  batchingStrategy : BatchingStrategy
  maxTokensLenArg : Option Int
  seqPackingEnabled : Bool
  seed : Int
  dpWorldSize : Nat
  accumulateSteps : Nat
  accumulateSteps_pos : 1 ≤ accumulateSteps
  infiniteLoop : Bool

def LoadBalancedConfig.maxTokensLen (config : LoadBalancedConfig) : Int :=
  match config.maxTokensLenArg with
  | none => config.maxTokensForBatch
  | some length => if length = 0 then config.maxTokensForBatch else length

/-- What `get_worker_info` says inside a loader worker; without workers the main
process is number 0 of 1. -/
structure WorkerInfo where
  dpRank : Nat
  workerId : Nat
  numWorkers : Nat
  deriving DecidableEq, Repr

def loaderWorkers (dpRank numWorkers : Nat) : List WorkerInfo :=
  if numWorkers = 0 then [⟨dpRank, 0, 1⟩]
  else (List.range numWorkers).map fun workerId => ⟨dpRank, workerId, numWorkers⟩

section ShardedIterableDataset

variable (shuffling : SeededShuffle) (dataset : BaseDataset)
  (config : LoadBalancedConfig) (worker : WorkerInfo)

def shardId : Nat := worker.dpRank * worker.numWorkers + worker.workerId

def totalShards : Nat := config.dpWorldSize * worker.numWorkers

/-- `ShardedIterableDataset.__iter__` of an epoch: the indices
`range(shard_id, total_samples, total_shards)`, shuffled.  The generator reads the epoch
at its first request; nobody sets another one in between. -/
def shardedIter (epoch : Nat) : List Draw :=
  (shuffling.shuffle (config.seed + shardId worker + epoch * 1000)
      (stridedRange (shardId worker) dataset.size (totalShards config worker))).map
    fun idx => ⟨epoch, idx⟩

end ShardedIterableDataset

/-- The part of a `LoadBalancedDataset` object that batching works on: the pool, the
walk of the current epoch and the epoch. -/
structure SamplePool where
  pool : List Draw
  datasetIterator : List Draw
  currentEpoch : Nat
  deriving DecidableEq, Repr

/-- A `LoadBalancedDataset` object, with the batches that its next iteration skips. -/
structure LoadBalancedDataset extends SamplePool where
  skipBatches : Nat
  deriving DecidableEq, Repr

namespace SamplePool

variable (shuffling : SeededShuffle) (dataset : BaseDataset)
  (config : LoadBalancedConfig) (worker : WorkerInfo)

/-- `_get_next_sample`. -/
def getNextSample (self : SamplePool) : Option Draw × SamplePool :=
  match self.datasetIterator with
  | [] => (none, self)
  | sample :: rest => (some sample, { self with datasetIterator := rest })

/-- `_recreate_iterator`: the next epoch's walk over the shard. -/
def recreateIterator (self : SamplePool) : SamplePool :=
  { self with
    currentEpoch := self.currentEpoch + 1
    datasetIterator := shardedIter shuffling dataset config worker (self.currentEpoch + 1) }

def appendToPool (sample : Draw) (self : SamplePool) : SamplePool :=
  { self with pool := self.pool ++ [sample] }

/-- The loop of `_fill_pool`, with the number of samples the pool still lacks. -/
def fillPoolBy : Nat → SamplePool → SamplePool
  | 0, self => self
  | missing + 1, self =>
    match self.getNextSample with
    | (some sample, next) => fillPoolBy missing (next.appendToPool sample)
    | (none, exhausted) =>
      if config.infiniteLoop then
        match (exhausted.recreateIterator shuffling dataset config worker).getNextSample with
        | (some sample, next) => fillPoolBy missing (next.appendToPool sample)
        | (none, empty) => empty
      else exhausted

/-- `_fill_pool`. -/
def fillPool (self : SamplePool) : SamplePool :=
  self.fillPoolBy shuffling dataset config worker (config.poolSize - self.pool.length)

end SamplePool

section BestFit

variable (dataset : BaseDataset) (config : LoadBalancedConfig)

structure Candidate where
  idx : Nat
  newTotalTokens : Nat
  lengthDiff : Nat

def scanCandidates (curMax numChosen : Nat)
    (better : Candidate → Candidate → Bool) :
    Nat → List Draw → Option Candidate → Option Candidate
  | _, [], best => best
  | idx, cand :: rest, best =>
    let newTotalTokens := max curMax (dataset.sampleLength cand) * (numChosen + 1)
    let candidate : Candidate :=
      ⟨idx, newTotalTokens, ((dataset.sampleLength cand : Int) - curMax).natAbs⟩
    let replaces := (newTotalTokens : Int) ≤ config.maxTokensForBatch ∧
      (match best with
        | none => true
        | some current => better candidate current) = true
    scanCandidates curMax numChosen better (idx + 1) rest
      (if replaces then some candidate else best)

/-- `_find_best_candidate_prefer_first`. -/
def findBestCandidatePreferFirst (curMax numChosen : Nat) (pool : List Draw) : Option Nat :=
  (scanCandidates dataset config curMax numChosen
    (fun candidate best => decide (candidate.newTotalTokens < best.newTotalTokens))
    0 pool none).map (·.idx)

/-- `_find_best_candidate_prefer_closest`. -/
def findBestCandidatePreferClosest (curMax numChosen : Nat) (pool : List Draw) : Option Nat :=
  (scanCandidates dataset config curMax numChosen
    (fun candidate best => decide (candidate.newTotalTokens < best.newTotalTokens ∨
      (candidate.newTotalTokens = best.newTotalTokens ∧
        candidate.lengthDiff < best.lengthDiff)))
    0 pool none).map (·.idx)

/-- `_find_best_candidate_seq_packing`: the first sample that still fits. -/
def findBestCandidateSeqPacking (chosen pool : List Draw) : Option Nat :=
  pool.findIdx? fun cand =>
    decide ((((chosen.map dataset.sampleLength).sum + dataset.sampleLength cand : Nat) : Int) ≤
      config.maxTokensForBatch)

/-- `_find_best_candidate`. -/
def findBestCandidate (curMax : Nat) (chosen pool : List Draw) : Option Nat :=
  if config.seqPackingEnabled then findBestCandidateSeqPacking dataset config chosen pool
  else
    match config.batchingStrategy with
    | .preferClosest => findBestCandidatePreferClosest dataset config curMax chosen.length pool
    | .preferFirst => findBestCandidatePreferFirst dataset config curMax chosen.length pool

/-- `_remove_from_pool`: from either end directly, else by rotating the deque and
back.  Nothing is returned where the deque would raise. -/
def removeFromPool (idx : Nat) (pool : List Draw) : Option (Draw × List Draw) :=
  if idx = 0 then
    match pool with
    | [] => none
    | item :: rest => some (item, rest)
  else if idx + 1 = pool.length then
    pool.getLast?.map fun item => (item, pool.dropLast)
  else
    match pool.rotate idx with
    | [] => none
    | item :: rest => some (item, rest.rotateRight idx)

/-- The greedy loop of `_best_fit_batch`.  Every round takes one sample out of the
pool, whose length therefore bounds the rounds. -/
def growBatch : Nat → Nat → List Draw → List Draw → List Draw × List Draw
  | 0, _, chosen, pool => (chosen, pool)
  | rounds + 1, curMax, chosen, pool =>
    match findBestCandidate dataset config curMax chosen pool with
    | none => (chosen, pool)
    | some idx =>
      match removeFromPool idx pool with
      | none => (chosen, pool)
      | some (cand, rest) =>
        growBatch rounds (max curMax (dataset.sampleLength cand))
          (chosen ++ [cand]) rest

end BestFit

namespace SamplePool

variable (shuffling : SeededShuffle) (dataset : BaseDataset)
  (config : LoadBalancedConfig) (worker : WorkerInfo)

/-- `_best_fit_batch`; no batch is its `StopIteration`. -/
def bestFitBatch (self : SamplePool) : Option (List Draw) × SamplePool :=
  let filled := self.fillPool shuffling dataset config worker
  match filled.pool with
  | [] => (none, filled)
  | seed :: rest =>
    let seedTokenLen := dataset.sampleLength seed
    if config.maxTokensLen ≤ seedTokenLen ∨ config.maxTokensForBatch ≤ seedTokenLen then
      (some [seed], { filled with pool := rest })
    else
      match growBatch dataset config rest.length seedTokenLen [seed] rest with
      | (chosen, pool) => (some chosen, { filled with pool := pool })

/-- The loop of `_build_accumulated_batches`, with the steps still to go. -/
def buildBatches : Nat → SamplePool → List (List Draw) × SamplePool
  | 0, self => ([], self)
  | steps + 1, self =>
    match self.bestFitBatch shuffling dataset config worker with
    | (some batch, next) =>
      match buildBatches steps next with
      | (batches, last) => (batch :: batches, last)
    | (none, stopped) =>
      let refilled := stopped.fillPool shuffling dataset config worker
      if refilled.pool = [] then ([], refilled)
      else
        match refilled.bestFitBatch shuffling dataset config worker with
        | (some batch, next) =>
          match buildBatches steps next with
          | (batches, last) => (batch :: batches, last)
        | (none, still) => ([], still)

/-- `_build_accumulated_batches`. -/
def buildAccumulatedBatches (self : SamplePool) :
    List (List Draw) × SamplePool :=
  self.buildBatches shuffling dataset config worker config.accumulateSteps

/-- One round of the loop at the end of `__iter__`: the accumulated batches to be
yielded, or the end of the iteration. -/
def nextAccumulatedBatches (self : SamplePool) :
    Option (List (List Draw)) × SamplePool :=
  match self.buildAccumulatedBatches shuffling dataset config worker with
  | ([], exhausted) =>
    if config.infiniteLoop then
      match (exhausted.recreateIterator shuffling dataset config worker).buildAccumulatedBatches
          shuffling dataset config worker with
      | ([], empty) => (none, empty)
      | (batch :: batches, next) => (some (batch :: batches), next)
    else (none, exhausted)
  | (batch :: batches, next) => (some (batch :: batches), next)

def iteration : Generator SamplePool (List (List Draw)) :=
  ⟨fun self => self.nextAccumulatedBatches shuffling dataset config worker⟩

end SamplePool

namespace LoadBalancedDataset

variable (shuffling : SeededShuffle) (dataset : BaseDataset)
  (config : LoadBalancedConfig) (worker : WorkerInfo)

def restarted (self : LoadBalancedDataset) : SamplePool where
  pool := []
  datasetIterator := shardedIter shuffling dataset config worker self.currentEpoch
  currentEpoch := self.currentEpoch

/-- `__iter__` up to its first yield.  The loop that skips builds batches and goes on
at the end of the data just as the one that yields. -/
def startIteration (self : LoadBalancedDataset) : LoadBalancedDataset where
  toSamplePool := (SamplePool.iteration shuffling dataset config worker).skip
    self.skipBatches (self.restarted shuffling dataset config worker)
  skipBatches := 0

/-- `set_epoch`. -/
def setEpoch (epoch : Nat) (self : LoadBalancedDataset) : LoadBalancedDataset :=
  { self with currentEpoch := epoch }

/-- `skip_batches`. -/
def setSkipBatches (numBatches : Nat) (self : LoadBalancedDataset) : LoadBalancedDataset :=
  { self with skipBatches := numBatches }

def new : LoadBalancedDataset := ⟨⟨[], [], 0⟩, 0⟩

end LoadBalancedDataset

end CosmosRl.Data
