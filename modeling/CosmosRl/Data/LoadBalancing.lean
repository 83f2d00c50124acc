import CosmosRl.Data.PoolConservation

/-!
Load-balanced batching over all ranks and loader workers neither loses nor repeats
a sample.

For one worker, everything drawn is emitted, in the pool or still in the walk of
the epoch, each draw once, and no draw waits forever because the oldest sample
seeds every batch.  The shards of all workers together are the dataset.
-/

namespace CosmosRl.Data

open CosmosRl.Foundation List

namespace SamplePool

variable {shuffling : SeededShuffle} {dataset : BaseDataset}
  {config : LoadBalancedConfig} {worker : WorkerInfo}

variable (shuffling dataset config worker) in
def emittedSamples (requests : Nat) (self : SamplePool) : List Draw :=
  ((iteration shuffling dataset config worker).outputs requests self).flatten.flatten

variable (shuffling dataset config worker) in
def afterRequests (requests : Nat) (self : SamplePool) : SamplePool :=
  (iteration shuffling dataset config worker).skip requests self

variable (shuffling dataset config worker) in
theorem iteration_settles : (iteration shuffling dataset config worker).Settles := by
  intro self stopped
  rcases nextAccumulatedBatches_cases shuffling dataset config worker self with
    ⟨dried, asked, dry, _⟩ | ⟨batches, next, asked, _⟩
  · obtain ⟨next, again, _⟩ := dry.nextAccumulatedBatches
    simp only [iteration, asked, again]
  · simp [iteration, asked] at stopped

variable (shuffling dataset worker) in
theorem emittedSamples_emits (space : 0 < config.poolSize) (requests : Nat) (self : SamplePool) :
    Emits shuffling dataset config worker
      (self.emittedSamples shuffling dataset config worker requests) self
      (self.afterRequests shuffling dataset config worker requests) := by
  induction requests generalizing self with
  | zero => exact .refl self
  | succ requests ih =>
    rcases nextAccumulatedBatches_cases shuffling dataset config worker self with
      ⟨dried, asked, _, emits⟩ | ⟨batches, next, asked, _, _, serves⟩
    · simpa [emittedSamples, afterRequests, Generator.outputs, Generator.skip, iteration,
        asked] using emits space
    · have later := serves.toEmits.trans (ih next)
      simpa [emittedSamples, afterRequests, Generator.outputs, Generator.skip, iteration,
        asked] using later

theorem emittedSamples_add (first second : Nat) (self : SamplePool) :
    self.emittedSamples shuffling dataset config worker (first + second) =
      self.emittedSamples shuffling dataset config worker first ++
        (self.afterRequests shuffling dataset config worker first).emittedSamples
          shuffling dataset config worker second := by
  simp [emittedSamples, afterRequests,
    Generator.outputs_add (iteration_settles shuffling dataset config worker)]

theorem emitted_of_waiting (space : 0 < config.poolSize) {requests : Nat}
    {self : SamplePool} {draw : Draw} (member : draw ∈ self.waiting.take requests) :
    draw ∈ self.emittedSamples shuffling dataset config worker requests := by
  induction requests generalizing self with
  | zero => simp at member
  | succ requests ih =>
    rcases nextAccumulatedBatches_cases shuffling dataset config worker self with
      ⟨dried, asked, dry, emits⟩ | ⟨batches, next, asked, _, _, serves⟩
    · have nobody : dried.waiting = [] := by
        rcases dry.2 with noSpace | ⟨exhausted, _⟩
        · omega
        · simp [waiting, dry.1, exhausted]
      rcases (emits space).front _ draw member with none | none
      · exact absurd none not_mem_nil
      · simp [nobody] at none
    · have split : self.emittedSamples shuffling dataset config worker (requests + 1) =
          batches.flatten ++
            next.emittedSamples shuffling dataset config worker requests := by
        simp [emittedSamples, Generator.outputs, iteration, asked]
      rw [split, mem_append]
      rcases serves.advances requests draw member with now | remains
      · exact .inl now
      · exact .inr (ih remains)

/-- Without restarts the iteration ends after at most one request for each sample,
and by then every sample has been emitted once. -/
theorem emittedSamples_finite (space : 0 < config.poolSize)
    (finite : config.infiniteLoop = false) {requests : Nat} {self : SamplePool}
    (enough : self.waiting.length ≤ requests) :
    (iteration shuffling dataset config worker).output requests self = none ∧
      (self.emittedSamples shuffling dataset config worker requests).Perm self.waiting := by
  induction requests generalizing self with
  | zero =>
    have nobody : self.waiting = [] := length_eq_zero_iff.mp (by omega)
    refine ⟨?_, by simp [emittedSamples, Generator.outputs, nobody]⟩
    rcases nextAccumulatedBatches_cases shuffling dataset config worker self with
      ⟨dried, asked, _⟩ | ⟨batches, next, asked, nonempty, allNonempty, serves⟩
    · simp [Generator.output, iteration, asked]
    · have conserved := serves.conserved
      rw [serves.singleEpoch finite, epochDraws_self, nobody] at conserved
      have nothing := List.Perm.eq_nil conserved
      obtain ⟨batch, rest, rfl⟩ := exists_cons_of_ne_nil nonempty
      have batchNonempty := allNonempty batch (by simp)
      simp [batchNonempty] at nothing
  | succ requests ih =>
    rcases nextAccumulatedBatches_cases shuffling dataset config worker self with
      ⟨dried, asked, dry, emits⟩ | ⟨batches, next, asked, nonempty, allNonempty, serves⟩
    · have conserved := (emits space).conserved
      rw [(emits space).singleEpoch finite, epochDraws_self] at conserved
      have nobody : dried.waiting = [] := by
        rcases dry.2 with noSpace | ⟨exhausted, _⟩
        · omega
        · simp [waiting, dry.1, exhausted]
      refine ⟨by simp [Generator.output, iteration, asked], ?_⟩
      simpa [emittedSamples, Generator.outputs, iteration, asked, nobody] using conserved
    · have conserved := serves.conserved
      rw [serves.singleEpoch finite, epochDraws_self, append_nil] at conserved
      have some : 0 < batches.flatten.length := by
        obtain ⟨batch, rest, rfl⟩ := exists_cons_of_ne_nil nonempty
        have batchNonempty := length_pos_iff.mpr (allNonempty batch (by simp))
        simp only [flatten_cons, length_append]
        omega
      have lengths := conserved.length_eq
      rw [length_append] at lengths
      obtain ⟨ends, rest⟩ := @ih next (by omega)
      refine ⟨by simpa [Generator.output, iteration, asked] using ends, ?_⟩
      have whole := (rest.append_left batches.flatten).trans conserved
      simpa [emittedSamples, Generator.outputs, iteration, asked] using whole

variable {epoch : Nat}

section

variable (space : 0 < config.poolSize)

include space

theorem next_of_infinite (infinite : config.infiniteLoop = true)
    (shard : shardedIter shuffling dataset config worker epoch ≠ []) (self : SamplePool) :
    ∃ batches next, self.nextAccumulatedBatches shuffling dataset config worker =
        (some batches, next) ∧ batches ≠ [] ∧ (∀ batch ∈ batches, batch ≠ []) ∧
      Serves shuffling dataset config worker batches.flatten self next := by
  rcases nextAccumulatedBatches_cases shuffling dataset config worker self with
    ⟨dried, _, dry, _⟩ | served
  · rcases dry.2 with noSpace | ⟨_, noShard⟩
    · omega
    · exact absurd (noShard infinite epoch) shard
  · exact served

theorem length_emittedSamples (infinite : config.infiniteLoop = true)
    (shard : shardedIter shuffling dataset config worker epoch ≠ []) (requests : Nat)
    (self : SamplePool) :
    requests ≤ (self.emittedSamples shuffling dataset config worker requests).length := by
  induction requests generalizing self with
  | zero => simp
  | succ requests ih =>
    obtain ⟨batches, next, asked, nonempty, allNonempty, _⟩ :=
      next_of_infinite space infinite shard self
    obtain ⟨batch, rest, rfl⟩ := exists_cons_of_ne_nil nonempty
    have some := length_pos_iff.mpr (allNonempty batch (by simp))
    have later := ih next
    simp only [emittedSamples, Generator.outputs, iteration, asked, flatten_cons,
      flatten_append, length_append] at later ⊢
    omega

/-- Every epoch begins some time: the epochs before it hold finitely many samples
and each request emits one at least. -/
theorem epoch_reached (infinite : config.infiniteLoop = true)
    (shard : shardedIter shuffling dataset config worker epoch ≠ []) (target : Nat)
    (self : SamplePool) :
    ∃ requests,
      target ≤ (self.afterRequests shuffling dataset config worker requests).currentEpoch := by
  by_contra never
  have early : ∀ requests,
      (self.afterRequests shuffling dataset config worker requests).currentEpoch < target := by
    intro requests
    by_contra reached
    exact never ⟨requests, by omega⟩
  obtain ⟨requests, count⟩ : ∃ requests, requests = self.waiting.length +
      (epochDraws shuffling dataset config worker (self.currentEpoch + 1) target).length + 1 :=
    ⟨_, rfl⟩
  have emits := emittedSamples_emits shuffling dataset worker space requests self
  have before := early requests
  have lengths := emits.conserved.length_eq
  have split := congrArg List.length (epochDraws_append shuffling dataset config worker
    (Nat.succ_le_succ emits.epochs) (Nat.succ_le_of_lt before))
  have many := length_emittedSamples space infinite shard requests self
  simp only [length_append, Nat.succ_eq_add_one] at lengths split
  omega

theorem epoch_emitted (infinite : config.infiniteLoop = true) {self : SamplePool}
    (walk : self.waiting = shardedIter shuffling dataset config worker self.currentEpoch)
    (later : self.currentEpoch ≤ epoch) :
    ∃ bound, ∀ requests, bound ≤ requests →
      ∀ draw ∈ shardedIter shuffling dataset config worker epoch,
        draw ∈ self.emittedSamples shuffling dataset config worker requests := by
  by_cases shard : shardedIter shuffling dataset config worker epoch = []
  · exact ⟨0, by simp [shard]⟩
  · obtain ⟨first, reached⟩ := epoch_reached space infinite shard epoch self
    obtain ⟨middle, isMiddle⟩ : ∃ middle,
      middle = self.afterRequests shuffling dataset config worker first := ⟨_, rfl⟩
    refine ⟨first + middle.waiting.length, fun requests enough draw member => ?_⟩
    have emits := emittedSamples_emits shuffling dataset worker space first self
    rw [← isMiddle] at emits reached
    have drawn : draw ∈ self.waiting ++ epochDraws shuffling dataset config worker
        (self.currentEpoch + 1) (middle.currentEpoch + 1) := by
      rw [walk, ← epochDraws_succ, epochDraws_append shuffling dataset config worker
        (Nat.le_succ _) (Nat.succ_le_succ emits.epochs), epochDraws, mem_flatMap]
      refine ⟨epoch, ?_, member⟩
      rw [mem_range'_1]
      omega
    obtain ⟨more, split⟩ : ∃ more, requests = first + (middle.waiting.length + more) :=
      ⟨requests - first - middle.waiting.length, by omega⟩
    rw [split, emittedSamples_add, emittedSamples_add, ← isMiddle, mem_append, mem_append]
    rcases mem_append.mp (emits.conserved.mem_iff.mpr drawn) with inFirst | waits
    · exact .inl inFirst
    · exact .inr (.inl (emitted_of_waiting space (by simpa using waits)))

end

end SamplePool

section Ledger

variable (shuffling : SeededShuffle) (dataset : BaseDataset)
  (config : LoadBalancedConfig) (worker : WorkerInfo)

theorem map_index_shardedIter (epoch : Nat) :
    ((shardedIter shuffling dataset config worker epoch).map Draw.index).Perm
      (stridedRange (shardId worker) dataset.size (totalShards config worker)) := by
  rw [shardedIter, map_map]
  simpa [Function.comp_def] using shuffling.perm _ _

theorem epoch_of_mem_shardedIter {epoch : Nat} {draw : Draw}
    (member : draw ∈ shardedIter shuffling dataset config worker epoch) :
    draw.epoch = epoch := by
  obtain ⟨idx, _, rfl⟩ := mem_map.mp member
  rfl

theorem nodup_shardedIter (positive : 0 < totalShards config worker) (epoch : Nat) :
    (shardedIter shuffling dataset config worker epoch).Nodup :=
  .of_map Draw.index ((map_index_shardedIter shuffling dataset config worker epoch).nodup_iff.mpr
    (nodup_stridedRange positive))

theorem nodup_epochDraws (positive : 0 < totalShards config worker) (first past : Nat) :
    (epochDraws shuffling dataset config worker first past).Nodup := by
  rw [epochDraws, nodup_flatMap]
  refine ⟨fun epoch _ => nodup_shardedIter shuffling dataset config worker positive epoch, ?_⟩
  refine List.Pairwise.imp ?_ (@nodup_range' first (past - first) 1 Nat.one_pos)
  intro left right different draw inLeft inRight
  exact different ((epoch_of_mem_shardedIter shuffling dataset config worker inLeft).symm.trans
    (epoch_of_mem_shardedIter shuffling dataset config worker inRight))

end Ledger

section AllWorkers

variable (shuffling : SeededShuffle) (dataset : BaseDataset) (config : LoadBalancedConfig)

def allWorkers (numWorkers : Nat) : List WorkerInfo :=
  (List.range config.dpWorldSize).flatMap fun dpRank => loaderWorkers dpRank numWorkers

theorem allWorkers_shards (world : 0 < config.dpWorldSize) (numWorkers : Nat) :
    ((allWorkers config numWorkers).flatMap fun worker =>
        stridedRange (shardId worker) dataset.size (totalShards config worker)).Perm
      (List.range dataset.size) := by
  rw [allWorkers, flatMap_assoc]
  by_cases none : numWorkers = 0
  · simpa [loaderWorkers, none, shardId, totalShards] using flatMap_stridedRange_perm world
  · have dealt := range_mul_flatMap config.dpWorldSize numWorkers fun start =>
      stridedRange start dataset.size (config.dpWorldSize * numWorkers)
    simp only [loaderWorkers, none, if_false, flatMap_map, shardId, totalShards]
    rw [dealt]
    exact flatMap_stridedRange_perm (Nat.mul_pos world (Nat.pos_of_ne_zero none))

theorem totalShards_pos (world : 0 < config.dpWorldSize) {numWorkers : Nat}
    {worker : WorkerInfo} (member : worker ∈ allWorkers config numWorkers) :
    0 < totalShards config worker := by
  obtain ⟨dpRank, _, started⟩ := mem_flatMap.mp member
  refine Nat.mul_pos world ?_
  by_cases none : numWorkers = 0
  · simp only [loaderWorkers, none, if_true, mem_singleton] at started
    simp [started]
  · simp only [loaderWorkers, none, if_false, mem_map] at started
    obtain ⟨workerId, _, rfl⟩ := started
    exact Nat.pos_of_ne_zero none

def workerEmitted (object : LoadBalancedDataset) (requests : Nat) (worker : WorkerInfo) :
    List Draw :=
  (object.startIteration shuffling dataset config worker).emittedSamples
    shuffling dataset config worker requests

def workerAfter (object : LoadBalancedDataset) (requests : Nat) (worker : WorkerInfo) :
    SamplePool :=
  (object.startIteration shuffling dataset config worker).afterRequests
    shuffling dataset config worker requests

section OneWorker

variable {shuffling dataset config} {object : LoadBalancedDataset} {worker : WorkerInfo}

theorem startIteration_of_noSkip (noSkip : object.skipBatches = 0) :
    (object.startIteration shuffling dataset config worker).toSamplePool =
      object.restarted shuffling dataset config worker := by
  simp [LoadBalancedDataset.startIteration, noSkip, Generator.skip]

theorem waiting_restarted :
    (object.restarted shuffling dataset config worker).waiting =
      shardedIter shuffling dataset config worker object.currentEpoch := by
  simp [LoadBalancedDataset.restarted, SamplePool.waiting]

theorem workerEmitted_ledger (space : 1 ≤ config.poolSize)
    (noSkip : object.skipBatches = 0) (requests : Nat) :
    object.currentEpoch ≤
        (workerAfter shuffling dataset config object requests worker).currentEpoch ∧
      (workerEmitted shuffling dataset config object requests worker ++
        (workerAfter shuffling dataset config object requests worker).waiting).Perm
        (epochDraws shuffling dataset config worker object.currentEpoch
          ((workerAfter shuffling dataset config object requests worker).currentEpoch + 1)) := by
  have emits := SamplePool.emittedSamples_emits shuffling dataset worker space requests
    (object.restarted shuffling dataset config worker)
  have epochs : object.currentEpoch ≤ _ := emits.epochs
  have conserved := emits.conserved
  rw [waiting_restarted, ← epochDraws_succ] at conserved
  have joined := epochDraws_append shuffling dataset config worker
    (Nat.le_succ object.currentEpoch) (Nat.succ_le_succ epochs)
  simp only [workerAfter, workerEmitted, startIteration_of_noSkip noSkip]
  refine ⟨epochs, conserved.trans ?_⟩
  rw [← joined]
  exact .refl _

theorem workerEmitted_finite (positive : 0 < totalShards config worker)
    (space : 1 ≤ config.poolSize) (noSkip : object.skipBatches = 0)
    (finite : config.infiniteLoop = false) {requests : Nat} (enough : dataset.size ≤ requests) :
    (SamplePool.iteration shuffling dataset config worker).output requests
        (object.startIteration shuffling dataset config worker).toSamplePool = none ∧
      ((workerEmitted shuffling dataset config object requests worker).map Draw.index).Perm
        (stridedRange (shardId worker) dataset.size (totalShards config worker)) := by
  have shard := map_index_shardedIter shuffling dataset config worker object.currentEpoch
  have few := @length_stridedRange_le (shardId worker) dataset.size _ positive
  have size := shard.length_eq
  rw [length_map] at size
  rw [workerEmitted, startIteration_of_noSkip noSkip]
  have finished := @SamplePool.emittedSamples_finite shuffling dataset config worker space
    finite requests (object.restarted shuffling dataset config worker)
    (by rw [waiting_restarted]; omega)
  rw [waiting_restarted] at finished
  exact ⟨finished.1, (finished.2.map _).trans shard⟩

/-- With restarts a worker has some time emitted its shard of an epoch, each index
once. -/
theorem workerEmitted_epoch (positive : 0 < totalShards config worker)
    (space : 1 ≤ config.poolSize) (noSkip : object.skipBatches = 0)
    (infinite : config.infiniteLoop = true) {epoch : Nat} (begun : object.currentEpoch ≤ epoch) :
    ∃ bound, ∀ requests, bound ≤ requests →
      (((workerEmitted shuffling dataset config object requests worker).filter
        fun draw => draw.epoch = epoch).map Draw.index).Perm
        (stridedRange (shardId worker) dataset.size (totalShards config worker)) := by
  obtain ⟨bound, emitted⟩ := SamplePool.epoch_emitted space infinite
    (@waiting_restarted shuffling dataset config object worker) begun
  refine ⟨bound, fun requests enough => ?_⟩
  refine .trans (.map _ ?_) (map_index_shardedIter shuffling dataset config worker epoch)
  obtain ⟨_, ledger⟩ := @workerEmitted_ledger shuffling dataset config object worker space
    noSkip requests
  have distinct := (ledger.nodup_iff.mpr
    (nodup_epochDraws shuffling dataset config worker positive _ _)).of_append_left
  rw [perm_ext_iff_of_nodup (distinct.filter _)
    (nodup_shardedIter shuffling dataset config worker positive epoch)]
  intro draw
  rw [mem_filter, decide_eq_true_eq]
  constructor
  · rintro ⟨member, rfl⟩
    have drawn := ledger.mem_iff.mp (mem_append_left _ member)
    obtain ⟨other, _, inShard⟩ := mem_flatMap.mp drawn
    rwa [epoch_of_mem_shardedIter shuffling dataset config worker inShard]
  · intro member
    refine ⟨?_, epoch_of_mem_shardedIter shuffling dataset config worker member⟩
    rw [workerEmitted, startIteration_of_noSkip noSkip]
    exact emitted requests enough draw member

end OneWorker

theorem exists_common_bound {Alpha : Type*} {holds : Alpha → Nat → Prop} {items : List Alpha}
    (each : ∀ item ∈ items, ∃ bound, ∀ time, bound ≤ time → holds item time) :
    ∃ bound, ∀ time, bound ≤ time → ∀ item ∈ items, holds item time := by
  induction items with
  | nil => exact ⟨0, by simp⟩
  | cons first rest ih =>
    obtain ⟨firstBound, firstHolds⟩ := each first (by simp)
    obtain ⟨restBound, restHolds⟩ := ih fun item member => each item (mem_cons_of_mem _ member)
    refine ⟨max firstBound restBound, fun time late item member => ?_⟩
    rcases mem_cons.mp member with rfl | inRest
    · exact firstHolds time (by omega)
    · exact restHolds time (by omega) item inRest

/-- Load-balanced batching neither loses nor repeats samples.  In either mode every
draw of a worker is, at any time, in one of: emitted, in the pool, not yet drawn.
Without restarts the iterations of all workers end with every index emitted once;
with restarts the draws of every epoch are some time emitted, each index once. -/
theorem loadBalanced_exactlyOnce (numWorkers : Nat) (object : WorkerInfo → LoadBalancedDataset)
    (world : 0 < config.dpWorldSize) (space : 1 ≤ config.poolSize)
    (noSkip : ∀ worker, (object worker).skipBatches = 0) :
    (∀ worker ∈ allWorkers config numWorkers, ∀ requests,
      let state := workerAfter shuffling dataset config (object worker) requests worker
      let draws := epochDraws shuffling dataset config worker
        (object worker).currentEpoch (state.currentEpoch + 1)
      draws.Nodup ∧
        (workerEmitted shuffling dataset config (object worker) requests worker ++
          (state.pool ++ state.datasetIterator)).Perm draws) ∧
    (config.infiniteLoop = false → ∃ bound, ∀ requests, bound ≤ requests →
      (∀ worker ∈ allWorkers config numWorkers,
        (SamplePool.iteration shuffling dataset config worker).output requests
          ((object worker).startIteration shuffling dataset config worker).toSamplePool =
            none) ∧
      (((allWorkers config numWorkers).flatMap fun worker =>
          workerEmitted shuffling dataset config (object worker) requests worker).map
        Draw.index).Perm (List.range dataset.size)) ∧
    (config.infiniteLoop = true → ∀ epoch,
      (∀ worker, (object worker).currentEpoch ≤ epoch) →
      ∃ bound, ∀ requests, bound ≤ requests →
        ((((allWorkers config numWorkers).flatMap fun worker =>
            workerEmitted shuffling dataset config (object worker) requests worker).filter
          fun draw => draw.epoch = epoch).map Draw.index).Perm
        (List.range dataset.size)) := by
  refine ⟨fun worker member requests => ⟨?_, ?_⟩, ?_, ?_⟩
  · exact nodup_epochDraws shuffling dataset config worker (totalShards_pos config world member) _ _
  · exact (workerEmitted_ledger space (noSkip worker) requests).2
  · intro finite
    refine ⟨dataset.size, fun requests enough => ⟨fun worker member => ?_, ?_⟩⟩
    · exact (workerEmitted_finite (totalShards_pos config world member) space
        (noSkip worker) finite enough).1
    · rw [map_flatMap]
      refine (List.Perm.flatMap_left _ fun worker member => ?_).trans
        (allWorkers_shards dataset config world numWorkers)
      exact (workerEmitted_finite (totalShards_pos config world member) space
        (noSkip worker) finite enough).2
  · intro infinite epoch begun
    obtain ⟨bound, emitted⟩ := exists_common_bound fun worker
        (member : worker ∈ allWorkers config numWorkers) =>
      @workerEmitted_epoch shuffling dataset config (object worker) worker
        (totalShards_pos config world member) space (noSkip worker) infinite epoch
        (begun worker)
    refine ⟨bound, fun requests enough => ?_⟩
    rw [filter_flatMap, map_flatMap]
    exact (List.Perm.flatMap_left _ fun worker member =>
      emitted requests enough worker member).trans
        (allWorkers_shards dataset config world numWorkers)

end AllWorkers

def reversingShuffle : SeededShuffle where
  shuffle seed indices := if seed % 2 = 0 then indices else indices.reverse
  perm seed indices := by
    split
    · exact .refl _
    · exact indices.reverse_perm

def fiveSamples : BaseDataset := ⟨5, fun draw => [3, 5, 2, 7, 4].getD draw.index 0⟩

def smallConfig (infiniteLoop : Bool) : LoadBalancedConfig where
  poolSize := 2
  maxTokensForBatch := 8
  batchingStrategy := .preferClosest
  maxTokensLenArg := none
  seqPackingEnabled := false
  seed := 0
  dpWorldSize := 2
  accumulateSteps := 2
  accumulateSteps_pos := by decide
  infiniteLoop := infiniteLoop

theorem loadBalanced_exactlyOnce_fiveSamples :
    ∃ bound, ∀ requests, bound ≤ requests →
      (((allWorkers (smallConfig false) 2).flatMap fun worker =>
          workerEmitted reversingShuffle fiveSamples (smallConfig false) .new requests
            worker).map Draw.index).Perm (List.range 5) := by
  obtain ⟨bound, emitted⟩ := (loadBalanced_exactlyOnce reversingShuffle fiveSamples
    (smallConfig false) 2 (fun _ => .new) (by decide) (by decide) (fun _ => rfl)).2.1 rfl
  exact ⟨bound, fun requests enough => (emitted requests enough).2⟩

end CosmosRl.Data
