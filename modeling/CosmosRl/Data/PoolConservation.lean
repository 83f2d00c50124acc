import CosmosRl.Data.LoadBalancedDataset
import CosmosRl.Foundation.Extraction
import Mathlib.Data.List.Flatten

/-!
What building batches does to the samples: they leave the pool, each once, the
oldest always first, and nothing else happens to them.
-/

namespace CosmosRl.Data

open CosmosRl.Foundation List

section BestFit

variable (dataset : BaseDataset) (config : LoadBalancedConfig)

variable {curMax : Nat} {pool : List Draw}

theorem scanCandidates_idx {numChosen : Nat} {better : Candidate → Candidate → Bool} {start : Nat}
    {best : Option Candidate} {found : Candidate}
    (scanned : scanCandidates dataset config curMax numChosen better start pool best =
      some found) :
    best = some found ∨ found.idx < start + pool.length := by
  induction pool generalizing start best with
  | nil => exact .inl scanned
  | cons cand rest ih =>
    simp only [scanCandidates] at scanned
    rcases ih scanned with kept | later
    · split_ifs at kept
      · right
        rw [Option.some.injEq] at kept
        rw [← kept, length_cons]
        simp only
        omega
      · exact .inl kept
    · right
      rw [length_cons]
      omega

theorem findBestCandidate_lt {chosen : List Draw} {idx : Nat}
    (found : findBestCandidate dataset config curMax chosen pool = some idx) :
    idx < pool.length := by
  have scanned : ∀ {better : Candidate → Candidate → Bool},
      (scanCandidates dataset config curMax chosen.length better 0 pool none).map (·.idx) =
        some idx → idx < pool.length := by
    intro better result
    obtain ⟨candidate, best, rfl⟩ := Option.map_eq_some_iff.mp result
    rcases scanCandidates_idx dataset config best with none | inside
    · cases none
    · simpa using inside
  unfold findBestCandidate at found
  split at found
  · exact (findIdx?_eq_some_iff_getElem.mp found).1
  · cases strategy : config.batchingStrategy with
    | preferClosest =>
      simp only [strategy, findBestCandidatePreferClosest] at found
      exact scanned found
    | preferFirst =>
      simp only [strategy, findBestCandidatePreferFirst] at found
      exact scanned found

theorem removeFromPool_eq {idx : Nat} (inside : idx < pool.length) :
    removeFromPool idx pool = some (pool[idx], pool.eraseIdx idx) := by
  unfold removeFromPool
  by_cases first : idx = 0
  · subst first
    cases pool with
    | nil => simp at inside
    | cons item rest => simp
  · by_cases last : idx + 1 = pool.length
    · rw [if_neg first, if_pos last, getLast?_eq_getElem?, ← eraseIdx_length_sub_one]
      simp only [show pool.length - 1 = idx by omega]
      rw [getElem?_eq_getElem inside]
      rfl
    · rw [if_neg first, if_neg last, rotate_eq_drop_append_take (by omega),
        drop_eq_getElem_cons inside, eraseIdx_eq_take_drop_succ]
      simp only [cons_append, Option.some.injEq, Prod.mk.injEq, true_and]
      have size : (pool.drop (idx + 1) ++ pool.take idx).length = pool.length - 1 := by
        rw [length_append, length_drop, length_take]
        omega
      have front : (pool.drop (idx + 1)).length = pool.length - 1 - idx := by
        rw [length_drop]
        omega
      simp only [List.rotateRight, size]
      rw [if_neg (by omega), Nat.mod_eq_of_lt (by omega), ← front, drop_left, take_left]

theorem growBatch_extracts {rounds : Nat} {chosen taken rest : List Draw}
    (grown : growBatch dataset config rounds curMax chosen pool = (taken, rest)) :
    ∃ more, taken = chosen ++ more ∧ Extracts more pool rest := by
  induction rounds generalizing curMax chosen pool with
  | zero =>
    simp only [growBatch, Prod.mk.injEq] at grown
    refine ⟨[], by simp [grown.1], ?_⟩
    rw [grown.2]
    exact .nil rest
  | succ rounds ih =>
    unfold growBatch at grown
    cases found : findBestCandidate dataset config curMax chosen pool with
    | none =>
      simp only [found, Prod.mk.injEq] at grown
      refine ⟨[], by simp [grown.1], ?_⟩
      rw [grown.2]
      exact .nil rest
    | some idx =>
      have inside := findBestCandidate_lt dataset config found
      simp only [found, removeFromPool_eq inside] at grown
      obtain ⟨more, equality, extracts⟩ := ih grown
      exact ⟨pool[idx] :: more, by simp [equality], .cons idx inside extracts⟩

end BestFit

section Shards

variable (shuffling : SeededShuffle) (dataset : BaseDataset)
  (config : LoadBalancedConfig) (worker : WorkerInfo)

def epochDraws (first past : Nat) : List Draw :=
  (List.range' first (past - first)).flatMap
    (shardedIter shuffling dataset config worker)

@[simp]
theorem epochDraws_self (epoch : Nat) :
    epochDraws shuffling dataset config worker epoch epoch = [] := by
  simp [epochDraws]

theorem epochDraws_succ (epoch : Nat) :
    epochDraws shuffling dataset config worker epoch (epoch + 1) =
      shardedIter shuffling dataset config worker epoch := by
  simp [epochDraws]

theorem epochDraws_append {first middle past : Nat} (left : first ≤ middle)
    (right : middle ≤ past) :
    epochDraws shuffling dataset config worker first middle ++
        epochDraws shuffling dataset config worker middle past =
      epochDraws shuffling dataset config worker first past := by
  unfold epochDraws
  have split : past - first = (middle - first) + (past - middle) := by omega
  have next : first + 1 * (middle - first) = middle := by omega
  rw [← flatMap_append, split, ← range'_append, next]

theorem shardedIter_eq_nil_iff (epoch other : Nat) :
    shardedIter shuffling dataset config worker epoch = [] ↔
      shardedIter shuffling dataset config worker other = [] := by
  have size : ∀ epoch, (shardedIter shuffling dataset config worker epoch).length =
      (stridedRange (shardId worker) dataset.size (totalShards config worker)).length := by
    intro epoch
    rw [shardedIter, length_map]
    exact (shuffling.perm _ _).length_eq
  rw [← length_eq_zero_iff, ← length_eq_zero_iff, size, size]

end Shards

namespace SamplePool

variable (shuffling : SeededShuffle) (dataset : BaseDataset)
  (config : LoadBalancedConfig) (worker : WorkerInfo)

def waiting (self : SamplePool) : List Draw := self.pool ++ self.datasetIterator

/-- The emitted samples are accounted for: they waited before or belong to an epoch
begun since, each leaves once, and those that stay only move forward. -/
structure Emits (emitted : List Draw) (before after : SamplePool) : Prop where
  epochs : before.currentEpoch ≤ after.currentEpoch
  conserved : (emitted ++ after.waiting).Perm (before.waiting ++
    epochDraws shuffling dataset config worker (before.currentEpoch + 1)
      (after.currentEpoch + 1))
  front : ∀ bound, ∀ draw ∈ before.waiting.take bound,
    draw ∈ emitted ∨ draw ∈ after.waiting.take bound
  singleEpoch : config.infiniteLoop = false → after.currentEpoch = before.currentEpoch

variable {shuffling dataset config worker}

namespace Emits

theorem refl (self : SamplePool) : Emits shuffling dataset config worker [] self self where
  epochs := Nat.le_refl _
  conserved := by simp
  front := fun _ _ member => .inr member
  singleEpoch := fun _ => rfl

theorem trans {first second : List Draw} {before middle after : SamplePool}
    (left : Emits shuffling dataset config worker first before middle)
    (right : Emits shuffling dataset config worker second middle after) :
    Emits shuffling dataset config worker (first ++ second) before after where
  epochs := Nat.le_trans left.epochs right.epochs
  conserved := by
    rw [← epochDraws_append shuffling dataset config worker
      (Nat.succ_le_succ left.epochs) (Nat.succ_le_succ right.epochs)]
    have late := right.conserved.append_left first
    have early := left.conserved.append_right
      (epochDraws shuffling dataset config worker (middle.currentEpoch + 1)
        (after.currentEpoch + 1))
    rw [← append_assoc, ← append_assoc] at late
    rw [append_assoc before.waiting] at early
    exact late.trans early
  front := by
    intro bound draw member
    rcases left.front bound draw member with inFirst | remains
    · exact .inl (mem_append_left _ inFirst)
    · rcases right.front bound draw remains with inSecond | stays
      · exact .inl (mem_append_right _ inSecond)
      · exact .inr stays
  singleEpoch := fun finite => (right.singleEpoch finite).trans (left.singleEpoch finite)

end Emits

variable {self : SamplePool} {next : SamplePool}

theorem appendToPool_emits {sample : Draw} (drawn : self.getNextSample = (some sample, next)) :
    Emits shuffling dataset config worker [] self (next.appendToPool sample) := by
  unfold getNextSample at drawn
  cases remaining : self.datasetIterator with
  | nil => simp [remaining] at drawn
  | cons first rest =>
    simp only [remaining, Prod.mk.injEq, Option.some.injEq] at drawn
    obtain ⟨rfl, rfl⟩ := drawn
    have same : (appendToPool first { self with datasetIterator := rest }).waiting =
        self.waiting := by
      simp [appendToPool, waiting, remaining]
    exact {
      epochs := Nat.le_refl _
      conserved := by rw [same]; simp [appendToPool]
      front := fun bound draw member => by rw [same]; exact .inr member
      singleEpoch := fun _ => rfl }

theorem getNextSample_none (drawn : self.getNextSample = (none, next)) :
    self.datasetIterator = [] ∧ next = self := by
  unfold getNextSample at drawn
  cases remaining : self.datasetIterator with
  | nil =>
    simp only [remaining, Prod.mk.injEq, true_and] at drawn
    exact ⟨rfl, drawn.symm⟩
  | cons first rest => simp [remaining] at drawn

theorem recreateIterator_emits (exhausted : self.datasetIterator = [])
    (infinite : config.infiniteLoop = true) :
    Emits shuffling dataset config worker [] self
      (self.recreateIterator shuffling dataset config worker) where
  epochs := Nat.le_succ _
  conserved := by
    simp [recreateIterator, waiting, exhausted, epochDraws_succ]
  front := by
    intro bound draw member
    right
    simp only [waiting, exhausted, append_nil] at member
    exact ((prefix_append _ _).take bound).subset member
  singleEpoch := by simp [infinite]

theorem fillPoolBy_emits (missing : Nat) (self : SamplePool) :
    Emits shuffling dataset config worker [] self
      (self.fillPoolBy shuffling dataset config worker missing) := by
  induction missing generalizing self with
  | zero => exact .refl self
  | succ missing ih =>
    unfold fillPoolBy
    rcases drawn : self.getNextSample with ⟨_ | sample, next⟩
    · obtain ⟨exhausted, rfl⟩ := getNextSample_none drawn
      simp only
      split_ifs with infinite
      · have begun : Emits shuffling dataset config worker [] next
            (next.recreateIterator shuffling dataset config worker) :=
          recreateIterator_emits exhausted infinite
        rcases again : (next.recreateIterator shuffling dataset config
          worker).getNextSample with ⟨_ | sample, last⟩
        · obtain ⟨_, rfl⟩ := getNextSample_none again
          exact begun
        · exact (begun.trans (appendToPool_emits again)).trans (ih _)
      · exact .refl next
    · exact (appendToPool_emits drawn).trans (ih _)

theorem fillPool_emits (self : SamplePool) :
    Emits shuffling dataset config worker [] self
      (self.fillPool shuffling dataset config worker) :=
  fillPoolBy_emits _ self

variable (shuffling dataset config worker) in
def Dry (self : SamplePool) : Prop :=
  self.pool = [] ∧ (config.poolSize = 0 ∨ (self.datasetIterator = [] ∧
    (config.infiniteLoop = true →
      ∀ epoch, shardedIter shuffling dataset config worker epoch = [])))

variable (shuffling dataset config worker) in
theorem fillPoolBy_pool (missing : Nat) (self : SamplePool) :
    self.pool <+: (self.fillPoolBy shuffling dataset config worker missing).pool := by
  induction missing generalizing self with
  | zero => exact prefix_refl _
  | succ missing ih =>
    have drawnIn : ∀ {sample next} (origin : SamplePool), origin.pool = self.pool →
        origin.getNextSample = (some sample, next) →
        self.pool <+: ((next.appendToPool sample).fillPoolBy shuffling dataset config
          worker missing).pool := by
      intro sample next origin same drawn
      refine .trans ?_ (ih _)
      unfold getNextSample at drawn
      cases remaining : origin.datasetIterator with
      | nil => simp [remaining] at drawn
      | cons first rest =>
        simp only [remaining, Prod.mk.injEq] at drawn
        rw [← drawn.2, ← same]
        exact prefix_append _ _
    unfold fillPoolBy
    rcases drawn : self.getNextSample with ⟨_ | sample, next⟩
    · obtain ⟨_, rfl⟩ := getNextSample_none drawn
      simp only
      split_ifs
      · rcases again : (next.recreateIterator shuffling dataset config
          worker).getNextSample with ⟨_ | sample, last⟩
        · obtain ⟨_, rfl⟩ := getNextSample_none again
          exact prefix_refl _
        · exact drawnIn (next.recreateIterator shuffling dataset config worker)
            (by simp [recreateIterator]) again
      · exact prefix_refl _
    · exact drawnIn self (by simp) drawn

theorem fillPool_dry (empty : (self.fillPool shuffling dataset config worker).pool = []) :
    Dry shuffling dataset config worker (self.fillPool shuffling dataset config worker) := by
  refine ⟨empty, ?_⟩
  by_cases none : config.poolSize = 0
  · exact .inl none
  · right
    have poolEmpty : self.pool = [] := by
      have grown := fillPoolBy_pool shuffling dataset config worker
        (config.poolSize - self.pool.length) self
      rw [← fillPool, empty] at grown
      exact prefix_nil.mp grown
    obtain ⟨missing, lacks⟩ : ∃ missing, config.poolSize - self.pool.length = missing + 1 :=
      ⟨config.poolSize - 1, by rw [poolEmpty, length_nil]; omega⟩
    have filled : ∀ {sample next}, ((appendToPool sample next).fillPoolBy shuffling dataset
        config worker missing).pool ≠ [] := by
      intro sample next isEmpty
      have grown := fillPoolBy_pool shuffling dataset config worker missing
        (appendToPool sample next)
      rw [isEmpty] at grown
      simpa [appendToPool] using prefix_nil.mp grown
    unfold fillPool at empty ⊢
    rw [lacks] at empty ⊢
    unfold fillPoolBy at empty ⊢
    rcases drawn : self.getNextSample with ⟨_ | sample, next⟩
    · obtain ⟨exhausted, rfl⟩ := getNextSample_none drawn
      simp only [drawn] at empty ⊢
      split_ifs at empty ⊢ with infinite
      · rcases again : (next.recreateIterator shuffling dataset config
          worker).getNextSample with ⟨_ | sample, last⟩
        · obtain ⟨noneLeft, rfl⟩ := getNextSample_none again
          refine ⟨noneLeft, fun _ epoch => ?_⟩
          exact (shardedIter_eq_nil_iff shuffling dataset config worker epoch _).mpr noneLeft
        · simp only [again] at empty
          exact absurd empty filled
      · exact ⟨exhausted, fun infinite' => absurd infinite' infinite⟩
    · simp only [drawn] at empty
      exact absurd empty filled

theorem Dry.fillPool (dry : Dry shuffling dataset config worker self) :
    Dry shuffling dataset config worker (self.fillPool shuffling dataset config worker) := by
  apply fillPool_dry
  obtain ⟨empty, noSpace | ⟨exhausted, noShard⟩⟩ := dry
  · simp [SamplePool.fillPool, fillPoolBy, noSpace, empty]
  · unfold SamplePool.fillPool
    cases config.poolSize - self.pool.length with
    | zero => exact empty
    | succ missing =>
      have drawn : self.getNextSample = (none, self) := by
        simp [getNextSample, exhausted]
      unfold fillPoolBy
      simp only [drawn]
      split_ifs with infinite
      · have again : (self.recreateIterator shuffling dataset config worker).getNextSample =
            (none, self.recreateIterator shuffling dataset config worker) := by
          simp [getNextSample, recreateIterator, noShard infinite]
        simp only [again]
        exact empty
      · exact empty

theorem Dry.recreateIterator (dry : Dry shuffling dataset config worker self)
    (infinite : config.infiniteLoop = true) :
    Dry shuffling dataset config worker
      (self.recreateIterator shuffling dataset config worker) := by
  obtain ⟨empty, noSpace | ⟨_, noShard⟩⟩ := dry
  · exact ⟨empty, .inl noSpace⟩
  · exact ⟨empty, .inr ⟨noShard infinite _, noShard⟩⟩

variable (shuffling dataset config worker) in
structure Serves (emitted : List Draw) (before after : SamplePool) : Prop
    extends Emits shuffling dataset config worker emitted before after where
  advances : ∀ bound, ∀ draw ∈ before.waiting.take (bound + 1),
    draw ∈ emitted ∨ draw ∈ after.waiting.take bound

theorem Serves.trans {first second : List Draw} {before middle after : SamplePool}
    (left : Serves shuffling dataset config worker first before middle)
    (right : Emits shuffling dataset config worker second middle after) :
    Serves shuffling dataset config worker (first ++ second) before after where
  toEmits := left.toEmits.trans right
  advances := by
    intro bound draw member
    rcases left.advances bound draw member with inFirst | remains
    · exact .inl (mem_append_left _ inFirst)
    · rcases right.front bound draw remains with inSecond | stays
      · exact .inl (mem_append_right _ inSecond)
      · exact .inr stays

theorem Emits.serves {emitted : List Draw} {before middle after : SamplePool}
    (left : Emits shuffling dataset config worker [] before middle)
    (right : Serves shuffling dataset config worker emitted middle after) :
    Serves shuffling dataset config worker emitted before after where
  toEmits := left.trans right.toEmits
  advances := by
    intro bound draw member
    rcases left.front (bound + 1) draw member with none | remains
    · exact absurd none not_mem_nil
    · exact right.advances bound draw remains

theorem serves_of_extracts {seed : Draw} {rest more pool : List Draw}
    (filled : self.pool = seed :: rest) (extracts : Extracts more rest pool) :
    Serves shuffling dataset config worker (seed :: more) self { self with pool := pool } := by
  have behind := extracts.append_right self.datasetIterator
  have whole : Extracts (seed :: more) self.waiting (pool ++ self.datasetIterator) := by
    have first := @Extracts.cons _ _ self.waiting _ 0 (by simp [waiting, filled])
      (by simpa [waiting, filled] using behind)
    simpa [waiting, filled] using first
  exact {
    epochs := Nat.le_refl _
    conserved := by
      rw [epochDraws_self, append_nil]
      exact whole.perm
    front := fun bound draw member => whole.mem_take member
    singleEpoch := fun _ => rfl
    advances := by
      intro bound draw member
      simp only [waiting, filled, cons_append, take_succ_cons, mem_cons] at member
      rcases member with rfl | member
      · exact .inl (by simp)
      · rcases behind.mem_take member with taken | remains
        · exact .inl (mem_cons_of_mem _ taken)
        · exact .inr remains }

variable (shuffling dataset config worker) in
theorem bestFitBatch_cases (self : SamplePool) :
    (∃ dried, self.bestFitBatch shuffling dataset config worker = (none, dried) ∧
        Dry shuffling dataset config worker dried ∧
        Emits shuffling dataset config worker [] self dried) ∨
      ∃ batch next, self.bestFitBatch shuffling dataset config worker = (some batch, next) ∧
        batch ≠ [] ∧ Serves shuffling dataset config worker batch self next := by
  have filling : Emits shuffling dataset config worker [] self _ := fillPool_emits self
  cases filled : (self.fillPool shuffling dataset config worker).pool with
  | nil =>
    exact .inl ⟨_, by simp [bestFitBatch, filled], fillPool_dry filled, filling⟩
  | cons seed rest =>
    right
    simp only [bestFitBatch, filled]
    split_ifs with long
    · exact ⟨[seed], _, rfl, by simp, filling.serves (serves_of_extracts filled (.nil rest))⟩
    · rcases grown : growBatch dataset config rest.length (dataset.sampleLength seed)
        [seed] rest with ⟨chosen, pool⟩
      obtain ⟨more, rfl, extracts⟩ := growBatch_extracts dataset config grown
      exact ⟨_, _, rfl, by simp, filling.serves (serves_of_extracts filled extracts)⟩

theorem Dry.bestFitBatch (dry : Dry shuffling dataset config worker self) :
    self.bestFitBatch shuffling dataset config worker =
      (none, self.fillPool shuffling dataset config worker) := by
  have empty := dry.fillPool.1
  simp [SamplePool.bestFitBatch, empty]

variable (shuffling dataset config worker) in
theorem buildBatches_cases (steps : Nat) (self : SamplePool) :
    ∃ batches next, self.buildBatches shuffling dataset config worker steps =
        (batches, next) ∧ (∀ batch ∈ batches, batch ≠ []) ∧
      Emits shuffling dataset config worker batches.flatten self next ∧
      (batches ≠ [] → Serves shuffling dataset config worker batches.flatten self next) ∧
      (batches = [] → 0 < steps → Dry shuffling dataset config worker next) := by
  induction steps generalizing self with
  | zero => exact ⟨[], self, rfl, by simp, .refl self, by simp, by simp⟩
  | succ steps ih =>
    unfold buildBatches
    rcases bestFitBatch_cases shuffling dataset config worker self with
      ⟨dried, built, dry, emits⟩ | ⟨batch, next, built, nonempty, serves⟩
    · have stillEmpty := dry.fillPool.1
      simp only [built, stillEmpty, if_true]
      exact ⟨[], _, rfl, by simp, emits.trans (fillPool_emits dried), by simp,
        fun _ _ => dry.fillPool⟩
    · obtain ⟨batches, last, more, nonemptyAll, emits, _, _⟩ := ih next
      simp only [built, more]
      refine ⟨batch :: batches, last, rfl, ?_, serves.toEmits.trans emits,
        fun _ => serves.trans emits, by simp⟩
      intro other member
      rcases mem_cons.mp member with rfl | inRest
      · exact nonempty
      · exact nonemptyAll other inRest

theorem Dry.buildAccumulatedBatches (dry : Dry shuffling dataset config worker self) :
    ∃ next, self.buildAccumulatedBatches shuffling dataset config worker = ([], next) ∧
      Dry shuffling dataset config worker next := by
  obtain ⟨steps, positive⟩ : ∃ steps, config.accumulateSteps = steps + 1 :=
    ⟨config.accumulateSteps - 1, by have := config.accumulateSteps_pos; omega⟩
  have stillEmpty := dry.fillPool.fillPool.1
  unfold SamplePool.buildAccumulatedBatches
  rw [positive]
  unfold buildBatches
  simp only [dry.bestFitBatch, stillEmpty, if_true]
  exact ⟨_, rfl, dry.fillPool.fillPool⟩

theorem Dry.nextAccumulatedBatches (dry : Dry shuffling dataset config worker self) :
    ∃ next, self.nextAccumulatedBatches shuffling dataset config worker = (none, next) ∧
      Dry shuffling dataset config worker next := by
  obtain ⟨next, built, dryNext⟩ := dry.buildAccumulatedBatches
  unfold SamplePool.nextAccumulatedBatches
  simp only [built]
  split_ifs with infinite
  · obtain ⟨last, again, dryLast⟩ := (dryNext.recreateIterator infinite).buildAccumulatedBatches
    simp only [again]
    exact ⟨last, rfl, dryLast⟩
  · exact ⟨next, rfl, dryNext⟩

variable (shuffling dataset config worker) in
/-- The iteration stops on a dry pool only, and otherwise serves batches. -/
theorem nextAccumulatedBatches_cases (self : SamplePool) :
    (∃ dried, self.nextAccumulatedBatches shuffling dataset config worker = (none, dried) ∧
        Dry shuffling dataset config worker dried ∧
        (0 < config.poolSize → Emits shuffling dataset config worker [] self dried)) ∨
      ∃ batches next, self.nextAccumulatedBatches shuffling dataset config worker =
          (some batches, next) ∧ batches ≠ [] ∧ (∀ batch ∈ batches, batch ≠ []) ∧
        Serves shuffling dataset config worker batches.flatten self next := by
  obtain ⟨batches, next, built, nonempty, emits, serves, dry⟩ :=
    buildBatches_cases shuffling dataset config worker config.accumulateSteps self
  rw [← buildAccumulatedBatches] at built
  cases batches with
  | cons batch batches =>
    right
    exact ⟨batch :: batches, next, by simp [nextAccumulatedBatches, built], by simp,
      nonempty, serves (by simp)⟩
  | nil =>
    left
    have dryNext := dry rfl config.accumulateSteps_pos
    by_cases infinite : config.infiniteLoop = true
    · obtain ⟨last, again, dryLast⟩ := (dryNext.recreateIterator infinite).buildAccumulatedBatches
      refine ⟨last, by simp [nextAccumulatedBatches, built, infinite, again], dryLast,
        fun space => ?_⟩
      have exhausted : next.datasetIterator = [] := by
        rcases dryNext.2 with noSpace | ⟨exhausted, _⟩
        · omega
        · exact exhausted
      obtain ⟨batches, final, rebuilt, _, emitsAgain, _, _⟩ :=
        buildBatches_cases shuffling dataset config worker config.accumulateSteps
          (next.recreateIterator shuffling dataset config worker)
      rw [← SamplePool.buildAccumulatedBatches, again, Prod.mk.injEq] at rebuilt
      obtain ⟨rfl, rfl⟩ := rebuilt
      exact (emits.trans (recreateIterator_emits exhausted infinite)).trans emitsAgain
    · exact ⟨next, by simp [nextAccumulatedBatches, built, infinite], dryNext, fun _ => emits⟩

end SamplePool

end CosmosRl.Data
