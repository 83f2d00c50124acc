import CosmosRl.Data.PoolConservation

/-!
The batches that `_best_fit_batch` forms: they keep to the token budget, leave no sample
behind that would still fit, and take the oldest sample first.
-/

namespace CosmosRl.Data

open CosmosRl.Foundation List

section BestFit

variable (dataset : BaseDataset) (config : LoadBalancedConfig)

def longest (batch : List Draw) : Nat :=
  (batch.map dataset.sampleLength).foldr max 0

/-- What a batch costs: as many tokens as its samples have when they are packed, else its
longest sample for every one. -/
def batchTokens (batch : List Draw) : Nat :=
  if config.seqPackingEnabled then (batch.map dataset.sampleLength).sum
  else longest dataset batch * batch.length

def WithinBudget (batch : List Draw) : Prop :=
  (batchTokens dataset config batch : Int) ≤ config.maxTokensForBatch

def IsOverLong (sample : Draw) : Prop :=
  config.maxTokensLen ≤ dataset.sampleLength sample ∨
    config.maxTokensForBatch ≤ dataset.sampleLength sample

variable {dataset config}

theorem longest_append_singleton (batch : List Draw) (sample : Draw) :
    longest dataset (batch ++ [sample]) =
      max (longest dataset batch) (dataset.sampleLength sample) := by
  induction batch with
  | nil => simp [longest]
  | cons first rest ih =>
    rw [cons_append, longest, map_cons, foldr_cons, ← longest, ih, ← Nat.max_assoc]
    rfl

theorem batchTokens_append_padded (padded : config.seqPackingEnabled = false)
    (batch : List Draw) (sample : Draw) :
    batchTokens dataset config (batch ++ [sample]) =
      max (longest dataset batch) (dataset.sampleLength sample) * (batch.length + 1) := by
  rw [batchTokens, padded, if_neg (by simp), longest_append_singleton, length_append,
    length_singleton]

theorem batchTokens_append_packed (packed : config.seqPackingEnabled = true)
    (batch : List Draw) (sample : Draw) :
    batchTokens dataset config (batch ++ [sample]) =
      (batch.map dataset.sampleLength).sum + dataset.sampleLength sample := by
  rw [batchTokens, if_pos packed, map_append, sum_append, map_singleton, sum_singleton]

def paddedTokens (dataset : BaseDataset) (curMax numChosen : Nat) (cand : Draw) : Nat :=
  max curMax (dataset.sampleLength cand) * (numChosen + 1)

def betterOf (dataset : BaseDataset) (config : LoadBalancedConfig) (curMax numChosen : Nat)
    (better : Candidate → Candidate → Bool) (idx : Nat) (cand : Draw)
    (best : Option Candidate) : Option Candidate :=
  if (paddedTokens dataset curMax numChosen cand : Int) ≤ config.maxTokensForBatch ∧
      (match best with
        | none => true
        | some current => better ⟨idx, paddedTokens dataset curMax numChosen cand,
            ((dataset.sampleLength cand : Int) - curMax).natAbs⟩ current) = true then
    some ⟨idx, paddedTokens dataset curMax numChosen cand,
      ((dataset.sampleLength cand : Int) - curMax).natAbs⟩
  else best

variable {curMax numChosen : Nat} {better : Candidate → Candidate → Bool}

theorem scanCandidates_cons (idx : Nat) (cand : Draw) (rest : List Draw) (best : Option Candidate) :
    scanCandidates dataset config curMax numChosen better idx (cand :: rest) best =
      scanCandidates dataset config curMax numChosen better (idx + 1) rest
        (betterOf dataset config curMax numChosen better idx cand best) := rfl

theorem betterOf_cases (idx : Nat) (cand : Draw) (best : Option Candidate) :
    (∃ candidate, betterOf dataset config curMax numChosen better idx cand best =
          some candidate ∧ candidate.idx = idx ∧
        candidate.newTotalTokens = paddedTokens dataset curMax numChosen cand ∧
        (paddedTokens dataset curMax numChosen cand : Int) ≤ config.maxTokensForBatch ∧
        ∀ current, best = some current → better candidate current = true) ∨
      (betterOf dataset config curMax numChosen better idx cand best = best ∧
        ((paddedTokens dataset curMax numChosen cand : Int) ≤ config.maxTokensForBatch →
          ∃ current candidate, best = some current ∧
            candidate.newTotalTokens = paddedTokens dataset curMax numChosen cand ∧
            better candidate current = false)) := by
  unfold betterOf
  by_cases fits : (paddedTokens dataset curMax numChosen cand : Int) ≤ config.maxTokensForBatch
  · cases best with
    | none => exact .inl ⟨_, if_pos ⟨fits, rfl⟩, rfl, rfl, fits, fun current none => by cases none⟩
    | some current =>
      cases replaces : better ⟨idx, paddedTokens dataset curMax numChosen cand,
          ((dataset.sampleLength cand : Int) - curMax).natAbs⟩ current with
      | true =>
        refine .inl ⟨_, if_pos ⟨fits, replaces⟩, rfl, rfl, fits, fun current' same => ?_⟩
        cases same
        exact replaces
      | false =>
        exact .inr ⟨if_neg (by simp [replaces]), fun _ => ⟨current, _, rfl, rfl, replaces⟩⟩
  · exact .inr ⟨if_neg fun both => fits both.1, fun within => absurd within fits⟩

variable {start : Nat} {pool chosen : List Draw} {best : Option Candidate} {found : Candidate}

theorem scanCandidates_eq_none_iff :
    scanCandidates dataset config curMax numChosen better start pool best = none ↔
      best = none ∧ ∀ cand ∈ pool,
        config.maxTokensForBatch < paddedTokens dataset curMax numChosen cand := by
  induction pool generalizing start best with
  | nil => simp [scanCandidates]
  | cons cand rest ih =>
    have first : betterOf dataset config curMax numChosen better start cand best = none ↔
        best = none ∧
          config.maxTokensForBatch < paddedTokens dataset curMax numChosen cand := by
      rcases @betterOf_cases dataset config curMax numChosen better start cand best with
        ⟨candidate, replaced, -, -, fits, -⟩ | ⟨kept, worse⟩
      · rw [replaced]
        exact iff_of_false (by simp) fun both => Int.not_le.mpr both.2 fits
      · rw [kept]
        refine ⟨fun none => ⟨none, Int.not_le.mp fun fits => ?_⟩, And.left⟩
        obtain ⟨current, _, some, _⟩ := worse fits
        rw [none] at some
        cases some
    rw [scanCandidates_cons, ih, first, forall_mem_cons, and_assoc]

theorem scanCandidates_eq_some
    (scanned : scanCandidates dataset config curMax numChosen better start pool best =
      some found) :
    best = some found ∨ ∃ cand, pool[found.idx - start]? = some cand ∧ start ≤ found.idx ∧
      found.newTotalTokens = paddedTokens dataset curMax numChosen cand ∧
      (paddedTokens dataset curMax numChosen cand : Int) ≤ config.maxTokensForBatch := by
  induction pool generalizing start best with
  | nil => exact .inl scanned
  | cons cand rest ih =>
    rw [scanCandidates_cons] at scanned
    rcases ih scanned with before | ⟨later, there, above, cost, fits⟩
    · rcases @betterOf_cases dataset config curMax numChosen better start cand best with
        ⟨candidate, replaced, idx, cost, fits, -⟩ | ⟨kept, -⟩
      · rw [before] at replaced
        cases replaced
        exact .inr ⟨cand, by simp [idx], Nat.le_of_eq idx.symm, cost, fits⟩
      · exact .inl (kept.symm.trans before)
    · refine .inr ⟨later, ?_, by omega, cost, fits⟩
      have next : found.idx - start = found.idx - (start + 1) + 1 := by omega
      rw [next, getElem?_cons_succ]
      exact there

theorem scanCandidates_le (less : ∀ candidate current, better candidate current = true →
      candidate.newTotalTokens ≤ current.newTotalTokens)
    (notLess : ∀ candidate current, better candidate current = false →
      current.newTotalTokens ≤ candidate.newTotalTokens)
    (scanned : scanCandidates dataset config curMax numChosen better start pool best =
      some found) :
    (∀ current, best = some current → found.newTotalTokens ≤ current.newTotalTokens) ∧
      ∀ cand ∈ pool,
        (paddedTokens dataset curMax numChosen cand : Int) ≤ config.maxTokensForBatch →
          found.newTotalTokens ≤ paddedTokens dataset curMax numChosen cand := by
  induction pool generalizing start best with
  | nil =>
    refine ⟨fun current same => ?_, fun cand member => by cases member⟩
    rw [scanCandidates, same] at scanned
    cases scanned
    exact Nat.le_refl _
  | cons cand rest ih =>
    rw [scanCandidates_cons] at scanned
    obtain ⟨before, after⟩ := ih scanned
    rw [forall_mem_cons]
    rcases @betterOf_cases dataset config curMax numChosen better start cand best with
      ⟨candidate, replaced, -, cost, -, replaces⟩ | ⟨kept, worse⟩
    · have here := before candidate replaced
      rw [cost] at here
      refine ⟨fun current same => ?_, fun _ => here, after⟩
      exact Nat.le_trans here (cost ▸ less _ _ (replaces current same))
    · rw [kept] at before
      refine ⟨before, fun fits => ?_, after⟩
      obtain ⟨current, candidate, same, cost, notBetter⟩ := worse fits
      exact Nat.le_trans (before current same) (cost ▸ notLess _ _ notBetter)

theorem withinBudget_append_padded (padded : config.seqPackingEnabled = false)
    (chosen : List Draw) (cand : Draw) :
    WithinBudget dataset config (chosen ++ [cand]) ↔
      (paddedTokens dataset (longest dataset chosen) chosen.length cand : Int) ≤
        config.maxTokensForBatch := by
  rw [WithinBudget, batchTokens_append_padded padded, paddedTokens]

theorem withinBudget_append_packed (packed : config.seqPackingEnabled = true)
    (chosen : List Draw) (cand : Draw) :
    WithinBudget dataset config (chosen ++ [cand]) ↔
      (((chosen.map dataset.sampleLength).sum + dataset.sampleLength cand : Nat) : Int) ≤
        config.maxTokensForBatch := by
  rw [WithinBudget, batchTokens_append_packed packed]

theorem findBestCandidate_eq_none_iff :
    findBestCandidate dataset config (longest dataset chosen) chosen pool = none ↔
      ∀ cand ∈ pool, ¬ WithinBudget dataset config (chosen ++ [cand]) := by
  cases packing : config.seqPackingEnabled with
  | true =>
    rw [findBestCandidate, if_pos packing, findBestCandidateSeqPacking, findIdx?_eq_none_iff]
    refine forall₂_congr fun cand _ => ?_
    rw [withinBudget_append_packed packing, decide_eq_false_iff_not]
  | false =>
    have scanned : ∀ {better : Candidate → Candidate → Bool},
        (scanCandidates dataset config (longest dataset chosen) chosen.length better 0 pool
          none).map (·.idx) = none ↔
            ∀ cand ∈ pool, ¬ WithinBudget dataset config (chosen ++ [cand]) := by
      intro better
      rw [Option.map_eq_none_iff, scanCandidates_eq_none_iff, and_iff_right rfl]
      refine forall₂_congr fun cand _ => ?_
      rw [withinBudget_append_padded packing, Int.not_le]
    rw [findBestCandidate, packing, if_neg (by simp)]
    cases config.batchingStrategy with
    | preferClosest => exact scanned
    | preferFirst => exact scanned

/-- The candidate that is found can be added; without packing no other costs less. -/
theorem findBestCandidate_eq_some {idx : Nat}
    (found : findBestCandidate dataset config (longest dataset chosen) chosen pool =
      some idx) :
    ∃ cand, pool[idx]? = some cand ∧ WithinBudget dataset config (chosen ++ [cand]) ∧
      (config.seqPackingEnabled = false → ∀ other ∈ pool,
        WithinBudget dataset config (chosen ++ [other]) →
          batchTokens dataset config (chosen ++ [cand]) ≤
            batchTokens dataset config (chosen ++ [other])) := by
  cases packing : config.seqPackingEnabled with
  | true =>
    rw [findBestCandidate, if_pos packing, findBestCandidateSeqPacking,
      findIdx?_eq_some_iff_getElem] at found
    obtain ⟨inside, fits, -⟩ := found
    refine ⟨pool[idx], getElem?_eq_getElem inside, ?_, fun none => by cases none⟩
    rw [withinBudget_append_packed packing]
    exact of_decide_eq_true fits
  | false =>
    have scanned : ∀ {better : Candidate → Candidate → Bool},
        (∀ candidate current, better candidate current = true →
          candidate.newTotalTokens ≤ current.newTotalTokens) →
        (∀ candidate current, better candidate current = false →
          current.newTotalTokens ≤ candidate.newTotalTokens) →
        (scanCandidates dataset config (longest dataset chosen) chosen.length better 0 pool
          none).map (·.idx) = some idx →
        ∃ cand, pool[idx]? = some cand ∧ WithinBudget dataset config (chosen ++ [cand]) ∧
          (false = false → ∀ other ∈ pool,
            WithinBudget dataset config (chosen ++ [other]) →
              batchTokens dataset config (chosen ++ [cand]) ≤
                batchTokens dataset config (chosen ++ [other])) := by
      intro better less notLess result
      obtain ⟨candidate, best, rfl⟩ := Option.map_eq_some_iff.mp result
      have least := (scanCandidates_le less notLess best).2
      rcases scanCandidates_eq_some best with none | ⟨cand, there, -, cost, fits⟩
      · cases none
      · refine ⟨cand, there, (withinBudget_append_padded packing _ _).mpr fits, ?_⟩
        intro _ other member otherFits
        have bound := least other member ((withinBudget_append_padded packing _ _).mp otherFits)
        rw [cost] at bound
        rw [batchTokens_append_padded packing, batchTokens_append_padded packing]
        exact bound
    rw [findBestCandidate, packing, if_neg (by simp)] at found
    cases strategy : config.batchingStrategy with
    | preferClosest =>
      rw [strategy] at found
      refine scanned ?_ ?_ found
      · intro candidate current replaces
        have better := of_decide_eq_true replaces
        omega
      · intro candidate current kept
        have worse := of_decide_eq_false kept
        omega
    | preferFirst =>
      rw [strategy] at found
      refine scanned ?_ ?_ found
      · intro candidate current replaces
        exact Nat.le_of_lt (of_decide_eq_true replaces)
      · intro candidate current kept
        exact Nat.le_of_not_lt (of_decide_eq_false kept)

theorem growBatch_spec {rounds : Nat} {taken rest : List Draw} (enough : pool.length ≤ rounds)
    (grown : growBatch dataset config rounds (longest dataset chosen) chosen pool =
      (taken, rest)) :
    (taken = chosen ∨ WithinBudget dataset config taken) ∧
      ∀ sample ∈ rest, ¬ WithinBudget dataset config (taken ++ [sample]) := by
  induction rounds generalizing chosen pool with
  | zero =>
    rw [growBatch] at grown
    obtain ⟨rfl, rfl⟩ := Prod.mk.inj grown
    have empty := length_eq_zero_iff.mp (Nat.le_zero.mp enough)
    exact ⟨.inl rfl, fun sample member => by simp [empty] at member⟩
  | succ rounds ih =>
    rw [growBatch] at grown
    cases found : findBestCandidate dataset config (longest dataset chosen) chosen pool with
    | none =>
      simp only [found] at grown
      obtain ⟨rfl, rfl⟩ := Prod.mk.inj grown
      exact ⟨.inl rfl, findBestCandidate_eq_none_iff.mp found⟩
    | some idx =>
      have inside := findBestCandidate_lt dataset config found
      obtain ⟨cand, there, fits, -⟩ := findBestCandidate_eq_some found
      rw [getElem?_eq_getElem inside, Option.some.injEq] at there
      simp only [found, removeFromPool_eq inside, there, ← longest_append_singleton] at grown
      have shorter := length_eraseIdx_of_lt inside
      obtain ⟨budget, full⟩ := ih (by omega) grown
      refine ⟨.inr ?_, full⟩
      rcases budget with rfl | within
      · exact fits
      · exact within

end BestFit

namespace SamplePool

variable (shuffling : SeededShuffle) (dataset : BaseDataset)
  (config : LoadBalancedConfig) (worker : WorkerInfo)

/-- The batches of so many calls of `_best_fit_batch`, one after the other. -/
def bestFitBatches : Nat → SamplePool → List (List Draw)
  | 0, _ => []
  | calls + 1, self =>
    match self.bestFitBatch shuffling dataset config worker with
    | (some batch, next) => batch :: bestFitBatches calls next
    | (none, _) => []

variable {shuffling dataset config worker}

variable {self next : SamplePool} {batch : List Draw}

/-- How a batch comes out of the pool: its seed is the oldest sample, the others are taken
one by one, and unless the seed is too long they go on as long as any fits. -/
theorem bestFitBatch_eq_some
    (formed : self.bestFitBatch shuffling dataset config worker = (some batch, next)) :
    ∃ seed rest more,
      (self.fillPool shuffling dataset config worker).pool = seed :: rest ∧
      batch = seed :: more ∧ Extracts more rest next.pool ∧
      (IsOverLong dataset config seed → more = []) ∧
      (¬ IsOverLong dataset config seed →
        growBatch dataset config rest.length (dataset.sampleLength seed) [seed] rest =
          (batch, next.pool)) := by
  rw [bestFitBatch] at formed
  cases filled : (self.fillPool shuffling dataset config worker).pool with
  | nil => simp [filled] at formed
  | cons seed rest =>
    simp only [filled] at formed
    split at formed
    case isTrue long =>
      cases formed
      exact ⟨seed, rest, [], rfl, rfl, .nil rest, fun _ => rfl, fun short => absurd long short⟩
    case isFalse short =>
      rcases grown : growBatch dataset config rest.length (dataset.sampleLength seed)
        [seed] rest with ⟨chosen, pool⟩
      simp only [grown] at formed
      cases formed
      obtain ⟨more, rfl, extracts⟩ := growBatch_extracts dataset config grown
      exact ⟨seed, rest, more, rfl, rfl, extracts, fun long => absurd long short, fun _ => grown⟩

theorem longest_singleton (seed : Draw) :
    longest dataset [seed] = dataset.sampleLength seed := Nat.max_zero _

theorem bestFitBatch_budget
    (formed : self.bestFitBatch shuffling dataset config worker = (some batch, next)) :
    ((∃ sample, batch = [sample]) ∨ WithinBudget dataset config batch) ∧
      ((∀ seed ∈ batch.head?, ¬ IsOverLong dataset config seed) →
        ∀ sample ∈ next.pool, ¬ WithinBudget dataset config (batch ++ [sample])) := by
  obtain ⟨seed, rest, more, filled, rfl, extracts, alone, grown⟩ := bestFitBatch_eq_some formed
  by_cases long : IsOverLong dataset config seed
  · rw [alone long]
    exact ⟨.inl ⟨seed, rfl⟩, fun short => absurd long (short seed rfl)⟩
  · have growing := grown long
    rw [← @longest_singleton dataset seed] at growing
    obtain ⟨budget, full⟩ := growBatch_spec (Nat.le_refl _) growing
    refine ⟨?_, fun _ => full⟩
    rcases budget with single | within
    · exact .inl ⟨seed, single⟩
    · exact .inr within

theorem bestFitBatch_rest
    (formed : self.bestFitBatch shuffling dataset config worker = (some batch, next)) :
    (batch ++ next.pool).Perm (self.fillPool shuffling dataset config worker).pool ∧
      next.pool.Sublist (self.fillPool shuffling dataset config worker).pool := by
  obtain ⟨seed, rest, more, filled, rfl, extracts, -, -⟩ := bestFitBatch_eq_some formed
  rw [filled]
  exact ⟨extracts.perm.cons seed, extracts.sublist.trans (sublist_cons_self _ _)⟩

/-- The first samples of the pool are all emitted within as many batches, by induction on
their number. -/
theorem take_subperm_bestFitBatches (count : Nat) (self : SamplePool) :
    ((self.fillPool shuffling dataset config worker).pool.take count).Subperm
      (bestFitBatches shuffling dataset config worker count self).flatten := by
  induction count generalizing self with
  | zero => exact nil_subperm
  | succ count ih =>
    rw [bestFitBatches]
    rcases formed : self.bestFitBatch shuffling dataset config worker with ⟨_ | batch, next⟩
    · -- no batch is formed of an empty pool only
      have empty : (self.fillPool shuffling dataset config worker).pool = [] := by
        rcases bestFitBatch_cases shuffling dataset config worker self with
          ⟨dried, stopped, dry, -⟩ | ⟨batch, other, served, -, -⟩
        · cases filled : (self.fillPool shuffling dataset config worker).pool with
          | nil => rfl
          | cons seed rest =>
            simp only [bestFitBatch, filled] at stopped
            split at stopped <;> cases stopped
        · rw [formed] at served
          cases served
      rw [empty, take_nil]
      exact nil_subperm
    · obtain ⟨seed, rest, more, filled, rfl, extracts, -, -⟩ := bestFitBatch_eq_some formed
      have refilled : (next.pool.take count).Subperm
          ((next.fillPool shuffling dataset config worker).pool.take count) :=
        ((fillPoolBy_pool shuffling dataset config worker _ next).take count ).sublist.subperm
      have later := refilled.trans (ih next)
      have taken := extracts.take_subperm count
      rw [filled, take_succ_cons, flatten_cons, cons_append, subperm_cons]
      exact taken.trans ((subperm_append_left more).mpr later)

/-- Every batch keeps to the budget or is a single sample, leaves no sample behind that
would fit unless its seed is too long, keeps the order of the others, and serves the pool
from its front. -/
theorem bestFitBatch_sound (self : SamplePool) :
    (∀ batch next, self.bestFitBatch shuffling dataset config worker = (some batch, next) →
      ((∃ sample, batch = [sample]) ∨ WithinBudget dataset config batch) ∧
        ((∀ seed ∈ batch.head?, ¬ IsOverLong dataset config seed) →
          ∀ sample ∈ next.pool, ¬ WithinBudget dataset config (batch ++ [sample])) ∧
        (batch ++ next.pool).Perm (self.fillPool shuffling dataset config worker).pool ∧
        next.pool.Sublist (self.fillPool shuffling dataset config worker).pool) ∧
      ∀ position, ((self.fillPool shuffling dataset config worker).pool.take
          (position + 1)).Subperm
        (bestFitBatches shuffling dataset config worker (position + 1) self).flatten := by
  refine ⟨fun batch next formed => ?_, fun position => take_subperm_bestFitBatches _ self⟩
  obtain ⟨budget, full⟩ := bestFitBatch_budget formed
  obtain ⟨conserved, ordered⟩ := bestFitBatch_rest formed
  exact ⟨budget, full, conserved, ordered⟩

end SamplePool

end CosmosRl.Data
