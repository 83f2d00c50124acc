import CosmosRl.Data.BatchBudget

/-!
Samples of at least `max_tokens_len` tokens.

Only the seed of a batch is tested against `max_tokens_len`.  A longer sample is still
pulled in as a candidate when the budget has room for it after the samples that the greedy
loop takes before.
-/

namespace CosmosRl.Data

open CosmosRl.Foundation List

section Pool

variable (dataset : BaseDataset) (config : LoadBalancedConfig)

def ReachesMaxLen (sample : Draw) : Prop :=
  config.maxTokensLen ≤ dataset.sampleLength sample

instance (sample : Draw) : Decidable (ReachesMaxLen dataset config sample) :=
  inferInstanceAs (Decidable (config.maxTokensLen ≤ dataset.sampleLength sample))

def packedTokens (tokens : Nat) : List Draw → Nat
  | [] => tokens
  | cand :: rest =>
    if ((tokens + dataset.sampleLength cand : Nat) : Int) ≤ config.maxTokensForBatch then
      packedTokens (tokens + dataset.sampleLength cand) rest
    else packedTokens tokens rest

/-- No long sample fits beside the seed: without packing the budget has no room for it
together with all shorter ones, with packing none behind the samples before it. -/
def KeepsLongOut (seed : Draw) (rest : List Draw) : Prop :=
  if config.seqPackingEnabled then
    ∀ front sample back, rest = front ++ sample :: back → ReachesMaxLen dataset config sample →
      config.maxTokensForBatch < ((packedTokens dataset config (dataset.sampleLength seed) front +
        dataset.sampleLength sample : Nat) : Int)
  else
    ∀ sample ∈ rest, ReachesMaxLen dataset config sample →
      config.maxTokensForBatch < ((dataset.sampleLength sample *
        ((rest.filter fun other => ¬ ReachesMaxLen dataset config other).length + 2) : Nat) : Int)

def PoolKeepsLongOut : List Draw → Prop
  | [] => True
  | seed :: rest => IsOverLong dataset config seed ∨ KeepsLongOut dataset config seed rest

variable {dataset config}

section Padded

variable (padded : config.seqPackingEnabled = false)

include padded

omit padded in
theorem longest_le {batch : List Draw} {bound : Nat}
    (bounded : ∀ sample ∈ batch, dataset.sampleLength sample ≤ bound) :
    longest dataset batch ≤ bound := by
  induction batch with
  | nil => exact Nat.zero_le _
  | cons first rest ih =>
    rw [forall_mem_cons] at bounded
    rw [longest, map_cons, foldr_cons]
    exact Nat.max_le.mpr ⟨bounded.1, ih bounded.2⟩

variable {long : Draw} {chosen pool : List Draw}

omit padded in
theorem length_lt_of_reaches {short : Draw}
    (isShort : ¬ ReachesMaxLen dataset config short) (isLong : ReachesMaxLen dataset config long) :
    dataset.sampleLength short < dataset.sampleLength long := by
  unfold ReachesMaxLen at isShort isLong
  omega

section

variable (shortChosen : ∀ sample ∈ chosen, ¬ ReachesMaxLen dataset config sample)

include shortChosen

theorem batchTokens_append_long (isLong : ReachesMaxLen dataset config long) :
    batchTokens dataset config (chosen ++ [long]) =
      dataset.sampleLength long * (chosen.length + 1) := by
  have below : longest dataset chosen ≤ dataset.sampleLength long :=
    longest_le fun sample member =>
      Nat.le_of_lt (length_lt_of_reaches (shortChosen sample member) isLong)
  rw [batchTokens_append_padded padded, Nat.max_eq_right below]

theorem batchTokens_append_short_lt {short : Draw}
    (isShort : ¬ ReachesMaxLen dataset config short) (isLong : ReachesMaxLen dataset config long) :
    batchTokens dataset config (chosen ++ [short]) <
      batchTokens dataset config (chosen ++ [long]) := by
  have less := length_lt_of_reaches isShort isLong
  have below : longest dataset chosen ≤ dataset.sampleLength long - 1 := by
    refine longest_le fun sample member => ?_
    have here := length_lt_of_reaches (shortChosen sample member) isLong
    omega
  rw [batchTokens_append_long padded shortChosen isLong, batchTokens_append_padded padded]
  exact Nat.mul_lt_mul_of_pos_right (by omega) (Nat.succ_pos _)

theorem findBestCandidate_long {idx : Nat} {cand : Draw}
    (found : findBestCandidate dataset config (longest dataset chosen) chosen pool = some idx)
    (there : pool[idx]? = some cand) (isLong : ReachesMaxLen dataset config cand) :
    (pool.filter fun other => ¬ ReachesMaxLen dataset config other) = [] ∧
      ((dataset.sampleLength cand * (chosen.length + 1) : Nat) : Int) ≤
        config.maxTokensForBatch := by
  obtain ⟨cand', there', fits, least⟩ := findBestCandidate_eq_some found
  rw [there, Option.some.injEq] at there'
  subst there'
  rw [WithinBudget, batchTokens_append_long padded shortChosen isLong] at fits
  refine ⟨?_, fits⟩
  rw [filter_eq_nil_iff]
  intro other member isShort
  have less := batchTokens_append_short_lt padded shortChosen (of_decide_eq_true isShort) isLong
  have otherFits : WithinBudget dataset config (chosen ++ [other]) := by
    rw [WithinBudget]
    rw [batchTokens_append_long padded shortChosen isLong] at less
    omega
  exact absurd (least padded other member otherFits) (Nat.not_le.mpr less)

end

omit padded in
theorem length_filter_eraseIdx {idx : Nat} (inside : idx < pool.length)
    (isShort : ¬ ReachesMaxLen dataset config pool[idx]) :
    ((pool.eraseIdx idx).filter fun other => ¬ ReachesMaxLen dataset config other).length + 1 =
      (pool.filter fun other => ¬ ReachesMaxLen dataset config other).length := by
  have moved := ((getElem_cons_eraseIdx_perm inside).filter
    fun other => ¬ ReachesMaxLen dataset config other).length_eq
  rwa [filter_cons_of_pos (by simpa using isShort), length_cons] at moved

/-- As long as the budget has no room for a long sample beside all shorter ones, none is
taken. -/
theorem growBatch_short {rounds shorts : Nat} {taken rest : List Draw}
    (shortChosen : ∀ sample ∈ chosen, ¬ ReachesMaxLen dataset config sample)
    (counted : chosen.length +
      (pool.filter fun other => ¬ ReachesMaxLen dataset config other).length = shorts)
    (noRoom : ∀ sample ∈ pool, ReachesMaxLen dataset config sample →
      config.maxTokensForBatch < ((dataset.sampleLength sample * (shorts + 1) : Nat) : Int))
    (grown : growBatch dataset config rounds (longest dataset chosen) chosen pool =
      (taken, rest)) :
    ∀ sample ∈ taken, ¬ ReachesMaxLen dataset config sample := by
  induction rounds generalizing chosen pool with
  | zero =>
    rw [growBatch] at grown
    obtain ⟨rfl, -⟩ := Prod.mk.inj grown
    exact shortChosen
  | succ rounds ih =>
    rw [growBatch] at grown
    cases found : findBestCandidate dataset config (longest dataset chosen) chosen pool with
    | none =>
      simp only [found] at grown
      obtain ⟨rfl, -⟩ := Prod.mk.inj grown
      exact shortChosen
    | some idx =>
      have inside := findBestCandidate_lt dataset config found
      have isShort : ¬ ReachesMaxLen dataset config pool[idx] := by
        intro isLong
        obtain ⟨none, fits⟩ := findBestCandidate_long padded shortChosen found
          (getElem?_eq_getElem inside) isLong
        have exceeds := noRoom _ (getElem_mem inside) isLong
        rw [none, length_nil, Nat.add_zero] at counted
        rw [← counted] at exceeds
        omega
      simp only [found, removeFromPool_eq inside, ← longest_append_singleton] at grown
      have fewer := length_filter_eraseIdx inside isShort
      refine ih ?_ ?_ ?_ grown
      · rw [forall_mem_append]
        exact ⟨shortChosen, by simpa using isShort⟩
      · rw [length_append, length_singleton]
        omega
      · exact fun sample member => noRoom sample (mem_of_mem_eraseIdx member)

/-- When the budget has room for a long sample beside all shorter ones, one is taken. -/
theorem growBatch_long {rounds shorts : Nat} {taken rest : List Draw}
    (shortChosen : ∀ sample ∈ chosen, ¬ ReachesMaxLen dataset config sample)
    (counted : chosen.length +
      (pool.filter fun other => ¬ ReachesMaxLen dataset config other).length = shorts)
    (enough : pool.length ≤ rounds) (member : long ∈ pool)
    (isLong : ReachesMaxLen dataset config long)
    (room : ((dataset.sampleLength long * (shorts + 1) : Nat) : Int) ≤ config.maxTokensForBatch)
    (grown : growBatch dataset config rounds (longest dataset chosen) chosen pool =
      (taken, rest)) :
    ∃ sample ∈ taken, ReachesMaxLen dataset config sample := by
  induction rounds generalizing chosen pool with
  | zero =>
    have empty := length_eq_zero_iff.mp (Nat.le_zero.mp enough)
    simp [empty] at member
  | succ rounds ih =>
    rw [growBatch] at grown
    cases found : findBestCandidate dataset config (longest dataset chosen) chosen pool with
    | none =>
      have exceeds := findBestCandidate_eq_none_iff.mp found long member
      rw [WithinBudget, batchTokens_append_long padded shortChosen isLong] at exceeds
      have fewer : dataset.sampleLength long * (chosen.length + 1) ≤
          dataset.sampleLength long * (shorts + 1) :=
        Nat.mul_le_mul_left _ (by omega)
      exact absurd (Int.le_trans (Int.ofNat_le.mpr fewer) room) exceeds
    | some idx =>
      have inside := findBestCandidate_lt dataset config found
      simp only [found, removeFromPool_eq inside, ← longest_append_singleton] at grown
      by_cases candLong : ReachesMaxLen dataset config pool[idx]
      · obtain ⟨more, rfl, -⟩ := growBatch_extracts dataset config grown
        exact ⟨pool[idx], by simp, candLong⟩
      · have fewer := length_filter_eraseIdx inside candLong
        have shorter := length_eraseIdx_of_lt inside
        refine ih ?_ ?_ (by omega) ?_ grown
        · rw [forall_mem_append]
          exact ⟨shortChosen, by simpa using candLong⟩
        · rw [length_append, length_singleton]
          omega
        · have kept := (getElem_cons_eraseIdx_perm inside).mem_iff.mpr member
          rcases mem_cons.mp kept with same | stays
          · exact absurd (same ▸ isLong) candLong
          · exact stays

end Padded

variable (dataset config) in
def firstFit (tokens : Nat) : List Draw → List Draw
  | [] => []
  | cand :: rest =>
    if ((tokens + dataset.sampleLength cand : Nat) : Int) ≤ config.maxTokensForBatch then
      cand :: firstFit (tokens + dataset.sampleLength cand) rest
    else firstFit tokens rest

/-- A sample is added when the samples before it leave it room. -/
theorem mem_firstFit {tokens : Nat} {pool : List Draw} {sample : Draw} :
    sample ∈ firstFit dataset config tokens pool ↔ ∃ front back, pool = front ++ sample :: back ∧
      ((packedTokens dataset config tokens front + dataset.sampleLength sample : Nat) : Int) ≤
        config.maxTokensForBatch := by
  induction pool generalizing tokens with
  | nil => simp [firstFit]
  | cons cand rest ih =>
    have later : (∃ front back, cand :: rest = front ++ sample :: back ∧
        ((packedTokens dataset config tokens front + dataset.sampleLength sample : Nat) : Int) ≤
          config.maxTokensForBatch) ↔
        (cand = sample ∧ ((tokens + dataset.sampleLength sample : Nat) : Int) ≤
          config.maxTokensForBatch) ∨
        ∃ front back, rest = front ++ sample :: back ∧
          ((packedTokens dataset config tokens (cand :: front) +
            dataset.sampleLength sample : Nat) : Int) ≤ config.maxTokensForBatch := by
      constructor
      · rintro ⟨front, back, split, fits⟩
        cases front with
        | nil =>
          obtain ⟨same, -⟩ := List.cons.inj split
          exact .inl ⟨same, fits⟩
        | cons first front =>
          obtain ⟨rfl, others⟩ := List.cons.inj split
          exact .inr ⟨front, back, others, fits⟩
      · rintro (⟨rfl, fits⟩ | ⟨front, back, rfl, fits⟩)
        · exact ⟨[], rest, rfl, fits⟩
        · exact ⟨cand :: front, back, rfl, fits⟩
    rw [later, firstFit]
    simp only [packedTokens]
    split
    case isTrue fits =>
      rw [mem_cons, ih]
      refine or_congr ⟨?_, fun both => both.1.symm⟩ Iff.rfl
      rintro rfl
      exact ⟨rfl, fits⟩
    case isFalse exceeds =>
      rw [ih]
      refine ⟨.inr, ?_⟩
      rintro (⟨rfl, fits⟩ | found)
      · exact absurd fits exceeds
      · exact found

/-- Scanning the pool from its beginning again after every sample takes the samples that one
pass takes: those passed over do not fit later either. -/
theorem growBatch_packed (packed : config.seqPackingEnabled = true) {rounds curMax : Nat}
    {chosen front pool : List Draw} (enough : (front ++ pool).length ≤ rounds)
    (exceeds : ∀ sample ∈ front, config.maxTokensForBatch <
      (((chosen.map dataset.sampleLength).sum + dataset.sampleLength sample : Nat) : Int)) :
    (growBatch dataset config rounds curMax chosen (front ++ pool)).1 =
      chosen ++ firstFit dataset config (chosen.map dataset.sampleLength).sum pool := by
  induction pool generalizing rounds curMax chosen front with
  | nil =>
    have nothing : findBestCandidate dataset config curMax chosen front = none := by
      rw [findBestCandidate, if_pos packed, findBestCandidateSeqPacking, findIdx?_eq_none_iff]
      exact fun sample member => decide_eq_false (Int.not_le.mpr (exceeds sample member))
    cases rounds with
    | zero => simp [growBatch, firstFit]
    | succ rounds => simp [growBatch, nothing, firstFit]
  | cons cand pool ih =>
    rw [length_append, length_cons] at enough
    rw [firstFit]
    split
    case isTrue fits =>
      obtain ⟨rounds, rfl⟩ : ∃ less, rounds = less + 1 := ⟨rounds - 1, by omega⟩
      have found : findBestCandidate dataset config curMax chosen (front ++ cand :: pool) =
          some front.length := by
        rw [findBestCandidate, if_pos packed, findBestCandidateSeqPacking,
          findIdx?_append, findIdx?_eq_none_iff.mpr fun sample member =>
            decide_eq_false (Int.not_le.mpr (exceeds sample member)),
          findIdx?_cons, if_pos (decide_eq_true fits)]
        simp
      have inside : front.length < (front ++ cand :: pool).length := by simp
      have erased : (front ++ cand :: pool).eraseIdx front.length = front ++ pool := by
        rw [eraseIdx_append_of_length_le (Nat.le_refl _), Nat.sub_self]
        rfl
      have grows : (chosen ++ [cand]).map dataset.sampleLength =
          chosen.map dataset.sampleLength ++ [dataset.sampleLength cand] := by
        rw [map_append, map_singleton]
      rw [growBatch]
      simp only [found, removeFromPool_eq inside, erased, getElem_append_right
        (Nat.le_refl front.length), Nat.sub_self, getElem_cons_zero]
      rw [ih (by rw [length_append]; omega), grows, sum_append, sum_singleton, append_assoc]
      · rfl
      · intro sample member
        have before := exceeds sample member
        rw [grows, sum_append, sum_singleton]
        omega
    case isFalse tooMany =>
      have passed := @ih rounds curMax chosen (front ++ [cand])
        (by simp; omega) (by
          rw [forall_mem_append]
          exact ⟨exceeds, by simpa using tooMany⟩)
      rw [append_assoc, singleton_append] at passed
      exact passed

end Pool

namespace SamplePool

variable (shuffling : SeededShuffle) (dataset : BaseDataset)
  (config : LoadBalancedConfig) (worker : WorkerInfo)

def LongAlone (self : SamplePool) : Prop :=
  ∀ batch next, self.bestFitBatch shuffling dataset config worker = (some batch, next) →
    ∀ sample ∈ batch, ReachesMaxLen dataset config sample → batch = [sample]

variable {shuffling dataset config worker}

theorem growBatch_short_iff {seed : Draw} {rest taken left : List Draw}
    (isShort : ¬ ReachesMaxLen dataset config seed)
    (grown : growBatch dataset config rest.length (dataset.sampleLength seed) [seed] rest =
      (taken, left)) :
    (∀ sample ∈ taken, ¬ ReachesMaxLen dataset config sample) ↔
      KeepsLongOut dataset config seed rest := by
  have shortSeed : ∀ sample ∈ [seed], ¬ ReachesMaxLen dataset config sample := by
    simpa using isShort
  rw [KeepsLongOut]
  cases packing : config.seqPackingEnabled with
  | true =>
    have once := @growBatch_packed dataset config packing rest.length
      (dataset.sampleLength seed) [seed] [] rest (Nat.le_refl _) (by simp)
    rw [nil_append, grown] at once
    simp only [map_singleton, sum_singleton] at once
    rw [if_pos rfl, once, singleton_append, forall_mem_cons, and_iff_right isShort]
    constructor
    · intro short front sample back split isLong
      by_contra room
      exact short sample (mem_firstFit.mpr ⟨front, back, split, Int.not_lt.mp room⟩) isLong
    · intro noRoom sample member isLong
      obtain ⟨front, back, split, fits⟩ := mem_firstFit.mp member
      exact absurd fits (Int.not_le.mpr (noRoom front sample back split isLong))
  | false =>
    rw [← @longest_singleton dataset seed] at grown
    rw [if_neg (by simp)]
    constructor
    · intro short sample member isLong
      by_contra room
      obtain ⟨taken', member', isLong'⟩ := growBatch_long packing shortSeed rfl
        (Nat.le_refl _) member isLong (by
          rw [length_singleton, Nat.add_right_comm, Nat.add_comm]
          exact Int.not_lt.mp room) grown
      exact short taken' member' isLong'
    · intro noRoom
      refine growBatch_short packing shortSeed rfl ?_ grown
      intro sample member isLong
      rw [length_singleton, Nat.add_right_comm, Nat.add_comm]
      exact noRoom sample member isLong

/-- Long samples travel alone in the next batch exactly if its seed is emitted alone or the
budget keeps them out. -/
theorem longAlone_iff (self : SamplePool) :
    LongAlone shuffling dataset config worker self ↔
      PoolKeepsLongOut dataset config
        (self.fillPool shuffling dataset config worker).pool := by
  constructor
  · intro alone
    cases filled : (self.fillPool shuffling dataset config worker).pool with
    | nil => exact trivial
    | cons seed rest =>
      by_cases long : IsOverLong dataset config seed
      · exact .inl long
      · have isShort : ¬ ReachesMaxLen dataset config seed := fun isLong => long (.inl isLong)
        rcases grown : growBatch dataset config rest.length (dataset.sampleLength seed)
          [seed] rest with ⟨taken, left⟩
        refine .inr ((growBatch_short_iff isShort grown).mp fun sample member isLong => ?_)
        obtain ⟨more, rfl, -⟩ := growBatch_extracts dataset config grown
        have formed : self.bestFitBatch shuffling dataset config worker =
            (some ([seed] ++ more),
              { self.fillPool shuffling dataset config worker with pool := left }) := by
          simp only [bestFitBatch, filled]
          rw [IsOverLong] at long
          rw [if_neg long, grown]
        have single := alone _ _ formed sample member isLong
        obtain ⟨same, -⟩ := List.cons.inj single
        exact isShort (same ▸ isLong)
  · intro keeps batch next formed sample member isLong
    obtain ⟨seed, rest, more, filled, rfl, extracts, alone, grown⟩ := bestFitBatch_eq_some formed
    rw [filled] at keeps
    by_cases long : IsOverLong dataset config seed
    · rw [alone long] at member ⊢
      rw [mem_singleton.mp member]
    · have isShort : ¬ ReachesMaxLen dataset config seed := fun isLong => long (.inl isLong)
      have short := (growBatch_short_iff isShort (grown long)).mpr (keeps.resolve_left long)
      exact absurd isLong (short sample member)

def longConfig : LoadBalancedConfig where
  poolSize := 2
  maxTokensForBatch := 20
  batchingStrategy := .preferClosest
  maxTokensLenArg := some 4
  seqPackingEnabled := false
  seed := 0
  dpWorldSize := 1
  accumulateSteps := 1
  accumulateSteps_pos := Nat.le_refl 1
  infiniteLoop := false

def growingSamples : BaseDataset := ⟨8, fun draw => draw.index + 1⟩

/-- A long sample of five tokens is batched behind a seed of three. -/
theorem not_longAlone_five :
    ¬ LongAlone ⟨fun _ indices => indices, fun _ indices => .refl indices⟩ growingSamples
      longConfig ⟨0, 0, 1⟩ ⟨[⟨0, 2⟩, ⟨0, 4⟩], [], 0⟩ := by
  intro alone
  have formed := alone [⟨0, 2⟩, ⟨0, 4⟩] ⟨[], [], 0⟩ (by decide) ⟨0, 4⟩ (by decide) (by decide)
  exact absurd formed (by decide)

end SamplePool

end CosmosRl.Data
