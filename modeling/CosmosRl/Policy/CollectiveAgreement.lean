import CosmosRl.Policy.CollectiveCompletion

/-!
The operations of all ranks of a step, side by side.

The ranks agree on the number of mini-batches of a chunk, but every rank skips mini-batches
by its own teacher results.  They do the same operations exactly if what they keep ends its
chunks after the same numbers of mini-batches.
-/

namespace CosmosRl.Policy

open CosmosRl.Data CosmosRl.Foundation CosmosRl.Utils List
open CosmosRl.Dispatcher (PyError)

structure DataParallelRank (Value : Type) where
  replica : Nat
  rollouts : List (Rollout Value)
  teacherInteractResults : String → Option (List (List Value))
  policyInput : Rollout Value → RLPolicyInput

/-- The backwards whose gradients each reduction takes, numbered from `next`; a reduction
leaves no gradient behind. -/
def reducedBackwards : List Nat → Nat → List Collective → List (List Nat)
  | _, _, [] => []
  | pending, next, .backward :: rest => reducedBackwards (pending ++ [next]) (next + 1) rest
  | pending, next, .allReduceStates :: rest => pending :: reducedBackwards [] next rest
  | pending, next, .forward :: rest => reducedBackwards pending next rest
  | pending, next, .reduceTokens :: rest => reducedBackwards pending next rest

def isShared : Collective → Bool
  | .forward => true
  | .allReduceStates => true
  | .reduceTokens => false
  | .backward => false

section Ranks

variable {Value : Type} [Zero Value] [LT Value] [DecidableLT Value]
  (config : CollectiveConfig) (ranks : List (DataParallelRank Value))

def announced (step : Nat) (rank : DataParallelRank Value) : Nat :=
  match config.grpo.maxTokenLenPerMiniBatch with
  | none => 0
  | some maxTokenLen =>
    match (chunkStarts config.grpo rank.rollouts)[step]? with
    | none => 0
    | some i =>
      localMiniBatches
        ((chunkAt config.grpo rank.rollouts rank.policyInput i).map fun sample =>
          policyComputeMaxLen [sample.input])
        (maxTokenLen.toNat * config.grpo.cpSize)

def gatheredMiniBatches (step : Nat) : Nat :=
  (ranks.map (announced config step)).foldr max 0

def stepOf (rank : DataParallelRank Value) : Outcome PyError (TracedProgress Value) :=
  tracedStep config rank.rollouts rank.teacherInteractResults rank.policyInput
    (gatheredMiniBatches config ranks)

def collectivesOf (rank : DataParallelRank Value) : List Collective :=
  (stepOf config ranks rank).state.collectives

def keptOfRank (rank : DataParallelRank Value) : List Nat :=
  keptCounts config rank.rollouts rank.teacherInteractResults rank.policyInput
    (gatheredMiniBatches config ranks)

def ReadyRank (rank : DataParallelRank Value) : Prop :=
  RankReady config rank.rollouts rank.teacherInteractResults rank.policyInput
    (gatheredMiniBatches config ranks)

/-- The ranks of a replica do their forwards and reductions in the same order, all ranks
reduce equally often, and every gradient is reduced once. -/
structure CollectivesAgree : Prop where
  sameOrder : ∀ first ∈ ranks, ∀ second ∈ ranks, first.replica = second.replica →
    (collectivesOf config ranks first).filter isShared =
      (collectivesOf config ranks second).filter isShared
  sameTokenReductions : ∀ first ∈ ranks, ∀ second ∈ ranks,
    (collectivesOf config ranks first).count .reduceTokens =
      (collectivesOf config ranks second).count .reduceTokens
  sameReductions : ∀ first ∈ ranks, ∀ second ∈ ranks,
    (collectivesOf config ranks first).count .allReduceStates =
      (collectivesOf config ranks second).count .allReduceStates
  reducedOnce : ∀ rank ∈ ranks, (reducedBackwards [] 0 (collectivesOf config ranks rank)).flatten =
    List.range ((collectivesOf config ranks rank).count .backward)

/-- What the ranks keep ends its chunks after the same numbers of mini-batches within a
replica, and needs as many reductions everywhere. -/
structure KeptAgree : Prop where
  sameSegments : ∀ first ∈ ranks, ∀ second ∈ ranks, first.replica = second.replica →
    SameSegments (isDue config) (keptOfRank config ranks first) (keptOfRank config ranks second)
  sameTokens : config.balanceDpToken = true → config.lossType = .tokenMean →
    ∀ first ∈ ranks, ∀ second ∈ ranks,
      (keptOfRank config ranks first).sum = (keptOfRank config ranks second).sum
  sameReductions : ∀ first ∈ ranks, ∀ second ∈ ranks,
    separatorCount (isDue config) (keptOfRank config ranks first) =
      separatorCount (isDue config) (keptOfRank config ranks second)

end Ranks

def gradientAfter (pending : Bool) : Collective → Bool
  | .backward => true
  | .allReduceStates => false
  | .forward => pending
  | .reduceTokens => pending

theorem flatten_reducedBackwards {pending : List Nat} {next : Nat} {collectives : List Collective}
    (settled : collectives.foldl gradientAfter (!pending.isEmpty) = false) :
    (reducedBackwards pending next collectives).flatten =
      pending ++ List.range' next (collectives.count .backward) := by
  induction collectives generalizing pending next with
  | nil =>
    have none : pending = [] := by simpa using settled
    rw [none]
    rfl
  | cons collective rest ih =>
    cases collective with
    | forward =>
      rw [reducedBackwards, ih settled, count_cons_of_ne (by decide)]
    | reduceTokens =>
      rw [reducedBackwards, ih settled, count_cons_of_ne (by decide)]
    | backward =>
      have more : (!(pending ++ [next]).isEmpty) = true := by simp
      rw [reducedBackwards, ih (by rw [more]; exact settled),
        count_cons_self, range'_succ, append_assoc]
      rfl
    | allReduceStates =>
      rw [reducedBackwards, flatten_cons, ih settled, count_cons_of_ne (by decide), nil_append]

section Settled

variable (config : CollectiveConfig)

theorem foldl_gradientAfter_item (pending : Bool) (due : Bool) :
    ((.forward :: lossCollectives config) ++
        if due then [Collective.allReduceStates] else []).foldl gradientAfter pending = !due := by
  unfold lossCollectives
  cases due <;> split <;> rfl

theorem foldl_gradientAfter_items (due : Nat → Bool) (start count : Nat) (pending : Bool) :
    ((List.range' start count).flatMap fun number =>
        (.forward :: lossCollectives config) ++
          if due number then [Collective.allReduceStates] else []).foldl gradientAfter pending =
      if count = 0 then pending else !due (start + count - 1) := by
  cases count with
  | zero => rfl
  | succ count =>
    rw [range'_concat, flatMap_append, foldl_append, flatMap_singleton,
      foldl_gradientAfter_item, if_neg (by omega), Nat.one_mul]
    rfl

theorem foldl_gradientAfter_segmentWord (due : Nat → Bool) (done : Nat) (counts : List Nat) :
    (segmentWord (.forward :: lossCollectives config) .allReduceStates due done
      counts).foldl gradientAfter false = false := by
  induction counts generalizing done with
  | nil => rfl
  | cons count counts ih =>
    rw [segmentWord, foldl_append, foldl_append, foldl_gradientAfter_items]
    have settled : (if due (done + count) then [] else [Collective.allReduceStates]).foldl
        gradientAfter (if count = 0 then false else !due (done + 1 + count - 1)) = false := by
      rw [Nat.add_right_comm, Nat.add_sub_cancel]
      by_cases empty : count = 0 <;> cases due (done + count) <;> simp [empty, gradientAfter]
    rw [settled]
    exact ih (done + count)

theorem foldl_gradientAfter_stepWord (batchSize : Nat) (counts : List Nat) :
    (stepWord config batchSize counts).foldl gradientAfter false = false := by
  have forwards : ∀ number, (List.replicate number Collective.forward).foldl gradientAfter
      false = false := by
    intro number
    induction number with
    | zero => rfl
    | succ number ih =>
      rw [replicate_succ]
      exact ih
  have iterations : ∀ rounds, (List.replicate rounds
      (phaseWord config .train 0 counts)).flatten.foldl gradientAfter false = false := by
    intro rounds
    induction rounds with
    | zero => rfl
    | succ rounds ih =>
      rw [replicate_succ, flatten_cons, foldl_append, phaseWord, if_pos rfl,
        foldl_gradientAfter_segmentWord]
      rwa [phaseWord, if_pos rfl] at ih
  rw [stepWord, foldl_append, forwards, iterations]

end Settled

section Words

variable {config : CollectiveConfig} {batchSize : Nat} {counts others : List Nat}

theorem filter_stepWord :
    (stepWord config batchSize counts).filter isShared =
      List.replicate (leadingForwards config batchSize counts.sum) .forward ++
        (List.replicate config.grpo.muIterations
          (segmentWord [.forward] .allReduceStates (isDue config) 0 counts)).flatten := by
  have item : (Collective.forward :: lossCollectives config).filter isShared = [.forward] := by
    unfold lossCollectives
    split <;> rfl
  rw [stepWord, filter_append, filter_replicate, filter_flatten,
    map_replicate, phaseWord, if_pos rfl, filter_segmentWord _ _ rfl, item]
  rfl

theorem count_stepWord_allReduceStates :
    (stepWord config batchSize counts).count .allReduceStates =
      config.grpo.muIterations * separatorCount (isDue config) counts := by
  have foreign : Collective.allReduceStates ∉ Collective.forward :: lossCollectives config := by
    unfold lossCollectives
    split <;> simp
  rw [stepWord, count_append, count_replicate, count_flatten, map_replicate,
    sum_replicate_nat, phaseWord, if_pos rfl, count_segmentWord _ _ foreign, separatorCount]
  simp

theorem count_stepWord_reduceTokens :
    (stepWord config batchSize counts).count .reduceTokens =
      if config.balanceDpToken = true ∧ config.lossType = .tokenMean then
        config.grpo.muIterations * counts.sum
      else 0 := by
  rw [stepWord, count_append, count_replicate, count_flatten, map_replicate,
    sum_replicate_nat, phaseWord, if_pos rfl, count_segmentWord_of_ne _ _ (by decide)]
  by_cases balanced : config.balanceDpToken = true ∧ config.lossType = .tokenMean
  · simp [lossCollectives, balanced]
  · simp [lossCollectives, balanced]

theorem count_segmentEnds_zero (begins : ∀ count ∈ counts.head?, 0 < count) :
    (segmentEnds 0 counts).count 0 = 0 := by
  cases counts with
  | nil => rfl
  | cons count counts =>
    have positive := begins count rfl
    rw [segmentEnds, count_cons_of_ne (by omega), count_segmentEnds_of_lt (by omega)]

theorem count_forward_filter_stepWord :
    ((stepWord config batchSize counts).filter isShared).count .forward =
      leadingForwards config batchSize counts.sum + config.grpo.muIterations * counts.sum := by
  rw [filter_stepWord, count_append, count_replicate_self, count_flatten,
    map_replicate, sum_replicate_nat, count_segmentWord_of_ne _ _ (by decide)]
  simp

theorem leadingForwards_mono (config : CollectiveConfig) (batchSize : Nat) {total total' : Nat}
    (less : total ≤ total') :
    leadingForwards config batchSize total ≤ leadingForwards config batchSize total' := by
  unfold leadingForwards
  split <;> split <;> omega

/-- Two ranks do their forwards and reductions in the same order exactly if their segments
are the same. -/
theorem filter_stepWord_eq_iff (iterates : 0 < config.grpo.muIterations)
    (begins : ∀ count ∈ counts.head?, 0 < count) (begins' : ∀ count ∈ others.head?, 0 < count) :
    (stepWord config batchSize counts).filter isShared =
        (stepWord config batchSize others).filter isShared ↔
      SameSegments (isDue config) counts others := by
  have compared := @segmentWord_eq_iff _ Collective.forward .allReduceStates [] (by decide)
    (isDue config) _ _ (count_segmentEnds_zero begins) (count_segmentEnds_zero begins')
  rw [← compared]
  constructor
  · intro same
    have forwards := congrArg (List.count Collective.forward) same
    rw [count_forward_filter_stepWord, count_forward_filter_stepWord] at forwards
    have totals : counts.sum = others.sum := by
      rcases Nat.lt_trichotomy counts.sum others.sum with less | equal | more
      · have steps := Nat.mul_lt_mul_of_pos_left less iterates
        have leading := leadingForwards_mono config batchSize (Nat.le_of_lt less)
        omega
      · exact equal
      · have steps := Nat.mul_lt_mul_of_pos_left more iterates
        have leading := leadingForwards_mono config batchSize (Nat.le_of_lt more)
        omega
    rw [filter_stepWord, filter_stepWord, totals] at same
    exact flatten_replicate_inj iterates (append_cancel_left same)
  · intro same
    rw [filter_stepWord, filter_stepWord, same, (compared.mp same).1]

end Words

section Agreement

variable {Value : Type} [Zero Value] [LT Value] [DecidableLT Value]
  (config : CollectiveConfig) (ranks : List (DataParallelRank Value))

def Finishes (rank : DataParallelRank Value) : Prop :=
  (stepOf config ranks rank).raised = none

variable {config ranks}

theorem finishes_iff (iterates : 0 < config.grpo.muIterations) (rank : DataParallelRank Value) :
    Finishes config ranks rank ↔ ReadyRank config ranks rank := by
  rw [ReadyRank, ← tracedStep_ok_iff iterates, Finishes, stepOf]
  constructor
  · intro finished
    refine ⟨(tracedStep config rank.rollouts rank.teacherInteractResults rank.policyInput
      (gatheredMiniBatches config ranks)).state, ?_⟩
    rw [Outcome.ok, ← finished]
  · rintro ⟨after, ran⟩
    rw [ran]
    rfl

theorem collectivesOf_eq {rank : DataParallelRank Value} (ready : ReadyRank config ranks rank) :
    collectivesOf config ranks rank =
      stepWord config rank.rollouts.length (keptOfRank config ranks rank) := by
  obtain ⟨after, ran, collected⟩ := tracedStep_ready ready
  rw [collectivesOf, stepOf, ran]
  exact collected

omit [Zero Value] [LT Value] [DecidableLT Value] in
theorem keptAgree_of_eq (same : ∀ first ∈ ranks, ∀ second ∈ ranks,
      keptOfRank config ranks first = keptOfRank config ranks second) :
    KeptAgree config ranks := by
  refine ⟨?_, ?_, ?_⟩
  · intro first isRank second isRank' _
    rw [same first isRank second isRank']
    exact ⟨rfl, fun _ _ _ _ => rfl⟩
  · intro _ _ first isRank second isRank'
    rw [same first isRank second isRank']
  · intro first isRank second isRank'
    rw [same first isRank second isRank']

end Agreement

def distillationConfig : CollectiveConfig where
  grpo :=
    { batchSizePerOptimize := none
      miniBatch := 1
      maxTokenLenPerMiniBatch := none
      cpSize := 1
      cpPositive := Nat.one_pos
      muIterations := 1
      needComputeRef := false
      useDecoupledLoss := false
      useRolloutLogprobsForLoss := false
      collectRolloutLogprobs := false
      positiveNll := false
      distillation := true
      includePrompt := false }
  stepInterval := none
  lossType := .tokenMean
  balanceDpToken := true

def distilledRollout (teacherResultUuid : String) : Rollout Int where
  advantage := 1
  reward := 1
  completion := .tokenIds [7]
  completionLogprobs := none
  promptLogprobs := none
  teacherResultUuid := teacherResultUuid
  nIgnorePrefixTokens := 0

def distillationRank (results : List String) : DataParallelRank Int where
  replica := 0
  rollouts := [distilledRollout "first", distilledRollout "second"]
  teacherInteractResults uuid := if uuid ∈ results then some [[0], [0]] else none
  policyInput _ := ⟨[5, 7], [true, false]⟩

def taughtRanks : List (DataParallelRank Int) :=
  [distillationRank ["first", "second"], distillationRank ["second", "first"]]

end CosmosRl.Policy
