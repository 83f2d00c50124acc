import CosmosRl.Foundation.Collecting
import CosmosRl.Foundation.LastWrite

/-!
The total and the filter rewards of `Reward`.

The constructor routes each filter entry into one of three stores, by its type and by the names
of the configured reward functions.  A store can go unread, and within a store a later entry
replaces an earlier one.
-/

namespace CosmosRl.Dispatcher.Algo

open CosmosRl.Foundation List

inductive RewardFn where
  | directMath
  | boxedMath
  | singleChoice
  | gsm8k
  | format
  | overlong
  deriving DecidableEq, Repr

/-- The names are the keys of `REWARD_FUNC_MAPPING` as well. -/
def RewardFn.fromString : String → Option RewardFn
  | "direct_math" => some .directMath
  | "boxed_math" => some .boxedMath
  | "single_choice" => some .singleChoice
  | "gsm8k" => some .gsm8k
  | "format" => some .format
  | "overlong" => some .overlong
  | _ => none

inductive RewardError where
  | valueError (message : String)
  | assertionError (message : String)
  | indexError
  deriving DecidableEq, Repr

inductive FilterMetric (Fn : Type) where
  | name (fn : String)
  | index (i : Int)
  | callable (fn : Fn)
  deriving DecidableEq

variable {Fn Number Metric : Type} [CommRing Number]

def orOne (weight : Option Number) : Number := weight.getD 1

/-- What `Reward.__init__` reads of its arguments and of the configuration. -/
structure RewardSettings (Fn Number : Type) [CommRing Number] where
  rewardFuncMapping : RewardFn → Fn
  rewardFunction : Dict String Number
  explicitRewardFn : Option (List (Fn × Option Number))
  explicitFilterRewardFn : List (FilterMetric Fn × Option Number)
  filters_nonempty : explicitFilterRewardFn ≠ []
  weight_ne_zero : ∀ entry ∈ explicitFilterRewardFn, orOne entry.2 ≠ 0

structure FilterStores (Fn Number : Type) where
  filterRewardFns : List (Fn × Number)
  indexForFilterInExplicit : List (Int × Number)
  filterRewardNameToWeight : Dict String Number

structure Reward (Fn Number : Type) where
  rewardFuncs : List (Fn × Option Number)
  isFilter : List Number
  filterRewardFns : List (Fn × Number)

def routeFilter (settings : RewardSettings Fn Number)
    (stores : FilterStores Fn Number) (entry : FilterMetric Fn × Option Number) :
    Except RewardError (FilterStores Fn Number) :=
  match entry.1 with
  | .name fn =>
    match RewardFn.fromString fn with
    | none => .error (.valueError s!"Filtered reward function {fn} not found.")
    | some known =>
      if fn ∈ settings.rewardFunction.keys then
        .ok { stores with filterRewardNameToWeight :=
          stores.filterRewardNameToWeight.set fn (orOne entry.2) }
      else
        .ok { stores with filterRewardFns :=
          stores.filterRewardFns ++ [(settings.rewardFuncMapping known, orOne entry.2)] }
  | .index i =>
    if settings.explicitRewardFn.isSome then
      .ok { stores with indexForFilterInExplicit :=
        stores.indexForFilterInExplicit ++ [(i, orOne entry.2)] }
    else
      .error (.assertionError "When filtered reward function is given as index, explicit_reward_fn must be provided.")
  | .callable fn =>
    .ok { stores with filterRewardFns := stores.filterRewardFns ++ [(fn, orOne entry.2)] }

def pyIndex (length : Nat) (i : Int) : Option (Fin length) :=
  if inside : 0 ≤ i ∧ i < length then some ⟨i.toNat, by omega⟩
  else if behind : i < 0 ∧ 0 ≤ i + length then some ⟨(i + length).toNat, by omega⟩
  else none

def markFilter (functions : Nat) (isFilter : List Number) (entry : Int × Number) :
    Except RewardError (List Number) :=
  if entry.1 < functions then
    match (pyIndex isFilter.length entry.1).map Fin.val with
    | some position => .ok (isFilter.set position entry.2)
    | none => .error .indexError
  else
    .error (.assertionError s!"Index {entry.1} for filtered reward function is out of range, only {functions} reward functions are provided.")

def namedFunction (settings : RewardSettings Fn Number)
    (stores : FilterStores Fn Number) (entry : String × Number) :
    Except RewardError ((Fn × Option Number) × Number) :=
  match RewardFn.fromString entry.1 with
  | none => .error (.valueError s!"Invalid value: {entry.1}")
  | some known =>
    .ok ((settings.rewardFuncMapping known, some entry.2),
      (stores.filterRewardNameToWeight.get? entry.1).getD 0)

def RewardSettings.explicit (settings : RewardSettings Fn Number) :
    List (Fn × Option Number) :=
  settings.explicitRewardFn.getD []

def Reward.init (settings : RewardSettings Fn Number) :
    Except RewardError (Reward Fn Number) := do
  let stores ← settings.explicitFilterRewardFn.foldlM (routeFilter settings) ⟨[], [], ∅⟩
  if settings.explicit ≠ [] then
    let isFilter ← stores.indexForFilterInExplicit.foldlM (markFilter settings.explicit.length)
      (List.replicate settings.explicit.length 0)
    return ⟨settings.explicit, isFilter, stores.filterRewardFns⟩
  else
    let named ← settings.rewardFunction.entries.mapM (namedFunction settings stores)
    return ⟨named.map Prod.fst, named.map Prod.snd, stores.filterRewardFns⟩

/-- The reward functions, called with one completion or with all, and possibly returning what
is to be logged.  The other arguments are the same in all calls. -/
structure Scoring (Fn Number Metric : Type) where
  single : Fn → String → Number × Option (Dict String Metric)
  batch : Fn → List String → List Number × Option (List (Dict String Metric))
  length_batch : ∀ fn completions, (batch fn completions).1.length = completions.length
  length_metrics : ∀ fn completions, ∀ dicts ∈ (batch fn completions).2,
    dicts.length = completions.length

/-- The three lists that `compute_reward` fills. -/
structure Rewards (Number Metric : Type) where
  total : List Number
  filter : List Number
  metrics : List (Dict String Metric)

/-- `rewards[i] += weight * val[i]` for each index. -/
def addWeighted (weight : Number) (val rewards : List Number) : List Number :=
  List.zipWith (fun reward score => reward + weight * score) rewards val

def updateMetrics (given : List (Option (Dict String Metric)))
    (metrics : List (Dict String Metric)) : List (Dict String Metric) :=
  List.zipWith (fun dict new => new.elim dict fun new => dict.update new.entries) metrics given

/-- `compute_per_reward_func`. -/
def computePerRewardFunc (scoring : Scoring Fn Number Metric)
    (groupRewardCalculation : Bool) (completions : List String) (fn : Fn)
    (weight filter : Number) (rewards : Rewards Number Metric) :
    Except RewardError (Rewards Number Metric) :=
  if groupRewardCalculation then
    let returned := scoring.batch fn completions
    if ∀ dicts ∈ returned.2, dicts.length = completions.length then
      if returned.1.length = completions.length then
        .ok {
          total := addWeighted weight returned.1 rewards.total
          filter := addWeighted filter returned.1 rewards.filter
          metrics := returned.2.elim rewards.metrics fun dicts =>
            updateMetrics (dicts.map some) rewards.metrics }
      else
        .error (.assertionError "The reward function must return a list of rewards with the same length as to_be_evaluated_list.")
    else
      .error (.assertionError "The second element returned by reward function must be a list of dictionaries containing reward components for each evaluated item.")
  else
    let returned := completions.map (scoring.single fn)
    .ok {
      total := addWeighted weight (returned.map Prod.fst) rewards.total
      filter := addWeighted filter (returned.map Prod.fst) rewards.filter
      metrics := updateMetrics (returned.map Prod.snd) rewards.metrics }

/-- `compute_reward`, which falls back to the total rewards where there is no filter. -/
def computeReward [DecidableEq Number] (reward : Reward Fn Number)
    (scoring : Scoring Fn Number Metric) (groupRewardCalculation : Bool)
    (completions : List String) : Except RewardError (Rewards Number Metric) := do
  let zeros := completions.map fun _ => 0
  let rewarded ← (reward.rewardFuncs.zip reward.isFilter).foldlM (fun rewards entry =>
      computePerRewardFunc scoring groupRewardCalculation completions entry.1.1
        (orOne entry.1.2) entry.2 rewards) ⟨zeros, zeros, completions.map fun _ => ∅⟩
  let filtered ← reward.filterRewardFns.foldlM (fun rewards entry =>
      computePerRewardFunc scoring groupRewardCalculation completions entry.1 0 entry.2
        rewards) rewarded
  if (∀ weight ∈ reward.isFilter, weight = 0) ∧ reward.filterRewardFns = [] then
    return { filtered with filter := filtered.total }
  else
    return filtered

section Computing

variable (scoring : Scoring Fn Number Metric) (grouped : Bool) (completions : List String)

def scores (fn : Fn) : List Number :=
  if grouped then (scoring.batch fn completions).1
  else completions.map fun completion => (scoring.single fn completion).1

def scoreAt (position : Nat) (fn : Fn) : Number :=
  (scores scoring grouped completions fn).getD position 0

omit [CommRing Number] in
theorem length_scores (fn : Fn) :
    (scores scoring grouped completions fn).length = completions.length := by
  rw [scores]
  split
  · exact scoring.length_batch fn completions
  · exact length_map _

def atEach (number : Nat → Number) : List Number := (List.range completions.length).map number

theorem addWeighted_scores (fn : Fn) (weight : Number) (rewards : Nat → Number) :
    addWeighted weight (scores scoring grouped completions fn) (atEach completions rewards) =
      atEach completions fun position =>
        rewards position + weight * scoreAt scoring grouped completions position fn := by
  have sameLength := length_scores scoring grouped completions fn
  apply ext_getElem
  · simp [addWeighted, atEach, sameLength]
  · intro position before _
    have inside : position < (scores scoring grouped completions fn).length := by
      simp [addWeighted] at before
      exact before.2
    simp [addWeighted, atEach, scoreAt, inside]

theorem computePerRewardFunc_scores (fn : Fn) (weight filter : Number)
    (total kept : Nat → Number) (metrics : List (Dict String Metric)) :
    ∃ logged, computePerRewardFunc scoring grouped completions fn weight filter
      ⟨atEach completions total, atEach completions kept, metrics⟩ = .ok
        ⟨atEach completions fun i =>
          total i + weight * scoreAt scoring grouped completions i fn,
        atEach completions fun i =>
          kept i + filter * scoreAt scoring grouped completions i fn, logged⟩ := by
  have added := addWeighted_scores scoring grouped completions fn
  rw [computePerRewardFunc]
  cases grouped with
  | true =>
    rw [if_pos rfl, if_pos (scoring.length_metrics fn completions),
      if_pos (scoring.length_batch fn completions)]
    rw [← added weight total, ← added filter kept]
    exact ⟨_, rfl⟩
  | false =>
    rw [if_neg Bool.false_ne_true, ← added weight total, ← added filter kept]
    simp only [scores, map_map, Bool.false_eq_true, if_false]
    exact ⟨_, rfl⟩

theorem foldlM_computePerRewardFunc {Item : Type} (function : Item → Fn)
    (weight filter : Item → Number) (items : List Item) (total kept : Nat → Number)
    (metrics : List (Dict String Metric)) :
    ∃ logged, items.foldlM (fun rewards item =>
        computePerRewardFunc scoring grouped completions (function item) (weight item)
          (filter item) rewards)
        ⟨atEach completions total, atEach completions kept, metrics⟩ = .ok
      ⟨atEach completions fun i => total i + weighted (items.map fun item =>
          (function item, weight item)) (scoreAt scoring grouped completions i),
        atEach completions fun i => kept i + weighted (items.map fun item =>
          (function item, filter item)) (scoreAt scoring grouped completions i), logged⟩ := by
  induction items generalizing total kept metrics with
  | nil =>
    refine ⟨metrics, ?_⟩
    simp only [map_nil, weighted_nil, add_zero]
    rfl
  | cons item items ih =>
    obtain ⟨logged, computed⟩ := computePerRewardFunc_scores scoring grouped completions
      (function item) (weight item) (filter item) total kept metrics
    rw [foldlM_cons, computed]
    simp only [map_cons, weighted_cons, ← add_assoc]
    exact ih _ _ _

end Computing

section Routing

variable (settings : RewardSettings Fn Number) {stores : FilterStores Fn Number}
  {write : String × Number} {reward : Reward Fn Number}

def configured? (entry : FilterMetric Fn × Option Number) : Option (Fn × Number) :=
  match entry.1 with
  | .name fn =>
    (RewardFn.fromString fn).map (settings.rewardFuncMapping ·, orOne entry.2)
  | .index i => (pyIndex settings.explicit.length i).map fun position =>
    ((settings.explicit.get position).1, orOne entry.2)
  | .callable fn => some (fn, orOne entry.2)

def filterFunctions : List (Fn × Number) :=
  settings.explicitFilterRewardFn.filterMap (configured? settings)

def rewardFunctions : List (Fn × Number) :=
  if settings.explicit ≠ [] then settings.explicit.map fun entry => (entry.1, orOne entry.2)
  else settings.rewardFunction.entries.filterMap fun entry =>
    (RewardFn.fromString entry.1).map (settings.rewardFuncMapping ·, entry.2)

def direct? (entry : FilterMetric Fn × Option Number) : Option (Fn × Number) :=
  match entry.1 with
  | .name fn =>
    if fn ∈ settings.rewardFunction.keys then none
    else (RewardFn.fromString fn).map (settings.rewardFuncMapping ·, orOne entry.2)
  | .index _ => none
  | .callable fn => some (fn, orOne entry.2)

def named? (entry : FilterMetric Fn × Option Number) : Option (String × Number) :=
  match entry.1 with
  | .name fn => if fn ∈ settings.rewardFunction.keys then some (fn, orOne entry.2) else none
  | _ => none

def indexed? (entry : FilterMetric Fn × Option Number) : Option (Int × Number) :=
  match entry.1 with
  | .index i => some (i, orOne entry.2)
  | _ => none

def directFilters : List (Fn × Number) :=
  settings.explicitFilterRewardFn.filterMap (direct? settings)

def nameWrites : List (String × Number) :=
  settings.explicitFilterRewardFn.filterMap (named? settings)

def position? (write : Int × Number) : Option (Fin settings.explicit.length × Number) :=
  (pyIndex settings.explicit.length write.1).map (·, write.2)

def positionWrites : List (Fin settings.explicit.length × Number) :=
  (settings.explicitFilterRewardFn.filterMap indexed?).filterMap (position? settings)

def namedFunction? (write : String × Number) : Option (Fn × Number) :=
  (RewardFn.fromString write.1).map (settings.rewardFuncMapping ·, write.2)

def positionFunction (write : Fin settings.explicit.length × Number) : Fn × Number :=
  ((settings.explicit.get write.1).1, write.2)

/-- The filter functions that the routing loses: with explicit functions, those named like a
configured reward function, and of the entries for one place all but the last. -/
def lostFilters : List (Fn × Number) :=
  if settings.explicit ≠ [] then
    (nameWrites settings).filterMap (namedFunction? settings) ++
      (overtaken (positionWrites settings)).map (positionFunction settings)
  else
    (overtaken (nameWrites settings)).filterMap (namedFunction? settings)

def NothingKept : Prop :=
  directFilters settings = [] ∧
    if settings.explicit ≠ [] then positionWrites settings = [] else nameWrites settings = []

def RoutingHarmless [DecidableEq Fn] : Prop :=
  (NothingKept settings → ∀ fn,
    weightOn fn (rewardFunctions settings) = weightOn fn (filterFunctions settings)) ∧
  (¬ NothingKept settings → ∀ fn, weightOn fn (lostFilters settings) = 0)

theorem foldlM_routeFilter {entries : List (FilterMetric Fn × Option Number)}
    {result : FilterStores Fn Number}
    (routed : entries.foldlM (routeFilter settings) stores = .ok result) :
    result = ⟨stores.filterRewardFns ++ entries.filterMap (direct? settings),
      stores.indexForFilterInExplicit ++ entries.filterMap indexed?,
      stores.filterRewardNameToWeight.update (entries.filterMap (named? settings))⟩ := by
  induction entries generalizing stores with
  | nil =>
    cases routed
    simp [Dict.update]
  | cons entry entries ih =>
    obtain ⟨metric, weight⟩ := entry
    rw [foldlM_cons] at routed
    cases metric with
    | name fn =>
      cases known : RewardFn.fromString fn with
      | none => simp [routeFilter, known, bind, Except.bind] at routed
      | some function =>
        by_cases configured : fn ∈ settings.rewardFunction.keys
        · simp only [routeFilter, known, if_pos configured] at routed
          simp [ih routed, filterMap_cons, direct?, indexed?, named?, configured, Dict.update]
        · simp only [routeFilter, known, if_neg configured] at routed
          simp [ih routed, filterMap_cons, direct?, indexed?, named?, configured, known]
    | index i =>
      by_cases given : settings.explicitRewardFn.isSome
      · simp only [routeFilter, if_pos given] at routed
        simp [ih routed, filterMap_cons, direct?, indexed?, named?]
      · simp [routeFilter, given, bind, Except.bind] at routed
    | callable fn =>
      simp only [routeFilter] at routed
      simp [ih routed, filterMap_cons, direct?, indexed?, named?]

theorem weighted_filterFunctions (worth : Fn → Number) :
    weighted (filterFunctions settings) worth =
      weighted (directFilters settings) worth +
      weighted ((nameWrites settings).filterMap (namedFunction? settings)) worth +
      weighted ((positionWrites settings).map (positionFunction settings)) worth := by
  rw [filterFunctions, directFilters, nameWrites, positionWrites]
  induction settings.explicitFilterRewardFn with
  | nil => simp
  | cons entry entries ih =>
    obtain ⟨metric, weight⟩ := entry
    cases metric with
    | name fn =>
      by_cases configured : fn ∈ settings.rewardFunction.keys <;>
        cases known : RewardFn.fromString fn <;>
        simp [filterMap_cons, configured?, direct?, named?, indexed?, namedFunction?,
          configured, known, ih, add_assoc, add_left_comm]
    | index i =>
      cases pointed : pyIndex settings.explicit.length i with
      | none =>
        simp [filterMap_cons, configured?, direct?, named?, indexed?, position?, pointed, ih]
      | some position =>
        simp [filterMap_cons, configured?, direct?, named?, indexed?, position?,
          positionFunction, pointed, ih, add_left_comm]
    | callable fn =>
      simp [filterMap_cons, configured?, direct?, named?, indexed?, ih, add_assoc]

omit [CommRing Number] in
theorem foldlM_markFilter {entries : List (Int × Number)} {functions : Nat}
    {isFilter result : List Number} {mark : Fin functions → Number}
    (marked : entries.foldlM (markFilter functions) isFilter = .ok result)
    (marks : isFilter = (List.finRange functions).map mark) :
    result = (List.finRange functions).map fun position =>
      (lastWrite (entries.filterMap fun entry =>
        (pyIndex functions entry.1).map (·, entry.2)) position).getD (mark position) := by
  induction entries generalizing isFilter mark with
  | nil =>
    cases marked
    simpa [lastWrite] using marks
  | cons entry entries ih =>
    have sameLength : isFilter.length = functions := by simp [marks]
    rw [foldlM_cons, markFilter] at marked
    by_cases below : entry.1 < functions
    · rw [if_pos below, sameLength] at marked
      cases pointed : pyIndex functions entry.1 with
      | none => simp [pointed, bind, Except.bind] at marked
      | some position =>
        simp only [pointed, Option.map_some] at marked
        have written : isFilter.set position entry.2 = (List.finRange functions).map
            (Function.update mark position entry.2) := by
          apply ext_getElem
          · simp [sameLength]
          · intro other _ _
            simp only [marks, getElem_set, getElem_map, getElem_finRange,
              Function.update_apply]
            by_cases same : (position : Nat) = other
            · simp [same, Fin.ext_iff]
            · simp [same, Fin.ext_iff, Ne.symm same]
        rw [ih marked written]
        refine map_congr_left fun other _ => ?_
        rw [filterMap_cons_some (by rw [pointed]; rfl), lastWrite]
        cases lastWrite (entries.filterMap _) other with
        | some later => rfl
        | none =>
          by_cases same : position = other
          · simp [same]
          · simp [same, Function.update_of_ne (Ne.symm same)]
    · simp [below, bind, Except.bind] at marked

def namedWorth (worth : Fn → Number) (fn : String) : Number :=
  ((RewardFn.fromString fn).map fun known => worth (settings.rewardFuncMapping known)).getD 0

theorem weighted_filterMap_namedFunction? (writes : List (String × Number)) (worth : Fn → Number) :
    weighted (writes.filterMap (namedFunction? settings)) worth =
      weighted writes (namedWorth settings worth) := by
  induction writes with
  | nil => rfl
  | cons write writes ih =>
    cases known : RewardFn.fromString write.1 <;>
      simp [namedFunction?, namedWorth, known, ih]

theorem mem_keys_of_nameWrites
    (member : write ∈ nameWrites settings) : write.1 ∈ settings.rewardFunction.keys := by
  obtain ⟨⟨metric, weight⟩, _, named⟩ := mem_filterMap.mp member
  cases metric with
  | name fn =>
    obtain ⟨configured, here⟩ := Option.ite_none_right_eq_some.mp named
    rwa [← Option.some.inj here]
  | index i => cases named
  | callable fn => cases named

theorem marks_eq_zero_iff {Slot : Type} [DecidableEq Slot] {writes : List (Slot × Number)}
    {slots : List Slot} (covered : ∀ write ∈ writes, write.1 ∈ slots)
    (nonzero : ∀ write ∈ writes, write.2 ≠ 0) :
    (∀ weight ∈ slots.map fun slot => (lastWrite writes slot).getD 0, weight = 0) ↔
      writes = [] := by
  constructor
  · intro zero
    by_contra written
    obtain ⟨write, member⟩ := exists_mem_of_ne_nil _ written
    obtain ⟨value, last⟩ := Option.ne_none_iff_exists'.mp fun absent =>
      (lastWrite_eq_none_iff writes write.1).mp absent (mem_map_of_mem member)
    have vanishes := zero _ (mem_map_of_mem (covered write member))
    rw [last] at vanishes
    exact nonzero _ (mem_of_lastWrite last) vanishes
  · rintro rfl weight member
    obtain ⟨slot, _, rfl⟩ := mem_map.mp member
    rfl

theorem ne_zero_of_positionWrites {write : Fin settings.explicit.length × Number}
    (member : write ∈ positionWrites settings) : write.2 ≠ 0 := by
  obtain ⟨index, inIndices, pointed⟩ := mem_filterMap.mp member
  obtain ⟨⟨metric, weight⟩, given, indexed⟩ := mem_filterMap.mp inIndices
  obtain ⟨position, _, rfl⟩ := Option.map_eq_some_iff.mp pointed
  cases metric with
  | name fn => cases indexed
  | index i =>
    cases indexed
    exact settings.weight_ne_zero _ given
  | callable fn => cases indexed

theorem ne_zero_of_nameWrites (member : write ∈ nameWrites settings) : write.2 ≠ 0 := by
  obtain ⟨⟨metric, weight⟩, given, named⟩ := mem_filterMap.mp member
  cases metric with
  | name fn =>
    obtain ⟨_, here⟩ := Option.ite_none_right_eq_some.mp named
    rw [← Option.some.inj here]
    exact settings.weight_ne_zero _ given
  | index i => cases named
  | callable fn => cases named

/-- What the constructor makes of the settings: the functions, and for the filters what the
routing keeps of them. -/
structure BuiltFrom (reward : Reward Fn Number) : Prop where
  direct : reward.filterRewardFns = directFilters settings
  functions : (reward.rewardFuncs.zip reward.isFilter).map (fun entry =>
    (entry.1.1, orOne entry.1.2)) = rewardFunctions settings
  filters : ∀ worth : Fn → Number,
    weighted ((reward.rewardFuncs.zip reward.isFilter).map fun entry => (entry.1.1, entry.2))
        worth + weighted (directFilters settings) worth +
      weighted (lostFilters settings) worth = weighted (filterFunctions settings) worth
  unmarked : (∀ weight ∈ reward.isFilter, weight = 0) ↔
    if settings.explicit ≠ [] then positionWrites settings = [] else nameWrites settings = []

omit [CommRing Number] in
theorem zip_map_finRange {Item : Type} (items : List Item) (mark : Fin items.length → Number) :
    items.zip ((List.finRange items.length).map mark) =
      (List.finRange items.length).map fun position => (items.get position, mark position) := by
  apply ext_getElem
  · simp
  · intro position _ _
    simp

theorem builtFrom_of_explicit (given : settings.explicit ≠ []) :
    BuiltFrom settings ⟨settings.explicit, (List.finRange settings.explicit.length).map
      fun position => (lastWrite (positionWrites settings) position).getD 0,
      directFilters settings⟩ where
  direct := rfl
  functions := by
    rw [rewardFunctions, if_pos given, zip_map_finRange, map_map]
    conv_rhs => rw [← map_get_finRange settings.explicit, map_map]
    rfl
  filters := by
    intro worth
    have kept := sum_lastWrite_add_overtaken (positionWrites settings)
      (nodup_finRange _) (fun write _ => mem_finRange write.1)
      fun position => worth (settings.explicit.get position).1
    have positioned : ∀ writes : List (Fin settings.explicit.length × Number),
        weighted (writes.map (positionFunction settings)) worth =
          weighted writes fun position => worth (settings.explicit.get position).1 :=
      fun writes => weighted_map writes (fun position => (settings.explicit.get position).1) worth
    have marked : weighted ((settings.explicit.zip ((List.finRange settings.explicit.length).map
        fun position => (lastWrite (positionWrites settings) position).getD 0)).map
        fun entry => (entry.1.1, entry.2)) worth =
        ((List.finRange settings.explicit.length).map fun position =>
          (lastWrite (positionWrites settings) position).getD 0 *
            worth (settings.explicit.get position).1).sum := by
      rw [zip_map_finRange, weighted, map_map, map_map]
      rfl
    rw [weighted_filterFunctions, lostFilters, if_pos given, weighted_append, marked,
      positioned, positioned, ← kept]
    ring
  unmarked := by
    rw [if_pos given]
    exact marks_eq_zero_iff (fun write _ => mem_finRange write.1)
      fun write => ne_zero_of_positionWrites settings

theorem builtFrom_of_named (notGiven : ¬ settings.explicit ≠ [])
    {named : List ((Fn × Option Number) × Number)}
    (computed : settings.rewardFunction.entries.mapM (namedFunction settings stores) = .ok named)
    (stored : ∀ fn, stores.filterRewardNameToWeight.get? fn = lastWrite (nameWrites settings) fn) :
    BuiltFrom settings ⟨named.map Prod.fst, named.map Prod.snd, directFilters settings⟩ := by
  have results := (mapM_eq_ok_iff _ _ _).mp computed
  have known : ∀ entry result, namedFunction settings stores entry = .ok result →
      ∃ function, RewardFn.fromString entry.1 = some function ∧
        result = ((settings.rewardFuncMapping function, some entry.2),
          (lastWrite (nameWrites settings) entry.1).getD 0) := by
    intro entry result returned
    rw [namedFunction] at returned
    cases found : RewardFn.fromString entry.1 with
    | none => simp [found] at returned
    | some function =>
      rw [found, stored] at returned
      exact ⟨function, rfl, (Except.ok.inj returned).symm⟩
  have marks : named.map Prod.snd = settings.rewardFunction.keys.map fun fn =>
      (lastWrite (nameWrites settings) fn).getD 0 := by
    rw [Dict.keys, map_map]
    refine map_results_eq results fun entry _ result returned => ?_
    obtain ⟨function, _, rfl⟩ := known entry result returned
    rfl
  have zipped : (named.map Prod.fst).zip (named.map Prod.snd) = named := by
    simp [zip_map']
  refine ⟨rfl, ?_, fun worth => ?_, ?_⟩
  · have named_eq : named.map (fun entry => some (entry.1.1, orOne entry.1.2)) =
        settings.rewardFunction.entries.map fun entry =>
          (RewardFn.fromString entry.1).map (settings.rewardFuncMapping ·, entry.2) := by
      refine map_results_eq results fun entry _ result returned => ?_
      obtain ⟨function, found, rfl⟩ := known entry result returned
      rw [found]
      rfl
    have flattened := congrArg (List.filterMap id) named_eq
    rw [filterMap_map, filterMap_map] at flattened
    rw [rewardFunctions, if_neg notGiven, zipped, ← filterMap_eq_map]
    exact flattened
  · have kept := sum_lastWrite_add_overtaken (nameWrites settings)
      settings.rewardFunction.nodup_keys (fun write => mem_keys_of_nameWrites settings)
      (namedWorth settings worth)
    have summed : weighted (named.map fun entry => (entry.1.1, entry.2)) worth =
        (settings.rewardFunction.keys.map fun fn =>
          (lastWrite (nameWrites settings) fn).getD 0 * namedWorth settings worth fn).sum := by
      rw [weighted, map_map, Dict.keys, map_map]
      refine congrArg List.sum (map_results_eq results fun entry _ result returned => ?_)
      obtain ⟨function, found, rfl⟩ := known entry result returned
      simp [namedWorth, found]
    have noPositions : positionWrites settings = [] := by
      refine eq_nil_iff_forall_not_mem.mpr fun write _ => ?_
      exact absurd write.1.isLt (by simp [not_not.mp notGiven])
    rw [weighted_filterFunctions, lostFilters, if_neg notGiven, noPositions, zipped, summed,
      weighted_filterMap_namedFunction?, weighted_filterMap_namedFunction?, ← kept,
      map_nil, weighted_nil]
    ring
  · rw [if_neg notGiven, marks]
    exact marks_eq_zero_iff (fun write => mem_keys_of_nameWrites settings)
      fun write => ne_zero_of_nameWrites settings

theorem builtFrom_of_init
    (built : Reward.init settings = .ok reward) : BuiltFrom settings reward := by
  rw [Reward.init] at built
  cases routed : settings.explicitFilterRewardFn.foldlM (routeFilter settings) ⟨[], [], ∅⟩ with
  | error exn => simp [routed, bind, Except.bind] at built
  | ok stores =>
    have stored := foldlM_routeFilter settings routed
    rw [nil_append, nil_append] at stored
    simp only [routed, bind, Except.bind] at built
    by_cases given : settings.explicit ≠ []
    · rw [if_pos given] at built
      cases marked : stores.indexForFilterInExplicit.foldlM
          (markFilter settings.explicit.length) (List.replicate settings.explicit.length 0) with
      | error exn => simp [marked] at built
      | ok isFilter =>
        rw [marked] at built
        have zeros : List.replicate settings.explicit.length (0 : Number) =
            (List.finRange settings.explicit.length).map fun _ => 0 := by simp
        rw [← Except.ok.inj built, foldlM_markFilter marked zeros, stored]
        exact builtFrom_of_explicit settings given
    · rw [if_neg given] at built
      cases computed : settings.rewardFunction.entries.mapM (namedFunction settings stores) with
      | error exn => simp [computed] at built
      | ok named =>
        rw [computed] at built
        rw [← Except.ok.inj built]
        have direct : stores.filterRewardFns = directFilters settings := by rw [stored]; rfl
        rw [direct]
        refine builtFrom_of_named settings given computed fun fn => ?_
        rw [stored, Dict.get?_update, Dict.get?_empty, Option.or_none]
        rfl

theorem computeReward_eq [DecidableEq Number]
    (built : BuiltFrom settings reward) (scoring : Scoring Fn Number Metric)
    (grouped : Bool) (completions : List String) :
    ∃ filter logged, computeReward reward scoring grouped completions = .ok
        ⟨atEach completions fun i =>
          weighted (rewardFunctions settings) (scoreAt scoring grouped completions i),
        atEach completions filter, logged⟩ ∧
      (NothingKept settings → ∀ i, filter i =
        weighted (rewardFunctions settings) (scoreAt scoring grouped completions i)) ∧
      (¬ NothingKept settings → ∀ i, filter i +
        weighted (lostFilters settings) (scoreAt scoring grouped completions i) =
        weighted (filterFunctions settings) (scoreAt scoring grouped completions i)) := by
  have zeros : (completions.map fun _ => (0 : Number)) = atEach completions fun _ => 0 := by
    simp [atEach]
  have unweighted : ∀ worth : Fn → Number,
      weighted (reward.filterRewardFns.map fun entry => (entry.1, 0)) worth = 0 := by
    simp [weighted, Function.comp_def]
  have nothingKept : (∀ weight ∈ reward.isFilter, weight = 0) ∧ reward.filterRewardFns = [] ↔
      NothingKept settings := by
    rw [built.unmarked, built.direct, NothingKept, and_comm]
  obtain ⟨first, rewarded⟩ := foldlM_computePerRewardFunc scoring grouped completions
    (fun entry => entry.1.1) (fun entry => orOne entry.1.2) Prod.snd
    (reward.rewardFuncs.zip reward.isFilter) (fun _ => 0) (fun _ => 0) (completions.map fun _ => ∅)
  obtain ⟨logged, filtered⟩ := foldlM_computePerRewardFunc scoring grouped completions
    Prod.fst (fun _ => 0) Prod.snd reward.filterRewardFns _ _ first
  simp only [built.functions, zero_add] at rewarded
  simp only [unweighted, add_zero, Prod.mk.eta, map_id'] at filtered
  rw [computeReward, zeros]
  simp only [rewarded, bind, Except.bind]
  rw [filtered]
  dsimp only
  by_cases kept : NothingKept settings
  · rw [if_pos (nothingKept.mpr kept)]
    exact ⟨_, _, rfl, fun _ _ => rfl, fun some => absurd kept some⟩
  · rw [if_neg (nothingKept.not.mpr kept)]
    refine ⟨_, _, rfl, fun none => absurd none kept, fun _ i => ?_⟩
    rw [← built.filters, built.direct]

def FollowsSettings (Metric : Type) [DecidableEq Number] (reward : Reward Fn Number) :
    Prop :=
  ∀ (scoring : Scoring Fn Number Metric) (grouped : Bool) (completions : List String),
    ∃ logged, computeReward reward scoring grouped completions = .ok
      ⟨atEach completions fun i =>
        weighted (rewardFunctions settings) (scoreAt scoring grouped completions i),
      atEach completions fun i =>
        weighted (filterFunctions settings) (scoreAt scoring grouped completions i), logged⟩

def scoringOf [DecidableEq Fn] (fn : Fn) : Scoring Fn Number Metric where
  single other _ := (if other = fn then 1 else 0, none)
  batch other completions := (completions.map fun _ => if other = fn then 1 else 0, none)
  length_batch _ _ := List.length_map _
  length_metrics _ _ _ given := absurd given (Option.not_mem_none _)

end Routing

/-- Settings that `Reward.__init__` accepts. -/
structure AcceptedSettings (Fn Number : Type) [CommRing Number] where
  settings : RewardSettings Fn Number
  reward : Reward Fn Number
  accepted : Reward.init settings = .ok reward

/-- The rewards follow the settings exactly if the routing is harmless. -/
theorem rewards_followSettings [DecidableEq Fn] [DecidableEq Number]
    (given : AcceptedSettings Fn Number) :
    FollowsSettings given.settings Metric given.reward ↔ RoutingHarmless given.settings := by
  have computed := fun scoring : Scoring Fn Number Metric =>
    computeReward_eq given.settings (builtFrom_of_init given.settings given.accepted) scoring
  constructor
  · intro follows
    have compare : ∀ fn, ∃ filter : Nat → Number,
        filter 0 = weightOn fn (filterFunctions given.settings) ∧
        (NothingKept given.settings → filter 0 = weightOn fn (rewardFunctions given.settings)) ∧
        (¬ NothingKept given.settings → filter 0 + weightOn fn (lostFilters given.settings) =
          weightOn fn (filterFunctions given.settings)) := by
      intro fn
      obtain ⟨filter, _, returned, none, some⟩ := computed (scoringOf fn) false [""]
      obtain ⟨_, expected⟩ := follows (scoringOf fn) false [""]
      have same := congrArg Rewards.filter (Except.ok.inj (returned.symm.trans expected))
      exact ⟨filter, (List.cons.inj same).1, fun kept => none kept 0, fun kept => some kept 0⟩
    constructor
    · intro kept fn
      obtain ⟨filter, configured, fallback, _⟩ := compare fn
      rw [← fallback kept, configured]
    · intro kept fn
      obtain ⟨filter, configured, _, split⟩ := compare fn
      have total := split kept
      rwa [configured, add_eq_left] at total
  · intro harmless scoring grouped completions
    obtain ⟨filter, logged, returned, none, some⟩ := computed scoring grouped completions
    refine ⟨logged, returned.trans ?_⟩
    have same : filter = fun i => weighted (filterFunctions given.settings)
        (scoreAt scoring grouped completions i) := by
      funext i
      by_cases kept : NothingKept given.settings
      · rw [none kept, weighted_congr (harmless.1 kept)]
      · rw [← some kept, weighted_eq_zero (harmless.2 kept), add_zero]
    rw [same]

def configuredName : AcceptedSettings RewardFn Int where
  settings :=
    { rewardFuncMapping := id
      rewardFunction := (∅ : Dict String Int).set "single_choice" 1
      explicitRewardFn := some [(.gsm8k, none)]
      explicitFilterRewardFn := [(.name "single_choice", none)]
      filters_nonempty := List.cons_ne_nil _ _
      weight_ne_zero := by simp [orOne] }
  reward := ⟨[(.gsm8k, none)], [0], []⟩
  accepted := rfl

theorem not_rewards_followSettings :
    computeReward configuredName.reward (scoringOf .gsm8k : Scoring RewardFn Int Unit) false [""] =
        .ok ⟨[1], [1], [∅]⟩ ∧
      weighted (filterFunctions configuredName.settings)
        (scoreAt (scoringOf .gsm8k : Scoring RewardFn Int Unit) false [""] 0) = 0 ∧
      ¬ FollowsSettings configuredName.settings Unit configuredName.reward := by
  have returned : computeReward configuredName.reward
      (scoringOf .gsm8k : Scoring RewardFn Int Unit) false [""] = .ok ⟨[1], [1], [∅]⟩ := rfl
  have configured : weighted (filterFunctions configuredName.settings)
      (scoreAt (scoringOf .gsm8k : Scoring RewardFn Int Unit) false [""] 0) = 0 := rfl
  refine ⟨returned, configured, fun follows => ?_⟩
  obtain ⟨_, expected⟩ := follows (scoringOf .gsm8k) false [""]
  have same := congrArg Rewards.filter (Except.ok.inj (returned.symm.trans expected))
  have unequal : (1 : Int) = 0 := (List.cons.inj same).1.trans configured
  exact absurd unequal one_ne_zero

end CosmosRl.Dispatcher.Algo
