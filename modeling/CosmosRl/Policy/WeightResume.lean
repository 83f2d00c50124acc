import CosmosRl.Foundation.Dict
import CosmosRl.Foundation.Outcome

/-!
`weight_resume` of the GRPO trainer and `load_checkpoint` of the checkpoint manager.

The checkpoints are tried in order.  An attempt writes the random state, the extra variables,
the weights and the optimizer one after the other, and what an attempt that fails has written
stays.  A value is represented by where it comes from.
-/

namespace CosmosRl.Policy

open CosmosRl.Foundation List

abbrev CkptPath := Nat

inductive ExtraKey where
  | rngState
  | step
  | totalSteps
  /-- What the trainer adds, such as `remain_samples_num`. -/
  | other (name : String)
  deriving DecidableEq, Repr

inductive CkptFile (Content : Type) where
  | missing
  | unreadable
  | readable (content : Content)
  deriving DecidableEq, Repr

structure SavedCkpt where
  path : CkptPath
  /-- `ckpt_path_check`: the configuration and all markers are there. -/
  pathCheck : Bool := true
  /-- The keys of the extra information. -/
  extraInfo : CkptFile (List ExtraKey)
  scheduler : CkptFile Unit
  model : CkptFile Unit
  optimizer : CkptFile Unit
  /-- `save_checkpoint` always writes these two. -/
  saved : ∀ keys, extraInfo = .readable keys → .rngState ∈ keys ∧ .totalSteps ∈ keys

inductive Origin where
  /-- What the trainer had. -/
  | before
  /-- The base model. -/
  | base
  | ckpt (path : CkptPath)
  deriving DecidableEq, Repr

structure SchedulerOrigin where
  trainingSteps : Origin := .before
  stateDict : Origin := .before
  deriving DecidableEq, Repr

structure ResumeState where
  weights : Origin := .before
  optimizer : Origin := .before
  /-- The learning rates in the optimizer, which building a scheduler sets. -/
  learningRate : Origin := .before
  lrSchedulers : SchedulerOrigin := {}
  rngState : Origin := .before
  referenceStateDict : Option Origin := none
  /-- `extra_vars` of `load_checkpoint`. -/
  extraVars : Dict ExtraKey CkptPath := ∅

inductive LoadError where
  | fileNotFoundError
  | unreadable
  | keyError
  deriving DecidableEq, Repr

/-- `torch.load`. -/
def torchLoad {Content : Type} (file : CkptFile Content) (state : ResumeState) :
    Outcome LoadError ResumeState :=
  match file with
  | .missing => .raise state .fileNotFoundError
  | .unreadable => .raise state .unreadable
  | .readable _ => .ok state

def takeExtraInfo (path : CkptPath) (state : ResumeState) (key : ExtraKey) : ResumeState :=
  if key = .rngState then { state with rngState := .ckpt path }
  else { state with extraVars := state.extraVars.set key path }

/-- `load_extra_info` and the loop over its keys: a missing file gives no keys. -/
def loadExtraInfo (ckpt : SavedCkpt) (state : ResumeState) : Outcome LoadError ResumeState :=
  match ckpt.extraInfo with
  | .missing => .ok state
  | .unreadable => .raise state .unreadable
  | .readable keys => .ok (keys.foldl (takeExtraInfo ckpt.path) state)

def loadStateDicts (ckpt : SavedCkpt) (state : ResumeState) : Outcome LoadError ResumeState :=
  match state.extraVars.get? .totalSteps with
  | none => .raise state .keyError
  | some trainingSteps =>
    ((torchLoad ckpt.scheduler { state with learningRate := .ckpt trainingSteps }).andThen
      fun state => (torchLoad ckpt.model state).andThen
        fun state => torchLoad ckpt.optimizer { state with weights := .ckpt ckpt.path }).andThen
      fun state => .ok { state with
        optimizer := .ckpt ckpt.path
        learningRate := .ckpt ckpt.path
        lrSchedulers := ⟨.ckpt trainingSteps, .ckpt ckpt.path⟩ }

def loadCheckpoint : List SavedCkpt → ResumeState → Outcome LoadError ResumeState
  | [], state => .raise state .fileNotFoundError
  | ckpt :: rest, state =>
    if ckpt.pathCheck then
      let attempt := (loadExtraInfo ckpt state).andThen (loadStateDicts ckpt)
      match attempt.raised with
      | none => attempt
      | some _ => loadCheckpoint rest attempt.state
    else loadCheckpoint rest state

/-- `model_load_from_hf`. -/
def modelLoadFromHf (state : ResumeState) : ResumeState := { state with weights := .base }

def loadReference (klEnabled : Bool) (state : ResumeState) : ResumeState :=
  if klEnabled then { modelLoadFromHf state with referenceStateDict := some .base } else state

/-- The trainer and the extra information that `weight_resume` returns. -/
def weightResume (klEnabled resume : Bool) (ckpts : List SavedCkpt) (state : ResumeState) :
    ResumeState × Dict ExtraKey CkptPath :=
  let state := loadReference klEnabled state
  if resume then
    let loaded := loadCheckpoint ckpts { state with extraVars := ∅ }
    match loaded.raised with
    | none => (loaded.state, loaded.state.extraVars)
    | some _ => (if klEnabled then loaded.state else modelLoadFromHf loaded.state, ∅)
  else (if klEnabled then state else modelLoadFromHf state, ∅)

structure AllFrom (ckpt : SavedCkpt) (result : ResumeState × Dict ExtraKey CkptPath) : Prop where
  weights : result.1.weights = .ckpt ckpt.path
  optimizer : result.1.optimizer = .ckpt ckpt.path
  learningRate : result.1.learningRate = .ckpt ckpt.path
  lrSchedulers : result.1.lrSchedulers = ⟨.ckpt ckpt.path, .ckpt ckpt.path⟩
  rngState : result.1.rngState = .ckpt ckpt.path
  extraInfo : ∃ keys, ckpt.extraInfo = .readable keys ∧ ∀ key,
    result.2.get? key = if key ∈ keys ∧ key ≠ .rngState then some ckpt.path else none

structure Untouched (result : ResumeState × Dict ExtraKey CkptPath) : Prop where
  weights : result.1.weights = .base
  optimizer : result.1.optimizer = .before
  learningRate : result.1.learningRate = .before
  lrSchedulers : result.1.lrSchedulers = {}
  rngState : result.1.rngState = .before
  extraInfo : result.2 = ∅

def AllOrNothing (ckpts : List SavedCkpt) (result : ResumeState × Dict ExtraKey CkptPath) :
    Prop :=
  (∃ ckpt ∈ ckpts, AllFrom ckpt result) ∨ Untouched result

namespace SavedCkpt

variable (ckpt : SavedCkpt)

def readKeys : List ExtraKey :=
  match ckpt.extraInfo with
  | .readable keys => keys
  | _ => []

def Loads (earlier : List ExtraKey) : Prop :=
  ckpt.scheduler = .readable () ∧ ckpt.model = .readable () ∧ ckpt.optimizer = .readable () ∧
    ckpt.extraInfo ≠ .unreadable ∧ (ckpt.extraInfo = .missing → .totalSteps ∈ earlier)

instance (earlier : List ExtraKey) : Decidable (ckpt.Loads earlier) :=
  inferInstanceAs (Decidable (_ ∧ _ ∧ _ ∧ _ ∧ (_ → _)))

end SavedCkpt

/-- The first checkpoint that loads has extra information, with all the keys that were read
before; or none loads, and no keys were read. -/
def LoadsCleanly (earlier : List ExtraKey) : List SavedCkpt → Prop
  | [] => earlier = []
  | ckpt :: rest =>
    if ckpt.pathCheck then
      if ckpt.Loads earlier then ckpt.readKeys ≠ [] ∧ earlier ⊆ ckpt.readKeys
      else LoadsCleanly (earlier ++ ckpt.readKeys) rest
    else LoadsCleanly earlier rest

section Attempt

variable {ckpt : SavedCkpt} {state : ResumeState}

theorem get?_takeExtraInfo (path : CkptPath) (keys : List ExtraKey) (state : ResumeState)
    (key : ExtraKey) :
    (keys.foldl (takeExtraInfo path) state).extraVars.get? key =
      if key ∈ keys ∧ key ≠ .rngState then some path else state.extraVars.get? key := by
  induction keys generalizing state with
  | nil => rw [if_neg fun listed => not_mem_nil listed.1, foldl_nil]
  | cons first keys ih =>
    rw [foldl_cons, ih]
    unfold takeExtraInfo
    by_cases later : key ∈ keys ∧ key ≠ .rngState
    · rw [if_pos later, if_pos ⟨mem_cons_of_mem _ later.1, later.2⟩]
    · rw [if_neg later]
      by_cases isRng : first = .rngState
      · have notNew : ¬(key ∈ first :: keys ∧ key ≠ .rngState) := by
          rintro ⟨listed, other⟩
          rcases mem_cons.mp listed with rfl | listed
          · exact other isRng
          · exact later ⟨listed, other⟩
        rw [if_pos isRng, if_neg notNew]
      · rw [if_neg isRng]
        dsimp only
        rw [Dict.get?_set]
        by_cases same : key = first
        · subst same
          rw [if_pos rfl, if_pos ⟨mem_cons_self, isRng⟩]
        · have notNew : ¬(key ∈ first :: keys ∧ key ≠ .rngState) := by
            rintro ⟨listed, other⟩
            exact later ⟨(mem_cons.mp listed).resolve_left same, other⟩
          rw [if_neg same, if_neg notNew]

theorem takeExtraInfo_rest (path : CkptPath) (keys : List ExtraKey) (state : ResumeState) :
    ∃ extraVars, keys.foldl (takeExtraInfo path) state =
      { state with
        rngState := if .rngState ∈ keys then .ckpt path else state.rngState
        extraVars := extraVars } := by
  induction keys generalizing state with
  | nil => exact ⟨state.extraVars, by rw [if_neg not_mem_nil, foldl_nil]⟩
  | cons first keys ih =>
    obtain ⟨extraVars, taken⟩ := ih (takeExtraInfo path state first)
    refine ⟨extraVars, ?_⟩
    rw [foldl_cons, taken]
    unfold takeExtraInfo
    by_cases isRng : first = .rngState
    · subst isRng
      rw [if_pos rfl, if_pos mem_cons_self]
      dsimp only
      rw [ite_self]
    · rw [if_neg isRng]
      have same : (.rngState ∈ first :: keys) = (.rngState ∈ keys) := by
        rw [mem_cons, eq_iff_iff]
        exact or_iff_right fun rng => isRng rng.symm
      simp only [same]

structure OnlyWeights (before after : ResumeState) : Prop where
  optimizer_eq : after.optimizer = before.optimizer
  lrSchedulers_eq : after.lrSchedulers = before.lrSchedulers
  rngState_eq : after.rngState = before.rngState
  extraVars_eq : after.extraVars = before.extraVars

theorem OnlyWeights.refl (state : ResumeState) : OnlyWeights state state :=
  ⟨rfl, rfl, rfl, rfl⟩

/-- The state dictionaries load when the steps are known and the three files can be read. -/
theorem loadStateDicts_of_readable {trainingSteps : CkptPath}
    (known : state.extraVars.get? .totalSteps = some trainingSteps)
    (scheduler : ckpt.scheduler = .readable ()) (model : ckpt.model = .readable ())
    (optimizer : ckpt.optimizer = .readable ()) :
    loadStateDicts ckpt state = .ok { state with
      weights := .ckpt ckpt.path
      optimizer := .ckpt ckpt.path
      learningRate := .ckpt ckpt.path
      lrSchedulers := ⟨.ckpt trainingSteps, .ckpt ckpt.path⟩ } := by
  unfold loadStateDicts torchLoad
  rw [known, scheduler, model, optimizer]
  rfl

theorem loadStateDicts_fails
    (fails : state.extraVars.get? .totalSteps = none ∨
      ¬(ckpt.scheduler = .readable () ∧ ckpt.model = .readable () ∧
        ckpt.optimizer = .readable ())) :
    (∃ exn, (loadStateDicts ckpt state).raised = some exn) ∧
      OnlyWeights state (loadStateDicts ckpt state).state ∧
      (state.extraVars.get? .totalSteps = none → (loadStateDicts ckpt state).state = state) := by
  unfold loadStateDicts
  cases known : state.extraVars.get? .totalSteps with
  | none => exact ⟨⟨_, rfl⟩, OnlyWeights.refl state, fun _ => rfl⟩
  | some trainingSteps =>
    have notAll := fails.resolve_left (by rw [known]; exact Option.some_ne_none _)
    refine and_assoc.mp ⟨?_, fun unknown => absurd unknown (Option.some_ne_none _)⟩
    unfold torchLoad
    cases scheduler : ckpt.scheduler with
    | missing => exact ⟨⟨_, rfl⟩, rfl, rfl, rfl, rfl⟩
    | unreadable => exact ⟨⟨_, rfl⟩, rfl, rfl, rfl, rfl⟩
    | readable =>
      cases model : ckpt.model with
      | missing => exact ⟨⟨_, rfl⟩, rfl, rfl, rfl, rfl⟩
      | unreadable => exact ⟨⟨_, rfl⟩, rfl, rfl, rfl, rfl⟩
      | readable =>
        cases optimizer : ckpt.optimizer with
        | missing => exact ⟨⟨_, rfl⟩, rfl, rfl, rfl, rfl⟩
        | unreadable => exact ⟨⟨_, rfl⟩, rfl, rfl, rfl, rfl⟩
        | readable => exact absurd ⟨scheduler, model, optimizer⟩ notAll

structure Behind (earlier : List ExtraKey) (start state : ResumeState) : Prop where
  optimizer_eq : state.optimizer = start.optimizer
  lrSchedulers_eq : state.lrSchedulers = start.lrSchedulers
  extraVars : ∀ key, state.extraVars.get? key ≠ none ↔ key ∈ earlier ∧ key ≠ .rngState
  unread : earlier = [] → state = start
  rngState : earlier ≠ [] → ∃ path, state.rngState = .ckpt path

theorem behind_start {start : ResumeState} (empty : start.extraVars = ∅) :
    Behind [] start start := by
  refine ⟨rfl, rfl, ?_, fun _ => rfl, fun nonempty => absurd rfl nonempty⟩
  intro key
  rw [empty, Dict.get?_empty]
  exact ⟨fun found => absurd rfl found, fun listed => absurd listed.1 not_mem_nil⟩

variable {earlier : List ExtraKey} {start : ResumeState}

section

variable (behind : Behind earlier start state)

include behind

theorem Behind.totalSteps_iff :
    state.extraVars.get? .totalSteps = none ↔ .totalSteps ∉ earlier := by
  rw [← not_iff_not, not_not, ← ne_eq, behind.extraVars]
  exact and_iff_left (by decide)

theorem Behind.takeExtraInfo {keys : List ExtraKey} (saved : .rngState ∈ keys) (path : CkptPath) :
    Behind (earlier ++ keys) start (keys.foldl (CosmosRl.Policy.takeExtraInfo path) state) := by
  have entries := get?_takeExtraInfo path keys state
  obtain ⟨extraVars, taken⟩ := takeExtraInfo_rest path keys state
  rw [if_pos saved] at taken
  have nonempty : earlier ++ keys ≠ [] := by
    intro nothing
    rw [(append_eq_nil_iff.mp nothing).2] at saved
    exact not_mem_nil saved
  refine ⟨?_, ?_, ?_, fun nothing => absurd nothing nonempty, fun _ => ⟨path, ?_⟩⟩
  · rw [taken]
    exact behind.optimizer_eq
  · rw [taken]
    exact behind.lrSchedulers_eq
  · intro key
    rw [entries, mem_append]
    by_cases new : key ∈ keys ∧ key ≠ .rngState
    · rw [if_pos new]
      exact ⟨fun _ => ⟨.inr new.1, new.2⟩, fun _ => Option.some_ne_none _⟩
    · rw [if_neg new, behind.extraVars]
      constructor
      · exact fun old => ⟨.inl old.1, old.2⟩
      · rintro ⟨old | listed, other⟩
        · exact ⟨old, other⟩
        · exact absurd ⟨listed, other⟩ new
  · rw [taken]

theorem Behind.onlyWeights {after : ResumeState} (only : OnlyWeights state after)
    (unknown : state.extraVars.get? .totalSteps = none → after = state) :
    Behind earlier start after := by
  refine ⟨only.optimizer_eq.trans behind.optimizer_eq,
    only.lrSchedulers_eq.trans behind.lrSchedulers_eq, ?_, ?_, ?_⟩
  · intro key
    rw [only.extraVars_eq]
    exact behind.extraVars key
  · intro nothing
    refine (unknown (behind.totalSteps_iff.mpr ?_)).trans (behind.unread nothing)
    rw [nothing]
    exact not_mem_nil
  · intro nonempty
    obtain ⟨path, isCkpt⟩ := behind.rngState nonempty
    exact ⟨path, only.rngState_eq.trans isCkpt⟩

end

theorem loadExtraInfo_of_readable (readable : ckpt.extraInfo ≠ .unreadable) :
    loadExtraInfo ckpt state =
      .ok (ckpt.readKeys.foldl (CosmosRl.Policy.takeExtraInfo ckpt.path) state) := by
  unfold loadExtraInfo SavedCkpt.readKeys
  cases found : ckpt.extraInfo with
  | missing => rfl
  | unreadable => exact absurd found readable
  | readable keys => rfl

theorem Behind.readKeys (behind : Behind earlier start state) :
    Behind (earlier ++ ckpt.readKeys) start
      (ckpt.readKeys.foldl (CosmosRl.Policy.takeExtraInfo ckpt.path) state) := by
  unfold SavedCkpt.readKeys
  cases found : ckpt.extraInfo with
  | missing => exact (append_nil earlier).symm ▸ behind
  | unreadable => exact (append_nil earlier).symm ▸ behind
  | readable keys => exact behind.takeExtraInfo (ckpt.saved keys found).1 ckpt.path

theorem totalSteps_mem_iff (readable : ckpt.extraInfo ≠ .unreadable) :
    .totalSteps ∈ earlier ++ ckpt.readKeys ↔
      (ckpt.extraInfo = .missing → .totalSteps ∈ earlier) := by
  unfold SavedCkpt.readKeys
  cases found : ckpt.extraInfo with
  | missing => rw [append_nil]; exact ⟨fun listed _ => listed, fun listed => listed rfl⟩
  | unreadable => exact absurd found readable
  | readable keys =>
    exact ⟨fun _ missing => absurd missing (by simp),
      fun _ => mem_append_right _ (ckpt.saved keys found).2⟩

theorem Behind.attempt_fails (behind : Behind earlier start state) (fails : ¬ckpt.Loads earlier) :
    (∃ exn, ((loadExtraInfo ckpt state).andThen (loadStateDicts ckpt)).raised = some exn) ∧
      Behind (earlier ++ ckpt.readKeys) start
        ((loadExtraInfo ckpt state).andThen (loadStateDicts ckpt)).state := by
  by_cases readable : ckpt.extraInfo = .unreadable
  · have nothing : ckpt.readKeys = [] := by
      unfold SavedCkpt.readKeys
      rw [readable]
    have raises : loadExtraInfo ckpt state = .raise state .unreadable := by
      unfold loadExtraInfo
      rw [readable]
    rw [raises, Outcome.raise_andThen, nothing, append_nil]
    exact ⟨⟨_, rfl⟩, behind⟩
  · have next := @Behind.readKeys ckpt _ _ _ behind
    rw [loadExtraInfo_of_readable readable, Outcome.ok_andThen]
    have failing := @loadStateDicts_fails ckpt
      (ckpt.readKeys.foldl (CosmosRl.Policy.takeExtraInfo ckpt.path) state) (by
        rw [next.totalSteps_iff, totalSteps_mem_iff readable]
        by_contra both
        rw [not_or, not_not, not_not] at both
        exact fails ⟨both.2.1, both.2.2.1, both.2.2.2, readable, both.1⟩)
    exact ⟨failing.1, next.onlyWeights failing.2.1 failing.2.2⟩

theorem Behind.attempt_loads (behind : Behind earlier start state) (loads : ckpt.Loads earlier) :
    ∃ trainingSteps,
      (ckpt.readKeys.foldl (CosmosRl.Policy.takeExtraInfo ckpt.path) state).extraVars.get?
        .totalSteps = some trainingSteps ∧
      (loadExtraInfo ckpt state).andThen (loadStateDicts ckpt) =
        .ok { ckpt.readKeys.foldl (CosmosRl.Policy.takeExtraInfo ckpt.path) state with
          weights := .ckpt ckpt.path
          optimizer := .ckpt ckpt.path
          learningRate := .ckpt ckpt.path
          lrSchedulers := ⟨.ckpt trainingSteps, .ckpt ckpt.path⟩ } := by
  obtain ⟨scheduler, model, optimizer, readable, total⟩ := loads
  have next := @Behind.readKeys ckpt _ _ _ behind
  have known : (ckpt.readKeys.foldl (CosmosRl.Policy.takeExtraInfo ckpt.path)
      state).extraVars.get? .totalSteps ≠ none := by
    rw [ne_eq, next.totalSteps_iff, not_not, totalSteps_mem_iff readable]
    exact total
  obtain ⟨trainingSteps, found⟩ := Option.ne_none_iff_exists'.mp known
  refine ⟨trainingSteps, found, ?_⟩
  rw [loadExtraInfo_of_readable readable, Outcome.ok_andThen]
  exact loadStateDicts_of_readable found scheduler model optimizer

end Attempt

section Loop

/-- What `weight_resume` makes of the outcome of the loop. -/
def resumed (klEnabled : Bool) (loaded : Outcome LoadError ResumeState) :
    ResumeState × Dict ExtraKey CkptPath :=
  match loaded.raised with
  | none => (loaded.state, loaded.state.extraVars)
  | some _ => (if klEnabled then loaded.state else modelLoadFromHf loaded.state, ∅)

structure FreshStart (klEnabled : Bool) (start : ResumeState) : Prop where
  weights : klEnabled = true → start.weights = .base
  optimizer : start.optimizer = .before
  learningRate : start.learningRate = .before
  lrSchedulers : start.lrSchedulers = {}
  rngState : start.rngState = .before

variable {klEnabled : Bool} {ckpts : List SavedCkpt} {ckpt : SavedCkpt}
  {earlier : List ExtraKey} {start state : ResumeState}

theorem allOrNothing_failed_iff (fresh : FreshStart klEnabled start)
    (behind : Behind earlier start state) (exn : LoadError) :
    AllOrNothing ckpts (resumed klEnabled (.raise state exn)) ↔ earlier = [] := by
  have kept : (resumed klEnabled (.raise state exn)).1.lrSchedulers = {} ∧
      (resumed klEnabled (.raise state exn)).1.rngState = state.rngState := by
    unfold resumed
    cases klEnabled with
    | true => exact ⟨behind.lrSchedulers_eq.trans fresh.lrSchedulers, rfl⟩
    | false => exact ⟨behind.lrSchedulers_eq.trans fresh.lrSchedulers, rfl⟩
  constructor
  · rintro (⟨ckpt, _, allFrom⟩ | untouched)
    · have schedulers := allFrom.lrSchedulers.symm.trans kept.1
      cases schedulers
    · by_contra read
      obtain ⟨path, isCkpt⟩ := behind.rngState read
      have rng := untouched.rngState.symm.trans (kept.2.trans isCkpt)
      cases rng
  · intro nothing
    rw [behind.unread nothing]
    refine .inr ?_
    unfold resumed
    cases enabled : klEnabled with
    | true => exact ⟨fresh.weights enabled, fresh.optimizer, fresh.learningRate,
        fresh.lrSchedulers, fresh.rngState, rfl⟩
    | false => exact ⟨rfl, fresh.optimizer, fresh.learningRate, fresh.lrSchedulers,
        fresh.rngState, rfl⟩

/-- When an attempt loads. -/
theorem allOrNothing_loaded_iff (distinct : (ckpts.map SavedCkpt.path).Nodup)
    (member : ckpt ∈ ckpts) (behind : Behind earlier start state) (loads : ckpt.Loads earlier) :
    AllOrNothing ckpts (resumed klEnabled
        ((loadExtraInfo ckpt state).andThen (loadStateDicts ckpt))) ↔
      ckpt.readKeys ≠ [] ∧ earlier ⊆ ckpt.readKeys := by
  obtain ⟨trainingSteps, known, attempt⟩ := behind.attempt_loads loads
  have entries := get?_takeExtraInfo ckpt.path ckpt.readKeys state
  rw [attempt]
  constructor
  · rintro (⟨other, isOther, allFrom⟩ | untouched)
    · have samePath : ckpt.path = other.path := Origin.ckpt.inj allFrom.weights
      obtain rfl := inj_on_of_nodup_map distinct member isOther samePath
      obtain ⟨keys, readable, returned⟩ := allFrom.extraInfo
      have keys_eq : ckpt.readKeys = keys := by
        unfold SavedCkpt.readKeys
        rw [readable]
      obtain ⟨hasRng, _⟩ := ckpt.saved keys readable
      rw [keys_eq] at entries ⊢
      refine ⟨ne_nil_of_mem hasRng, ?_⟩
      intro key listed
      by_contra missing
      have notRng : key ≠ .rngState := fun isRng => missing (isRng ▸ hasRng)
      have absent := returned key
      rw [if_neg fun both => missing both.1] at absent
      have left := entries key
      rw [if_neg fun both => missing both.1] at left
      refine (behind.extraVars key).mpr ⟨listed, notRng⟩ (left.symm.trans ?_)
      rw [← keys_eq]
      exact absent
    · have weights := untouched.weights
      cases weights
  · rintro ⟨nonempty, within⟩
    obtain ⟨keys, readable⟩ : ∃ keys, ckpt.extraInfo = .readable keys := by
      unfold SavedCkpt.readKeys at nonempty
      cases found : ckpt.extraInfo with
      | missing => rw [found] at nonempty; exact absurd rfl nonempty
      | unreadable => rw [found] at nonempty; exact absurd rfl nonempty
      | readable keys => exact ⟨keys, rfl⟩
    have keys_eq : ckpt.readKeys = keys := by
      unfold SavedCkpt.readKeys
      rw [readable]
    obtain ⟨hasRng, hasTotal⟩ := ckpt.saved keys readable
    rw [keys_eq] at entries within known ⊢
    have own : trainingSteps = ckpt.path := by
      rw [entries, if_pos ⟨hasTotal, by decide⟩] at known
      exact (Option.some.inj known).symm
    obtain ⟨extraVars, taken⟩ := takeExtraInfo_rest ckpt.path keys state
    refine .inl ⟨ckpt, member, rfl, rfl, rfl, ?_, ?_, keys, readable, ?_⟩
    · rw [own]
      rfl
    · have rng := congrArg ResumeState.rngState taken
      rw [if_pos hasRng] at rng
      exact rng
    · intro key
      refine (entries key).trans ?_
      by_cases listed : key ∈ keys ∧ key ≠ .rngState
      · rw [if_pos listed, if_pos listed]
      · rw [if_neg listed, if_neg listed]
        by_contra found
        obtain ⟨read, notRng⟩ := (behind.extraVars key).mp found
        exact listed ⟨within read, notRng⟩

theorem allOrNothing_loadCheckpoint_iff (distinct : (ckpts.map SavedCkpt.path).Nodup)
    (fresh : FreshStart klEnabled start) {left : List SavedCkpt} (within : left ⊆ ckpts)
    (behind : Behind earlier start state) :
    AllOrNothing ckpts (resumed klEnabled (loadCheckpoint left state)) ↔
      LoadsCleanly earlier left := by
  induction left generalizing earlier state with
  | nil => exact allOrNothing_failed_iff fresh behind _
  | cons ckpt left ih =>
    rw [cons_subset] at within
    unfold loadCheckpoint LoadsCleanly
    dsimp only
    by_cases checked : ckpt.pathCheck = true
    · rw [if_pos checked, if_pos checked]
      by_cases loads : ckpt.Loads earlier
      · have decided := @allOrNothing_loaded_iff klEnabled _ _ _ _ _ distinct within.1 behind loads
        obtain ⟨_, _, attempt⟩ := behind.attempt_loads loads
        have raised : ((loadExtraInfo ckpt state).andThen
            (loadStateDicts ckpt)).raised = none := by
          rw [attempt]
          rfl
        rw [if_pos loads, raised]
        exact decided
      · obtain ⟨⟨exn, raised⟩, next⟩ := behind.attempt_fails loads
        rw [if_neg loads, raised]
        exact ih within.2 next
    · rw [if_neg checked, if_neg checked]
      exact ih within.2 behind

end Loop

/-- What `weight_resume` is called with: the directories of the checkpoints are distinct. -/
structure ResumeInput where
  klEnabled : Bool
  resume : Bool
  ckpts : List SavedCkpt
  distinct : (ckpts.map SavedCkpt.path).Nodup

/-- Resuming is all or nothing exactly when the checkpoints load cleanly. -/
theorem weightResume_allOrNothing_iff (input : ResumeInput) :
    AllOrNothing input.ckpts (weightResume input.klEnabled input.resume input.ckpts {}) ↔
      (input.resume = true → LoadsCleanly [] input.ckpts) := by
  obtain ⟨klEnabled, resume, ckpts, distinct⟩ := input
  have fresh : FreshStart klEnabled { loadReference klEnabled {} with extraVars := ∅ } := by
    cases klEnabled with
    | true => exact ⟨fun _ => rfl, rfl, rfl, rfl, rfl⟩
    | false => exact ⟨fun disabled => absurd disabled Bool.false_ne_true, rfl, rfl, rfl, rfl⟩
  cases resume with
  | true =>
    refine Iff.trans ?_ (forall_prop_of_true rfl).symm
    exact allOrNothing_loadCheckpoint_iff distinct fresh (List.Subset.refl ckpts) (behind_start rfl)
  | false =>
    refine ⟨fun _ resumes => absurd resumes Bool.false_ne_true, fun _ => .inr ?_⟩
    cases klEnabled with
    | true => exact ⟨rfl, rfl, rfl, rfl, rfl, rfl⟩
    | false => exact ⟨rfl, rfl, rfl, rfl, rfl, rfl⟩

theorem withoutOptimizer_saved (keys : List ExtraKey)
    (readable : CkptFile.readable [ExtraKey.rngState, .totalSteps] = .readable keys) :
    .rngState ∈ keys ∧ .totalSteps ∈ keys := by
  cases readable
  exact ⟨by decide, by decide⟩

def withoutOptimizer : SavedCkpt where
  path := 3
  extraInfo := .readable [.rngState, .totalSteps]
  scheduler := .readable ()
  model := .readable ()
  optimizer := .missing
  saved := withoutOptimizer_saved

/-- With a KL penalty the weights of a checkpoint that did not load stay. -/
theorem not_weightResume_allOrNothing :
    (weightResume true true [withoutOptimizer] {}).1.weights = .ckpt 3 ∧
      (weightResume true true [withoutOptimizer] {}).1.optimizer = .before ∧
      ¬∀ input : ResumeInput, AllOrNothing input.ckpts
        (weightResume input.klEnabled input.resume input.ckpts {}) := by
  refine ⟨rfl, rfl, ?_⟩
  intro always
  rcases always ⟨true, true, [withoutOptimizer], nodup_singleton _⟩ with
    ⟨_, _, allFrom⟩ | untouched
  · have optimizer := allFrom.optimizer
    cases optimizer
  · have weights := untouched.weights
    cases weights

end CosmosRl.Policy
