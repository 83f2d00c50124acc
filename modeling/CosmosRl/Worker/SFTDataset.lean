import CosmosRl.Data.SftProcessSample
import CosmosRl.Foundation.Run
import Mathlib.Algebra.Order.Group.Nat
import Mathlib.Algebra.Order.BigOperators.Group.List

/-!
`SFTDataset.__getitem__` over samples that are stored as the objects they are processed
from.

What `sft_process_sample` edits stays edited, so that the next visit of the sample, be it in
a later epoch, in the next attempt after an exception, or in validation, processes the edited
messages.  Every edit brings a message closer to a form that is left alone, and a message
never returns to an earlier form.
-/

namespace CosmosRl.Worker

open CosmosRl.Data
open CosmosRl.Dispatcher (PyError)
open CosmosRl.Foundation List

section GetItem

variable (tokenizer : SftTokenizer)

/-- A wrapped dataset.  With `enable_dataset_cache` the results are kept on disk. -/
structure SFTDataset where
  dataset : List SftSample
  cache : Option (Nat → Option SftItem)

def maxRetries : Nat := 50

/-- The attempts of `__getitem__`, with the number of those that may follow. -/
def attemptSample : Nat → SftSample → SftSample × Except PyError SftItem
  | 0, rawItem => sftProcessSample tokenizer rawItem
  | remaining + 1, rawItem =>
    match sftProcessSample tokenizer rawItem with
    | (left, .ok item) => (left, .ok item)
    | (left, .error _) => attemptSample remaining left

namespace SFTDataset

/-- `cache.get`. -/
def cached (self : SFTDataset) (idx : Nat) : Option SftItem :=
  self.cache.bind fun items => items idx

/-- `cache.set`; a busy writer drops the item. -/
def setCache (self : SFTDataset) (idx : Nat) (item : SftItem) (written : Bool) : SFTDataset :=
  if written then
    { self with cache := self.cache.map fun items other =>
        if other = idx then some item else items other }
  else self

/-- `__getitem__`. -/
def getItem (self : SFTDataset) (idx : Nat) (written : Bool) :
    SFTDataset × Except PyError SftItem :=
  match self.cached idx with
  | some item => (self, .ok item)
  | none =>
    match self.dataset[idx]? with
    | none => (self, .error .indexError)
    | some rawItem =>
      match attemptSample tokenizer (maxRetries - 1) rawItem with
      | (left, .ok item) =>
        ({ self with dataset := self.dataset.set idx left }.setCache idx item written,
          .ok item)
      | (left, .error exn) =>
        ({ self with dataset := self.dataset.set idx left }, .error exn)

end SFTDataset

inductive SampleVisit where
  | sftProcessSample (idx : Nat)
  | getItem (idx : Nat) (written : Bool)
  deriving DecidableEq, Repr

structure VisitedDataset where
  store : SFTDataset
  returned : List (Nat × Except PyError SftItem) := []

def VisitedDataset.handle (state : VisitedDataset) : SampleVisit → VisitedDataset
  | .sftProcessSample idx =>
    match state.store.dataset[idx]? with
    | none => { state with returned := (idx, .error .indexError) :: state.returned }
    | some sample =>
      match Data.sftProcessSample tokenizer sample with
      | (left, outcome) =>
        { store := { state.store with dataset := state.store.dataset.set idx left }
          returned := (idx, outcome) :: state.returned }
  | .getItem idx written =>
    match state.store.getItem tokenizer idx written with
    | (store, outcome) => { store := store, returned := (idx, outcome) :: state.returned }

def sampleVisits : EventSystem VisitedDataset SampleVisit where
  handle state visit := state.handle tokenizer visit
  Allowed _ _ := True

end GetItem

section Settled

variable {tokenizer : SftTokenizer}

def SettledMessage (padToken : String) (x : SftMessage) : Prop :=
  x.role ≠ none ∧
    (x.role = some .assistant →
      x.content = String.join (List.replicate padRunLength padToken))

instance (padToken : String) (x : SftMessage) : Decidable (SettledMessage padToken x) :=
  inferInstanceAs (Decidable (_ ∧ _))

def paddingToken (tokenizer : SftTokenizer) : Option String :=
  tokenizer.padTokenId.bind fun _ => tokenizer.padToken

/-- A sample that the processing leaves as it is: raw text, any conversation for a
tokenizer without padding token, or a conversation of settled messages. -/
def SettledSample (tokenizer : SftTokenizer) : SftSample → Prop
  | .text _ => True
  | .conversation messages =>
    ∀ padToken, paddingToken tokenizer = some padToken →
      ∀ x ∈ messages, SettledMessage padToken x

def unsettled (padToken : String) (x : SftMessage) : Nat :=
  if x.role = none then 2 else if SettledMessage padToken x then 0 else 1

def maskMessage (padToken : String) (x : SftMessage) : SftMessage :=
  match x.role with
  | some .assistant =>
    { x with content := String.join (List.replicate padRunLength padToken) }
  | none => { x with role := some .assistant }
  | some _ => x

theorem maskAssistants_snd (padToken : String) (messages : List SftMessage) :
    (maskAssistants padToken messages).2 = messages.map (maskMessage padToken) := by
  induction messages with
  | nil => rfl
  | cons x rest ih =>
    rw [map_cons, ← ih, maskAssistants]
    obtain ⟨role, content⟩ := x
    cases role with
    | none => rfl
    | some role => cases role <;> rfl

variable {padToken : String} {sample : SftSample}

theorem maskMessage_of_settled {x : SftMessage}
    (settled : SettledMessage padToken x) : maskMessage padToken x = x := by
  obtain ⟨role, content⟩ := x
  obtain ⟨hasRole, placeholder⟩ := settled
  cases role with
  | none => exact absurd rfl hasRole
  | some role =>
    cases role with
    | assistant => rw [maskMessage, ← placeholder rfl]
    | system | user | tool | unknown => rfl

theorem unsettled_maskMessage_lt {x : SftMessage} (edited : ¬ SettledMessage padToken x) :
    unsettled padToken (maskMessage padToken x) < unsettled padToken x := by
  obtain ⟨role, content⟩ := x
  cases role with
  | none =>
    have before : unsettled padToken ⟨none, content⟩ = 2 := rfl
    rw [before, unsettled, maskMessage]
    simp only [reduceCtorEq, if_false]
    split <;> decide
  | some role =>
    have before : unsettled padToken ⟨some role, content⟩ = 1 := by
      rw [unsettled, if_neg (by simp), if_neg edited]
    cases role with
    | assistant =>
      have after : SettledMessage padToken
          (maskMessage padToken ⟨some .assistant, content⟩) :=
        ⟨by simp [maskMessage], fun _ => rfl⟩
      rw [before, unsettled, if_neg after.1, if_pos after]
      exact Nat.one_pos
    | system | user | tool | unknown => exact absurd ⟨by simp, by simp⟩ edited

theorem unsettled_maskMessage_le (padToken : String) (x : SftMessage) :
    unsettled padToken (maskMessage padToken x) ≤ unsettled padToken x := by
  by_cases settled : SettledMessage padToken x
  · rw [maskMessage_of_settled settled]
  · exact Nat.le_of_lt (unsettled_maskMessage_lt settled)

def unsettledMessages (padToken : String) (messages : List SftMessage) : Nat :=
  (messages.map (unsettled padToken)).sum

theorem unsettledMessages_mask_le (padToken : String) (messages : List SftMessage) :
    unsettledMessages padToken (messages.map (maskMessage padToken)) ≤
      unsettledMessages padToken messages := by
  rw [unsettledMessages, unsettledMessages, map_map]
  exact sum_le_sum fun x _ => unsettled_maskMessage_le padToken x

theorem unsettledMessages_mask_lt {messages : List SftMessage}
    (edited : ¬ ∀ x ∈ messages, SettledMessage padToken x) :
    unsettledMessages padToken (messages.map (maskMessage padToken)) <
      unsettledMessages padToken messages := by
  rw [not_forall] at edited
  obtain ⟨x, edited⟩ := edited
  rw [Classical.not_imp] at edited
  rw [unsettledMessages, unsettledMessages, map_map]
  exact sum_lt_sum _ _ (fun x _ => unsettled_maskMessage_le padToken x)
    ⟨x, edited.1, unsettled_maskMessage_lt edited.2⟩

theorem sftProcessSample_fst (messages : List SftMessage) :
    (sftProcessSample tokenizer (.conversation messages)).1 =
      .conversation (match paddingToken tokenizer with
        | some padToken => messages.map (maskMessage padToken)
        | none => messages) := by
  rw [sftProcessSample, processConversation, paddingToken]
  cases tokenizer.padToken with
  | none => cases tokenizer.padTokenId <;> rfl
  | some padToken =>
    cases tokenizer.padTokenId with
    | none => rfl
    | some padTokenId => exact congrArg _ (maskAssistants_snd padToken messages)

theorem sftProcessSample_of_settled (settled : SettledSample tokenizer sample) :
    (sftProcessSample tokenizer sample).1 = sample := by
  cases sample with
  | text text => rfl
  | conversation messages =>
    rw [sftProcessSample_fst]
    cases token : paddingToken tokenizer with
    | none => rfl
    | some padToken =>
      have same : ∀ x ∈ messages, maskMessage padToken x = id x := fun x member =>
        maskMessage_of_settled (settled padToken token x member)
      exact congrArg _ ((map_congr_left same).trans (map_id messages))

def unsettledSample (tokenizer : SftTokenizer) : SftSample → Nat
  | .text _ => 0
  | .conversation messages =>
    match paddingToken tokenizer with
    | some padToken => unsettledMessages padToken messages
    | none => 0

theorem unsettledSample_process_le (sample : SftSample) :
    unsettledSample tokenizer (sftProcessSample tokenizer sample).1 ≤
      unsettledSample tokenizer sample := by
  cases sample with
  | text text => exact Nat.le_refl _
  | conversation messages =>
    rw [sftProcessSample_fst, unsettledSample, unsettledSample]
    cases paddingToken tokenizer with
    | none => exact Nat.le_refl _
    | some padToken => exact unsettledMessages_mask_le padToken messages

theorem unsettledSample_process_lt (edited : ¬ SettledSample tokenizer sample) :
    unsettledSample tokenizer (sftProcessSample tokenizer sample).1 <
      unsettledSample tokenizer sample := by
  cases sample with
  | text text => exact absurd trivial edited
  | conversation messages =>
    rw [SettledSample, not_forall] at edited
    obtain ⟨padToken, edited⟩ := edited
    rw [Classical.not_imp] at edited
    obtain ⟨token, edited⟩ := edited
    rw [sftProcessSample_fst, unsettledSample, unsettledSample, token]
    exact unsettledMessages_mask_lt edited

theorem unsettledSample_attempt_le (remaining : Nat) (sample : SftSample) :
    unsettledSample tokenizer (attemptSample tokenizer remaining sample).1 ≤
      unsettledSample tokenizer sample := by
  induction remaining generalizing sample with
  | zero => exact unsettledSample_process_le sample
  | succ remaining ih =>
    have first := @unsettledSample_process_le tokenizer sample
    rw [attemptSample]
    split
    case h_1 left item processed => rwa [processed] at first
    case h_2 left exn processed =>
      rw [processed] at first
      exact Nat.le_trans (ih left) first

theorem attemptSample_ne (remaining : Nat) (edited : ¬ SettledSample tokenizer sample) :
    (attemptSample tokenizer remaining sample).1 ≠ sample := by
  have first := unsettledSample_process_lt edited
  have fewer : unsettledSample tokenizer (attemptSample tokenizer remaining sample).1 <
      unsettledSample tokenizer sample := by
    cases remaining with
    | zero => exact first
    | succ remaining =>
      rw [attemptSample]
      split
      case h_1 left item processed => rwa [processed] at first
      case h_2 left exn processed =>
        rw [processed] at first
        exact Nat.lt_of_le_of_lt (unsettledSample_attempt_le remaining left) first
  intro restored
  rw [restored] at fewer
  exact Nat.lt_irrefl _ fewer

theorem attemptSample_of_settled (remaining : Nat) (settled : SettledSample tokenizer sample) :
    attemptSample tokenizer remaining sample = sftProcessSample tokenizer sample := by
  induction remaining with
  | zero => rfl
  | succ remaining ih =>
    have same := sftProcessSample_of_settled settled
    rw [attemptSample]
    split
    case h_1 left item processed => rw [processed]
    case h_2 left exn processed =>
      rw [processed] at same
      rw [show left = sample from same, ih]

end Settled

section Visits

variable {tokenizer : SftTokenizer}

def processedAt (tokenizer : SftTokenizer) (dataset : List SftSample) (idx : Nat) :
    Except PyError SftItem :=
  match dataset[idx]? with
  | none => .error .indexError
  | some sample => (sftProcessSample tokenizer sample).2

structure StoredDataset (tokenizer : SftTokenizer) extends SFTDataset where
  cache_eq : ∀ idx item, toSFTDataset.cached idx = some item →
    processedAt tokenizer dataset idx = .ok item

def Intact (dataset : List SftSample) (state : VisitedDataset) : Prop :=
  state.store.dataset = dataset ∧
    ∀ idx first later, (idx, first) ∈ state.returned → (idx, later) ∈ state.returned →
      first = later

def LeavesSample (tokenizer : SftTokenizer) (state : VisitedDataset) : SampleVisit → Prop
  | .sftProcessSample idx =>
    ∀ sample, state.store.dataset[idx]? = some sample → SettledSample tokenizer sample
  | .getItem idx _ =>
    state.store.cached idx = none →
      ∀ sample, state.store.dataset[idx]? = some sample → SettledSample tokenizer sample

structure Untouched (tokenizer : SftTokenizer) (dataset : List SftSample)
    (state : VisitedDataset) : Prop where
  dataset_eq : state.store.dataset = dataset
  cache_eq : ∀ idx item, state.store.cached idx = some item →
    processedAt tokenizer dataset idx = .ok item
  returned_eq : ∀ entry ∈ state.returned, entry.2 = processedAt tokenizer dataset entry.1

variable {dataset : List SftSample} {state : VisitedDataset} {idx : Nat}

theorem Untouched.intact
    (untouched : Untouched tokenizer dataset state) : Intact dataset state := by
  refine ⟨untouched.dataset_eq, ?_⟩
  intro idx first later inFirst inLater
  exact (untouched.returned_eq _ inFirst).trans (untouched.returned_eq _ inLater).symm

theorem set_of_getElem?_eq {sample left : SftSample}
    (found : dataset[idx]? = some sample) : dataset.set idx left = dataset ↔ left = sample := by
  obtain ⟨inside, rfl⟩ := List.getElem?_eq_some_iff.mp found
  constructor
  · intro same
    have there : (dataset.set idx left)[idx]? = dataset[idx]? := by rw [same]
    rw [getElem?_set_self inside, getElem?_eq_getElem inside, Option.some.injEq] at there
    exact there
  · rintro rfl
    exact set_getElem_self inside

theorem cached_setCache (self : SFTDataset) (idx other : Nat) (item : SftItem)
    (written : Bool) {found : SftItem}
    (inCache : (self.setCache idx item written).cached other = some found) :
    self.cached other = some found ∨ other = idx ∧ found = item := by
  cases written with
  | false => exact Or.inl inCache
  | true =>
    cases hasCache : self.cache with
    | none => simp [SFTDataset.setCache, SFTDataset.cached, hasCache] at inCache
    | some items =>
      simp only [SFTDataset.setCache, SFTDataset.cached, hasCache, if_true,
        Option.map_some, Option.bind_some] at inCache ⊢
      by_cases here : other = idx
      · rw [if_pos here, Option.some.injEq] at inCache
        exact Or.inr ⟨here, inCache.symm⟩
      · rw [if_neg here] at inCache
        exact Or.inl inCache

@[simp]
theorem dataset_setCache (self : SFTDataset) (idx : Nat) (item : SftItem) (written : Bool) :
    (self.setCache idx item written).dataset = self.dataset := by
  cases written <;> rfl

theorem processedAt_of_getElem? {sample : SftSample} (found : dataset[idx]? = some sample) :
    processedAt tokenizer dataset idx = (sftProcessSample tokenizer sample).2 := by
  rw [processedAt, found]

theorem processedAt_of_none (outside : dataset[idx]? = none) :
    processedAt tokenizer dataset idx = .error .indexError := by
  rw [processedAt, outside]

/-- A visit that leaves its sample returns what the sample gives. -/
theorem Untouched.step (untouched : Untouched tokenizer dataset state) (visit : SampleVisit)
    (leaves : LeavesSample tokenizer state visit) :
    Untouched tokenizer dataset (state.handle tokenizer visit) := by
  obtain ⟨datasetEq, cacheEq, returnedEq⟩ := untouched
  have returned : ∀ idx outcome, outcome = processedAt tokenizer dataset idx →
      ∀ entry ∈ (idx, outcome) :: state.returned,
        entry.2 = processedAt tokenizer dataset entry.1 := by
    intro idx outcome same
    exact forall_mem_cons.mpr ⟨same, returnedEq⟩
  cases visit with
  | sftProcessSample idx =>
    rw [VisitedDataset.handle]
    cases found : state.store.dataset[idx]? with
    | none =>
      rw [datasetEq] at found
      exact ⟨datasetEq, cacheEq, returned idx _ (processedAt_of_none found).symm⟩
    | some sample =>
      have same := sftProcessSample_of_settled (leaves sample found)
      refine ⟨?_, cacheEq, returned idx _ ?_⟩
      · exact ((set_of_getElem?_eq found).mpr same).trans datasetEq
      · rw [datasetEq] at found
        exact (processedAt_of_getElem? found).symm
  | getItem idx written =>
    rw [VisitedDataset.handle, SFTDataset.getItem]
    cases cached : state.store.cached idx with
    | some item => exact ⟨datasetEq, cacheEq, returned idx _ (cacheEq idx item cached).symm⟩
    | none =>
      cases found : state.store.dataset[idx]? with
      | none =>
        rw [datasetEq] at found
        exact ⟨datasetEq, cacheEq, returned idx _ (processedAt_of_none found).symm⟩
      | some sample =>
        have settled := leaves cached sample found
        have kept := sftProcessSample_of_settled settled
        have same : state.store.dataset.set idx
            (sftProcessSample tokenizer sample).1 = dataset :=
          ((set_of_getElem?_eq found).mpr kept).trans datasetEq
        rw [datasetEq] at found
        have gives := @processedAt_of_getElem? tokenizer _ _ _ found
        simp only [attemptSample_of_settled _ settled]
        cases processed : sftProcessSample tokenizer sample with
        | mk left outcome =>
          rw [processed] at same gives
          cases outcome with
          | error exn => exact ⟨same, cacheEq, returned idx _ gives.symm⟩
          | ok item =>
            refine ⟨(dataset_setCache _ _ _ _).trans same, ?_, returned idx _ gives.symm⟩
            intro other found inCache
            rcases cached_setCache _ _ _ _ _ inCache with before | ⟨rfl, rfl⟩
            · exact cacheEq other found before
            · exact gives

theorem Untouched.touched (untouched : Untouched tokenizer dataset state) (visit : SampleVisit)
    (edits : ¬ LeavesSample tokenizer state visit) :
    ¬ Intact dataset (state.handle tokenizer visit) := by
  rintro ⟨same, _⟩
  rw [← untouched.dataset_eq] at same
  cases visit with
  | sftProcessSample idx =>
    simp only [LeavesSample, not_forall] at edits
    obtain ⟨sample, found, edited⟩ := edits
    rw [VisitedDataset.handle] at same
    simp only [found] at same
    exact attemptSample_ne 0 edited ((set_of_getElem?_eq found).mp same)
  | getItem idx written =>
    simp only [LeavesSample, not_forall] at edits
    obtain ⟨cached, sample, found, edited⟩ := edits
    refine attemptSample_ne (maxRetries - 1) edited ((set_of_getElem?_eq found).mp ?_)
    rw [VisitedDataset.handle, SFTDataset.getItem] at same
    simp only [cached, found] at same
    generalize attemptSample tokenizer (maxRetries - 1) sample = attempted at same ⊢
    obtain ⟨left, outcome⟩ := attempted
    cases outcome with
    | error exn => exact same
    | ok item => rwa [dataset_setCache] at same

theorem isRun_sampleVisits (visits : List SampleVisit) :
    (sampleVisits tokenizer).IsRun state visits :=
  EventSystem.IsRun.of_forall (fun _ _ => trivial) state visits

end Visits

/-- Visits in any order leave the stored samples intact, and visits of one sample all end
alike, exactly if every visit finds its item in the cache, or a sample with nothing to
edit. -/
theorem intact_iff_leavesSample (tokenizer : SftTokenizer)
    (stored : StoredDataset tokenizer) (visits : List SampleVisit) :
    (sampleVisits tokenizer).Throughout (Intact stored.dataset)
        { store := stored.toSFTDataset } visits ↔
      (sampleVisits tokenizer).StepsMeet (LeavesSample tokenizer)
        { store := stored.toSFTDataset } visits := by
  apply @EventSystem.throughout_iff_stepsMeet _ _ (sampleVisits tokenizer)
    (Untouched tokenizer stored.dataset)
  · intro state untouched
    exact untouched.intact
  · intro state visit untouched _ leaves
    exact untouched.step visit leaves
  · intro state visit untouched _ edits
    exact untouched.touched visit edits
  · exact ⟨rfl, stored.cache_eq, by simp⟩
  · exact isRun_sampleVisits visits

def enclosingTokenizer : SftTokenizer where
  encode text := text.toList.map Char.toNat
  applyChatTemplate messages :=
    .ok (messages.flatMap fun msg => 60 :: msg.content.toList.map Char.toNat ++ [62])
  padToken := some "_"
  padTokenId := some 95
  eosTokenId := some 62

def answeredQuestion : StoredDataset enclosingTokenizer where
  dataset := [.conversation [⟨some .user, "hi"⟩, ⟨some .assistant, "ok"⟩]]
  cache := none
  cache_eq _ _ inCache := by cases inCache

/-- The second visit trains on the placeholder instead of the answer. -/
theorem not_intact_answeredQuestion :
    ((sampleVisits enclosingTokenizer).after { store := answeredQuestion.toSFTDataset }
        [.getItem 0 false, .getItem 0 false]).returned =
      [(0, .ok ⟨60 :: 104 :: 105 :: 62 :: 60 :: List.replicate 10 95 ++ [62],
          [-100, -100, -100, -100, -100] ++ List.replicate 10 95 ++ [62]⟩),
        (0, .ok ⟨[60, 104, 105, 62, 60, 111, 107, 62],
          [-100, -100, -100, -100, -100, 111, 107, 62]⟩)] ∧
    ¬ (sampleVisits enclosingTokenizer).Throughout (Intact answeredQuestion.dataset)
        { store := answeredQuestion.toSFTDataset }
        [.getItem 0 false, .getItem 0 false] := by
  have returned : ((sampleVisits enclosingTokenizer).after
      { store := answeredQuestion.toSFTDataset }
      [.getItem 0 false, .getItem 0 false]).returned =
      [(0, .ok ⟨60 :: 104 :: 105 :: 62 :: 60 :: List.replicate 10 95 ++ [62],
          [-100, -100, -100, -100, -100] ++ List.replicate 10 95 ++ [62]⟩),
        (0, .ok ⟨[60, 104, 105, 62, 60, 111, 107, 62],
          [-100, -100, -100, -100, -100, 111, 107, 62]⟩)] := by
    decide
  refine ⟨returned, ?_⟩
  intro throughout
  obtain ⟨_, alike⟩ := throughout.finish
  rw [returned] at alike
  have same := alike 0 _ _ mem_cons_self (mem_cons_of_mem _ mem_cons_self)
  cases same

end CosmosRl.Worker
