import CosmosRl.Dispatcher.VersionTags
import CosmosRl.Dispatcher.World

/-!
The prompt quota of a weight version.

A run consists of the training calls of `get_batched_prompt`; between two of them the
controller may do anything that logs no scaling and loses no policy replica.  Only these
calls write the counters of the versions.
-/

namespace CosmosRl.Dispatcher

open CosmosRl.Foundation List

structure QuotaLedger where
  controller : Controller := {}
  handedOut : List RLPayload := []

inductive QuotaEvent where
  | call (n : Nat) (rankInMesh : Option Nat)
  | meanwhile (next : Controller)

variable (config : Config)

def answeredPayloads : Except PyError (List RLPayload × Bool) → List RLPayload
  | .ok (payloads, _) => payloads
  | .error _ => []

def QuotaEvent.apply (ledger : QuotaLedger) : QuotaEvent → QuotaLedger
  | .call n rankInMesh =>
    let answered := getBatchedPrompt config n none rankInMesh ledger.controller
    { controller := answered.2
      handedOut := ledger.handedOut ++ answeredPayloads answered.1 }
  | .meanwhile next =>
    { ledger with
      controller := { next with
        weightVersionToPromptNum := ledger.controller.weightVersionToPromptNum } }

def MeanwhileGrows (ledger : QuotaLedger) : QuotaEvent → Prop
  | .call _ _ => True
  | .meanwhile next =>
    next.neverScaled = true ∧
      ledger.controller.policy.policyReplicas.size ≤ next.policy.policyReplicas.size

instance (ledger : QuotaLedger) : (event : QuotaEvent) → Decidable (MeanwhileGrows ledger event)
  | .call _ _ => .isTrue trivial
  | .meanwhile _ => inferInstanceAs (Decidable (_ ∧ _))

def quotaSystem : EventSystem QuotaLedger QuotaEvent where
  handle := QuotaEvent.apply config
  Allowed := MeanwhileGrows

def trainingFetch (n : Nat) (rankInMesh : Option Nat) (controller : Controller) :
    Except PyError (List Nat × Bool) × ControllerDataFetcher :=
  fetcherGetBatchedPrompt config
    (if config.mode ≠ .colocated then controller.throttledFetch config n else n) none rankInMesh
    (some (controller.weightVersionForCurrentBatch config)) controller.dataFetcher

/-- A call tags in order and, unless the data fetcher itself raises, fails neither with an
assertion nor for a missing counter. -/
structure AnswersSoundly (n : Nat) (rankInMesh : Option Nat) (controller : Controller) :
    Prop where
  inOrder : ∀ payloads isEnd,
    (getBatchedPrompt config n none rankInMesh controller).1 = .ok (payloads, isEnd) →
      TagsInOrder payloads
  noAssertion : ∀ idxs isEnd,
    (trainingFetch config n rankInMesh controller).1 = .ok (idxs, isEnd) →
      ∀ message, (getBatchedPrompt config n none rankInMesh controller).1 ≠
        .error (.assertionError message)
  hasEntry : ∀ idxs isEnd,
    (trainingFetch config n rankInMesh controller).1 = .ok (idxs, isEnd) →
      (getBatchedPrompt config n none rankInMesh controller).1 ≠ .error .keyError

/-- After a step neither the counters nor the tags handed out exceed the global batch size
for any version, and a call answers soundly. -/
structure KeepsQuota (ledger : QuotaLedger) (event : QuotaEvent) : Prop where
  counters : WithinQuota ((event.apply config ledger).controller.globalBatchSize config)
    (event.apply config ledger).controller.weightVersionToPromptNum
  handedOut : ∀ version, taggedCount version (event.apply config ledger).handedOut ≤
    (event.apply config ledger).controller.globalBatchSize config
  answers : ∀ n rankInMesh, event = .call n rankInMesh →
    AnswersSoundly config n rankInMesh ledger.controller

/-- Prompts are fetched with a policy replica registered.  A fetch without prompts finds a
counter for the current version, unless retries are unlimited.  In colocated mode, where no
prompt gets a version, all of them fit into one global batch. -/
def FetchCovered (ledger : QuotaLedger) : QuotaEvent → Prop
  | .call n rankInMesh => ∀ idxs isEnd,
      (trainingFetch config n rankInMesh ledger.controller).1 = .ok (idxs, isEnd) →
        if config.mode = .colocated then
          ledger.handedOut.length + idxs.length ≤ ledger.controller.globalBatchSize config
        else if idxs = [] then
          0 < config.maxRetryForOnPolicy →
            ledger.controller.weightVersionForCurrentBatch config ∈
              ledger.controller.weightVersionToPromptNum.keys
        else 0 < ledger.controller.policy.policyReplicas.size
  | .meanwhile _ => True

section Retries

variable {config : Config} {quota version : Nat} {promptNum : Dict Nat Nat}

theorem checkRetries_of_within (positive : 0 < quota) (within : WithinQuota quota promptNum)
    (counted : version ∈ promptNum.keys) :
    checkRetries config version quota promptNum = none := by
  obtain ⟨used, found⟩ := Dict.mem_keys_iff_get?.mp counted
  rw [checkRetries]
  split
  next limited =>
    have once : (used + quota - 1) / quota ≤ 1 := by
      rw [Nat.div_le_iff_le_mul positive]
      have atMost := within version used found
      omega
    have notMore : ¬ config.maxRetryForOnPolicy < (((used + quota - 1) / quota : Nat) : Int) := by
      omega
    rw [found]
    dsimp only
    rw [if_neg positive.ne', if_neg notMore]
  next => rfl

theorem checkRetries_of_absent (limited : 0 < config.maxRetryForOnPolicy)
    (absent : version ∉ promptNum.keys) :
    checkRetries config version quota promptNum = some .keyError := by
  rw [checkRetries, if_pos limited, Dict.get?_eq_none_iff.mpr absent]

theorem checkRetries_of_unlimited (unlimited : ¬ 0 < config.maxRetryForOnPolicy) :
    checkRetries config version quota promptNum = none :=
  if_neg unlimited

end Retries

section Call

variable {config : Config} {n : Nat} {rankInMesh : Option Nat} {controller : Controller}
  {idxs : List Nat} {isEnd : Bool} {fetcher : ControllerDataFetcher}

def Controller.afterFetch (fetcher : ControllerDataFetcher) (promptNum : Dict Nat Nat)
    (controller : Controller) : Controller :=
  { controller with dataFetcher := fetcher, weightVersionToPromptNum := promptNum }

section

variable (nonDapo : config.variant ≠ .dapo)

include nonDapo

theorem getBatchedPrompt_of_failed {exn : PyError}
    (fetched : trainingFetch config n rankInMesh controller = (.error exn, fetcher)) :
    getBatchedPrompt config n none rankInMesh controller =
      (.error exn, { controller with dataFetcher := fetcher }) := by
  rw [trainingFetch] at fetched
  rw [getBatchedPrompt]
  simp only [Option.isNone_none, Bool.true_and, decide_eq_true_eq, if_neg nonDapo, fetched]

theorem getBatchedPrompt_colocated (colocated : config.mode = .colocated)
    (fetched : trainingFetch config n rankInMesh controller = (.ok (idxs, isEnd), fetcher)) :
    getBatchedPrompt config n none rankInMesh controller =
      handOut config false (idxs.map fun promptIdx => ⟨promptIdx, 0⟩) isEnd
        { controller with dataFetcher := fetcher } := by
  rw [trainingFetch] at fetched
  rw [getBatchedPrompt]
  simp only [Option.isNone_none, Bool.true_and, decide_eq_true_eq, if_neg nonDapo, fetched]
  simp only [colocated, ne_eq, not_true_eq_false, decide_false, Bool.false_and,
    Bool.false_eq_true, if_false, Option.isSome_none]

theorem getBatchedPrompt_separate
    (separate : config.mode ≠ .colocated) (neverScaled : controller.neverScaled = true)
    (fetched : trainingFetch config n rankInMesh controller = (.ok (idxs, isEnd), fetcher)) :
    getBatchedPrompt config n none rankInMesh controller =
      match tagPayloads (controller.globalBatchSize config) idxs
          (controller.weightVersionForCurrentBatch config)
          controller.weightVersionToPromptNum with
      | (.error exn, promptNum) => (.error exn, controller.afterFetch fetcher promptNum)
      | (.ok payloads, promptNum) =>
        match checkRetries config (controller.weightVersionForCurrentBatch config)
            (controller.globalBatchSize config) promptNum with
        | some exn => (.error exn, controller.afterFetch fetcher promptNum)
        | none => handOut config false payloads isEnd
            (controller.afterFetch fetcher promptNum) := by
  rw [trainingFetch] at fetched
  rw [getBatchedPrompt]
  simp only [Option.isNone_none, Bool.true_and, decide_eq_true_eq, if_neg nonDapo, fetched]
  simp only [separate, ne_eq, not_false_eq_true, decide_true, neverScaled, Bool.and_self,
    if_true, controlVersions, if_neg nonDapo]
  rfl

end

theorem after_getBatchedPrompt_separate {tags : Except PyError (List RLPayload) × Dict Nat Nat}
    {retries : Dict Nat Nat → Option PyError}
    (answered : getBatchedPrompt config n none rankInMesh controller =
      match tags with
      | (.error exn, promptNum) => (.error exn, controller.afterFetch fetcher promptNum)
      | (.ok payloads, promptNum) =>
        match retries promptNum with
        | some exn => (.error exn, controller.afterFetch fetcher promptNum)
        | none => handOut config false payloads isEnd
            (controller.afterFetch fetcher promptNum)) :
    (getBatchedPrompt config n none rankInMesh controller).2.weightVersionToPromptNum =
        tags.2 ∧
      (getBatchedPrompt config n none rankInMesh controller).2.globalBatchSize config =
        controller.globalBatchSize config := by
  rw [answered]
  split
  next => exact ⟨rfl, rfl⟩
  next =>
    split
    next => exact ⟨rfl, rfl⟩
    next => exact ⟨rfl, rfl⟩

end Call

section Quota

variable {config : Config}

theorem globalBatchSize_mono {before after : Controller}
    (grows : before.policy.policyReplicas.size ≤ after.policy.policyReplicas.size) :
    before.globalBatchSize config ≤ after.globalBatchSize config := by
  rw [Controller.globalBatchSize, Controller.globalBatchSize,
    Controller.rolloutsPerGlobalBatch, Controller.rolloutsPerGlobalBatch]
  apply Nat.div_le_div_right
  apply Nat.sub_le_sub_right
  apply Nat.add_le_add_right
  exact Nat.mul_le_mul_left config.trainBatchPerReplica grows

theorem globalBatchSize_pos_iff {controller : Controller} :
    0 < controller.globalBatchSize config ↔ 0 < controller.policy.policyReplicas.size := by
  have generations := config.nGeneration_pos
  rw [Controller.globalBatchSize, Controller.rolloutsPerGlobalBatch, Nat.div_pos_iff]
  constructor
  · rintro ⟨-, enough⟩
    by_contra none
    rw [Nat.eq_zero_of_not_pos none, Nat.mul_zero] at enough
    omega
  · intro some
    have rollouts := Nat.mul_pos config.trainBatch_pos some
    exact ⟨generations, by omega⟩

end Quota

section Steps

variable {config : Config} {ledger : QuotaLedger} {event : QuotaEvent}

/-- What the calls keep: only versions of a positive quota have counters, and the counters
cover the tags handed out; in colocated mode all tags are 0 and none exceeds the quota. -/
structure QuotaLedger.Sound (config : Config) (ledger : QuotaLedger) : Prop where
  neverScaled : ledger.controller.neverScaled = true
  within : WithinQuota (ledger.controller.globalBatchSize config)
    ledger.controller.weightVersionToPromptNum
  positive : ∀ version ∈ ledger.controller.weightVersionToPromptNum.keys,
    0 < ledger.controller.globalBatchSize config
  counted : config.mode ≠ .colocated → ∀ version, taggedCount version ledger.handedOut ≤
    promptCount ledger.controller.weightVersionToPromptNum version
  untagged : config.mode = .colocated → taggedCount 0 ledger.handedOut = ledger.handedOut.length ∧
    ledger.handedOut.length ≤ ledger.controller.globalBatchSize config

theorem taggedCount_untagged (idxs : List Nat) :
    taggedCount 0 (idxs.map fun promptIdx => ⟨promptIdx, 0⟩) = idxs.length := by
  have zeros : (idxs.map fun promptIdx => (⟨promptIdx, 0⟩ : RLPayload)).map
      RLPayload.weightVersion = List.replicate idxs.length 0 := by
    rw [map_map]
    exact map_const'
  rw [taggedCount, zeros, count_replicate_self]

theorem taggedCount_le_length (version : Nat) (payloads : List RLPayload) :
    taggedCount version payloads ≤ payloads.length := by
  have fewer := @count_le_length _ _ version (payloads.map RLPayload.weightVersion)
  rwa [length_map] at fewer

theorem QuotaLedger.Sound.handedOut (sound : ledger.Sound config) (version : Nat) :
    taggedCount version ledger.handedOut ≤ ledger.controller.globalBatchSize config := by
  by_cases colocated : config.mode = .colocated
  · exact (taggedCount_le_length version _).trans (sound.untagged colocated).2
  · exact (sound.counted colocated version).trans (sound.within.promptCount_le version)

theorem sound_start : QuotaLedger.Sound config {} where
  neverScaled := rfl
  within := nofun
  positive := nofun
  counted := fun _ _ => Nat.le_refl 0
  untagged := fun _ => ⟨rfl, Nat.zero_le _⟩

theorem QuotaLedger.Sound.meanwhile (sound : ledger.Sound config) {next : Controller}
    (grows : MeanwhileGrows ledger (.meanwhile next)) :
    (QuotaEvent.apply config ledger (.meanwhile next)).Sound config := by
  have larger : ledger.controller.globalBatchSize config ≤ next.globalBatchSize config :=
    globalBatchSize_mono grows.2
  exact
    { neverScaled := grows.1
      within := fun version used counted => (sound.within version used counted).trans larger
      positive := fun version counted => (sound.positive version counted).trans_le larger
      counted := sound.counted
      untagged := fun colocated =>
        ⟨(sound.untagged colocated).1, (sound.untagged colocated).2.trans larger⟩ }

theorem QuotaLedger.Sound.keepsQuota (after : (event.apply config ledger).Sound config)
    (answers : ∀ n rankInMesh, event = .call n rankInMesh →
      AnswersSoundly config n rankInMesh ledger.controller) : KeepsQuota config ledger event where
  counters := after.within
  handedOut := after.handedOut
  answers := answers

theorem AnswersSoundly.of_noError {n : Nat} {rankInMesh : Option Nat} {controller : Controller}
    (fine : ∀ idxs isEnd, (trainingFetch config n rankInMesh controller).1 = .ok (idxs, isEnd) →
      ∃ answer, (getBatchedPrompt config n none rankInMesh controller).1 = .ok answer) :
    AnswersSoundly config n rankInMesh controller where
  inOrder := fun payloads isEnd answered =>
    tagsInOrder_getBatchedPrompt (Prod.ext answered rfl)
  noAssertion := by
    intro idxs isEnd fetched message raised
    obtain ⟨answer, answered⟩ := fine idxs isEnd fetched
    rw [answered] at raised
    cases raised
  hasEntry := by
    intro idxs isEnd fetched raised
    obtain ⟨answer, answered⟩ := fine idxs isEnd fetched
    rw [answered] at raised
    cases raised

variable {n : Nat} {rankInMesh : Option Nat}

/-- A covered call is answered and keeps the ledger sound. -/
theorem QuotaLedger.Sound.call (sound : ledger.Sound config) (nonDapo : config.variant ≠ .dapo)
    (covered : FetchCovered config ledger (.call n rankInMesh)) :
    (QuotaEvent.apply config ledger (.call n rankInMesh)).Sound config ∧
      AnswersSoundly config n rankInMesh ledger.controller := by
  rcases fetched : trainingFetch config n rankInMesh ledger.controller with
    ⟨_ | ⟨idxs, isEnd⟩, fetcher⟩
  case error exn =>
    have answered := getBatchedPrompt_of_failed nonDapo fetched
    refine ⟨?_, .of_noError fun idxs isEnd ok => ?_⟩
    · rw [QuotaEvent.apply, answered]
      dsimp only [answeredPayloads]
      rw [append_nil]
      exact ⟨sound.neverScaled, sound.within, sound.positive, sound.counted, sound.untagged⟩
    · rw [fetched] at ok
      cases ok
  case ok =>
    have covers := covered idxs isEnd (congrArg Prod.fst fetched)
    by_cases colocated : config.mode = .colocated
    · rw [if_pos colocated] at covers
      have answered := getBatchedPrompt_colocated nonDapo colocated fetched
      refine ⟨?_, .of_noError fun _ _ _ => ⟨_, congrArg Prod.fst answered⟩⟩
      rw [QuotaEvent.apply, answered]
      refine
        { neverScaled := sound.neverScaled
          within := sound.within
          positive := sound.positive
          counted := fun separate => absurd colocated separate
          untagged := fun _ => ?_ }
      obtain ⟨untagged, -⟩ := sound.untagged colocated
      constructor
      · dsimp only [handOut, answeredPayloads]
        rw [taggedCount_append, untagged, taggedCount_untagged, length_append, length_map]
      · dsimp only [handOut, answeredPayloads]
        rw [length_append, length_map]
        exact covers
    · rw [if_neg colocated] at covers
      have quotaPositive : idxs ≠ [] → 0 < ledger.controller.globalBatchSize config := by
        intro some
        rw [if_neg some] at covers
        exact globalBatchSize_pos_iff.mpr covers
      obtain ⟨tagged, final, tags, counted⟩ := tagPayloads_ok sound.within quotaPositive
        (ledger.controller.weightVersionForCurrentBatch config)
      have positive : ∀ version ∈ final.keys, 0 < ledger.controller.globalBatchSize config := by
        intro version isKey
        cases idxs with
        | nil =>
          cases tags
          exact sound.positive version isKey
        | cons promptIdx rest => exact quotaPositive (cons_ne_nil promptIdx rest)
      have unexhausted : checkRetries config
          (ledger.controller.weightVersionForCurrentBatch config)
          (ledger.controller.globalBatchSize config) final = none := by
        by_cases limited : 0 < config.maxRetryForOnPolicy
        · have isKey : ledger.controller.weightVersionForCurrentBatch config ∈ final.keys := by
            by_cases none : idxs = []
            · rw [if_pos none] at covers
              exact counted.keys _ (covers limited)
            · exact counted.current none
          exact checkRetries_of_within (positive _ isKey) counted.within isKey
        · exact checkRetries_of_unlimited limited
      have answered := getBatchedPrompt_separate nonDapo colocated sound.neverScaled fetched
      rw [tags] at answered
      dsimp only at answered
      rw [unexhausted] at answered
      refine ⟨?_, .of_noError fun _ _ _ => ⟨_, congrArg Prod.fst answered⟩⟩
      rw [QuotaEvent.apply, answered]
      refine
        { neverScaled := sound.neverScaled
          within := counted.within
          positive := positive
          counted := fun separate version => ?_
          untagged := fun isColocated => absurd isColocated colocated }
      have covered : taggedCount version (ledger.handedOut ++ tagged) ≤
          promptCount final version := by
        rw [taggedCount_append, counted.counts]
        exact Nat.add_le_add_right (sound.counted separate version) _
      exact covered

/-- A call that is not covered breaks the quota or fails. -/
theorem QuotaLedger.Sound.covered (sound : ledger.Sound config) (nonDapo : config.variant ≠ .dapo)
    (keeps : KeepsQuota config ledger (.call n rankInMesh)) :
    FetchCovered config ledger (.call n rankInMesh) := by
  intro idxs isEnd ok
  rcases fetched : trainingFetch config n rankInMesh ledger.controller with ⟨answer, fetcher⟩
  rw [fetched] at ok
  dsimp only at ok
  subst ok
  by_cases colocated : config.mode = .colocated
  · rw [if_pos colocated]
    have answered := getBatchedPrompt_colocated nonDapo colocated fetched
    have tags := keeps.handedOut 0
    rw [QuotaEvent.apply, answered] at tags
    dsimp only [handOut, answeredPayloads] at tags
    rwa [taggedCount_append, (sound.untagged colocated).1, taggedCount_untagged] at tags
  · rw [if_neg colocated]
    have answered := getBatchedPrompt_separate nonDapo colocated sound.neverScaled fetched
    by_cases none : idxs = []
    · rw [if_pos none]
      subst none
      intro limited
      by_contra absent
      rw [tagPayloads] at answered
      dsimp only at answered
      rw [checkRetries_of_absent limited absent] at answered
      exact (keeps.answers n rankInMesh rfl).hasEntry _ _ (congrArg Prod.fst fetched)
        (congrArg Prod.fst answered)
    · rw [if_neg none]
      by_contra noReplica
      have noQuota : ledger.controller.globalBatchSize config = 0 :=
        Nat.eq_zero_of_not_pos fun positive => noReplica (globalBatchSize_pos_iff.mp positive)
      have noCounters : ledger.controller.weightVersionToPromptNum.keys = [] := by
        rw [eq_nil_iff_forall_not_mem]
        intro version isKey
        exact absurd noQuota (sound.positive version isKey).ne'
      obtain ⟨counters, sameQuota⟩ := after_getBatchedPrompt_separate answered
      have within := keeps.counters.promptCount_le
        (ledger.controller.weightVersionForCurrentBatch config)
      rw [QuotaEvent.apply] at within
      dsimp only at within
      rw [counters, sameQuota, noQuota] at within
      exact absurd (promptCount_tagPayloads_pos noCounters none _) (Nat.not_lt.mpr within)

/-- A step of a sound ledger keeps the quota exactly if its fetch is covered, and leaves the
ledger sound. -/
theorem QuotaLedger.Sound.step (sound : ledger.Sound config) (nonDapo : config.variant ≠ .dapo)
    (grows : MeanwhileGrows ledger event)
    (covered : FetchCovered config ledger event) :
    KeepsQuota config ledger event ∧ (event.apply config ledger).Sound config := by
  cases event with
  | call n rankInMesh =>
    obtain ⟨after, answers⟩ := sound.call nonDapo covered
    refine ⟨after.keepsQuota fun other otherRank same => ?_, after⟩
    cases same
    exact answers
  | meanwhile next =>
    have after := sound.meanwhile grows
    exact ⟨after.keepsQuota nofun, after⟩

/-- In every run the quotas are kept, tags are in order and no call fails at its checks,
exactly if all fetches are covered. -/
theorem keepsQuota_iff_fetchCovered (config : Config) (nonDapo : config.variant ≠ .dapo)
    (events : List QuotaEvent) (isRun : (quotaSystem config).IsRun {} events) :
    (quotaSystem config).StepsMeet (KeepsQuota config) {} events ↔
      (quotaSystem config).StepsMeet (FetchCovered config) {} events := by
  have start : QuotaLedger.Sound config {} := sound_start
  constructor
  · refine EventSystem.stepsMeet_of_preserved ?_ start isRun
    intro ledger event sound grows keeps
    have covered : FetchCovered config ledger event := by
      cases event with
      | call n rankInMesh => exact sound.covered nonDapo keeps
      | meanwhile next => exact trivial
    exact ⟨covered, (sound.step nonDapo grows covered).2⟩
  · exact EventSystem.stepsMeet_of_preserved
      (fun _ _ sound grows covered => sound.step nonDapo grows covered) start isRun

end Steps

def limitedRetries : Config :=
  { Config.small 0
      { trainDataloader := fun _ => [[0], [1]]
        valDataloader := []
        valDatasize := 0 } with
    maxRetryForOnPolicy := 1 }

def handled (controller : Controller) (events : List Event) : Controller :=
  events.foldl (fun current event => (handleEvent limitedRetries current event).state) controller

def registered : Controller :=
  handled (setup limitedRetries 0 2 1 1 { trainDataloaderIter := [[0], [1]] })
    [.registerPolicy (singleAtom 0) 0, .registerRollout (singleAtom 1) 0]

def fetchingOnce : List QuotaEvent := [.meanwhile registered, .call 1 none]

def fetchingAgain : List QuotaEvent :=
  fetchingOnce ++
    [.meanwhile (handled (getBatchedPrompt limitedRetries 1 none none registered).2
      [.putRolloutGroup { rollouts := [⟨0, 0, 0⟩] }]), .call 1 none]

instance (ledger : QuotaLedger) (event : QuotaEvent) :
    Decidable ((quotaSystem config).Allowed ledger event) :=
  inferInstanceAs (Decidable (MeanwhileGrows ledger event))

theorem keepsQuota_fetchingOnce :
    (quotaSystem limitedRetries).StepsMeet (KeepsQuota limitedRetries) {} fetchingOnce :=
  (keepsQuota_iff_fetchCovered limitedRetries (by decide) fetchingOnce (by decide)).mpr
    ⟨trivial, fun idxs isEnd fetched => by
      obtain ⟨rfl, rfl⟩ : [0] = idxs ∧ false = isEnd := Prod.mk.inj (Except.ok.inj fetched)
      decide, trivial⟩

/-- The last fetch of the second run finds no counter for the version that has become
current. -/
theorem not_keepsQuota_fetchingAgain :
    (quotaSystem limitedRetries).IsRun {} fetchingAgain ∧
      ¬ (quotaSystem limitedRetries).StepsMeet (KeepsQuota limitedRetries) {} fetchingAgain := by
  refine ⟨by decide, ?_⟩
  rintro ⟨-, -, -, last, -⟩
  exact (last.answers 1 none rfl).hasEntry [] false rfl rfl

end CosmosRl.Dispatcher
