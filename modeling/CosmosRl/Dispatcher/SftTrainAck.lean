import Mathlib.Tactic.Ring
import CosmosRl.Foundation.RoundCounting
import CosmosRl.Dispatcher.Progress

/-!
The controller's side of supervised training with several replicas: prompts carry
the step and the remaining samples as tags, the first train ack of a step counts
it, and the last one takes its samples off.  The same statuses collect the
validation acks.
-/

namespace CosmosRl.Dispatcher

open CosmosRl.Foundation List

variable (config : Config)

structure SftPayload where
  promptIdx : Nat
  weightVersion : Nat
  epoch : Int
  remainSamplesNum : Int
  deriving DecidableEq, Repr

namespace Controller

def anyWithStatus (allowed : List PolicyStatus) (controller : Controller) : Bool :=
  controller.policy.status.values.any fun status => decide (status ∈ allowed)

/-- The tags `get_batched_prompt` writes on the payloads of supervised training. -/
def sftPayload (controller : Controller) (promptIdx : Nat) : SftPayload where
  promptIdx := promptIdx
  weightVersion := controller.policy.currentStep
  epoch := controller.dataFetcher.epoch - 1
  remainSamplesNum := controller.policy.remainSamplesNum

end Controller

/-- `get_batched_prompt` when `train_policy.type` is `"sft"`: no throttle and no
version control. -/
def sftGetBatchedPrompt (n : Nat) (validationStep : Option Nat)
    (controller : Controller) : Except PyError (List SftPayload × Bool) × Controller :=
  match fetcherGetBatchedPrompt config n validationStep none none controller.dataFetcher with
  | (.error exn, fetcher) => (.error exn, { controller with dataFetcher := fetcher })
  | (.ok (promptIdxs, isEnd), fetcher) =>
    let fetched := { controller with dataFetcher := fetcher }
    (.ok (promptIdxs.map fetched.sftPayload, isEnd),
      if validationStep.isSome then fetched
      else { fetched with
        policy.samplesOnTheFly :=
          fetched.policy.samplesOnTheFly + promptIdxs.length * config.nGeneration })

/-- `sft_report_summary`, apart from the report: every replica runs again. -/
def sftReportSummary (controller : Controller) : Result :=
  Outcome.forEach (fun name => setStatus name .running) controller.arrivedPolicyNames controller

def countSftStep (controller : Controller) : Controller :=
  if controller.anyWithStatus [.reduced] then controller
  else
    let counted := { controller with
      policy.currentStep := controller.policy.currentStep + 1 }
    if isValidationStep config counted.policy.currentStep counted.policy.totalSteps then
      validationActivateDataloader config counted.policy.currentStep counted
    else counted

/-- `sft_train_ack`.  An ack is a validation ack when its report has the key
`"val/avg_loss"`. -/
def sftTrainAck (replicaName : ReplicaName) (isValidation : Bool)
    (controller : Controller) : Result :=
  if isValidation then
    (setStatus replicaName .validated controller).andThen fun acked =>
      if acked.allWithStatus [.validated] then sftReportSummary acked else .ok acked
  else
    (setStatus replicaName .reduced (countSftStep config controller)).andThen fun acked =>
      if acked.allReduced then
        sftReportSummary { acked with
          policy.remainSamplesNum :=
            acked.policy.remainSamplesNum - acked.rolloutsPerStep config }
      else .ok acked

/-- `train_ack` when `train_policy.type` is `"sft"`. -/
def sftPolicyTrainAck (replicaName : ReplicaName) (isValidation : Bool)
    (controller : Controller) : Result :=
  if replicaName ∈ controller.policy.policyReplicas.keys then
    sftTrainAck config replicaName isValidation controller
  else
    .raise controller (.exception s!"Replica {replicaName} not found")

structure SftFleet (names : List ReplicaName) (controller : Controller) : Prop where
  arrived : controller.arrivedPolicyNames = names
  statusKeys : ∀ name, name ∈ controller.policy.status.keys ↔ name ∈ names

/-- The controller's step, samples and statuses, as a count of rounds from
`startStep` on. -/
structure CountsSteps (names : List ReplicaName) (startStep : Nat) (initialSamples : Int)
    (controller : Controller) (counter : RoundCounter ReplicaName) : Prop where
  currentStep_eq : controller.policy.currentStep = startStep + counter.counted
  remainSamples_eq : controller.policy.remainSamplesNum =
    initialSamples - (startStep + counter.settled : Nat) *
      (config.trainBatchPerReplica * names.length : Nat)
  reduced_iff : ∀ name ∈ names,
    controller.policy.status.get? name = some .reduced ↔ counter.marked name = true

structure SftFetched (before after : Controller) : Prop where
  policyReplicas_eq : after.policy.policyReplicas = before.policy.policyReplicas
  status_eq : after.policy.status = before.policy.status
  currentStep_eq : after.policy.currentStep = before.policy.currentStep
  remainSamples_eq : after.policy.remainSamplesNum = before.policy.remainSamplesNum

theorem sftFetched_getBatchedPrompt (n : Nat) (validationStep : Option Nat)
    (controller : Controller) :
    SftFetched controller (sftGetBatchedPrompt config n validationStep controller).2 := by
  unfold sftGetBatchedPrompt
  rcases fetcherGetBatchedPrompt config n validationStep none none controller.dataFetcher
    with ⟨answer, fetcher⟩
  cases answer with
  | error exn => exact ⟨rfl, rfl, rfl, rfl⟩
  | ok found =>
    cases validationStep with
    | none => exact ⟨rfl, rfl, rfl, rfl⟩
    | some step => exact ⟨rfl, rfl, rfl, rfl⟩

theorem tags_getBatchedPrompt {n : Nat} {validationStep : Option Nat}
    {controller after : Controller} {payloads : List SftPayload} {isEnd : Bool}
    (answered : sftGetBatchedPrompt config n validationStep controller =
      (.ok (payloads, isEnd), after)) {payload : SftPayload} (member : payload ∈ payloads) :
    payload.weightVersion = controller.policy.currentStep ∧
      payload.remainSamplesNum = controller.policy.remainSamplesNum := by
  unfold sftGetBatchedPrompt at answered
  rcases fetched : fetcherGetBatchedPrompt config n validationStep none none
    controller.dataFetcher with ⟨answer, fetcher⟩
  rw [fetched] at answered
  cases answer with
  | error exn => simp at answered
  | ok found =>
    simp only [Prod.mk.injEq, Except.ok.injEq] at answered
    rw [← answered.1.1, mem_map] at member
    obtain ⟨promptIdx, _, rfl⟩ := member
    exact ⟨rfl, rfl⟩

namespace SftFetched

variable {config} {names : List ReplicaName} {startStep : Nat} {initialSamples : Int}
  {before after : Controller} {counter : RoundCounter ReplicaName}

theorem fleet (fetched : SftFetched before after) (fleet : SftFleet names before) :
    SftFleet names after := by
  refine ⟨?_, ?_⟩
  · rw [← fleet.arrived, Controller.arrivedPolicyNames, Controller.arrivedPolicyReplicas,
      fetched.policyReplicas_eq]
    rfl
  · rw [fetched.status_eq]
    exact fleet.statusKeys

theorem countsSteps (fetched : SftFetched before after)
    (counts : CountsSteps config names startStep initialSamples before counter) :
    CountsSteps config names startStep initialSamples after counter := by
  refine ⟨?_, ?_, ?_⟩
  · rw [fetched.currentStep_eq]
    exact counts.currentStep_eq
  · rw [fetched.remainSamples_eq]
    exact counts.remainSamples_eq
  · rw [fetched.status_eq]
    exact counts.reduced_iff

end SftFetched

section Acks

variable {config} {names : List ReplicaName} {startStep : Nat} {initialSamples : Int}
  {controller : Controller} {counter : RoundCounter ReplicaName}

variable {name : ReplicaName}

section

variable (fleet : SftFleet names controller)

include fleet

theorem SftFleet.registered
    (member : name ∈ names) : name ∈ controller.policy.policyReplicas.keys := by
  rw [← fleet.arrived] at member
  obtain ⟨entry, arrived, rfl⟩ := mem_map.mp member
  exact mem_map.mpr ⟨entry, mem_of_mem_filter arrived, rfl⟩

theorem SftFleet.anyReduced_iff :
    controller.anyWithStatus [.reduced] = true ↔
      ∃ name ∈ names, controller.policy.status.get? name = some .reduced := by
  simp only [Controller.anyWithStatus, any_eq_true, mem_singleton, decide_eq_true_eq,
    Dict.values, mem_map]
  constructor
  · rintro ⟨_, ⟨⟨name, status⟩, stored, rfl⟩, rfl⟩
    have found := Dict.get?_eq_some_iff.mpr stored
    refine ⟨name, ?_, found⟩
    exact (fleet.statusKeys name).mp (Dict.mem_keys_iff_get?.mpr ⟨_, found⟩)
  · rintro ⟨name, _, found⟩
    exact ⟨.reduced, ⟨(name, .reduced), Dict.get?_eq_some_iff.mp found, rfl⟩, rfl⟩

theorem SftFleet.allReduced_iff :
    controller.allReduced = true ↔
      ∀ name ∈ names, controller.policy.status.get? name = some .reduced := by
  simp only [Controller.allReduced, Controller.allWithStatus, all_eq_true,
    mem_singleton, decide_eq_true_eq, Dict.values, mem_map]
  constructor
  · intro all name member
    obtain ⟨status, found⟩ := Dict.mem_keys_iff_get?.mp ((fleet.statusKeys name).mpr member)
    rw [found, all status ⟨(name, status), Dict.get?_eq_some_iff.mp found, rfl⟩]
  · rintro all _ ⟨⟨name, status⟩, stored, rfl⟩
    have found := Dict.get?_eq_some_iff.mpr stored
    have reduced := all name ((fleet.statusKeys name).mp (Dict.mem_keys_iff_get?.mpr ⟨_, found⟩))
    rw [found] at reduced
    exact Option.some.inj reduced

theorem SftFleet.setStatus (member : name ∈ names) (status : PolicyStatus) :
    SftFleet names { controller with
      policy.status := controller.policy.status.set name status } := by
  refine ⟨fleet.arrived, ?_⟩
  intro other
  rw [Dict.mem_keys_set, fleet.statusKeys]
  constructor
  · rintro (rfl | inGroup)
    · exact member
    · exact inGroup
  · exact .inr

theorem SftFleet.reportSummary :
    sftReportSummary controller = .ok { controller with
      policy.status := setAllStatus names .running controller.policy.status } := by
  unfold sftReportSummary
  rw [fleet.arrived]
  apply forEach_setStatus _ (by simp)
  intro name member
  exact (fleet.statusKeys name).mpr member

theorem SftFleet.setAllRunning :
    SftFleet names { controller with
      policy.status := setAllStatus names .running controller.policy.status } := by
  refine ⟨fleet.arrived, ?_⟩
  intro name
  rw [Dict.mem_keys_iff_get?, get?_setAllStatus]
  by_cases member : name ∈ names
  · simp [member]
  · simp only [member, if_false, iff_false]
    rw [← Dict.mem_keys_iff_get?, fleet.statusKeys]
    exact member

theorem SftFleet.rolloutsPerStep_eq :
    controller.rolloutsPerStep config = config.trainBatchPerReplica * names.length := by
  rw [Controller.rolloutsPerStep, ← fleet.arrived, Controller.arrivedPolicyNames, length_map]

end

theorem countSftStep_eq (controller : Controller) :
    ∃ dataFetcher, countSftStep config controller = { controller with
      policy.currentStep := controller.policy.currentStep +
        (if controller.anyWithStatus [.reduced] then 0 else 1)
      dataFetcher := dataFetcher } := by
  unfold countSftStep
  by_cases reduced : controller.anyWithStatus [.reduced] = true
  · rw [if_pos reduced, if_pos reduced]
    exact ⟨controller.dataFetcher, rfl⟩
  · rw [if_neg reduced, if_neg reduced]
    dsimp only
    split
    · unfold validationActivateDataloader
      split
      · exact ⟨controller.dataFetcher, rfl⟩
      · exact ⟨_, rfl⟩
    · exact ⟨controller.dataFetcher, rfl⟩

theorem CountsSteps.of_running {after : Controller} {statuses : Dict ReplicaName PolicyStatus}
    {counter' : RoundCounter ReplicaName}
    (currentStep_eq : after.policy.currentStep = startStep + counter'.counted)
    (remainSamples_eq : after.policy.remainSamplesNum =
      initialSamples - (startStep + counter'.settled : Nat) *
        (config.trainBatchPerReplica * names.length : Nat))
    (status_eq : after.policy.status = setAllStatus names .running statuses)
    (unmarked : ∀ name ∈ names, counter'.marked name = false) :
    CountsSteps config names startStep initialSamples after counter' := by
  refine ⟨currentStep_eq, remainSamples_eq, ?_⟩
  intro name member
  rw [status_eq, get?_setAllStatus, if_pos member, unmarked name member]
  simp

/-- A train ack is an acknowledgement of the round that the controller counts. -/
theorem sftPolicyTrainAck_training (fleet : SftFleet names controller)
    (counts : CountsSteps config names startStep initialSamples controller counter)
    (member : name ∈ names) :
    ∃ after, sftPolicyTrainAck config name false controller = .ok after ∧
      SftFleet names after ∧
      CountsSteps config names startStep initialSamples after
        (counter.acknowledge names name) := by
  have any_iff : controller.anyWithStatus [.reduced] = true ↔
      names.any counter.marked = true := by
    rw [fleet.anyReduced_iff, any_eq_true]
    constructor
    · rintro ⟨other, inGroup, reduced⟩
      exact ⟨other, inGroup, (counts.reduced_iff other inGroup).mp reduced⟩
    · rintro ⟨other, inGroup, marked⟩
      exact ⟨other, inGroup, (counts.reduced_iff other inGroup).mpr marked⟩
  obtain ⟨dataFetcher, counted_eq⟩ := @countSftStep_eq config controller
  have present : name ∈ (countSftStep config controller).policy.status.keys := by
    rw [counted_eq]
    exact (fleet.statusKeys name).mpr member
  have marks : ∀ other ∈ names,
      (controller.policy.status.set name .reduced).get? other = some .reduced ↔
        Function.update counter.marked name true other = true := by
    intro other inGroup
    rw [Dict.get?_set]
    by_cases same : other = name
    · simp [same]
    · rw [if_neg same, Function.update_of_ne same]
      exact counts.reduced_iff other inGroup
  rw [sftPolicyTrainAck, if_pos (fleet.registered member), sftTrainAck, if_neg (by simp),
    setStatus_of_mem present (by simp), Outcome.ok_andThen, counted_eq]
  have acked : SftFleet names { controller with
      policy.currentStep := controller.policy.currentStep +
        (if controller.anyWithStatus [.reduced] then 0 else 1)
      policy.status := controller.policy.status.set name .reduced
      dataFetcher := dataFetcher } :=
    ⟨fleet.arrived, (fleet.setStatus member .reduced).statusKeys⟩
  have opened : controller.policy.currentStep +
      (if controller.anyWithStatus [.reduced] then 0 else 1) =
      startStep + (if names.any counter.marked then counter.counted
        else counter.counted + 1) := by
    rw [counts.currentStep_eq]
    by_cases marked : names.any counter.marked = true
    · rw [if_pos (any_iff.mpr marked), if_pos marked, Nat.add_zero]
    · rw [if_neg (fun reduced => marked (any_iff.mp reduced)), if_neg marked, Nat.add_assoc]
  have all_iff := acked.allReduced_iff
  simp only [RoundCounter.acknowledge]
  by_cases complete : names.all (Function.update counter.marked name true) = true
  · -- the last ack of the step
    have reduced := all_iff.mpr fun other inGroup =>
      (marks other inGroup).mpr (all_eq_true.mp complete other inGroup)
    have settled : SftFleet names { controller with
        policy.currentStep := controller.policy.currentStep +
          (if controller.anyWithStatus [.reduced] then 0 else 1)
        policy.remainSamplesNum := controller.policy.remainSamplesNum -
          (config.trainBatchPerReplica * names.length : Nat)
        policy.status := controller.policy.status.set name .reduced
        dataFetcher := dataFetcher } := ⟨acked.arrived, acked.statusKeys⟩
    rw [if_pos reduced, acked.rolloutsPerStep_eq, settled.reportSummary, if_pos complete]
    refine ⟨_, rfl, settled.setAllRunning, ?_⟩
    refine CountsSteps.of_running opened ?_ rfl fun _ _ => rfl
    dsimp only
    rw [counts.remainSamples_eq]
    push_cast
    ring
  · -- an earlier ack of the step
    rw [if_neg fun reduced => complete (all_eq_true.mpr fun other inGroup =>
      (marks other inGroup).mp (all_iff.mp reduced other inGroup)), if_neg complete]
    exact ⟨_, rfl, acked, opened, counts.remainSamples_eq, marks⟩

theorem sftPolicyTrainAck_validation (fleet : SftFleet names controller)
    (counts : CountsSteps config names startStep initialSamples controller counter)
    (unmarked : ∀ name ∈ names, counter.marked name = false) (member : name ∈ names) :
    ∃ after, sftPolicyTrainAck config name true controller = .ok after ∧
      SftFleet names after ∧
      CountsSteps config names startStep initialSamples after counter := by
  have acked := fleet.setStatus member .validated
  rw [sftPolicyTrainAck, if_pos (fleet.registered member), sftTrainAck, if_pos rfl,
    setStatus_of_mem ((fleet.statusKeys name).mpr member) (by simp), Outcome.ok_andThen]
  split
  · rw [acked.reportSummary]
    refine ⟨_, rfl, acked.setAllRunning, ?_⟩
    exact CountsSteps.of_running counts.currentStep_eq counts.remainSamples_eq rfl unmarked
  · refine ⟨_, rfl, acked, counts.currentStep_eq, counts.remainSamples_eq, ?_⟩
    intro other inGroup
    rw [Dict.get?_set]
    by_cases same : other = name
    · rw [if_pos same, unmarked other inGroup]
      simp
    · rw [if_neg same]
      exact counts.reduced_iff other inGroup

end Acks

end CosmosRl.Dispatcher
