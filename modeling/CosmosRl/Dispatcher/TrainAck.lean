import CosmosRl.Dispatcher.RolloutStatusManager

/-!
Acknowledgements: the train acks of the policy replicas, whose last one of a
step starts the weight synchronization, and the validation reports of the
rollout replicas, whose last one closes the validation gate.
-/

namespace CosmosRl.Dispatcher

open CosmosRl.Foundation

variable (config : Config)

/-- `trigger_weight_sync`. -/
def triggerWeightSync (policyReplica : ReplicaName) (currentStep : Nat)
    (totalSteps : Int) (controller : Controller) : Controller :=
  match controller.sortedRolloutNames with
  | [] => controller
  | anyLoadedRolloutReplica :: _ =>
    rolloutToRolloutBroadcastTrigger anyLoadedRolloutReplica
      controller.sortedRolloutNames (some currentStep) (some totalSteps)
      (policyToRolloutUnicastTrigger policyReplica anyLoadedRolloutReplica
        (some currentStep) (some totalSteps) controller)

def needSyncWeight (step : Nat) (totalSteps : Int) : Bool :=
  decide (step % config.syncWeightInterval = 0) ||
    decide ((step : Int) = totalSteps) ||
    (config.validation.enable && decide (step % config.validation.freq = 0))

/-- The statistics block of `train_ack`.  Its state changes are skipped when the
report of some replica is empty, because reading its entries raises and the
exception is only logged. -/
def sumAndReportData (controller : Controller) : Controller :=
  let reports := controller.policy.reportDataList
  if config.loggerEnabled && !(reports.all Option.isNone) then
    if reports.any Option.isNone then controller
    else
      let updated :=
        if config.mode = .colocated then
          (reports.filterMap id).foldl (fun current data =>
            updateDynamicSamplingStatistics data.1 data.2 current) controller
        else controller
      { updated with policy.reportDataList := [] }
  else controller

def finishStep (step : Nat) (totalSteps : Int) (controller : Controller) : Result :=
  let synced :=
    match controller.sortedPolicyNames with
    | [] => controller
    | anyLoadedReplica :: _ =>
      if needSyncWeight config step totalSteps then
        triggerWeightSync anyLoadedReplica step totalSteps controller
      else controller
  (tryTriggerDataFetchAndTraining config false synced).andThen fun triggered =>
    if config.onPolicy then
      .ok { triggered with policy.onPolicyRolloutCompleted := false }
    else .ok triggered

/-- The weight sync of `finishStep`. -/
def syncedWeights (step : Nat) (totalSteps : Int) (controller : Controller) : Controller :=
  match controller.sortedPolicyNames with
  | [] => controller
  | anyLoadedReplica :: _ =>
    if needSyncWeight config step totalSteps then
      triggerWeightSync anyLoadedReplica step totalSteps controller
    else controller

theorem finishStep_eq (step : Nat) (totalSteps : Int) (controller : Controller) :
    finishStep config step totalSteps controller =
      (tryTriggerDataFetchAndTraining config false
        (syncedWeights config step totalSteps controller)).andThen fun triggered =>
          if config.onPolicy then
            .ok { triggered with policy.onPolicyRolloutCompleted := false }
          else .ok triggered :=
  rfl

def Controller.consumed (controller : Controller) : Controller :=
  { controller with
    policy.samplesOnTheFly :=
      controller.policy.samplesOnTheFly - controller.rolloutsPerStep config }

/-- The part of `train_ack` guarded by `all_reduced`. -/
def completeStep (step : Nat) (totalSteps : Int) (controller : Controller) : Result :=
  if (controller.consumed config).policy.samplesOnTheFly < 0 then
    .raise (controller.consumed config)
      (.assertionError "samples_on_the_fly should not be negative")
  else
    let reported := sumAndReportData config (controller.consumed config)
    (Outcome.forEach (fun name => setStatus name .ready)
        reported.sortedPolicyNames reported).andThen
      (finishStep config step totalSteps)

/-- `PolicyStatusManager.train_ack`. -/
def trainAck (replicaName : ReplicaName) (step : Nat) (totalSteps : Int)
    (reportData : ReportData) (controller : Controller) : Result :=
  if replicaName ∈ controller.policy.policyReplicas.keys then
    (setStatus replicaName .reduced
        { controller with
          policy.reportDataList := controller.policy.reportDataList ++ [reportData] }).andThen
      fun acked =>
        if acked.allReduced then completeStep config step totalSteps acked
        else .ok acked
  else
    .raise controller (.exception s!"Replica {replicaName} not found")

def validationItems : Nat :=
  (if config.dataset.valDatasize = 0 then config.dataset.valDataloader.length
    else config.dataset.valDatasize) * config.validation.nGeneration

/-- `validation_report_validation_results`: `numResults` items arrive for a
validation step. -/
def validationReportValidationResults (validationStep numResults : Nat)
    (controller : Controller) : Result :=
  let itemsOfThisStep :=
    (controller.policy.valReportData.get? validationStep).getD 0 + numResults
  let reported := { controller with
    policy.valReportData :=
      controller.policy.valReportData.set validationStep itemsOfThisStep }
  if itemsOfThisStep = validationItems config &&
      reported.dataFetcher.activatedValIter.isSome then
    tryTriggerDataFetchAndTraining config false
      { reported with dataFetcher.activatedValIter := none }
  else .ok reported

def Controller.validated (validationStep numResults : Nat) (controller : Controller) :
    Controller :=
  { controller with
    policy.valReportData := controller.policy.valReportData.set validationStep
      ((controller.policy.valReportData.get? validationStep).getD 0 + numResults) }

def Controller.validationClosed (validationStep numResults : Nat) (controller : Controller) :
    Controller :=
  { controller.validated validationStep numResults with dataFetcher.activatedValIter := none }

variable {config}

/-- The last report of a validation closes it and polls the trigger. -/
theorem validationReport_cases (validationStep numResults : Nat) (controller : Controller) :
    validationReportValidationResults config validationStep numResults controller =
        tryTriggerDataFetchAndTraining config false
          (controller.validationClosed validationStep numResults) ∨
      validationReportValidationResults config validationStep numResults controller =
        .ok (controller.validated validationStep numResults) := by
  unfold validationReportValidationResults
  dsimp only
  split
  · exact .inl rfl
  · exact .inr rfl

end CosmosRl.Dispatcher
