import CosmosRl.Dispatcher.Protocol
import CosmosRl.Foundation.Run
import CosmosRl.Foundation.Strided

/-!
The loop of a rollout worker: prompts are requested for all data-parallel ranks, queued
on each of them and generated when the weights are new enough.

Ranks of one data-parallel index do the same, so there is one state for every index.  The
rank of index 0 asks the controller; the prompts are then scattered in turn.
-/

namespace CosmosRl.Rollout

open CosmosRl.Foundation
open CosmosRl.Dispatcher (PyError RLPayload)

structure RolloutConfig where
  dpSize : Nat
  allowedOutdatedSteps : Nat
  dpSize_pos : 0 < dpSize

/-- A data-parallel rank.  The prompts whose generation was started, with the weight
version at that time, and the prompts that were reported are written down. -/
structure RolloutRank where
  promptQueue : List (List RLPayload) := []
  promptFetchEnd : Bool := false
  promptConsumeEnd : Bool := false
  rewardQueue : List RLPayload := []
  started : List (RLPayload × Nat) := []
  reported : List RLPayload := []

structure RolloutReplica where
  ranks : Nat → RolloutRank := fun _ => {}
  currentWeightVersion : Nat := 0
  fetched : List RLPayload := []
  failed : Option PyError := none

/-- What a rollout replica does.  An answer of the controller has the prompts and whether
they are the last ones; a generation has a result for every prompt, which the filter keeps
or not, or no results if it has failed. -/
inductive RolloutEvent where
  | synced (version : Nat)
  | report (rewarded : Nat → Nat)
  | iterate (answer : List RLPayload × Bool) (results : Nat → List Bool)
  | feed (answer : List RLPayload × Bool)

variable (config : RolloutConfig)

/-- `prompts[rank::ranks_to_scatter]`. -/
def rankPrompts (ranksToScatter : Nat) (prompts : List RLPayload) (rank : Nat) :
    List RLPayload :=
  (stridedRange rank prompts.length ranksToScatter).filterMap fun index => prompts[index]?

def promptsAndIsEnd (answer : List RLPayload × Bool) (replica : RolloutReplica) :
    Option (List RLPayload) × Bool :=
  if (replica.ranks 0).promptQueue.isEmpty then
    (if 0 < answer.1.length then some answer.1 else none, answer.2)
  else (none, false)

def scatteredTo (prompts : Option (List RLPayload)) (rank : Nat) : Option (List RLPayload) :=
  if 1 < config.dpSize then
    prompts.map fun prompts => rankPrompts config.dpSize prompts rank
  else prompts

def RolloutRank.put (prompts : Option (List RLPayload)) (rank : RolloutRank) : RolloutRank :=
  match prompts with
  | none => rank
  | some prompts => { rank with promptQueue := rank.promptQueue ++ [prompts] }

/-- `request_new_prompts` on all ranks. -/
def requestNewPrompts (answer : List RLPayload × Bool) (replica : RolloutReplica) :
    RolloutReplica × Bool :=
  let prompts := promptsAndIsEnd answer replica
  ({ replica with
      ranks := fun rank => (replica.ranks rank).put (scatteredTo config prompts.1 rank)
      fetched := replica.fetched ++ prompts.1.getD [] },
    prompts.2)

def isValidPrompt (version : Nat) (payload : RLPayload) : Bool :=
  decide (payload.weightVersion ≤ version + config.allowedOutdatedSteps)

structure RankStep where
  rank : RolloutRank
  raised : Option PyError := none

def RolloutRank.start (version : Nat) (payloadsList : List RLPayload)
    (rest : List (List RLPayload)) (rank : RolloutRank) : RolloutRank :=
  { rank with
    promptQueue := rest
    started := rank.started ++ payloadsList.map fun payload => (payload, version) }

def RolloutRank.collect (payloadsList : List RLPayload) (results : List Bool)
    (rank : RolloutRank) : RankStep :=
  if results.length = 0 then { rank := rank }
  else if results.length = payloadsList.length then
    { rank := { rank with
        rewardQueue := rank.rewardQueue ++
          ((payloadsList.zip results).filter Prod.snd).map Prod.fst } }
  else
    { rank := rank
      raised := some (.assertionError
        s!"Error: Rollout engine returned {results.length} for {payloadsList.length}") }

def RolloutRank.markFetchEnd (noMorePrompts : Bool) (rank : RolloutRank) : RolloutRank :=
  if noMorePrompts then
    { rank with
      promptFetchEnd := true
      promptConsumeEnd := rank.promptConsumeEnd || rank.promptQueue.isEmpty }
  else rank

def RolloutRank.markConsumeEnd (rank : RolloutRank) : RolloutRank :=
  { rank with promptConsumeEnd := rank.promptFetchEnd && rank.promptQueue.isEmpty }

/-- An iteration of `main_loop` on a rank, after its request, with `one_step_generation`.
The test looks at `queue[0][0]`. -/
def RolloutRank.generate (version : Nat) (results : List Bool) (rank : RolloutRank) :
    RankStep :=
  if rank.promptConsumeEnd then
    if rank.promptQueue.isEmpty ∧ rank.promptFetchEnd then { rank := rank }
    else
      { rank := rank
        raised := some (.assertionError
          "[Rollout] If prompt are all consumed, prompt queue should be empty and prompt end event should be set.") }
  else match rank.promptQueue with
    | [] => { rank := rank }
    | [] :: _ => { rank := rank, raised := some .indexError }
    | (first :: others) :: rest =>
      if isValidPrompt config version first then
        let generated :=
          (rank.start version (first :: others) rest).collect (first :: others) results
        if generated.raised = none then { rank := generated.rank.markConsumeEnd }
        else generated
      else { rank := rank }

/-- `_stream_generation_feed_prompts` on a rank, after its request.  The end of the
prompts is only noticed when the first batch can start. -/
def RolloutRank.feed (version : Nat) (isEnd : Bool) (rank : RolloutRank) : RankStep :=
  match rank.promptQueue with
  | [] => { rank := { rank with promptFetchEnd := rank.promptFetchEnd || isEnd } }
  | [] :: _ => { rank := rank, raised := some .indexError }
  | (first :: others) :: rest =>
    if isValidPrompt config version first then
      { rank := { rank.start version (first :: others) rest with
          promptFetchEnd := rank.promptFetchEnd || isEnd } }
    else { rank := rank }

namespace RolloutReplica

def onRanks (step : Nat → RolloutRank → RankStep) (replica : RolloutReplica) :
    RolloutReplica :=
  { replica with
    ranks := fun rank => (step rank (replica.ranks rank)).rank
    failed := (List.range config.dpSize).findSome? fun rank =>
      (step rank (replica.ranks rank)).raised }

def fetching (replica : RolloutReplica) : List Nat :=
  (List.range config.dpSize).filter fun rank => ! (replica.ranks rank).promptFetchEnd

/-- A request is a collective of all ranks: it is made if all of them fetch, skipped if none
does, and blocks otherwise. -/
def request (answer : List RLPayload × Bool) (replica : RolloutReplica) :
    Except PyError (RolloutReplica × Bool) :=
  if (replica.fetching config).isEmpty then .ok (replica, false)
  else if (replica.fetching config).length = config.dpSize then
    .ok (requestNewPrompts config answer replica)
  else .error .blocked

/-- An iteration of `main_loop`. -/
def iterate (answer : List RLPayload × Bool) (results : Nat → List Bool)
    (replica : RolloutReplica) : RolloutReplica :=
  match replica.request config answer with
  | .error exn => { replica with failed := some exn }
  | .ok (requested, noMorePrompts) =>
    requested.onRanks config fun rank state =>
      (state.markFetchEnd noMorePrompts).generate config replica.currentWeightVersion
        (results rank)

/-- An iteration of `main_loop` that feeds the scheduler, when it has room. -/
def feed (answer : List RLPayload × Bool) (replica : RolloutReplica) : RolloutReplica :=
  match replica.request config answer with
  | .error exn => { replica with failed := some exn }
  | .ok (requested, isEnd) =>
    requested.onRanks config fun _ state =>
      if state.promptFetchEnd then { rank := state }
      else state.feed config replica.currentWeightVersion isEnd

/-- `report_rollouts`: the rewards of the first prompts of every rank are there. -/
def report (rewarded : Nat → Nat) (replica : RolloutReplica) : RolloutReplica :=
  { replica with
    ranks := fun rank =>
      let state := replica.ranks rank
      { state with
        rewardQueue := state.rewardQueue.drop (rewarded rank)
        reported := state.reported ++ state.rewardQueue.take (rewarded rank) } }

end RolloutReplica

/-- A turn of the loop of `do_validation`: the answer of the controller, and on every rank the
number of results, none if the generation has failed. -/
structure ValidationRound where
  answer : List RLPayload × Bool
  results : Nat → Nat

def RolloutRank.validate (results : Nat) (rank : RolloutRank) : RolloutRank :=
  match rank.promptQueue with
  | [] => rank
  | payloadsList :: rest =>
    if results = 0 then { rank with promptQueue := rest }
    else { rank with
      promptQueue := rest
      rewardQueue := rank.rewardQueue ++ payloadsList }

def validationRound (round : ValidationRound) (validation : RolloutReplica) :
    RolloutReplica × Bool :=
  let requested := requestNewPrompts config round.answer validation
  ({ requested.1 with
      ranks := fun rank => (requested.1.ranks rank).validate (round.results rank) },
    requested.2)

def validationLoop : List ValidationRound → RolloutReplica → RolloutReplica
  | [], validation => validation
  | round :: rest, validation =>
    if (validationRound config round validation).2 then
      (validationRound config round validation).1
    else validationLoop rest (validationRound config round validation).1

namespace RolloutReplica

def reportAll (replica : RolloutReplica) : RolloutReplica :=
  replica.report fun rank => (replica.ranks rank).rewardQueue.length

end RolloutReplica

/-- `do_validation`: the validation with its reports. -/
def doValidation (rounds : List ValidationRound) : RolloutReplica :=
  (validationLoop config rounds {}).reportAll

def RolloutEvent.apply (replica : RolloutReplica) : RolloutEvent → RolloutReplica
  | .synced version => { replica with currentWeightVersion := version }
  | .report rewarded => replica.report rewarded
  | .iterate answer results => replica.iterate config answer results
  | .feed answer => replica.feed config answer

def rolloutSystem : EventSystem RolloutReplica RolloutEvent where
  handle := fun replica event => event.apply config replica
  Allowed := fun replica _ => replica.failed = none

end CosmosRl.Rollout
