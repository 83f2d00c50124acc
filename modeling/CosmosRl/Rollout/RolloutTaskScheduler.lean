import CosmosRl.Foundation.Run

/-!
`RolloutTaskScheduler`: a worker thread generates many prompts at a time.

Other threads submit tasks, collect results, and pause or stop the worker.  A step of the
worker is what it does between two accesses to what it shares with them.  The coroutines of
the started tasks run in its thread, while it sleeps or gathers them; a batch of tasks is
put, and all results are got, one after another.  A run begins when the worker is started.
-/

namespace CosmosRl.Rollout

open CosmosRl.Foundation

structure RolloutTask (Payload : Type) where
  idx : Nat
  payload : Payload
  isValidation : Bool := false

structure CompletedRollout (Payload Result : Type) where
  idx : Nat
  payload : Payload
  result : Result

/-- Where `_worker_loop` is. -/
inductive WorkerPoint where
  | checkRunning
  | cleanUp
  | checkPaused
  | fill
  | launch
  | sleep
  | gather
  | stopped

/-- The scheduler.  `_active_tasks` are the tasks that are generating and those that are done
and not removed yet; a task that the worker holds has left the queue and is not active yet.
The last four fields are the history of the run. -/
structure RolloutTaskScheduler (Payload Result : Type) where
  taskQueue : List (RolloutTask Payload) := []
  completeQueue : List (CompletedRollout Payload Result) := []
  running : Bool := true
  paused : Bool := false
  generating : List (RolloutTask Payload) := []
  done : List (RolloutTask Payload) := []
  totalProcessed : Nat := 0
  totalSubmitted : Nat := 0
  worker : WorkerPoint := .checkRunning
  held : Option (RolloutTask Payload) := none
  submitted : List (RolloutTask Payload) := []
  started : List (RolloutTask Payload) := []
  finished : List (RolloutTask Payload × Option (List Result)) := []
  collected : List (CompletedRollout Payload Result) := []

/-- What the threads do.  `finishTask` has what the engine returned, or `none` if it raised. -/
inductive SchedulerEvent (Payload Result : Type) where
  | workerStep
  | finishTask (index : Nat) (results : Option (List Result))
  | putRollout (task : RolloutTask Payload)
  | get
  | stop
  | pause
  | resume

variable {Payload Result : Type}

/-- The result that `_generate_single` puts into the queue. -/
def generateSingle (task : RolloutTask Payload) (results : Option (List Result)) :
    Option (CompletedRollout Payload Result) :=
  (results.bind List.head?).map fun result => ⟨task.idx, task.payload, result⟩

namespace RolloutTaskScheduler

variable (maxConcurrentRequests : Nat) (scheduler : RolloutTaskScheduler Payload Result)

def activeTasks : Nat := scheduler.generating.length + scheduler.done.length

def isAllTasksCompleted : Bool :=
  scheduler.taskQueue.isEmpty && scheduler.activeTasks == 0

def workerLoop : RolloutTaskScheduler Payload Result :=
  match scheduler.worker with
  | .stopped => scheduler
  | .checkRunning =>
      { scheduler with worker := if scheduler.running then .cleanUp else .gather }
  | .cleanUp => { scheduler with done := [], worker := .checkPaused }
  | .checkPaused => { scheduler with worker := if scheduler.paused then .sleep else .fill }
  | .fill =>
      match scheduler.taskQueue with
      | [] => { scheduler with worker := .sleep }
      | task :: taskQueue =>
          if scheduler.activeTasks < maxConcurrentRequests then
            { scheduler with taskQueue := taskQueue, held := some task, worker := .launch }
          else { scheduler with worker := .sleep }
  | .launch =>
      { scheduler with
        generating := scheduler.generating ++ scheduler.held.toList
        started := scheduler.started ++ scheduler.held.toList
        held := none
        worker := .fill }
  | .sleep => { scheduler with worker := .checkRunning }
  -- The loop ends when all coroutines have; the thread then clears the flag.
  | .gather =>
      if scheduler.generating.isEmpty then
        { scheduler with worker := .stopped, running := false }
      else scheduler

def finishTask (index : Nat) (results : Option (List Result)) :
    RolloutTaskScheduler Payload Result :=
  match scheduler.generating[index]? with
  | none => scheduler
  | some task =>
      let completed := (generateSingle task results).toList
      { scheduler with
        generating := scheduler.generating.eraseIdx index
        done := scheduler.done ++ [task]
        completeQueue := scheduler.completeQueue ++ completed
        totalProcessed := scheduler.totalProcessed + completed.length
        finished := scheduler.finished ++ [(task, results)] }

def putRollout (task : RolloutTask Payload) : RolloutTaskScheduler Payload Result :=
  { scheduler with
    taskQueue := scheduler.taskQueue ++ [task]
    totalSubmitted := scheduler.totalSubmitted + 1
    submitted := scheduler.submitted ++ [task] }

def get : RolloutTaskScheduler Payload Result :=
  match scheduler.completeQueue with
  | [] => scheduler
  | completed :: completeQueue =>
      { scheduler with
        completeQueue := completeQueue
        collected := scheduler.collected ++ [completed] }

def step : SchedulerEvent Payload Result → RolloutTaskScheduler Payload Result
  | .workerStep => scheduler.workerLoop maxConcurrentRequests
  | .finishTask index results => scheduler.finishTask index results
  | .putRollout task => scheduler.putRollout task
  | .get => scheduler.get
  | .stop => { scheduler with running := false }
  | .pause => { scheduler with paused := scheduler.paused || scheduler.running }
  | .resume => { scheduler with paused := scheduler.paused && !scheduler.running }

end RolloutTaskScheduler

end CosmosRl.Rollout
