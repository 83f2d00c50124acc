import CosmosRl.Rollout.RolloutTaskScheduler
import Mathlib.Data.List.Perm.Basic

/-!
The scheduler loses no task and generates none twice, in every interleaving of its threads.
-/

namespace CosmosRl.Rollout

open CosmosRl.Foundation RolloutTaskScheduler List

variable {Payload Result : Type} {maxConcurrentRequests : Nat}

def taskSchedulerSystem (Payload Result : Type) (maxConcurrentRequests : Nat) :
    EventSystem (RolloutTaskScheduler Payload Result) (SchedulerEvent Payload Result) :=
  ⟨step maxConcurrentRequests, fun _ _ => True⟩

/-- Tasks start in the order of their submission; each that started is generating or has
finished; the results come out in the order in which the tasks finished. -/
structure Conserves (maxConcurrentRequests : Nat)
    (scheduler : RolloutTaskScheduler Payload Result) : Prop where
  order : scheduler.started ++ scheduler.held.toList ++ scheduler.taskQueue = scheduler.submitted
  partition :
    (scheduler.finished.map Prod.fst ++ scheduler.generating).Perm scheduler.started
  results : scheduler.collected ++ scheduler.completeQueue =
    scheduler.finished.filterMap fun task => generateSingle task.1 task.2
  bounded : scheduler.activeTasks + scheduler.held.toList.length ≤ maxConcurrentRequests
  launching : scheduler.worker ≠ .launch → scheduler.held = none
  drained : scheduler.worker = .stopped → scheduler.generating = []
  processed : scheduler.totalProcessed =
    (scheduler.collected ++ scheduler.completeQueue).length
  counted : scheduler.totalSubmitted = scheduler.submitted.length

variable {scheduler : RolloutTaskScheduler Payload Result}

/-- A step that moves no task. -/
theorem Conserves.move (conserves : Conserves maxConcurrentRequests scheduler)
    {worker : WorkerPoint} {running paused : Bool} {done : List (RolloutTask Payload)}
    (fewer : done.length ≤ scheduler.done.length)
    (launching : worker ≠ .launch → scheduler.held = none)
    (drained : worker = .stopped → scheduler.generating = []) :
    Conserves maxConcurrentRequests { scheduler with
      worker := worker, running := running, paused := paused, done := done } := by
  obtain ⟨order, partition, results, bounded, _, _, processed, counted⟩ := conserves
  refine ⟨order, partition, results, ?_, launching, drained, processed, counted⟩
  simp only [activeTasks] at bounded ⊢
  omega

theorem Conserves.workerLoop (conserves : Conserves maxConcurrentRequests scheduler) :
    Conserves maxConcurrentRequests (scheduler.workerLoop maxConcurrentRequests) := by
  have free : scheduler.worker ≠ .launch → scheduler.held = none := conserves.launching
  unfold RolloutTaskScheduler.workerLoop
  split <;> rename_i point <;> simp only [point, ne_eq, reduceCtorEq, not_false_eq_true,
    forall_const] at free
  · exact conserves
  · exact conserves.move Nat.le.refl (fun _ => free) (by split <;> simp)
  · exact conserves.move (Nat.zero_le _) (fun _ => free) (by simp)
  · exact conserves.move Nat.le.refl (fun _ => free) (by split <;> simp)
  · split
    · exact conserves.move Nat.le.refl (fun _ => free) (by simp)
    · rename_i task taskQueue queued
      split
      · rename_i room
        obtain ⟨order, partition, results, bounded, _, _, processed, counted⟩ := conserves
        refine ⟨?_, partition, results, room, by simp, by simp, processed, counted⟩
        rw [free, queued] at order
        simpa using order
      · exact conserves.move Nat.le.refl (fun _ => free) (by simp)
  · obtain ⟨order, partition, results, bounded, _, _, processed, counted⟩ := conserves
    refine ⟨by simpa using order, ?_, results, ?_, by simp, by simp, processed, counted⟩
    · rw [← append_assoc]
      exact partition.append_right _
    · simp only [activeTasks, length_append, Option.toList_none, length_nil] at bounded ⊢
      omega
  · exact conserves.move Nat.le.refl (fun _ => free) (by simp)
  · split
    · rename_i gathered
      exact conserves.move Nat.le.refl (fun _ => free) fun _ => isEmpty_iff.mp gathered
    · exact conserves

theorem Conserves.finishTask (conserves : Conserves maxConcurrentRequests scheduler)
    (index : Nat) (results : Option (List Result)) :
    Conserves maxConcurrentRequests (scheduler.finishTask index results) := by
  unfold RolloutTaskScheduler.finishTask
  split
  · exact conserves
  · rename_i task found
    obtain ⟨inside, rfl⟩ := List.getElem?_eq_some_iff.mp found
    have taken := getElem_cons_eraseIdx_perm inside
    have shorter := length_eraseIdx_of_lt inside
    refine ⟨conserves.order, ?_, ?_, ?_, conserves.launching, ?_, ?_, conserves.counted⟩
    · rw [map_append, append_assoc]
      exact (taken.append_left _).trans conserves.partition
    · rw [← append_assoc, conserves.results, filterMap_append]
      cases answer : generateSingle scheduler.generating[index] results <;> simp [answer]
    · have bounded := conserves.bounded
      simp only [activeTasks, length_append, length_singleton] at bounded ⊢
      omega
    · intro stopped
      rw [conserves.drained stopped] at inside
      exact absurd inside (Nat.not_lt_zero index)
    · simp [conserves.processed, Nat.add_assoc]

theorem Conserves.step (conserves : Conserves maxConcurrentRequests scheduler)
    (event : SchedulerEvent Payload Result) :
    Conserves maxConcurrentRequests (scheduler.step maxConcurrentRequests event) := by
  cases event with
  | workerStep => exact conserves.workerLoop
  | finishTask index results => exact conserves.finishTask index results
  | stop => exact conserves.move Nat.le.refl conserves.launching conserves.drained
  | pause => exact conserves.move Nat.le.refl conserves.launching conserves.drained
  | resume => exact conserves.move Nat.le.refl conserves.launching conserves.drained
  | putRollout task =>
    obtain ⟨order, partition, results, bounded, launching, drained, processed, counted⟩ := conserves
    refine ⟨?_, partition, results, bounded, launching, drained, processed, ?_⟩
    · simp only [RolloutTaskScheduler.step, putRollout, ← order, append_assoc]
    · simp [RolloutTaskScheduler.step, putRollout, counted]
  | get =>
    simp only [RolloutTaskScheduler.step, RolloutTaskScheduler.get]
    split
    · exact conserves
    · rename_i completed completeQueue queued
      obtain ⟨order, partition, results, bounded, launching, drained, processed, counted⟩ :=
        conserves
      rw [queued] at results processed
      exact ⟨order, partition, by simpa using results, bounded, launching, drained,
        by simpa using processed, counted⟩

theorem conserves_after (maxConcurrentRequests : Nat)
    (events : List (SchedulerEvent Payload Result)) :
    Conserves maxConcurrentRequests
      ((taskSchedulerSystem Payload Result maxConcurrentRequests).after {} events) := by
  apply EventSystem.Throughout.finish
  apply EventSystem.throughout_of_preserved
  · intro scheduler event conserves _
    exact conserves.step event
  · exact ⟨rfl, .nil, rfl, Nat.zero_le _, fun _ => rfl, by simp, rfl, rfl⟩
  · exact EventSystem.IsRun.of_forall (fun _ _ => trivial) _ events

/-- After any steps of all threads, every submitted task is in exactly one place, the tasks
started are the first ones submitted, the results are those of the finished tasks, and
neither the limit nor the counters are off.  A stopped worker has abandoned no coroutine. -/
theorem schedulerConservesTasks (maxConcurrentRequests : Nat)
    (events : List (SchedulerEvent Payload Result)) :
    let scheduler := (taskSchedulerSystem Payload Result maxConcurrentRequests).after {} events
    (scheduler.finished.map Prod.fst ++ scheduler.generating ++ scheduler.held.toList ++
        scheduler.taskQueue).Perm scheduler.submitted ∧
      scheduler.started <+: scheduler.submitted ∧
      scheduler.collected ++ scheduler.completeQueue =
        (scheduler.finished.filterMap fun task => generateSingle task.1 task.2) ∧
      scheduler.activeTasks ≤ maxConcurrentRequests ∧
      scheduler.totalSubmitted = scheduler.submitted.length ∧
      scheduler.totalProcessed = (scheduler.collected ++ scheduler.completeQueue).length ∧
      (scheduler.worker = .stopped → scheduler.generating = []) := by
  intro scheduler
  have conserves : Conserves maxConcurrentRequests scheduler :=
    conserves_after maxConcurrentRequests events
  refine ⟨?_, ?_, conserves.results, ?_, conserves.counted, conserves.processed,
    conserves.drained⟩
  · rw [← conserves.order]
    exact (conserves.partition.append_right _).append_right _
  · rw [← conserves.order, append_assoc]
    exact prefix_append _ _
  · exact Nat.le_trans (Nat.le_add_right _ _) conserves.bounded

/-- `is_all_tasks_completed` means what it says, except while the worker holds a task that
has left the queue and is not active yet. -/
theorem isAllTasksCompleted_iff (maxConcurrentRequests : Nat)
    (events : List (SchedulerEvent Payload Result)) :
    let scheduler := (taskSchedulerSystem Payload Result maxConcurrentRequests).after {} events
    scheduler.isAllTasksCompleted = true ∧ scheduler.held = none ↔
      (scheduler.finished.map Prod.fst).Perm scheduler.submitted ∧ scheduler.done = [] := by
  intro scheduler
  have conserves : Conserves maxConcurrentRequests scheduler :=
    conserves_after maxConcurrentRequests events
  have order := conserves.order
  have partition := conserves.partition
  simp only [isAllTasksCompleted, activeTasks, Bool.and_eq_true, List.isEmpty_iff, beq_iff_eq,
    Nat.add_eq_zero_iff, length_eq_zero_iff]
  constructor
  · rintro ⟨⟨queue, generating, done⟩, held⟩
    rw [generating, append_nil] at partition
    rw [queue, held, Option.toList_none, List.append_nil, List.append_nil] at order
    exact ⟨order ▸ partition, done⟩
  · rintro ⟨finished, done⟩
    have started := partition.length_eq
    have submitted := finished.length_eq
    rw [← order] at submitted
    simp only [length_append] at started submitted
    rw [← Option.toList_eq_nil_iff]
    refine ⟨⟨?_, ?_, done⟩, ?_⟩ <;> apply List.eq_nil_of_length_eq_zero <;> omega

end CosmosRl.Rollout
