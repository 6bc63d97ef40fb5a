import Mathlib.Data.List.Basic

/-!
# The task that the client displays

One operation of the client displays one task of a server. Snapshots of the task arrive
from a subscription, from unary requests of the watcher that holds it, and from the answer
to a cancellation. Each source has fences of its own. What is shown beside the task (the
status and error texts, the result pages, the saved playback) is left out.
-/

namespace NetPlayer.Client

structure BilibiliTaskResultItem where
  state : String
  details : String
deriving DecidableEq

/-- `details` stands for the fields that are only compared and shown. -/
structure CacheTask where
  id : String
  state : String
  resultItems : List BilibiliTaskResultItem
  outputRevision : Option Nat
  details : String
deriving DecidableEq

/-- The states of the server are ASCII, where Swift's `lowercased` and `isLetter` are these. -/
def normalizedBilibiliState (state : String) : List Char :=
  (state.toList.map Char.toLower).filter Char.isAlpha

def contains (text : List Char) (word : String) : Bool :=
  text.tails.any word.toList.isPrefixOf

def BilibiliTaskResultItem.isCompletedBilibiliResultState (item : BilibiliTaskResultItem) :
    Bool :=
  let state := normalizedBilibiliState item.state
  contains state "completed" || contains state "succeeded"

def BilibiliTaskResultItem.isReadyBilibiliResultState (item : BilibiliTaskResultItem) : Bool :=
  contains (normalizedBilibiliState item.state) "playable" || item.isCompletedBilibiliResultState

variable (task : CacheTask)

def CacheTask.isCompletedBilibiliTaskState : Bool :=
  let state := normalizedBilibiliState task.state
  contains state "completed" || contains state "succeeded"

def CacheTask.isCancellationPendingBilibiliTaskState : Bool :=
  contains (normalizedBilibiliState task.state) "cancelrequested"

def CacheTask.isQueuedOrRunningBilibiliTaskState : Bool :=
  let state := normalizedBilibiliState task.state
  contains state "queued" || contains state "running"

def CacheTask.isTerminalBilibiliTaskState : Bool :=
  let state := normalizedBilibiliState task.state
  contains state "succeeded" || contains state "failed" || contains state "cancelled" ||
    contains state "completed"

def CacheTask.shouldKeepWatchingBilibiliTask : Bool :=
  if !task.isTerminalBilibiliTaskState then
    true
  else if !task.isCompletedBilibiliTaskState then
    false
  else
    task.resultItems.any fun item =>
      item.isReadyBilibiliResultState && !item.isCompletedBilibiliResultState

def canApplyWatchedSnapshot (task currentTask : CacheTask) : Bool :=
  if currentTask.isTerminalBilibiliTaskState && !task.isTerminalBilibiliTaskState then
    false
  else if currentTask.isCancellationPendingBilibiliTaskState &&
      !task.isCancellationPendingBilibiliTaskState && !task.isTerminalBilibiliTaskState then
    false
  else
    match currentTask.outputRevision with
    | none => true
    | some currentRevision =>
      match task.outputRevision with
      | none => false
      | some incomingRevision => decide (currentRevision ≤ incomingRevision)

structure TaskViewModel where
  currentTask : CacheTask
  taskSnapshotGeneration : Nat
  taskWatchGeneration : Nat
  taskWatchActivityGeneration : Nat
  isWatching : Bool
  isCancelling : Bool
deriving DecidableEq

namespace TaskViewModel

def canCancel (view : TaskViewModel) : Bool :=
  !view.currentTask.isTerminalBilibiliTaskState &&
    !view.currentTask.isCancellationPendingBilibiliTaskState && !view.isCancelling

def stopWatching (view : TaskViewModel) : TaskViewModel :=
  { view with taskWatchGeneration := view.taskWatchGeneration + 1, isWatching := false }

/-- The operation sequence is that of the one operation throughout. -/
def isTaskWatchCurrent (view : TaskViewModel) (taskID : String) (generation : Nat) : Bool :=
  generation == view.taskWatchGeneration && view.isWatching && view.currentTask.id == taskID

def taskWatchNeedsRecovery (view : TaskViewModel) (taskID : String) (generation : Nat) : Bool :=
  view.isTaskWatchCurrent taskID generation && view.currentTask.shouldKeepWatchingBilibiliTask

def taskWatchSnapshotGeneration? (view : TaskViewModel) (taskID : String) (generation : Nat) :
    Option Nat :=
  if view.isTaskWatchCurrent taskID generation &&
      view.currentTask.shouldKeepWatchingBilibiliTask then
    some view.taskSnapshotGeneration
  else
    none

def finishWatching (view : TaskViewModel) (taskID : String) (generation : Nat) : TaskViewModel :=
  if view.isTaskWatchCurrent taskID generation then { view with isWatching := false } else view

def isCurrentTaskWatchReconciliation (view : TaskViewModel) (taskID : String)
    (generation expectedSnapshotGeneration expectedActivityGeneration : Nat) : Bool :=
  view.isTaskWatchCurrent taskID generation &&
    view.currentTask.shouldKeepWatchingBilibiliTask && !view.isCancelling &&
    view.taskSnapshotGeneration == expectedSnapshotGeneration &&
    view.taskWatchActivityGeneration == expectedActivityGeneration

def displaying (view : TaskViewModel) (task : CacheTask) : TaskViewModel :=
  { view with
    taskSnapshotGeneration :=
      if view.currentTask ≠ task then view.taskSnapshotGeneration + 1
      else view.taskSnapshotGeneration
    currentTask := task
    isCancelling := view.isCancelling && !task.isTerminalBilibiliTaskState }

def applyTaskUpdate (view : TaskViewModel) (task : CacheTask) : TaskViewModel :=
  if !task.shouldKeepWatchingBilibiliTask then (view.displaying task).stopWatching
  else view.displaying task

/-- What a snapshot came to, in the eyes of the watcher that brought it. -/
structure WatchedTaskUpdate where
  accepted : Bool
  shouldKeepWatching : Bool
deriving DecidableEq

def WatchedTaskUpdate.rejected : WatchedTaskUpdate := ⟨false, true⟩

def applyWatchedTask (view : TaskViewModel) (task : CacheTask) (taskID : String)
    (generation : Nat) : Option (WatchedTaskUpdate × TaskViewModel) :=
  if view.isTaskWatchCurrent taskID generation then
    if task.id == taskID && view.currentTask.id == taskID &&
        canApplyWatchedSnapshot task view.currentTask then
      let active :=
        { view with taskWatchActivityGeneration := view.taskWatchActivityGeneration + 1 }
      some (⟨true, task.shouldKeepWatchingBilibiliTask⟩, active.applyTaskUpdate task)
    else
      some (.rejected, view)
  else
    none

def applyReconciledTask (view : TaskViewModel) (task : CacheTask) (taskID : String)
    (generation expectedSnapshotGeneration : Nat) : Option (WatchedTaskUpdate × TaskViewModel) :=
  if view.isTaskWatchCurrent taskID generation then
    if view.taskSnapshotGeneration == expectedSnapshotGeneration && task.id == taskID &&
        view.currentTask.id == taskID && canApplyWatchedSnapshot task view.currentTask then
      some (⟨true, task.shouldKeepWatchingBilibiliTask⟩, view.applyTaskUpdate task)
    else
      some (.rejected, view)
  else
    none

/-- The first half of `cancel`, up to the request: the fence is the new generation. -/
def beginCancel (view : TaskViewModel) : TaskViewModel :=
  { view with
    taskSnapshotGeneration := view.taskSnapshotGeneration + 1
    isCancelling := true }

def notCancelling (view : TaskViewModel) : TaskViewModel :=
  { view with isCancelling := false }

/-- The second half of `cancel`: what the answer to the request does. -/
def finishCancel (view : TaskViewModel) (task : CacheTask) (targetTaskID : String)
    (cancellationGeneration : Nat) : TaskViewModel :=
  if view.currentTask.id ≠ targetTaskID then
    view
  else if view.currentTask.isTerminalBilibiliTaskState then
    (view.applyTaskUpdate view.currentTask).notCancelling
  else if task.id ≠ targetTaskID then
    view.notCancelling
  else if view.currentTask.isCancellationPendingBilibiliTaskState &&
      !task.isTerminalBilibiliTaskState then
    (view.applyTaskUpdate view.currentTask).notCancelling
  else if view.taskSnapshotGeneration ≠ cancellationGeneration &&
      task.isQueuedOrRunningBilibiliTaskState then
    view.notCancelling
  else
    (view.applyTaskUpdate task).notCancelling

/-- The second half of `cancel` when the request fails or times out. -/
def failCancel (view : TaskViewModel) (targetTaskID : String) : TaskViewModel :=
  if view.currentTask.id ≠ targetTaskID then
    view
  else if view.currentTask.isTerminalBilibiliTaskState then
    (view.applyTaskUpdate view.currentTask).notCancelling
  else
    view.notCancelling

structure Advances (before after : TaskViewModel) : Prop where
  snapshot : before.taskSnapshotGeneration ≤ after.taskSnapshotGeneration
  unchanged : after.taskSnapshotGeneration = before.taskSnapshotGeneration →
    after.currentTask = before.currentTask
  activity : before.taskWatchActivityGeneration ≤ after.taskWatchActivityGeneration
  watch : before.taskWatchGeneration ≤ after.taskWatchGeneration

theorem Advances.refl (view : TaskViewModel) : view.Advances view :=
  ⟨Nat.le_refl _, fun _ => rfl, Nat.le_refl _, Nat.le_refl _⟩

theorem Advances.of_same {before after : TaskViewModel}
    (task : after.currentTask = before.currentTask)
    (snapshot : after.taskSnapshotGeneration = before.taskSnapshotGeneration)
    (activity : after.taskWatchActivityGeneration = before.taskWatchActivityGeneration)
    (watch : before.taskWatchGeneration ≤ after.taskWatchGeneration) : before.Advances after :=
  ⟨Nat.le_of_eq snapshot.symm, fun _ => task, Nat.le_of_eq activity.symm, watch⟩

@[simp] theorem applyTaskUpdate_currentTask (view : TaskViewModel) (task : CacheTask) :
    (view.applyTaskUpdate task).currentTask = task := by
  unfold applyTaskUpdate
  split <;> rfl

@[simp] theorem applyTaskUpdate_activity (view : TaskViewModel) (task : CacheTask) :
    (view.applyTaskUpdate task).taskWatchActivityGeneration = view.taskWatchActivityGeneration := by
  unfold applyTaskUpdate
  split <;> rfl

theorem applyTaskUpdate_snapshot (view : TaskViewModel) (task : CacheTask) :
    (view.applyTaskUpdate task).taskSnapshotGeneration =
      if view.currentTask ≠ task then view.taskSnapshotGeneration + 1
      else view.taskSnapshotGeneration := by
  unfold applyTaskUpdate
  split <;> rfl

theorem applyTaskUpdate_advances (view : TaskViewModel) (task : CacheTask) :
    view.Advances (view.applyTaskUpdate task) where
  snapshot := by
    rw [applyTaskUpdate_snapshot]
    split <;> omega
  unchanged := by
    rw [applyTaskUpdate_snapshot, applyTaskUpdate_currentTask]
    split
    · intro h
      omega
    · rename_i hs
      exact fun _ => (not_not.mp hs).symm
  activity := Nat.le_of_eq (applyTaskUpdate_activity view task).symm
  watch := by
    unfold applyTaskUpdate
    split
    · exact Nat.le_succ _
    · exact Nat.le_refl _

theorem Advances.trans {a b c : TaskViewModel} (first : a.Advances b) (second : b.Advances c) :
    a.Advances c where
  snapshot := Nat.le_trans first.snapshot second.snapshot
  unchanged := by
    intro h
    have hfst := first.snapshot
    have hsnd := second.snapshot
    rw [second.unchanged (by omega), first.unchanged (by omega)]
  activity := Nat.le_trans first.activity second.activity
  watch := Nat.le_trans first.watch second.watch

theorem notCancelling_advances (view : TaskViewModel) : view.Advances view.notCancelling :=
  Advances.of_same rfl rfl rfl (Nat.le_refl _)

@[simp] theorem finishWatching_currentTask (view : TaskViewModel) (taskID : String)
    (generation : Nat) : (view.finishWatching taskID generation).currentTask = view.currentTask := by
  unfold finishWatching
  split <;> rfl

theorem finishWatching_advances (view : TaskViewModel) (taskID : String) (generation : Nat) :
    view.Advances (view.finishWatching taskID generation) := by
  unfold finishWatching
  split
  · exact Advances.of_same rfl rfl rfl (Nat.le_refl _)
  · exact Advances.refl view

variable {view after : TaskViewModel} {update : WatchedTaskUpdate}

theorem applyWatchedTask_cases {task : CacheTask} {taskID : String} {generation : Nat}
    (h : view.applyWatchedTask task taskID generation = some (update, after)) :
    generation = view.taskWatchGeneration ∧ view.Advances after ∧
      (after = view ∧ ¬ (task.id = taskID ∧ canApplyWatchedSnapshot task view.currentTask) ∨
        after.currentTask = task ∧ canApplyWatchedSnapshot task view.currentTask ∧
          view.taskWatchActivityGeneration < after.taskWatchActivityGeneration) := by
  unfold applyWatchedTask at h
  split at h
  · rename_i hcurr
    simp only [isTaskWatchCurrent, Bool.and_eq_true, beq_iff_eq] at hcurr
    refine ⟨hcurr.1.1, ?_⟩
    split at h
    · rename_i hcheck
      cases h
      simp only [Bool.and_eq_true, beq_iff_eq] at hcheck
      refine ⟨?_, .inr ⟨applyTaskUpdate_currentTask _ _, hcheck.2, ?_⟩⟩
      · refine Advances.trans ?_ (applyTaskUpdate_advances _ _)
        exact ⟨Nat.le_refl _, fun _ => rfl, Nat.le_succ _, Nat.le_refl _⟩
      · rw [applyTaskUpdate_activity]
        exact Nat.lt_succ_self _
    · rename_i hcheck
      cases h
      refine ⟨Advances.refl view, .inl ⟨rfl, fun hfails => hcheck ?_⟩⟩
      simp [hfails.1, hfails.2, hcurr.2]
  · cases h

theorem applyReconciledTask_cases {task : CacheTask} {taskID : String} {generation expected : Nat}
    (h : view.applyReconciledTask task taskID generation expected = some (update, after)) :
    generation = view.taskWatchGeneration ∧ view.Advances after ∧
      (after = view ∨
        after.currentTask = task ∧ canApplyWatchedSnapshot task view.currentTask) := by
  unfold applyReconciledTask at h
  split at h
  · rename_i hcurr
    simp only [isTaskWatchCurrent, Bool.and_eq_true, beq_iff_eq] at hcurr
    refine ⟨hcurr.1.1, ?_⟩
    split at h
    · rename_i hcheck
      cases h
      simp only [Bool.and_eq_true] at hcheck
      exact ⟨applyTaskUpdate_advances _ _, .inr ⟨applyTaskUpdate_currentTask _ _, hcheck.2⟩⟩
    · cases h
      exact ⟨Advances.refl view, .inl rfl⟩
  · cases h

theorem failCancel_currentTask (view : TaskViewModel) (targetTaskID : String) :
    (view.failCancel targetTaskID).currentTask = view.currentTask := by
  unfold failCancel
  split
  · rfl
  · split
    · exact applyTaskUpdate_currentTask _ _
    · rfl

theorem failCancel_advances (view : TaskViewModel) (targetTaskID : String) :
    view.Advances (view.failCancel targetTaskID) := by
  unfold failCancel
  split
  · exact Advances.refl view
  · split
    · exact (applyTaskUpdate_advances _ _).trans (notCancelling_advances _)
    · exact notCancelling_advances view

theorem finishCancel_cases (view : TaskViewModel) (task : CacheTask) (targetTaskID : String)
    (cancellationGeneration : Nat) :
    view.Advances (view.finishCancel task targetTaskID cancellationGeneration) ∧
      ((view.finishCancel task targetTaskID cancellationGeneration).currentTask =
          view.currentTask ∨
        (view.finishCancel task targetTaskID cancellationGeneration).currentTask = task ∧
          view.currentTask.isTerminalBilibiliTaskState = false ∧
          (view.currentTask.isCancellationPendingBilibiliTaskState →
            task.isTerminalBilibiliTaskState) ∧
          (task.isQueuedOrRunningBilibiliTaskState →
            view.taskSnapshotGeneration = cancellationGeneration)) := by
  have hreapplied :=
    (applyTaskUpdate_advances view view.currentTask).trans (notCancelling_advances _)
  unfold finishCancel
  split
  · exact ⟨Advances.refl view, .inl rfl⟩
  split
  · exact ⟨hreapplied, .inl (applyTaskUpdate_currentTask _ _)⟩
  rename_i hterm
  split
  · exact ⟨notCancelling_advances view, .inl rfl⟩
  split
  · exact ⟨hreapplied, .inl (applyTaskUpdate_currentTask _ _)⟩
  rename_i hp
  split
  · exact ⟨notCancelling_advances view, .inl rfl⟩
  rename_i hfence
  refine ⟨(applyTaskUpdate_advances _ _).trans (notCancelling_advances _),
    .inr ⟨applyTaskUpdate_currentTask _ _, by simpa using hterm, ?_, ?_⟩⟩
  · intro hcurr
    simpa [hcurr] using hp
  · intro hqueued
    simpa [hqueued] using hfence

end TaskViewModel

end NetPlayer.Client
