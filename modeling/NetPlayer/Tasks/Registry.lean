import Mathlib.Data.Int.Order.Basic
import Mathlib.Logic.Function.Basic
import NetPlayer.Tasks.Task

/-!
# The task registry

The registry keeps two maps of tasks. Operations change `tasks_by_id`; readers and
watchers see `visible_tasks_by_id`. A changed task is staged in
`pending_publications_by_id`, and a save of the whole state decides what happens to
it: a committed save installs the live tasks as the visible ones and sends the
staged tasks to the watchers, a rejected save leaves both as they are or restores
the checkpoint the operation took.

Every operation holds the mutation lock to its end. While a save runs the inner lock
is free, but until the save's outcome is applied an operation changes only live
tasks, outputs and pending publications, which readers and watchers do not see; so
an operation is one step here.

A `HashMap` iterates in no fixed order. Where the order matters it is an argument.
-/

namespace NetPlayer.Tasks

open Function (update)

structure LibraryDeletion where
  results : List (String × TaskState × String × Bool × String)
  primaryLibraryItemId : String

/-- The operations on task output records that the registry uses. `error` is a
validation error of the record. -/
structure TaskOutputs (Output : Type) where
  fromLegacyTask : Task → Output
  removedTaskTombstone : Task → Option Output → Output
  legacyManaged : Output → Bool
  /-- `none` when the record already matches the task. -/
  reconcileLegacyTask : Output → Task → Except String (Option Output)
  summary : Output → TaskOutputSummary
  /-- `none` when the record already has the status or has no such result. -/
  updateBilibiliCacheFillStatus : Output → String → HlsCacheFillStatus → Option Output
  retireExpiredResourcesExcept : Output → Timestamp → List String → Option Output
  markPlaybackCacheDeleted : Output → String → String → String → Except String Output
  markLibraryItemDeleted :
    Output → String → String → Except String (Option (Output × LibraryDeletion))

def TaskOutputs.updateBilibiliCacheFillStatusForTask {Output : Type}
    (outputs : TaskOutputs Output) (output : Output) (task : Task) (resultId : String)
    (status : HlsCacheFillStatus) : Except String (Option Output) :=
  if outputs.legacyManaged output then outputs.reconcileLegacyTask output task
  else .ok (outputs.updateBilibiliCacheFillStatus output resultId status)

/-- `TaskRetentionPolicy`; the age is in nanoseconds. -/
structure TaskRetentionPolicy where
  maxTerminalTasks : Option Nat
  maxTerminalTaskAge : Option Int

structure Config (Output : Type) where
  outputs : TaskOutputs Output
  persistence : Bool
  retentionPolicy : TaskRetentionPolicy

inductive PersistenceFailureRetryability where
  | retryable | permanent
  deriving DecidableEq

/-- The answer of the task-state store to a save. -/
inductive SaveResult where
  | durable | installedButNotDurable
  | failed (retryability : PersistenceFailureRetryability)
  deriving DecidableEq

inductive PersistenceCommitOutcome where
  | durable | installedButNotDurable | volatile
  | rejected (retryability : PersistenceFailureRetryability)
  deriving DecidableEq

def PersistenceCommitOutcome.isCommitted : PersistenceCommitOutcome → Bool
  | .durable | .installedButNotDurable | .volatile => true
  | .rejected _ => false

def PersistenceCommitOutcome.isDurable (outcome : PersistenceCommitOutcome) : Bool :=
  outcome == .durable

def PersistenceCommitOutcome.isPermanentFailure (outcome : PersistenceCommitOutcome) : Bool :=
  outcome == .rejected .permanent

structure SaveInput where
  taskIds : List String
  publicationIds : List String
  now : Timestamp
  recordsRefused : Bool
  save : SaveResult

structure TaskWatcher where
  watchedIds : List String
  snapshots : List Task
  /-- Events taken by `recv`. -/
  received : List Task
  /-- Events in the channel. -/
  buffer : List Task
  lagged : Bool
  /-- The watcher is in the registry's map of watchers. -/
  registered : Bool

def watcherEventBufferCapacity : Nat := 128

structure InstalledSnapshot where
  records : String → Option Task
  pruned : String → Option Task
  removed : List Task

structure Registry (Output : Type) where
  available : Bool
  tasksById : String → Option Task
  outputsByTaskId : String → Option Output
  visibleTasksById : String → Option Task
  pendingPublicationsById : List (String × Task)
  queuedTaskIds : List String
  /-- The task has a nonempty list in `bilibili_candidates_by_id`. -/
  hasCandidates : String → Bool
  watchers : List TaskWatcher
  /-- What the saves of this registry installed, a history no operation reads. -/
  installed : List InstalledSnapshot

structure RegistryMutationCheckpoint (Output : Type) where
  tasksById : String → Option Task
  outputsByTaskId : String → Option Output
  hasCandidates : String → Bool
  queuedTaskIds : List String
  pendingPublicationsById : List (String × Task)

structure TaskRecordMutationCheckpoint (Output : Type) where
  task : Task
  output : Option Output
  pendingPublication : Option Task

section

variable {Output : Type}

def upsertTask (tasks : List (String × Task)) (id : String) (task : Task) : List (String × Task) :=
  (id, task) :: tasks.filter fun entry => entry.1 != id

variable (registry : Registry Output)

def RegistryMutationCheckpoint.capture : RegistryMutationCheckpoint Output where
  tasksById := registry.tasksById
  outputsByTaskId := registry.outputsByTaskId
  hasCandidates := registry.hasCandidates
  queuedTaskIds := registry.queuedTaskIds
  pendingPublicationsById := registry.pendingPublicationsById

def RegistryMutationCheckpoint.restore (checkpoint : RegistryMutationCheckpoint Output)
    (registry : Registry Output) : Registry Output :=
  { registry with
    tasksById := checkpoint.tasksById
    outputsByTaskId := checkpoint.outputsByTaskId
    hasCandidates := checkpoint.hasCandidates
    queuedTaskIds := checkpoint.queuedTaskIds
    pendingPublicationsById := checkpoint.pendingPublicationsById }

def TaskRecordMutationCheckpoint.capture (id : String) (task : Task) :
    TaskRecordMutationCheckpoint Output where
  task := task
  output := registry.outputsByTaskId id
  pendingPublication := registry.pendingPublicationsById.lookup id

def TaskRecordMutationCheckpoint.restore (checkpoint : TaskRecordMutationCheckpoint Output)
    (registry : Registry Output) : Registry Output :=
  let taskId := checkpoint.task.id
  { registry with
    tasksById := update registry.tasksById taskId (some checkpoint.task)
    outputsByTaskId := update registry.outputsByTaskId taskId checkpoint.output
    pendingPublicationsById := match checkpoint.pendingPublication with
      | some task => upsertTask registry.pendingPublicationsById taskId task
      | none => registry.pendingPublicationsById.filter fun entry => entry.1 != taskId }

def TaskWatcher.matches (watcher : TaskWatcher) (task : Task) : Bool :=
  watcher.watchedIds.isEmpty || watcher.watchedIds.contains task.id

/-- `try_send` to one watcher; a full channel makes it inactive. -/
def TaskWatcher.send (watcher : TaskWatcher) (task : Task) : TaskWatcher :=
  if watcher.registered && watcher.matches task then
    if watcher.buffer.length < watcherEventBufferCapacity then
      { watcher with buffer := watcher.buffer ++ [task] }
    else { watcher with lagged := true, registered := false }
  else watcher

variable (task : Task)

def Registry.publishLocked : Registry Output :=
  { registry with watchers := registry.watchers.map fun watcher => watcher.send task }

def Registry.stagePublicationLocked : Registry Output :=
  { registry with
    pendingPublicationsById := upsertTask registry.pendingPublicationsById task.id task }

def Registry.refreshPendingPublicationsLocked : Registry Output :=
  { registry with
    pendingPublicationsById := registry.pendingPublicationsById.map fun entry =>
      (entry.1, (registry.tasksById entry.1).getD entry.2) }

/-- The pending publications in the order `ids` gives; the entries `ids` does not
name come last. -/
def enumeratePublications (ids : List String) (pending : List (String × Task)) :
    List (String × Task) :=
  ids.flatMap (fun id => pending.filter fun entry => entry.1 == id) ++
    pending.filter fun entry => !ids.contains entry.1

def Registry.publishPendingLocked (ids : List String) : Registry Output :=
  (enumeratePublications ids registry.pendingPublicationsById).foldl
    (fun current entry =>
      current.publishLocked ((registry.visibleTasksById entry.1).getD entry.2))
    { registry with pendingPublicationsById := [] }

def Registry.hasPendingPublication (id : String) : Bool :=
  registry.pendingPublicationsById.any fun entry => entry.1 == id

def Registry.publishVolatileLocked : Registry Output :=
  if registry.hasPendingPublication task.id || (registry.visibleTasksById task.id).isNone then
    registry.stagePublicationLocked task
  else
    ({ registry with
      visibleTasksById := update registry.visibleTasksById task.id (some task) }
      : Registry Output).publishLocked task

def Registry.installVisibleLiveStateLocked : Registry Output :=
  { registry with visibleTasksById := registry.tasksById }

def timestampNanos (timestamp : Timestamp) : Int :=
  timestamp.seconds * 1000000000 + timestamp.nanos

def Task.isRetentionPrunable : Bool :=
  task.state.isTerminal &&
    !(task.kind == .bilibiliProgressivePlayback && task.state == .completed)

def Task.retentionTimestamp : Option Timestamp :=
  (task.finishedAt.or task.updatedAt).or task.createdAt

def Task.ageExceeds (now : Timestamp) (maxAge : Int) : Bool :=
  task.retentionTimestamp.elim false fun reference =>
    decide (maxAge ≤ timestampNanos now - timestampNanos reference)

def Task.retentionSortKey : Int × Int :=
  task.retentionTimestamp.elim (0, 0) fun timestamp => (timestamp.seconds, timestamp.nanos)

def Task.prunedBefore (left right : Task) : Bool :=
  let (leftSeconds, leftNanos) := left.retentionSortKey
  let (rightSeconds, rightNanos) := right.retentionSortKey
  if leftSeconds ≠ rightSeconds then decide (leftSeconds < rightSeconds)
  else if leftNanos ≠ rightNanos then decide (leftNanos < rightNanos)
  else decide (left.id ≤ right.id)

def Registry.terminalTaskIdsToPrune (policy : TaskRetentionPolicy) (taskIds : List String)
    (now : Timestamp) : List String :=
  let prunable := (taskIds.filterMap registry.tasksById).filter Task.isRetentionPrunable
  let aged := policy.maxTerminalTaskAge.elim [] fun maxAge =>
    prunable.filter fun task => task.ageExceeds now maxAge
  let kept := prunable.filter fun task => !aged.contains task
  let surplus := policy.maxTerminalTasks.elim [] fun maxTerminalTasks =>
    (kept.mergeSort Task.prunedBefore).take (kept.length - maxTerminalTasks)
  (aged ++ surplus).map Task.id

def Registry.applyPrunedTasks (taskIds : List String) : Registry Output :=
  { registry with
    tasksById := fun id => if id ∈ taskIds then none else registry.tasksById id
    outputsByTaskId := fun id => if id ∈ taskIds then none else registry.outputsByTaskId id
    hasCandidates := fun id => decide (id ∉ taskIds) && registry.hasCandidates id }

/-- `reconcile_task_output_locked`; `none` when the output is not valid. -/
def Registry.reconcileTaskOutput (outputs : TaskOutputs Output) (registry : Registry Output)
    (taskId : String) : Option (Registry Output) :=
  match registry.tasksById taskId with
  | none => some { registry with
      outputsByTaskId := update registry.outputsByTaskId taskId none }
  | some task =>
    let output := (registry.outputsByTaskId taskId).getD (outputs.fromLegacyTask task)
    match outputs.reconcileLegacyTask output task with
    | .error _ => none
    | .ok changed =>
      let reconciled := changed.getD output
      let summary := outputs.summary reconciled
      let summarized := { task with outputSummary := some summary }
      some { registry with
        outputsByTaskId := update registry.outputsByTaskId taskId (some reconciled)
        tasksById := update registry.tasksById taskId (some summarized)
        pendingPublicationsById :=
          if task.outputSummary = some summary then registry.pendingPublicationsById
          else upsertTask registry.pendingPublicationsById taskId summarized }

def Registry.reconcileAllTaskOutputs (outputs : TaskOutputs Output) :
    Registry Output → List String → Registry Output × Bool
  | registry, [] => (registry, true)
  | registry, taskId :: rest =>
    match registry.reconcileTaskOutput outputs taskId with
    | none => (registry, false)
    | some reconciled => reconciled.reconcileAllTaskOutputs outputs rest

variable (config : Config Output) (input : SaveInput)

def Config.commitOutcome (built : Bool) (durabilityRequired : Bool) : PersistenceCommitOutcome :=
  if !built then .rejected .permanent
  else if config.persistence then
    match input.save with
    | .durable => .durable
    | .installedButNotDurable => .installedButNotDurable
    | .failed retryability => .rejected retryability
  else if durabilityRequired then .rejected .permanent
  else .volatile

/-- The part of `persist_and_publish_pending_with_policy` that installs what a
committed save wrote. -/
def Registry.installCommitted (prunedTaskIds : List String) : Registry Output :=
  ((registry.applyPrunedTasks prunedTaskIds).installVisibleLiveStateLocked
    |>.refreshPendingPublicationsLocked).publishPendingLocked input.publicationIds

def Registry.recordInstalled (prunedTaskIds : List String) : Registry Output :=
  { registry with
    installed := registry.installed ++
      [{ records := fun id => if id ∈ prunedTaskIds then none else registry.tasksById id
         pruned := fun id => if id ∈ prunedTaskIds then registry.tasksById id else none
         removed := (registry.pendingPublicationsById.filter fun entry =>
           (registry.tasksById entry.1).isNone).map Prod.snd }] }

def Registry.persistAndPublishPending (registry : Registry Output) (durabilityRequired : Bool)
    (rollbackCheckpoint : Option (RegistryMutationCheckpoint Output)) (requireDurableCommit : Bool)
    : Registry Output × PersistenceCommitOutcome :=
  let (reconciled, valid) := registry.reconcileAllTaskOutputs config.outputs input.taskIds
  let built := valid && !(config.persistence && input.recordsRefused)
  let refreshed := reconciled.refreshPendingPublicationsLocked
  let outcome := config.commitOutcome input built durabilityRequired
  let current := { refreshed with
    available := config.persistence && outcome.isDurable }
  let prunedTaskIds :=
    refreshed.terminalTaskIdsToPrune config.retentionPolicy input.taskIds input.now
  match outcome with
  | .durable => ((current.recordInstalled prunedTaskIds).installCommitted input prunedTaskIds,
      outcome)
  | .installedButNotDurable =>
    let recorded := current.recordInstalled prunedTaskIds
    match requireDurableCommit, rollbackCheckpoint with
    | true, some checkpoint => (checkpoint.restore recorded, outcome)
    | _, _ => (recorded.installCommitted input prunedTaskIds, outcome)
  | .volatile => (current.installCommitted input [], outcome)
  | .rejected _ => ((rollbackCheckpoint.elim current fun checkpoint =>
    checkpoint.restore current), outcome)

/-- `persist_tasks_and_publish` and `persist_tasks_before_destructive_side_effect`,
which requires a durable commit. -/
def Registry.persistTasksAndPublish (registry : Registry Output) (tasks : List Task)
    (durabilityRequired : Bool) (rollbackCheckpoint : Option (RegistryMutationCheckpoint Output))
    (requireDurableCommit : Bool) : Registry Output × PersistenceCommitOutcome :=
  (tasks.foldl Registry.stagePublicationLocked registry).persistAndPublishPending config input
    durabilityRequired rollbackCheckpoint requireDurableCommit

end

end NetPlayer.Tasks
