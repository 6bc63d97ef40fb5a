import NetPlayer.Tasks.Operations

/-!
# Cancellation, cache deletion and output commits

The operations of the task registry that end a task from outside its worker: a
cancellation, a playback cache that cannot be restored, a deleted cache or library
item; and those that change a task's output record or its playback data only.
-/

namespace NetPlayer.Tasks

open Function (update)
open PersistenceCommitOutcome

section

variable {Output : Type}

def HlsCacheFillStatus.cancelled (previous : Option HlsCacheFillStatus) : HlsCacheFillStatus where
  state := .cancelled
  failureKind := .unspecified
  completedBytes := previous.elim 0 (·.completedBytes)
  totalBytes := previous.elim 0 (·.totalBytes)
  totalBytesKnown := previous.elim false (·.totalBytesKnown)
  representationId := previous.elim "" (·.representationId)
  message := "Offline cache fill was cancelled."

variable (task : Task)

def Task.fillStatusResultIds : List String :=
  (task.resultItems.filter fun item => !item.hlsSessionIds.isEmpty).map (·.id) ++
    task.primaryHlsSessionId.elim [] fun _ => [task.id]

/-- The task as `cancel_task` ends it when no worker runs it. -/
def Task.cancelledNow (now : Timestamp) : Task :=
  let finished := { task.finished .cancelled cancelledMessage now with libraryItemId := "" }
  let played :=
    if task.kind = .bilibiliProgressivePlayback then
      { finished.withoutPlayback with
        hlsCacheFillStatus :=
          if task.hlsCacheFillStatus.isSome || !task.playbackHlsSessionIds.isEmpty then
            some (HlsCacheFillStatus.cancelled task.hlsCacheFillStatus)
          else none
        resultItems := task.resultItems.map fun item =>
          if task.fillStatusResultIds.contains item.id && item.hlsCacheFillStatus.isSome then
            { item with
              hlsCacheFillStatus := some (HlsCacheFillStatus.cancelled item.hlsCacheFillStatus) }
          else item }
    else finished
  { played with
    resultItems := clearResultPlaybackMetadata played.resultItems .cancelled cancelledMessage }

variable (outputs : TaskOutputs Output)

/-- The fill status of a cancelled playback task in its output record; `none` when the
record does not change. -/
def cancelledOutput (output : Output) (task cancelled : Task) : Except String (Option Output) :=
  if cancelled.resultItems.isEmpty then
    match cancelled.hlsCacheFillStatus with
    | some status =>
      outputs.updateBilibiliCacheFillStatusForTask output cancelled cancelled.id status
    | none => .ok none
  else
    .ok (task.fillStatusResultIds.foldl (fun changed resultId =>
      match (cancelled.resultItems.find? fun item => item.id == resultId).bind
        (·.hlsCacheFillStatus) with
      | none => changed
      | some status =>
        (outputs.updateBilibiliCacheFillStatus (changed.getD output) resultId status).or
          changed) none)

variable (config : Config Output)

/-- `cancel_task_with_hls_session_ids`. It decides by the visible task and changes the
live one. -/
def Registry.cancelTask (recovery input : SaveInput) (registry : Registry Output) (id : String)
    (now : Timestamp) : Reply Output Task :=
  registry.afterRecovery config recovery isDurable
    "Pending task state could not be persisted before cancellation." fun registry =>
    match registry.visibleTasksById id with
    | none => (registry, .error taskNotFound)
    | some visible =>
      if visible.state.isTerminal || visible.state = .cancelRequested then
        (registry, .ok visible)
      else match registry.tasksById id with
      | none => (registry, .error taskNotFound)
      | some task =>
        if visible.state = .running || visible.state = .preparing then
          let requested := { task with
            state := .cancelRequested, message := cancelRequestedMessage
            updatedAt := some now }
          let saved := (registry.setTask id requested).persistTasksAndPublish config input
            [requested] config.persistence none false
          commitReply config saved isCommitted
            "Task cancellation could not be persisted durably." requested
        else
          let cancelled := task.cancelledNow now
          let changed := registry.setTask id cancelled
          let output : Except String (Option Output) :=
            if task.kind = .bilibiliProgressivePlayback then
              (registry.outputsByTaskId id).elim (.ok none) fun output =>
                cancelledOutput config.outputs output task cancelled
            else .ok none
          match output with
          | .error error =>
            -- Only a checkpoint takes the change back.
            (if config.persistence then registry else changed,
              .error (.failedPrecondition
                ("Cancelled HLS cache fill status could not be reconciled with task " ++
                  "output: " ++ error)))
          | .ok updatedOutput =>
            let ended := updatedOutput.elim cancelled fun output =>
              { cancelled with outputSummary := some (config.outputs.summary output) }
            let changed := (updatedOutput.elim changed (changed.setOutput id)).setTask id ended
            let deletesHlsData := task.kind = .bilibiliProgressivePlayback &&
              !task.playbackHlsSessionIds.isEmpty
            let saved := (changed.dequeue id).persistTasksAndPublish config input [ended]
              config.persistence (registry.checkpointIfDurable config) deletesHlsData
            commitReply config saved
              (if deletesHlsData then isDurable
                else isCommitted)
              "Task cancellation could not be persisted durably." ended

def Task.failedAfterCacheRestore (message : String) (now : Timestamp) : Task :=
  { (task.finished .failed message now).withoutPlayback with
    libraryItemId := ""
    resultItems := clearResultPlaybackMetadata task.resultItems .failed message }

variable (input : SaveInput)

def Registry.failPlaybackTaskAfterCacheRestore (registry : Registry Output)
    (id message : String) (now : Timestamp) : Reply Output Task :=
  match registry.tasksById id with
  | none => (registry, .error taskNotFound)
  | some task =>
    if task.kind ≠ .bilibiliProgressivePlayback then (registry, .error notPlaybackTask)
    else if task.state.isTerminal then (registry, .ok task)
    else
      let failed := task.failedAfterCacheRestore message now
      let (saved, _) := ((registry.setTask id failed).dequeue id).persistTasksAndPublish config
        input [failed] false none false
      (saved, .ok failed)

variable (registry : Registry Output)

/-- The first live task in the given order that `selected` accepts, with its key. -/
def Registry.findTask (taskIds : List String) (selected : Task → Bool) : Option (String × Task) :=
  taskIds.findSome? fun taskId =>
    ((registry.tasksById taskId).filter selected).map fun task => (taskId, task)

def Task.isCompletedForAnyHlsSession (sessionId : String) : Bool :=
  task.kind == .bilibiliProgressivePlayback && task.state == .completed &&
    task.playbackHlsSessionIds.contains sessionId

def Registry.failCompletedPlaybackTaskAfterCacheRestore (registry : Registry Output)
    (taskIds : List String) (sessionId message : String) (now : Timestamp) : Reply Output Task :=
  match registry.findTask taskIds fun task => task.isCompletedForAnyHlsSession sessionId with
  | none => (registry, .error taskNotFound)
  | some (id, task) =>
    let failed := task.failedAfterCacheRestore message now
    let (saved, _) := ((registry.setTask id failed).dequeue id).persistTasksAndPublish config
      input [failed] false none false
    (saved, .ok failed)

def Task.isServedBySession (sessionId : String) : Bool :=
  task.kind == .bilibiliProgressivePlayback &&
    (task.state == .playable || task.state == .completed) &&
    (task.usesHlsSessionAsPrimary sessionId || task.resultItems.any fun item =>
      item.usesHlsSession sessionId && item.canServeOnlinePlaybackAfterTaskCompletion)

def Task.withExpiredSession (items : List BilibiliTaskResultItem) (completed playable : String)
    (now : Timestamp) : Task :=
  { task with
    resultItems := items
    progress := resultItemsProgress items
    message := if task.state = .completed then completed else playable
    updatedAt := some now }

def Registry.failUnrestorablePlaybackSessionAfterCacheRestore (recovery input : SaveInput)
    (registry : Registry Output) (taskIds : List String) (sessionId message : String)
    (now : Timestamp) : Reply Output (Option Task) :=
  registry.afterRecovery config recovery isDurable
    "Pending task state could not be persisted before rejecting a restored HLS session."
    fun registry =>
    match registry.findTask taskIds fun task => task.isServedBySession sessionId with
    | none => (registry, .ok none)
    | some (id, task) =>
      let (items, changed) :=
        clearUnrestorableResultPlaybackMetadataForSession task.resultItems sessionId message
      if !task.usesHlsSessionAsPrimary sessionId && !changed then (registry, .ok none)
      else
        let updated :=
          if task.usesHlsSessionAsPrimary sessionId then task.failedAfterCacheRestore message now
          else task.withExpiredSession items
            ("Completed offline cache restored; some Bilibili playback results expired after " ++
              "cache restore.")
            "Playable online; some Bilibili playback results expired after cache restore." now
        let replaced := registry.setTask id updated
        let cleared := if updated.state = .failed then replaced.dequeue id else replaced
        let saved := cleared.persistTasksAndPublish config input [updated] config.persistence
          (registry.checkpointIfDurable config) true
        commitReply config saved isDurable
          "Restored HLS session failure could not be persisted durably." (some updated)

/-- A served task after a restart, given whether its primary session is restorable, its
items and whether these have changed; `none` when it stays. -/
def Task.expireUnlessRestorable (restorable : Bool) (items : List BilibiliTaskResultItem)
    (changed : Bool) (now : Timestamp) : Option Task :=
  if !restorable then
    some (task.failedAfterCacheRestore playableExpiredAfterRestartMessage now)
  else if changed then
    some (task.withExpiredSession items
      ("Completed offline cache restored; some Bilibili playback results expired after " ++
        "restart.")
      "Playable online; some Bilibili playback results expired after restart." now)
  else none

/-- A task as `fail_unrestorable_playback_tasks` leaves it; `none` when it stays. -/
def Task.afterRestart (restorablePlayable restorableCompleted : List String) (now : Timestamp) :
    Option Task :=
  let (items, changed) := clearUnrestorableResultPlaybackMetadata task.resultItems
    restorablePlayable restorableCompleted
  let restorable := if task.state = .playable then restorablePlayable else restorableCompleted
  if task.kind = .bilibiliProgressivePlayback &&
      (task.state = .playable || task.state = .completed) then
    task.expireUnlessRestorable (task.primaryHlsSessionId.elim false restorable.contains) items
      changed now
  else none

def Registry.changeTasks (change : Task → Option Task) :
    Registry Output → List String → Registry Output × List Task
  | registry, [] => (registry, [])
  | registry, taskId :: rest =>
    match (registry.tasksById taskId).bind change with
    | none => registry.changeTasks change rest
    | some task =>
      let (changed, tasks) := (registry.setTask taskId task).changeTasks change rest
      (changed, task :: tasks)

def Registry.failUnrestorablePlaybackTasks (registry : Registry Output)
    (taskIds restorablePlayable restorableCompleted : List String) (now : Timestamp) :
    Registry Output × List String :=
  let (changed, tasks) := registry.changeTasks
    (fun task => task.afterRestart restorablePlayable restorableCompleted now) taskIds
  if tasks.isEmpty then (registry, [])
  else
    let (saved, _) := changed.persistTasksAndPublish config input tasks false none false
    (saved, tasks.map Task.id)

/-- `mark_output_playback_cache_deleted_locked` after the task itself has changed. -/
def Registry.markOutputPlaybackCacheDeleted (id sessionId libraryItemId : String) (task : Task)
    : Except String (Registry Output × Task) :=
  match registry.outputsByTaskId id with
  | none => .ok (registry.setTask id task, task)
  | some output =>
    match outputs.markPlaybackCacheDeleted output sessionId libraryItemId
      playbackCacheDeletedMessage with
    | .error error => .error error
    | .ok updated =>
      let marked := { task with outputSummary := some (outputs.summary updated) }
      .ok ((registry.setOutput id updated).setTask id marked, marked)

/-- The branch of `remove_completed_playback_task` that deletes one cached result and
keeps the task. -/
def Registry.deleteCachedResult (registry : Registry Output)
    (id sessionId libraryItemId : String) (task : Task) : Reply Output Bool :=
  match registry.markOutputPlaybackCacheDeleted config.outputs id sessionId libraryItemId task with
  | .error error =>
    (registry, .error ⟨.internal,
      "Task cache deletion would create invalid task output: " ++ error⟩)
  | .ok (changed, marked) =>
    let saved := changed.persistTasksAndPublish config input [marked] config.persistence
      (registry.checkpointIfDurable config) true
    commitReply config saved isDurable
      "Task cache deletion could not be persisted durably." true

def Task.hasCompletedResultCacheItem (sessionId libraryItemId : String) : Bool :=
  task.kind == .bilibiliProgressivePlayback && task.state == .playable &&
    task.resultItems.any fun item => item.libraryItemId == libraryItemId &&
      item.usesHlsSession sessionId && item.state == .completed

def Task.removed (now : Timestamp) : Task :=
  task.failedAfterCacheRestore playbackCacheDeletedMessage now

def Registry.removeTask (id : String) : Registry Output :=
  { registry with
    tasksById := update registry.tasksById id none
    outputsByTaskId := update registry.outputsByTaskId id none }

def onlyCompletedRemovable : Status :=
  .failedPrecondition
    "Only completed playback tasks matching the deleted cache item can be removed."

def Registry.removeCompletedPlaybackTask (registry : Registry Output) (taskIds : List String)
    (sessionId libraryItemId : String) (now : Timestamp) : Reply Output Bool :=
  match registry.findTask taskIds fun task => task.isCompletedForAnyHlsSession sessionId with
  | none =>
    match registry.findTask taskIds fun task =>
      task.hasCompletedResultCacheItem sessionId libraryItemId with
    | some (id, task) =>
      let (items, changed) := clearUnrestorableResultPlaybackMetadataForSession
        task.resultItems sessionId playbackCacheDeletedMessage
      if !changed then (registry, .ok false)
      else registry.deleteCachedResult config input id sessionId libraryItemId
        { task with
          resultItems := items
          progress := resultItemsProgress items
          message := "Playable online; one cached Bilibili playback result was deleted."
          updatedAt := some now }
    | none =>
      match registry.tasksById sessionId with
      | none => (registry, .ok false)
      | some task =>
        if task.kind ≠ .bilibiliProgressivePlayback then (registry, .error notPlaybackTask)
        else (registry, .error onlyCompletedRemovable)
  | some (id, task) =>
    let (items, changed) := clearCompletedResultCacheItemForSession task.resultItems sessionId
      libraryItemId playbackCacheDeletedMessage
    if task.libraryItemId = libraryItemId && task.usesHlsSessionAsPrimary sessionId then
      let tombstone := task.removed now
      let removed := { tombstone with
        outputSummary := some (config.outputs.summary
          (config.outputs.removedTaskTombstone tombstone (registry.outputsByTaskId id))) }
      let saved := (registry.removeTask id).persistTasksAndPublish config input [removed]
        config.persistence (registry.checkpointIfDurable config) true
      commitReply config saved isDurable
        "Task cache deletion could not be persisted durably." true
    else if changed then
      registry.deleteCachedResult config input id sessionId libraryItemId
        { task with
          resultItems := items
          progress := resultItemsProgress items
          message := "Completed offline; one cached Bilibili playback result was deleted."
          updatedAt := some now }
    else (registry, .error onlyCompletedRemovable)

def BilibiliTaskResultItem.withLibraryDeletion (item : BilibiliTaskResultItem)
    (deletion : Option LibraryDeletion) (libraryItemId : String) :
    BilibiliTaskResultItem × Bool :=
  match deletion.bind fun deletion => deletion.results.lookup item.id with
  | some (state, itemLibraryItemId, mediaDeleted, message) =>
    ({ item with
        state := state
        libraryItemId := itemLibraryItemId
        playbackSource := if mediaDeleted then none else item.playbackSource
        playbackSession := if mediaDeleted then none else item.playbackSession
        message := if message = "" then item.message else message }, false)
  | none =>
    if item.libraryItemId = libraryItemId ||
        item.playbackSource.any fun source => source.itemId == libraryItemId then
      ({ item with
          state := .failed, libraryItemId := "", playbackSource := none
          message := libraryItemDeletedMessage }, true)
    else (item, false)

/-- A task as a library deletion leaves it, given what the deletion does to its
output record; `none` when the deletion does not concern the task. -/
def Task.withLibraryDeletion (task : Task) (libraryItemId : String)
    (deletion : Option (LibraryDeletion × TaskOutputSummary)) (now : Timestamp) : Option Task :=
  let topLevelMediaDeleted := task.libraryItemId = libraryItemId ||
    task.playbackSource.any fun source => source.itemId == libraryItemId
  let items := task.resultItems.map fun item =>
    item.withLibraryDeletion (deletion.map Prod.fst) libraryItemId
  let cleared :=
    if topLevelMediaDeleted then { task.withoutPlayback with libraryItemId := "" } else task
  let listed := { cleared with resultItems := items.map Prod.fst }
  let summarized := deletion.elim listed fun entry =>
    { listed with
      libraryItemId := entry.1.primaryLibraryItemId, outputSummary := some entry.2 }
  if deletion.isSome || topLevelMediaDeleted || items.any Prod.snd then
    if (task.kind = .bilibiliDownload || task.kind = .bilibiliProgressivePlayback) &&
        !summarized.hasSuccessfulMediaResult then
      some { summarized with
        state := .failed, message := libraryItemDeletedMessage, updatedAt := some now }
    else
      some { summarized with
        message := "One cached media result was deleted from the library."
        updatedAt := some now }
  else none

/-- The output record of a task after the deletion of a library item; `none` when the
deletion does not concern it. -/
def Registry.markLibraryItemDeleted (outputs : TaskOutputs Output) (registry : Registry Output)
    (taskId libraryItemId : String) : Except String (Option (Output × LibraryDeletion)) :=
  (registry.outputsByTaskId taskId).elim (.ok none) fun output =>
    outputs.markLibraryItemDeleted output libraryItemId libraryItemDeletedMessage

def deletionOf (record : Option (Output × LibraryDeletion)) :
    Option (LibraryDeletion × TaskOutputSummary) :=
  record.map fun entry => (entry.2, outputs.summary entry.1)

/-- The loop of `tombstone_library_item_before_delete` over the live tasks. -/
def Registry.deleteLibraryItem (outputs : TaskOutputs Output) (libraryItemId : String)
    (now : Timestamp) :
    Registry Output → List String → Except String (Registry Output × List Task)
  | registry, [] => .ok (registry, [])
  | registry, taskId :: rest =>
    match registry.markLibraryItemDeleted outputs taskId libraryItemId with
    | .error error => .error error
    | .ok record =>
      let marked := record.elim registry fun entry => registry.setOutput taskId entry.1
      match (registry.tasksById taskId).bind fun task =>
        task.withLibraryDeletion libraryItemId (deletionOf outputs record) now with
      | none => marked.deleteLibraryItem outputs libraryItemId now rest
      | some task =>
        ((marked.setTask taskId task).deleteLibraryItem outputs libraryItemId now rest).map
          fun result => (result.1, task :: result.2)

/-- `tombstone_library_item_before_delete` once the cleanup intent is recorded. -/
def Registry.tombstoneLibraryItemBeforeDelete (registry : Registry Output)
    (taskIds : List String) (libraryItemId : String) (now : Timestamp) :
    Reply Output (List String) :=
  match registry.deleteLibraryItem config.outputs libraryItemId now taskIds with
  | .error error =>
    (registry, .error ⟨.internal,
      "Library deletion would create invalid task output: " ++ error⟩)
  | .ok (changed, updatedTasks) =>
    let saved := changed.persistTasksAndPublish config input updatedTasks config.persistence
      (registry.checkpointIfDurable config) true
    commitReply config saved isDurable
      ("Task references and cleanup intent could not be persisted before library " ++
        "deletion.") (updatedTasks.map Task.id)

end

end NetPlayer.Tasks
