import NetPlayer.Tasks.CacheOperations

/-!
# Output records, refreshes and subscriptions

The operations of the task registry that leave the state of a task as it is, the two
commits of a staged output, the subscriptions, and the whole set of operations as one
step relation.
-/

namespace NetPlayer.Tasks

open PersistenceCommitOutcome
open Function (update)

section

variable {Output : Type}

def HlsCacheFillStatus.clientMessage (status : HlsCacheFillStatus) : String :=
  match status.state with
  | .queued => "Queued for offline filling."
  | .filling => "Filling selected video and audio for offline playback."
  | .preempted => "Offline fill paused; verified partial cache data is retained."
  | .retrying =>
    if status.failureKind = .persistence then
      "Offline fill will retry after durable task-state recovery."
    else "Offline fill will retry after a temporary network error."
  | .blockedQuota => "Offline fill is waiting for cache quota."
  | .completed => "Selected video and audio are complete for offline playback."
  | .sourceUnavailable =>
    "The current source is unavailable; verified partial cache data is retained."
  | .failed =>
    if status.failureKind = .safety then
      "Offline fill stopped because the source response failed validation."
    else "Offline cache fill failed; online playback remains available."
  | .cancelled => "Offline cache fill was cancelled."
  | .unspecified => "Offline cache fill status is unavailable."

def HlsCacheFillStatus.mergedWith (status previous : HlsCacheFillStatus)
    (verifiedCompletion : Bool) : HlsCacheFillStatus :=
  let advanced :=
    { status with completedBytes := max status.completedBytes previous.completedBytes }
  let sized :=
    if !advanced.totalBytesKnown && previous.totalBytesKnown then
      { advanced with totalBytes := previous.totalBytes, totalBytesKnown := true }
    else advanced
  if verifiedCompletion && sized.totalBytesKnown then
    { sized with completedBytes := min sized.completedBytes sized.totalBytes }
  else sized

/-- The status to record over `previous`; `none` when the update is ignored. -/
def HlsCacheFillStatus.admitted (status : HlsCacheFillStatus)
    (previous : Option HlsCacheFillStatus) (verifiedCompletion : Bool) :
    Option HlsCacheFillStatus :=
  match previous with
  | none => some status
  | some previous =>
    let sameRepresentation :=
      status.representationId != "" && previous.representationId == status.representationId
    let safetyFailure := status.state == .failed && status.failureKind == .safety
    let repairMissingCompletedTotal := verifiedCompletion && sameRepresentation &&
      previous.state == .completed && !previous.totalBytesKnown
    if previous.state = .completed && !repairMissingCompletedTotal &&
        !(sameRepresentation && safetyFailure) then none
    else if !sameRepresentation && previous.state = .completed then none
    else if !sameRepresentation then
      if !verifiedCompletion && status.state = .completed then none else some status
    else some (status.mergedWith previous verifiedCompletion)

variable (task : Task)

def Task.acceptsFillStatus (item : Option BilibiliTaskResultItem) (verifiedCompletion : Bool) :
    Bool :=
  task.state == .playable || task.state == .completed ||
    task.state == .preparing && item.any (fun item => item.state == .playable) ||
    verifiedCompletion && task.state == .preparing &&
      item.any (fun item => item.state == .completed)

def modifyFirst (items : List BilibiliTaskResultItem)
    (selected : BilibiliTaskResultItem → Bool)
    (change : BilibiliTaskResultItem → BilibiliTaskResultItem) : List BilibiliTaskResultItem :=
  match items with
  | [] => []
  | item :: rest =>
    if selected item then change item :: rest else item :: modifyFirst rest selected change

def Task.withFillStatus (sessionId : String) (status : HlsCacheFillStatus) (now : Timestamp) :
    Task :=
  { task with
    hlsCacheFillStatus :=
      if task.usesHlsSessionAsPrimary sessionId then some status else task.hlsCacheFillStatus
    resultItems := modifyFirst task.resultItems (fun item => item.usesHlsSession sessionId)
      fun item => { item with hlsCacheFillStatus := some status }
    updatedAt := some now }

variable (config : Config Output) (input : SaveInput)

/-- The part of `update_hls_cache_fill_status_inner` that records an admitted status. -/
def Registry.recordFillStatus (registry : Registry Output) (taskId resultId : String)
    (updated : Task) (status : HlsCacheFillStatus) : Reply Output (Option Task) :=
  match (registry.outputsByTaskId taskId).elim (.ok none) fun output =>
    config.outputs.updateBilibiliCacheFillStatusForTask output updated resultId status with
  | .error error =>
    (registry, .error (.failedPrecondition
      ("HLS cache fill status could not be reconciled with task output: " ++ error)))
  | .ok none =>
    (registry, .error (.failedPrecondition
      "HLS cache fill status has no matching Bilibili v2 result."))
  | .ok (some output) =>
    let summarized := updated.withSummary (config.outputs.summary output)
    let saved := ((registry.setOutput taskId output).setTask taskId
      summarized).persistTasksAndPublish config input [summarized] config.persistence
        (some (RegistryMutationCheckpoint.capture registry)) false
    commitReply config saved isDurable
      "HLS cache fill status could not be persisted durably." (some summarized)

def Task.currentFillStatus (item : Option BilibiliTaskResultItem) (sessionId : String) :
    Option HlsCacheFillStatus :=
  (item.bind (·.hlsCacheFillStatus)).or
    (if task.usesHlsSessionAsPrimary sessionId then task.hlsCacheFillStatus else none)

def Registry.updateHlsCacheFillStatusInner (registry : Registry Output)
    (taskId sessionId : String) (status : HlsCacheFillStatus) (verifiedCompletion : Bool)
    (now : Timestamp) : Reply Output (Option Task) :=
  match registry.tasksById taskId with
  | none => (registry, .error taskNotFound)
  | some task =>
    let item := task.resultItems.find? fun item => item.usesHlsSession sessionId
    let currentStatus := task.currentFillStatus item sessionId
    if task.kind ≠ .bilibiliProgressivePlayback then (registry, .error notPlaybackTask)
    else if !task.acceptsFillStatus item verifiedCompletion then (registry, .ok none)
    else match (item.map (·.id)).or
      ((some taskId).filter fun _ => task.usesHlsSessionAsPrimary sessionId) with
    | none => (registry, .ok none)
    | some resultId =>
      match status.admitted currentStatus verifiedCompletion with
      | none => (registry, .ok (some task))
      | some merged =>
        let recorded := { merged with message := merged.clientMessage }
        if currentStatus = some recorded then (registry, .ok (some task))
        else registry.recordFillStatus config input taskId resultId
          (task.withFillStatus sessionId recorded now) recorded

def refreshResultItems (items : List BilibiliTaskResultItem) (sessionId : String)
    (playbackSource : PlaybackSource) (playbackSession : Option BilibiliPlaybackSession) :
    List BilibiliTaskResultItem :=
  let sourced := items.map fun item =>
    if item.id = sessionId && item.canServeOnlinePlaybackAfterTaskCompletion then
      { item with playbackSource := some playbackSource }
    else item
  playbackSession.elim sourced fun session => sourced.map fun item =>
    if item.canServeOnlinePlaybackAfterTaskCompletion && item.usesHlsSession sessionId then
      { item with playbackSession := some session }
    else item

def Task.primaryPlaybackSourceForRefresh (playbackSource : PlaybackSource) : PlaybackSource :=
  { playbackSource with
    itemId := if task.state = .completed && task.libraryItemId ≠ "" then task.libraryItemId
      else task.id }

def Task.withRefreshedPrimary (sessionId : String) (playbackSource : PlaybackSource)
    (playbackSession : Option BilibiliPlaybackSession) : Task :=
  let sourced := { task with
    playbackSource := some (task.primaryPlaybackSourceForRefresh playbackSource) }
  if sourced.usesHlsSessionAsPrimary sessionId then
    { sourced with playbackSession := playbackSession.or sourced.playbackSession }
  else sourced

def Registry.refreshHlsPlaybackSourceWithMetadata (registry : Registry Output)
    (taskIds : List String) (sessionId : String) (playbackSource : PlaybackSource)
    (playbackSession : Option BilibiliPlaybackSession) : Reply Output Task :=
  let commit := fun (id : String) (task refreshed : Task) =>
    let updated := { refreshed with
      resultItems :=
        refreshResultItems task.resultItems sessionId playbackSource playbackSession }
    let (saved, _) := (registry.setTask id updated).persistTasksAndPublish config input [updated]
      false none false
    ((saved, .ok updated) : Reply Output Task)
  match registry.tasksById sessionId with
  | some task =>
    if task.kind ≠ .bilibiliProgressivePlayback then (registry, .error notPlaybackTask)
    else if !(task.state == .playable || task.state == .completed) then (registry, .ok task)
    else commit sessionId task (task.withRefreshedPrimary sessionId playbackSource playbackSession)
  | none =>
    match registry.findTask taskIds fun task =>
      task.kind == .bilibiliProgressivePlayback &&
        (task.state == .playable || task.state == .completed) &&
        task.resultItems.any fun item =>
          item.id == sessionId && item.canServeOnlinePlaybackAfterTaskCompletion with
    | none => (registry, .error taskNotFound)
    | some (id, task) =>
      commit id task (if task.usesHlsSessionAsPrimary sessionId then
        { task with
          playbackSource := some (task.primaryPlaybackSourceForRefresh playbackSource)
          playbackSession := playbackSession.or task.playbackSession }
        else task)

/-- `commit_staged_task_output`, given the replacement record of the staged results;
`none` is a record equal to the previous one. -/
def Registry.commitStagedTaskOutput (registry : Registry Output) (id : String)
    (replacement : Except Status (Option Output)) : Reply Output Task :=
  match registry.tasksById id, replacement with
  | none, _ => (registry, .error taskNotFound)
  | some _, .error error => (registry, .error error)
  | some task, .ok replaced =>
    match replaced.or (registry.outputsByTaskId id) with
    | none => (registry, .ok task)
    | some output =>
      let summarized := task.withSummary (config.outputs.summary output)
      let changed := (registry.setOutput id output).setTask id summarized
      if replaced.isSome || !(config.persistence && registry.available) ||
          registry.hasPendingPublication id then
        let saved := changed.persistTasksAndPublish config input [summarized] true
          (some (RegistryMutationCheckpoint.capture registry)) false
        savedReply saved isCommitted
          "Task output could not be persisted durably." summarized
      else (changed, .ok summarized)

def BilibiliTaskResultItem.withTerminalResult (item : BilibiliTaskResultItem)
    (results : List (String × TaskState × String × String)) (state : TaskState)
    (message : String) : BilibiliTaskResultItem :=
  match results.lookup item.id with
  | some (resultState, libraryItemId, problem) =>
    { item with
      state := resultState, libraryItemId := libraryItemId
      message := if problem = "" then message else problem }
  | none =>
    { item with
      state := state, message := message
      libraryItemId := if state = .succeeded then item.libraryItemId else "" }

/-- The task as `commit_staged_download_terminal` leaves it. -/
def Task.withTerminalOutput (state : TaskState) (libraryItemId message : String)
    (results : List (String × TaskState × String × String)) (summary : TaskOutputSummary)
    (now : Timestamp) : Task :=
  let effectiveState := task.state.orCancelled state
  let effectiveMessage := if effectiveState = .cancelled && state != .cancelled
    then cancelledByRequestMessage else message
  { task.finished effectiveState effectiveMessage now with
    progress := 1
    libraryItemId := if effectiveState = .succeeded then libraryItemId else ""
    resultItems := task.resultItems.map fun item =>
      item.withTerminalResult results effectiveState effectiveMessage
    outputSummary := some summary }

/-- `commit_staged_download_terminal`, given the replacement record and its results. -/
def Registry.commitStagedDownloadTerminal (registry : Registry Output) (id : String)
    (terminalState : TaskState) (libraryItemId message : String)
    (replacement : Except Status (Output × List (String × TaskState × String × String)))
    (now : Timestamp) : Reply Output Task :=
  if !(terminalState == .succeeded || terminalState == .failed || terminalState == .cancelled) then
    (registry, .error ⟨.invalidArgument,
      "Download terminal publication requires succeeded, failed, or cancelled state."⟩)
  else match registry.tasksById id with
  | none => (registry, .error taskNotFound)
  | some task =>
    if task.kind ≠ .bilibiliDownload then
      (registry, .error (.failedPrecondition "Task is not a Bilibili download task."))
    else if task.state.isTerminal then
      (registry, .ok ((registry.visibleTasksById id).getD task))
    else if task.state = .cancelRequested && terminalState != .cancelled then
      (registry, .error ⟨.cancelled,
        "Task cancellation won before Bilibili output publication."⟩)
    else match replacement with
    | .error error => (registry, .error error)
    | .ok (output, results) =>
      let ended := task.withTerminalOutput terminalState libraryItemId message results
        (config.outputs.summary output) now
      let saved := (((registry.setOutput id output).setTask id ended).dequeue
        id).persistTasksAndPublish config input [ended] true
          (some (RegistryMutationCheckpoint.capture registry)) false
      savedReply saved isCommitted
        "Download terminal publication could not be persisted durably." ended

/-- The loop of `retire_expired_task_resources_except` and of the variant for one task:
the tasks whose outputs lose expired resources. -/
def Registry.retireExpired (outputs : TaskOutputs Output) (excluded : List String)
    (now : Timestamp) : Registry Output → List String → Registry Output × List Task
  | registry, [] => (registry, [])
  | registry, taskId :: rest =>
    match (registry.outputsByTaskId taskId).bind fun output =>
      outputs.retireExpiredResourcesExcept output now excluded with
    | none => registry.retireExpired outputs excluded now rest
    | some output =>
      let retired := registry.setOutput taskId output
      match registry.tasksById taskId with
      | none => retired.retireExpired outputs excluded now rest
      | some task =>
        let updated := { task with
          outputSummary := some (outputs.summary output), updatedAt := some now }
        let (changed, tasks) :=
          (retired.setTask taskId updated).retireExpired outputs excluded now rest
        (changed, updated :: tasks)

def Registry.retireExpiredTaskResourcesExcept (registry : Registry Output)
    (taskIds excluded : List String) (now : Timestamp) : Registry Output × Bool :=
  if taskIds.all fun taskId => ((registry.outputsByTaskId taskId).bind fun output =>
      config.outputs.retireExpiredResourcesExcept output now excluded).isNone then
    (registry, false)
  else
    let (changed, tasks) := registry.retireExpired config.outputs excluded now taskIds
    let (saved, outcome) := changed.persistTasksAndPublish config input tasks config.persistence
      (registry.checkpointIfDurable config) false
    (saved, outcome.isCommitted)

/-- A save of the present state: `persist_current_state_outcome`, and with a rollback
checkpoint the operations that change cleanup intents only. -/
def Registry.persistCurrentState (registry : Registry Output)
    (durabilityRequired requireDurableCommit : Bool) : Registry Output × PersistenceCommitOutcome :=
  registry.persistAndPublishPending config input durabilityRequired
    (if requireDurableCommit then registry.checkpointIfDurable config else none)
    requireDurableCommit

variable (registry : Registry Output)

def Registry.watchedTasks (taskIds watchedIds : List String) : List Task :=
  (taskIds.filterMap registry.visibleTasksById).filter fun task =>
    watchedIds.isEmpty || watchedIds.contains task.id

/-- `subscribe`, once the ids are trimmed and found nonempty. -/
def Registry.subscribe (taskIds watchedIds : List String) : Registry Output :=
  { registry with
    watchers := registry.watchers ++
      [{ watchedIds := watchedIds
         snapshots := registry.watchedTasks taskIds watchedIds
         received := [], buffer := [], lagged := false, registered := true }] }

inductive Received where
  | event (task : Task)
  | lagged
  | closed
  | waiting

def TaskWatcher.recv (watcher : TaskWatcher) : Received × TaskWatcher :=
  match watcher.buffer with
  | task :: rest =>
    (.event task, { watcher with received := watcher.received ++ [task], buffer := rest })
  | [] =>
    if watcher.registered then (.waiting, watcher)
    else if watcher.lagged then (.lagged, watcher)
    else (.closed, watcher)

def Registry.modifyWatcher (index : Nat) (change : TaskWatcher → TaskWatcher) : Registry Output :=
  { registry with watchers := registry.watchers.modify index change }

end

end NetPlayer.Tasks
