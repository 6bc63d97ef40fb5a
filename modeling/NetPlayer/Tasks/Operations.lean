import NetPlayer.Tasks.Registry

/-!
# Operations of the task registry

The operations that change tasks, each with the checks of its source function. An
operation that finds the store unavailable may first retry the pending save; the
input of that save is a separate argument. Ids arrive trimmed. A result whose
construction lies outside the registry (a fresh id, the ids that the active-task
index holds for a request, an output record that a staged commit has prepared) is an
argument.
-/

namespace NetPlayer.Tasks

open Function (update)
open PersistenceCommitOutcome

inductive StatusCode where
  | invalidArgument | notFound | failedPrecondition | unavailable | cancelled | internal
  deriving DecidableEq

structure Status where
  code : StatusCode
  message : String
  deriving DecidableEq

abbrev Reply (Output α : Type) : Type := Registry Output × Except Status α

def Status.failedPrecondition (message : String) : Status := ⟨.failedPrecondition, message⟩

def Status.unavailable (message : String) : Status := ⟨.unavailable, message⟩

def taskNotFound : Status := ⟨.notFound, "Task not found."⟩

def notPlaybackTask : Status :=
  .failedPrecondition "Task is not a Bilibili progressive playback task."

def queuedMessage : String := "Queued for the BBDown adapter."
def runningMessage : String := "Running Bilibili download adapter."
def playbackPreparingMessage : String := "Preparing Bilibili playback plan."
def playbackPlannedMessage : String := "Bilibili playback plan is ready."
def playbackPlayableMessage : String := "Bilibili playback session is playable."
def playbackCompletedMessage : String :=
  "Bilibili playback session is cached for offline playback."
def playbackCacheDeletedMessage : String := "Bilibili playback cache was deleted."
def libraryItemDeletedMessage : String := "Cached media was deleted from the library."
def cancelRequestedMessage : String := "Cancellation requested."
def cancelledByRequestMessage : String := "Cancelled by request."
def cancelledMessage : String := "Cancelled before the download adapter started."

section

variable {Output : Type} (registry : Registry Output) (id : String)

def Registry.setTask (task : Task) : Registry Output :=
  { registry with tasksById := update registry.tasksById id (some task) }

def Registry.setOutput (output : Output) : Registry Output :=
  { registry with outputsByTaskId := update registry.outputsByTaskId id (some output) }

/-- The part of `clear_active_task_locked` that the task states depend on. -/
def Registry.dequeue : Registry Output :=
  { registry with queuedTaskIds := registry.queuedTaskIds.filter fun queued => queued != id }

variable (config : Config Output)

def Registry.checkpointIfDurable (registry : Registry Output) :
    Option (RegistryMutationCheckpoint Output) :=
  if config.persistence then some (RegistryMutationCheckpoint.capture registry) else none

def Registry.afterRecovery {α : Type} (config : Config Output) (recovery : SaveInput)
    (registry : Registry Output) (accepts : PersistenceCommitOutcome → Bool)
    (refusal : String) (operation : Registry Output → Reply Output α) : Reply Output α :=
  if config.persistence && !registry.available then
    let (recovered, outcome) := registry.persistAndPublishPending config recovery true none false
    if accepts outcome then operation recovered else (recovered, .error (.unavailable refusal))
  else operation registry

def savedReply {α : Type} (saved : Registry Output × PersistenceCommitOutcome)
    (accepts : PersistenceCommitOutcome → Bool) (refusal : String) (value : α) : Reply Output α :=
  (saved.1, if accepts saved.2 then .ok value else .error (.unavailable refusal))

def commitReply {α : Type} (config : Config Output)
    (saved : Registry Output × PersistenceCommitOutcome)
    (accepts : PersistenceCommitOutcome → Bool) (refusal : String) (value : α) : Reply Output α :=
  savedReply saved (fun outcome => !config.persistence || accepts outcome) refusal value

def newTask (kind : TaskKind) (state : TaskState) (source title message : String)
    (now : Timestamp) (resultItems : List BilibiliTaskResultItem) : Task where
  id := id
  kind := kind
  state := state
  source := source
  title := title
  progress := 0
  downloadedBytes := 0
  totalBytes := 0
  message := message
  libraryItemId := ""
  createdAt := some now
  updatedAt := some now
  finishedAt := none
  playbackSource := none
  playbackSession := none
  resultItems := resultItems
  outputSummary := none
  hlsCacheFillStatus := none

def initialBilibiliResultItems (taskId : String) (candidates : List String) (state : TaskState)
    (message : String) : List BilibiliTaskResultItem :=
  candidates.mapIdx fun offset title =>
    { id := if offset = 0 then taskId else taskId ++ "-result-" ++ toString (offset + 1)
      title := title, state := state, message := message, libraryItemId := ""
      playbackSource := none, playbackSession := none, hlsCacheFillStatus := none }

variable (task : Task)

def Task.withSummary (summary : TaskOutputSummary) : Task :=
  { task with outputSummary := some summary }

def Registry.insertTask (outputs : TaskOutputs Output) (registry : Registry Output)
    (task : Task) (candidates : List String) : Registry Output :=
  let output := outputs.fromLegacyTask task
  let inserted :=
    (registry.setOutput task.id output).setTask task.id (task.withSummary (outputs.summary output))
  { inserted with
    hasCandidates := update registry.hasCandidates task.id (!candidates.isEmpty)
    queuedTaskIds := if task.kind = .bilibiliDownload then registry.queuedTaskIds ++ [task.id]
      else registry.queuedTaskIds }

variable (input : SaveInput)

def Registry.createTask (registry : Registry Output) (activeTaskId : Option String)
    (task : Task) (candidates : List String) (refusal : String) : Reply Output Task :=
  match (activeTaskId.bind registry.tasksById).filter fun active => active.state.isActive with
  | some active => (registry, .ok active)
  | none =>
    let created := task.withSummary (config.outputs.summary (config.outputs.fromLegacyTask task))
    let saved := (registry.insertTask config.outputs task candidates).persistTasksAndPublish
      config input [created] config.persistence (registry.checkpointIfDurable config) false
    savedReply saved isCommitted refusal created

def Registry.createBilibiliTask (registry : Registry Output) (activeTaskId : Option String)
    (uuid source : String) : Reply Output Task :=
  if source = "" then
    (registry, .error ⟨.invalidArgument, "Bilibili URL or id is required."⟩)
  else
    registry.createTask config input activeTaskId
      (newTask ("bilibili-" ++ uuid) .bilibiliDownload .queued source "" queuedMessage input.now [])
      [] "Task creation could not be persisted durably."

/-- `create_bilibili_download_task_v2`. The availability of the store is read before
the lock is taken. -/
def Registry.createBilibiliDownloadTaskV2 (registry : Registry Output) (availableBefore : Bool)
    (activeTaskId : Option String) (uuid source title : String) (candidates : List String) :
    Reply Output Task :=
  if !(config.persistence && availableBefore) then
    (registry, .error (.failedPrecondition
      "Durable task state is unavailable for Bilibili task v2."))
  else if candidates.isEmpty then
    (registry, .error ⟨.invalidArgument,
      "Bilibili resolution selection must contain at least one candidate."⟩)
  else if source = "" then
    (registry, .error ⟨.invalidArgument, "Bilibili URL or id is required."⟩)
  else
    let id := "bilibili-" ++ uuid
    registry.createTask config input activeTaskId
      (newTask id .bilibiliDownload .queued source title queuedMessage input.now
        (initialBilibiliResultItems id candidates .queued queuedMessage))
      candidates "Bilibili task v2 creation could not be committed."

def Registry.createBilibiliPlaybackTaskRecord (registry : Registry Output)
    (activeTaskId : Option String) (uuid source title : String) (candidates : List String) :
    Reply Output Task :=
  if source = "" then
    (registry, .error ⟨.invalidArgument, "Bilibili URL or id is required."⟩)
  else
    let id := "bilibili-playback-" ++ uuid
    registry.createTask config input activeTaskId
      (newTask id .bilibiliProgressivePlayback .preparing source title playbackPreparingMessage
        input.now (initialBilibiliResultItems id candidates .preparing
          "Queued for Bilibili playback planning."))
      candidates "Playback task creation could not be persisted durably."

/-- The queue scan of `try_claim_next_bilibili_task`: at most `count` ids are taken
from the front, one that is held back goes to the end, one that is not queued is
dropped. -/
def claimFrom (tasksById : String → Option Task) (heldBack : String → Bool) :
    Nat → List String → Option (String × Task) × List String
  | 0, queue => (none, queue)
  | _ + 1, [] => (none, [])
  | count + 1, taskId :: queue =>
    if heldBack taskId then claimFrom tasksById heldBack count (queue ++ [taskId])
    else match (tasksById taskId).filter fun task => task.state == .queued with
      | some task => (some (taskId, task), queue)
      | none => claimFrom tasksById heldBack count queue

def Registry.tryClaimNextBilibiliTask (registry : Registry Output)
    (pendingOutputCleanup : String → Bool) (now : Timestamp) : Reply Output (Option Task) :=
  let heldBack := fun taskId => registry.hasCandidates taskId &&
    (config.persistence && !registry.available || pendingOutputCleanup taskId)
  match claimFrom registry.tasksById heldBack registry.queuedTaskIds.length
    registry.queuedTaskIds with
  | (none, queue) => ({ registry with queuedTaskIds := queue }, .ok none)
  | (some (taskId, task), queue) =>
    let claimed := { task with
      state := .running, message := runningMessage, updatedAt := some now }
    let (saved, _) := (({ registry with queuedTaskIds := queue } : Registry Output).setTask
      taskId claimed).persistTasksAndPublish config input [claimed] false none false
    (saved, .ok (some claimed))

structure BilibiliTaskProgress where
  progress : Option Rat
  downloadedBytes : Option Int
  totalBytes : Option Int
  message : Option String

def clampUnit (value : Rat) : Rat := max 0 (min 1 value)

def Task.withProgress (progress : BilibiliTaskProgress) (now : Timestamp) : Task :=
  { task with
    progress := (progress.progress.map clampUnit).getD task.progress
    downloadedBytes := (progress.downloadedBytes.map (max 0)).getD task.downloadedBytes
    totalBytes := (progress.totalBytes.map (max 0)).getD task.totalBytes
    message := progress.message.getD task.message
    updatedAt := some now }

def Registry.updateProgress (admits : Task → Bool) (progress : BilibiliTaskProgress)
    (now : Timestamp) : Reply Output Bool :=
  match (registry.tasksById id).filter admits with
  | none => (registry, .ok false)
  | some task =>
    let updated := task.withProgress progress now
    ((registry.setTask id updated).publishVolatileLocked updated, .ok true)

def Registry.updateTaskProgress (progress : BilibiliTaskProgress) (now : Timestamp) :
    Reply Output Bool :=
  registry.updateProgress id
    (fun task => task.state == .running || task.state == .cancelRequested) progress now

def Registry.updatePlaybackCacheProgress (progress : BilibiliTaskProgress) (now : Timestamp) :
    Reply Output Bool :=
  registry.updateProgress id
    (fun task => task.kind == .bilibiliProgressivePlayback && task.state == .playable)
    progress now

def Task.finished (state : TaskState) (message : String) (now : Timestamp) : Task :=
  { task with state := state, message := message, updatedAt := some now, finishedAt := some now }

def Task.withoutPlayback : Task :=
  { task with playbackSource := none, playbackSession := none }

def TaskState.orCancelled (current requested : TaskState) : TaskState :=
  if current = .cancelRequested then .cancelled else requested

def Task.completedWith (state : TaskState) (message : String) (libraryItemId : Option String)
    (progress : Option Rat) (now : Timestamp) : Task :=
  let effectiveState := task.state.orCancelled state
  let effectiveMessage :=
    if task.state = .cancelRequested && state != .cancelled then cancelledByRequestMessage
    else message
  let finished := task.finished effectiveState effectiveMessage now
  if effectiveState = .succeeded then
    { finished with
      libraryItemId := libraryItemId.getD task.libraryItemId
      progress := (progress.map clampUnit).getD task.progress }
  else if effectiveState = .failed || effectiveState = .cancelled then
    let cleared := if task.kind = .bilibiliProgressivePlayback then finished.withoutPlayback
      else finished
    { cleared with
      libraryItemId := ""
      resultItems := clearResultPlaybackMetadata task.resultItems effectiveState effectiveMessage }
  else finished

/-- `complete_task`, with which `complete_task_succeeded`, `complete_task_failed` and
`complete_task_cancelled` end a task. -/
def Registry.completeTask (recovery input : SaveInput) (registry : Registry Output)
    (id : String) (state : TaskState) (message : String) (libraryItemId : Option String)
    (progress : Option Rat) (now : Timestamp) : Reply Output Task :=
  registry.afterRecovery config recovery isCommitted
    "Pending task state could not be persisted before task completion." fun registry =>
    match registry.tasksById id with
    | none => (registry, .error taskNotFound)
    | some task =>
      if task.state.isTerminal then
        (registry, .ok ((registry.visibleTasksById id).getD task))
      else
        let completed := task.completedWith state message libraryItemId progress now
        let saved := ((registry.setTask id completed).dequeue id).persistTasksAndPublish config
          input [completed] config.persistence none false
        commitReply config saved isCommitted
          "Task completion could not be persisted durably." completed

def Registry.persistOrRestoreRecord (registry changed : Registry Output) (id : String)
    (task updated : Task) (refusal : String) : Reply Output Task :=
  let checkpoint := TaskRecordMutationCheckpoint.capture registry id task
  let (saved, outcome) := changed.persistTasksAndPublish config input [updated] false none false
  if outcome.isPermanentFailure then
    (checkpoint.restore saved, .error (.failedPrecondition refusal))
  else
    (if updated.state.isTerminal then saved.dequeue id else saved, .ok updated)

/-- The common part of the operations by which a planner publishes a playback task:
`publish` gives the task to record, unless its cancellation was requested. -/
def Registry.publishPlayback (registry : Registry Output) (id : String)
    (publish cancel : Task → Task) : Reply Output Task :=
  match registry.tasksById id with
  | none => (registry, .error taskNotFound)
  | some task =>
    if task.kind ≠ .bilibiliProgressivePlayback then (registry, .error notPlaybackTask)
    else if task.state.isTerminal then (registry, .ok task)
    else
      let updated := if task.state = .cancelRequested then cancel task else publish task
      registry.persistOrRestoreRecord config input (registry.setTask id updated) id task updated
        "Playback publication cannot be persisted safely."

def Registry.completePlaybackPlanned (registry : Registry Output) (id title : String)
    (playbackSession : BilibiliPlaybackSession) (now : Timestamp) : Reply Output Task :=
  registry.publishPlayback config input id
    (fun task => { task with
      state := .planned, title := title, message := playbackPlannedMessage, progress := 0
      playbackSource := none, playbackSession := some playbackSession, updatedAt := some now })
    (fun task => task.finished .cancelled cancelledByRequestMessage now)

def Registry.completePlaybackPlayable (registry : Registry Output) (id title : String)
    (playbackSource : PlaybackSource) (playbackSession : BilibiliPlaybackSession) (now : Timestamp)
    : Reply Output Task :=
  registry.publishPlayback config input id
    (fun task => { task with
      state := .playable, title := title, message := playbackPlayableMessage, progress := 0
      playbackSource := some playbackSource, playbackSession := some playbackSession
      updatedAt := some now })
    (fun task => task.finished .cancelled cancelledByRequestMessage now)

def Task.cancelledWithoutMedia (now : Timestamp) : Task :=
  { (task.finished .cancelled cancelledByRequestMessage now).withoutPlayback with
    resultItems :=
      clearResultPlaybackMetadata task.resultItems .cancelled cancelledByRequestMessage }

def Registry.completePlaybackResultsPlayable (registry : Registry Output)
    (id title message : String) (playbackSource : PlaybackSource)
    (playbackSession : BilibiliPlaybackSession) (resultItems : List BilibiliTaskResultItem)
    (now : Timestamp) : Reply Output Task :=
  registry.publishPlayback config input id
    (fun task => { task with
      state := .playable, title := title, message := message, progress := 0
      playbackSource := some playbackSource, playbackSession := some playbackSession
      resultItems := resultItems, updatedAt := some now })
    (fun task => task.cancelledWithoutMedia now)

def Registry.updatePlaybackResults (registry : Registry Output) (id : String)
    (title : Option String) (message : String) (progress : Option Rat)
    (resultItems : List BilibiliTaskResultItem) (now : Timestamp) : Reply Output Task :=
  match registry.tasksById id with
  | none => (registry, .error taskNotFound)
  | some task =>
    if task.kind ≠ .bilibiliProgressivePlayback then (registry, .error notPlaybackTask)
    else if task.state.isTerminal then (registry, .ok task)
    else
      let updated := { task with
        title := title.getD task.title
        message := message
        progress := (progress.map fun value => max 0 (min (99 / 100) value)).getD task.progress
        resultItems := resultItems
        updatedAt := some now }
      registry.persistOrRestoreRecord config input (registry.setTask id updated) id task updated
        "Playback result update cannot be persisted safely."

def PlaybackSource.cached (source : PlaybackSource) (libraryItemId : String)
    (session : Option BilibiliPlaybackSession) : PlaybackSource :=
  { source with
    itemId := libraryItemId
    variantId := session.elim source.variantId (·.selectedVariantId)
    expiresAt := none }

def completeSessionItems (items : List BilibiliTaskResultItem)
    (sessionId libraryItemId : String) (session : Option BilibiliPlaybackSession) :
    List BilibiliTaskResultItem :=
  items.map fun item =>
    if item.usesHlsSession sessionId then
      { item with
        state := .completed, message := playbackCompletedMessage, libraryItemId := libraryItemId
        playbackSource := item.playbackSource.map fun source => source.cached libraryItemId session
        playbackSession := session.or item.playbackSession }
    else item

/-- The task as `complete_playback_hls_session_cached_inner` leaves it. -/
def Task.withCachedSession (sessionId libraryItemId : String)
    (session : Option BilibiliPlaybackSession) (now : Timestamp) : Task :=
  let items := completeSessionItems task.resultItems sessionId libraryItemId session
  if task.state = .cancelRequested then
    { task.cancelledWithoutMedia now with libraryItemId := "" }
  else if task.usesHlsSessionAsPrimary sessionId then
    { task.finished .completed playbackCompletedMessage now with
      libraryItemId := libraryItemId
      playbackSource := task.playbackSource.map fun source => source.cached libraryItemId session
      playbackSession := session.or task.playbackSession
      resultItems := items
      progress := 1 }
  else
    { task with
      resultItems := items
      progress := resultItemsProgress items
      message := if task.state = .completed
        then "Completed offline; selected Bilibili playback results are cached."
        else "Playable online; selected Bilibili playback results are cached offline."
      updatedAt := some now }

def Registry.completePlaybackHlsSessionCachedInner (recovery input : SaveInput)
    (registry : Registry Output) (taskId sessionId libraryItemId : String)
    (session : Option BilibiliPlaybackSession) (now : Timestamp) : Reply Output Task :=
  registry.afterRecovery config recovery isDurable
    "Pending task state could not be persisted before HLS cache completion." fun registry =>
    match registry.tasksById taskId with
    | none => (registry, .error taskNotFound)
    | some task =>
      if task.kind ≠ .bilibiliProgressivePlayback then (registry, .error notPlaybackTask)
      else if task.state.isTerminal && !task.completedHasPlayableResultSession sessionId then
        (registry, .ok task)
      else if task.playbackSource.isNone || task.playbackSession.isNone then
        (registry, .error (.failedPrecondition
          "Task does not have a playable Bilibili playback session."))
      else if !task.usesHlsSessionAsPrimary sessionId &&
          !task.hasPlayableOrCompletedResultSession sessionId then
        (registry, .error (.failedPrecondition
          "HLS session is not a playable task result session."))
      else
        let updated := task.withCachedSession sessionId libraryItemId session now
        let changed := registry.setTask taskId updated
        let cleared := if updated.state.isTerminal then changed.dequeue taskId else changed
        let saved := cleared.persistTasksAndPublish config input [updated] config.persistence
          none false
        commitReply config saved isDurable
          "HLS cache completion could not be persisted durably." updated

end

end NetPlayer.Tasks
