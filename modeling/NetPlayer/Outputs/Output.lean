import NetPlayer.Outputs.Validation

/-!
# Output records

The output record of a task and the operations that change it. An operation that makes a new
snapshot id takes the random identifier it is made from.
-/

namespace NetPlayer.Outputs

open Tasks (TaskState)
open Hls (trim)

structure TaskOutputRecord where
  revision : UInt64
  snapshotId : String
  primaryResultId : String
  results : List TaskResult
  resources : List TaskResourceRecord
  legacyManaged : Bool
  deriving DecidableEq

def hexDigit (value : Nat) : Char :=
  (['0', '1', '2', '3', '4', '5', '6', '7', '8', '9', 'a', 'b', 'c', 'd', 'e', 'f'][value]?).getD
    '0'

def simpleUuid (uuid : BitVec 128) : String :=
  String.ofList ((List.range 32).map fun i => hexDigit (uuid.toNat / 16 ^ (31 - i) % 16))

def newSnapshotId (uuid : BitVec 128) : String :=
  "task-output-" ++ simpleUuid uuid

def maxRevision : UInt64 := UInt64.ofNat (2 ^ 64 - 1)

def atLeastOne (revision : UInt64) : UInt64 :=
  if revision = 0 then 1 else revision

/-- `revision.saturating_add(1).max(1)`. -/
def nextRevision (revision : UInt64) : UInt64 :=
  atLeastOne (if revision = maxRevision then revision else revision + 1)

variable (record : TaskOutputRecord)

def TaskOutputRecord.renewed (uuid : BitVec 128) : TaskOutputRecord :=
  { record with
    revision := nextRevision record.revision
    snapshotId := newSnapshotId uuid }

def TaskOutputRecord.withResults (results : List TaskResult) : TaskOutputRecord :=
  { record with results := results }

def isSuccessful (result : TaskResult) : Bool :=
  taskStateOf result.state = .succeeded || taskStateOf result.state = .completed

variable (results : List TaskResult)

def inferredPrimaryResultId : String :=
  (((results.find? isSuccessful).or results.head?).map TaskResult.id).getD ""

def hasResult (id : String) : Bool :=
  results.any fun result => result.id = id

def normalizedProgress (value : Option Rat) : Option Rat :=
  some (value.elim 0 fun value => min (max value 0) 1)

def terminalProgress (state : TaskState) : Option Rat :=
  if state = .succeeded || state = .completed then some 1 else some 0

def legacyProblem (state : TaskState) : Option TaskProblem :=
  match state with
  | .failed => some
      { category := categoryUpstream
        code := "bilibili.legacy_failure"
        message := "Bilibili operation failed."
        retryable := true }
  | .cancelled => some
      { category := categoryCancelled
        code := "task.cancelled"
        message := "Task was cancelled."
        retryable := false }
  | _ => none

variable (task : LegacyTask)

def legacySubject : Option TaskResultSubject :=
  if task.playbackSession.isSome || task.hlsCacheFillStatus.isSome then
    let id := task.playbackSession.map fun session =>
      if session.contentId = "" then session.id else session.contentId
    some
      { provider := "bilibili"
        kind := if task.playbackSession.isSome then "playback_session" else "task"
        id := (id.filter fun id => trim id != "").getD task.id
        index := 0 }
  else none

def legacySingleResult : TaskResult :=
  { id := task.id
    state := task.state
    title := task.title
    subtitle := ""
    progress := some
      { fraction := normalizedProgress task.progress
        completedBytes := task.downloadedBytes
        totalBytes := task.totalBytes
        totalBytesKnown := task.totalBytes > 0
        phase := ""
        message := "" }
    problem := legacyProblem (taskStateOf task.state)
    libraryItemId := task.libraryItemId
    playbackSource := task.playbackSource
    artifacts := []
    createdAt := task.createdAt
    updatedAt := task.updatedAt
    subject := legacySubject task
    providerDetails :=
      if task.playbackSession.isSome || task.hlsCacheFillStatus.isSome then
        some
          { bilibili := some
              { identity := none
                playbackSession := task.playbackSession
                hlsCacheFillStatus := task.hlsCacheFillStatus } }
      else none }

def legacyItemSubject (item : BilibiliTaskResultItem) : Option TaskResultSubject :=
  if trim item.sourceKind != "" && item.sourceKind == trim item.sourceKind &&
      trim item.contentId != "" && item.contentId == trim item.contentId then
    some
      { provider := "bilibili"
        kind := item.sourceKind
        id := item.contentId
        index := item.index }
  else none

def legacyItemResult (item : BilibiliTaskResultItem) : TaskResult :=
  { id := item.id
    state := item.state
    title := item.title
    subtitle := item.subtitle
    progress := some
      { fraction := terminalProgress (taskStateOf item.state)
        completedBytes := 0
        totalBytes := 0
        totalBytesKnown := false
        phase := ""
        message := "" }
    problem := legacyProblem (taskStateOf item.state)
    libraryItemId := item.libraryItemId
    playbackSource := item.playbackSource
    artifacts := []
    createdAt := task.createdAt
    updatedAt := task.updatedAt
    subject := legacyItemSubject item
    providerDetails :=
      if (legacyItemSubject item).isSome && (item.identity.isSome ||
          item.playbackSession.isSome || item.hlsCacheFillStatus.isSome) then
        some
          { bilibili := some
              { identity := item.identity
                playbackSession := item.playbackSession
                hlsCacheFillStatus := item.hlsCacheFillStatus } }
      else none }

def legacyTaskResults : List TaskResult :=
  if task.resultItems = [] then [legacySingleResult task]
  else task.resultItems.map (legacyItemResult task)

def legacyPrimaryResultId (results : List TaskResult) : String :=
  let primarySessionId :=
    (task.playbackSession.map BilibiliPlaybackSession.id).filter fun id => id != ""
  let primaryItem := primarySessionId.bind fun primary =>
    task.resultItems.find? fun item =>
      item.id == primary || item.playbackSession.any fun session => session.id == primary
  match primaryItem with
  | some item => item.id
  | none =>
    let inLibrary :=
      if task.libraryItemId = "" then none
      else results.find? fun result => result.libraryItemId = task.libraryItemId
    match inLibrary with
    | some result => result.id
    | none => inferredPrimaryResultId results

def TaskOutputRecord.fromLegacyTask (uuid : BitVec 128) : TaskOutputRecord :=
  let results := legacyTaskResults task
  { revision := 1
    snapshotId := newSnapshotId uuid
    primaryResultId := legacyPrimaryResultId task results
    results := results
    resources := []
    legacyManaged := true }

def TaskOutputRecord.reconcileLegacyTask (task : LegacyTask) (uuid : BitVec 128) :
    Except String TaskOutputRecord :=
  if !record.legacyManaged then .ok record
  else do
    let results := legacyTaskResults task
    validateCollectionSizes results []
    let results ← validateAndBindResources results []
    validateCollectionSizes results []
    validateResultIds results
    let primaryResultId := legacyPrimaryResultId task results
    if record.results = results ∧ record.primaryResultId = primaryResultId then .ok record
    else .ok ({ record with
      results := results
      primaryResultId := primaryResultId }.renewed uuid)

variable (previous : Option TaskOutputRecord)

def validateResourceRepresentations (resources : List TaskResourceRecord) : Except String Unit :=
  match previous with
  | none => .ok ()
  | some previous =>
    rejectFirst resources
      (fun record => previous.resources.any fun existing =>
        existing.resource.id = record.resource.id && existing ≠ record)
      fun record => "task resource id cannot be reused for a different representation: " ++
        record.resource.id

def replacedPrimaryResultId (results : List TaskResult) : String :=
  let hasSuccessfulResult := results.any isSuccessful
  ((previous.map TaskOutputRecord.primaryResultId).filter fun primary =>
    results.any fun result =>
      result.id = primary && (!hasSuccessfulResult || isSuccessful result)).getD
    (inferredPrimaryResultId results)

def chosenPrimaryResultId (results : List TaskResult) :
    Option String → Except String String
  | some preferred =>
    if hasResult results preferred then .ok preferred
    else .error "preferred task output primary result is missing"
  | none => .ok (replacedPrimaryResultId previous results)

def TaskOutputRecord.replaceWithPrimaryResult (results : List TaskResult)
    (resources : List TaskResourceRecord) (preferredPrimaryResultId : Option String)
    (uuid : BitVec 128) :
    Except String TaskOutputRecord := do
  validateCollectionSizes results resources
  let results ← validateAndBindResources results resources
  validateCollectionSizes results resources
  validateResultIds results
  validateResourceRepresentations previous resources
  let primaryResultId ← chosenPrimaryResultId previous results preferredPrimaryResultId
  let replaced : TaskOutputRecord :=
    { revision := 1
      snapshotId := newSnapshotId uuid
      primaryResultId := primaryResultId
      results := results
      resources := resources
      legacyManaged := false }
  match previous with
  | none => .ok replaced
  | some previous =>
    if previous.results = results ∧ previous.resources = resources ∧
        previous.primaryResultId = primaryResultId ∧ previous.legacyManaged = false then
      .ok { replaced with
        revision := atLeastOne previous.revision
        snapshotId := previous.snapshotId }
    else .ok { replaced with revision := nextRevision previous.revision }

def TaskOutputRecord.replace (results : List TaskResult) (resources : List TaskResourceRecord)
    (uuid : BitVec 128) : Except String TaskOutputRecord :=
  TaskOutputRecord.replaceWithPrimaryResult previous results resources none uuid

def restoredSnapshotId (snapshotId : String) (uuid : BitVec 128) : Except String String :=
  if trim snapshotId = "" then .ok (newSnapshotId uuid)
  else do
    validateSnapshotId snapshotId
    .ok snapshotId

def restoredPrimaryResultId (primaryResultId : String) : Except String String :=
  if primaryResultId = "" then .ok (inferredPrimaryResultId results)
  else if hasResult results primaryResultId then .ok primaryResultId
  else .error "task output primary result id does not exist in results"

def TaskOutputRecord.restored (revision : UInt64) (snapshotId primaryResultId : String)
    (results : List TaskResult) (resources : List TaskResourceRecord) (legacyManaged : Bool)
    (uuid : BitVec 128) : Except String TaskOutputRecord := do
  validateCollectionSizes results resources
  validateResultIds results
  let results ← validateAndBindResources results resources
  validateCollectionSizes results resources
  let snapshotId ← restoredSnapshotId snapshotId uuid
  let primaryResultId ← restoredPrimaryResultId results primaryResultId
  .ok
    { revision := atLeastOne revision
      snapshotId := snapshotId
      primaryResultId := primaryResultId
      results := results
      resources := resources
      legacyManaged := legacyManaged }

/-- A result with the status of its cache fill: `none` when it has no such details or already
has the status. -/
def TaskResult.withFillStatus (result : TaskResult) (status : HlsCacheFillStatus) :
    Option TaskResult :=
  match result.providerDetails.bind TaskResultProviderDetails.bilibili with
  | none => none
  | some details =>
    if details.hlsCacheFillStatus = some status then none
    else some
      { result with
        providerDetails := some
          { bilibili := some { details with hlsCacheFillStatus := some status } } }

def resultsWithFillStatus (resultId : String) (status : HlsCacheFillStatus) :
    List TaskResult → Option (List TaskResult)
  | [] => none
  | result :: rest =>
    if result.id = resultId then
      (result.withFillStatus status).map fun updated => updated :: rest
    else (resultsWithFillStatus resultId status rest).map fun others => result :: others

def TaskOutputRecord.updateBilibiliCacheFillStatus (resultId : String)
    (status : HlsCacheFillStatus) (uuid : BitVec 128) : TaskOutputRecord :=
  match resultsWithFillStatus resultId status record.results with
  | none => record
  | some results => (record.withResults results).renewed uuid

def TaskOutputRecord.updateBilibiliCacheFillStatusForTask (task : LegacyTask)
    (resultId : String) (status : HlsCacheFillStatus) (uuid : BitVec 128) :
    Except String TaskOutputRecord :=
  if record.legacyManaged then record.reconcileLegacyTask task uuid
  else .ok (record.updateBilibiliCacheFillStatus resultId status uuid)

def timestampAtOrBefore (left right : Timestamp) : Bool :=
  left.seconds < right.seconds || (left.seconds == right.seconds && left.nanos ≤ right.nanos)

def TaskResourceRecord.isExpired (now : Timestamp) (excluded : List String)
    (record : TaskResourceRecord) : Bool :=
  !excluded.contains record.resource.id &&
    record.resource.expiresAt.any fun expiresAt => timestampAtOrBefore expiresAt now

def TaskOutputRecord.expiredIds (now : Timestamp) (excluded : List String) : List String :=
  (record.resources.filter (TaskResourceRecord.isExpired now excluded)).map fun record =>
    record.resource.id

def resourceExpiredProblem : TaskProblem :=
  { category := categoryNotFound
    code := "cache.resource_expired"
    message := "Task resource expired."
    retryable := false }

def TaskArtifact.isExpired (expiredIds : List String) (artifact : TaskArtifact) : Bool :=
  artifact.resource.any fun resource => expiredIds.contains resource.id

def TaskArtifact.retire (expiredIds : List String) (artifact : TaskArtifact) : TaskArtifact :=
  if !artifact.isExpired expiredIds then artifact
  else if TaskArtifactState.of artifact.state = .available then
    { artifact with
      resource := none
      state := artifactUnavailable
      problem := some resourceExpiredProblem }
  else { artifact with resource := none }

def TaskResult.retire (expiredIds : List String) (result : TaskResult) : TaskResult :=
  { result with artifacts := result.artifacts.map (TaskArtifact.retire expiredIds) }

def TaskOutputRecord.retireExpiredResourcesExcept (now : Timestamp) (excluded : List String)
    (uuid : BitVec 128) : TaskOutputRecord :=
  let expiredIds := record.expiredIds now excluded
  if expiredIds = [] then record
  else
    { record with
      resources := record.resources.filter fun record =>
        !expiredIds.contains record.resource.id
      results := record.results.map (TaskResult.retire expiredIds) }.renewed uuid

/-- The end of a deletion: resources that no artifact refers to are dropped, and the output is
validated. -/
def TaskOutputRecord.finishDeletion (updated : TaskOutputRecord) (primaryAffected : Bool)
    (uuid : BitVec 128) : Except String TaskOutputRecord := do
  let referenced := referencedIds updated.results
  let resources := updated.resources.filter fun record => referenced.contains record.resource.id
  let primaryResultId :=
    if primaryAffected || !hasResult updated.results updated.primaryResultId then
      inferredPrimaryResultId updated.results
    else updated.primaryResultId
  validateCollectionSizes updated.results resources
  let results ← validateAndBindResources updated.results resources
  validateCollectionSizes results resources
  validateResultIds results
  .ok ({ updated with
    resources := resources
    primaryResultId := primaryResultId
    results := results }.renewed uuid)

def TaskArtifact.deleted (artifact : TaskArtifact) (code message : String) : TaskArtifact :=
  { artifact with
    state := artifactDeleted
    resource := none
    libraryItemId := ""
    problem := some
      { category := categoryNotFound
        code := code
        message := message
        retryable := false } }

def TaskResult.matchesCache (sessionId libraryItemId : String) (result : TaskResult) : Bool :=
  (libraryItemId != "" && result.libraryItemId == libraryItemId) || result.id == sessionId ||
    result.playbackSource.any fun source => source.itemId == sessionId

def TaskResult.playbackDeleted (message : String) (result : TaskResult) : TaskResult :=
  { result with
    state := taskStateFailed
    libraryItemId := ""
    playbackSource := none
    problem := some
      { category := categoryNotFound
        code := "cache.playback_deleted"
        message := message
        retryable := false }
    artifacts := result.artifacts.map fun artifact =>
      if TaskArtifactKind.of artifact.kind ≠ .media ∨
          TaskArtifactState.of artifact.state ≠ .available then artifact
      else artifact.deleted "cache.resource_deleted" message }

def TaskOutputRecord.markPlaybackCacheDeleted (sessionId libraryItemId message : String)
    (uuid : BitVec 128) : Except String TaskOutputRecord :=
  if record.legacyManaged then .ok record
  else if record.results.any (TaskResult.matchesCache sessionId libraryItemId) then
    (record.withResults (record.results.map fun result =>
      if result.matchesCache sessionId libraryItemId then result.playbackDeleted message
      else result)).finishDeletion false uuid
  else .ok record

def TaskResult.refersToItem (libraryItemId : String) (result : TaskResult) : Bool :=
  result.libraryItemId == libraryItemId ||
    result.playbackSource.any fun source => source.itemId == libraryItemId

def TaskResult.matchesItem (libraryItemId : String) (result : TaskResult) : Bool :=
  result.refersToItem libraryItemId ||
    result.artifacts.any fun artifact => artifact.libraryItemId == libraryItemId

def TaskResult.itemDeleted (libraryItemId message : String) (result : TaskResult) : TaskResult :=
  { result with
    state := taskStateFailed
    libraryItemId := if result.libraryItemId = libraryItemId then "" else result.libraryItemId
    playbackSource := result.playbackSource.filter fun source => source.itemId != libraryItemId
    problem := some
      { category := categoryNotFound
        code := "cache.library_item_deleted"
        message := message
        retryable := false }
    progress := result.progress.map fun progress =>
      { progress with
        phase := "deleted"
        message := message }
    artifacts := result.artifacts.map fun artifact =>
      if artifact.libraryItemId ≠ libraryItemId then artifact
      else artifact.deleted "cache.library_item_deleted" message }

def TaskOutputRecord.markLibraryItemDeleted (libraryItemId message : String) (uuid : BitVec 128)
    : Except String TaskOutputRecord :=
  if record.legacyManaged then .ok record
  else if record.results.any (TaskResult.matchesItem libraryItemId) then
    (record.withResults (record.results.map fun result =>
      if result.matchesItem libraryItemId then result.itemDeleted libraryItemId message
      else result)).finishDeletion
      (record.results.any fun result =>
        result.matchesItem libraryItemId && result.id == record.primaryResultId) uuid
  else .ok record

end NetPlayer.Outputs
