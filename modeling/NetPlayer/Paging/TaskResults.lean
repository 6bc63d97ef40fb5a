import NetPlayer.Outputs.Output
import NetPlayer.Paging.Resolutions

/-!
# The store of task result pages

A client pages through the output of a task on a snapshot that was retained for it: a lease of
the registry keeps the bodies of its resources. The store takes over the lease with the
snapshot and hands it back when the snapshot goes. A new snapshot is kept only if the first page
reaches the client; until it is published, the calls that wait for it are registered. Draws of
UUIDs are arguments. The recovery of reads and the reaper's task are left out.
-/

namespace NetPlayer.Paging

open Outputs (TaskOutputRecord TaskResult projectedTaskResultEncodedBytes maxTaskArtifacts)
open ProtoLength PagedSnapshots

def maxTaskResultPageEncodedBytes : Nat := 4 * 1024 * 1024
def taskResultPageMetadataReserveBytes : Nat := 64 * 1024
def maxTaskResultPageSnapshots : Nat := 32
def maxTaskResultPageSnapshotResults : Nat := 50000
def maxTaskResultPageSnapshotBytes : Nat := 64 * 1024 * 1024
def maxTaskResultPageCopyArtifacts : Nat := maxTaskArtifacts
def maxTaskResultPageSnapshotArtifacts : Nat := maxTaskArtifacts * 2

/-- What the registry hands over: the visible record, and the lease on its resources. -/
structure TaskOutputSnapshot where
  taskId : String
  revision : UInt64
  snapshotId : String
  resourceLeaseId : String
  resourceLeaseExpiresAt : Nat
  encodedBytes : Nat
  output : TaskOutputRecord

structure TaskResultPageSnapshot where
  taskId : String
  revision : UInt64
  snapshotId : String
  resourceLeaseId : String
  output : TaskOutputRecord
  encodedBytes : Nat
  artifactCount : Nat
  expiresAt : Nat
  tokensByOffset : Nat → Option String
  published : Bool
  pendingFirstPageRegistrations : Finset String

structure TaskResultPageCursor where
  snapshotId : String
  taskId : String
  offset : Nat
  deriving DecidableEq

structure TaskResultPageRegistration where
  snapshotId : String
  registrationId : String
  deriving DecidableEq

structure PageInfo where
  totalSize : Nat
  nextPageToken : String
  snapshotId : String

structure TaskResultPagePayload where
  results : List TaskResult
  pageInfo : PageInfo
  revision : UInt64

structure TaskResultPageStore where
  snapshotsById : AList fun _ : String => TaskResultPageSnapshot
  snapshotOrder : List String
  cursorsByToken : String → Option TaskResultPageCursor

def TaskResultPageStore.default : TaskResultPageStore := ⟨∅, [], fun _ => none⟩

def taskResultPageIdOf (uuid : Uuid) : String := "task-output-page-" ++ uuid.text
def registrationIdOf (uuid : Uuid) : String := "task-result-publication-" ++ uuid.text
def taskResultTokenOf (uuid : Uuid) : String := "task-results-" ++ uuid.text

def resultArtifacts (results : List TaskResult) : Nat :=
  (results.map fun result => result.artifacts.length).foldl saturatingAdd 0

def mentionsLibraryItem (libraryItemId : String) (result : TaskResult) : Bool :=
  result.libraryItemId == libraryItemId ||
    result.playbackSource.any (fun source => source.itemId == libraryItemId) ||
      result.artifacts.any fun artifact => artifact.libraryItemId == libraryItemId

/-- How many of the remaining results go on a page; `first` tells whether the page is still
empty. -/
def pageCount (first : Bool) (encodedBytes artifactCount : Nat) :
    List TaskResult → Except Status Nat
  | [] => .ok 0
  | result :: rest =>
    let nextArtifactCount := saturatingAdd artifactCount result.artifacts.length
    if maxTaskResultPageCopyArtifacts < nextArtifactCount ∧ first = true then
      .error (.resourceExhausted "A task result exceeds the response page artifact budget.")
    else if first = false ∧ maxTaskResultPageCopyArtifacts < nextArtifactCount then .ok 0
    else
      let resultBytes := projectedTaskResultEncodedBytes result
      let entryBytes := saturatingAdd (saturatingAdd resultBytes (varint resultBytes)) 1
      if maxTaskResultPageEncodedBytes < saturatingAdd encodedBytes entryBytes ∧
          first = true then
        .error (.resourceExhausted "A task result exceeds the response page byte budget.")
      else if first = false ∧
          maxTaskResultPageEncodedBytes < saturatingAdd encodedBytes entryBytes then .ok 0
      else do
        let count ← pageCount false (saturatingAdd encodedBytes entryBytes) nextArtifactCount rest
        return count + 1

namespace TaskResultPageStore

variable (s : TaskResultPageStore) (snapshotId : String)

def update (snapshot : TaskResultPageSnapshot) : TaskResultPageStore :=
  { s with snapshotsById := s.snapshotsById.insert snapshotId snapshot }

def issueToken (snapshot : TaskResultPageSnapshot) (offset : Nat) (token : String) :
    TaskResultPageStore :=
  { s with
    snapshotsById := s.snapshotsById.insert snapshotId
      { snapshot with
        tokensByOffset := Function.update snapshot.tokensByOffset offset (some token) }
    cursorsByToken := Function.update s.cursorsByToken token
      (some ⟨snapshot.snapshotId, snapshot.taskId, offset⟩) }

def page (s : TaskResultPageStore) (snapshotId : String) (offset pageSize : Nat) (uuid : Uuid) :
    TaskResultPageStore × Except Status TaskResultPagePayload :=
  match s.snapshotsById.lookup snapshotId with
  | none => (s, .error (.invalidArgument "Task result snapshot is no longer available."))
  | some snapshot =>
    let results := snapshot.output.results
    if results.length < offset then
      (s, .error (.invalidArgument "Task result page token offset is invalid."))
    else
      let requestedEnd := min (saturatingAdd offset (max pageSize 1)) results.length
      match pageCount true taskResultPageMetadataReserveBytes 0
          ((results.take requestedEnd).drop offset) with
      | .error error => (s, .error error)
      | .ok count =>
        let last := offset + count
        let payload (token : String) : TaskResultPagePayload :=
          { results := (results.take last).drop offset
            pageInfo := ⟨results.length, token, snapshot.snapshotId⟩
            revision := snapshot.revision }
        if last < results.length then
          match snapshot.tokensByOffset last with
          | some token => (s, .ok (payload token))
          | none =>
            (s.issueToken snapshotId snapshot last (taskResultTokenOf uuid),
              .ok (payload (taskResultTokenOf uuid)))
        else (s, .ok (payload ""))

def resolveToken (token taskId : String) : Except Status (String × Nat) :=
  match s.cursorsByToken token with
  | none => .error (.invalidArgument "Task result page token is invalid or expired.")
  | some cursor => do
      demand (cursor.taskId = taskId)
        (.invalidArgument "Task result page token does not belong to this task.")
      demand (cursor.snapshotId ∈ s.snapshotsById)
        (.invalidArgument "Task result page token is invalid or expired.")
      return (cursor.snapshotId, cursor.offset)

def removeSnapshot : TaskResultPageStore × Option String :=
  ({ snapshotsById := s.snapshotsById.erase snapshotId
     snapshotOrder := s.snapshotOrder.filter fun candidate => candidate ≠ snapshotId
     cursorsByToken := fun token =>
       (s.cursorsByToken token).filter fun cursor => cursor.snapshotId ≠ snapshotId },
    (s.snapshotsById.lookup snapshotId).map (·.resourceLeaseId))

def removeSnapshots (s : TaskResultPageStore) : List String → TaskResultPageStore × List String
  | [] => (s, [])
  | snapshotId :: rest =>
    let (t, lease) := s.removeSnapshot snapshotId
    let (u, leases) := t.removeSnapshots rest
    (u, lease.toList ++ leases)

def idsWhere (condition : TaskResultPageSnapshot → Bool) : List String :=
  (s.snapshotsById.entries.filter fun entry => condition entry.2).map Sigma.fst

def prune (now : Nat) : TaskResultPageStore × List String :=
  s.removeSnapshots (s.idsWhere fun snapshot => snapshot.expiresAt ≤ now)

def invalidateTasks (taskIds : Finset String) : TaskResultPageStore × List String :=
  s.removeSnapshots (s.idsWhere fun snapshot => snapshot.taskId ∈ taskIds)

def invalidateLibraryItem (libraryItemId : String) : TaskResultPageStore × List String :=
  s.removeSnapshots (s.idsWhere fun snapshot =>
    snapshot.output.results.any (mentionsLibraryItem libraryItemId))

def registerFirstPage (uuid : Uuid) : TaskResultPageStore × Option TaskResultPageRegistration :=
  match s.snapshotsById.lookup snapshotId with
  | none => (s, none)
  | some snapshot =>
    if snapshot.published then (s, none)
    else
      (s.update snapshotId
        { snapshot with
          pendingFirstPageRegistrations :=
            insert (registrationIdOf uuid) snapshot.pendingFirstPageRegistrations },
        some ⟨snapshotId, registrationIdOf uuid⟩)

variable (registration : TaskResultPageRegistration)

def publishFirstPage : TaskResultPageStore × Bool :=
  match s.snapshotsById.lookup registration.snapshotId with
  | none => (s, false)
  | some snapshot =>
    if snapshot.published then (s, true)
    else if registration.registrationId ∈ snapshot.pendingFirstPageRegistrations then
      (s.update registration.snapshotId
        { snapshot with published := true, pendingFirstPageRegistrations := ∅ }, true)
    else (s, false)

def cancelFirstPage : TaskResultPageStore × Option String :=
  match s.snapshotsById.lookup registration.snapshotId with
  | none => (s, none)
  | some snapshot =>
    if ¬ snapshot.published ∧
        registration.registrationId ∈ snapshot.pendingFirstPageRegistrations then
      let pending := snapshot.pendingFirstPageRegistrations.erase registration.registrationId
      let t := s.update registration.snapshotId
        { snapshot with pendingFirstPageRegistrations := pending }
      if pending = ∅ then t.removeSnapshot registration.snapshotId else (t, none)
    else (s, none)

def snapshotBudgetExceeded
    (incomingArtifactCount incomingResultCount incomingEncodedBytes : Nat) : Bool :=
  decide (maxTaskResultPageSnapshots ≤ s.snapshotsById.entries.length) ||
    decide (maxTaskResultPageSnapshotArtifacts <
      saturatingAdd (total (·.artifactCount) s.snapshotsById) incomingArtifactCount) ||
    decide (maxTaskResultPageSnapshotResults <
      saturatingAdd (total (·.output.results.length) s.snapshotsById) incomingResultCount) ||
    decide (maxTaskResultPageSnapshotBytes <
      saturatingAdd (total (·.encodedBytes) s.snapshotsById) incomingEncodedBytes)

def oldestPublished : Option String :=
  s.snapshotOrder.find? fun snapshotId =>
    (s.snapshotsById.lookup snapshotId).any fun snapshot => snapshot.published

def evictOldestPublishedSnapshot : TaskResultPageStore × Option String :=
  match s.oldestPublished with
  | none => (s, none)
  | some oldestId => s.removeSnapshot oldestId

/-- The eviction loop, with a bound on its rounds: the store it leaves, the leases of what it
evicted, and whether there is room now. -/
def makeRoom (artifactCount resultCount encodedBytes : Nat) :
    Nat → TaskResultPageStore → Option (TaskResultPageStore × List String × Bool)
  | 0, _ => none
  | rounds + 1, s =>
    if s.snapshotBudgetExceeded artifactCount resultCount encodedBytes then
      match s.evictOldestPublishedSnapshot with
      | (t, none) => some (t, [], false)
      | (t, some lease) =>
        (makeRoom artifactCount resultCount encodedBytes rounds t).map fun (u, leases, room) =>
          (u, lease :: leases, room)
    else some (s, [], true)

def insertNew (snapshot : TaskOutputSnapshot) : TaskResultPageStore :=
  { s with
    snapshotOrder := s.snapshotOrder ++ [snapshotId]
    snapshotsById := s.snapshotsById.insert snapshotId
      { taskId := snapshot.taskId
        revision := snapshot.revision
        snapshotId := snapshotId
        resourceLeaseId := snapshot.resourceLeaseId
        output := snapshot.output
        encodedBytes := snapshot.encodedBytes
        artifactCount := resultArtifacts snapshot.output.results
        expiresAt := snapshot.resourceLeaseExpiresAt
        tokensByOffset := fun _ => none
        published := false
        pendingFirstPageRegistrations := ∅ } }

def renew (existing : TaskResultPageSnapshot) (snapshot : TaskOutputSnapshot) :
    TaskResultPageStore :=
  { s with
    snapshotsById := s.snapshotsById.insert snapshot.snapshotId
      { existing with
        resourceLeaseId := snapshot.resourceLeaseId
        encodedBytes := snapshot.encodedBytes
        expiresAt := snapshot.resourceLeaseExpiresAt }
    snapshotOrder := (s.snapshotOrder.filter fun candidate => candidate ≠ existing.snapshotId) ++
      [existing.snapshotId] }

variable (snapshot : TaskOutputSnapshot)

def matching : Option TaskResultPageSnapshot :=
  (s.snapshotsById.lookup snapshot.snapshotId).filter fun existing =>
    existing.taskId = snapshot.taskId ∧ existing.revision = snapshot.revision

/-- What `insert` returns: the id and whether the snapshot is new, and the leases to release. -/
structure Insertion where
  store : TaskResultPageStore
  inserted : Except Status (String × Bool)
  released : List String

/-- `insert`; `none` when the eviction loop takes more rounds than there are snapshots. -/
def insert (now : Nat) (uuid : Uuid) : Option Insertion :=
  let (t, pruned) := s.prune now
  match t.matching snapshot with
  | some existing =>
    some ⟨t.renew existing snapshot, .ok (existing.snapshotId, false),
      pruned ++ [existing.resourceLeaseId]⟩
  | none =>
    match makeRoom (resultArtifacts snapshot.output.results) snapshot.output.results.length
        snapshot.encodedBytes (t.snapshotOrder.length + 1) t with
    | none => none
    | some (u, evicted, false) =>
      some ⟨u, .error (.resourceExhausted
        "Task result snapshot capacity is busy; retry the request shortly."),
        pruned ++ evicted ++ [snapshot.resourceLeaseId]⟩
    | some (u, evicted, true) =>
      let snapshotId :=
        if snapshot.snapshotId ∈ u.snapshotsById then taskResultPageIdOf uuid
        else snapshot.snapshotId
      some ⟨u.insertNew snapshotId snapshot, .ok (snapshotId, true), pruned ++ evicted⟩

structure FirstPageDraws where
  snapshot : Uuid
  registration : Uuid
  token : Uuid

structure FirstPage where
  store : TaskResultPageStore
  page : Except Status TaskResultPagePayload
  released : List String
  insertedNewSnapshot : Bool
  registration : Option TaskResultPageRegistration

def firstPage (now pageSize : Nat) (draws : FirstPageDraws) : Option FirstPage :=
  match s.insert snapshot now draws.snapshot with
  | none => none
  | some ⟨t, .error error, released⟩ => some ⟨t, .error error, released, false, none⟩
  | some ⟨t, .ok (snapshotId, insertedNewSnapshot), released⟩ =>
    let (u, registration) := t.registerFirstPage snapshotId draws.registration
    match u.page snapshotId 0 pageSize draws.token, registration with
    | (v, .error error), some registration =>
      let (w, lease) := v.cancelFirstPage registration
      some ⟨w, .error error, released ++ lease.toList, insertedNewSnapshot, none⟩
    | (v, page), registration => some ⟨v, page, released, insertedNewSnapshot, registration⟩

def continuationPage (token taskId : String) (now pageSize : Nat) (uuid : Uuid) :
    TaskResultPageStore × Except Status TaskResultPagePayload × List String :=
  let (t, released) := s.prune now
  match t.resolveToken token taskId with
  | .error error => (t, .error error, released)
  | .ok (snapshotId, offset) =>
    let (u, page) := t.page snapshotId offset pageSize uuid
    (u, page, released)

end TaskResultPageStore

end NetPlayer.Paging
