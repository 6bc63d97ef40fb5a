import Mathlib.Data.Finset.Basic
import Mathlib.Data.Finset.Dedup
import Mathlib.Data.Finset.SDiff
import NetPlayer.Library.PagedSnapshots
import NetPlayer.Library.Transition

/-!
# Failed cleanups of HLS sessions

The directories of sessions that could not be removed are retained under the key of the cleanup,
and retried. Beyond two caps they are not retained; a scan over all session directories is
required instead, which runs in batches while further cleanups fail. A retry and its batch
are under the lock of the quota; the cleanups of tasks are not, and may come in between.
-/

namespace NetPlayer.Hls

open PagedSnapshots

def maxPendingHlsCleanupKeys : Nat := 1024
def maxPendingHlsCleanupSessionIds : Nat := 4096
def hlsCleanupOverflowScanBatchEntries : Nat := 1024

inductive DirectoryEntry
  | session (sessionId : String)
  /-- A name that is no session id. -/
  | other
  | unreadable
  deriving DecidableEq

structure PendingHlsCleanupOverflowScan where
  directories : List DirectoryEntry
  retryRequired : Bool
  deriving DecidableEq

structure PendingHlsSessionCleanups where
  byCleanupKey : AList fun _ : String => List String
  retainedSessionIdCount : Nat
  overflowScanRequired : Bool
  overflowScanDirty : Bool
  overflowScan : Option PendingHlsCleanupOverflowScan
  deriving DecidableEq

namespace PendingHlsSessionCleanups

def default : PendingHlsSessionCleanups := ⟨∅, 0, false, false, none⟩

def entries (p : PendingHlsSessionCleanups) : List (String × List String) :=
  p.byCleanupKey.entries.map fun entry => (entry.1, entry.2)

variable (p : PendingHlsSessionCleanups)

def retainedSessionIds : List String :=
  (values p.byCleanupKey).flatten

variable (cleanupKey : String)

/-- The first part of `record`: what the key held before goes. -/
def forget : PendingHlsSessionCleanups :=
  match p.byCleanupKey.lookup cleanupKey with
  | none => p
  | some previous =>
    { p with
      byCleanupKey := p.byCleanupKey.erase cleanupKey
      retainedSessionIdCount := p.retainedSessionIdCount - previous.length }

def retainedCount (failedSessionIds : List String) : Nat :=
  if p.byCleanupKey.entries.length < maxPendingHlsCleanupKeys then
    min failedSessionIds.length (maxPendingHlsCleanupSessionIds - p.retainedSessionIdCount)
  else 0

def retain (sessionIds : List String) : PendingHlsSessionCleanups :=
  if 0 < sessionIds.length then
    { p with
      byCleanupKey := p.byCleanupKey.insert cleanupKey sessionIds
      retainedSessionIdCount := p.retainedSessionIdCount + sessionIds.length }
  else p

def record (failedSessionIds : List String) : PendingHlsSessionCleanups :=
  let q := p.forget cleanupKey
  if failedSessionIds = [] then q
  else
    let retainedCount := q.retainedCount failedSessionIds
    let overflowed := retainedCount < failedSessionIds.length
    let r := q.retain cleanupKey (failedSessionIds.take retainedCount)
    if overflowed then { r with overflowScanRequired := true, overflowScanDirty := true } else r

/-- `take_or_start_overflow_scan`; `listing` is what reading the store's directory gives. -/
def takeOrStartOverflowScan (listing : Option (List DirectoryEntry)) :
    PendingHlsSessionCleanups × Option PendingHlsCleanupOverflowScan :=
  match p.overflowScan with
  | some scan => ({ p with overflowScan := none }, some scan)
  | none =>
    if p.overflowScanRequired then
      match listing with
      | none => (p, none)
      | some directories => ({ p with overflowScanDirty := false }, some ⟨directories, false⟩)
    else (p, none)

def finishOverflowScan (retryRequired : Bool) : PendingHlsSessionCleanups :=
  { p with
    overflowScanRequired := retryRequired || p.overflowScanDirty
    overflowScanDirty := false
    overflowScan := none }

end PendingHlsSessionCleanups

/-- The loop of a tracked removal: the ids, each once, whose removal failed. -/
def collectFailures (removes : String → Bool) (visited : List String) : List String → List String
  | [] => []
  | sessionId :: rest =>
    if sessionId ∈ visited then collectFailures removes visited rest
    else if removes sessionId then collectFailures removes (sessionId :: visited) rest
    else sessionId :: collectFailures removes (sessionId :: visited) rest

inductive ScanOutcome
  | authorized
  | retryLater
  /-- The tasks are not durable any more; the batch ends. -/
  | persistenceLost
  | notGuarded
  | removed
  | failed
  deriving DecidableEq

structure RunningBatch where
  scan : PendingHlsCleanupOverflowScan
  /-- How many entries the batch may still read. -/
  budget : Nat
  deriving DecidableEq

structure CleanupState where
  pending : PendingHlsSessionCleanups
  directories : Finset String
  /-- The sessions with a directory whose tracked removal failed, and that were not removed
  since. -/
  failed : Finset String
  retrying : List (String × List String)
  batch : Option RunningBatch

namespace CleanupState

def initial : CleanupState := ⟨.default, ∅, ∅, [], none⟩

def dropDirectory (s : CleanupState) (sessionId : String) : CleanupState :=
  { s with
    directories := s.directories.erase sessionId
    failed := s.failed.erase sessionId }

/-- `remove_hls_sessions_tracking_failures`, and the end of
`remove_task_hls_sessions_after_cancel`. -/
def track (s : CleanupState) (cleanupKey : String) (sessionIds : List String)
    (removes : String → Bool) : CleanupState :=
  let failedSessionIds := collectFailures removes [] sessionIds
  let removedSessionIds := (sessionIds.filter fun sessionId => removes sessionId).toFinset
  { s with
    pending := s.pending.record cleanupKey failedSessionIds
    directories := s.directories \ removedSessionIds
    failed := (s.failed \ removedSessionIds) ∪ (failedSessionIds.toFinset ∩ s.directories) }

def scanEntry (s : CleanupState) (batch : RunningBatch) (entry : DirectoryEntry)
    (rest : List DirectoryEntry) (outcome : ScanOutcome) : CleanupState :=
  let next : RunningBatch := ⟨⟨rest, batch.scan.retryRequired⟩, batch.budget - 1⟩
  let retry : RunningBatch := ⟨⟨rest, true⟩, batch.budget - 1⟩
  match entry with
  | .other => { s with batch := some next }
  | .unreadable => { s with batch := some retry }
  | .session sessionId =>
    match outcome with
    | .authorized => { s with batch := some next }
    | .retryLater => { s with batch := some retry }
    | .persistenceLost => { s with batch := some { retry with budget := 0 } }
    | .notGuarded => { s with batch := some retry }
    | .removed => { s.dropDirectory sessionId with batch := some next }
    | .failed => { s with batch := some retry }

end CleanupState

def taskSessionKey (taskId sessionId : String) : String :=
  "task-terminal:" ++ taskId ++ ":" ++ sessionId

def taskKey (taskId : String) : String := "task-terminal:" ++ taskId

inductive CleanupEvent
  | deleteLibraryItem (libraryItemId : String) (sessionIds : List String)
      (removes : String → Bool)
  /-- One round of `remove_task_hls_sessions_tracking_failures`. -/
  | removeTaskSession (taskId sessionId : String) (removes : String → Bool)
  | removeTaskSessionsAfterCancel (taskId : String) (sessionIds : List String)
      (removes : String → Bool)
  | beginRetry
  | retryNext (removes : String → Bool)
  | beginBatch (listing : Option (List DirectoryEntry))
  | scanEntry (outcome : ScanOutcome)
  | endBatch
  | sessionSaved (sessionId : String)
  | sessionRemoved (sessionId : String)

/-- A listing shows every directory there is, unless an entry cannot be read. -/
def Lists (directories : Finset String) (listing : List DirectoryEntry) : Prop :=
  ∀ sessionId ∈ directories, .session sessionId ∈ listing ∨ .unreadable ∈ listing

inductive CleanupStep : CleanupState → CleanupEvent → CleanupState → Prop
  | deleteLibraryItem (s : CleanupState) (libraryItemId sessionIds removes)
      (hpending : ∀ pending, s.pending.byCleanupKey.lookup libraryItemId = some pending →
        sessionIds = pending) :
      CleanupStep s (.deleteLibraryItem libraryItemId sessionIds removes)
        (s.track libraryItemId sessionIds removes)
  | removeTaskSession (s : CleanupState) (taskId sessionId removes) :
      CleanupStep s (.removeTaskSession taskId sessionId removes)
        (s.track (taskSessionKey taskId sessionId) [sessionId] removes)
  | removeTaskSessionsAfterCancel (s : CleanupState) (taskId sessionIds removes) :
      CleanupStep s (.removeTaskSessionsAfterCancel taskId sessionIds removes)
        (s.track (taskKey taskId) sessionIds removes)
  | beginRetry (s : CleanupState) (hretrying : s.retrying = []) (hbatch : s.batch = none) :
      CleanupStep s .beginRetry { s with retrying := s.pending.entries }
  | retryNext (s : CleanupState) (removes) {cleanupKey sessionIds rest}
      (hretrying : s.retrying = (cleanupKey, sessionIds) :: rest) :
      CleanupStep s (.retryNext removes)
        { s.track cleanupKey sessionIds removes with retrying := rest }
  | beginBatch (s : CleanupState) (listing) {pending scan} (hbatch : s.batch = none)
      (hlisting : ∀ directories, listing = some directories → Lists s.directories directories)
      (hscan : s.pending.takeOrStartOverflowScan listing = (pending, some scan)) :
      CleanupStep s (.beginBatch listing)
        { s with
          pending := pending
          batch := some ⟨scan, hlsCleanupOverflowScanBatchEntries⟩ }
  | scanEntry (s : CleanupState) (outcome) {batch entry rest} (hbatch : s.batch = some batch)
      (hbudget : 0 < batch.budget) (hentry : batch.scan.directories = entry :: rest) :
      CleanupStep s (.scanEntry outcome) (s.scanEntry batch entry rest outcome)
  | finishBatch (s : CleanupState) {batch} (hbatch : s.batch = some batch)
      (hbudget : 0 < batch.budget) (hempty : batch.scan.directories = []) :
      CleanupStep s .endBatch
        { s with
          pending := s.pending.finishOverflowScan batch.scan.retryRequired
          batch := none }
  | putBack (s : CleanupState) {batch} (hbatch : s.batch = some batch)
      (hbudget : batch.budget = 0) :
      CleanupStep s .endBatch
        { s with
          pending := { s.pending with overflowScan := some batch.scan }
          batch := none }
  | sessionSaved (s : CleanupState) (sessionId) :
      CleanupStep s (.sessionSaved sessionId)
        { s with directories := insert sessionId s.directories }
  | sessionRemoved (s : CleanupState) (sessionId) :
      CleanupStep s (.sessionRemoved sessionId) (s.dropDirectory sessionId)

end NetPlayer.Hls
