import Mathlib.Data.List.Dedup
import NetPlayer.Tasks.Task

/-!
# Eviction from the HLS cache

A pass of `enforce_hls_cache_quota_until_cancelled`. While it runs, tasks change, playback is
finalized and the caller may cancel, so each turn over an entry of the cache carries what the pass
finds there, read by read: `tasks n` is the registry at the `n`-th read of the turn. Session ids of
the cache are cache ids, which the registry's normalization leaves alone. The invalidation of
result pages, the removal of playback sessions from memory and the reason and time of a summary
are left out.
-/

namespace NetPlayer.Eviction

open Tasks BilibiliTaskResultItem

structure HlsCacheEvictionPolicy where
  maxBytes : Nat
  highWatermarkPercent : Nat
  lowWatermarkPercent : Nat

def percentageBytes (bytes percent : Nat) : Nat := min (bytes * percent / 100) u64Max

namespace HlsCacheEvictionPolicy

variable (policy : HlsCacheEvictionPolicy)

def evictionEnabled : Bool := decide (0 < policy.maxBytes)

def highWatermarkBytes : Nat :=
  percentageBytes policy.maxBytes policy.highWatermarkPercent

def lowWatermarkBytes : Nat :=
  percentageBytes policy.maxBytes policy.lowWatermarkPercent

end HlsCacheEvictionPolicy

structure HlsCacheCompletedEntry where
  sessionId : String
  libraryItemId : String
  sizeBytes : Nat
  deriving DecidableEq

structure HlsCachePartialEntry where
  sessionId : String
  sizeBytes : Nat
  deriving DecidableEq

def sortedIds (ids : List String) : List String := (ids.insertionSort (· ≤ ·)).dedup

def usesHlsSession (task : Task) (sessionId : String) : Bool :=
  task.usesHlsSessionAsPrimary sessionId ||
    task.resultItems.any fun item => item.usesHlsSession sessionId

variable (tasks : List Task) (sessionId : String)

/-- The checks of kind and state that a finder has made are not made again below. -/
def findPlaybackTask (condition : Task → Bool) : Option Task :=
  if sessionId = "" then none
  else tasks.find? fun task => task.kind == .bilibiliProgressivePlayback && condition task

def completedPlaybackTaskForHlsSession : Option Task :=
  findPlaybackTask tasks sessionId fun task =>
    task.state == .completed && task.usesHlsSessionAsPrimary sessionId

def completedPlaybackTaskForAnyHlsSession :
    Option Task :=
  findPlaybackTask tasks sessionId fun task =>
    task.state == .completed && task.playbackHlsSessionIds.contains sessionId

def playbackTaskForAnyHlsSession : Option Task :=
  findPlaybackTask tasks sessionId fun task =>
    (task.state == .playable || task.state == .completed) && usesHlsSession task sessionId

def playbackHlsSessionIds (tasks : List Task) (id : String) : List String :=
  if id = "" then []
  else (tasks.find? fun task => task.id == id).elim [] fun task =>
    sortedIds task.playbackHlsSessionIds

variable (task : Task)

/-- `protected_completed_result_hls_session_ids`, up to order and repetition. -/
def protectedCompletedResultHlsSessionIds : List String :=
  ((task.resultItems.filter isPlayableOrCompleted).flatMap
    hlsSessionIds).filter fun sessionId =>
      task.primaryHlsSessionId != some sessionId

def protectedHlsCacheSessionIds : List String :=
  (tasks.filter fun task => task.kind == .bilibiliProgressivePlayback).flatMap fun task =>
    match task.state with
    | .completed => protectedCompletedResultHlsSessionIds task
    | .succeeded | .failed | .cancelled => []
    | _ => task.playbackHlsSessionIds

/-- `completed_hls_cache_entry_belongs_to_task`. -/
def belongsToTask (sessionId : String) : Bool :=
  (playbackHlsSessionIds tasks task.id).contains sessionId

/-- `completed_hls_cache_entry_is_primary_task_item`. -/
def isPrimaryTaskItem (sessionId libraryItemId : String) : Bool :=
  task.libraryItemId == libraryItemId &&
    (sessionIdFromLibraryItemId task.libraryItemId == some sessionId ||
      task.playbackSession.any (fun session => session.id == sessionId) || task.id == sessionId)

/-- `completed_hls_cache_entry_is_completed_secondary_result_item`. -/
def isCompletedSecondaryResultItem (sessionId libraryItemId : String) : Bool :=
  !isPrimaryTaskItem task sessionId libraryItemId && task.resultItems.any fun item =>
    item.libraryItemId == libraryItemId && item.state == .completed &&
      (item.id == sessionId || item.playbackSource.any (fun source => source.itemId == sessionId) ||
        item.playbackSession.any fun session => session.id == sessionId)

def completedHlsDeleteSessionIds (tasks : Nat → List Task) (read : Nat)
    (sessionId libraryItemId : String) : List String :=
  let ids := (completedPlaybackTaskForAnyHlsSession (tasks read) sessionId).elim [] fun task =>
    if belongsToTask (tasks (read + 1)) task sessionId &&
        !isCompletedSecondaryResultItem task sessionId libraryItemId then
      playbackHlsSessionIds (tasks (read + 2)) task.id
    else []
  if ids = [] then [sessionId] else ids

def completedHlsTaskCleanupItem (tasks : Nat → List Task) (read : Nat)
    (sessionId libraryItemId : String) : Option (String × String) :=
  (playbackTaskForAnyHlsSession (tasks read) sessionId).bind fun task =>
    if !belongsToTask (tasks (read + 1)) task sessionId then none
    else if isCompletedSecondaryResultItem task sessionId libraryItemId then
      some (sessionId, libraryItemId)
    else if task.state ≠ .completed then none
    else if task.libraryItemId = "" then none
    else some (((sessionIdFromLibraryItemId task.libraryItemId).or
      (task.playbackSession.map fun session => session.id)).getD task.id, task.libraryItemId)

def hasCompletedHlsCacheItem (sessionId libraryItemId : String) : Bool :=
  task.libraryItemId == libraryItemId && task.usesHlsSessionAsPrimary sessionId ||
    task.resultItems.any fun item =>
      item.state == .completed && item.libraryItemId == libraryItemId &&
        item.usesHlsSession sessionId

def matchesCompletedTask (entry : HlsCacheCompletedEntry) : Bool :=
  (completedPlaybackTaskForAnyHlsSession tasks entry.sessionId).any fun task =>
    entry.libraryItemId != "" && hasCompletedHlsCacheItem task entry.sessionId entry.libraryItemId

/-- `completed_hls_cache_entry_belongs_to_completed_task`; two reads. -/
def belongsToCompletedTask (tasks : Nat → List Task) (read : Nat)
    (entry : HlsCacheCompletedEntry) : Bool :=
  (completedPlaybackTaskForAnyHlsSession (tasks read) entry.sessionId).any fun task =>
    belongsToTask (tasks (read + 1)) task entry.sessionId

inductive Evictability where
  | kept
  | evictable
  | failsTask
  deriving DecidableEq

/-- `completed_hls_cache_entry_is_evictable`; five reads. -/
def evictability (tasks : Nat → List Task) (persistenceAvailable : Bool) (read : Nat)
    (entry : HlsCacheCompletedEntry) : Evictability :=
  if matchesCompletedTask (tasks read) entry then .evictable
  else if belongsToCompletedTask tasks (read + 1) entry &&
      (completedPlaybackTaskForHlsSession (tasks (read + 3)) entry.sessionId).isNone then
    .evictable
  else
    match completedPlaybackTaskForHlsSession (tasks (read + 4)) entry.sessionId with
    | none => if persistenceAvailable then .evictable else .kept
    | some task =>
      if task.libraryItemId = entry.libraryItemId then .evictable else .failsTask

structure CompletedTurn where
  cancelled : Bool
  cancelledSelected : Bool
  cancelledLocked : Bool
  tasks : Nat → List Task
  persistenceAvailable : Bool
  persistenceAvailableLocked : Bool
  finalizing : String → Bool
  finalizingSelected : String → Bool
  finalizingLocked : String → Bool
  finalizingRemoval : String → Bool
  kept : ∀ sessionId, finalizingRemoval sessionId = true → finalizingLocked sessionId = true
  /-- `try_begin_session_removal`; `false` for a session in use. -/
  begins : String → Except String Bool
  /-- `remove_completed_playback_task`. -/
  removesTask : Except String Bool
  /-- `remove_session`, with its error. -/
  removes : String → Option String

structure PartialTurn where
  cancelled : Bool
  cancelledLocked : Bool
  finalizing : Bool
  finalizingLocked : Bool
  finalizingRemoval : Bool
  kept : finalizingRemoval = true → finalizingLocked = true
  begins : Except String Bool
  /-- `remove_session_managed_resources_for_eviction`, with its error. -/
  removes : Option String

/-- What the pass does, in this order. A removal of files carries the turn it is made in and the
usage that the pass has tracked until then. -/
inductive EvictionEvent where
  | failTask (sessionId : String)
  | removeTask (entry : HlsCacheCompletedEntry) (item : String × String) (accepted : Bool)
  | removeSession (entry : HlsCacheCompletedEntry) (turn : CompletedTurn) (sessionId : String)
      (removed : Bool) (used : Nat)
  | removeResources (entry : HlsCachePartialEntry) (turn : PartialTurn) (removed : Bool)
      (used : Nat)
  | recordCleanup (libraryItemId : String) (failedSessionIds : List String)

structure EvictionPlan where
  targetUsedBytes : Nat
  /-- `completed_group_protected_session_ids`, also used for partial entries. -/
  groupProtected : List String
  stableProtected : List String
  sizeOf : String → Nat

structure EvictionState where
  finishedUsedBytes : Nat
  evictedBytes : Nat
  evictedSessionIds : List String
  events : List EvictionEvent

inductive TurnEnd where
  | next
  | cancelled
  | failed (error : String)
  deriving DecidableEq

namespace EvictionState

def emit (s : EvictionState) (events : List EvictionEvent) : EvictionState :=
  { s with events := s.events ++ events }

def evicted (s : EvictionState) (sessionIds : List String) (bytes : Nat) : EvictionState :=
  { s with
    finishedUsedBytes := s.finishedUsedBytes - bytes
    evictedBytes := saturatingAdd s.evictedBytes bytes
    evictedSessionIds := sessionIds.foldl (fun evicted sessionId =>
      if evicted.contains sessionId then evicted else evicted ++ [sessionId])
        s.evictedSessionIds }

end EvictionState

def isProtected (sessionIds protectedIds : List String) (finalizing : String → Bool) : Bool :=
  sessionIds.any fun sessionId => protectedIds.contains sessionId || finalizing sessionId

def beginRemovals (begins : String → Except String Bool) : List String → Except String Bool
  | [] => .ok true
  | sessionId :: rest =>
    match begins sessionId with
    | .ok true => beginRemovals begins rest
    | .ok false => .ok false
    | .error error => .error error

namespace CompletedTurn

variable (turn : CompletedTurn) (entry : HlsCacheCompletedEntry)

def sessionIds : List String :=
  completedHlsDeleteSessionIds turn.tasks 0 entry.sessionId entry.libraryItemId

def cleanupItem : Option (String × String) :=
  completedHlsTaskCleanupItem turn.tasks 15 entry.sessionId entry.libraryItemId

def protectedFor (plan : EvictionPlan) (entry : HlsCacheCompletedEntry) : List String :=
  if belongsToCompletedTask turn.tasks 3 entry then plan.groupProtected else plan.stableProtected

def removeEvictedTask : List EvictionEvent × Except String Bool :=
  match turn.cleanupItem entry with
  | none => ([], .ok true)
  | some item => ([.removeTask entry item (turn.removesTask.toOption.getD false)], turn.removesTask)

end CompletedTurn

def evictGroup (plan : EvictionPlan) (s : EvictionState) (entry : HlsCacheCompletedEntry)
    (turn : CompletedTurn) (sessionIds : List String) : EvictionState × TurnEnd :=
  match beginRemovals turn.begins sessionIds with
  | .error error => (s, .failed error)
  | .ok false => (s, .next)
  | .ok true =>
    match turn.removeEvictedTask entry with
    | (events, .error error) => (s.emit events, .failed error)
    | (events, .ok false) => (s.emit events, .next)
    | (events, .ok true) =>
      let removals := sessionIds.map fun sessionId =>
        .removeSession entry turn sessionId (turn.removes sessionId).isNone
          s.finishedUsedBytes
      let failedSessionIds := sessionIds.filter fun sessionId =>
        (turn.removes sessionId).isSome
      let s := s.emit
        (events ++ removals ++ [.recordCleanup entry.libraryItemId failedSessionIds])
      match sessionIds.findSome? turn.removes with
      | some error => (s, .failed error)
      | none =>
        let removedBytes := sessionIds.foldl
          (fun total sessionId => saturatingAdd total (plan.sizeOf sessionId)) 0
        (s.evicted sessionIds removedBytes, .next)

def failedTask (entry : HlsCacheCompletedEntry) : Evictability → List EvictionEvent
  | .failsTask => [.failTask entry.sessionId]
  | _ => []

def evictCompletedEntry (plan : EvictionPlan) (s : EvictionState)
    (candidate : HlsCacheCompletedEntry × CompletedTurn) : EvictionState × TurnEnd :=
  let (entry, turn) := candidate
  let sessionIds := turn.sessionIds entry
  let protectedIds := turn.protectedFor plan entry
  let selected := evictability turn.tasks turn.persistenceAvailable 5 entry
  let confirmed := evictability turn.tasks turn.persistenceAvailableLocked 10 entry
  if s.evictedSessionIds.contains entry.sessionId then (s, .next)
  else if turn.cancelled then (s, .cancelled)
  else if sessionIds.any fun sessionId => s.evictedSessionIds.contains sessionId then (s, .next)
  else if isProtected sessionIds protectedIds turn.finalizing then (s, .next)
  else
    let s := s.emit (failedTask entry selected)
    if selected = .kept then (s, .next)
    else if turn.cancelledSelected then (s, .cancelled)
    else if isProtected sessionIds protectedIds turn.finalizingSelected then (s, .next)
    else if turn.cancelledLocked then (s, .cancelled)
    else if isProtected sessionIds protectedIds turn.finalizingLocked then (s, .next)
    else
      let s := s.emit (failedTask entry confirmed)
      if confirmed = .kept then (s, .next) else evictGroup plan s entry turn sessionIds

def evictPartialEntry (plan : EvictionPlan) (s : EvictionState)
    (candidate : HlsCachePartialEntry × PartialTurn) : EvictionState × TurnEnd :=
  let (entry, turn) := candidate
  if s.evictedSessionIds.contains entry.sessionId then (s, .next)
  else if turn.cancelled then (s, .cancelled)
  else if plan.groupProtected.contains entry.sessionId || turn.finalizing then (s, .next)
  else if turn.cancelledLocked then (s, .cancelled)
  else if plan.groupProtected.contains entry.sessionId || turn.finalizingLocked then (s, .next)
  else
    match turn.begins with
    | .error error => (s, .failed error)
    | .ok false => (s, .next)
    | .ok true =>
      let s := s.emit [.removeResources entry turn turn.removes.isNone s.finishedUsedBytes]
      match turn.removes with
      | some error => (s, .failed error)
      | none => (s.evicted [entry.sessionId] entry.sizeBytes, .next)

def evictEach {α : Type} (target : Nat) (evict : EvictionState → α → EvictionState × TurnEnd) :
    List α → EvictionState → EvictionState × TurnEnd
  | [], s => (s, .next)
  | candidate :: rest, s =>
    if s.finishedUsedBytes ≤ target then (s, .next)
    else
      match evict s candidate with
      | (after, .next) => evictEach target evict rest after
      | (after, outcome) => (after, outcome)

structure StoreReads where
  completed : List (HlsCacheCompletedEntry × CompletedTurn)
  partialEntries : List (HlsCachePartialEntry × PartialTurn)
  usedBytes : Nat
  bounded : usedBytes ≤ u64Max
  sized : ∀ candidate ∈ partialEntries, candidate.1.sizeBytes ≤ u64Max

namespace StoreReads

variable (store : StoreReads)

/-- The last one of several entries counts. -/
def completedSize (sessionId : String) : Option Nat :=
  (store.completed.reverse.find? fun candidate => candidate.1.sessionId == sessionId).map
    fun candidate => candidate.1.sizeBytes

def partialSize (sessionId : String) : Option Nat :=
  (store.partialEntries.reverse.find? fun candidate =>
    candidate.1.sessionId == sessionId).map fun candidate => candidate.1.sizeBytes

def sizeOf (sessionId : String) : Nat :=
  ((store.completedSize sessionId).or (store.partialSize sessionId)).getD 0

end StoreReads

structure QuotaPass where
  policy : HlsCacheEvictionPolicy
  protectedSessionIds : List String
  projectedAddedBytes : Nat
  cancelled : Bool
  /-- What `retry_pending_hls_session_cleanups` returns: the cleanups that failed again. -/
  pendingCleanupSessionIds : List String
  store : Except String StoreReads
  playbackLeases : List (String × Nat)
  now : Nat
  tasks : List Task

structure HlsCacheEvictionSummary where
  startedUsedBytes : Nat
  finishedUsedBytes : Nat
  targetUsedBytes : Nat
  projectedAddedBytes : Nat
  evictedBytes : Nat
  evictedSessionIds : List String
  targetReached : Bool
  deriving DecidableEq

namespace QuotaPass

variable (pass : QuotaPass)

def recentlyUsedSessionIds : List String :=
  (pass.playbackLeases.filter fun lease => decide (pass.now < lease.2)).map Prod.fst

def targetUsedBytes : Nat :=
  pass.policy.lowWatermarkBytes - pass.projectedAddedBytes

def plan (store : StoreReads) : EvictionPlan :=
  let groupProtected := pass.protectedSessionIds ++ pass.recentlyUsedSessionIds ++
    pass.pendingCleanupSessionIds
  { targetUsedBytes := pass.targetUsedBytes
    groupProtected := groupProtected
    stableProtected := groupProtected ++ protectedHlsCacheSessionIds pass.tasks
    sizeOf := store.sizeOf }

def start (store : StoreReads) : EvictionState where
  finishedUsedBytes := store.usedBytes
  evictedBytes := 0
  evictedSessionIds := []
  events := []

/-- Both loops; a cancelled first one does not keep the second one from its own check. -/
def evict (store : StoreReads) : EvictionState × TurnEnd :=
  let plan := pass.plan store
  match evictEach plan.targetUsedBytes (evictCompletedEntry plan) store.completed (start store) with
  | (s, .failed error) => (s, .failed error)
  | (s, ended) =>
    match evictEach plan.targetUsedBytes (evictPartialEntry plan) store.partialEntries s with
    | (s, .next) => (s, ended)
    | (s, ended) => (s, ended)

/-- `enforce_hls_cache_quota_until_cancelled`: what the pass has done, and its result. -/
def enforce : List EvictionEvent × Except String (Option HlsCacheEvictionSummary) :=
  if pass.cancelled || !pass.policy.evictionEnabled then ([], .ok none)
  else
    match pass.store with
    | .error error => ([], .error error)
    | .ok store =>
      if saturatingAdd store.usedBytes pass.projectedAddedBytes ≤ pass.policy.highWatermarkBytes
      then ([], .ok none)
      else
        match pass.evict store with
        | (s, .failed error) => (s.events, .error error)
        | (s, ended) =>
          if ended = .cancelled && s.evictedSessionIds.isEmpty then (s.events, .ok none)
          else
            (s.events, .ok (some
              { startedUsedBytes := store.usedBytes
                finishedUsedBytes := s.finishedUsedBytes
                targetUsedBytes := pass.targetUsedBytes
                projectedAddedBytes := pass.projectedAddedBytes
                evictedBytes := s.evictedBytes
                evictedSessionIds := s.evictedSessionIds
                targetReached := decide (saturatingAdd s.finishedUsedBytes
                  pass.projectedAddedBytes ≤ pass.policy.lowWatermarkBytes) }))

end QuotaPass

end NetPlayer.Eviction
