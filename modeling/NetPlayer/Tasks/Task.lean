import Mathlib.Algebra.Order.Field.Rat
import NetPlayer.Hls.SessionFile

/-!
# Tasks of the task registry

A task and its result items, with the predicates that the registry's operations
decide by and the functions that clear playback metadata. Enumerations of the
protocol are inductive types; `f64` progress is a rational number, and a value
that is not finite is `none` where the registry receives one.
-/

namespace NetPlayer.Tasks

open Hls (stripPrefix isCacheId)

inductive TaskKind where
  | unspecified | bilibiliDownload | libraryRescan | bilibiliProgressivePlayback
  deriving DecidableEq

inductive TaskState where
  | unspecified | queued | running | succeeded | failed | cancelRequested | cancelled
  | planned | preparing | playable | completed
  deriving DecidableEq

inductive HlsCacheFillState where
  | unspecified | queued | filling | preempted | retrying | blockedQuota | completed
  | sourceUnavailable | failed | cancelled
  deriving DecidableEq

inductive HlsCacheFillFailureKind where
  | unspecified | safety | persistence | network | sourceUnavailable
  deriving DecidableEq

structure Timestamp where
  seconds : Int
  nanos : Int
  deriving DecidableEq

structure HlsCacheFillStatus where
  state : HlsCacheFillState
  failureKind : HlsCacheFillFailureKind
  completedBytes : Nat
  totalBytes : Nat
  totalBytesKnown : Bool
  representationId : String
  message : String
  deriving DecidableEq

structure PlaybackSource where
  itemId : String
  uri : String
  variantId : String
  expiresAt : Option Timestamp
  deriving DecidableEq

structure BilibiliPlaybackSession where
  id : String
  selectedVariantId : String
  deriving DecidableEq

structure BilibiliTaskResultItem where
  id : String
  title : String
  state : TaskState
  message : String
  libraryItemId : String
  playbackSource : Option PlaybackSource
  playbackSession : Option BilibiliPlaybackSession
  hlsCacheFillStatus : Option HlsCacheFillStatus
  deriving DecidableEq

structure TaskOutputSummary where
  revision : Nat
  resultCount : Nat
  terminalResultCount : Nat
  successfulResultCount : Nat
  failedResultCount : Nat
  cancelledResultCount : Nat
  availableArtifactCount : Nat
  primaryResultId : String
  deriving DecidableEq

structure Task where
  id : String
  kind : TaskKind
  state : TaskState
  source : String
  title : String
  progress : Rat
  downloadedBytes : Int
  totalBytes : Int
  message : String
  libraryItemId : String
  createdAt : Option Timestamp
  updatedAt : Option Timestamp
  finishedAt : Option Timestamp
  playbackSource : Option PlaybackSource
  playbackSession : Option BilibiliPlaybackSession
  resultItems : List BilibiliTaskResultItem
  outputSummary : Option TaskOutputSummary
  hlsCacheFillStatus : Option HlsCacheFillStatus
  deriving DecidableEq

def TaskState.isActive : TaskState → Bool
  | .queued | .running | .cancelRequested | .planned | .preparing => true
  | _ => false

def TaskState.isTerminal : TaskState → Bool
  | .succeeded | .failed | .cancelled | .completed => true
  | _ => false

def hlsLibraryItemPrefix : String := "bilibili.hls."

def sessionIdFromLibraryItemId (itemId : String) : Option String :=
  (stripPrefix itemId hlsLibraryItemPrefix).filter isCacheId

def hlsSessionIdentity (id : String) : List String :=
  if id = "" then [] else [(sessionIdFromLibraryItemId id).getD id]

variable (item : BilibiliTaskResultItem)

/-- `result_item_hls_session_ids`, up to the order and repetition of the ids. -/
def BilibiliTaskResultItem.hlsSessionIds : List String :=
  (item.playbackSession.elim [] fun session => hlsSessionIdentity session.id) ++
    (item.playbackSource.elim [] fun source => hlsSessionIdentity source.itemId) ++
    if item.playbackSource.isSome || item.playbackSession.isSome then
      hlsSessionIdentity item.id else []

variable (sessionId : String)

def BilibiliTaskResultItem.usesHlsSession : Bool :=
  item.hlsSessionIds.contains sessionId

variable (task : Task)

def Task.primaryHlsSessionId : Option String :=
  (task.playbackSession.map (·.id)).or (task.playbackSource.map (·.itemId))

def Task.usesHlsSessionAsPrimary (task : Task) (sessionId : String) : Bool :=
  task.primaryHlsSessionId == some sessionId

/-- `playback_hls_session_ids`, up to the order and repetition of the ids. -/
def Task.playbackHlsSessionIds : List String :=
  task.primaryHlsSessionId.toList ++
    task.resultItems.flatMap BilibiliTaskResultItem.hlsSessionIds

def BilibiliTaskResultItem.isPlayableOrCompleted : Bool :=
  item.state == .playable || item.state == .completed

def containsText (text part : String) : Bool :=
  (List.range (text.toList.length + 1)).any fun start =>
    part.toList.isPrefixOf (text.toList.drop start)

def BilibiliTaskResultItem.hasOnlinePlaybackAfterCacheFillFailure : Bool :=
  item.state == .failed && containsText item.message "offline cache fill failed" &&
    item.playbackSource.isSome && item.playbackSession.isSome

def BilibiliTaskResultItem.canServeOnlinePlaybackAfterTaskCompletion : Bool :=
  item.isPlayableOrCompleted || item.hasOnlinePlaybackAfterCacheFillFailure

def Task.hasPlayableOrCompletedResultSession (task : Task) (sessionId : String) : Bool :=
  task.resultItems.any fun item => item.usesHlsSession sessionId && item.isPlayableOrCompleted

def Task.completedHasPlayableResultSession (task : Task) (sessionId : String) : Bool :=
  task.state == .completed && task.resultItems.any fun item =>
    item.usesHlsSession sessionId && item.isPlayableOrCompleted ||
      item.usesHlsSession sessionId && item.hasOnlinePlaybackAfterCacheFillFailure

def Task.hasSuccessfulMediaResult : Bool :=
  if task.resultItems.isEmpty then
    (task.state == .succeeded || task.state == .completed) && task.libraryItemId != ""
  else task.resultItems.any fun item => item.state == .succeeded || item.state == .completed

variable (items : List BilibiliTaskResultItem)

def resultItemsProgress : Rat :=
  if items.isEmpty then 0
  else
    let finished := items.countP fun item =>
      item.state == .playable || item.state == .completed || item.state == .failed ||
        item.state == .cancelled
    max 0 (min 1 (finished / items.length))

def BilibiliTaskResultItem.withoutMedia : BilibiliTaskResultItem :=
  { item with libraryItemId := "", playbackSource := none, playbackSession := none }

def clearResultPlaybackMetadata (terminalState : TaskState) (terminalMessage : String) :
    List BilibiliTaskResultItem :=
  items.map fun item =>
    if item.state == .failed || item.state == .cancelled then item.withoutMedia
    else { item.withoutMedia with state := terminalState, message := terminalMessage }

/-- An item whose media is gone: the shape the `clear_*` functions give an item. -/
def BilibiliTaskResultItem.failedWith (message : String) : BilibiliTaskResultItem :=
  { item.withoutMedia with state := .failed, message := message }

def failSelectedItems (selected : BilibiliTaskResultItem → Bool) (message : String) :
    List BilibiliTaskResultItem × Bool :=
  (items.map fun item => if selected item then item.failedWith message else item,
    items.any selected)

def playableExpiredAfterRestartMessage : String :=
  "Playback media session expired during cache server restart."

def completedLibraryItemId : String := hlsLibraryItemPrefix ++ sessionId

variable (restorablePlayable restorableCompleted : List String)

def BilibiliTaskResultItem.canSurviveRestore : Bool :=
  match item.state with
  | .completed => item.hlsSessionIds.any fun sessionId =>
    restorableCompleted.contains sessionId &&
      item.libraryItemId == completedLibraryItemId sessionId
  | .playable => item.hlsSessionIds.any fun sessionId => restorablePlayable.contains sessionId
  | .failed => item.hasOnlinePlaybackAfterCacheFillFailure &&
      item.hlsSessionIds.any fun sessionId => restorablePlayable.contains sessionId
  | _ => false

def clearUnrestorableResultPlaybackMetadata : List BilibiliTaskResultItem × Bool :=
  failSelectedItems items
    (fun item => !item.canSurviveRestore restorablePlayable restorableCompleted &&
      item.canServeOnlinePlaybackAfterTaskCompletion)
    playableExpiredAfterRestartMessage

def clearUnrestorableResultPlaybackMetadataForSession (sessionId message : String) :
    List BilibiliTaskResultItem × Bool :=
  failSelectedItems items
    (fun item => item.canServeOnlinePlaybackAfterTaskCompletion && item.usesHlsSession sessionId)
    message

def clearCompletedResultCacheItemForSession (sessionId libraryItemId message : String) :
    List BilibiliTaskResultItem × Bool :=
  failSelectedItems items
    (fun item => item.libraryItemId == libraryItemId && item.state == .completed &&
      item.usesHlsSession sessionId)
    message

end NetPlayer.Tasks
