import Mathlib.Data.Int.Order.Basic
import NetPlayer.Library.ProtoLength
import NetPlayer.Tasks.Task

/-!
# Messages of a task's output

The protocol messages that a task's output is made of, with the length of their encoding.
A field of an enumeration is a 32-bit integer that an accessor decodes, and an unknown value
decodes to `unspecified`. A float is a rational number, or `none` when it is not finite.
-/

namespace NetPlayer.Outputs

open ProtoLength
open Tasks (TaskState)

variable (value : Int32)

/-- `TaskState::try_from` of a field, or the default. -/
def taskStateOf : TaskState :=
  match value.toInt with
  | 1 => .queued
  | 2 => .running
  | 3 => .succeeded
  | 4 => .failed
  | 5 => .cancelRequested
  | 6 => .cancelled
  | 7 => .planned
  | 8 => .preparing
  | 9 => .playable
  | 10 => .completed
  | _ => .unspecified

def taskStateFailed : Int32 := 4

inductive TaskProblemCategory where
  | unspecified | invalidRequest | notFound | conflict | authentication | permission
  | upstream | resourceLimit | unsupported | cancelled | internal
  deriving DecidableEq

def TaskProblemCategory.of : TaskProblemCategory :=
  match value.toInt with
  | 1 => .invalidRequest
  | 2 => .notFound
  | 3 => .conflict
  | 4 => .authentication
  | 5 => .permission
  | 6 => .upstream
  | 7 => .resourceLimit
  | 8 => .unsupported
  | 9 => .cancelled
  | 10 => .internal
  | _ => .unspecified

def categoryNotFound : Int32 := 2
def categoryUpstream : Int32 := 6
def categoryCancelled : Int32 := 9

inductive TaskArtifactKind where
  | unspecified | media | subtitle | timedComments | coverImage | chapters | metadata | other
  deriving DecidableEq

def TaskArtifactKind.of : TaskArtifactKind :=
  match value.toInt with
  | 1 => .media
  | 2 => .subtitle
  | 3 => .timedComments
  | 4 => .coverImage
  | 5 => .chapters
  | 6 => .metadata
  | 7 => .other
  | _ => .unspecified

inductive TaskArtifactState where
  | unspecified | pending | available | unavailable | deleted
  deriving DecidableEq

def TaskArtifactState.of : TaskArtifactState :=
  match value.toInt with
  | 1 => .pending
  | 2 => .available
  | 3 => .unavailable
  | 4 => .deleted
  | _ => .unspecified

def artifactUnavailable : Int32 := 3
def artifactDeleted : Int32 := 4

inductive BilibiliContentKind where
  | unspecified | videoPage | seasonEpisode | collectionItem
  deriving DecidableEq

def BilibiliContentKind.of : BilibiliContentKind :=
  match value.toInt with
  | 1 => .videoPage
  | 2 => .seasonEpisode
  | 3 => .collectionItem
  | _ => .unspecified

structure Timestamp where
  seconds : Int64
  nanos : Int32
  deriving DecidableEq

def Timestamp.encodedLen (time : Timestamp) : Nat :=
  int64Field time.seconds + int32Field time.nanos

structure PlaybackSource where
  itemId : String
  variantId : String
  protocol : Int32
  uri : String
  expiresAt : Option Timestamp
  deriving DecidableEq

def PlaybackSource.encodedLen (source : PlaybackSource) : Nat :=
  stringField source.itemId + stringField source.variantId + int32Field source.protocol +
    stringField source.uri + messageField Timestamp.encodedLen source.expiresAt

structure BilibiliContentIdentity where
  kind : Int32
  aid : UInt64
  bvid : String
  cid : UInt64
  epid : UInt64
  deriving DecidableEq

def BilibiliContentIdentity.encodedLen (identity : BilibiliContentIdentity) : Nat :=
  int32Field identity.kind + uint64Field identity.aid + stringField identity.bvid +
    uint64Field identity.cid + uint64Field identity.epid

structure BilibiliPlaybackVariant where
  id : String
  label : String
  sourceKind : String
  container : String
  videoCodec : String
  audioCodec : String
  width : Int32
  height : Int32
  bitrate : Int64
  sizeBytes : Int64
  deriving DecidableEq

def BilibiliPlaybackVariant.encodedLen (variant : BilibiliPlaybackVariant) : Nat :=
  stringField variant.id + stringField variant.label + stringField variant.sourceKind +
    stringField variant.container + stringField variant.videoCodec +
    stringField variant.audioCodec + int32Field variant.width + int32Field variant.height +
    int64Field variant.bitrate + int64Field variant.sizeBytes

structure LanTranscodingPlan where
  state : Int32
  profileId : String
  reason : String
  sourceVariantId : String
  targetContainer : String
  targetVideoCodec : String
  targetAudioCodec : String
  outputProtocol : Int32
  deriving DecidableEq

def LanTranscodingPlan.encodedLen (plan : LanTranscodingPlan) : Nat :=
  int32Field plan.state + stringField plan.profileId + stringField plan.reason +
    stringField plan.sourceVariantId + stringField plan.targetContainer +
    stringField plan.targetVideoCodec + stringField plan.targetAudioCodec +
    int32Field plan.outputProtocol

structure BilibiliPlaybackPolicy where
  transcodingPreference : Int32
  compatibleVariantPreference : Int32
  weakNetworkPreference : Int32
  deriving DecidableEq

def BilibiliPlaybackPolicy.encodedLen (policy : BilibiliPlaybackPolicy) : Nat :=
  int32Field policy.transcodingPreference + int32Field policy.compatibleVariantPreference +
    int32Field policy.weakNetworkPreference

structure BilibiliPlaybackSession where
  id : String
  title : String
  contentId : String
  selectedVariantId : String
  selectedVariant : Option BilibiliPlaybackVariant
  variants : List BilibiliPlaybackVariant
  transcodingPlan : Option LanTranscodingPlan
  effectivePolicy : Option BilibiliPlaybackPolicy
  deriving DecidableEq

def BilibiliPlaybackSession.encodedLen (session : BilibiliPlaybackSession) : Nat :=
  stringField session.id + stringField session.title + stringField session.contentId +
    stringField session.selectedVariantId +
    messageField BilibiliPlaybackVariant.encodedLen session.selectedVariant +
    repeatedField BilibiliPlaybackVariant.encodedLen session.variants +
    messageField LanTranscodingPlan.encodedLen session.transcodingPlan +
    messageField BilibiliPlaybackPolicy.encodedLen session.effectivePolicy

structure HlsCacheFillStatus where
  state : Int32
  failureKind : Int32
  completedBytes : UInt64
  totalBytes : UInt64
  totalBytesKnown : Bool
  representationId : String
  message : String
  deriving DecidableEq

def HlsCacheFillStatus.encodedLen (status : HlsCacheFillStatus) : Nat :=
  int32Field status.state + int32Field status.failureKind + uint64Field status.completedBytes +
    uint64Field status.totalBytes + boolField status.totalBytesKnown +
    stringField status.representationId + stringField status.message

structure BilibiliTaskResultDetails where
  identity : Option BilibiliContentIdentity
  playbackSession : Option BilibiliPlaybackSession
  hlsCacheFillStatus : Option HlsCacheFillStatus
  deriving DecidableEq

def BilibiliTaskResultDetails.encodedLen (details : BilibiliTaskResultDetails) : Nat :=
  messageField BilibiliContentIdentity.encodedLen details.identity +
    messageField BilibiliPlaybackSession.encodedLen details.playbackSession +
    messageField HlsCacheFillStatus.encodedLen details.hlsCacheFillStatus

structure TaskResultProviderDetails where
  bilibili : Option BilibiliTaskResultDetails
  deriving DecidableEq

def TaskResultProviderDetails.encodedLen (details : TaskResultProviderDetails) : Nat :=
  messageField BilibiliTaskResultDetails.encodedLen details.bilibili

structure TaskResultSubject where
  provider : String
  kind : String
  id : String
  index : UInt32
  deriving DecidableEq

def TaskResultSubject.encodedLen (subject : TaskResultSubject) : Nat :=
  stringField subject.provider + stringField subject.kind + stringField subject.id +
    uint32Field subject.index

structure TaskResultProgress where
  fraction : Option Rat
  completedBytes : Int64
  totalBytes : Int64
  totalBytesKnown : Bool
  phase : String
  message : String
  deriving DecidableEq

/-- A float takes eight bytes after its tag, and zero is left out. -/
def TaskResultProgress.encodedLen (progress : TaskResultProgress) : Nat :=
  (if progress.fraction = some 0 then 0 else 9) + int64Field progress.completedBytes +
    int64Field progress.totalBytes + boolField progress.totalBytesKnown +
    stringField progress.phase + stringField progress.message

structure TaskProblem where
  category : Int32
  code : String
  message : String
  retryable : Bool
  deriving DecidableEq

def TaskProblem.encodedLen (problem : TaskProblem) : Nat :=
  int32Field problem.category + stringField problem.code + stringField problem.message +
    boolField problem.retryable

structure CacheResourceRef where
  id : String
  uri : String
  contentType : String
  sizeBytes : Int64
  sizeKnown : Bool
  supportsByteRanges : Bool
  etag : String
  expiresAt : Option Timestamp
  deriving DecidableEq

def CacheResourceRef.encodedLen (resource : CacheResourceRef) : Nat :=
  stringField resource.id + stringField resource.uri + stringField resource.contentType +
    int64Field resource.sizeBytes + boolField resource.sizeKnown +
    boolField resource.supportsByteRanges + stringField resource.etag +
    messageField Timestamp.encodedLen resource.expiresAt

structure TaskArtifact where
  id : String
  kind : Int32
  state : Int32
  title : String
  format : String
  languageTag : String
  isAiGenerated : Bool
  resource : Option CacheResourceRef
  problem : Option TaskProblem
  libraryItemId : String
  deriving DecidableEq

def TaskArtifact.encodedLen (artifact : TaskArtifact) : Nat :=
  stringField artifact.id + int32Field artifact.kind + int32Field artifact.state +
    stringField artifact.title + stringField artifact.format +
    stringField artifact.languageTag + boolField artifact.isAiGenerated +
    messageField CacheResourceRef.encodedLen artifact.resource +
    messageField TaskProblem.encodedLen artifact.problem +
    stringField artifact.libraryItemId

structure TaskResult where
  id : String
  state : Int32
  title : String
  subtitle : String
  progress : Option TaskResultProgress
  problem : Option TaskProblem
  libraryItemId : String
  playbackSource : Option PlaybackSource
  artifacts : List TaskArtifact
  createdAt : Option Timestamp
  updatedAt : Option Timestamp
  subject : Option TaskResultSubject
  providerDetails : Option TaskResultProviderDetails
  deriving DecidableEq

def TaskResult.encodedLen (result : TaskResult) : Nat :=
  stringField result.id + int32Field result.state + stringField result.title +
    stringField result.subtitle + messageField TaskResultProgress.encodedLen result.progress +
    messageField TaskProblem.encodedLen result.problem + stringField result.libraryItemId +
    messageField PlaybackSource.encodedLen result.playbackSource +
    repeatedField TaskArtifact.encodedLen result.artifacts +
    messageField Timestamp.encodedLen result.createdAt +
    messageField Timestamp.encodedLen result.updatedAt +
    messageField TaskResultSubject.encodedLen result.subject +
    messageField TaskResultProviderDetails.encodedLen result.providerDetails

/-- `BilibiliTaskResultItem`, the fields that the legacy results are made from. -/
structure BilibiliTaskResultItem where
  id : String
  title : String
  subtitle : String
  sourceKind : String
  contentId : String
  index : UInt32
  state : Int32
  libraryItemId : String
  playbackSource : Option PlaybackSource
  playbackSession : Option BilibiliPlaybackSession
  identity : Option BilibiliContentIdentity
  hlsCacheFillStatus : Option HlsCacheFillStatus
  deriving DecidableEq

/-- `Task`, the fields that the legacy results are made from. -/
structure LegacyTask where
  id : String
  state : Int32
  title : String
  progress : Option Rat
  downloadedBytes : Int64
  totalBytes : Int64
  libraryItemId : String
  createdAt : Option Timestamp
  updatedAt : Option Timestamp
  playbackSource : Option PlaybackSource
  playbackSession : Option BilibiliPlaybackSession
  resultItems : List BilibiliTaskResultItem
  hlsCacheFillStatus : Option HlsCacheFillStatus
  deriving DecidableEq

def stringBytes (values : List String) : Nat :=
  (values.map String.utf8ByteSize).sum

def problemStringBytes (problem : TaskProblem) : Nat :=
  stringBytes [problem.code, problem.message]

def playbackSourceStringBytes (source : PlaybackSource) : Nat :=
  stringBytes [source.itemId, source.variantId, source.uri]

def resourceStringBytes (resource : CacheResourceRef) : Nat :=
  stringBytes [resource.id, resource.uri, resource.contentType, resource.etag]

def bilibiliPlaybackVariantStringBytes (variant : BilibiliPlaybackVariant) : Nat :=
  stringBytes [variant.id, variant.label, variant.sourceKind, variant.container,
    variant.videoCodec, variant.audioCodec]

def transcodingPlanStringBytes (plan : LanTranscodingPlan) : Nat :=
  stringBytes [plan.profileId, plan.reason, plan.sourceVariantId, plan.targetContainer,
    plan.targetVideoCodec, plan.targetAudioCodec]

def bilibiliPlaybackSessionStringBytes (session : BilibiliPlaybackSession) : Nat :=
  stringBytes [session.id, session.title, session.contentId, session.selectedVariantId] +
    session.selectedVariant.elim 0 bilibiliPlaybackVariantStringBytes +
    (session.variants.map bilibiliPlaybackVariantStringBytes).sum +
    session.transcodingPlan.elim 0 transcodingPlanStringBytes

def fillStatusStringBytes (status : HlsCacheFillStatus) : Nat :=
  stringBytes [status.representationId, status.message]

def bilibiliDetailsStringBytes (details : BilibiliTaskResultDetails) : Nat :=
  details.identity.elim 0 (fun identity => identity.bvid.utf8ByteSize) +
    details.playbackSession.elim 0 bilibiliPlaybackSessionStringBytes +
    details.hlsCacheFillStatus.elim 0 fillStatusStringBytes

def providerDetailsStringBytes (details : TaskResultProviderDetails) : Nat :=
  details.bilibili.elim 0 bilibiliDetailsStringBytes

def artifactStringBytes (artifact : TaskArtifact) : Nat :=
  stringBytes [artifact.id, artifact.title, artifact.format, artifact.languageTag,
    artifact.libraryItemId] +
    artifact.resource.elim 0 resourceStringBytes +
    artifact.problem.elim 0 problemStringBytes

def taskResultStringBytes (result : TaskResult) : Nat :=
  stringBytes [result.id, result.title, result.subtitle, result.libraryItemId] +
    result.progress.elim 0 (fun progress => stringBytes [progress.phase, progress.message]) +
    result.problem.elim 0 problemStringBytes +
    result.playbackSource.elim 0 playbackSourceStringBytes +
    result.subject.elim 0
      (fun subject => stringBytes [subject.provider, subject.kind, subject.id]) +
    result.providerDetails.elim 0 providerDetailsStringBytes +
    (result.artifacts.map artifactStringBytes).sum

end NetPlayer.Outputs
