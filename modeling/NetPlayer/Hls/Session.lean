import Mathlib.Data.Nat.Notation

/-!
# Playback sessions

The records a playback session is made of: the media requests the adapter plans,
the variants built from them, the metadata published beside them, and the
transcoding plan and policy the session was accepted with.
-/

namespace NetPlayer.Hls

inductive BilibiliMediaRequestKind
  | video
  | audio
  | flvSegment
  deriving DecidableEq

inductive BilibiliPlaybackVariantKind
  | dash
  | flv
  deriving DecidableEq

structure BilibiliHttpHeader where
  name : String
  value : String
  deriving DecidableEq

structure BilibiliMediaCacheKey where
  contentId : String
  mediaKind : BilibiliMediaRequestKind
  streamId : Option Nat
  codecs : Option String
  sourceHash : String
  deriving DecidableEq

structure BilibiliMediaRequest where
  kind : BilibiliMediaRequestKind
  streamId : Option Nat
  url : String
  backupUrls : List String
  headers : List BilibiliHttpHeader
  mimeType : Option String
  codecs : Option String
  bandwidth : Option Nat
  width : Option Nat
  height : Option Nat
  frameRate : Option String
  size : Option Nat
  durationSeconds : Option Nat
  cacheKey : BilibiliMediaCacheKey
  deriving DecidableEq

inductive BilibiliContentKind
  | videoPage
  | seasonEpisode
  | collectionItem
  deriving DecidableEq

structure BilibiliContentIdentity where
  kind : BilibiliContentKind
  aid : Option Nat
  bvid : Option String
  cid : Option Nat
  epid : Option Nat
  deriving DecidableEq

structure HlsMediaResource where
  id : String
  request : BilibiliMediaRequest
  deriving DecidableEq

structure HlsVariant where
  id : String
  bandwidth : Nat
  codecs : List String
  width : Option Nat
  height : Option Nat
  durationSeconds : Nat
  video : HlsMediaResource
  audio : Option HlsMediaResource
  deriving DecidableEq

inductive HlsAbrGroupKind
  | dashVideo
  | dashAudioOnly
  deriving DecidableEq

structure HlsAbrGroup where
  id : String
  kind : HlsAbrGroupKind
  variantIds : List String
  levelCount : Nat
  minBandwidth : Option Nat
  maxBandwidth : Option Nat
  deriving DecidableEq

structure HlsAbrMetadata where
  groups : List HlsAbrGroup
  deriving DecidableEq

structure HlsAbrLevel where
  groupId : String
  levelIndex : Nat
  levelCount : Nat
  switchable : Bool
  deriving DecidableEq

structure HlsMediaResourceMetadata where
  kind : BilibiliMediaRequestKind
  streamId : Option Nat
  mimeType : Option String
  codecs : Option String
  bandwidth : Option Nat
  width : Option Nat
  height : Option Nat
  frameRate : Option String
  size : Option Nat
  durationSeconds : Option Nat
  cacheKey : BilibiliMediaCacheKey
  deriving DecidableEq

structure HlsVariantMetadata where
  id : String
  kind : BilibiliPlaybackVariantKind
  contentId : String
  bandwidth : Option Nat
  codecs : List String
  mimeTypes : List String
  width : Option Nat
  height : Option Nat
  frameRate : Option String
  durationSeconds : Option Nat
  abr : Option HlsAbrLevel
  media : List HlsMediaResourceMetadata
  deriving DecidableEq

inductive HlsTranscodingPlanState
  | disabled
  | notRequired
  | ready
  | unsupported
  deriving DecidableEq

structure HlsTranscodingPlan where
  state : HlsTranscodingPlanState
  profileId : String
  reason : String
  sourceVariantId : String
  targetContainer : String
  targetVideoCodec : String
  targetAudioCodec : String
  outputProtocol : String
  deriving DecidableEq

inductive TranscodingPreference
  | auto
  | never
  | force
  deriving DecidableEq

inductive CompatibleVariantPreference
  | preferCompatible
  | preferRequested
  deriving DecidableEq

inductive WeakNetworkPreference
  | adaptive
  | holdDowngrade
  | avPlayerManaged
  deriving DecidableEq

structure PlaybackPolicy where
  transcodingPreference : TranscodingPreference
  compatibleVariantPreference : CompatibleVariantPreference
  weakNetworkPreference : WeakNetworkPreference
  deriving DecidableEq

structure HlsPlaybackSession where
  id : String
  title : String
  acceptedIdentity : Option BilibiliContentIdentity
  variant : HlsVariant
  alternateVariants : List HlsVariant
  advertiseAlternateVariants : Bool
  abr : HlsAbrMetadata
  variants : List HlsVariantMetadata
  transcoding : HlsTranscodingPlan
  effectivePolicy : PlaybackPolicy
  deriving DecidableEq

def HlsPlaybackSession.resourceVariants (session : HlsPlaybackSession) : List HlsVariant :=
  session.variant :: session.alternateVariants

def HlsVariant.resources (variant : HlsVariant) : List HlsMediaResource :=
  variant.video :: variant.audio.toList

def sampleRequest (kind : BilibiliMediaRequestKind) (url : String) : BilibiliMediaRequest where
  kind := kind
  streamId := some 64
  url := url
  backupUrls := []
  headers := []
  mimeType := some "video/mp4"
  codecs := some "avc1.640028"
  bandwidth := some 2000000
  width := some 1920
  height := some 1080
  frameRate := some "30"
  size := none
  durationSeconds := some 60
  cacheKey := ⟨"7", kind, some 64, some "avc1.640028", "source"⟩

def sampleVariant (url : String) : HlsVariant where
  id := "1080p"
  bandwidth := 2000000
  codecs := ["avc1.640028"]
  width := some 1920
  height := some 1080
  durationSeconds := 60
  video := ⟨"video.m4s", sampleRequest .video url⟩
  audio := none

def sampleSession (id url : String) : HlsPlaybackSession where
  id := id
  title := "Episode"
  acceptedIdentity := some ⟨.videoPage, some 5, none, some 7, none⟩
  variant := sampleVariant url
  alternateVariants := []
  advertiseAlternateVariants := true
  abr := ⟨[]⟩
  variants := []
  transcoding := ⟨.disabled, "", "", "", "", "", "", ""⟩
  effectivePolicy := ⟨.auto, .preferCompatible, .adaptive⟩

end NetPlayer.Hls
