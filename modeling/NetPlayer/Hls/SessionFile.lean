import NetPlayer.Hls.Adapter
import NetPlayer.RangeCache.Manifest

/-!
# The persisted session

What `session.json` holds: the session field by field and a schema version. The
persisted variants, requests and metadata have the fields of the records they
copy, so the model keeps these records; decoding a file gives back the record
that was encoded.
-/

namespace NetPlayer.Hls

open RangeCache (jsonArray jsonNat jsonObject jsonOption jsonString rangeMaxManifestBytes utf8)

def hlsCacheSchemaVersion : Nat := 1

structure PersistedHlsSession extends HlsPlaybackSession where
  schemaVersion : Nat
  deriving DecidableEq

def PersistedHlsSession.ofSession (session : HlsPlaybackSession) : PersistedHlsSession :=
  { toHlsPlaybackSession := session, schemaVersion := hlsCacheSchemaVersion }

def isCacheId (value : String) : Bool :=
  value != "" && value != "." && value != ".." && decide (value.utf8ByteSize ≤ 160) &&
    value.toList.all fun c => c.isAlphanum || c = '.' || c = '-' || c = '_'

def nonEmptyOr (value fallback : String) : String := if trim value = "" then fallback else value

def HlsTranscodingPlan.ofPersisted (plan : HlsTranscodingPlan) : HlsTranscodingPlan where
  state := plan.state
  profileId := nonEmptyOr plan.profileId HlsTranscodingPlan.default.profileId
  reason := nonEmptyOr plan.reason HlsTranscodingPlan.default.reason
  sourceVariantId := plan.sourceVariantId
  targetContainer := nonEmptyOr plan.targetContainer HlsTranscodingPlan.default.targetContainer
  targetVideoCodec := nonEmptyOr plan.targetVideoCodec HlsTranscodingPlan.default.targetVideoCodec
  targetAudioCodec := nonEmptyOr plan.targetAudioCodec HlsTranscodingPlan.default.targetAudioCodec
  outputProtocol := nonEmptyOr plan.outputProtocol HlsTranscodingPlan.default.outputProtocol

def HlsPlaybackSession.resources (session : HlsPlaybackSession) : List HlsMediaResource :=
  session.resourceVariants.flatMap HlsVariant.resources

/-- `HlsPlaybackSession::try_from` a persisted session. -/
def PersistedHlsSession.toSession (persisted : PersistedHlsSession) : Option HlsPlaybackSession :=
  if isCacheId persisted.id && persisted.resources.all fun resource => isCacheId resource.id then
    some { persisted.toHlsPlaybackSession with
      transcoding := HlsTranscodingPlan.ofPersisted persisted.transcoding }
  else none

def jsonBool (value : Bool) : Bytes := utf8 (if value then "true" else "false")

variable (indent : Nat)

def jsonStrings (values : List String) : Bytes :=
  jsonArray indent (values.map jsonString)

def BilibiliMediaRequestKind.text : BilibiliMediaRequestKind → String
  | .video => "video"
  | .audio => "audio"
  | .flvSegment => "flv_segment"

def BilibiliPlaybackVariantKind.text : BilibiliPlaybackVariantKind → String
  | .dash => "dash"
  | .flv => "flv"

def BilibiliContentKind.text : BilibiliContentKind → String
  | .videoPage => "video_page"
  | .seasonEpisode => "season_episode"
  | .collectionItem => "collection_item"

def HlsAbrGroupKind.text : HlsAbrGroupKind → String
  | .dashVideo => "dash_video"
  | .dashAudioOnly => "dash_audio_only"

def HlsTranscodingPlanState.text : HlsTranscodingPlanState → String
  | .disabled => "disabled"
  | .notRequired => "not_required"
  | .ready => "ready"
  | .unsupported => "unsupported"

def TranscodingPreference.text : TranscodingPreference → String
  | .auto => "auto"
  | .never => "never"
  | .force => "force"

def CompatibleVariantPreference.text : CompatibleVariantPreference → String
  | .preferCompatible => "prefer_compatible"
  | .preferRequested => "prefer_requested"

def WeakNetworkPreference.text : WeakNetworkPreference → String
  | .adaptive => "adaptive"
  | .holdDowngrade => "hold_downgrade"
  | .avPlayerManaged => "av_player_managed"

def cacheKeyJson (key : BilibiliMediaCacheKey) : Bytes :=
  jsonObject indent
    [("content_id", jsonString key.contentId),
      ("media_kind", jsonString key.mediaKind.text),
      ("stream_id", jsonOption jsonNat key.streamId),
      ("codecs", jsonOption jsonString key.codecs),
      ("source_hash", jsonString key.sourceHash)]

def headerJson (header : BilibiliHttpHeader) : Bytes :=
  jsonObject indent [("name", jsonString header.name), ("value", jsonString header.value)]

def requestJson (request : BilibiliMediaRequest) : Bytes :=
  jsonObject indent
    [("kind", jsonString request.kind.text),
      ("stream_id", jsonOption jsonNat request.streamId),
      ("url", jsonString request.url),
      ("backup_urls", jsonStrings (indent + 2) request.backupUrls),
      ("headers", jsonArray (indent + 2) (request.headers.map (headerJson (indent + 4)))),
      ("mime_type", jsonOption jsonString request.mimeType),
      ("codecs", jsonOption jsonString request.codecs),
      ("bandwidth", jsonOption jsonNat request.bandwidth),
      ("width", jsonOption jsonNat request.width),
      ("height", jsonOption jsonNat request.height),
      ("frame_rate", jsonOption jsonString request.frameRate),
      ("size", jsonOption jsonNat request.size),
      ("duration_seconds", jsonOption jsonNat request.durationSeconds),
      ("cache_key", cacheKeyJson (indent + 2) request.cacheKey)]

def resourceJson (resource : HlsMediaResource) : Bytes :=
  jsonObject indent
    [("id", jsonString resource.id), ("request", requestJson (indent + 2) resource.request)]

def variantJson (variant : HlsVariant) : Bytes :=
  jsonObject indent
    [("id", jsonString variant.id),
      ("bandwidth", jsonNat variant.bandwidth),
      ("codecs", jsonStrings (indent + 2) variant.codecs),
      ("width", jsonOption jsonNat variant.width),
      ("height", jsonOption jsonNat variant.height),
      ("duration_seconds", jsonNat variant.durationSeconds),
      ("video", resourceJson (indent + 2) variant.video),
      ("audio", jsonOption (resourceJson (indent + 2)) variant.audio)]

def identityJson (identity : BilibiliContentIdentity) : Bytes :=
  jsonObject indent
    [("kind", jsonString identity.kind.text),
      ("aid", jsonOption jsonNat identity.aid),
      ("bvid", jsonOption jsonString identity.bvid),
      ("cid", jsonOption jsonNat identity.cid),
      ("epid", jsonOption jsonNat identity.epid)]

def groupJson (group : HlsAbrGroup) : Bytes :=
  jsonObject indent
    [("id", jsonString group.id),
      ("kind", jsonString group.kind.text),
      ("variant_ids", jsonStrings (indent + 2) group.variantIds),
      ("level_count", jsonNat group.levelCount),
      ("min_bandwidth", jsonOption jsonNat group.minBandwidth),
      ("max_bandwidth", jsonOption jsonNat group.maxBandwidth)]

def levelJson (level : HlsAbrLevel) : Bytes :=
  jsonObject indent
    [("group_id", jsonString level.groupId),
      ("level_index", jsonNat level.levelIndex),
      ("level_count", jsonNat level.levelCount),
      ("switchable", jsonBool level.switchable)]

def mediaMetadataJson (media : HlsMediaResourceMetadata) : Bytes :=
  jsonObject indent
    [("kind", jsonString media.kind.text),
      ("stream_id", jsonOption jsonNat media.streamId),
      ("mime_type", jsonOption jsonString media.mimeType),
      ("codecs", jsonOption jsonString media.codecs),
      ("bandwidth", jsonOption jsonNat media.bandwidth),
      ("width", jsonOption jsonNat media.width),
      ("height", jsonOption jsonNat media.height),
      ("frame_rate", jsonOption jsonString media.frameRate),
      ("size", jsonOption jsonNat media.size),
      ("duration_seconds", jsonOption jsonNat media.durationSeconds),
      ("cache_key", cacheKeyJson (indent + 2) media.cacheKey)]

def variantMetadataJson (metadata : HlsVariantMetadata) : Bytes :=
  jsonObject indent
    [("id", jsonString metadata.id),
      ("kind", jsonString metadata.kind.text),
      ("content_id", jsonString metadata.contentId),
      ("bandwidth", jsonOption jsonNat metadata.bandwidth),
      ("codecs", jsonStrings (indent + 2) metadata.codecs),
      ("mime_types", jsonStrings (indent + 2) metadata.mimeTypes),
      ("width", jsonOption jsonNat metadata.width),
      ("height", jsonOption jsonNat metadata.height),
      ("frame_rate", jsonOption jsonString metadata.frameRate),
      ("duration_seconds", jsonOption jsonNat metadata.durationSeconds),
      ("abr", jsonOption (levelJson (indent + 2)) metadata.abr),
      ("media", jsonArray (indent + 2) (metadata.media.map (mediaMetadataJson (indent + 4))))]

def transcodingJson (plan : HlsTranscodingPlan) : Bytes :=
  jsonObject indent
    [("state", jsonString plan.state.text),
      ("profile_id", jsonString plan.profileId),
      ("reason", jsonString plan.reason),
      ("source_variant_id", jsonString plan.sourceVariantId),
      ("target_container", jsonString plan.targetContainer),
      ("target_video_codec", jsonString plan.targetVideoCodec),
      ("target_audio_codec", jsonString plan.targetAudioCodec),
      ("output_protocol", jsonString plan.outputProtocol)]

def policyJson (policy : PlaybackPolicy) : Bytes :=
  jsonObject indent
    [("transcoding_preference", jsonString policy.transcodingPreference.text),
      ("compatible_variant_preference", jsonString policy.compatibleVariantPreference.text),
      ("weak_network_preference", jsonString policy.weakNetworkPreference.text)]

def PersistedHlsSession.toVecPretty (persisted : PersistedHlsSession) : Bytes :=
  jsonObject 0
    [("schema_version", jsonNat persisted.schemaVersion),
      ("id", jsonString persisted.id),
      ("title", jsonString persisted.title),
      ("accepted_identity", jsonOption (identityJson 2) persisted.acceptedIdentity),
      ("variant", variantJson 2 persisted.variant),
      ("alternate_variants", jsonArray 2 (persisted.alternateVariants.map (variantJson 4))),
      ("advertise_alternate_variants", jsonBool persisted.advertiseAlternateVariants),
      ("abr", jsonObject 2 [("groups", jsonArray 4 (persisted.abr.groups.map (groupJson 6)))]),
      ("variants", jsonArray 2 (persisted.variants.map (variantMetadataJson 4))),
      ("transcoding", transcodingJson 2 persisted.transcoding),
      ("effective_policy", policyJson 2 persisted.effectivePolicy)]

def PersistedHlsSession.fileLength (persisted : PersistedHlsSession) : Nat :=
  persisted.toVecPretty.length + 1

inductive SessionError
  | io
  | invalidIdentifier
  | sizeBound
  | rejected (stage : String)
  | sessionRemoving
  deriving DecidableEq

def validateCacheId (value : String) : Except SessionError Unit :=
  if isCacheId value then .ok () else .error .invalidIdentifier

/-- The part of `read_session_manifest_for_publication` after the file is open. -/
def readForPublication (sessionId : String) (persisted : PersistedHlsSession) :
    Except SessionError HlsPlaybackSession :=
  if rangeMaxManifestBytes < persisted.fileLength then .error .sizeBound
  else if persisted.schemaVersion ≠ hlsCacheSchemaVersion ∨ persisted.id ≠ sessionId then
    .error (.rejected "manifest-binding")
  else
    match persisted.toSession with
    | some session => .ok session
    | none => .error (.rejected "manifest-validation")

def loadFromDirectory (directorySessionId : String) (persisted : PersistedHlsSession) :
    Option HlsPlaybackSession :=
  if !isCacheId directorySessionId then none
  else if persisted.schemaVersion ≠ hlsCacheSchemaVersion then none
  else if persisted.id ≠ directorySessionId then none
  else persisted.toSession

variable {session : HlsPlaybackSession} {persisted : PersistedHlsSession}

theorem toSession_some (h : persisted.toSession = some session) :
    session = { persisted.toHlsPlaybackSession with
      transcoding := HlsTranscodingPlan.ofPersisted persisted.transcoding } := by
  unfold PersistedHlsSession.toSession at h
  split at h
  · exact (Option.some.inj h).symm
  · cases h

theorem readForPublication_ok {sessionId : String}
    (h : readForPublication sessionId persisted = .ok session) :
    persisted.fileLength ≤ rangeMaxManifestBytes ∧ persisted.toSession = some session := by
  unfold readForPublication at h
  split at h
  · cases h
  rename_i hshort
  split at h
  · cases h
  split at h
  · rename_i found hf
    cases h
    exact ⟨Nat.le_of_not_lt hshort, hf⟩
  · cases h

/-- A plan that no reader fills in: the constructors build only such plans. -/
structure PlanComplete (plan : HlsTranscodingPlan) : Prop where
  profileId : trim plan.profileId ≠ ""
  reason : trim plan.reason ≠ ""
  targetContainer : trim plan.targetContainer ≠ ""
  targetVideoCodec : trim plan.targetVideoCodec ≠ ""
  targetAudioCodec : trim plan.targetAudioCodec ≠ ""
  outputProtocol : trim plan.outputProtocol ≠ ""

theorem withState_complete {state : HlsTranscodingPlanState} {sourceVariantId reason : String}
    (h : trim reason ≠ "") :
    PlanComplete (HlsTranscodingPlan.withState state sourceVariantId reason) := by
  constructor
  · show trim "avplayer-h264-aac-hls-v1" ≠ ""
    decide
  · exact h
  · show trim "hls/fmp4" ≠ ""
    decide
  · show trim "h264" ≠ ""
    decide
  · show trim "aac" ≠ ""
    decide
  · show trim "hls" ≠ ""
    decide

theorem PlanComplete.ofPersisted {plan : HlsTranscodingPlan} (h : PlanComplete plan) :
    HlsTranscodingPlan.ofPersisted plan = plan := by
  unfold HlsTranscodingPlan.ofPersisted nonEmptyOr
  rw [if_neg h.profileId, if_neg h.reason, if_neg h.targetContainer, if_neg h.targetVideoCodec,
    if_neg h.targetAudioCodec, if_neg h.outputProtocol]

/-- The resource ids name files and the plan is complete. -/
structure WellFormed (session : HlsPlaybackSession) : Prop where
  resources : ∀ resource ∈ session.resources, isCacheId resource.id = true
  transcoding : PlanComplete session.transcoding

structure Storable (session : HlsPlaybackSession) : Prop extends WellFormed session where
  id : isCacheId session.id = true

theorem Storable.toSession (h : Storable session) :
    (PersistedHlsSession.ofSession session).toSession = some session := by
  have hrscs : session.resources.all (fun resource => isCacheId resource.id) = true := by
    rw [List.all_eq_true]
    exact h.resources
  have hv : (isCacheId session.id &&
      session.resources.all fun resource => isCacheId resource.id) = true := by
    rw [h.id, hrscs]
    rfl
  refine (if_pos hv).trans ?_
  simp only [PersistedHlsSession.ofSession, h.transcoding.ofPersisted]

theorem Storable.loadFromDirectory (h : Storable session) :
    loadFromDirectory session.id (PersistedHlsSession.ofSession session) = some session := by
  unfold Hls.loadFromDirectory
  rw [h.id, h.toSession]
  simp [PersistedHlsSession.ofSession]

theorem Storable.readForPublication (h : Storable session) :
    readForPublication session.id (PersistedHlsSession.ofSession session) = .ok session ↔
      (PersistedHlsSession.ofSession session).fileLength ≤ rangeMaxManifestBytes := by
  unfold Hls.readForPublication
  by_cases hlong : rangeMaxManifestBytes <
      (PersistedHlsSession.ofSession session).fileLength
  · rw [if_pos hlong]
    simp only [reduceCtorEq, false_iff]
    omega
  · rw [if_neg hlong, h.toSession]
    simp only [PersistedHlsSession.ofSession, ne_eq, not_true_eq_false, or_self, if_false, true_iff]
    exact Nat.le_of_not_lt hlong

end NetPlayer.Hls
