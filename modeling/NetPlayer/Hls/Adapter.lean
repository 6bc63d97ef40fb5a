import NetPlayer.Hls.Session

/-!
# From a playback plan to a session

What the adapter plans for an entry, and how a session is built from one of the
entry's variants: its resources, its metadata and the alternates it may switch
to.
-/

namespace NetPlayer.Hls

open List

structure BilibiliPlaybackAbrGroup where
  id : String
  kind : HlsAbrGroupKind
  variantIds : List String
  levelCount : Nat
  minBandwidth : Option Nat
  maxBandwidth : Option Nat
  deriving DecidableEq

structure BilibiliPlaybackAbrMetadata where
  groups : List BilibiliPlaybackAbrGroup
  deriving DecidableEq

structure BilibiliPlaybackAbrLevel where
  groupId : String
  levelIndex : Nat
  levelCount : Nat
  switchable : Bool
  deriving DecidableEq

structure BilibiliPlaybackVariant where
  id : String
  kind : BilibiliPlaybackVariantKind
  contentId : String
  bandwidth : Option Nat
  codecs : List String
  mimeTypes : List String
  width : Option Nat
  height : Option Nat
  frameRate : Option String
  durationSeconds : Option Nat
  abr : Option BilibiliPlaybackAbrLevel
  video : Option BilibiliMediaRequest
  audio : Option BilibiliMediaRequest
  flvSegments : List BilibiliMediaRequest
  deriving DecidableEq

/-- The fields of an entry that a session is built from and refreshed with. -/
structure BilibiliPlaybackEntry where
  aid : Nat
  bvid : Option String
  cid : Nat
  epid : Option Nat
  abr : BilibiliPlaybackAbrMetadata
  variants : List BilibiliPlaybackVariant
  deriving DecidableEq

structure BilibiliPlaybackPlan where
  entries : List BilibiliPlaybackEntry
  deriving DecidableEq

structure HlsSessionError where
  message : String
  deriving DecidableEq

def isWhitespace (c : Char) : Bool :=
  let n := c.toNat
  (0x09 ≤ n && n ≤ 0x0D) || n = 0x20 || n = 0x85 || n = 0xA0 || n = 0x1680 ||
    (0x2000 ≤ n && n ≤ 0x200A) || n = 0x2028 || n = 0x2029 || n = 0x202F || n = 0x205F ||
    n = 0x3000

def trim (value : String) : String :=
  String.ofList ((value.toList.dropWhile isWhitespace).reverse.dropWhile isWhitespace).reverse

theorem trim_of_notWhitespace {value : String}
    (hclean : ∀ c ∈ value.toList, isWhitespace c = false) : trim value = value := by
  unfold trim
  have hfront : value.toList.dropWhile isWhitespace = value.toList := by
    cases hlist : value.toList with
    | nil => rfl
    | cons c rest =>
      rw [dropWhile_cons_of_neg]
      rw [hclean c (by rw [hlist]; exact mem_cons_self)]
      exact Bool.false_ne_true
  have hback : value.toList.reverse.dropWhile isWhitespace = value.toList.reverse := by
    cases hlist : value.toList.reverse with
    | nil => rfl
    | cons c rest =>
      have hm : c ∈ value.toList := by
        rw [← mem_reverse, hlist]
        exact mem_cons_self
      rw [dropWhile_cons_of_neg]
      rw [hclean c hm]
      exact Bool.false_ne_true
  rw [hfront, hback, reverse_reverse, String.ofList_toList]

def splitAt (separator : Char) (value : String) : List String :=
  (value.toList.splitOn separator).map String.ofList

def stripPrefix (value start : String) : Option String :=
  if value.toList.take start.length = start.toList then
    some (String.ofList (value.toList.drop start.length))
  else none

/-- `str::parse::<u8>`: digits after an optional plus sign. -/
def parseU8 (value : String) : Option Nat :=
  let digits :=
    match value.toList with
    | '+' :: rest => rest
    | digits => digits
  if digits.isEmpty || !digits.all Char.isDigit then none
  else
    let number := digits.foldl (fun number digit => number * 10 + (digit.toNat - '0'.toNat)) 0
    if number < 256 then some number else none

def codecListMatches (codecs : String) (predicate : String → Bool) : Bool :=
  (splitAt ',' codecs).any predicate

def isH264Codec (codec : String) : Bool :=
  let codec := (trim codec).toLower
  (stripPrefix codec "avc1").isSome || (stripPrefix codec "avc3").isSome

def isAacCodec (codec : String) : Bool :=
  match stripPrefix (trim codec).toLower "mp4a.40." with
  | none => false
  | some audioObjectType =>
    (parseU8 audioObjectType).any
      ([1, 2, 3, 4, 5, 6, 17, 19, 20, 23, 29, 39, 42].contains ·)

def lanTranscodingMaxWidth : Nat := 1920
def lanTranscodingMaxHeight : Nat := 1080
def lanTranscodingMaxVideoBandwidthBps : Nat := 10000000
def lanTranscodingAudioBandwidthBps : Nat := 128000

/-- `parse_frame_rate` works on 64-bit floats: `bounded rate` says that the trimmed
text is a finite rate above zero and not above 60. -/
class FrameRates where
  bounded : String → Bool

variable (variant : BilibiliPlaybackVariant)

def variantHasCodec (request : Option BilibiliMediaRequest) (predicate : String → Bool) : Bool :=
  match request.bind BilibiliMediaRequest.codecs with
  | some codecs => codecListMatches codecs predicate
  | none => variant.codecs.any (codecListMatches · predicate)

def variantHasAvplayerH264AacHlsCodecs : Bool :=
  if variant.kind ≠ .dash then false
  else
    match variant.video with
    | none => false
    | some video =>
      variantHasCodec variant (some video) isH264Codec &&
        variant.audio.all fun audio => variantHasCodec variant (some audio) isAacCodec

def boundedU32WithEvidence (first second : Option Nat) (max : Nat) : Bool :=
  (first.isSome || second.isSome) &&
    (first.toList ++ second.toList).all fun value => 0 < value && value ≤ max

def boundedOptionalU64 (value : Option Nat) (max : Nat) : Bool :=
  value.all fun value => 0 < value && value ≤ max

def transcodingProfileTotalBandwidth (hasAudio : Bool) : Nat :=
  lanTranscodingMaxVideoBandwidthBps + if hasAudio then lanTranscodingAudioBandwidthBps else 0

variable (video : BilibiliMediaRequest)

def boundedBandwidthWithEvidence : Bool :=
  let audioBandwidth := variant.audio.bind BilibiliMediaRequest.bandwidth
  let hasComponentEvidence :=
    video.bandwidth.isSome && (variant.audio.isNone || audioBandwidth.isSome)
  (variant.bandwidth.isSome || hasComponentEvidence) &&
    boundedOptionalU64 variant.bandwidth
      (transcodingProfileTotalBandwidth variant.audio.isSome) &&
    boundedOptionalU64 video.bandwidth lanTranscodingMaxVideoBandwidthBps &&
    boundedOptionalU64 audioBandwidth lanTranscodingAudioBandwidthBps

def boundedFrameRateWithEvidence [FrameRates] (first second : Option String) : Bool :=
  (first.isSome || second.isSome) && (first.toList ++ second.toList).all FrameRates.bounded

def variantIsWithinTranscodingProfileEnvelope [FrameRates] (variant : BilibiliPlaybackVariant)
    (video : BilibiliMediaRequest) : Bool :=
  boundedU32WithEvidence variant.width video.width lanTranscodingMaxWidth &&
    boundedU32WithEvidence variant.height video.height lanTranscodingMaxHeight &&
    boundedFrameRateWithEvidence variant.frameRate video.frameRate &&
    boundedBandwidthWithEvidence variant video

def isHexDigit (c : Char) : Bool :=
  c.isDigit || ('a' ≤ c && c ≤ 'f') || ('A' ≤ c && c ≤ 'F')

/-- `u8::from_str_radix(.., 16)` on two hexadecimal digits in lower case. -/
def hexByte (digits : List Char) : Nat :=
  digits.foldl (fun number c =>
    number * 16 + if c.isDigit then c.toNat - '0'.toNat else c.toNat - 'a'.toNat + 10) 0

def h264CodecIsWithinTranscodingProfile (codec : String) : Bool :=
  let codec := (trim codec).toLower
  match ((stripPrefix codec "avc1.").or (stripPrefix codec "avc3.")).bind
      fun value => (splitAt '.' value).head? with
  | none => false
  | some profileLevelId =>
    let digits := profileLevelId.toList
    if digits.length ≠ 6 || !digits.all isHexDigit then false
    else
      [0x42, 0x4D, 0x64].contains (hexByte (digits.take 2)) &&
        decide (hexByte (digits.drop 4) ≤ 0x2A)

def codecListsH264AreWithinTranscodingProfile (lists : List String) : Bool :=
  let codecs := (lists.flatMap (splitAt ',')).filter isH264Codec
  !codecs.isEmpty && codecs.all h264CodecIsWithinTranscodingProfile

def variantH264LevelIsWithinTranscodingProfile : Bool :=
  match video.codecs with
  | some codecs => codecListsH264AreWithinTranscodingProfile [codecs]
  | none => codecListsH264AreWithinTranscodingProfile variant.codecs

def variantIsAvplayerH264AacHlsCompatible [FrameRates] (variant : BilibiliPlaybackVariant) : Bool :=
  variantHasAvplayerH264AacHlsCodecs variant &&
    variant.video.any fun video =>
      variantIsWithinTranscodingProfileEnvelope variant video &&
        variantH264LevelIsWithinTranscodingProfile variant video

def videoSegmentId : String := "video.m4s"
def audioSegmentId : String := "audio.m4s"
def defaultBandwidth : Nat := 1000000
def defaultDurationSeconds : Nat := 1

def pushUniqueCodec (codecs : List String) (codec : String) : List String :=
  let codec := trim codec
  if codec = "" || codecs.contains codec then codecs else codecs ++ [codec]

def pushMatchingVariantCodecs (codecs variantCodecs : List String) (predicate : String → Bool) :
    List String :=
  ((variantCodecs.flatMap (splitAt ',')).filter predicate).foldl pushUniqueCodec codecs

def hlsVariantCodecs (audio : Option BilibiliMediaRequest) : List String :=
  let codecs :=
    match video.codecs with
    | some videoCodecs => pushUniqueCodec [] videoCodecs
    | none => variant.codecs.foldl pushUniqueCodec []
  match audio.bind BilibiliMediaRequest.codecs with
  | some audioCodecs => pushUniqueCodec codecs audioCodecs
  | none =>
    if audio.isSome then pushMatchingVariantCodecs codecs variant.codecs isAacCodec else codecs

def HlsVariant.fromAdapterWithResourceIds (videoId audioId : String) :
    Except HlsSessionError HlsVariant :=
  match variant.video with
  | none => .error ⟨"Progressive HLS playback requires a video media request."⟩
  | some video =>
    .ok {
      id := variant.id
      bandwidth := (variant.bandwidth.or video.bandwidth).getD defaultBandwidth
      codecs := hlsVariantCodecs variant video variant.audio
      width := variant.width
      height := variant.height
      durationSeconds :=
        (variant.durationSeconds.or video.durationSeconds).getD defaultDurationSeconds
      video := ⟨videoId, video⟩
      audio := variant.audio.map fun audio => ⟨audioId, audio⟩ }

def HlsVariant.fromAdapter : Except HlsSessionError HlsVariant :=
  fromAdapterWithResourceIds variant videoSegmentId audioSegmentId

def HlsMediaResourceMetadata.fromRequest (request : BilibiliMediaRequest) :
    HlsMediaResourceMetadata where
  kind := request.kind
  streamId := request.streamId
  mimeType := request.mimeType
  codecs := request.codecs
  bandwidth := request.bandwidth
  width := request.width
  height := request.height
  frameRate := request.frameRate
  size := request.size
  durationSeconds := request.durationSeconds
  cacheKey := request.cacheKey

def HlsAbrLevel.fromAdapter (level : BilibiliPlaybackAbrLevel) : HlsAbrLevel :=
  ⟨level.groupId, level.levelIndex, level.levelCount, level.switchable⟩

def HlsAbrGroup.fromAdapter (group : BilibiliPlaybackAbrGroup) : HlsAbrGroup :=
  ⟨group.id, group.kind, group.variantIds, group.levelCount, group.minBandwidth,
    group.maxBandwidth⟩

def HlsAbrMetadata.fromAdapter (metadata : BilibiliPlaybackAbrMetadata) : HlsAbrMetadata :=
  ⟨metadata.groups.map HlsAbrGroup.fromAdapter⟩

def HlsVariantMetadata.fromAdapter (variant : BilibiliPlaybackVariant) : HlsVariantMetadata where
  id := variant.id
  kind := variant.kind
  contentId := variant.contentId
  bandwidth := variant.bandwidth
  codecs := variant.codecs
  mimeTypes := variant.mimeTypes
  width := variant.width
  height := variant.height
  frameRate := variant.frameRate
  durationSeconds := variant.durationSeconds
  abr := variant.abr.map HlsAbrLevel.fromAdapter
  media := (variant.video.toList ++ variant.audio.toList ++ variant.flvSegments).map
    HlsMediaResourceMetadata.fromRequest

def hasMatchingAudioPresence (selectedVariant variant : BilibiliPlaybackVariant) : Bool :=
  selectedVariant.audio.isSome == variant.audio.isSome

def isSwitchableAlternateVariant (selectedVariant variant : BilibiliPlaybackVariant) : Bool :=
  match selectedVariant.abr, variant.abr with
  | some selectedAbr, some variantAbr =>
    selectedAbr.switchable && variantAbr.switchable && selectedAbr.groupId == variantAbr.groupId
  | _, _ => false

def isAvplayerSafeAlternateVariant [FrameRates] (variant : BilibiliPlaybackVariant) : Bool :=
  variant.kind == .dash && variantIsAvplayerH264AacHlsCompatible variant

/-- A variant that the loop of `playable_alternate_variants` does not skip. -/
def isPlayableAlternate [FrameRates] (selectedVariant variant : BilibiliPlaybackVariant) : Bool :=
  variant.id != selectedVariant.id && isSwitchableAlternateVariant selectedVariant variant &&
    hasMatchingAudioPresence selectedVariant variant && isAvplayerSafeAlternateVariant variant

/-- The loop over the variants, `index` being one more than the alternates so far. -/
def alternatesFrom [FrameRates] (selectedVariant : BilibiliPlaybackVariant) :
    Nat → List BilibiliPlaybackVariant → Except HlsSessionError (List HlsVariant)
  | _, [] => .ok []
  | index, variant :: rest =>
    if isPlayableAlternate selectedVariant variant then do
      let alternate ← HlsVariant.fromAdapterWithResourceIds variant
        ("v" ++ toString index ++ "-video.m4s") ("v" ++ toString index ++ "-audio.m4s")
      let alternates ← alternatesFrom selectedVariant (index + 1) rest
      pure (alternate :: alternates)
    else alternatesFrom selectedVariant index rest

def playableAlternateVariants [FrameRates] (selectedVariant : BilibiliPlaybackVariant)
    (variants : List BilibiliPlaybackVariant) : Except HlsSessionError (List HlsVariant) :=
  if !variantHasAvplayerH264AacHlsCodecs selectedVariant then .ok []
  else alternatesFrom selectedVariant 1 variants

/-- `HlsTranscodingPlan::with_state`: the target is always the LAN profile. -/
def HlsTranscodingPlan.withState (state : HlsTranscodingPlanState)
    (sourceVariantId reason : String) : HlsTranscodingPlan where
  state := state
  profileId := "avplayer-h264-aac-hls-v1"
  reason := reason
  sourceVariantId := sourceVariantId
  targetContainer := "hls/fmp4"
  targetVideoCodec := "h264"
  targetAudioCodec := "aac"
  outputProtocol := "hls"

def HlsTranscodingPlan.default : HlsTranscodingPlan :=
  withState .disabled "" "LAN transcoding was not planned for this session."

def PlaybackPolicy.default : PlaybackPolicy := ⟨.auto, .preferCompatible, .adaptive⟩

def HlsPlaybackSession.fromSelectedVariant (sessionId title : String)
    (variant : BilibiliPlaybackVariant) : Except HlsSessionError HlsPlaybackSession :=
  if variant.kind ≠ .dash then
    .error ⟨"Progressive HLS playback requires a DASH playback variant."⟩
  else do
    let hlsVariant ← HlsVariant.fromAdapter variant
    pure {
      id := sessionId
      title := title
      acceptedIdentity := none
      variant := hlsVariant
      alternateVariants := []
      advertiseAlternateVariants := true
      abr := ⟨[]⟩
      variants := [HlsVariantMetadata.fromAdapter variant]
      transcoding := .default
      effectivePolicy := .default }

def HlsPlaybackSession.fromPlaybackEntryWithPolicy [FrameRates] (sessionId title : String)
    (selectedVariant : BilibiliPlaybackVariant) (abr : BilibiliPlaybackAbrMetadata)
    (variants : List BilibiliPlaybackVariant) (effectivePolicy : PlaybackPolicy) :
    Except HlsSessionError HlsPlaybackSession := do
  let session ← fromSelectedVariant sessionId title selectedVariant
  let alternates ← playableAlternateVariants selectedVariant variants
  let metadata := variants.map HlsVariantMetadata.fromAdapter
  pure { session with
    effectivePolicy := effectivePolicy
    abr := HlsAbrMetadata.fromAdapter abr
    variants :=
      if metadata.any (·.id == session.variant.id) then metadata
      else metadata ++ [HlsVariantMetadata.fromAdapter selectedVariant]
    alternateVariants := alternates }

end NetPlayer.Hls
