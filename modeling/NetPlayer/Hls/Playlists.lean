import Mathlib.Algebra.Ring.Nat
import Mathlib.Data.List.Sort
import NetPlayer.Hls.Representation

/-!
# Playlists

The master playlist lists the advertised variants a filter accepts, and names the
playlists of their resources; a media playlist names a resource and the byte ranges
of it. What a playlist names is looked up again when a player asks for it.
-/

namespace NetPlayer.Hls

/-- `u64::MAX`. -/
def maxByteOffset : Nat := 2 ^ 64 - 1

def stripSuffix (value ending : String) : Option String :=
  if ending.toList <:+ value.toList then
    some (String.ofList (value.toList.take (value.toList.length - ending.toList.length)))
  else none

def mediaPlaylistId (resourceId : String) : String :=
  match stripSuffix resourceId ".m4s" with
  | some stem => stem ++ ".m3u8"
  | none => resourceId ++ ".m3u8"

def replaceChar (old : Char) (new value : String) : String :=
  String.ofList (value.toList.flatMap fun c => if c = old then new.toList else [c])

def backslash : Char := Char.ofNat 0x5c
def quote : Char := Char.ofNat 0x22

def escapeQuoted (value : String) : String :=
  replaceChar quote "\\\"" (replaceChar backslash "\\\\" value)

def audioGroupId (index : Nat) : String :=
  if index = 0 then "audio" else "audio-v" ++ toString index

namespace HlsVariant

variable (variant : HlsVariant)

def resolution : Option String :=
  match variant.width, variant.height with
  | some width, some height => some (toString width ++ "x" ++ toString height)
  | _, _ => none

def codecsAttribute : Option String :=
  let codecs := variant.codecs.foldl pushUniqueCodec []
  let codecs :=
    match variant.audio.bind fun audio => audio.request.codecs with
    | some audioCodecs => pushUniqueCodec codecs audioCodecs
    | none => codecs
  if codecs = [] then none else some (",".intercalate codecs)

def videoPlaylistId : String := mediaPlaylistId variant.video.id

def audioPlaylistId : Option String :=
  variant.audio.map fun audio => mediaPlaylistId audio.id

end HlsVariant

/-- A line `#EXT-X-MEDIA`. -/
structure AudioRendition where
  groupId : String
  name : String
  uri : String
  deriving DecidableEq

/-- A line `#EXT-X-STREAM-INF` and the URI under it. -/
structure VariantStream where
  bandwidth : Nat
  resolution : Option String
  codecs : Option String
  audio : Option String
  uri : String
  deriving DecidableEq

structure MasterPlaylist where
  renditions : List AudioRendition
  streams : List VariantStream
  deriving DecidableEq

def AudioRendition.text (rendition : AudioRendition) : String :=
  "#EXT-X-MEDIA:TYPE=AUDIO,GROUP-ID=\"" ++ rendition.groupId ++ "\",NAME=\"" ++ rendition.name ++
    "\",DEFAULT=YES,AUTOSELECT=YES,URI=\"" ++ rendition.uri ++ "\"\n"

def VariantStream.text (stream : VariantStream) : String :=
  "#EXT-X-STREAM-INF:BANDWIDTH=" ++ toString stream.bandwidth ++
    (stream.resolution.elim "" fun resolution => ",RESOLUTION=" ++ resolution) ++
    (stream.codecs.elim "" fun codecs => ",CODECS=\"" ++ codecs ++ "\"") ++
    (stream.audio.elim "" fun audio => ",AUDIO=\"" ++ audio ++ "\"") ++
    "\n" ++ stream.uri ++ "\n"

/-- What `master_playlist_with_variant_filter` returns. -/
def MasterPlaylist.text (playlist : MasterPlaylist) : String :=
  "#EXTM3U\n#EXT-X-VERSION:7\n#EXT-X-INDEPENDENT-SEGMENTS\n" ++
    String.join (playlist.renditions.map AudioRendition.text) ++
    String.join (playlist.streams.map VariantStream.text)

def playlistUri (playlistId : String) : String := "segments/" ++ escapeQuoted playlistId

def audioRendition (variant : HlsVariant) (index : Nat) : Option AudioRendition :=
  variant.audioPlaylistId.map fun playlistId =>
    { groupId := escapeQuoted (audioGroupId index)
      name := escapeQuoted (if index = 0 then "Default" else "Variant " ++ toString index)
      uri := playlistUri playlistId }

def variantStream (variant : HlsVariant) (index : Nat) : VariantStream where
  bandwidth := variant.bandwidth
  resolution := variant.resolution
  codecs := variant.codecsAttribute.map escapeQuoted
  audio := if variant.audio.isSome then some (escapeQuoted (audioGroupId index)) else none
  uri := playlistUri variant.videoPlaylistId

namespace HlsPlaybackSession

variable (session : HlsPlaybackSession)

def advertisedVariants : List HlsVariant :=
  session.variant ::
    session.alternateVariants.take
      (if session.advertiseAlternateVariants then session.alternateVariants.length else 0)

variable (isVariantAdvertisable : HlsVariant → Bool)

def advertisedVariantsWithFilter : List HlsVariant :=
  let filtered := session.advertisedVariants.filter isVariantAdvertisable
  if filtered ≠ [] then filtered
  else
    (session.advertisedVariants.insertionSort fun a b => a.bandwidth ≤ b.bandwidth).take 1

def masterPlaylistWithVariantFilter : MasterPlaylist :=
  let variants := (session.advertisedVariantsWithFilter isVariantAdvertisable).zipIdx
  { renditions := variants.filterMap fun (variant, index) => audioRendition variant index
    streams := variants.map fun (variant, index) => variantStream variant index }

def mediaPlaylistResourceFrom (variants : List HlsVariant) (playlistId : String) :
    Option (HlsVariant × HlsMediaResource) :=
  variants.findSome? fun variant =>
    if playlistId = variant.videoPlaylistId then some (variant, variant.video)
    else
      match variant.audio with
      | some audio =>
        if playlistId = mediaPlaylistId audio.id then some (variant, audio) else none
      | none => none

def mediaResourceFrom (variants : List HlsVariant) (segmentId : String) :
    Option (HlsVariant × HlsMediaResource) :=
  variants.findSome? fun variant =>
    if segmentId = variant.video.id then some (variant, variant.video)
    else
      match variant.audio with
      | some audio => if segmentId = audio.id then some (variant, audio) else none
      | none => none

def servableMediaPlaylistResourceWithVariant (playlistId : String) :
    Option (String × HlsMediaResource) :=
  (mediaPlaylistResourceFrom session.advertisedVariants playlistId).map fun (variant, resource) =>
    (variant.id, resource)

def servableMediaResourceWithVariant (segmentId : String) : Option (String × HlsMediaResource) :=
  (mediaResourceFrom session.advertisedVariants segmentId).map fun (variant, resource) =>
    (variant.id, resource)

end HlsPlaybackSession

structure HlsMediaSegment where
  byteRangeOffset : Nat
  byteRangeLength : Nat
  durationMillis : Nat
  deriving DecidableEq

/-- The lines `#EXTINF` and `#EXT-X-BYTERANGE`, and the URI under them. -/
structure PlaylistSegment where
  durationMillis : Nat
  length : Nat
  offset : Nat
  uri : String
  deriving DecidableEq

structure MediaPlaylist where
  targetDuration : Nat
  mapUri : String
  mapLength : Nat
  segments : List PlaylistSegment
  deriving DecidableEq

def formatDurationMillis (durationMillis : Nat) : String :=
  let rest := toString (durationMillis % 1000)
  toString (durationMillis / 1000) ++ "." ++
    String.ofList (List.replicate (3 - rest.length) '0') ++ rest

def PlaylistSegment.text (segment : PlaylistSegment) : String :=
  "#EXTINF:" ++ formatDurationMillis segment.durationMillis ++ ",\n#EXT-X-BYTERANGE:" ++
    toString segment.length ++ "@" ++ toString segment.offset ++ "\n" ++ segment.uri ++ "\n"

/-- What `media_playlist_for_resource` returns. -/
def MediaPlaylist.text (playlist : MediaPlaylist) : String :=
  "#EXTM3U\n#EXT-X-VERSION:7\n#EXT-X-PLAYLIST-TYPE:VOD\n#EXT-X-TARGETDURATION:" ++
    toString playlist.targetDuration ++ "\n#EXT-X-MAP:URI=\"" ++ playlist.mapUri ++
    "\",BYTERANGE=\"" ++ toString playlist.mapLength ++ "@0\"\n" ++
    String.join (playlist.segments.map PlaylistSegment.text) ++ "#EXT-X-ENDLIST\n"

/-- The loop of `segments_are_valid_for_resource`. -/
def segmentsValidFrom (totalLength : Nat) : Nat → List HlsMediaSegment → Bool
  | previousEnd, [] => previousEnd = totalLength
  | previousEnd, segment :: rest =>
    if segment.byteRangeLength = 0 ∨ segment.durationMillis = 0 ∨
        segment.byteRangeOffset ≠ previousEnd then
      false
    else if maxByteOffset < segment.byteRangeOffset + segment.byteRangeLength then false
    else if totalLength < segment.byteRangeOffset + segment.byteRangeLength then false
    else segmentsValidFrom totalLength (segment.byteRangeOffset + segment.byteRangeLength) rest

def segmentsAreValidForResource (segments : List HlsMediaSegment)
    (initializationLength totalLength : Nat) : Bool :=
  segmentsValidFrom totalLength initializationLength segments

def ceilSeconds (millis : Nat) : Nat := (millis + 999) / 1000

def splitMediaPlaylistForResource (resource : HlsMediaResource) (initializationLength : Nat)
    (segments : List HlsMediaSegment) : MediaPlaylist where
  targetDuration :=
    max (((segments.map fun segment => ceilSeconds segment.durationMillis).max?).getD 1) 1
  mapUri := resource.id
  mapLength := initializationLength
  segments := segments.map fun segment =>
    ⟨segment.durationMillis, segment.byteRangeLength, segment.byteRangeOffset, resource.id⟩

def mediaPlaylistForResource (variant : HlsVariant) (resource : HlsMediaResource)
    (initializationLength totalLength : Nat) (segments : List HlsMediaSegment) :
    Option MediaPlaylist :=
  if totalLength < initializationLength then none
  else if initializationLength = 0 ∨ totalLength - initializationLength = 0 then none
  else
    let duration :=
      max (resource.request.durationSeconds.getD variant.durationSeconds) defaultDurationSeconds
    if 2 ≤ segments.length ∧
        segmentsAreValidForResource segments initializationLength totalLength = true then
      some (splitMediaPlaylistForResource resource initializationLength segments)
    else
      some
        { targetDuration := duration
          mapUri := resource.id
          mapLength := initializationLength
          segments := [⟨duration * 1000, totalLength - initializationLength, initializationLength,
            resource.id⟩] }

def HlsPlaybackSession.servableMediaPlaylist (session : HlsPlaybackSession) (playlistId : String)
    (initializationLength totalLength : Nat) (segments : List HlsMediaSegment) :
    Option MediaPlaylist := do
  let (variant, resource) ←
    mediaPlaylistResourceFrom session.advertisedVariants playlistId
  mediaPlaylistForResource variant resource initializationLength totalLength segments

end NetPlayer.Hls
