import NetPlayer.Library.Sha256
import NetPlayer.RangeCache.Extents

/-!
# Range manifests

The checkpoint of a partly cached resource: its validation, its serialized form,
and the tests that decide whether a snapshot of it can be rebased on a newer
checkpoint.
-/

namespace NetPlayer.RangeCache

open List

def utf8 (text : String) : Bytes := text.toByteArray.data.toList

def sha256Hex (bytes : Bytes) : String := Sha256.hexDigest bytes

structure ParsedUrl where
  scheme : String
  host : Option String
  portOrKnownDefault : Option Nat

class UrlParser where
  parse : String → Option ParsedUrl

def mediaUrlOrigin [UrlParser] (value : String) : Option String := do
  let url ← UrlParser.parse value
  let host ← url.host
  let port ← url.portOrKnownDefault
  return url.scheme ++ "://" ++ host ++ ":" ++ toString port

def parseEntityTag (value : Bytes) : Option Bool :=
  let (weak, quoted) := match value with
    | 0x57 :: 0x2f :: rest => (true, rest)
    | _ => (false, value)
  if quoted.length < 2 ∨ quoted.head? ≠ some 0x22 ∨ quoted.getLast? ≠ some 0x22 then none
  else if (quoted.drop 1).dropLast.all fun byte =>
      byte == 0x21 || (0x23 ≤ byte && byte ≤ 0x7e) || 0x80 ≤ byte then
    some weak
  else none

def strongEtagStringIsValid (value : String) : Bool :=
  value.utf8ByteSize ≤ 512 && parseEntityTag (utf8 value) == some false

structure FileIdentity where
  device : Nat
  inode : Nat
  deriving DecidableEq

structure PersistedRangeOrigin where
  origin : String
  prefixSha256 : String
  strongEtag : Option String
  deriving DecidableEq

structure PersistedRangeManifest where
  schemaVersion : Nat
  generation : Nat
  resourceId : String
  representationDigest : String
  dataIdentity : Option FileIdentity
  totalLength : Option Nat
  strongEtag : Option String
  validatorOrigin : Option String
  lastModified : Option String
  prefixLength : Nat
  prefixSha256 : Option String
  durableBytes : Nat
  validatedOrigins : List PersistedRangeOrigin
  extents : List PersistedRangeExtent
  deriving DecidableEq

structure BilibiliMediaCacheKey where
  contentId : String
  mediaKind : String
  streamId : Option Nat
  codecs : Option String
  deriving DecidableEq

/-- The resource to be cached. `representation` is its `range_representation_digest`, which
depends on nothing but the resource. -/
structure HlsMediaResource where
  id : String
  representation : String
  contentType : String
  size : Option UInt64
  cacheKey : BilibiliMediaCacheKey

variable (manifest : PersistedRangeManifest)

def PersistedRangeManifest.bindingOf (origin : String) : Option PersistedRangeOrigin :=
  manifest.validatedOrigins.find? fun binding => binding.origin = origin

/-- `binding_state`, the part of a binding that publication compares. -/
def PersistedRangeManifest.bindingState (origin : String) : Option (String × Option String) :=
  (manifest.bindingOf origin).map fun binding => (binding.prefixSha256, binding.strongEtag)

def isAsciiHexdigit (c : Char) : Bool :=
  ('0' ≤ c && c ≤ '9') || ('a' ≤ c && c ≤ 'f') || ('A' ≤ c && c ≤ 'F')

def isSha256Hex (digest : String) : Bool :=
  digest.utf8ByteSize = 64 && digest.toList.all isAsciiHexdigit

/-- The loop of `validate_range_manifest` over the extents. It returns the durable bytes. -/
def validateExtents (total : Option Nat) : Nat → Nat → List PersistedRangeExtent → Option Nat
  | _, durableBytes, [] => some durableBytes
  | previousEnd, durableBytes, extent :: rest =>
    if extent.stop ≤ extent.start ∨ extent.start < previousEnd ∨
        (total.any fun length => length < extent.stop) ∨ isSha256Hex extent.sha256 = false then
      none
    else
      validateExtents total extent.stop
        (saturatingAdd durableBytes (extent.stop - extent.start)) rest

def prefixIsValid : Bool :=
  manifest.prefixLength ≤ rangeStartupChunkBytes &&
    (manifest.prefixLength = 0) == manifest.prefixSha256.isNone &&
    (manifest.prefixLength = 0 ||
      (rangeIsCovered manifest.extents ⟨0, manifest.prefixLength⟩ &&
        manifest.prefixSha256.any fun digest => digest.utf8ByteSize = 64))

def originIsValid [UrlParser] (entry : PersistedRangeOrigin) : Bool :=
  entry.origin.utf8ByteSize ≤ 512 && entry.prefixSha256.utf8ByteSize = 64 &&
    entry.strongEtag.all strongEtagStringIsValid &&
    mediaUrlOrigin entry.origin == some entry.origin

def validateRangeManifest [UrlParser] (manifest : PersistedRangeManifest)
    (resource : HlsMediaResource) : Except HlsRangeError Unit :=
  if manifest.schemaVersion ≠ rangeManifestSchemaVersion ∨ manifest.generation = 0 ∨
      manifest.resourceId ≠ resource.id ∨
      manifest.representationDigest ≠ resource.representation ∨
      rangeMaxChunks < manifest.extents.length ∨ 64 < manifest.validatedOrigins.length ∨
      manifest.strongEtag.all strongEtagStringIsValid = false then
    .error (identityErrorAt "manifest-schema-resource-binding")
  else
    match validateExtents manifest.totalLength 0 0 manifest.extents with
    | none => .error (.invalidResponse "invalid range checkpoint extents")
    | some durableBytes =>
      if durableBytes ≠ manifest.durableBytes ∨ prefixIsValid manifest = false then
        .error (.invalidResponse "invalid range checkpoint summary")
      else if manifest.validatedOrigins.all originIsValid = false then
        .error (.invalidResponse "invalid range checkpoint origin")
      else .ok ()

def jsonEscape (byte : UInt8) : Bytes :=
  let hexDigit (n : UInt8) : UInt8 := if n < 10 then 0x30 + n else 0x57 + n
  if byte = 0x22 then utf8 "\\\""
  else if byte = 0x5c then utf8 "\\\\"
  else if 0x20 ≤ byte then [byte]
  else if byte = 0x08 then utf8 "\\b"
  else if byte = 0x09 then utf8 "\\t"
  else if byte = 0x0a then utf8 "\\n"
  else if byte = 0x0c then utf8 "\\f"
  else if byte = 0x0d then utf8 "\\r"
  else utf8 "\\u00" ++ [hexDigit (byte / 16), hexDigit (byte % 16)]

def jsonString (text : String) : Bytes := 0x22 :: (utf8 text).flatMap jsonEscape ++ [0x22]

theorem jsonEscape_pos (byte : UInt8) : 0 < (jsonEscape byte).length := by
  unfold jsonEscape
  repeat' split
  all_goals first
    | decide
    | simp

theorem length_le_jsonString {text : String} : text.utf8ByteSize ≤ (jsonString text).length := by
  have hescaped : ∀ bytes : Bytes, bytes.length ≤ (bytes.flatMap jsonEscape).length := by
    intro bytes
    induction bytes with
    | nil => exact le_rfl
    | cons byte rest ih =>
      have hpos := jsonEscape_pos byte
      rw [flatMap_cons, length_append, length_cons]
      omega
  have hbytes : (utf8 text).length = text.utf8ByteSize := rfl
  have hlen := hescaped (utf8 text)
  simp only [jsonString, length_append, length_cons]
  omega

def jsonNat (value : Nat) : Bytes := utf8 (toString value)

def jsonOption {α : Type} (render : α → Bytes) : Option α → Bytes
  | none => utf8 "null"
  | some value => render value

def jsonLines (indent : Nat) (opening closing : UInt8) (items : List Bytes) : Bytes :=
  opening :: 0x0a ::
    List.intercalate [0x2c, 0x0a] (items.map fun item => List.replicate (indent + 2) 0x20 ++ item)
    ++ 0x0a :: List.replicate indent 0x20 ++ [closing]

def jsonObject (indent : Nat) (fields : List (String × Bytes)) : Bytes :=
  jsonLines indent 0x7b 0x7d (fields.map fun field => jsonString field.1 ++ utf8 ": " ++ field.2)

def jsonArray (indent : Nat) (items : List Bytes) : Bytes :=
  if items.isEmpty then utf8 "[]" else jsonLines indent 0x5b 0x5d items

def originFields (entry : PersistedRangeOrigin) : List (String × Bytes) :=
  [("origin", jsonString entry.origin),
    ("prefix_sha256", jsonString entry.prefixSha256),
    ("strong_etag", jsonOption jsonString entry.strongEtag)]

def extentFields (extent : PersistedRangeExtent) : List (String × Bytes) :=
  [("start", jsonNat extent.start),
    ("end", jsonNat extent.stop),
    ("sha256", jsonString extent.sha256)]

def FileIdentity.text (identity : FileIdentity) : String :=
  toString identity.device ++ ":" ++ toString identity.inode

def toVecPretty : Bytes :=
  jsonObject 0
    [("schema_version", jsonNat manifest.schemaVersion),
      ("generation", jsonNat manifest.generation),
      ("resource_id", jsonString manifest.resourceId),
      ("representation_digest", jsonString manifest.representationDigest),
      ("data_identity", jsonOption (fun i => jsonString i.text) manifest.dataIdentity),
      ("total_length", jsonOption jsonNat manifest.totalLength),
      ("strong_etag", jsonOption jsonString manifest.strongEtag),
      ("validator_origin", jsonOption jsonString manifest.validatorOrigin),
      ("last_modified", jsonOption jsonString manifest.lastModified),
      ("prefix_length", jsonNat manifest.prefixLength),
      ("prefix_sha256", jsonOption jsonString manifest.prefixSha256),
      ("durable_bytes", jsonNat manifest.durableBytes),
      ("validated_origins", jsonArray 2
        (manifest.validatedOrigins.map fun entry => jsonObject 4 (originFields entry))),
      ("extents", jsonArray 2
        (manifest.extents.map fun extent => jsonObject 4 (extentFields extent)))]

def ensureRangeManifestCapacity : Except HlsRangeError Unit :=
  if rangeMaxChunks < manifest.extents.length ∨ 64 < manifest.validatedOrigins.length then
    .error .quotaExceeded
  else if rangeMaxManifestBytes < (toVecPretty manifest).length + 1 then .error .quotaExceeded
  else .ok ()

variable (expected current : PersistedRangeManifest)

/-- The part of the rebase test that does not look at origins and extents. -/
def sameLineage : Bool :=
  expected.resourceId = current.resourceId &&
    expected.representationDigest = current.representationDigest &&
    expected.dataIdentity = current.dataIdentity &&
    expected.generation ≤ current.generation &&
    (expected.totalLength.all fun total => current.totalLength = some total) &&
    (expected.prefixSha256.all fun digest => current.prefixSha256 = some digest)

def rangeManifestRebaseCompatibleIgnoringOrigin (ignoredOrigin : Option String)
    (allowValidatorUpdate : Bool) : Bool :=
  sameLineage expected current &&
    (expected.validatedOrigins.all fun old =>
      ignoredOrigin = some old.origin ||
        ((current.bindingOf old.origin).any fun new =>
          new.prefixSha256 = old.prefixSha256 &&
            (allowValidatorUpdate || new.strongEtag = old.strongEtag))) &&
    (expected.extents.all fun old => current.extents.any fun new => new = old)

def rangeManifestRebaseCompatible : Bool :=
  rangeManifestRebaseCompatibleIgnoringOrigin expected current none false

variable (targetOrigin : String)

def rangeManifestRebaseCompatibleForOriginValidation : Bool :=
  rangeManifestRebaseCompatibleIgnoringOrigin expected current (some targetOrigin) true

def rangeManifestRebaseCompatibleForExtentPublication : Bool :=
  rangeManifestRebaseCompatibleIgnoringOrigin expected current none true &&
    expected.bindingState targetOrigin = current.bindingState targetOrigin

def rangeManifestTargetValidatorSnapshotIsStale : Bool :=
  rangeManifestRebaseCompatibleIgnoringOrigin expected current (some targetOrigin) false &&
    match expected.bindingOf targetOrigin, current.bindingOf targetOrigin with
    | some old, some new => old.prefixSha256 = new.prefixSha256 && old.strongEtag != new.strongEtag
    | _, _ => false

/-- The first failed origin of `range_manifest_extent_rebase_failure_stage`. -/
def originRebaseFailure (current : PersistedRangeManifest) (targetOrigin : String) :
    List PersistedRangeOrigin → Option String
  | [] => none
  | old :: rest =>
    match current.bindingOf old.origin with
    | none =>
      some (if old.origin = targetOrigin then "extent-publish-rebase-target-origin-removed"
        else "extent-publish-rebase-existing-origin-prefix")
    | some new =>
      if new.prefixSha256 ≠ old.prefixSha256 then
        some (if old.origin = targetOrigin then "extent-publish-rebase-target-origin-prefix"
          else "extent-publish-rebase-existing-origin-prefix")
      else originRebaseFailure current targetOrigin rest

def rangeManifestExtentRebaseFailureStage : Option String :=
  if expected.resourceId ≠ current.resourceId then some "extent-publish-rebase-resource-id"
  else if expected.representationDigest ≠ current.representationDigest then
    some "extent-publish-rebase-representation"
  else if expected.dataIdentity ≠ current.dataIdentity then
    some "extent-publish-rebase-data-object-identity"
  else if current.generation < expected.generation then
    some "extent-publish-rebase-generation-regression"
  else if expected.totalLength.any fun total => current.totalLength ≠ some total then
    some "extent-publish-rebase-total-length"
  else if expected.prefixSha256.any fun digest => current.prefixSha256 ≠ some digest then
    some "extent-publish-rebase-prefix-digest"
  else
    match originRebaseFailure current targetOrigin expected.validatedOrigins with
    | some stage => some stage
    | none =>
      if expected.extents.any fun old => !(current.extents.any fun new => new = old) then
        some "extent-publish-rebase-existing-extent"
      else
        match expected.bindingOf targetOrigin, current.bindingOf targetOrigin with
        | some old, some new =>
          if old.prefixSha256 ≠ new.prefixSha256 then
            some "extent-publish-rebase-target-origin-prefix"
          else if old.strongEtag ≠ new.strongEtag then
            some "extent-publish-rebase-target-origin-strong-etag"
          else none
        | none, none => none
        | none, some _ => some "extent-publish-rebase-target-origin-added"
        | some _, none => some "extent-publish-rebase-target-origin-removed"

end NetPlayer.RangeCache
