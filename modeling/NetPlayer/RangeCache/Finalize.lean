import NetPlayer.RangeCache.Store
import NetPlayer.Segments.Fragments

/-!
# Finishing a range resource

Once the extents of a manifest cover the resource, its data becomes the completed
file, its metadata is written and the manifest is removed. `cache_resource` does
this after a fill, and again when it finds the traces of a run that was cut
short.
-/

namespace NetPlayer.RangeCache

open Faulty Faulty.Program Slices Segments

def hlsCacheSchemaVersion : Nat := 1
def hlsInitializationScanBytes : Nat := 1024 * 1024

namespace ResourceFiles

def renameMedia (files : ResourceFiles) (source target : ManagedPath) : ResourceFiles :=
  (files.setMedia target (files.mediaAt source)).setMedia source none

def remove (files : ResourceFiles) : ManagedPath → ResourceFiles
  | .rangeManifest => { files with rangeManifest := none }
  | .metadata => { files with metadata := none }
  | path => files.setMedia path none

end ResourceFiles

def renameMedia (source target : ManagedPath) : FileM Unit :=
  atomic (.io (.os .rename)) fun files => files.renameMedia source target

def removeManagedCacheFileIfExists (path : ManagedPath) : FileM Unit := do
  rejectCachePathSymlink path
  match ← safeFileIdentity path with
  | none => return ()
  | some _ => atomic (.io (.os .removeFile)) fun files => files.remove path

def readMedia {Value : Type} (path : ManagedPath) (read : Bytes → Except HlsRangeError Value) :
    FileM Value :=
  inspect (.io (.os .read)) fun files =>
    match files.mediaAt path with
    | none => .error notFoundError
    | some object => read object.content

def initializationError : HlsRangeError := .invalidResponse "invalid cached MP4 initialization"

def cachedMp4InitializationLength (path : ManagedPath) : FileM Nat :=
  readMedia path fun content =>
    match mp4InitializationLength (content.take hlsInitializationScanBytes) with
    | some length => .ok length
    | none => .error initializationError

def mp4Segments (path : ManagedPath) (initializationLength totalLength : Nat) :
    FileM (List HlsMediaSegment) :=
  readMedia path fun content =>
    match mp4FragmentRanges content initializationLength totalLength with
    | .ok ranges => .ok (hlsSegmentsFromMp4Ranges ranges)
    | .error _ => .error (.invalidResponse "invalid cached MP4 fragment layout")

/-- What `cached_resource` checks; `storedKey` is the resource's cache key in the stored
session, if it has the resource. -/
def cachedLength (storedKey : Option BilibiliMediaCacheKey) (resource : HlsMediaResource)
    (files : ResourceFiles) : Option Nat := do
  let metadata ← files.metadata
  let metadata := metadata.content
  if metadata.schemaVersion ≠ hlsCacheSchemaVersion ∨ metadata.id ≠ resource.id ∨
      storedKey ≠ some metadata.cacheKey then
    none
  else
    let object ← files.final
    if object.content.length ≠ metadata.totalLength ∨ metadata.initializationLength = 0 ∨
        metadata.totalLength ≤ metadata.initializationLength then
      none
    else some metadata.totalLength

/-- The total length that `cached_resource` reports. -/
def cachedResource (storedKey : Option BilibiliMediaCacheKey) (resource : HlsMediaResource) :
    FileM (Option Nat) :=
  attempt (inspect (.io (.os .read)) fun files =>
    match cachedLength storedKey resource files with
    | some length => .ok length
    | none => .error notFoundError : FileM Nat)

variable [UrlParser]

def verifyExtentDigest (path : ManagedPath) (extent : PersistedRangeExtent) : FileM Unit := do
  let bytes ← readExact path ⟨extent.start, extent.stop⟩
  demand (sha256Hex bytes = extent.sha256) (identityErrorAt "extent-verify-hash")

def verifyRangeExtentsSync (manifest : PersistedRangeManifest) : FileM Unit := do
  let path ← dataPathForManifest manifest
  rejectCachePathSymlink path
  let identity ← openRangeFile path
  demand (manifest.dataIdentity = some identity) (identityErrorAt "extent-verify-object")
  forEach (verifyExtentDigest path) manifest.extents
  let bound ← rangeDataObjectIsStillBound identity
  demand (bound = true) (.identityChanged "")

def CoversTotal (manifest : PersistedRangeManifest) (totalLength : Nat) : Prop :=
  manifest.totalLength = some totalLength ∧ manifest.durableBytes = totalLength ∧
    rangeIsCovered manifest.extents ⟨0, totalLength⟩ = true

instance (manifest : PersistedRangeManifest) (totalLength : Nat) :
    Decidable (CoversTotal manifest totalLength) :=
  inferInstanceAs (Decidable (_ ∧ _ ∧ _))

/-- The checks of `finalize_range_resource`: the path of the data, and what the metadata says
about it. -/
def checkRangeResource (manifest : PersistedRangeManifest) (totalLength : Nat) :
    FileM (ManagedPath × Nat × List HlsMediaSegment) := do
  demand (CoversTotal manifest totalLength) (identityErrorAt "finalize-incomplete-extents")
  verifyRangeExtentsSync manifest
  let dataPath ← dataPathForManifest manifest
  let length ← mediaLength dataPath
  demand (length = totalLength) (identityErrorAt "finalize-data-length")
  let initializationLength ← cachedMp4InitializationLength dataPath
  demand (0 < initializationLength ∧ initializationLength < totalLength)
    (.invalidResponse "invalid cached MP4 initialization range")
  let segments ← mp4Segments dataPath initializationLength totalLength
  return (dataPath, initializationLength, segments)

def completedMetadata (resource : HlsMediaResource) (totalLength initializationLength : Nat)
    (segments : List HlsMediaSegment) : PersistedHlsCachedResource where
  schemaVersion := hlsCacheSchemaVersion
  id := resource.id
  contentType := resource.contentType
  totalLength := totalLength
  initializationLength := initializationLength
  segments := segments.map HlsMediaSegment.persisted
  cacheKey := resource.cacheKey

def moveData (dataPath : ManagedPath) (expectedIdentity : Option FileIdentity) : FileM Unit := do
  let finalIdentity ← safeFileIdentity .final
  if finalIdentity.isSome then
    demand (finalIdentity = expectedIdentity) (identityErrorAt "finalize-target-object")
  else
    demand (dataPath ≠ .final) (identityErrorAt "finalize-renamed-object-missing")
    rejectCachePathSymlink .final
    renameMedia dataPath .final
    syncDirectory

def describeData (storedKey : Option BilibiliMediaCacheKey) (resource : HlsMediaResource)
    (totalLength : Nat) (metadata : PersistedHlsCachedResource) : FileM Unit := do
  let metadataIdentity ← safeFileIdentity .metadata
  if metadataIdentity.isSome then
    let cached ← cachedResource storedKey resource
    demand (cached = some totalLength) (identityErrorAt "finalize-existing-metadata-binding")
  else
    writeJsonAtomically fun files => files.installMetadata metadata
    syncDirectory

def finalizeRangeResource (storedKey : Option BilibiliMediaCacheKey)
    (resource : HlsMediaResource) (totalLength : Nat) : FileM Unit := do
  match ← loadRangeManifest resource with
  | none =>
    let cached ← cachedResource storedKey resource
    demand (cached = some totalLength) (.identityChanged "")
  | some loaded =>
    let (dataPath, initializationLength, segments) ←
      checkRangeResource loaded.manifest totalLength
    moveData dataPath loaded.manifest.dataIdentity
    describeData storedKey resource totalLength
      (completedMetadata resource totalLength initializationLength segments)
    removeManagedCacheFileIfExists .rangeManifest
    syncDirectory

/-- The loop of `planned_range_chunks`; no chunk is empty, so `fuel` does not run out. -/
def chunksFrom (total chunkSize : Nat) : Nat → Nat → List ByteRange
  | 0, _ => []
  | fuel + 1, start =>
    if start < total then
      let stop := min (saturatingAdd start chunkSize) total
      ⟨start, stop⟩ :: chunksFrom total chunkSize fuel stop
    else []

def plannedRangeChunks (total : Nat) : List ByteRange :=
  if total = 0 then []
  else
    let firstEnd := min total rangeStartupChunkBytes
    if firstEnd = total then [⟨0, firstEnd⟩]
    else
      ⟨0, firstEnd⟩ :: chunksFrom total (logicalParentSize (total - firstEnd)) total firstEnd

inductive HlsRangeResourceStatus
  | complete (totalLength : Nat)
  | missing (totalLength durableBytes : Nat) (missingRanges : List ByteRange)
  deriving DecidableEq

/-- What a fill asks the upstream for: the total length and ranges, each with no answer when
the upstream does not support ranges, or all of the resource. A resource that is covered
needs none of it. -/
structure RemoteFill where
  discoverRangeTotal : FileM (Option Nat)
  ensureRangeSpan : ByteRange → FileM Bool
  fillFullGetCompat : FileM HlsRangeResourceStatus

def RemoteFill.demandRangeSpan (remote : RemoteFill) (gap : ByteRange) : FileM Unit := do
  let supported ← remote.ensureRangeSpan gap
  demand (supported = true) .rangeUnsupported

def fillGaps (remote : RemoteFill) (resource : HlsMediaResource) (loaded : LoadedRangeManifest)
    (total : Nat) : FileM HlsRangeResourceStatus := do
  forEach remote.demandRangeSpan
    ((plannedRangeChunks total).flatMap (missingRangesWithin loaded.manifest.extents))
  let filled ← loadExisting resource
  if rangeIsCovered filled.manifest.extents ⟨0, total⟩ then return .complete total
  else
    return .missing total filled.manifest.durableBytes
      (missingRanges filled.manifest.extents total)

/-- `fill_missing_ranges_with_progress` of a background fill, once the total is known. -/
def fillRanges (remote : RemoteFill) (resource : HlsMediaResource) (loaded : LoadedRangeManifest)
    (total : Nat) : FileM HlsRangeResourceStatus := do
  demand (total ≠ 0) (.invalidResponse "HLS resource has zero length")
  if rangeSizeIsResumable total = false then remote.fillFullGetCompat
  else
    let loaded ←
      if loaded.manifest.totalLength = some total then pure loaded
      else
        publishRangeManifest resource loaded fun manifest =>
          { manifest with totalLength := some total }
    if loaded.manifest.extents = [] then
      let supported ← remote.ensureRangeSpan ⟨0, min total rangeStartupChunkBytes⟩
      if supported = false then remote.fillFullGetCompat
      else
        let loaded ← loadExisting resource
        fillGaps remote resource loaded total
    else fillGaps remote resource loaded total

def fillMissingRanges (remote : RemoteFill) (resource : HlsMediaResource) :
    FileM HlsRangeResourceStatus := do
  let loaded ← ensureRangeManifest resource
  verifyRangeExtentsSync loaded.manifest
  match loaded.manifest.totalLength.or (resource.size.map UInt64.toNat) with
  | some total => fillRanges remote resource loaded total
  | none =>
    match ← remote.discoverRangeTotal with
    | some total => fillRanges remote resource loaded total
    | none => remote.fillFullGetCompat

def cacheResource (remote : RemoteFill) (storedKey : Option BilibiliMediaCacheKey)
    (resource : HlsMediaResource) : FileM Nat := do
  match ← cachedResource storedKey resource with
  | some cached =>
    match ← loadRangeManifest resource with
    | some _ =>
      finalizeRangeResource storedKey resource cached
      return cached
    | none => return cached
  | none =>
    match ← fillMissingRanges remote resource with
    | .missing _ _ _ =>
      raise (.invalidResponse "HLS range fill ended without complete resource coverage")
    | .complete totalLength =>
      finalizeRangeResource storedKey resource totalLength
      osCall .removeFile
      return totalLength

end NetPlayer.RangeCache
