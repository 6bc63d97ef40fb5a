import NetPlayer.RangeCache.Coordinator
import NetPlayer.RangeCache.Finalize

/-!
# Filling a resource in one piece

An upstream that does not support ranges is asked for the whole resource. The
body goes to a file of its own, which becomes the completed file once it passes
the checks of the media format; the traces of the range fill are removed last.
-/

namespace NetPlayer.RangeCache

open Faulty Faulty.Program Slices Segments

/-- What a candidate answers: no response, a response without a body, or a body that comes in
chunks and may break off. -/
inductive FullGetAnswer
  | unreachable
  | refused (status : Nat)
  | answered (declaredLength : Option Nat) (chunks : List Bytes) (broken : Bool)
  deriving DecidableEq

/-- The candidates of a resource in the order of their rank, and what a reservation is measured
against. The fill's own lease is dropped before the next candidate, so `ledger` holds the leases
of the others. -/
structure FullGetSource where
  answers : List FullGetAnswer
  key : RangeResourceKey
  storedKey : Option BilibiliMediaCacheKey
  quotaBytes : Nat
  ledger : RangeState
  otherUsage : Nat
  prewarmedLength : Option Nat

structure FullGetBody where
  totalLength : Nat
  initializationLength : Nat
  segments : List HlsMediaSegment
  deriving DecidableEq

namespace ResourceFiles

def appendMedia (files : ResourceFiles) (path : ManagedPath) (bytes : Bytes) : ResourceFiles :=
  files.setMedia path ((files.mediaAt path).map fun object =>
    { object with content := object.content ++ bytes })

/-- `create(true).truncate(true)`. -/
def truncateMedia (files : ResourceFiles) (path : ManagedPath) : ResourceFiles :=
  match files.mediaAt path with
  | some object => files.setMedia path (some { object with content := [] })
  | none => files.createMedia path

/-- A leftover temporary file counts too. -/
def rangeManagedSize (files : ResourceFiles) : Nat :=
  [files.rangeData, files.rangeFullGetTemp, files.final].foldl
    (fun total file => saturatingAdd total (file.elim 0 (·.content.length))) 0

end ResourceFiles

def FullGetSource.managedUsage (source : FullGetSource) (resource : HlsMediaResource)
    (files : ResourceFiles) : Nat :=
  let known := (cachedLength source.storedKey resource files).or source.prewarmedLength
  saturatingAdd source.otherUsage (known.getD files.rangeManagedSize)

/-- The reservation of a scratch file beside what is staged. -/
def FullGetSource.reserve (source : FullGetSource) (resource : HlsMediaResource)
    (files : ResourceFiles) (expectedLength : Nat) : Except HlsRangeError Unit :=
  let currentLength := files.rangeManagedSize
  let scratchTarget := saturatingAdd currentLength expectedLength
  (RangeCache.reserve source.quotaBytes source.ledger source.key scratchTarget currentLength
    (source.managedUsage resource files)).map fun _ => ()

def isRetryableRangeCandidateStatus (status : Nat) : Bool :=
  (500 ≤ status && status < 600) || status ∈ [401, 403, 404, 410, 408, 429]

def openTruncated (path : ManagedPath) : FileM Unit :=
  atomic (.io (.os .openFile)) fun files => files.truncateMedia path

def appendAll (path : ManagedPath) (bytes : Bytes) : FileM Unit :=
  gradual (.io (.os .write)) (fun files => files.appendMedia path bytes)
    fun progress files => files.appendMedia path (bytes.take progress)

/-- The loop over the body: how much came, and why it ended early. -/
def readChunks (expectedLength : Nat) (broken : Bool) :
    Nat → List Bytes → FileM (Nat × Option HlsRangeError)
  | total, [] => return (total, if broken then some .network else none)
  | total, chunk :: rest =>
    let total := saturatingAdd total chunk.length
    if expectedLength < total then
      return (total, some (.invalidResponse "full-resource body exceeded its declared length"))
    else do
      appendAll .rangeFullGetTemp chunk
      readChunks expectedLength broken total rest

def discardBody (error : HlsRangeError) : FileM (Except HlsRangeError FullGetBody) := do
  atomic (.io (.os .setLength)) fun files => files.truncateMedia .rangeFullGetTemp
  osCall .syncAll
  return .error error

def checkBody (total : Nat) : FileM (Except HlsRangeError FullGetBody) := do
  match ← (attempt (cachedMp4InitializationLength .rangeFullGetTemp) : FileM (Option Nat)) with
  | none => discardBody (.invalidResponse "full-resource MP4 initialization was invalid")
  | some initializationLength =>
    if 0 < initializationLength ∧ initializationLength < total then
      match ← (attempt (mp4Segments .rangeFullGetTemp initializationLength total) :
          FileM (Option (List HlsMediaSegment))) with
      | none => discardBody (.invalidResponse "full-resource MP4 fragment layout was invalid")
      | some segments => return .ok ⟨total, initializationLength, segments⟩
    else discardBody (.invalidResponse "full-resource MP4 initialization was invalid")

def expectedLength (resource : HlsMediaResource) (declaredLength : Option Nat) :
    Except HlsRangeError Nat :=
  let size := resource.size.map UInt64.toNat
  if (size.any fun expected => declaredLength.any fun declared => expected ≠ declared) then
    .error (.invalidResponse "full-resource length did not match metadata")
  else
    match size.or declaredLength with
    | none => .error (.invalidResponse "full-resource length was unknown")
    | some expected =>
      if expected = 0 then .error (.invalidResponse "full-resource length was empty")
      else .ok expected

def downloadBody (source : FullGetSource) (resource : HlsMediaResource) (expectedLength : Nat)
    (chunks : List Bytes) (broken : Bool) : FileM (Except HlsRangeError FullGetBody) := do
  forEach osCall [.metadata, .readDirectory]
  inspect (.io (.os .metadata)) fun files => source.reserve resource files expectedLength
  rejectCachePathSymlink .rangeFullGetTemp
  openTruncated .rangeFullGetTemp
  let (total, stopped) ← readChunks expectedLength broken 0 chunks
  match stopped with
  | some error => discardBody error
  | none =>
    if total ≠ expectedLength then
      discardBody (.invalidResponse "full-resource body length was incomplete")
    else
      osCall .syncAll
      checkBody total

def tryCandidate (source : FullGetSource) (resource : HlsMediaResource) :
    FullGetAnswer → FileM (Except HlsRangeError FullGetBody)
  | .unreachable => return .error .network
  | .refused status =>
    if status = 206 then
      raise (.invalidResponse "full-resource fallback returned partial content")
    else if isRetryableRangeCandidateStatus status then
      return .error (.upstreamStatus status)
    else raise (.upstreamStatus status)
  | .answered declaredLength chunks broken =>
    match expectedLength resource declaredLength with
    | .error error => return .error error
    | .ok expected => downloadBody source resource expected chunks broken

def tryCandidates (source : FullGetSource) (resource : HlsMediaResource) :
    HlsRangeError → List FullGetAnswer → FileM (Except HlsRangeError FullGetBody)
  | lastError, [] => return .error lastError
  | _, answer :: rest => do
      match ← tryCandidate source resource answer with
      | .ok body => return .ok body
      | .error error => tryCandidates source resource error rest

variable [UrlParser]

def abandonFullGet (error : HlsRangeError) : FileM HlsRangeResourceStatus := do
  removeManagedCacheFileIfExists .rangeFullGetTemp
  raise error

/-- The part of `fill_full_get_compat` under the publication lock. -/
def publishFullGet (resource : HlsMediaResource) (loaded : LoadedRangeManifest)
    (body : FullGetBody) : FileM HlsRangeResourceStatus := do
  match ← loadRangeManifest resource with
  | none => abandonFullGet (.identityChanged "")
  | some current =>
    if rangeManifestRebaseCompatible loaded.manifest current.manifest = false then
      abandonFullGet (.identityChanged "")
    else if current.manifest.extents ≠ [] then abandonFullGet .rangeUnsupported
    else
      let finalIdentity ← safeFileIdentity .final
      demand (finalIdentity = none) (.identityChanged "")
      let metadataIdentity ← safeFileIdentity .metadata
      demand (metadataIdentity = none) (.identityChanged "")
      rejectCachePathSymlink .final
      renameMedia .rangeFullGetTemp .final
      syncDirectory
      writeJsonAtomically fun files => files.installMetadata
        (completedMetadata resource body.totalLength body.initializationLength body.segments)
      syncDirectory
      removeManagedCacheFileIfExists .rangeData
      removeManagedCacheFileIfExists .rangeManifest
      syncDirectory
      return .complete body.totalLength

def fillFullGetCompat (source : FullGetSource) (resource : HlsMediaResource) :
    FileM HlsRangeResourceStatus := do
  let loaded ← ensureRangeManifest resource
  demand (loaded.manifest.extents = []) .rangeUnsupported
  demand (source.answers ≠ []) .rangeUnsupported
  match ← tryCandidates source resource .rangeUnsupported source.answers with
  | .ok body => publishFullGet resource loaded body
  | .error lastError =>
    removeManagedCacheFileIfExists .rangeFullGetTemp
    syncDirectory
    raise lastError

def FullGetSource.remote (source : FullGetSource) (resource : HlsMediaResource) : RemoteFill where
  discoverRangeTotal := return none
  ensureRangeSpan _ := return false
  fillFullGetCompat := fillFullGetCompat source resource

end NetPlayer.RangeCache
