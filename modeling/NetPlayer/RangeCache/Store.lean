import NetPlayer.RangeCache.Files

/-!
# The range store

The operations that create and publish range manifests: creation, publication of
a total length or of a validated origin, commits of fetched bytes, and the
compaction of parents. They run under the publication lock of the resource, so
each is a program over its files.
-/

namespace NetPlayer.RangeCache

open Faulty Faulty.Program Slices

variable [UrlParser] (resource : HlsMediaResource)

def initialManifest (identity : FileIdentity) : PersistedRangeManifest where
  schemaVersion := rangeManifestSchemaVersion
  generation := 1
  resourceId := resource.id
  representationDigest := resource.representation
  dataIdentity := some identity
  totalLength := resource.size.map UInt64.toNat
  strongEtag := none
  validatorOrigin := none
  lastModified := none
  prefixLength := 0
  prefixSha256 := none
  durableBytes := 0
  validatedOrigins := []
  extents := []

/-- The manifest, or the bare identity error when there is none. -/
def loadExisting : FileM LoadedRangeManifest := do
  let loaded ← loadRangeManifest resource
  orRaise loaded (.identityChanged "")

variable (path : ManagedPath)

def createNewMedia : FileM Unit :=
  call (.io (.os .createNew))
    (fun files =>
      if (files.identityAt path).isSome then .error (.io (.os .createNew))
      else .ok ((), files.createMedia path))
    (fun _ files => files)
    (fun progress files =>
      if progress = 0 ∨ (files.identityAt path).isSome then files else files.createMedia path)

def ensureRangeManifest : FileM LoadedRangeManifest := do
  match ← loadRangeManifest resource with
  | some loaded => return loaded
  | none =>
    osCall .createDirectory
    rejectCachePathSymlink .rangeData
    createNewMedia .rangeData
    osCall .syncAll
    let identity ← objectIdentity .rangeData
    syncDirectory
    writeJsonAtomically fun files => files.installManifest (initialManifest resource identity)
    syncDirectory
    loadExisting resource

variable (manifest : PersistedRangeManifest)

/-- `generation.checked_add(1)`. -/
def nextGeneration : FileM Nat := do
  demand (manifest.generation < u64Max) (.identityChanged "")
  return manifest.generation + 1

def SameCheckpoint (latest loaded : LoadedRangeManifest) : Prop :=
  latest.fileIdentity = loaded.fileIdentity ∧ latest.bytesDigest = loaded.bytesDigest

instance (latest loaded : LoadedRangeManifest) : Decidable (SameCheckpoint latest loaded) :=
  inferInstanceAs (Decidable (_ ∧ _))

def replaceManifest : FileM Unit := do
  writeJsonAtomically fun files => files.installManifest manifest
  syncDirectory

def publishRangeManifest (expected : LoadedRangeManifest)
    (update : PersistedRangeManifest → PersistedRangeManifest) : FileM LoadedRangeManifest := do
  demand (expected.manifest.extents = []) (identityErrorAt "checkpoint-total-after-extents")
  let current ← loadExisting resource
  demand (rangeManifestRebaseCompatible expected.manifest current.manifest)
    (identityErrorAt "checkpoint-rebase-identity")
  let updated := update current.manifest
  let generation ← nextGeneration updated
  let manifest :=
    { updated with generation := generation, durableBytes := durableExtentBytes updated.extents }
  ofExcept (ensureRangeManifestCapacity manifest)
  ofExcept (validateRangeManifest manifest resource)
  let latest ← loadExisting resource
  demand (SameCheckpoint latest current) (identityErrorAt "checkpoint-rebase-content")
  replaceManifest manifest
  loadExisting resource

def bindOrigin (origin prefixSha256 : String) (strongEtag : Option String)
    (origins : List PersistedRangeOrigin) : List PersistedRangeOrigin :=
  if origins.any fun binding => binding.origin = origin then
    setFirst origins
  else (origins ++ [PersistedRangeOrigin.mk origin prefixSha256 strongEtag]).take 64
where
  setFirst : List PersistedRangeOrigin → List PersistedRangeOrigin
    | [] => []
    | binding :: rest =>
      if binding.origin = origin then
        { binding with prefixSha256 := prefixSha256, strongEtag := strongEtag } :: rest
      else binding :: setFirst rest

/-- The rest of `publish_validated_origin`, once the binding is known to be out of date. -/
def publishBinding (current : LoadedRangeManifest) (origin prefixSha256 : String)
    (strongEtag : Option String) : FileM LoadedRangeManifest := do
  let generation ← nextGeneration current.manifest
  let manifest :=
    { current.manifest with
      generation := generation
      validatedOrigins := bindOrigin origin prefixSha256 strongEtag current.manifest.validatedOrigins
      durableBytes := durableExtentBytes current.manifest.extents }
  ofExcept (ensureRangeManifestCapacity manifest)
  ofExcept (validateRangeManifest manifest resource)
  let latest ← loadExisting resource
  demand (SameCheckpoint latest current ∧
      rangeManifestRebaseCompatible current.manifest latest.manifest)
    (identityErrorAt "origin-binding-publish-content")
  replaceManifest manifest
  loadExisting resource

def publishValidatedOrigin (expected : LoadedRangeManifest) (origin : String)
    (strongEtag : Option String) : FileM LoadedRangeManifest := do
  let prefixSha256 ← orRaise expected.manifest.prefixSha256 (.identityChanged "")
  let current ← loadExisting resource
  demand (rangeManifestRebaseCompatibleForOriginValidation expected.manifest current.manifest origin)
    (identityErrorAt "origin-binding-rebase")
  if current.manifest.bindingState origin = some (prefixSha256, strongEtag) then
    return current
  else
    demand (current.manifest.bindingState origin = expected.manifest.bindingState origin)
      (identityErrorAt "origin-binding-validator-conflict")
    publishBinding resource current origin prefixSha256 strongEtag

def overlapAgrees (extent : PersistedRangeExtent) (existing : Bytes) (incomingRange : ByteRange)
    (incoming : Bytes) : Bool :=
  let start := max extent.start incomingRange.start
  let stop := min extent.stop incomingRange.stop
  if start < stop then
    slice existing (start - extent.start) (stop - extent.start) =
      slice incoming (start - incomingRange.start) (stop - incomingRange.start)
  else true

/-- Returns the bytes of the extent, for `merged_hasher`. -/
def verifyExtentBytes (extent : PersistedRangeExtent) (incomingRange : ByteRange)
    (incoming : Bytes) (fileLength : Nat) : FileM Bytes := do
  demand (extent.stop ≤ fileLength)
    (.io (.unexpectedEof "checkpointed HLS range extends past the data file"))
  let existing ← readExact path ⟨extent.start, extent.stop⟩
  demand (overlapAgrees extent existing incomingRange incoming)
    (identityErrorAt "extent-overlap-content")
  demand (sha256Hex existing = extent.sha256) (identityErrorAt "extent-verify-hash")
  return existing

variable (range : ByteRange)

def hashFileRange : FileM String := do
  let bytes ← readExact path range
  return sha256Hex bytes

def incomingPart (bytes : Bytes) (gap : ByteRange) : Bytes :=
  slice bytes (gap.start - range.start) (gap.stop - range.start)

/-- The loop of `hash_verified_merged_range`, with the bytes given to the hasher so far. Each
round uses up an extent or a gap, so `fuel` is the number of both. -/
def mergeSegments (path : ManagedPath) (merged incomingRange : ByteRange) (incoming : Bytes)
    (fileLength : Nat) :
    Nat → Nat → List PersistedRangeExtent → List ByteRange → Bytes → FileM Bytes
  | fuel, cursor, olds, gaps, hashed =>
    if merged.stop ≤ cursor then return hashed
    else
      match fuel with
      | 0 => raise (identityErrorAt "extent-merge-segment-gap")
      | fuel + 1 =>
        match olds.head?.filter fun extent =>
            extent.start = cursor ∧ extent.stop ≤ merged.stop with
        | some extent => do
            let existing ← verifyExtentBytes path extent incomingRange incoming fileLength
            mergeSegments path merged incomingRange incoming fileLength fuel extent.stop
              olds.tail gaps (hashed ++ existing)
        | none =>
          match gaps.head?.filter fun gap =>
              gap.start = cursor ∧ gap.stop ≤ merged.stop with
          | some gap =>
            mergeSegments path merged incomingRange incoming fileLength fuel gap.stop
              olds gaps.tail (hashed ++ incomingPart incomingRange incoming gap)
          | none => raise (identityErrorAt "extent-merge-segment-gap")

def hashVerifiedMergedRange (merged : ByteRange) (olds : List PersistedRangeExtent)
    (incomingRange : ByteRange) (incoming : Bytes) (gaps : List ByteRange) (fileLength : Nat) :
    FileM String := do
  let hashed ← mergeSegments path merged incomingRange incoming fileLength
    (olds.length + gaps.length) merged.start (extentsAfter merged.start olds)
    (gaps.dropWhile fun gap => gap.stop ≤ merged.start) []
  return sha256Hex hashed

def verifyExtents (selected : PersistedRangeExtent → Bool) (incomingRange : ByteRange)
    (incoming : Bytes) (fileLength : Nat) (extents : List PersistedRangeExtent) : FileM Unit :=
  forEach (fun extent => do
    let _ ← verifyExtentBytes path extent incomingRange incoming fileLength) (extents.filter selected)

structure RangeExtentCommitInput where
  expected : PersistedRangeManifest
  bytes : Bytes
  finalUrl : String
  etag : Option String
  lastModified : Option String

inductive RangeExtentCommitFailure
  | staleTargetValidator
  | rejected (error : HlsRangeError)
  deriving DecidableEq

structure AdmittedCommit where
  loaded : LoadedRangeManifest
  origin : String
  total : Nat

def demandRebase (expected current : PersistedRangeManifest) (origin : String) :
    Program ResourceFiles RangeExtentCommitFailure Unit :=
  if rangeManifestRebaseCompatibleForExtentPublication expected current origin then return ()
  else if rangeManifestTargetValidatorSnapshotIsStale expected current origin then
    raise .staleTargetValidator
  else
    raise (.rejected (identityErrorAt ((rangeManifestExtentRebaseFailureStage expected current
      origin).getD "extent-publish-rebase-unclassified")))

def admitCommit (input : RangeExtentCommitInput) :
    Program ResourceFiles RangeExtentCommitFailure AdmittedCommit := do
  demand (input.bytes.length = range.stop - range.start)
    (.rejected (.invalidResponse "range length mismatch"))
  let origin ← orRaise (mediaUrlOrigin input.finalUrl)
    (.rejected (.invalidResponse "invalid CDN origin"))
  let loaded ← (loadExisting resource).mapError RangeExtentCommitFailure.rejected
  demandRebase input.expected loaded.manifest origin
  demand ((loaded.manifest.bindingOf origin).all fun binding => binding.strongEtag = input.etag)
    (.rejected (identityErrorAt "extent-origin-validator-change"))
  let total ← orRaise loaded.manifest.totalLength (.rejected (.identityChanged ""))
  demand (range.start < range.stop ∧ range.stop ≤ total)
    (.rejected (.invalidResponse "invalid requested HLS chunk bounds"))
  return ⟨loaded, origin, total⟩

def gapExtents (bytes : Bytes) (gaps : List ByteRange) : List PersistedRangeExtent :=
  gaps.map fun gap => ⟨gap.start, gap.stop, sha256Hex (incomingPart range bytes gap)⟩

/-- The run to merge. A sole flight owns the writer; zero or several flights are not
quiescent. -/
def commitMerge (activeFlightCount total : Nat) (range : ByteRange)
    (extents : List PersistedRangeExtent) : Option ByteRange :=
  if activeFlightCount = 1 then firstCompleteParentCompaction extents total (some range) else none

def coalesceMerged (extents : List PersistedRangeExtent) (merged : Option ByteRange) :
    List PersistedRangeExtent × Bool :=
  match merged with
  | some merged => coalesceSelectedRange extents merged
  | none => (extents, false)

def participatesInMerge (merged : Option ByteRange) (extent : PersistedRangeExtent) : Bool :=
  merged.any fun merged => extent.within merged

def bindStartup (origin : String) (input : RangeExtentCommitInput) : PersistedRangeManifest :=
  if range.start ≠ 0 then manifest
  else
    let prefixLength := min input.bytes.length rangeStartupChunkBytes
    let bound :=
      if manifest.prefixSha256.isSome then manifest
      else
        { manifest with
          prefixLength := prefixLength
          prefixSha256 := some (sha256Hex (input.bytes.take prefixLength))
          strongEtag := input.etag
          validatorOrigin := some origin
          lastModified := input.lastModified }
    match bound.prefixSha256 with
    | none => bound
    | some prefixSha256 =>
      let binding := PersistedRangeOrigin.mk origin prefixSha256 input.etag
      { bound with validatedOrigins := (bound.validatedOrigins ++ [binding]).take 64 }

def writeGaps (bytes : Bytes) (gaps : List ByteRange) : FileM Unit :=
  forEach (fun gap => writeAll path gap.start (incomingPart range bytes gap)) gaps

def checkGaps (bytes : Bytes) (gaps : List ByteRange) : FileM Unit :=
  forEach (fun gap => do
    let digest ← hashFileRange path gap
    demand (digest = sha256Hex (incomingPart range bytes gap))
      (identityErrorAt "extent-write-content")) gaps

def setExtentDigest (selected : ByteRange) (digest : String) :
    List PersistedRangeExtent → Option (List PersistedRangeExtent)
  | [] => none
  | extent :: rest =>
    if extent.start = selected.start ∧ extent.stop = selected.stop then
      some ({ extent with sha256 := digest } :: rest)
    else (setExtentDigest selected digest rest).map (extent :: ·)

def setMergedDigest (merged : Option ByteRange) (mergedSha256 : Option String) :
    FileM PersistedRangeManifest := do
  let merged ← orRaise merged (.identityChanged "")
  let digest ← orRaise mergedSha256 (.identityChanged "")
  let extents ← orRaise (setExtentDigest merged digest manifest.extents) (.identityChanged "")
  return { manifest with extents := extents }

structure CommitPlan where
  path : ManagedPath
  dataIdentity : FileIdentity
  manifest : PersistedRangeManifest
  gaps : List ByteRange
  merged : Option ByteRange
  compacted : Bool
  mergedSha256 : Option String

def mergedDigest (admitted : AdmittedCommit) (range : ByteRange) (bytes : Bytes)
    (gaps : List ByteRange) (openedLength : Nat) (merged : Option ByteRange) (compacted : Bool) :
    FileM (Option String) :=
  if compacted then do
    let merged ← orRaise merged (.identityChanged "")
    let digest ← hashVerifiedMergedRange path merged admitted.loaded.manifest.extents range bytes
      gaps openedLength
    return some digest
  else return none

variable (activeFlightCount : Nat)

def planCommit (range : ByteRange) (input : RangeExtentCommitInput) (admitted : AdmittedCommit)
    (path : ManagedPath) (dataIdentity : FileIdentity) (openedLength : Nat) (gaps : List ByteRange)
    :
    FileM CommitPlan := do
  let olds := admitted.loaded.manifest.extents
  let sorted := sortExtents (olds ++ gapExtents range input.bytes gaps)
  let merged := commitMerge activeFlightCount admitted.total range sorted
  let coalesced := coalesceMerged sorted merged
  let digest ← mergedDigest path admitted range input.bytes gaps openedLength merged coalesced.2
  verifyExtents path (fun extent => extent.overlaps range && !participatesInMerge merged extent)
    range input.bytes openedLength olds
  let bound ← rangeDataObjectIsStillBound dataIdentity
  demand bound (identityErrorAt "extent-data-object-replaced")
  let generation ← nextGeneration admitted.loaded.manifest
  let manifest := bindStartup
    { admitted.loaded.manifest with
      generation := generation
      extents := coalesced.1
      durableBytes := durableExtentBytes coalesced.1 } range admitted.origin input
  ofExcept (ensureRangeManifestCapacity manifest)
  ofExcept (validateRangeManifest manifest resource)
  return ⟨path, dataIdentity, manifest, gaps, merged, coalesced.2, digest⟩

def finishManifest (plan : CommitPlan) : FileM PersistedRangeManifest :=
  if plan.compacted then setMergedDigest plan.manifest plan.merged plan.mergedSha256
  else return plan.manifest

def confirmCommit (input : RangeExtentCommitInput) (admitted : AdmittedCommit)
    (plan : CommitPlan) : FileM PersistedRangeManifest := do
  osCall .syncAll
  let writtenLength ← mediaLength plan.path
  checkGaps plan.path range input.bytes plan.gaps
  verifyExtents plan.path
    (fun extent => extent.overlaps range || participatesInMerge plan.merged extent)
    range input.bytes writtenLength admitted.loaded.manifest.extents
  let manifest ← finishManifest plan
  let finalIdentity ← objectIdentity plan.path
  let finalLength ← mediaLength plan.path
  demand (finalIdentity = plan.dataIdentity ∧ range.stop ≤ finalLength)
    (identityErrorAt "extent-data-object-or-length")
  let bound ← rangeDataObjectIsStillBound plan.dataIdentity
  demand bound (identityErrorAt "extent-data-object-or-length")
  return manifest

def commitAdmitted (range : ByteRange) (input : RangeExtentCommitInput)
    (admitted : AdmittedCommit) : FileM Nat := do
  let loaded := admitted.loaded
  let path ← dataPathForManifest loaded.manifest
  rejectCachePathSymlink path
  let dataIdentity ← openRangeFile path
  let openedLength ← mediaLength path
  demand (loaded.manifest.dataIdentity = some dataIdentity) (identityErrorAt "extent-data-object")
  let gaps := missingRangesWithin loaded.manifest.extents range
  if gaps = [] then
    verifyExtents path (fun extent => extent.overlaps range) range input.bytes openedLength
      loaded.manifest.extents
    return loaded.manifest.durableBytes
  else
    let plan ← planCommit resource activeFlightCount range input admitted path dataIdentity
      openedLength gaps
    writeGaps path range input.bytes gaps
    let manifest ← confirmCommit range input admitted plan
    let latest ← loadExisting resource
    demand (SameCheckpoint latest loaded ∧
        rangeManifestRebaseCompatible loaded.manifest latest.manifest)
      (identityErrorAt "extent-checkpoint-content")
    replaceManifest manifest
    return manifest.durableBytes

def commitRangeExtentWithFailure (range : ByteRange) (input : RangeExtentCommitInput) :
    Program ResourceFiles RangeExtentCommitFailure Nat := do
  let admitted ← admitCommit resource range input
  (commitAdmitted resource activeFlightCount range input admitted).mapError
    RangeExtentCommitFailure.rejected

structure CompactionControl where
  admission : Except HlsRangeError Unit
  beforeHash : Except HlsRangeError Unit
  afterHash : Except HlsRangeError Unit

/-- Whether there is anything to compact, read without the locks. -/
def compactionIsDue (forceDrain : Bool) : FileM Bool :=
  if forceDrain then return true
  else do
    let loaded ← loadRangeManifest resource
    return loaded.any fun loaded =>
      loaded.manifest.totalLength.any fun total =>
        (firstCompleteParentCompaction loaded.manifest.extents total none).isSome

variable (control : CompactionControl)

def compactRun (loaded : LoadedRangeManifest) (merged : ByteRange) : FileM Bool := do
  ofExcept control.beforeHash
  let path ← dataPathForManifest loaded.manifest
  rejectCachePathSymlink path
  let dataIdentity ← openRangeFile path
  let length ← mediaLength path
  demand (loaded.manifest.dataIdentity = some dataIdentity)
    (identityErrorAt "maintenance-data-object")
  let digest ← hashVerifiedMergedRange path merged loaded.manifest.extents ⟨0, 0⟩ [] [] length
  ofExcept control.afterHash
  let finalIdentity ← objectIdentity path
  let finalLength ← mediaLength path
  demand (finalIdentity = dataIdentity ∧ length ≤ finalLength)
    (identityErrorAt "maintenance-data-object-replaced")
  let bound ← rangeDataObjectIsStillBound dataIdentity
  demand bound (identityErrorAt "maintenance-data-object-replaced")
  let coalesced := coalesceSelectedRange loaded.manifest.extents merged
  if coalesced.2 = false then return false
  else
    let extents ← orRaise (setExtentDigest merged digest coalesced.1) (.identityChanged "")
    let generation ← nextGeneration loaded.manifest
    let manifest :=
      { loaded.manifest with
        generation := generation
        extents := extents
        durableBytes := durableExtentBytes extents }
    ofExcept (ensureRangeManifestCapacity manifest)
    ofExcept (validateRangeManifest manifest resource)
    let latest ← loadExisting resource
    demand (SameCheckpoint latest loaded ∧
        rangeManifestRebaseCompatible loaded.manifest latest.manifest)
      (identityErrorAt "maintenance-checkpoint-content")
    replaceManifest manifest
    return true

def compactAdmitted (activeFlightCount : Nat) : FileM Bool := do
  if activeFlightCount ≠ 0 then return false
  else
    match ← loadRangeManifest resource with
    | none => return false
    | some loaded =>
      match loaded.manifest.totalLength with
      | none => return false
      | some total =>
        match firstCompleteParentCompaction loaded.manifest.extents total none with
        | none => return false
        | some merged => compactRun resource control loaded merged

def compactOneCompleteRangeParent (activeFlightCount : Nat) (forceDrain : Bool) :
    FileM Bool := do
  let due ← compactionIsDue resource forceDrain
  if due = false then return false
  else
    ofExcept control.admission
    compactAdmitted resource control activeFlightCount

end NetPlayer.RangeCache
