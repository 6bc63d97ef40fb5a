import NetPlayer.Library.Faulty
import NetPlayer.Library.Slices
import NetPlayer.RangeCache.Manifest

/-!
# The files of one resource

Every managed path of a resource and the object it names, and the operations on
them that the cache is written with. Each call to the operating system may fail
or be the last one before a crash. The temporary files of `write_json_atomically`
are left out: they are removed before each write and read by nobody.
-/

namespace NetPlayer.RangeCache

open Faulty Faulty.Program Slices

structure FileObject (Content : Type) where
  identity : FileIdentity
  content : Content
  deriving DecidableEq

structure PersistedHlsMediaSegment where
  byteRangeOffset : Nat
  byteRangeLength : Nat
  durationMillis : Nat
  deriving DecidableEq

structure PersistedHlsCachedResource where
  schemaVersion : Nat
  id : String
  contentType : String
  totalLength : Nat
  initializationLength : Nat
  segments : List PersistedHlsMediaSegment
  cacheKey : BilibiliMediaCacheKey
  deriving DecidableEq

/-- The managed files. `dataWrites` is the history of the writes to the data object; no
operation reads it. -/
structure ResourceFiles where
  rangeData : Option (FileObject Bytes)
  rangeFullGetTemp : Option (FileObject Bytes)
  final : Option (FileObject Bytes)
  rangeManifest : Option (FileObject PersistedRangeManifest)
  metadata : Option (FileObject PersistedHlsCachedResource)
  device : Nat
  nextInode : Nat
  dataWrites : List ByteRange
  deriving DecidableEq

inductive ManagedPath
  | rangeData
  | rangeFullGetTemp
  | final
  | rangeManifest
  | metadata
  deriving DecidableEq

namespace ResourceFiles

variable (files : ResourceFiles)

def identityAt : ManagedPath → Option FileIdentity
  | .rangeData => files.rangeData.map FileObject.identity
  | .rangeFullGetTemp => files.rangeFullGetTemp.map FileObject.identity
  | .final => files.final.map FileObject.identity
  | .rangeManifest => files.rangeManifest.map FileObject.identity
  | .metadata => files.metadata.map FileObject.identity

def mediaAt : ManagedPath → Option (FileObject Bytes)
  | .rangeData => files.rangeData
  | .rangeFullGetTemp => files.rangeFullGetTemp
  | .final => files.final
  | .rangeManifest => none
  | .metadata => none

def setMedia (path : ManagedPath) (object : Option (FileObject Bytes)) : ResourceFiles :=
  match path with
  | .rangeData => { files with rangeData := object }
  | .rangeFullGetTemp => { files with rangeFullGetTemp := object }
  | .final => { files with final := object }
  | .rangeManifest => files
  | .metadata => files

def freshIdentity : FileIdentity := ⟨files.device, files.nextInode⟩

def createMedia (path : ManagedPath) : ResourceFiles :=
  { files.setMedia path (some ⟨files.freshIdentity, []⟩) with nextInode := files.nextInode + 1 }

def installManifest (manifest : PersistedRangeManifest) : ResourceFiles :=
  { files with
    rangeManifest := some ⟨files.freshIdentity, manifest⟩
    nextInode := files.nextInode + 1 }

def installMetadata (metadata : PersistedHlsCachedResource) : ResourceFiles :=
  { files with
    metadata := some ⟨files.freshIdentity, metadata⟩
    nextInode := files.nextInode + 1 }

def writeMedia (path : ManagedPath) (start : Nat) (bytes : Bytes) : ResourceFiles :=
  { files.setMedia path ((files.mediaAt path).map fun object =>
      { object with content := overwrite 0 object.content start bytes }) with
    dataWrites := files.dataWrites ++ [⟨start, start + bytes.length⟩] }

def manifestBytes (manifest : PersistedRangeManifest) : Bytes := toVecPretty manifest ++ [0x0a]

end ResourceFiles

abbrev FileM := Program ResourceFiles HlsRangeError

def osCall (call : FileCall) : FileM Unit := inspect (.io (.os call)) fun _ => .ok ()

def rejectCachePathSymlink (_path : ManagedPath) : FileM Unit := osCall .symlinkMetadata

variable (path : ManagedPath)

def safeFileIdentity : FileM (Option FileIdentity) :=
  inspect (.io (.os .symlinkMetadata)) fun files => .ok (files.identityAt path)

def notFoundError : HlsRangeError := .io (.notFound "No such file or directory")

def openRangeFile : FileM FileIdentity :=
  inspect (.io (.os .openFile)) fun files =>
    match files.identityAt path with
    | some identity => .ok identity
    | none => .error notFoundError

def objectIdentity : FileM FileIdentity :=
  inspect (.io (.os .metadata)) fun files =>
    match files.identityAt path with
    | some identity => .ok identity
    | none => .error notFoundError

def mediaLength : FileM Nat :=
  inspect (.io (.os .metadata)) fun files =>
    match files.mediaAt path with
    | some object => .ok object.content.length
    | none => .error notFoundError

def readExact (range : ByteRange) : FileM Bytes :=
  inspect (.io (.os .read)) fun files =>
    match files.mediaAt path with
    | none => .error notFoundError
    | some object =>
      if range.stop ≤ object.content.length then
        .ok (slice object.content range.start range.stop)
      else .error (.io (.unexpectedEof "failed to fill whole buffer"))

def writeAll (start : Nat) (bytes : Bytes) : FileM Unit :=
  gradual (.io (.os .write)) (fun files => files.writeMedia path start bytes)
    fun progress files => files.writeMedia path start (bytes.take progress)

def writeTempJson : FileM Unit :=
  forEach osCall [.createDirectory, .removeFile, .createNew, .write, .syncAll, .symlinkMetadata]

variable (install : ResourceFiles → ResourceFiles)

/-- `write_json_atomically`; `install` puts the new file in place. -/
def writeJsonAtomically : FileM Unit := do
  writeTempJson
  atomic (.io (.os .rename)) install

def syncDirectory : FileM Unit := osCall .syncDirectory

structure LoadedRangeManifest where
  manifest : PersistedRangeManifest
  bytesDigest : String
  fileIdentity : FileIdentity
  deriving DecidableEq

def dataPathForManifest (manifest : PersistedRangeManifest) : FileM ManagedPath := do
  let partialIdentity ← safeFileIdentity .rangeData
  if partialIdentity.isSome ∧ partialIdentity = manifest.dataIdentity then
    return .rangeData
  else
    let finalIdentity ← safeFileIdentity .final
    if finalIdentity.isSome ∧ finalIdentity = manifest.dataIdentity then
      return .final
    else if finalIdentity.isSome then
      raise (identityErrorAt "completed-path-not-regular")
    else if partialIdentity.isSome then
      raise (identityErrorAt "partial-data-object-replaced")
    else raise (.io (.notFound "checkpoint data is missing"))

def readManifest : FileM PersistedRangeManifest :=
  inspect (.io (.os .read)) fun files =>
    match files.rangeManifest with
    | some object => .ok object.content
    | none => .error notFoundError

def manifestLength : FileM Nat :=
  inspect (.io (.os .metadata)) fun files =>
    match files.rangeManifest with
    | some object => .ok (ResourceFiles.manifestBytes object.content).length
    | none => .error notFoundError

def loadRangeManifest [UrlParser] (resource : HlsMediaResource) : FileM (Option LoadedRangeManifest) := do
  match ← safeFileIdentity .rangeManifest with
  | none =>
    let dataIdentity ← safeFileIdentity .rangeData
    demand (dataIdentity = none) (identityErrorAt "manifest-missing-data-present")
    return none
  | some pathIdentity =>
    let openedIdentity ← openRangeFile .rangeManifest
    demand (openedIdentity = pathIdentity) (identityErrorAt "manifest-open-object")
    let length ← manifestLength
    demand (length ≤ rangeMaxManifestBytes)
      (.invalidResponse "HLS range manifest exceeds its size bound")
    let manifest ← readManifest
    let readIdentity ← objectIdentity .rangeManifest
    demand (readIdentity = openedIdentity) (identityErrorAt "manifest-read-object")
    ofExcept (validateRangeManifest manifest resource)
    let dataPath ← dataPathForManifest manifest
    let dataIdentity ← safeFileIdentity dataPath
    demand (dataIdentity.isSome) (.io (.notFound "checkpoint data is missing"))
    demand (manifest.dataIdentity = dataIdentity) (identityErrorAt "manifest-data-object-binding")
    return some ⟨manifest, sha256Hex (ResourceFiles.manifestBytes manifest), openedIdentity⟩

def rangeDataObjectIsStillBound (identity : FileIdentity) : FileM Bool := do
  let partialIdentity ← safeFileIdentity .rangeData
  if partialIdentity = some identity then return true
  else
    let finalIdentity ← safeFileIdentity .final
    return finalIdentity = some identity

def NotSync (error : HlsRangeError) : Prop := error ≠ .io (.os .syncDirectory)

/-- The program leaves the files alone and returns only values of `values`; its errors are not
those of a directory sync. -/
abbrev Reads {Value : Type} (program : FileM Value) (files : ResourceFiles)
    (values : Value → Prop) : Prop :=
  Inspects program files values NotSync

variable {call : FileCall}

theorem notSync_os (h : call ≠ .syncDirectory) : NotSync (.io (.os call)) := by
  simpa [NotSync] using h

theorem notSync_identity (stage : String) : NotSync (identityErrorAt stage) := by
  simp [NotSync, identityErrorAt]

theorem notSync_invalid (reason : String) : NotSync (.invalidResponse reason) := by
  simp [NotSync]

theorem reads_osCall (h : call ≠ .syncDirectory) (files : ResourceFiles) :
    Reads (osCall call) files fun _ => True :=
  inspects_inspect (fun _ _ => trivial) (fun _ h => by cases h) (notSync_os h)

theorem reads_writeTempJson (files : ResourceFiles) : Reads writeTempJson files fun _ => True := by
  have hc : ∀ call ∈ [FileCall.createDirectory, .removeFile, .createNew, .write, .syncAll,
      .symlinkMetadata], Reads (osCall call) files fun _ => True := by
    intro call hm
    apply reads_osCall
    rintro rfl
    simp at hm
  exact (inspects_forEach hc).mono (fun _ _ => trivial) fun _ h => h

theorem ends_writeJsonAtomically (files : ResourceFiles) :
    Ends (writeJsonAtomically install) files
      ⟨fun _ t => t = install files, fun error t => NotSync error ∧ t = files,
        fun t => t = files ∨ t = install files⟩ := by
  refine Ends.bind_inspects (reads_writeTempJson files) (fun _ _ => ?_) (fun _ h => ⟨h, rfl⟩)
    (.inl rfl)
  exact ends_atomic rfl ⟨notSync_os (by decide), rfl⟩ (.inl rfl) (.inr rfl)

theorem ends_syncDirectory (files : ResourceFiles) :
    Ends syncDirectory files
      ⟨fun _ t => t = files, fun error t => error = .io (.os .syncDirectory) ∧ t = files,
        fun t => t = files⟩ := by
  refine ends_call (fun _ t h => ?_) (fun _ h => ?_) (fun _ => ⟨rfl, rfl⟩) fun _ => rfl
  · cases h
    rfl
  · cases h

theorem reads_safeFileIdentity (files : ResourceFiles) :
    Reads (safeFileIdentity path) files fun found => found = files.identityAt path := by
  refine inspects_inspect (fun found h => ?_) (fun _ h => by cases h) (notSync_os (by decide))
  cases h
  rfl

theorem inspects_identityAt (h : call ≠ .syncDirectory) (path : ManagedPath) (files : ResourceFiles)
    :
    Reads (inspect (.io (.os call)) fun files =>
      match files.identityAt path with
      | some identity => .ok identity
      | none => .error notFoundError) files fun identity =>
        files.identityAt path = some identity := by
  refine inspects_inspect (fun identity h => ?_) (fun error h => ?_) (notSync_os h)
  · cases hf : files.identityAt path with
    | none => simp [hf] at h
    | some found => simpa [hf] using h
  · cases hf : files.identityAt path with
    | none =>
      simp only [hf, Except.error.injEq] at h
      simp [← h, NotSync, notFoundError]
    | some found => simp [hf] at h

theorem reads_openRangeFile (files : ResourceFiles) :
    Reads (openRangeFile path) files fun identity => files.identityAt path = some identity :=
  inspects_identityAt (by decide) path files

theorem reads_objectIdentity (files : ResourceFiles) :
    Reads (objectIdentity path) files fun identity => files.identityAt path = some identity :=
  inspects_identityAt (by decide) path files

theorem reads_mediaLength (files : ResourceFiles) :
    Reads (mediaLength path) files fun length =>
      ∃ object, files.mediaAt path = some object ∧ length = object.content.length := by
  refine inspects_inspect (fun length h => ?_) (fun error h => ?_) (notSync_os (by decide))
  · cases hf : files.mediaAt path with
    | none => simp [hf] at h
    | some object =>
      simp only [hf, Except.ok.injEq] at h
      exact ⟨object, rfl, h.symm⟩
  · cases hf : files.mediaAt path with
    | none =>
      simp only [hf, Except.error.injEq] at h
      simp [← h, NotSync, notFoundError]
    | some found => simp [hf] at h

theorem reads_readExact (range : ByteRange) (files : ResourceFiles) :
    Reads (readExact path range) files fun bytes =>
      ∃ object, files.mediaAt path = some object ∧ range.stop ≤ object.content.length ∧
        bytes = slice object.content range.start range.stop := by
  refine inspects_inspect (fun bytes h => ?_) (fun error h => ?_) (notSync_os (by decide))
  · cases hf : files.mediaAt path with
    | none => simp [hf] at h
    | some object =>
      simp only [hf] at h
      split at h
      · cases h
        exact ⟨object, rfl, ‹_›, rfl⟩
      · cases h
  · cases hf : files.mediaAt path with
    | none =>
      simp only [hf, Except.error.injEq] at h
      simp [← h, NotSync, notFoundError]
    | some object =>
      simp only [hf] at h
      split at h
      · cases h
      · cases h
        simp [NotSync]

/-- The data object of a manifest is at the path, which is that of the partial file unless
another object is there. -/
theorem reads_dataPathForManifest (manifest : PersistedRangeManifest) (files : ResourceFiles) :
    Reads (dataPathForManifest manifest) files fun path =>
      manifest.dataIdentity.isSome ∧ files.identityAt path = manifest.dataIdentity ∧
        (path = .rangeData ∨
          path = .final ∧ files.identityAt .rangeData ≠ manifest.dataIdentity) := by
  refine Inspects.bind (reads_safeFileIdentity .rangeData files) ?_
  rintro _ rfl
  split
  · rename_i hpartially
    exact inspects_pure ⟨hpartially.2 ▸ hpartially.1, hpartially.2, .inl rfl⟩
  rename_i hpartially
  refine Inspects.bind (reads_safeFileIdentity .final files) ?_
  rintro _ rfl
  split
  · rename_i hfinal
    refine inspects_pure ⟨hfinal.2 ▸ hfinal.1, hfinal.2, .inr ⟨rfl, fun hs => ?_⟩⟩
    exact hpartially ⟨hs ▸ hfinal.2 ▸ hfinal.1, hs⟩
  · split
    · exact inspects_raise (notSync_identity _)
    · split
      · exact inspects_raise (notSync_identity _)
      · exact inspects_raise (by simp [NotSync])

theorem reads_rangeDataObjectIsStillBound (identity : FileIdentity) (files : ResourceFiles) :
    Reads (rangeDataObjectIsStillBound identity) files fun _ => True := by
  refine Inspects.bind (reads_safeFileIdentity .rangeData files) fun _ _ => ?_
  split
  · exact inspects_pure trivial
  · exact Inspects.bind (reads_safeFileIdentity .final files) fun _ _ => inspects_pure trivial

def ResourceFiles.loaded (files : ResourceFiles) : Option LoadedRangeManifest :=
  files.rangeManifest.map fun object =>
    ⟨object.content, sha256Hex (ResourceFiles.manifestBytes object.content), object.identity⟩

theorem validateRangeManifest_notSync [UrlParser] {manifest : PersistedRangeManifest}
    {resource : HlsMediaResource} {error : HlsRangeError}
    (h : validateRangeManifest manifest resource = .error error) : NotSync error := by
  unfold validateRangeManifest at h
  split at h
  · cases h
    exact notSync_identity _
  split at h
  · cases h
    exact notSync_invalid _
  split at h
  · cases h
    exact notSync_invalid _
  split at h
  · cases h
    exact notSync_invalid _
  · cases h

variable {object : FileObject PersistedRangeManifest}

theorem reads_manifestLength {files : ResourceFiles} (hob : files.rangeManifest = some object) :
    Reads manifestLength files fun _ => True :=
  inspects_inspect (fun _ _ => trivial) (fun _ h => by simp [hob] at h)
    (notSync_os (by decide))

theorem reads_readManifest {files : ResourceFiles} (hob : files.rangeManifest = some object) :
    Reads readManifest files fun manifest => manifest = object.content := by
  refine inspects_inspect (fun manifest h => ?_) (fun _ h => by simp [hob] at h)
    (notSync_os (by decide))
  simpa [hob, eq_comm] using h

theorem reads_loadRangeManifest [UrlParser] (resource : HlsMediaResource)
    (files : ResourceFiles) :
    Reads (loadRangeManifest resource) files fun found =>
      found = files.loaded ∧
        ∀ loaded, found = some loaded → validateRangeManifest loaded.manifest resource = .ok () := by
  refine Inspects.bind (reads_safeFileIdentity .rangeManifest files) ?_
  rintro _ rfl
  cases hob : files.rangeManifest with
  | none =>
    simp only [ResourceFiles.identityAt, hob, Option.map_none]
    refine Inspects.bind (reads_safeFileIdentity .rangeData files) fun _ _ => ?_
    refine Inspects.bind (inspects_demand (notSync_identity _)) fun _ _ => ?_
    exact inspects_pure ⟨by simp [ResourceFiles.loaded, hob], by simp⟩
  | some object =>
    simp only [ResourceFiles.identityAt, hob, Option.map_some]
    refine Inspects.bind (reads_openRangeFile .rangeManifest files) fun opened hopened => ?_
    have hident : opened = object.identity := by
      simpa [ResourceFiles.identityAt, hob, eq_comm] using hopened
    refine Inspects.bind (inspects_demand (notSync_identity _)) fun _ _ => ?_
    refine Inspects.bind (reads_manifestLength hob) fun _ _ => ?_
    refine Inspects.bind (inspects_demand (notSync_invalid _)) fun _ _ => ?_
    refine Inspects.bind (reads_readManifest hob) ?_
    rintro _ rfl
    refine Inspects.bind (reads_objectIdentity .rangeManifest files) fun _ _ => ?_
    refine Inspects.bind (inspects_demand (notSync_identity _)) fun _ _ => ?_
    refine Inspects.bind (inspects_ofExcept fun _ => validateRangeManifest_notSync)
      fun _ hv => ?_
    refine Inspects.bind (reads_dataPathForManifest _ files) fun path _ => ?_
    refine Inspects.bind (reads_safeFileIdentity path files) fun _ _ => ?_
    refine Inspects.bind (inspects_demand (by simp [NotSync])) fun _ _ => ?_
    refine Inspects.bind (inspects_demand (notSync_identity _)) fun _ _ => ?_
    refine inspects_pure ⟨by simp [ResourceFiles.loaded, hob, hident], ?_⟩
    rintro loaded hl
    cases hl
    exact hv

end NetPlayer.RangeCache
