import NetPlayer.RangeCache.Finalize
import NetPlayer.RangeCache.StoreRuns
import NetPlayer.Segments.SegmentTable

/-!
# Recovery of an interrupted finalization

Wherever a finalization stops, the files are those of one that can still be done
or of one that is done. The calls that look for the traces of an earlier run
finish it with the same data and the same metadata.
-/

namespace NetPlayer.RangeCache

open Faulty Faulty.Program Slices Segments Spans Transition ResourceFiles Option List

variable {storedKey : Option BilibiliMediaCacheKey} {resource : HlsMediaResource}
  {totalLength : Nat} {files : ResourceFiles}

structure Describes (storedKey : Option BilibiliMediaCacheKey) (resource : HlsMediaResource)
    (totalLength : Nat) (data : FileObject Bytes) (description : PersistedHlsCachedResource) :
    Prop where
  schema : description.schemaVersion = hlsCacheSchemaVersion
  sameId : description.id = resource.id
  key : storedKey = some description.cacheKey
  describedLength : description.totalLength = totalLength
  initialization : 0 < description.initializationLength
  inside : description.initializationLength < totalLength
  dataLength : data.content.length = totalLength

structure FinalizePlan where
  checkpoint : FileObject PersistedRangeManifest
  data : FileObject Bytes
  initializationLength : Nat
  segments : List HlsMediaSegment
  description : PersistedHlsCachedResource

/-- What the checks of a covered manifest have found: the layout of its data. -/
structure Checked (manifest : PersistedRangeManifest) (totalLength : Nat)
    (data : FileObject Bytes) (initializationLength : Nat) (segments : List HlsMediaSegment) :
    Prop where
  bound : manifest.dataIdentity = some data.identity
  covers : CoversTotal manifest totalLength
  digests : ∀ extent ∈ manifest.extents, extent.stop ≤ data.content.length ∧
    sha256Hex (slice data.content extent.start extent.stop) = extent.sha256
  dataLength : data.content.length = totalLength
  scanned : mp4InitializationLength (data.content.take hlsInitializationScanBytes) =
    some initializationLength
  initialization : 0 < initializationLength
  inside : initializationLength < totalLength
  parsed : ∃ ranges, mp4FragmentRanges data.content initializationLength totalLength =
    .ok ranges ∧ segments = hlsSegmentsFromMp4Ranges ranges

def LocatedAt (files : ResourceFiles) (data : FileObject Bytes) (path : ManagedPath) : Prop :=
  path = .rangeData ∧ files.rangeData = some data ∨
    path = .final ∧ files.rangeData = none ∧ files.final = some data

def PlacedAt (files : ResourceFiles) (data : FileObject Bytes) (path : ManagedPath) : Prop :=
  path = .rangeData ∧ files.rangeData = some data ∧ files.final = none ∨
    path = .final ∧ files.rangeData = none ∧ files.final = some data

/-- A finalization of the resource can still succeed from these files. -/
structure Finalizable [UrlParser] (storedKey : Option BilibiliMediaCacheKey)
    (resource : HlsMediaResource)
    (totalLength : Nat) (plan : FinalizePlan) (files : ResourceFiles) : Prop where
  checkpoint : files.rangeManifest = some plan.checkpoint
  bounded : (manifestBytes plan.checkpoint.content).length ≤ rangeMaxManifestBytes
  valid : validateRangeManifest plan.checkpoint.content resource = .ok ()
  placed : ∃ path, PlacedAt files plan.data path
  checked : Checked plan.checkpoint.content totalLength plan.data plan.initializationLength
    plan.segments
  description : files.metadata = none ∧ plan.description =
      completedMetadata resource totalLength plan.initializationLength plan.segments ∨
    ∃ object, files.metadata = some object ∧ object.content = plan.description
  describes : Describes storedKey resource totalLength plan.data plan.description

/-- The completed file and its metadata are there, and the manifest is gone. -/
structure Finalized (storedKey : Option BilibiliMediaCacheKey) (resource : HlsMediaResource)
    (totalLength : Nat) (plan : FinalizePlan) (files : ResourceFiles) : Prop where
  final : files.final = some plan.data
  noData : files.rangeData = none
  noCheckpoint : files.rangeManifest = none
  description : ∃ object, files.metadata = some object ∧ object.content = plan.description
  describes : Describes storedKey resource totalLength plan.data plan.description

section

variable {plan : FinalizePlan} {data : FileObject Bytes}
  {description : PersistedHlsCachedResource}

theorem cachedLength_eq {object : FileObject PersistedHlsCachedResource}
    (hmeta : files.metadata = some object) (hfinal : files.final = some data)
    (h : Describes storedKey resource totalLength data object.content) :
    cachedLength storedKey resource files = some totalLength := by
  have hbind : ¬ (object.content.schemaVersion ≠ hlsCacheSchemaVersion ∨
      object.content.id ≠ resource.id ∨ storedKey ≠ some object.content.cacheKey) := by
    simp [h.schema, h.sameId, h.key]
  have hlen : ¬ (data.content.length ≠ object.content.totalLength ∨
      object.content.initializationLength = 0 ∨
      object.content.totalLength ≤ object.content.initializationLength) := by
    have hinitialization := h.initialization
    have hin := h.inside
    rw [h.dataLength, h.describedLength]
    omega
  unfold cachedLength
  simp only [hmeta, hfinal, bind, bind_some]
  rw [if_neg hbind, if_neg hlen, h.describedLength]

theorem cachedLength_some {found : Nat} (h : cachedLength storedKey resource files = some found) :
    ∃ object data, files.metadata = some object ∧ files.final = some data ∧
      Describes storedKey resource found data object.content := by
  unfold cachedLength at h
  simp only [bind, bind_eq_some_iff] at h
  obtain ⟨object, hmeta, h⟩ := h
  split at h
  · cases h
  next hbind =>
    obtain ⟨data, hfinal, h⟩ := bind_eq_some_iff.mp h
    split at h
    · cases h
    next hlen =>
      cases h
      push Not at hbind hlen
      obtain ⟨hschema, hid, hk⟩ := hbind
      obtain ⟨hdata, hinitialization, hin⟩ := hlen
      exact ⟨object, data, hmeta, hfinal, hschema, hid, hk, rfl, by omega, hin, hdata⟩

theorem completes_cachedResource :
    Completes (cachedResource storedKey resource) files (cachedLength storedKey resource files)
      files := by
  have hatt : Completes (cachedResource storedKey resource) files _ files :=
    completes_attempt_inspect
  cases hcached : cachedLength storedKey resource files with
  | none | some length =>
    simp only [hcached] at hatt
    exact hatt

theorem finds_demand {condition : Prop} [Decidable condition] {error : HlsRangeError} :
    Inspects (demand condition error) files (fun _ => condition) fun _ => True :=
  inspects_demand trivial

theorem finds_cachedResource :
    Inspects (cachedResource storedKey resource) files
      (fun found => ∀ length, found = some length →
        cachedLength storedKey resource files = some length) fun _ => True := by
  apply inspects_attempt
  refine inspects_inspect (fun length h => ?_) (fun _ _ => trivial) trivial
  cases hcached : cachedLength storedKey resource files with
  | none => simp [hcached] at h
  | some found =>
    simp only [hcached, Except.ok.injEq] at h
    rw [h]

end

section

variable {path : ManagedPath} {data : FileObject Bytes} {manifest : PersistedRangeManifest}

theorem completes_osCall (call : FileCall) (files : ResourceFiles) :
    Completes (osCall call) files () files := rfl

theorem completes_safeFileIdentity (path : ManagedPath) (files : ResourceFiles) :
    Completes (safeFileIdentity path) files (files.identityAt path) files := rfl

variable {identity : FileIdentity}

theorem completes_openRangeFile (h : files.identityAt path = some identity) :
    Completes (openRangeFile path) files identity files :=
  completes_inspect (by rw [h])

theorem completes_objectIdentity (h : files.identityAt path = some identity) :
    Completes (objectIdentity path) files identity files :=
  completes_inspect (by rw [h])

theorem completes_mediaLength (h : files.mediaAt path = some data) :
    Completes (mediaLength path) files data.content.length files :=
  completes_inspect (by rw [h])

theorem completes_readExact {range : ByteRange} (h : files.mediaAt path = some data)
    (hstop : range.stop ≤ data.content.length) :
    Completes (readExact path range) files (slice data.content range.start range.stop) files :=
  completes_inspect (by simp only [h, if_pos hstop])

theorem completes_readMedia {Value : Type} {read : Bytes → Except HlsRangeError Value}
    {value : Value} (h : files.mediaAt path = some data) (hr : read data.content = .ok value) :
    Completes (readMedia path read) files value files :=
  completes_inspect (by simp only [h, hr])

theorem completes_writeJsonAtomically (install : ResourceFiles → ResourceFiles)
    (files : ResourceFiles) :
    Completes (writeJsonAtomically install) files () (install files) := rfl

theorem PlacedAt.located (h : PlacedAt files data path) : LocatedAt files data path := by
  rcases h with ⟨hpath, hdata, _⟩ | h
  · exact .inl ⟨hpath, hdata⟩
  · exact .inr h

variable (h : LocatedAt files data path)

include h

theorem LocatedAt.mediaAt : files.mediaAt path = some data := by
  rcases h with ⟨rfl, hdata⟩ | ⟨rfl, _, hdata⟩
  · exact hdata
  · exact hdata

theorem LocatedAt.identityAt :
    files.identityAt path = some data.identity := by
  rcases h with ⟨rfl, hdata⟩ | ⟨rfl, _, hdata⟩
  · simp [ResourceFiles.identityAt, hdata]
  · simp [ResourceFiles.identityAt, hdata]

theorem completes_dataPathForManifest
    (hbound : manifest.dataIdentity = some data.identity) :
    Completes (dataPathForManifest manifest) files path files := by
  apply Completes.bind (completes_safeFileIdentity .rangeData files)
  rcases h with ⟨rfl, hdata⟩ | ⟨rfl, hn, hfinal⟩
  · rw [if_pos (by simp [ResourceFiles.identityAt, hdata, hbound])]
    exact completes_pure _ _
  rw [if_neg (by simp [ResourceFiles.identityAt, hn])]
  apply Completes.bind (completes_safeFileIdentity .final files)
  rw [if_pos (by simp [ResourceFiles.identityAt, hfinal, hbound])]
  exact completes_pure _ _

theorem completes_rangeDataObjectIsStillBound :
    Completes (rangeDataObjectIsStillBound data.identity) files true files := by
  apply Completes.bind (completes_safeFileIdentity .rangeData files)
  rcases h with ⟨rfl, hdata⟩ | ⟨rfl, hn, hfinal⟩
  · rw [if_pos (by simp [ResourceFiles.identityAt, hdata])]
    exact completes_pure _ _
  rw [if_neg (by simp [ResourceFiles.identityAt, hn])]
  apply Completes.bind (completes_safeFileIdentity .final files)
  have hs : decide (files.identityAt .final = some data.identity) = true := by
    simp [ResourceFiles.identityAt, hfinal]
  rw [hs]
  exact completes_pure _ _

omit h

theorem completes_verifyExtentDigest {extent : PersistedRangeExtent}
    (h : files.mediaAt path = some data) (hstop : extent.stop ≤ data.content.length)
    (hdig : sha256Hex (slice data.content extent.start extent.stop) = extent.sha256) :
    Completes (verifyExtentDigest path extent) files () files := by
  apply Completes.bind (completes_readExact h hstop)
  exact completes_demand hdig

include h in
theorem completes_verifyRangeExtentsSync
    (hbound : manifest.dataIdentity = some data.identity)
    (hdigests : ∀ extent ∈ manifest.extents, extent.stop ≤ data.content.length ∧
      sha256Hex (slice data.content extent.start extent.stop) = extent.sha256) :
    Completes (verifyRangeExtentsSync manifest) files () files := by
  apply Completes.bind (completes_dataPathForManifest h hbound)
  apply Completes.bind (completes_osCall _ files)
  apply Completes.bind (completes_openRangeFile h.identityAt)
  apply Completes.bind (completes_demand hbound)
  have hverify : ∀ extent ∈ manifest.extents,
      Completes (verifyExtentDigest path extent) files () files := by
    intro extent hmem
    have hextent := hdigests extent hmem
    exact completes_verifyExtentDigest h.mediaAt hextent.1 hextent.2
  apply Completes.bind (completes_forEach hverify)
  apply Completes.bind (completes_rangeDataObjectIsStillBound h)
  exact completes_demand rfl

theorem completes_checkRangeResource {initializationLength : Nat}
    {segments : List HlsMediaSegment} (hlocated : LocatedAt files data path)
    (h : Checked manifest totalLength data initializationLength segments) :
    Completes (checkRangeResource manifest totalLength) files
      (path, initializationLength, segments) files := by
  obtain ⟨ranges, hranges, hsegments⟩ := h.parsed
  apply Completes.bind (completes_demand h.covers)
  apply Completes.bind (completes_verifyRangeExtentsSync hlocated h.bound h.digests)
  apply Completes.bind (completes_dataPathForManifest hlocated h.bound)
  apply Completes.bind (completes_mediaLength hlocated.mediaAt)
  apply Completes.bind (completes_demand h.dataLength)
  have hscan : Completes (cachedMp4InitializationLength path) files initializationLength
      files := by
    apply completes_readMedia hlocated.mediaAt
    simp only [h.scanned]
  apply Completes.bind hscan
  apply Completes.bind (completes_demand ⟨h.initialization, h.inside⟩)
  have hparse : Completes (mp4Segments path initializationLength totalLength) files
      segments files := by
    apply completes_readMedia hlocated.mediaAt
    simp only [hranges, hsegments]
  apply Completes.bind hparse
  exact completes_pure _ _

def ResourceFiles.placeData (files : ResourceFiles) (data : FileObject Bytes) : ResourceFiles :=
  { files with rangeData := none, final := some data }

theorem completes_moveData (hplaced : PlacedAt files data path)
    (hbound : manifest.dataIdentity = some data.identity) :
    Completes (moveData path manifest.dataIdentity) files () (files.placeData data) := by
  apply Completes.bind (completes_safeFileIdentity .final files)
  rcases hplaced with ⟨rfl, hdata, hfinal⟩ | ⟨rfl, hn, hfinal⟩
  · rw [if_neg (by simp [ResourceFiles.identityAt, hfinal])]
    apply Completes.bind (completes_demand (by decide))
    apply Completes.bind (completes_osCall _ files)
    have hrename : files.renameMedia .rangeData .final = files.placeData data := by
      simp [ResourceFiles.renameMedia, ResourceFiles.placeData, ResourceFiles.mediaAt,
        setMedia, hdata]
    rw [← hrename]
    exact Completes.bind completes_atomic (completes_osCall _ _)
  · have hs : files.placeData data = files := by
      unfold ResourceFiles.placeData
      rw [← hn, ← hfinal]
    rw [if_pos (by simp [ResourceFiles.identityAt, hfinal]), hs]
    exact completes_demand (by simp [ResourceFiles.identityAt, hfinal, hbound])

def ResourceFiles.describeWith (files : ResourceFiles) (metadata : PersistedHlsCachedResource) :
    ResourceFiles :=
  if files.metadata.isSome then files else files.installMetadata metadata

theorem completes_describeData (metadata : PersistedHlsCachedResource)
    (h : files.metadata.isSome → cachedLength storedKey resource files = some totalLength) :
    Completes (describeData storedKey resource totalLength metadata) files ()
      (files.describeWith metadata) := by
  unfold describeData ResourceFiles.describeWith
  apply Completes.bind (completes_safeFileIdentity .metadata files)
  have hident : (files.identityAt .metadata).isSome = files.metadata.isSome := by
    simp [ResourceFiles.identityAt]
  simp only [hident]
  split
  · next hs =>
      apply Completes.bind completes_cachedResource
      exact completes_demand (h hs)
  · apply Completes.bind (completes_writeJsonAtomically _ files)
    exact completes_osCall _ _

theorem remove_of_absent (h : files.identityAt path = none) : files.remove path = files := by
  cases path with
  | rangeData =>
    have hn : files.rangeData = none := by simpa [ResourceFiles.identityAt] using h
    simp [ResourceFiles.remove, setMedia, ← hn]
  | rangeFullGetTemp =>
    have hn : files.rangeFullGetTemp = none := by simpa [ResourceFiles.identityAt] using h
    simp [ResourceFiles.remove, setMedia, ← hn]
  | final =>
    have hn : files.final = none := by simpa [ResourceFiles.identityAt] using h
    simp [ResourceFiles.remove, setMedia, ← hn]
  | rangeManifest =>
    have hn : files.rangeManifest = none := by simpa [ResourceFiles.identityAt] using h
    simp [ResourceFiles.remove, ← hn]
  | metadata =>
    have hn : files.metadata = none := by simpa [ResourceFiles.identityAt] using h
    simp [ResourceFiles.remove, ← hn]

theorem completes_removeManagedCacheFileIfExists (path : ManagedPath) (files : ResourceFiles) :
    Completes (removeManagedCacheFileIfExists path) files () (files.remove path) := by
  apply Completes.bind (completes_osCall _ files)
  apply Completes.bind (completes_safeFileIdentity path files)
  cases hident : files.identityAt path with
  | none =>
    rw [remove_of_absent hident]
    exact completes_pure () files
  | some identity => exact completes_atomic

def loadedCheckpoint (checkpoint : FileObject PersistedRangeManifest) : LoadedRangeManifest :=
  ⟨checkpoint.content, sha256Hex (manifestBytes checkpoint.content),
    checkpoint.identity⟩

theorem completes_loadRangeManifest [UrlParser] {checkpoint : FileObject PersistedRangeManifest}
    (hckpt : files.rangeManifest = some checkpoint)
    (hbdd : (manifestBytes checkpoint.content).length ≤ rangeMaxManifestBytes)
    (hv : validateRangeManifest checkpoint.content resource = .ok ())
    (hlocated : LocatedAt files data path)
    (hbound : checkpoint.content.dataIdentity = some data.identity) :
    Completes (loadRangeManifest resource) files (some (loadedCheckpoint checkpoint)) files := by
  have hident : files.identityAt .rangeManifest = some checkpoint.identity := by
    simp [ResourceFiles.identityAt, hckpt]
  apply Completes.bind (completes_safeFileIdentity .rangeManifest files)
  simp only [hident]
  apply Completes.bind (completes_openRangeFile hident)
  apply Completes.bind (completes_demand rfl)
  have hlen : Completes manifestLength files
      (manifestBytes checkpoint.content).length files :=
    completes_inspect (by rw [hckpt])
  apply Completes.bind hlen
  apply Completes.bind (completes_demand hbdd)
  have hr : Completes readManifest files checkpoint.content files :=
    completes_inspect (by rw [hckpt])
  apply Completes.bind hr
  apply Completes.bind (completes_objectIdentity hident)
  apply Completes.bind (completes_demand rfl)
  apply Completes.bind (completes_ofExcept hv)
  apply Completes.bind (completes_dataPathForManifest hlocated hbound)
  apply Completes.bind (completes_safeFileIdentity path files)
  rw [hlocated.identityAt]
  apply Completes.bind (completes_demand (by simp))
  apply Completes.bind (completes_demand hbound)
  exact completes_pure _ _

theorem completes_loadRangeManifest_none [UrlParser] (hckpt : files.rangeManifest = none)
    (hdata : files.rangeData = none) : Completes (loadRangeManifest resource) files none files := by
  apply Completes.bind (completes_safeFileIdentity .rangeManifest files)
  simp only [ResourceFiles.identityAt, hckpt, map_none]
  apply Completes.bind (completes_safeFileIdentity .rangeData files)
  apply Completes.bind (completes_demand (by simp [ResourceFiles.identityAt, hdata]))
  exact completes_pure _ _

end

section

variable [UrlParser] {plan : FinalizePlan} {path : ManagedPath}

def FinalizePlan.loaded (plan : FinalizePlan) : LoadedRangeManifest :=
  loadedCheckpoint plan.checkpoint

theorem Finalizable.completes_load (h : Finalizable storedKey resource totalLength plan files) :
    Completes (loadRangeManifest resource) files (some plan.loaded) files := by
  obtain ⟨path, hplaced⟩ := h.placed
  exact completes_loadRangeManifest h.checkpoint h.bounded h.valid hplaced.located h.checked.bound

def FinalizePlan.finish (plan : FinalizePlan) (files : ResourceFiles) : ResourceFiles :=
  { (files.placeData plan.data).describeWith plan.description with rangeManifest := none }

section

variable (h : Finalizable storedKey resource totalLength plan files)
include h

theorem Finalizable.cachedLength_placed
    (hs : (files.placeData plan.data).metadata.isSome) :
    cachedLength storedKey resource (files.placeData plan.data) = some totalLength := by
  rcases h.description with ⟨hn, _⟩ | ⟨object, hobject, hcontent⟩
  · rw [show (files.placeData plan.data).metadata = files.metadata from rfl, hn] at hs
    cases hs
  · have hfinal : (files.placeData plan.data).final = some plan.data := rfl
    exact cachedLength_eq hobject hfinal (hcontent ▸ h.describes)

theorem Finalizable.describeWith_eq :
    (files.placeData plan.data).describeWith
        (completedMetadata resource totalLength plan.initializationLength plan.segments) =
      (files.placeData plan.data).describeWith plan.description := by
  rcases h.description with ⟨_, hdescription⟩ | ⟨object, hobject, _⟩
  · rw [hdescription]
  have hs : (files.placeData plan.data).metadata.isSome = true := by
    rw [show (files.placeData plan.data).metadata = some object from hobject]
    rfl
  unfold ResourceFiles.describeWith
  rw [if_pos hs, if_pos hs]

theorem Finalizable.completes :
    Completes (finalizeRangeResource storedKey resource totalLength) files ()
      (plan.finish files) := by
  obtain ⟨path, hplaced⟩ := h.placed
  apply Completes.bind h.completes_load
  apply Completes.bind (completes_checkRangeResource hplaced.located h.checked)
  apply Completes.bind (completes_moveData hplaced h.checked.bound)
  apply Completes.bind (completes_describeData _ h.cachedLength_placed)
  rw [h.describeWith_eq]
  apply Completes.bind (completes_removeManagedCacheFileIfExists .rangeManifest _)
  exact completes_osCall _ _

theorem Finalizable.finished :
    Finalized storedKey resource totalLength plan (plan.finish files) := by
  have hplaced : ((files.placeData plan.data).describeWith plan.description).final =
      some plan.data ∧
      ((files.placeData plan.data).describeWith plan.description).rangeData = none := by
    unfold ResourceFiles.describeWith
    split
    · exact ⟨rfl, rfl⟩
    · exact ⟨rfl, rfl⟩
  have hdescription : ∃ object, ((files.placeData plan.data).describeWith
      plan.description).metadata = some object ∧ object.content = plan.description := by
    unfold ResourceFiles.describeWith
    rcases h.description with ⟨hn, _⟩ | ⟨object, hobject, hcontent⟩
    · rw [if_neg (by simp [ResourceFiles.placeData, hn])]
      exact ⟨_, rfl, rfl⟩
    · rw [if_pos (by simp [ResourceFiles.placeData, hobject])]
      exact ⟨object, hobject, hcontent⟩
  exact ⟨hplaced.1, hplaced.2, rfl, hdescription, h.describes⟩

end

theorem Finalized.completes_load (h : Finalized storedKey resource totalLength plan files) :
    Completes (loadRangeManifest resource) files none files :=
  completes_loadRangeManifest_none h.noCheckpoint h.noData

variable (h : Finalized storedKey resource totalLength plan files)
include h

omit [UrlParser] in
theorem Finalized.cachedLength :
    cachedLength storedKey resource files = some totalLength := by
  obtain ⟨object, hobject, hcontent⟩ := h.description
  exact cachedLength_eq hobject h.final (hcontent ▸ h.describes)

theorem Finalized.ends :
    Ends (finalizeRangeResource storedKey resource totalLength) files
      ⟨fun _ _ => True, fun _ _ => True, fun t => t = files⟩ := by
  refine Ends.bind_inspects (reads_loadRangeManifest resource files) ?_ (fun _ _ => trivial) rfl
  intro found hfound
  have hn : files.loaded = none := by simp [ResourceFiles.loaded, h.noCheckpoint]
  rw [hfound.1, hn]
  refine Ends.bind_inspects finds_cachedResource ?_ (fun _ _ => trivial) rfl
  intro cached _
  exact Ends.mono finds_demand (fun _ _ _ => trivial) (fun _ _ _ => trivial) fun _ h => h

theorem Finalized.completes :
    Completes (finalizeRangeResource storedKey resource totalLength) files () files := by
  apply Completes.bind h.completes_load
  apply Completes.bind completes_cachedResource
  exact completes_demand h.cachedLength

end

section

variable {manifest : PersistedRangeManifest} {data : FileObject Bytes} {path : ManagedPath}

def DataAt (files : ResourceFiles) (manifest : PersistedRangeManifest) (path : ManagedPath) :
    Prop :=
  manifest.dataIdentity.isSome ∧ files.identityAt path = manifest.dataIdentity ∧
    (path = .rangeData ∨ path = .final ∧ files.identityAt .rangeData ≠ manifest.dataIdentity)

theorem DataAt.unique {path' : ManagedPath} (h : DataAt files manifest path)
    (h' : DataAt files manifest path') : path = path' := by
  obtain ⟨_, hident, hpath⟩ := h
  obtain ⟨_, hidentity', hpath'⟩ := h'
  rcases hpath with rfl | ⟨rfl, ho⟩
  · rcases hpath' with rfl | ⟨rfl, hother'⟩
    · rfl
    · exact absurd hident hother'
  · rcases hpath' with rfl | ⟨rfl, _⟩
    · exact absurd hidentity' ho
    · rfl

theorem DataAt.mediaAt (h : DataAt files manifest path) :
    ∃ data, files.mediaAt path = some data ∧ manifest.dataIdentity = some data.identity := by
  obtain ⟨hs, hident, hpath⟩ := h
  rw [← hident] at hs ⊢
  rcases hpath with rfl | ⟨rfl, _⟩
  · cases hdata : files.rangeData with
    | none => simp [ResourceFiles.identityAt, hdata] at hs
    | some data => exact ⟨data, hdata, by simp [ResourceFiles.identityAt, hdata]⟩
  · cases hdata : files.final with
    | none => simp [ResourceFiles.identityAt, hdata] at hs
    | some data => exact ⟨data, hdata, by simp [ResourceFiles.identityAt, hdata]⟩

theorem PlacedAt.dataAt (h : PlacedAt files data path)
    (hbound : manifest.dataIdentity = some data.identity) : DataAt files manifest path := by
  refine ⟨by simp [hbound], h.located.identityAt.trans hbound.symm, ?_⟩
  rcases h with ⟨rfl, _, _⟩ | ⟨rfl, hn, _⟩
  · exact .inl rfl
  · exact .inr ⟨rfl, by simp [ResourceFiles.identityAt, hn, hbound]⟩

/-- The partial file, when there is one, is the data of the manifest, and no object has two
names. -/
structure SingleData (files : ResourceFiles) (manifest : PersistedRangeManifest) : Prop where
  bound : ∀ data, files.rangeData = some data → manifest.dataIdentity = some data.identity
  distinct : ∀ data final, files.rangeData = some data → files.final = some final →
    data.identity ≠ final.identity

theorem PlacedAt.singleData (h : PlacedAt files data path)
    (hbound : manifest.dataIdentity = some data.identity) : SingleData files manifest := by
  rcases h with ⟨_, hdata, hfinal⟩ | ⟨_, hn, _⟩
  · constructor
    · intro found hfound
      rw [hdata] at hfound
      cases hfound
      exact hbound
    · intro _ final _ hs
      rw [hfinal] at hs
      cases hs
  · constructor
    · intro found hfound
      rw [hn] at hfound
      cases hfound
    · intro found _ hfound
      rw [hn] at hfound
      cases hfound

theorem SingleData.placedAt (h : SingleData files manifest) (hpath : DataAt files manifest path)
    (hmedia : files.mediaAt path = some data)
    (hfinal : ∀ object, files.final = some object → manifest.dataIdentity = some object.identity) :
    PlacedAt files data path := by
  obtain ⟨_, hident, hpath⟩ := hpath
  rcases hpath with rfl | ⟨rfl, ho⟩
  · refine .inl ⟨rfl, hmedia, ?_⟩
    cases hobject : files.final with
    | none => rfl
    | some object =>
      have hs := (h.bound data hmedia).symm.trans (hfinal object hobject)
      exact absurd (some.inj hs) (h.distinct data object hmedia hobject)
  · refine .inr ⟨rfl, ?_, hmedia⟩
    cases hobject : files.rangeData with
    | none => rfl
    | some object =>
      exact absurd (by simp [ResourceFiles.identityAt, hobject, h.bound object hobject]) ho

theorem finds_readMedia {Value : Type} {read : Bytes → Except HlsRangeError Value}
    (hmedia : files.mediaAt path = some data) :
    Inspects (readMedia path read) files (fun value => read data.content = .ok value)
      fun _ => True := by
  refine inspects_inspect (fun value h => ?_) (fun _ _ => trivial) trivial
  simpa only [hmedia] using h

theorem finds_verifyExtentDigest (hmedia : files.mediaAt path = some data)
    (extent : PersistedRangeExtent) :
    Inspects (verifyExtentDigest path extent) files (fun _ => extent.stop ≤ data.content.length ∧
      sha256Hex (slice data.content extent.start extent.stop) = extent.sha256) NotSync := by
  apply Inspects.bind (reads_readExact path _ files)
  intro bytes hbytes
  obtain ⟨object, hobject, hstop, rfl⟩ := hbytes
  obtain rfl : data = object := by simpa [hmedia] using hobject
  have hdemand := @inspects_demand ResourceFiles HlsRangeError files
    (identityErrorAt "extent-verify-hash") NotSync
    (sha256Hex (slice data.content extent.start extent.stop) = extent.sha256) _
    (notSync_identity _)
  exact hdemand.mono (fun _ h => ⟨hstop, h⟩) fun _ h => h

theorem finds_verifyRangeExtentsSync (manifest : PersistedRangeManifest) (files : ResourceFiles) :
    Inspects (verifyRangeExtentsSync manifest) files (fun _ => ∃ path data,
      DataAt files manifest path ∧ files.mediaAt path = some data ∧
        ∀ extent ∈ manifest.extents, extent.stop ≤ data.content.length ∧
          sha256Hex (slice data.content extent.start extent.stop) = extent.sha256) NotSync := by
  apply Inspects.bind (reads_dataPathForManifest manifest files)
  intro path hpath
  obtain ⟨data, hmedia, _⟩ := DataAt.mediaAt hpath
  apply Inspects.bind (reads_osCall (by decide) files)
  intro _ _
  apply Inspects.bind (reads_openRangeFile path files)
  intro identity _
  apply Inspects.bind (inspects_demand (notSync_identity _))
  intro _ _
  apply Inspects.bind (inspects_forEach fun extent _ => finds_verifyExtentDigest hmedia extent)
  intro _ hdigests
  apply Inspects.bind (reads_rangeDataObjectIsStillBound identity files)
  intro _ _
  exact (inspects_demand (by simp [NotSync])).mono (fun _ _ => ⟨path, data, hpath, hmedia, hdigests⟩)
    fun _ h => h

theorem finds_checkRangeResource (manifest : PersistedRangeManifest) (totalLength : Nat)
    (files : ResourceFiles) :
    Inspects (checkRangeResource manifest totalLength) files (fun found => ∃ data,
      DataAt files manifest found.1 ∧ files.mediaAt found.1 = some data ∧
        Checked manifest totalLength data found.2.1 found.2.2) fun _ => True := by
  apply Inspects.bind (inspects_demand trivial)
  intro _ hcovers
  apply Inspects.bind ((finds_verifyRangeExtentsSync manifest files).mono (fun _ h => h)
    fun _ _ => trivial)
  intro _ hverified
  obtain ⟨path, data, hpath, hmedia, hdigests⟩ := hverified
  apply Inspects.bind ((reads_dataPathForManifest manifest files).mono (fun _ h => h)
    fun _ _ => trivial)
  intro path' hpath'
  have hs : path' = path := DataAt.unique hpath' hpath
  subst hs
  apply Inspects.bind ((reads_mediaLength path' files).mono (fun _ h => h) fun _ _ => trivial)
  intro length hlen
  obtain ⟨object, hobject, rfl⟩ := hlen
  obtain rfl : data = object := by simpa [hmedia] using hobject
  apply Inspects.bind (inspects_demand trivial)
  intro _ hdataLength
  apply Inspects.bind (finds_readMedia hmedia)
  intro initializationLength hscan
  have hscanned : mp4InitializationLength (data.content.take hlsInitializationScanBytes) =
      some initializationLength := by
    split at hscan
    · next found hfound =>
        cases hscan
        exact hfound
    · cases hscan
  apply Inspects.bind (inspects_demand trivial)
  intro _ hin
  apply Inspects.bind (finds_readMedia hmedia)
  intro segments hparse
  have hparsed : ∃ ranges, mp4FragmentRanges data.content initializationLength totalLength =
      .ok ranges ∧ segments = hlsSegmentsFromMp4Ranges ranges := by
    split at hparse
    · next ranges hranges =>
        cases hparse
        exact ⟨ranges, hranges, rfl⟩
    · cases hparse
  obtain ⟨found, hfound, hbound⟩ := hpath.mediaAt
  obtain rfl : data = found := by simpa [hmedia] using hfound
  exact inspects_pure ⟨data, hpath, hmedia, hbound, hcovers, hdigests, hdataLength, hscanned,
    hin.1, hin.2, hparsed⟩

/-- The data is in one place before and after the rename. -/
theorem ends_moveData (hpath : DataAt files manifest path) (hmedia : files.mediaAt path = some data)
    (hsingle : SingleData files manifest) :
    Ends (moveData path manifest.dataIdentity) files
      ⟨fun _ t => PlacedAt files data path ∧ t = files.placeData data, fun _ _ => True,
        fun t => t = files ∨ t = files.placeData data⟩ := by
  refine Ends.bind_inspects (reads_safeFileIdentity .final files) ?_ (fun _ _ => trivial) (.inl rfl)
  intro found hfound
  subst hfound
  split
  · next hs =>
      refine Ends.mono finds_demand ?_ (fun _ _ _ => trivial) (fun _ h => .inl h)
      intro _ t h
      obtain ⟨rfl, hexpd⟩ := h
      have hplaced : PlacedAt t data path := by
        apply hsingle.placedAt hpath hmedia
        intro object hobject
        rw [← hexpd]
        simp [ResourceFiles.identityAt, hobject]
      refine ⟨hplaced, ?_⟩
      rcases hplaced with ⟨_, _, hfinal⟩ | ⟨_, hn, hfinal⟩
      · simp [ResourceFiles.identityAt, hfinal] at hs
      · unfold ResourceFiles.placeData
        rw [← hn, ← hfinal]
  · next hn =>
      refine Ends.bind_inspects finds_demand ?_ (fun _ _ => trivial) (.inl rfl)
      intro _ ho
      refine Ends.bind_inspects (reads_osCall (by decide) files) ?_ (fun _ _ => trivial) (.inl rfl)
      intro _ _
      have hplaced : PlacedAt files data path := by
        apply hsingle.placedAt hpath hmedia
        intro object hobject
        simp [ResourceFiles.identityAt, hobject] at hn
      have hrename : files.renameMedia path .final = files.placeData data := by
        rcases hplaced with ⟨rfl, hdata, _⟩ | ⟨rfl, _, _⟩
        · simp [ResourceFiles.renameMedia, ResourceFiles.placeData, ResourceFiles.mediaAt,
            setMedia, hdata]
        · exact absurd rfl ho
      have hmove : Ends (renameMedia path .final) files
          ⟨fun _ t => t = files.placeData data, fun _ _ => True,
            fun t => t = files ∨ t = files.placeData data⟩ :=
        ends_atomic hrename trivial (.inl rfl) (.inr hrename)
      refine Ends.bind hmove ?_ (fun _ _ h => h) (fun _ h => h)
      intro _ t ht
      refine Ends.mono (ends_syncDirectory t) ?_ (fun _ _ _ => trivial) (fun _ h => .inr (h.trans ht))
      intro _ t' ht'
      exact ⟨hplaced, ht'.trans ht⟩

theorem ends_describeData (metadata : PersistedHlsCachedResource) (files : ResourceFiles) :
    Ends (describeData storedKey resource totalLength metadata) files
      ⟨fun _ t => t = files.describeWith metadata ∧
          (files.metadata.isSome → cachedLength storedKey resource files = some totalLength),
        fun _ _ => True, fun t => t = files ∨ t = files.describeWith metadata⟩ := by
  unfold describeData ResourceFiles.describeWith
  refine Ends.bind_inspects (reads_safeFileIdentity .metadata files) ?_ (fun _ _ => trivial)
    (.inl rfl)
  intro found hfound
  subst hfound
  have hident : (files.identityAt .metadata).isSome = files.metadata.isSome := by
    simp [ResourceFiles.identityAt]
  simp only [hident]
  split
  · next hs =>
      refine Ends.bind_inspects finds_cachedResource ?_ (fun _ _ => trivial) (.inl rfl)
      intro cached hcached
      refine Ends.mono finds_demand ?_ (fun _ _ _ => trivial) (fun _ h => .inl h)
      intro _ t h
      exact ⟨h.1, fun _ => hcached totalLength h.2⟩
  · next hn =>
      refine Ends.bind (ends_writeJsonAtomically _ files) ?_ (fun _ _ _ => trivial) (fun _ h => h)
      intro _ t ht
      refine Ends.mono (ends_syncDirectory t) ?_ (fun _ _ _ => trivial) (fun _ h => .inr (h.trans ht))
      intro _ t' ht'
      exact ⟨ht'.trans ht, fun hs => absurd hs hn⟩

theorem ends_removeManagedCacheFileIfExists (path : ManagedPath) (files : ResourceFiles) :
    Ends (removeManagedCacheFileIfExists path) files
      ⟨fun _ t => t = files.remove path, fun _ t => t = files,
        fun t => t = files ∨ t = files.remove path⟩ := by
  refine Ends.bind_inspects (reads_osCall (by decide) files) ?_ (fun _ _ => rfl) (.inl rfl)
  intro _ _
  refine Ends.bind_inspects (reads_safeFileIdentity path files) ?_ (fun _ _ => rfl) (.inl rfl)
  intro found hfound
  subst hfound
  cases hident : files.identityAt path with
  | none => exact ends_pure (remove_of_absent hident).symm
  | some identity => exact ends_atomic rfl rfl (.inl rfl) (.inr rfl)

end

section

variable [UrlParser] {plan : FinalizePlan} {checkpoint : FileObject PersistedRangeManifest}

theorem finds_loadRangeManifest_bounded (hckpt : files.rangeManifest = some checkpoint) :
    Inspects (loadRangeManifest resource) files
      (fun _ => (manifestBytes checkpoint.content).length ≤ rangeMaxManifestBytes)
      fun _ => True := by
  have hident : files.identityAt .rangeManifest = some checkpoint.identity := by
    simp [ResourceFiles.identityAt, hckpt]
  apply Inspects.bind ((reads_safeFileIdentity .rangeManifest files).mono (fun _ h => h)
    fun _ _ => trivial)
  intro found hfound
  rw [hident] at hfound
  subst hfound
  apply Inspects.bind ((reads_openRangeFile .rangeManifest files).mono (fun _ h => h)
    fun _ _ => trivial)
  intro opened _
  apply Inspects.bind finds_demand
  intro _ _
  have hlen : Inspects manifestLength files
      (fun length => length = (manifestBytes checkpoint.content).length)
      fun _ => True := by
    refine inspects_inspect (fun length h => ?_) (fun _ _ => trivial) trivial
    simpa [hckpt, eq_comm] using h
  apply Inspects.bind hlen
  intro length hlen
  subst hlen
  apply Inspects.bind finds_demand
  intro _ hbdd
  apply Inspects.bind ((reads_readManifest hckpt).mono (fun _ h => h) fun _ _ => trivial)
  intro manifest _
  apply Inspects.bind ((reads_objectIdentity .rangeManifest files).mono (fun _ h => h)
    fun _ _ => trivial)
  intro _ _
  apply Inspects.bind finds_demand
  intro _ _
  apply Inspects.bind (inspects_ofExcept fun _ _ => trivial)
  intro _ _
  apply Inspects.bind ((reads_dataPathForManifest manifest files).mono (fun _ h => h)
    fun _ _ => trivial)
  intro path _
  apply Inspects.bind ((reads_safeFileIdentity path files).mono (fun _ h => h) fun _ _ => trivial)
  intro _ _
  apply Inspects.bind finds_demand
  intro _ _
  apply Inspects.bind finds_demand
  intro _ _
  exact inspects_pure hbdd

theorem finds_loadRangeManifest (hckpt : files.rangeManifest = some checkpoint) :
    Inspects (loadRangeManifest resource) files
      (fun found => (found = files.loaded ∧
        ∀ loaded, found = some loaded → validateRangeManifest loaded.manifest resource = .ok ()) ∧
        (manifestBytes checkpoint.content).length ≤ rangeMaxManifestBytes)
      fun _ => True := by
  have hr := (reads_loadRangeManifest resource files).mono (fun _ h => h)
    (fun _ _ => trivial : ∀ error, NotSync error → True)
  exact hr.and (finds_loadRangeManifest_bounded hckpt)

theorem ends_finalizeRangeResource (hk : storedKey = some resource.cacheKey)
    (hckpt : files.rangeManifest = some checkpoint)
    (hsingle : SingleData files checkpoint.content) :
    Ends (finalizeRangeResource storedKey resource totalLength) files
      ⟨fun _ _ => ∃ plan, Finalizable storedKey resource totalLength plan files,
        fun _ _ => True, fun _ => True⟩ := by
  refine Ends.bind_inspects (finds_loadRangeManifest hckpt) ?_ (fun _ _ => trivial) trivial
  intro found hfound
  obtain ⟨⟨rfl, hv⟩, hbdd⟩ := hfound
  have hloaded : files.loaded = some ⟨checkpoint.content,
      sha256Hex (manifestBytes checkpoint.content), checkpoint.identity⟩ := by
    simp [ResourceFiles.loaded, hckpt]
  have hv := hv _ hloaded
  simp only [hloaded]
  refine Ends.bind_inspects (finds_checkRangeResource _ totalLength files) ?_ (fun _ _ => trivial)
    trivial
  intro found hfound
  obtain ⟨data, hpath, hmedia, hchecked⟩ := hfound
  refine Ends.bind (ends_moveData hpath hmedia hsingle) ?_ (fun _ _ h => h) (fun _ _ => trivial)
  intro _ moved hmoved
  obtain ⟨hplaced, rfl⟩ := hmoved
  refine Ends.bind (ends_describeData _ _) ?_ (fun _ _ h => h) (fun _ _ => trivial)
  intro _ described hdescribed
  have hfinalizable : ∃ plan, Finalizable storedKey resource totalLength plan files := by
    cases hmeta : files.metadata with
    | none =>
      refine ⟨⟨checkpoint, data, found.2.1, found.2.2,
        completedMetadata resource totalLength found.2.1 found.2.2⟩, hckpt, hbdd,
        hv, ⟨found.1, hplaced⟩, hchecked, .inl ⟨hmeta, rfl⟩, ?_⟩
      exact ⟨rfl, rfl, hk, rfl, hchecked.initialization, hchecked.inside, hchecked.dataLength⟩
    | some object =>
      have hs : (files.placeData data).metadata.isSome = true := by
        simp [ResourceFiles.placeData, hmeta]
      obtain ⟨object', final, hobject', hfinal, hdescribes⟩ :=
        cachedLength_some (hdescribed.2 hs)
      have hmetadata' : (files.placeData data).metadata = some object := hmeta
      have hfinal' : (files.placeData data).final = some data := rfl
      obtain rfl : object = object' := some.inj (hmetadata'.symm.trans hobject')
      obtain rfl : data = final := some.inj (hfinal'.symm.trans hfinal)
      exact ⟨⟨checkpoint, data, found.2.1, found.2.2, object.content⟩, hckpt, hbdd,
        hv, ⟨found.1, hplaced⟩, hchecked, .inr ⟨object, hmeta, rfl⟩, hdescribes⟩
  exact ends_of_always (fun _ _ => hfinalizable) (fun _ _ => trivial) fun _ => trivial

variable (h : Finalizable storedKey resource totalLength plan files)

include h

theorem Finalizable.placeData :
    Finalizable storedKey resource totalLength plan (files.placeData plan.data) where
  checkpoint := h.checkpoint
  bounded := h.bounded
  valid := h.valid
  placed := ⟨.final, .inr ⟨rfl, rfl, rfl⟩⟩
  checked := h.checked
  description := h.description
  describes := h.describes

theorem Finalizable.describeWith :
    Finalizable storedKey resource totalLength plan (files.describeWith plan.description) := by
  unfold ResourceFiles.describeWith
  split
  · exact h
  · exact ⟨h.checkpoint, h.bounded, h.valid, h.placed, h.checked, .inr ⟨_, rfl, rfl⟩, h.describes⟩

omit h

omit [UrlParser] in
theorem Checked.segments_unique {manifest : PersistedRangeManifest} {data : FileObject Bytes}
    {length length' : Nat} {segments segments' : List HlsMediaSegment}
    (h : Checked manifest totalLength data length segments)
    (h' : Checked manifest totalLength data length' segments') :
    length = length' ∧ segments = segments' := by
  have hlen := some.inj (h.scanned.symm.trans h'.scanned)
  subst hlen
  obtain ⟨ranges, hranges, rfl⟩ := h.parsed
  obtain ⟨ranges', hranges', rfl⟩ := h'.parsed
  rw [hranges] at hranges'
  cases hranges'
  exact ⟨rfl, rfl⟩

include h in
/-- Wherever a finalization stops, another one can go on. -/
theorem Finalizable.ends :
    Ends (finalizeRangeResource storedKey resource totalLength) files
      ⟨fun _ _ => True, fun _ _ => True,
        fun t => Finalizable storedKey resource totalLength plan t ∨
          Finalized storedKey resource totalLength plan t⟩ := by
  obtain ⟨path, hplaced⟩ := h.placed
  have hmoved := h.placeData
  have hdescribed := hmoved.describeWith
  refine Ends.bind_inspects (finds_loadRangeManifest h.checkpoint) ?_ (fun _ _ => trivial) (.inl h)
  intro found hfound
  obtain ⟨⟨rfl, _⟩, _⟩ := hfound
  have hloaded : files.loaded = some plan.loaded := by
    simp [ResourceFiles.loaded, FinalizePlan.loaded, loadedCheckpoint, h.checkpoint]
  simp only [hloaded]
  refine Ends.bind_inspects (finds_checkRangeResource _ totalLength files) ?_ (fun _ _ => trivial)
    (.inl h)
  intro found hfound
  obtain ⟨path', length, segments⟩ := found
  obtain ⟨data, hpath, hmedia, hchecked⟩ := hfound
  have hpathEq : path = path' := (hplaced.dataAt h.checked.bound).unique hpath
  subst hpathEq
  obtain rfl : data = plan.data := some.inj (hmedia.symm.trans hplaced.located.mediaAt)
  obtain ⟨rfl, rfl⟩ : length = plan.initializationLength ∧ segments = plan.segments :=
    hchecked.segments_unique h.checked
  refine Ends.bind (ends_moveData hpath hmedia (hplaced.singleData h.checked.bound)) ?_
    (fun _ _ _ => trivial) ?_
  · intro _ moved hmove
    obtain ⟨_, rfl⟩ := hmove
    refine Ends.bind (ends_describeData _ _) ?_ (fun _ _ _ => trivial) ?_
    · intro _ described hdescribe
      obtain ⟨rfl, _⟩ := hdescribe
      rw [h.describeWith_eq]
      refine Ends.bind (ends_removeManagedCacheFileIfExists .rangeManifest _) ?_ (fun _ _ _ => trivial) ?_
      · intro _ t ht
        refine (ends_syncDirectory t).mono (fun _ _ _ => trivial) (fun _ _ _ => trivial) ?_
        intro t' ht'
        rw [ht', ht]
        exact .inr h.finished
      · intro t ht
        rcases ht with rfl | rfl
        · exact .inl hdescribed
        · exact .inr h.finished
    · intro t ht
      rcases ht with rfl | rfl
      · exact .inl hmoved
      · rw [h.describeWith_eq]
        exact .inl hdescribed
  · intro t ht
    rcases ht with rfl | rfl
    · exact .inl h
    · exact .inl hmoved

end

variable {chunk : ByteRange}

variable {total chunkSize fuel start lower : Nat}

theorem chunksFrom_stop_le
    (h : chunk ∈ chunksFrom total chunkSize fuel start) : chunk.stop ≤ total := by
  induction fuel generalizing start with
  | zero => simp [chunksFrom] at h
  | succ fuel ih =>
    unfold chunksFrom at h
    split at h
    · rcases mem_cons.mp h with rfl | hr
      · exact Nat.min_le_right _ _
      · exact ih hr
    · simp at h

theorem plannedRangeChunks_stop_le (h : chunk ∈ plannedRangeChunks total) : chunk.stop ≤ total := by
  unfold plannedRangeChunks at h
  split at h
  · simp at h
  dsimp only at h
  split at h
  · rw [mem_singleton] at h
    subst h
    exact Nat.min_le_left _ _
  · rcases mem_cons.mp h with rfl | hr
    · exact Nat.min_le_left _ _
    · exact chunksFrom_stop_le hr

theorem missingRangesWithin_eq_nil {extents : List PersistedRangeExtent}
    (hord : Ordered lower extents) (hcov : rangeIsCovered extents ⟨0, total⟩ = true)
    (hstop : chunk.stop ≤ total) : missingRangesWithin extents chunk = [] := by
  rw [eq_nil_iff_forall_not_mem]
  intro gap hgap
  have hne := ((missingRangesWithin_ordered hord chunk).mem hgap).2
  have hin : gap.start ∈ covered (missingRangesWithin extents chunk) :=
    mem_covered.mpr ⟨gap, hgap, le_rfl, hne⟩
  rw [covered_missingRangesWithin hord, Finset.mem_sdiff, mem_offsets] at hin
  apply hin.2
  apply rangeIsCovered_sound hcov
  rw [mem_offsets]
  exact ⟨Nat.zero_le _, lt_of_lt_of_le hin.1.2 hstop⟩

section

variable [UrlParser] {plan : FinalizePlan} (remote : RemoteFill)

section

variable (h : Finalizable storedKey resource totalLength plan files)
include h

theorem Finalizable.completes_fillGaps :
    Completes (fillGaps remote resource plan.loaded totalLength) files (.complete totalLength)
      files := by
  have hcov := h.checked.covers.2.2
  have hgaps : (plannedRangeChunks totalLength).flatMap
      (missingRangesWithin plan.loaded.manifest.extents) = [] := by
    rw [flatMap_eq_nil_iff]
    intro chunk hchunk
    exact missingRangesWithin_eq_nil (ordered_of_valid h.valid) hcov
      (plannedRangeChunks_stop_le hchunk)
  unfold fillGaps
  rw [hgaps]
  apply Completes.bind (completes_pure () files)
  have hl : Completes (loadExisting resource) files plan.loaded files := by
    exact Completes.bind h.completes_load completes_orRaise
  apply Completes.bind hl
  rw [if_pos (show rangeIsCovered plan.loaded.manifest.extents ⟨0, totalLength⟩ = true
    from hcov)]
  exact completes_pure _ _

theorem Finalizable.completes_fillMissingRanges
    (hresumable : rangeSizeIsResumable totalLength = true) :
    Completes (fillMissingRanges remote resource) files (.complete totalLength) files := by
  obtain ⟨path, hplaced⟩ := h.placed
  obtain ⟨htot, _, hcov⟩ := h.checked.covers
  have hexts : plan.loaded.manifest.extents ≠ [] := by
    intro hnil
    unfold rangeIsCovered at hcov
    rw [show plan.checkpoint.content.extents = [] from hnil] at hcov
    split at hcov
    · cases hcov
    · simp [coveredFrom] at hcov
  have hpos : totalLength ≠ 0 := by
    simp only [rangeSizeIsResumable, Bool.and_eq_true, decide_eq_true_eq] at hresumable
    omega
  have hensure : Completes (ensureRangeManifest resource) files plan.loaded files := by
    apply Completes.bind h.completes_load
    exact completes_pure _ _
  apply Completes.bind hensure
  apply Completes.bind (completes_verifyRangeExtentsSync hplaced.located h.checked.bound h.checked.digests)
  rw [show plan.loaded.manifest.totalLength = some totalLength from htot]
  apply Completes.bind (completes_demand hpos)
  rw [if_neg (by simp [hresumable]), if_pos (show plan.loaded.manifest.totalLength =
    some totalLength from htot)]
  apply Completes.bind (completes_pure plan.loaded files)
  dsimp only
  rw [if_neg hexts]
  exact h.completes_fillGaps remote

theorem Finalizable.cachedLength_eq
    {found : Nat} (hfound : cachedLength storedKey resource files = some found) :
    found = totalLength := by
  obtain ⟨object, data, hmeta, _, hdescribes⟩ := cachedLength_some hfound
  rcases h.description with ⟨hn, _⟩ | ⟨object', hobject', hcontent⟩
  · rw [hn] at hmeta
    cases hmeta
  · obtain rfl : object = object' := some.inj (hmeta.symm.trans hobject')
    rw [← hdescribes.describedLength, hcontent]
    exact h.describes.describedLength

theorem Finalizable.completes_cacheResource
    (hresumable : rangeSizeIsResumable totalLength = true) :
    Completes (cacheResource remote storedKey resource) files totalLength (plan.finish files) := by
  apply Completes.bind completes_cachedResource
  cases hcached : cachedLength storedKey resource files with
  | some found =>
    have hfound := h.cachedLength_eq hcached
    subst hfound
    apply Completes.bind h.completes_load
    apply Completes.bind h.completes
    exact completes_pure _ _
  | none =>
    apply Completes.bind (h.completes_fillMissingRanges remote hresumable)
    apply Completes.bind h.completes
    apply Completes.bind (completes_osCall _ _)
    exact completes_pure _ _

end

theorem Finalized.completes_cacheResource
    (h : Finalized storedKey resource totalLength plan files) :
    Completes (cacheResource remote storedKey resource) files totalLength files := by
  apply Completes.bind completes_cachedResource
  rw [h.cachedLength]
  apply Completes.bind h.completes_load
  exact completes_pure _ _

end

section

variable [UrlParser] {plan : FinalizePlan} {checkpoint : FileObject PersistedRangeManifest}
  {after : ResourceFiles}

def CutShort (storedKey : Option BilibiliMediaCacheKey) (resource : HlsMediaResource)
    (totalLength : Nat) (files : ResourceFiles) (verdicts : List Verdict) (t : ResourceFiles) :
    Prop :=
  ∃ rest, finalizeRangeResource storedKey resource totalLength files verdicts = (.crashed, t, rest)

structure CompletedAs (storedKey : Option BilibiliMediaCacheKey) (resource : HlsMediaResource)
    (totalLength : Nat) (files expected : ResourceFiles) : Prop where
  cached : cachedLength storedKey resource files = some totalLength
  data : ∃ object, files.final = some object ∧ expected.final = some object ∧
    object.content.length = totalLength
  metadata : files.metadata.map FileObject.content = expected.metadata.map FileObject.content
  settled : files.rangeData = none ∧ files.rangeManifest = none

omit [UrlParser] in
theorem Finalized.completedAs {expected : ResourceFiles}
    (h : Finalized storedKey resource totalLength plan files)
    (hexpd : Finalized storedKey resource totalLength plan expected) :
    CompletedAs storedKey resource totalLength files expected := by
  obtain ⟨object, hobject, hcontent⟩ := h.description
  obtain ⟨object', hobject', hcontent'⟩ := hexpd.description
  refine ⟨h.cachedLength, ⟨plan.data, h.final, hexpd.final, h.describes.dataLength⟩, ?_,
    h.noData, h.noCheckpoint⟩
  rw [hobject, hobject', map_some, map_some, hcontent, hcontent']

theorem CutShort.recoverable {verdicts : List Verdict} {t : ResourceFiles}
    (hst : CutShort storedKey resource totalLength files verdicts t)
    (h : Finalizable storedKey resource totalLength plan files ∨
      Finalized storedKey resource totalLength plan files) :
    Finalizable storedKey resource totalLength plan t ∨
      Finalized storedKey resource totalLength plan t := by
  obtain ⟨rest, hrun⟩ := hst
  rcases h with h | h
  · have hends := h.ends verdicts
    rw [hrun] at hends
    exact hends
  · have hends := h.ends verdicts
    rw [hrun] at hends
    rw [show t = files from hends]
    exact .inr h

/-- However often the finalization of a covered manifest is cut short, the next call of it, and
the next call that caches the resource, completes it as an undisturbed run would have. -/
theorem finalization_recovers (remote : RemoteFill) {t : ResourceFiles}
    {attempts : List (List Verdict)} (hkey : storedKey = some resource.cacheKey)
    (hcheckpoint : files.rangeManifest = some checkpoint)
    (hsingle : SingleData files checkpoint.content)
    (hundisturbed : Completes (finalizeRangeResource storedKey resource totalLength) files () after)
    (hresumable : rangeSizeIsResumable totalLength = true)
    (hcrashes : Run (CutShort storedKey resource totalLength) files attempts t) :
    (∃ again, Completes (finalizeRangeResource storedKey resource totalLength) t () again ∧
      CompletedAs storedKey resource totalLength again after) ∧
    ∃ again, Completes (cacheResource remote storedKey resource) t totalLength again ∧
      CompletedAs storedKey resource totalLength again after := by
  obtain ⟨plan, hfinalizable⟩ :=
    (ends_finalizeRangeResource hkey hcheckpoint hsingle).of_completes hundisturbed
  have hafter : Finalized storedKey resource totalLength plan after := by
    rw [← hfinalizable.completes.state_eq hundisturbed]
    exact hfinalizable.finished
  have hend : Finalizable storedKey resource totalLength plan t ∨
      Finalized storedKey resource totalLength plan t :=
    hcrashes.invariant _ (fun hstep h => hstep.recoverable h) (.inl hfinalizable)
  rcases hend with h | h
  · exact ⟨⟨_, h.completes, h.finished.completedAs hafter⟩,
      _, h.completes_cacheResource remote hresumable, h.finished.completedAs hafter⟩
  · exact ⟨⟨t, h.completes, h.completedAs hafter⟩,
      t, h.completes_cacheResource remote, h.completedAs hafter⟩

end

/-! A covered file, cut short once it is renamed and again once it is described. -/

def coveredVideo : HlsMediaResource := { sampleVideo with size := some 232 }

def coveredDigest : String := "4fce44bbac4bc3db2054f02d8754f41cb5b9c70315e77ffd27ba526f4993413e"

def coveredManifest : PersistedRangeManifest :=
  { initialManifest coveredVideo ⟨1, 100⟩ with
    generation := 2
    strongEtag := some "\"e\""
    validatorOrigin := some "https://cdn.test:443"
    prefixLength := 232
    prefixSha256 := some coveredDigest
    durableBytes := 232
    validatedOrigins := [⟨"https://cdn.test:443", coveredDigest, some "\"e\""⟩]
    extents := [⟨0, 232, coveredDigest⟩] }

def coveredFiles : ResourceFiles :=
  { createdFiles with
    rangeData := some ⟨⟨1, 100⟩, fragmentedMp4⟩
    rangeManifest := some ⟨⟨1, 102⟩, coveredManifest⟩
    nextInode := 103 }

def renamedFiles : ResourceFiles :=
  { coveredFiles with rangeData := none, final := some ⟨⟨1, 100⟩, fragmentedMp4⟩ }

def describedFiles : ResourceFiles :=
  renamedFiles.installMetadata (completedMetadata coveredVideo 232 104
    [⟨104, 64, 1000⟩, ⟨168, 64, 2000⟩])

def settledFiles : ResourceFiles := { describedFiles with rangeManifest := none }

/-- The verdicts of a run whose call after `calls` others takes effect and is the last. -/
def crashAfter (calls : Nat) : List Verdict := List.replicate calls .proceed ++ [.crash 1]

def offlineRemote : RemoteFill where
  discoverRangeTotal := raise (.io (.os .read))
  ensureRangeSpan _ := raise (.io (.os .read))
  fillFullGetCompat := raise (.io (.os .read))

theorem coveredFiles_single : SingleData coveredFiles coveredManifest := by
  constructor
  · intro data hdata
    cases hdata
    rfl
  · intro _ final _ hfinal
    cases hfinal

theorem coveredFiles_completes :
    Completes (@finalizeRangeResource sampleUrls (some coveredVideo.cacheKey) coveredVideo 232)
      coveredFiles () settledFiles := by
  unfold Completes
  decide +kernel

set_option maxRecDepth 10000 in
theorem coveredFiles_cutShort :
    @CutShort sampleUrls (some coveredVideo.cacheKey) coveredVideo 232 coveredFiles
      (crashAfter 18) renamedFiles :=
  ⟨[], by decide +kernel⟩

set_option maxRecDepth 10000 in
theorem renamedFiles_cutShort :
    @CutShort sampleUrls (some coveredVideo.cacheKey) coveredVideo 232 renamedFiles
      (crashAfter 28) describedFiles :=
  ⟨[], by decide +kernel⟩

theorem finalization_recovers_twice :
    (∃ again, Completes (@finalizeRangeResource sampleUrls (some coveredVideo.cacheKey)
        coveredVideo 232) describedFiles () again ∧
      CompletedAs (some coveredVideo.cacheKey) coveredVideo 232 again settledFiles) ∧
    ∃ again, Completes (@cacheResource sampleUrls offlineRemote (some coveredVideo.cacheKey)
        coveredVideo) describedFiles 232 again ∧
      CompletedAs (some coveredVideo.cacheKey) coveredVideo 232 again settledFiles :=
  @finalization_recovers (some coveredVideo.cacheKey) coveredVideo 232 coveredFiles sampleUrls
    ⟨⟨1, 102⟩, coveredManifest⟩ settledFiles offlineRemote describedFiles
    [crashAfter 18, crashAfter 28] rfl rfl coveredFiles_single coveredFiles_completes (by decide)
    (Run.snoc (Run.single coveredFiles_cutShort) renamedFiles_cutShort)

end NetPlayer.RangeCache
