import NetPlayer.RangeCache.ManifestValidity
import NetPlayer.RangeCache.Succession

/-!
# The invariant of the range store

A manifest is sound for a data object when it validates and every digest it
carries is that of the bytes it stands for. The invariant links the three places
where a resource keeps its progress: the extents, the counter and the data file.
-/

namespace NetPlayer.RangeCache

open Spans Slices

structure CheckpointSound [UrlParser] (resource : HlsMediaResource)
    (manifest : PersistedRangeManifest) (data : Bytes) : Prop where
  valid : validateRangeManifest manifest resource = .ok ()
  digests : ∀ extent ∈ manifest.extents, extent.stop ≤ data.length ∧
    sha256Hex (slice data extent.start extent.stop) = extent.sha256
  prefixDigest : ∀ digest, manifest.prefixSha256 = some digest →
    sha256Hex (slice data 0 manifest.prefixLength) = digest
  totalLimit : ∀ total, manifest.totalLength = some total → total ≤ u64Max
  totalKnown : manifest.extents ≠ [] → manifest.totalLength.isSome

abbrev ResourceFiles.current (files : ResourceFiles) : Option PersistedRangeManifest :=
  files.rangeManifest.map FileObject.content

structure Holds (files : ResourceFiles) (manifest : PersistedRangeManifest)
    (data : FileObject Bytes) : Prop where
  manifestFile : files.current = some manifest
  dataFile : files.rangeData = some data
  identity : manifest.dataIdentity = some data.identity

def Stored [UrlParser] (resource : HlsMediaResource) (files : ResourceFiles) : Prop :=
  ∃ manifest data, Holds files manifest data ∧ CheckpointSound resource manifest data.content

def coveredSet (files : ResourceFiles) : Finset Nat :=
  match files.rangeManifest with
  | none => ∅
  | some object => covered object.content.extents

/-- The offsets of `kept` hold the same bytes before and after, and nothing was written to
them in between. -/
structure KeepsBytes (kept : Finset Nat) (files after : ResourceFiles) : Prop where
  bytes : ∃ data data', files.rangeData = some data ∧ after.rangeData = some data' ∧
    data'.identity = data.identity ∧
    ∀ offset ∈ kept, data'.content[offset]? = data.content[offset]?
  writes : ∃ writes, after.dataWrites = files.dataWrites ++ writes ∧
    ∀ write ∈ writes, Disjoint (offsets write) kept

def Replaces (publishes : PersistedRangeManifest → PersistedRangeManifest → Prop)
    (files after : ResourceFiles) : Prop :=
  after.current = files.current ∨
    ∃ old new, files.current = some old ∧ after.current = some new ∧ publishes old new

/-- The store has moved on from `files`, by at most one publication, and now covers `covers`. -/
structure Advances [UrlParser] (resource : HlsMediaResource)
    (publishes : PersistedRangeManifest → PersistedRangeManifest → Prop)
    (files after : ResourceFiles) (covers : Finset Nat) : Prop where
  stored : Stored resource after
  keeps : KeepsBytes (coveredSet files) files after
  covers_eq : coveredSet after = covers
  replaces : Replaces publishes files after

section

variable {files : ResourceFiles} {manifest : PersistedRangeManifest} {data : FileObject Bytes}
  {publishes : PersistedRangeManifest → PersistedRangeManifest → Prop}

theorem Holds.coveredSet_eq (h : Holds files manifest data) :
    coveredSet files = covered manifest.extents := by
  have hfile := h.manifestFile
  unfold coveredSet
  unfold ResourceFiles.current at hfile
  cases hob : files.rangeManifest with
  | none => simp [hob] at hfile
  | some object =>
    simp only [hob, Option.map_some, Option.some.injEq] at hfile
    simp [hfile]

theorem Holds.loaded_manifest (h : Holds files manifest data) {loaded : LoadedRangeManifest}
    (hl : files.loaded = some loaded) : loaded.manifest = manifest := by
  have hfile := h.manifestFile
  unfold ResourceFiles.current at hfile
  unfold ResourceFiles.loaded at hl
  cases hob : files.rangeManifest with
  | none => simp [hob] at hfile
  | some object =>
    simp only [hob, Option.map_some, Option.some.injEq] at hfile hl
    rw [← hl, ← hfile]

theorem Holds.mediaAt (h : Holds files manifest data) :
    files.mediaAt .rangeData = some data := h.dataFile

theorem Holds.identityAt (h : Holds files manifest data) :
    files.identityAt .rangeData = manifest.dataIdentity := by
  simp [ResourceFiles.identityAt, h.dataFile, h.identity]

variable {next : PersistedRangeManifest}

theorem Holds.install (h : Holds files manifest data)
    (hident : next.dataIdentity = manifest.dataIdentity) :
    Holds (files.installManifest next) next data :=
  ⟨rfl, h.dataFile, hident.trans h.identity⟩

theorem KeepsBytes.refl (h : Holds files manifest data) (kept : Finset Nat) :
    KeepsBytes kept files files :=
  ⟨⟨data, data, h.dataFile, h.dataFile, rfl, fun _ _ => rfl⟩, [], by simp, by simp⟩

theorem KeepsBytes.install {kept : Finset Nat} {before : ResourceFiles}
    (h : KeepsBytes kept before files) (next : PersistedRangeManifest) :
    KeepsBytes kept before (files.installManifest next) := ⟨h.bytes, h.writes⟩

variable [UrlParser] {resource : HlsMediaResource}

theorem Advances.refl (h : Holds files manifest data)
    (hs : CheckpointSound resource manifest data.content) :
    Advances resource publishes files files (coveredSet files) :=
  ⟨⟨manifest, data, h, hs⟩, KeepsBytes.refl h _, rfl, .inl rfl⟩

theorem Advances.install (h : Holds files manifest data)
    (hident : next.dataIdentity = manifest.dataIdentity)
    (hs : CheckpointSound resource next data.content) (hpubs : publishes manifest next) :
    Advances resource publishes files (files.installManifest next) (covered next.extents) :=
  ⟨⟨next, data, h.install hident, hs⟩, (KeepsBytes.refl h _).install next,
    (h.install hident).coveredSet_eq, .inr ⟨manifest, next, h.manifestFile, rfl, hpubs⟩⟩

variable (h : CheckpointSound resource manifest data.content)
include h

theorem CheckpointSound.ordered :
    Ordered 0 manifest.extents := ordered_of_valid h.valid

theorem CheckpointSound.durableBytes :
    manifest.durableBytes = (covered manifest.extents).card := by
  rw [durableBytes_of_valid h.valid]
  cases htot : manifest.totalLength with
  | none =>
    have hexts : manifest.extents = [] := by
      by_contra hne
      simpa [htot] using h.totalKnown hne
    simp [hexts, durableExtentBytes]
  | some total =>
    exact durableExtentBytes_eq h.ordered
      (fun extent hm => stop_le_total_of_valid h.valid hm htot) (h.totalLimit total htot)

theorem CheckpointSound.originCount :
    manifest.validatedOrigins.length ≤ 64 := by
  have hv := h.valid
  unfold validateRangeManifest at hv
  split at hv
  · cases hv
  · rename_i hheader
    simp only [not_or, Nat.not_lt] at hheader
    exact hheader.2.2.2.2.2.1

theorem CheckpointSound.prefix_covered
    {offset : Nat} (hoff : offset < manifest.prefixLength) :
    offset ∈ covered manifest.extents := by
  have hv := (validateRangeManifest_eq_ok.mp h.valid).1.prefixValid
  unfold prefixIsValid at hv
  simp only [Bool.and_eq_true, Bool.or_eq_true, decide_eq_true_eq] at hv
  have hcov : rangeIsCovered manifest.extents ⟨0, manifest.prefixLength⟩ = true := by
    rcases hv.2 with h0 | h0
    · omega
    · exact h0.1
  exact rangeIsCovered_sound hcov (mem_offsets.mpr ⟨Nat.zero_le _, hoff⟩)

theorem CheckpointSound.covered_lt
    {offset : Nat} (hoff : offset ∈ covered manifest.extents) :
    offset < data.content.length := by
  obtain ⟨extent, hm, _, hstop⟩ := mem_covered.mp hoff
  have := (h.digests extent hm).1
  simp only [span_stop_extent] at hstop
  omega

theorem CheckpointSound.of_sameExtents
    (hv : validateRangeManifest next resource = .ok ())
    (hexts : next.extents = manifest.extents)
    (hlen : next.prefixLength = manifest.prefixLength)
    (hpref : next.prefixSha256 = manifest.prefixSha256)
    (htot : ∀ total, next.totalLength = some total → total ≤ u64Max)
    (hk : manifest.totalLength.isSome → next.totalLength.isSome) :
    CheckpointSound resource next data.content where
  valid := hv
  digests := by rw [hexts]; exact h.digests
  prefixDigest := by rw [hpref, hlen]; exact h.prefixDigest
  totalLimit := htot
  totalKnown := fun hne => hk (h.totalKnown (hexts ▸ hne))

end

end NetPlayer.RangeCache
