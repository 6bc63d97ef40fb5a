import NetPlayer.RangeCache.StoreInvariant

/-!
# Verified reads of the store

What a store operation knows once its reads have succeeded: extents that were
verified agree with the incoming bytes, and the digest of a merged range is that
of the bytes the data object will hold there.
-/

namespace NetPlayer.RangeCache

open Faulty Spans Slices

variable {files : ResourceFiles} {path : ManagedPath} {data : FileObject Bytes}

theorem reads_loadExisting [UrlParser] (resource : HlsMediaResource) (files : ResourceFiles) :
    Reads (loadExisting resource) files fun loaded =>
      files.loaded = some loaded ∧ validateRangeManifest loaded.manifest resource = .ok () := by
  refine Inspects.bind (reads_loadRangeManifest resource files) ?_
  rintro _ ⟨rfl, hv⟩
  exact (inspects_orRaise (by simp [NotSync])).mono (fun loaded h => ⟨h, hv loaded h⟩)
    fun _ h => h

def AgreesOn (data : Bytes) (extent : PersistedRangeExtent) (range : ByteRange)
    (bytes : Bytes) : Prop :=
  ∀ offset, extent.start ≤ offset → offset < extent.stop → range.start ≤ offset →
    offset < range.stop → data[offset]? = bytes[offset - range.start]?

theorem agreesOn_of_overlapAgrees {data : Bytes} {extent : PersistedRangeExtent}
    {range : ByteRange} {bytes : Bytes}
    (h : overlapAgrees extent (slice data extent.start extent.stop) range bytes = true) :
    AgreesOn data extent range bytes := by
  intro offset hs hstop hlower hupper
  unfold overlapAgrees at h
  rw [if_pos (by omega), decide_eq_true_eq] at h
  have hi := congrArg (fun part => part[offset - max extent.start range.start]?) h
  simp only [getElem?_slice] at hi
  rw [if_pos (by omega), if_pos (by omega), if_pos (by omega)] at hi
  have hleft : extent.start + (max extent.start range.start - extent.start +
      (offset - max extent.start range.start)) = offset := by omega
  have hright : max extent.start range.start - range.start +
      (offset - max extent.start range.start) = offset - range.start := by omega
  rwa [hleft, hright] at hi

variable (hdata : files.mediaAt path = some data)

include hdata

theorem reads_verifyExtentBytes
    (extent : PersistedRangeExtent) (range : ByteRange) (bytes : Bytes) (length : Nat) :
    Reads (verifyExtentBytes path extent range bytes length) files fun existing =>
      existing = slice data.content extent.start extent.stop ∧
        extent.stop ≤ data.content.length ∧ AgreesOn data.content extent range bytes := by
  refine Inspects.bind (inspects_demand (by simp [NotSync])) fun _ _ => ?_
  refine Inspects.bind (reads_readExact path _ files) ?_
  rintro _ ⟨object, hob, hbd, rfl⟩
  obtain rfl : data = object := by simpa [hdata] using hob
  refine Inspects.bind (inspects_demand (notSync_identity _)) fun _ hoverlap => ?_
  refine Inspects.bind (inspects_demand (notSync_identity _)) fun _ _ => ?_
  exact inspects_pure ⟨rfl, hbd, agreesOn_of_overlapAgrees hoverlap⟩

theorem reads_verifyExtents
    (selected : PersistedRangeExtent → Bool) (range : ByteRange) (bytes : Bytes) (length : Nat)
    (extents : List PersistedRangeExtent) :
    Reads (verifyExtents path selected range bytes length extents) files fun _ =>
      ∀ extent ∈ extents, selected extent = true → AgreesOn data.content extent range bytes := by
  refine (inspects_forEach fun extent _ => ?_).mono (fun _ h extent hm hsel =>
    h extent (List.mem_filter.mpr ⟨hm, hsel⟩)) fun _ h => h
  refine Inspects.bind (reads_verifyExtentBytes hdata extent range bytes length) fun _ h => ?_
  exact inspects_pure h.2.2

omit hdata

structure Supplies (future data : Bytes) (olds : List PersistedRangeExtent)
    (gaps : List ByteRange) (range : ByteRange) (bytes : Bytes) : Prop where
  olds : ∀ extent ∈ olds, extent.start ≤ extent.stop ∧ extent.stop ≤ future.length ∧
    slice future extent.start extent.stop = slice data extent.start extent.stop
  gaps : ∀ gap ∈ gaps, gap.start ≤ gap.stop ∧ gap.stop ≤ future.length ∧
    slice future gap.start gap.stop = incomingPart range bytes gap

include hdata

theorem reads_mergeSegments (merged range : ByteRange)
    (bytes : Bytes) (length fuel cursor : Nat) (olds : List PersistedRangeExtent)
    (gaps : List ByteRange) (hashed : Bytes) :
    Reads (mergeSegments path merged range bytes length fuel cursor olds gaps hashed) files
      fun result => ∀ future, Supplies future data.content olds gaps range bytes →
        merged.start ≤ cursor → cursor ≤ merged.stop → cursor ≤ future.length →
        hashed = slice future merged.start cursor →
        result = slice future merged.start merged.stop := by
  induction fuel generalizing cursor olds gaps hashed with
  | zero =>
    unfold mergeSegments
    split
    · refine inspects_pure fun future _ _ hupper _ hhashed => ?_
      rw [hhashed, le_antisymm hupper ‹_›]
    · exact inspects_raise (notSync_identity _)
  | succ fuel ih =>
    unfold mergeSegments
    split
    · refine inspects_pure fun future _ _ hupper _ hhashed => ?_
      rw [hhashed, le_antisymm hupper ‹_›]
    dsimp only
    split
    · rename_i extent hhead
      rw [Option.filter_eq_some_iff] at hhead
      obtain ⟨hhead, hfit⟩ := hhead
      simp only [decide_eq_true_eq] at hfit
      obtain ⟨rest, rfl⟩ : ∃ rest, olds = extent :: rest := by
        cases olds with
        | nil => cases hhead
        | cons first rest =>
          cases hhead
          exact ⟨rest, rfl⟩
      refine Inspects.bind (reads_verifyExtentBytes hdata extent range bytes length) ?_
      rintro _ ⟨rfl, _, _⟩
      refine (ih extent.stop rest gaps _).mono (fun result h future hsupp hlower _ _ hhashed =>
        ?_) fun _ h => h
      obtain ⟨hextent, hlen, hs⟩ := hsupp.olds extent (by simp)
      refine h future ⟨fun other ho => hsupp.olds other (by simp [ho]),
        hsupp.gaps⟩ (by omega) hfit.2 hlen ?_
      rw [hhashed, ← hs, hfit.1]
      exact slice_append hlower (by omega) (by omega)
    · split
      · rename_i gap hhead
        rw [Option.filter_eq_some_iff] at hhead
        obtain ⟨hhead, hfit⟩ := hhead
        simp only [decide_eq_true_eq] at hfit
        obtain ⟨rest, rfl⟩ : ∃ rest, gaps = gap :: rest := by
          cases gaps with
          | nil => cases hhead
          | cons first rest =>
            cases hhead
            exact ⟨rest, rfl⟩
        refine (ih gap.stop olds rest _).mono (fun result h future hsupp hlower _ _ hhashed =>
          ?_) fun _ h => h
        obtain ⟨hgap, hlen, hs⟩ := hsupp.gaps gap (by simp)
        refine h future ⟨hsupp.olds,
          fun other ho => hsupp.gaps other (by simp [ho])⟩ (by omega) hfit.2
          hlen ?_
        rw [hhashed, ← hs, hfit.1]
        exact slice_append hlower (by omega) (by omega)
      · exact inspects_raise (notSync_identity _)

theorem reads_hashVerifiedMergedRange
    (merged range : ByteRange) (bytes : Bytes) (length : Nat) (olds : List PersistedRangeExtent)
    (gaps : List ByteRange) :
    Reads (hashVerifiedMergedRange path merged olds range bytes gaps length) files
      fun digest => ∀ future, Supplies future data.content olds gaps range bytes →
        merged.start ≤ merged.stop → merged.start ≤ future.length →
        digest = sha256Hex (slice future merged.start merged.stop) := by
  refine Inspects.bind (reads_mergeSegments hdata merged range bytes length _ _ _ _ _)
    fun hashed h => ?_
  refine inspects_pure fun future hsupp hmerged hlen => ?_
  have he : ([] : Bytes) = slice future merged.start merged.start := by simp [slice]
  have hr : Supplies future data.content (extentsAfter merged.start olds)
      (gaps.dropWhile fun gap => gap.stop ≤ merged.start) range bytes :=
    ⟨fun extent hm => hsupp.olds extent ((List.dropWhile_sublist _).subset hm),
      fun gap hm => hsupp.gaps gap ((List.dropWhile_sublist _).subset hm)⟩
  rw [h future hr le_rfl hmerged hlen he]

theorem reads_hashFileRange (range : ByteRange) :
    Reads (hashFileRange path range) files fun digest =>
      range.stop ≤ data.content.length ∧
        digest = sha256Hex (slice data.content range.start range.stop) := by
  refine Inspects.bind (reads_readExact path range files) ?_
  rintro _ ⟨object, hob, hbd, rfl⟩
  obtain rfl : data = object := by simpa [hdata] using hob
  exact inspects_pure ⟨hbd, rfl⟩

omit hdata

end NetPlayer.RangeCache
