import NetPlayer.RangeCache.ExtentCoverage
import NetPlayer.RangeCache.Store

/-!
# What a valid manifest says

A manifest that validates has its extents in order and inside of the total
length, and its durable bytes are their measure. Filling in the digest of an
extent leaves a manifest valid.
-/

namespace NetPlayer.RangeCache

open Spans List

variable {extents : List PersistedRangeExtent}

variable {previousEnd durableBytes result stop cursor lower : Nat}

theorem validateExtents_eq_some {total : Option Nat} :
    validateExtents total previousEnd durableBytes extents = some result ↔
      Ordered previousEnd extents ∧
        (∀ extent ∈ extents, ∀ length, total = some length → extent.stop ≤ length) ∧
        (∀ extent ∈ extents, isSha256Hex extent.sha256 = true) ∧
        result = (extents.map fun extent => extent.stop - extent.start).foldl saturatingAdd
          durableBytes := by
  induction extents generalizing previousEnd durableBytes with
  | nil => simpa [validateExtents, Ordered] using eq_comm
  | cons extent rest ih =>
    unfold validateExtents
    split
    · rename_i hbad
      simp only [reduceCtorEq, false_iff]
      rintro ⟨⟨hlower, hextent, _⟩, htot, hdig, _⟩
      simp only [span_start_extent, span_stop_extent] at hlower hextent
      rcases hbad with h | h | h | h
      · omega
      · omega
      · rw [Option.any_eq_true] at h
        obtain ⟨length, hlen, hbd⟩ := h
        have := htot extent (by simp) length hlen
        simp only [decide_eq_true_eq] at hbd
        omega
      · rw [hdig extent (by simp)] at h
        cases h
    · rename_i hgood
      simp only [not_or, Bool.not_eq_false, Option.any_eq_true, decide_eq_true_eq, not_exists,
        not_and, Nat.not_lt, Nat.not_le] at hgood
      obtain ⟨hextent, hlower, htot, hdig⟩ := hgood
      rw [ih]
      simp only [Ordered, mem_cons, forall_eq_or_imp, map_cons, foldl_cons,
        span_start_extent, span_stop_extent]
      constructor
      · rintro ⟨h1, h2, h3, h4⟩
        exact ⟨⟨hlower, hextent, h1⟩, ⟨htot, h2⟩, ⟨hdig, h3⟩, h4⟩
      · rintro ⟨⟨_, _, h1⟩, ⟨_, h2⟩, ⟨_, h3⟩, h4⟩
        exact ⟨h1, h2, h3, h4⟩

structure HeaderValid [UrlParser] (manifest : PersistedRangeManifest)
    (resource : HlsMediaResource) : Prop where
  schema : manifest.schemaVersion = rangeManifestSchemaVersion
  generation : manifest.generation ≠ 0
  resourceId : manifest.resourceId = resource.id
  representation : manifest.representationDigest = resource.representation
  extentCount : manifest.extents.length ≤ rangeMaxChunks
  originCount : manifest.validatedOrigins.length ≤ 64
  etag : manifest.strongEtag.all strongEtagStringIsValid = true
  prefixValid : prefixIsValid manifest = true
  originsValid : manifest.validatedOrigins.all originIsValid = true

theorem validateRangeManifest_eq_ok [UrlParser] {manifest : PersistedRangeManifest}
    {resource : HlsMediaResource} :
    validateRangeManifest manifest resource = .ok () ↔
      HeaderValid manifest resource ∧
        validateExtents manifest.totalLength 0 0 manifest.extents = some manifest.durableBytes := by
  unfold validateRangeManifest
  constructor
  · intro h
    split at h
    · cases h
    rename_i hheader
    simp only [not_or, ne_eq, not_not, Nat.not_lt, Bool.not_eq_false] at hheader
    split at h
    · cases h
    rename_i durableBytes hexts
    split at h
    · cases h
    rename_i hsum
    simp only [not_or, ne_eq, not_not, Bool.not_eq_false] at hsum
    split at h
    · cases h
    rename_i horigs
    simp only [Bool.not_eq_false] at horigs
    obtain ⟨h1, h2, h3, h4, h5, h6, h7⟩ := hheader
    exact ⟨⟨h1, h2, h3, h4, h5, h6, h7, hsum.2, horigs⟩, hsum.1 ▸ hexts⟩
  · rintro ⟨⟨h1, h2, h3, h4, h5, h6, h7, h8, h9⟩, hexts⟩
    rw [if_neg (by simp
                   exact ⟨h1, h2, h3, h4, h5, h6, h7⟩), hexts]
    simp [h8, h9]

section

variable [UrlParser] {manifest : PersistedRangeManifest} {resource : HlsMediaResource}

variable (h : validateRangeManifest manifest resource = .ok ())
include h

theorem ordered_of_valid :
    Ordered 0 manifest.extents :=
  (validateExtents_eq_some.mp (validateRangeManifest_eq_ok.mp h).2).1

theorem stop_le_total_of_valid
    {extent : PersistedRangeExtent} (hm : extent ∈ manifest.extents) {total : Nat}
    (htot : manifest.totalLength = some total) : extent.stop ≤ total :=
  (validateExtents_eq_some.mp (validateRangeManifest_eq_ok.mp h).2).2.1 extent hm total htot

theorem durableBytes_of_valid :
    manifest.durableBytes = durableExtentBytes manifest.extents :=
  (validateExtents_eq_some.mp (validateRangeManifest_eq_ok.mp h).2).2.2.2

end

def SameSpans (left right : List PersistedRangeExtent) : Prop :=
  left.map (fun extent => (extent.start, extent.stop)) =
    right.map fun extent => (extent.start, extent.stop)

variable {left right : List PersistedRangeExtent}

theorem coveredFrom_of_sameSpans (h : SameSpans left right) :
    coveredFrom stop cursor left = coveredFrom stop cursor right := by
  induction left generalizing right cursor with
  | nil =>
    cases right with
    | nil => rfl
    | cons _ _ => simp [SameSpans] at h
  | cons extent rest ih =>
    cases right with
    | nil => simp [SameSpans] at h
    | cons other others =>
      simp only [SameSpans, map_cons, List.cons.injEq, Prod.mk.injEq] at h
      obtain ⟨⟨hs, hstop⟩, hr⟩ := h
      unfold coveredFrom
      rw [ih hr, ih hr, hs, hstop]

theorem ordered_of_sameSpans (h : SameSpans left right) (hleft : Ordered lower left) :
    Ordered lower right := by
  induction left generalizing right lower with
  | nil =>
    cases right with
    | nil => trivial
    | cons _ _ => simp [SameSpans] at h
  | cons extent rest ih =>
    cases right with
    | nil => simp [SameSpans] at h
    | cons other others =>
      simp only [SameSpans, map_cons, List.cons.injEq, Prod.mk.injEq] at h
      obtain ⟨⟨hs, hstop⟩, hr⟩ := h
      obtain ⟨h1, h2, h3⟩ := hleft
      simp only [span_start_extent, span_stop_extent, hs, hstop] at h1 h2 h3
      exact ⟨h1, h2, ih hr h3⟩

theorem lengths_of_sameSpans (h : SameSpans left right) :
    (left.map fun extent => extent.stop - extent.start) =
      right.map fun extent => extent.stop - extent.start := by
  have := congrArg (List.map fun span : Nat × Nat => span.2 - span.1) h
  simpa [map_map, Function.comp_def] using this

theorem isSha256Hex_sha256Hex (bytes : Bytes) : isSha256Hex (sha256Hex bytes) = true := by
  unfold isSha256Hex sha256Hex
  simp only [Sha256.utf8ByteSize_hexDigest, decide_true, Bool.true_and, all_eq_true]
  intro c hc
  rcases Sha256.isHexDigit_hexDigest hc with ⟨h1, h2⟩ | ⟨h1, h2⟩
  · simp [isAsciiHexdigit, h1, h2]
  · simp [isAsciiHexdigit, h1, h2]

theorem valid_of_sameSpans [UrlParser] {manifest : PersistedRangeManifest}
    {resource : HlsMediaResource} (h : validateRangeManifest manifest resource = .ok ())
    (hspans : SameSpans manifest.extents extents)
    (hdigs : ∀ extent ∈ extents, isSha256Hex extent.sha256 = true) :
    validateRangeManifest { manifest with extents := extents } resource = .ok () := by
  rw [validateRangeManifest_eq_ok] at h ⊢
  obtain ⟨hheader, hexts⟩ := h
  rw [validateExtents_eq_some] at hexts
  obtain ⟨hord, htot, _, hdurable⟩ := hexts
  have hlen : extents.length = manifest.extents.length := by
    simpa using (congrArg List.length hspans).symm
  have hcov : rangeIsCovered extents ⟨0, manifest.prefixLength⟩ =
      rangeIsCovered manifest.extents ⟨0, manifest.prefixLength⟩ := by
    unfold rangeIsCovered
    rw [coveredFrom_of_sameSpans hspans]
  constructor
  · refine { hheader with extentCount := by rw [hlen]; exact hheader.extentCount, prefixValid := ?_ }
    have := hheader.prefixValid
    unfold prefixIsValid at this ⊢
    simpa only [hcov] using this
  · refine validateExtents_eq_some.mpr ⟨ordered_of_sameSpans hspans hord, ?_, hdigs, ?_⟩
    · intro extent hm length hlen
      have hspan : (extent.start, extent.stop) ∈
          manifest.extents.map fun extent => (extent.start, extent.stop) := by
        rw [hspans]
        exact mem_map_of_mem hm
      rw [mem_map] at hspan
      obtain ⟨old, hold, heq⟩ := hspan
      have := htot old hold length hlen
      simp only [Prod.mk.injEq] at heq
      omega
    · rw [hdurable, lengths_of_sameSpans hspans]

variable {before after : List PersistedRangeExtent}

theorem setExtentDigest_merged {merged : ByteRange} {digest : String}
    (h : Ordered lower (before ++ [pendingExtent merged] ++ after)) :
    setExtentDigest merged digest (before ++ [pendingExtent merged] ++ after) =
      some (before ++ [⟨merged.start, merged.stop, digest⟩] ++ after) := by
  rw [append_assoc] at h ⊢
  induction before generalizing lower with
  | nil =>
    show setExtentDigest merged digest (pendingExtent merged :: after) = _
    unfold setExtentDigest
    rw [if_pos ⟨rfl, rfl⟩]
    rfl
  | cons extent before ih =>
    obtain ⟨_, hextent, hr⟩ := h
    have hm : pendingExtent merged ∈ before ++ ([pendingExtent merged] ++ after) := by simp
    have hp := hr.mem hm
    simp only [span_start_extent, span_stop_extent, pendingExtent] at hextent hp
    rw [cons_append, setExtentDigest, if_neg (by omega), ih hr]
    rfl

theorem sameSpans_merged {merged : ByteRange} {digest : String} :
    SameSpans (before ++ [pendingExtent merged] ++ after)
      (before ++ [⟨merged.start, merged.stop, digest⟩] ++ after) := by
  simp [SameSpans, pendingExtent]

end NetPlayer.RangeCache
