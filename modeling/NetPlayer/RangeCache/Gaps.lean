import NetPlayer.RangeCache.ChunkPlans
import NetPlayer.RangeCache.ManifestValidity

/-!
# The gaps of a request

Four loops sweep the extents of a checkpoint: for the gaps of a request, for the
gaps of the whole resource, and to tell whether a request or a parent is covered.
On extents in order they agree, and the gaps are the maximal uncovered ranges.
-/

namespace NetPlayer.RangeCache

open Spans List Finset

variable {extents : List PersistedRangeExtent}

variable {stop cursor offset total : Nat}

theorem coveredFrom_iff_missing (h : cursor < stop) :
    coveredFrom stop cursor extents = true ↔ missingRangesFrom stop cursor extents = [] := by
  induction extents generalizing cursor with
  | nil => simp [coveredFrom, missingRangesFrom, h]
  | cons extent rest ih =>
    unfold coveredFrom missingRangesFrom
    by_cases hbeh : extent.stop ≤ cursor
    · rw [if_pos hbeh, if_pos hbeh, ih h]
    rw [if_neg hbeh, if_neg hbeh]
    by_cases hgap : cursor < extent.start
    · rw [if_pos hgap]
      split
      · simp
      · dsimp only
        split <;> simp
    · rw [if_neg hgap, if_neg (show ¬stop ≤ extent.start by omega)]
      rw [if_neg hgap]
      by_cases hdone : stop ≤ extent.stop
      · rw [if_pos (show stop ≤ max cursor extent.stop by omega),
          if_pos (show stop ≤ max cursor (min extent.stop stop) by omega)]
        exact iff_of_true rfl rfl
      · have hn : max cursor (min extent.stop stop) = max cursor extent.stop := by omega
        rw [hn, if_neg (show ¬stop ≤ max cursor extent.stop by omega),
          if_neg (show ¬stop ≤ max cursor extent.stop by omega), nil_append]
        exact ih (by omega)

variable {requested gap range parent : ByteRange}

theorem rangeIsCovered_iff_missing : rangeIsCovered extents requested = true ↔
      requested.start < requested.stop ∧ missingRangesWithin extents requested = [] := by
  unfold rangeIsCovered missingRangesWithin
  split
  · simpa using ‹_›
  · rw [coveredFrom_iff_missing (by omega)]
    exact (and_iff_right (by omega)).symm

section

variable {lower : Nat} (h : Ordered lower extents)
include h

theorem rangeIsCovered_iff {requested : ByteRange} :
    rangeIsCovered extents requested = true ↔
      requested.start < requested.stop ∧ offsets requested ⊆ covered extents := by
  rw [rangeIsCovered_iff_missing, and_congr_right_iff, ← sdiff_eq_empty_iff_subset,
    ← covered_missingRangesWithin h]
  intro _
  have hgaps := missingRangesWithin_ordered h requested
  cases hmissing : missingRangesWithin extents requested with
  | nil => simp
  | cons gap rest =>
    rw [hmissing] at hgaps
    simp only [reduceCtorEq, covered_cons, union_eq_empty, Finset.Ico_eq_empty_iff, false_iff]
    exact fun he => he.1 hgaps.2.1

theorem missingRangesFrom_edges {stop cursor : Nat} {gap : ByteRange}
    (hgap : gap ∈ missingRangesFrom stop cursor extents) :
    (gap.stop = stop ∨ gap.stop ∈ covered extents) ∧
      (gap.start = cursor ∨ gap.start - 1 ∈ covered extents) := by
  have hl {start : Nat} (hm : gap ∈ if start < stop then [(⟨start, stop⟩ : ByteRange)] else []) :
      gap.start = start ∧ gap.stop = stop := by
    split at hm
    · rw [List.mem_singleton.mp hm]
      exact ⟨rfl, rfl⟩
    · simp at hm
  induction extents generalizing cursor lower with
  | nil => exact ⟨.inl (hl hgap).2, .inl (hl hgap).1⟩
  | cons extent rest ih =>
    obtain ⟨_, hextent, hr⟩ := h
    simp only [span_start_extent, span_stop_extent] at hextent hr
    simp only [covered_cons, mem_union, Finset.mem_Ico, span_start_extent, span_stop_extent]
    unfold missingRangesFrom at hgap
    split at hgap
    · have := ih hr hgap
      tauto
    split at hgap
    · exact ⟨.inl (hl hgap).2, .inl (hl hgap).1⟩
    have hhere (hm : gap ∈ if cursor < extent.start then
        [(⟨cursor, min extent.start stop⟩ : ByteRange)] else []) :
        gap.start = cursor ∧ gap.stop = extent.start := by
      split at hm
      · rw [List.mem_singleton.mp hm]
        exact ⟨rfl, Nat.min_eq_left (by omega)⟩
      · simp at hm
    dsimp only at hgap
    split at hgap
    · have := hhere hgap
      omega
    rcases mem_append.mp hgap with hgap | hgap
    · have := hhere hgap
      omega
    · obtain ⟨hstop, hs⟩ := ih hr hgap
      refine ⟨by tauto, ?_⟩
      rcases hs with hs | hs
      · exact .inr (.inl (by omega))
      · exact .inr (.inr hs)

end

def IsMaximalGap (extents : List PersistedRangeExtent) (requested gap : ByteRange) : Prop :=
  gap.start < gap.stop ∧ offsets gap ⊆ offsets requested \ covered extents ∧
    ∀ wider : ByteRange, offsets gap ⊆ offsets wider →
      offsets wider ⊆ offsets requested \ covered extents → wider = gap

theorem gap_contains {lower : Nat} (h : Ordered lower extents)
    (hgap : gap ∈ missingRangesWithin extents requested) (hin : offset ∈ offsets gap)
    (hoff : offset ∈ offsets range)
    (hrange : offsets range ⊆ offsets requested \ covered extents) :
    gap.start ≤ range.start ∧ range.stop ≤ gap.stop := by
  unfold missingRangesWithin at hgap
  split at hgap
  · simp at hgap
  obtain ⟨hstop, hs⟩ := missingRangesFrom_edges h hgap
  have hinside {other : Nat} (ho : range.start ≤ other ∧ other < range.stop) :
      (requested.start ≤ other ∧ other < requested.stop) ∧ other ∉ covered extents := by
    simpa only [mem_sdiff, mem_offsets] using hrange (mem_offsets.mpr ho)
  rw [mem_offsets] at hin hoff
  constructor
  · by_contra hnot
    rcases hs with hs | hs
    · have := (hinside ⟨le_rfl, by omega⟩).1
      omega
    · exact (hinside ⟨by omega, by omega⟩).2 hs
  · by_contra hnot
    rcases hstop with hstop | hstop
    · have := (@hinside gap.stop ⟨by omega, by omega⟩).1
      omega
    · exact (hinside ⟨by omega, by omega⟩).2 hstop

theorem mem_missingRangesWithin {lower : Nat} (h : Ordered lower extents) :
    gap ∈ missingRangesWithin extents requested ↔ IsMaximalGap extents requested gap := by
  have hcov := covered_missingRangesWithin h requested
  have hsub {gap : ByteRange} (hm : gap ∈ missingRangesWithin extents requested) :
      gap.start < gap.stop ∧ offsets gap ⊆ offsets requested \ covered extents := by
    refine ⟨((missingRangesWithin_ordered h requested).mem hm).2, fun offset hoff => ?_⟩
    rw [← hcov]
    exact mem_covered.mpr ⟨gap, hm, mem_offsets.mp hoff⟩
  constructor
  · intro hm
    refine ⟨(hsub hm).1, (hsub hm).2, fun wider hwider hinside => ?_⟩
    have hs : gap.start ∈ offsets gap := mem_offsets.mpr ⟨le_rfl, (hsub hm).1⟩
    have hends := gap_contains h hm hs (hwider hs) hinside
    have hl : gap.stop - 1 ∈ offsets gap := mem_offsets.mpr (by have := (hsub hm).1; omega)
    have hfst := mem_offsets.mp (hwider hs)
    have hl := mem_offsets.mp (hwider hl)
    cases wider
    cases gap
    simp only [ByteRange.mk.injEq] at *
    omega
  · rintro ⟨hne, hinside, hmaximal⟩
    have hs : gap.start ∈ offsets gap := mem_offsets.mpr ⟨le_rfl, hne⟩
    have hin := hinside hs
    rw [← hcov] at hin
    obtain ⟨found, hm, hf⟩ := mem_covered.mp hin
    have hends := gap_contains h hm (mem_offsets.mpr hf) hs hinside
    rw [← hmaximal found (Finset.Ico_subset_Ico hends.1 hends.2) (hsub hm).2]
    exact hm

theorem missingRangesAfter_eq (h : Ordered cursor extents)
    (hcur : cursor ≤ total) (hin : ∀ extent ∈ extents, extent.stop ≤ total) :
    missingRangesAfter total cursor extents = missingRangesFrom total cursor extents := by
  induction extents generalizing cursor with
  | nil => rfl
  | cons extent rest ih =>
    obtain ⟨hlower, hextent, hr⟩ := h
    simp only [span_start_extent, span_stop_extent] at hlower hextent hr
    have hstop := hin extent (by simp)
    have hn : max cursor extent.stop = extent.stop := by omega
    have ha := ih hr hstop fun other ho => hin other (by simp [ho])
    unfold missingRangesAfter missingRangesFrom
    rw [if_neg (show ¬extent.stop ≤ cursor by omega), if_neg (show ¬total ≤ extent.start by omega)]
    rw [Nat.min_eq_left hstop, Nat.min_eq_left (show extent.start ≤ total by omega), hn, ha]
    by_cases hdone : total ≤ extent.stop
    · -- The extent reaches the end of the resource, so there is none after it.
      rw [if_pos hdone]
      cases rest with
      | nil => rw [missingRangesFrom, if_neg (Nat.not_lt.mpr hdone), append_nil]
      | cons next _ =>
        have hn := hin next (by simp)
        have hl := hr.1
        have hpos := hr.2.1
        simp only [span_start_extent, span_stop_extent] at hl hpos
        omega
    · rw [if_neg hdone]

theorem coveredFrom_extentsAfter :
    coveredFrom stop cursor (extentsAfter cursor extents) = coveredFrom stop cursor extents := by
  induction extents with
  | nil => rfl
  | cons extent rest ih =>
    unfold extentsAfter at ih ⊢
    rw [dropWhile_cons]
    split
    · rw [ih, coveredFrom, if_pos (of_decide_eq_true ‹_›)]
    · rfl

theorem parentCoveredFrom_eq {stop cursor lower : Nat} (h : Ordered lower extents)
    (hahead : ∀ extent ∈ extents, cursor < extent.stop) :
    parentCoveredFrom stop cursor extents = coveredFrom stop cursor extents := by
  induction extents generalizing cursor lower with
  | nil => rfl
  | cons extent rest ih =>
    have hextent := hahead extent (by simp)
    unfold parentCoveredFrom coveredFrom
    rw [if_neg (Nat.not_le.mpr hextent), ih h.2.2]
    intro other ho
    have := h.2.2.mem ho
    simp only [span_start_extent, span_stop_extent] at this
    omega

theorem parentIsFullyCovered_eq {lower : Nat} (h : Ordered lower extents)
    (hparent : parent.start < parent.stop) :
    parentIsFullyCovered extents parent = rangeIsCovered extents parent := by
  unfold parentIsFullyCovered rangeIsCovered
  rw [if_neg (Nat.not_le.mpr hparent), ← coveredFrom_extentsAfter]
  refine parentCoveredFrom_eq (ordered_extentsAfter h) fun extent hextent => ?_
  cases hfst : extentsAfter parent.start extents with
  | nil => simp [hfst] at hextent
  | cons first rest =>
    have hahead : parent.start < first.stop := by
      have := head?_dropWhile_not
        (fun e : PersistedRangeExtent => decide (e.stop ≤ parent.start)) extents
      unfold extentsAfter at hfst
      simpa [hfst] using this
    have hord := @ordered_extentsAfter _ _ parent.start h
    rw [hfst] at hord hextent
    rcases List.mem_cons.mp hextent with rfl | hextent
    · exact hahead
    · have := hord.2.2.mem hextent
      simp only [span_start_extent, span_stop_extent] at this
      omega

/-- The extents of a checkpoint of a resource of the size: in order, apart and inside it. -/
structure CheckpointExtents (total : UInt64) where
  extents : List PersistedRangeExtent
  ordered : Ordered 0 extents
  inside : ∀ extent ∈ extents, extent.stop ≤ total.toNat

def CheckpointExtents.ofManifest [UrlParser] {manifest : PersistedRangeManifest}
    {resource : HlsMediaResource} {total : UInt64}
    (valid : validateRangeManifest manifest resource = .ok ())
    (sized : manifest.totalLength = some total.toNat) : CheckpointExtents total where
  extents := manifest.extents
  ordered := ordered_of_valid valid
  inside _ hmem := stop_le_total_of_valid valid hmem sized

/-- On the extents of a checkpoint the four sweeps agree: the gaps of a request are its maximal
uncovered ranges in order, a request is covered when it has none, the gaps of the resource are those
of the request for all of it, and a parent is covered when a request for it is. -/
theorem missingRangesWithin_complement {total : UInt64} (checkpoint : CheckpointExtents total) :
    (∀ requested,
      Ordered requested.start (missingRangesWithin checkpoint.extents requested) ∧
      (∀ gap, gap ∈ missingRangesWithin checkpoint.extents requested ↔
        IsMaximalGap checkpoint.extents requested gap) ∧
      (rangeIsCovered checkpoint.extents requested = true ↔ requested.start < requested.stop ∧
        missingRangesWithin checkpoint.extents requested = [])) ∧
    missingRanges checkpoint.extents total.toNat =
      missingRangesWithin checkpoint.extents ⟨0, total.toNat⟩ ∧
    (∀ parent : ByteRange, parent.start < parent.stop →
      parentIsFullyCovered checkpoint.extents parent =
        rangeIsCovered checkpoint.extents parent) ∧
    ∀ offset parent, logicalRangeParent total.toNat offset = some parent →
      parentIsFullyCovered checkpoint.extents parent =
        rangeIsCovered checkpoint.extents parent := by
  obtain ⟨extents, hord, hinside⟩ := checkpoint
  dsimp only
  have hmax : total.toNat ≤ u64Max := Nat.le_of_lt_succ total.toNat_lt
  generalize total.toNat = total at *
  refine ⟨fun requested => ⟨missingRangesWithin_ordered hord requested,
    fun gap => mem_missingRangesWithin hord, rangeIsCovered_iff_missing⟩, ?_,
    fun parent => parentIsFullyCovered_eq hord, fun offset parent hparent => ?_⟩
  · unfold missingRanges missingRangesWithin
    rw [missingRangesAfter_eq hord (Nat.zero_le _) hinside]
    split
    · have hzero : total = 0 := Nat.le_zero.mp ‹_›
      cases extents with
      | nil =>
        rw [hzero]
        rfl
      | cons extent rest =>
        have hstop := hinside extent (by simp)
        have hpos := hord.2.1
        simp only [span_start_extent, span_stop_extent] at hpos
        omega
    · rfl
  · obtain ⟨⟨index, found⟩, hfound, hsame⟩ := Option.map_eq_some_iff.mp hparent
    have hoff : offset < total := by
      by_contra hnot
      simp [logicalRangeParentWithIndex, Nat.not_lt.mp hnot] at hfound
    obtain ⟨_, _, hspec, hstart, hstop, _⟩ := logicalParent_spec hmax hoff
    rw [hfound] at hspec
    cases hspec
    exact parentIsFullyCovered_eq hord (by rw [← hsame]; dsimp only; omega)

/-! A checkpoint of 6 MiB with three extents. -/

def partialVideo : HlsMediaResource where
  id := "video"
  representation := "r"
  contentType := "video/mp4"
  size := some 6291456
  cacheKey := ⟨"c", "video", none, none⟩

def partialManifest : PersistedRangeManifest :=
  let digest := String.ofList (replicate 64 '0')
  { initialManifest partialVideo ⟨1, 100⟩ with
    durableBytes := 2621440
    extents := [⟨0, 1048576, digest⟩, ⟨2097152, 3145728, digest⟩, ⟨4194304, 4718592, digest⟩] }

def partialExtents : CheckpointExtents 6291456 :=
  @CheckpointExtents.ofManifest ⟨fun _ => none⟩ partialManifest partialVideo 6291456
    (by decide +kernel) rfl

/-- A request from inside the first extent to the end has the two gaps between them and the tail. -/
theorem missingRangesWithin_complement_partial :
    missingRangesWithin partialExtents.extents ⟨524288, 6291456⟩ =
        [⟨1048576, 2097152⟩, ⟨3145728, 4194304⟩, ⟨4718592, 6291456⟩] ∧
      (∀ gap, gap ∈ missingRangesWithin partialExtents.extents ⟨524288, 6291456⟩ ↔
        IsMaximalGap partialExtents.extents ⟨524288, 6291456⟩ gap) ∧
      missingRanges partialExtents.extents 6291456 =
        missingRangesWithin partialExtents.extents ⟨0, 6291456⟩ := by
  obtain ⟨hgaps, hall, -⟩ := missingRangesWithin_complement partialExtents
  exact ⟨by decide +kernel, (hgaps _).2.1, hall⟩

end NetPlayer.RangeCache
