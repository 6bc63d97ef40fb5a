import NetPlayer.RangeCache.Extents

/-!
# What the interval arithmetic computes

On extents in order, the gaps of a request are exactly what the extents leave of
it, sorting the old extents together with the gaps puts them in order, and a
compaction replaces a contiguous run of extents by one extent over the same
bytes.
-/

namespace NetPlayer.RangeCache

open Spans List Finset PersistedRangeExtent

variable {extents : List PersistedRangeExtent}

variable {stop cursor offset total fuel : Nat}

theorem coveredFrom_sound (h : coveredFrom stop cursor extents = true) (hlower : cursor ≤ offset)
    (hupper : offset < stop) :
    offset ∈ covered extents := by
  induction extents generalizing cursor with
  | nil => cases h
  | cons extent rest ih =>
    rw [covered_cons, mem_union, mem_Ico, span_start_extent, span_stop_extent]
    unfold coveredFrom at h
    split at h
    · exact .inr (ih h hlower)
    split at h
    · cases h
    by_cases hin : offset < extent.stop
    · exact .inl (by omega)
    · split at h
      · omega
      · exact .inr (ih h (by omega))

variable {requested : ByteRange}

theorem rangeIsCovered_sound (h : rangeIsCovered extents requested = true) :
    offsets requested ⊆ covered extents := by
  unfold rangeIsCovered at h
  split at h
  · cases h
  · intro offset hoff
    rw [mem_offsets] at hoff
    exact coveredFrom_sound h hoff.1 hoff.2

theorem ordered_gap (cursor stop : Nat) :
    Ordered cursor (if cursor < stop then [(⟨cursor, stop⟩ : ByteRange)] else []) := by
  split
  · exact ⟨le_rfl, ‹_›, trivial⟩
  · exact trivial

theorem covered_gap (cursor stop : Nat) :
    covered (if cursor < stop then [(⟨cursor, stop⟩ : ByteRange)] else []) =
      Finset.Ico cursor stop := by
  split
  · simp
  · rw [Finset.Ico_eq_empty_of_le (by omega)]
    rfl

theorem stop_of_mem_gap {gap : ByteRange}
    (h : gap ∈ if cursor < stop then [(⟨cursor, stop⟩ : ByteRange)] else []) :
    gap.stop = stop := by
  split at h
  · rw [List.mem_singleton.mp h]
  · simp at h

theorem missingRangesFrom_spec {lower stop cursor : Nat} (h : Ordered lower extents) :
    Ordered cursor (missingRangesFrom stop cursor extents) ∧
      (∀ gap ∈ missingRangesFrom stop cursor extents, gap.stop ≤ stop) ∧
      covered (missingRangesFrom stop cursor extents) =
        Finset.Ico cursor stop \ covered extents := by
  induction extents generalizing cursor lower with
  | nil =>
    unfold missingRangesFrom
    refine ⟨ordered_gap cursor stop, fun gap hgap => (stop_of_mem_gap hgap).le, ?_⟩
    rw [covered_gap, covered_nil, sdiff_empty]
  | cons extent rest ih =>
    obtain ⟨_, hextent, hr⟩ := h
    simp only [span_start_extent, span_stop_extent] at hextent hr
    have hmem : ∀ offset, offset ∈ covered (extent :: rest) ↔
        extent.start ≤ offset ∧ offset < extent.stop ∨ offset ∈ covered rest := by
      intro offset
      simp
    have hl : ∀ offset ∈ covered rest, extent.stop ≤ offset :=
      fun offset hoff => hr.covered_lower hoff
    unfold missingRangesFrom
    by_cases hbeh : extent.stop ≤ cursor
    · rw [if_pos hbeh]
      have hspec : Ordered cursor (missingRangesFrom stop cursor rest) ∧ _ := ih hr
      obtain ⟨hord, hstop, hcov⟩ := hspec
      refine ⟨hord, hstop, ?_⟩
      rw [hcov]
      ext offset
      rw [mem_sdiff, mem_sdiff, hmem, mem_Ico]
      by_cases hoff : offset ∈ covered rest
      · simp [hoff]
      · simp only [hoff, or_false, not_false_eq_true, and_true]
        omega
    · rw [if_neg hbeh]
      by_cases hbeyond : stop ≤ extent.start
      · rw [if_pos hbeyond]
        refine ⟨ordered_gap cursor stop, fun gap hgap => (stop_of_mem_gap hgap).le, ?_⟩
        rw [covered_gap]
        ext offset
        rw [mem_sdiff, hmem, mem_Ico]
        by_cases hoff : offset ∈ covered rest
        · have := hl offset hoff
          omega
        · simp only [hoff, or_false]
          omega
      · rw [if_neg hbeyond]
        have hstart : min extent.start stop = extent.start := Nat.min_eq_left (by omega)
        rw [hstart]
        have hspec : Ordered (max cursor (min extent.stop stop)) (missingRangesFrom stop
            (max cursor (min extent.stop stop)) rest) ∧ _ := ih hr
        obtain ⟨hord, hstop, hcov⟩ := hspec
        by_cases hdone : stop ≤ max cursor (min extent.stop stop)
        · rw [if_pos hdone]
          refine ⟨ordered_gap cursor extent.start, fun gap hgap => ?_, ?_⟩
          · have := stop_of_mem_gap hgap
            omega
          · rw [covered_gap]
            ext offset
            rw [mem_sdiff, hmem, mem_Ico, mem_Ico]
            by_cases hoff : offset ∈ covered rest
            · have := hl offset hoff
              omega
            · simp only [hoff, or_false]
              omega
        · rw [if_neg hdone]
          refine ⟨?_, fun gap hgap => ?_, ?_⟩
          · refine ordered_append.mpr ⟨ordered_gap cursor extent.start,
              hord.mono (by omega), fun before hb after hafter => ?_⟩
            have := stop_of_mem_gap hb
            have := (hord.mem hafter).1
            simp only [span_start_range, span_stop_range] at this ⊢
            omega
          · rcases mem_append.mp hgap with hgap | hgap
            · have := stop_of_mem_gap hgap
              omega
            · exact hstop gap hgap
          · rw [covered_append, covered_gap, hcov]
            ext offset
            rw [mem_union, mem_sdiff, mem_sdiff, hmem, mem_Ico,
              mem_Ico, mem_Ico]
            by_cases hoff : offset ∈ covered rest
            · have := hl offset hoff
              simp only [hoff, or_true, not_true_eq_false, and_false, or_false, iff_false]
              omega
            · simp only [hoff, not_false_eq_true, and_true, or_false]
              omega

variable {lower : Nat} (h : Ordered lower extents)

include h

theorem missingRangesWithin_ordered (requested : ByteRange) :
    Ordered requested.start (missingRangesWithin extents requested) := by
  unfold missingRangesWithin
  split
  · exact trivial
  · exact (missingRangesFrom_spec h).1

theorem missingRangesWithin_stop_le {requested gap : ByteRange}
    (hmem : gap ∈ missingRangesWithin extents requested) : gap.stop ≤ requested.stop := by
  unfold missingRangesWithin at hmem
  split at hmem
  · simp at hmem
  · exact (missingRangesFrom_spec h).2.1 gap hmem

theorem covered_missingRangesWithin (requested : ByteRange) :
    covered (missingRangesWithin extents requested) = offsets requested \ covered extents := by
  unfold missingRangesWithin
  split
  · have : offsets requested = ∅ := Finset.Ico_eq_empty_of_le ‹_›
    simp [this]
  · exact (missingRangesFrom_spec h).2.2

omit h

variable {extent : PersistedRangeExtent}

include h in
theorem gap_disjoint_extent {requested gap : ByteRange}
    (hgap : gap ∈ missingRangesWithin extents requested) (hextent : extent ∈ extents) :
    gap.stop ≤ extent.start ∨ extent.stop ≤ gap.start := by
  by_contra hnot
  have hgapNonempty := ((missingRangesWithin_ordered h requested).mem hgap).2
  have hextentNonempty := (h.mem hextent).2
  simp only [span_start_range, span_stop_range, span_start_extent, span_stop_extent] at *
  have hin : max gap.start extent.start ∈ covered (missingRangesWithin extents requested) :=
    mem_covered.mpr ⟨gap, hgap, by simp only [span_start_range]; omega,
      by simp only [span_stop_range]; omega⟩
  rw [covered_missingRangesWithin h, mem_sdiff] at hin
  apply hin.2
  exact mem_covered.mpr ⟨extent, hextent, by simp only [span_start_extent]; omega,
    by simp only [span_stop_extent]; omega⟩

theorem durableExtentBytes_eq {lower upper : Nat} (h : Ordered lower extents)
    (hupper : ∀ extent ∈ extents, extent.stop ≤ upper) (hmax : upper ≤ u64Max) :
    durableExtentBytes extents = (covered extents).card := by
  have hsaturating : ∀ (lengths : List Nat) (start : Nat), start ≤ u64Max →
      lengths.foldl saturatingAdd start = min (start + lengths.sum) u64Max := by
    intro lengths
    induction lengths with
    | nil =>
      intro start hstart
      simpa using hstart
    | cons length rest ih =>
      intro start hstart
      have hn : saturatingAdd start length ≤ u64Max := Nat.min_le_right _ _
      rw [foldl_cons, ih _ hn, List.sum_cons]
      unfold saturatingAdd
      omega
  have hcard := h.card_covered
  have hsub := card_le_card (h.covered_subset hupper)
  rw [Nat.card_Ico] at hsub
  unfold durableExtentBytes
  rw [hsaturating _ 0 (Nat.zero_le _), hcard] at *
  simp only [span_start_extent, span_stop_extent] at hsub ⊢
  omega

theorem sortExtents_perm (extents : List PersistedRangeExtent) :
    (sortExtents extents).Perm extents :=
  perm_insertionSort _ extents

variable {added : List PersistedRangeExtent} {digest : ByteRange → String}

include h in
theorem sortExtents_ordered (hadded : added = (missingRangesWithin extents requested).map
      fun gap => ⟨gap.start, gap.stop, digest gap⟩) :
    Ordered 0 (sortExtents (extents ++ added)) := by
  have hgaps := missingRangesWithin_ordered h requested
  have hgap : ∀ extent ∈ added, ∃ gap ∈ missingRangesWithin extents requested,
      extent.start = gap.start ∧ extent.stop = gap.stop := by
    intro extent hextent
    rw [hadded, List.mem_map] at hextent
    obtain ⟨gap, hmem, rfl⟩ := hextent
    exact ⟨gap, hmem, rfl, rfl⟩
  have hpairs {upper : Nat} {spans : List PersistedRangeExtent} (hspans : Ordered upper spans) :
      spans.Pairwise fun a b => a.stop ≤ b.start ∨ b.stop ≤ a.start :=
    hspans.pairwise.imp fun hab => .inl hab
  have haddedOrdered : Ordered requested.start added := by
    rw [hadded]
    clear hgap hadded
    generalize missingRangesWithin extents requested = gaps at hgaps
    generalize requested.start = start at hgaps
    induction gaps generalizing start with
    | nil => exact trivial
    | cons gap rest ih => exact ⟨hgaps.1, hgaps.2.1, ih _ hgaps.2.2⟩
  have hperm := sortExtents_perm (extents ++ added)
  apply ordered_of_sorted
  · have hsorted := pairwise_insertionSort
      (fun a b : PersistedRangeExtent => a.start ≤ b.start) (extents ++ added)
    exact hsorted
  · intro extent hextent
    rcases mem_append.mp (hperm.mem_iff.mp hextent) with hmem | hmem
    · exact (h.mem hmem).2
    · exact (haddedOrdered.mem hmem).2
  · refine (hperm.pairwise_iff fun {a b} hab => hab.symm).mpr ?_
    refine pairwise_append.mpr ⟨hpairs h, hpairs haddedOrdered, ?_⟩
    intro old hold new hnew
    obtain ⟨gap, hmem, hstart, hstop⟩ := hgap new hnew
    have := gap_disjoint_extent h hmem hold
    simp only [span_start_extent, span_stop_extent]
    omega

include h in
theorem covered_sortExtents (hadded : added = (missingRangesWithin extents requested).map
      fun gap => ⟨gap.start, gap.stop, digest gap⟩) :
    covered (sortExtents (extents ++ added)) = covered extents ∪ offsets requested := by
  have hmap : covered added = covered (missingRangesWithin extents requested) := by
    rw [hadded]
    generalize missingRangesWithin extents requested = gaps
    induction gaps with
    | nil => rfl
    | cons gap rest ih => simp [ih]
  rw [covered_perm (sortExtents_perm _), covered_append, hmap, covered_missingRangesWithin h,
    union_sdiff_self_eq_union]

def IsRun (extents : List PersistedRangeExtent) (selected : ByteRange) : Prop :=
  ∃ before run after, extents = before ++ run ++ after ∧ 2 ≤ run.length ∧
    Contiguous selected.start selected.stop run

variable {selected : ByteRange}

theorem IsRun.prepend (h : IsRun extents selected) (front : List PersistedRangeExtent) :
    IsRun (front ++ extents) selected := by
  obtain ⟨before, run, after, rfl, hlen, hrun⟩ := h
  exact ⟨front ++ before, run, after, by simp, hlen, hrun⟩

theorem extendRun_spec {parent : ByteRange} {start stop : Nat} (h : Ordered stop extents) :
    ∃ run after, extents = run ++ after ∧ run.length = (extendRun parent start stop extents).2 ∧
      Contiguous stop (extendRun parent start stop extents).1 run := by
  induction extents generalizing stop with
  | nil => exact ⟨[], [], rfl, rfl, rfl⟩
  | cons extent rest ih =>
    unfold extendRun
    split
    · obtain ⟨hstart, _, _⟩ := ‹extent.start = stop ∧ _›
      obtain ⟨run, after, hr, hlen, hrun⟩ := ih h.2.2
      refine ⟨extent :: run, after, by rw [hr]; rfl, ?_, hstart, h.2.1, hrun⟩
      simp only [length_cons, span_stop_extent] at hlen ⊢
      rw [hlen]
    · exact ⟨[], extent :: rest, rfl, rfl, rfl⟩

variable {rest run before after : List PersistedRangeExtent}

theorem isRun_extendRun {parent : ByteRange} (h : Ordered lower (extent :: rest))
    (hc : 0 < (extendRun parent extent.start extent.stop rest).2) :
    IsRun (extent :: rest) ⟨extent.start, (extendRun parent extent.start extent.stop rest).1⟩ := by
  obtain ⟨run, after, hr, hlen, hrun⟩ :=
    @extendRun_spec _ parent extent.start _ h.2.2
  refine ⟨[], extent :: run, after, by rw [hr]; rfl, ?_, rfl, h.2.1, hrun⟩
  simp only [span_stop_extent] at hlen
  simp only [length_cons]
  omega

include h in
theorem isRun_fragmentedRunFrom {parent selected : ByteRange}
    (hrun : fragmentedRunFrom parent extents = some selected) : IsRun extents selected := by
  induction extents generalizing lower with
  | nil => cases hrun
  | cons extent rest ih =>
    unfold fragmentedRunFrom at hrun
    split at hrun
    · cases hrun
    split at hrun
    · exact (ih h.2.2 hrun).prepend [extent]
    dsimp only at hrun
    split at hrun
    · cases hrun
      exact isRun_extendRun h ‹_›
    · exact (ih h.2.2 hrun).prepend [extent]

theorem ordered_extentsAfter {lower cursor : Nat} (h : Ordered lower extents) :
    Ordered lower (extentsAfter cursor extents) := by
  have hsplit := takeWhile_append_dropWhile
    (p := fun extent : PersistedRangeExtent => decide (extent.stop ≤ cursor)) (l := extents)
  rw [← hsplit] at h
  exact (ordered_append.mp h).2.1

include h in
theorem isRun_fragmentedExtentRunInParent {parent selected : ByteRange}
    (hrun : fragmentedExtentRunInParent extents parent = some selected) :
    IsRun extents selected := by
  unfold fragmentedExtentRunInParent at hrun
  split at hrun
  · have hafter := (isRun_fragmentedRunFrom (ordered_extentsAfter h) hrun).prepend
      (extents.takeWhile fun extent => extent.stop ≤ parent.start)
    unfold extentsAfter at hafter
    rwa [takeWhile_append_dropWhile] at hafter
  · cases hrun

include h in
theorem isRun_fragmentedRunOver
    (hrun : fragmentedRunOver extents total stop fuel offset = some selected) :
    IsRun extents selected := by
  induction fuel generalizing offset with
  | zero => cases hrun
  | succ fuel ih =>
    unfold fragmentedRunOver at hrun
    split at hrun
    · split at hrun
      · cases hrun
      split at hrun
      · cases hrun
        exact isRun_fragmentedExtentRunInParent h ‹_›
      · exact ih hrun
    · cases hrun

theorem isRun_firstNeighbourRun {extents suffix : List PersistedRangeExtent} {total lower : Nat}
    (h : Ordered lower suffix) (hrun : firstNeighbourRun extents total suffix = some selected) :
    IsRun suffix selected := by
  induction suffix generalizing lower with
  | nil => cases hrun
  | cons first rest ih =>
    cases rest with
    | nil => cases hrun
    | cons second rest =>
      unfold firstNeighbourRun at hrun
      split at hrun
      · exact (ih h.2.2 hrun).prepend [first]
      split at hrun
      · cases hrun
      split at hrun
      · exact (ih h.2.2 hrun).prepend [first]
      cases hrun
      have hnbr : first.stop = second.start :=
        not_not.mp ‹¬first.stop ≠ second.start›
      obtain ⟨run, after, hr, _, hcont⟩ := extendRun_spec h.2.2.2.2
      exact ⟨[], first :: second :: run, after, by rw [hr]; rfl, by simp, rfl, h.2.1,
        hnbr.symm, h.2.2.2.1, hcont⟩

theorem isRun_firstCompleteParentCompaction {total lower : Nat} {intersecting : Option ByteRange}
    (h : Ordered lower extents)
    (hrun : firstCompleteParentCompaction extents total intersecting = some selected) :
    IsRun extents selected := by
  unfold firstCompleteParentCompaction at hrun
  split at hrun
  · cases hrun
  split at hrun
  · split at hrun
    · cases hrun
    · exact isRun_fragmentedRunOver h hrun
  · exact isRun_firstNeighbourRun h hrun

/-- The extent that `coalesce_selected_range` puts in place of a run. -/
def pendingExtent (selected : ByteRange) : PersistedRangeExtent :=
  ⟨selected.start, selected.stop, pendingSha256⟩

theorem coalesceFrom_of_outside {inserted : Bool} {front rest : List PersistedRangeExtent}
    (h : ∀ extent ∈ front, extent.within selected = false) :
    coalesceFrom selected inserted (front ++ rest) =
      (front ++ (coalesceFrom selected inserted rest).1, (coalesceFrom selected inserted rest).2) := by
  induction front with
  | nil => rfl
  | cons extent front ih =>
    rw [cons_append, coalesceFrom, h extent (by simp), if_neg (by simp),
      ih fun other ho => h other (by simp [ho])]
    rfl

theorem coalesceFrom_of_inside (h : ∀ extent ∈ run, extent.within selected = true) :
    coalesceFrom selected true (run ++ rest) =
      ((coalesceFrom selected true rest).1, (coalesceFrom selected true rest).2 + run.length) := by
  induction run with
  | nil => rfl
  | cons extent run ih =>
    rw [cons_append, coalesceFrom, h extent (by simp), if_pos rfl,
      ih fun other ho => h other (by simp [ho])]
    rfl

theorem coalesceSelectedRange_of_run
    (h : Ordered lower (before ++ run ++ after)) (hlen : 2 ≤ run.length)
    (hrun : Contiguous selected.start selected.stop run) :
    coalesceSelectedRange (before ++ run ++ after) selected =
      (before ++ [pendingExtent selected] ++ after, true) := by
  obtain ⟨first, rest, rfl⟩ : ∃ first rest, run = first :: rest :=
    exists_cons_of_length_pos (by omega)
  obtain ⟨hbeforeRun, hrunAfter⟩ := h.outside_run hrun (by simp)
  have hinside : ∀ extent ∈ first :: rest, extent.within selected = true := by
    intro extent hmem
    have := (hrun.ordered.mem hmem).1
    have := hrun.stop_le hmem
    simpa [within] using ⟨‹_›, ‹_›⟩
  have houtsideBefore : ∀ extent ∈ before, extent.within selected = false := by
    intro extent hmem
    have hspan : extent ∈ before ++ (first :: rest) ++ after := by simp [hmem]
    have := (h.mem hspan).2
    have := hbeforeRun extent hmem
    simp only [span_start_extent, span_stop_extent] at *
    simp only [within, Bool.and_eq_false_iff, decide_eq_false_iff_not]
    omega
  have houtsideAfter : ∀ extent ∈ after, extent.within selected = false := by
    intro extent hmem
    have hspan : extent ∈ before ++ (first :: rest) ++ after := by simp [hmem]
    have := (h.mem hspan).2
    have := hrunAfter extent hmem
    simp only [span_start_extent, span_stop_extent] at *
    simp only [within, Bool.and_eq_false_iff, decide_eq_false_iff_not]
    omega
  have hend := @coalesceFrom_of_outside _ true _ [] houtsideAfter
  rw [append_nil] at hend
  unfold coalesceSelectedRange
  rw [append_assoc, coalesceFrom_of_outside houtsideBefore, cons_append, coalesceFrom,
    hinside first (by simp), if_pos rfl,
    coalesceFrom_of_inside fun extent hmem => hinside extent (by simp [hmem]), hend]
  simp only [coalesceFrom, append_nil, length_cons] at hlen ⊢
  simp [pendingExtent]
  omega

end NetPlayer.RangeCache
