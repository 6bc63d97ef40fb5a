import NetPlayer.RangeCache.Gaps

/-!
# Foreground chunks

A foreground request is served by chunks of the parents it meets. The chunks lie
on a grid that no request moves, so that two requests either share a chunk or
ask for disjoint ones.
-/

namespace NetPlayer.RangeCache

open Spans List Finset

/-- The inner loop of `planned_foreground_range_chunks_with_parent_visits`; it has no result when
`fuel` runs out. -/
def foregroundChunksFrom (extents : List PersistedRangeExtent) (requested : ByteRange)
    (requestedEnd parentIndex parentEnd : Nat) : Nat → Nat → Option (List (Nat × ByteRange))
  | 0, _ => none
  | fuel + 1, start =>
    if start < parentEnd then do
      let stop := min (saturatingAdd start rangeForegroundChunkBytes) parentEnd
      let chunks ←
        foregroundChunksFrom extents requested requestedEnd parentIndex parentEnd fuel stop
      if start < requestedEnd ∧ requested.start < stop ∧
          rangeIsCovered extents ⟨start, stop⟩ = false then
        return (parentIndex, ⟨start, stop⟩) :: chunks
      else return chunks
    else some []

/-- The outer loop. The count of the parents it visits is left out. -/
def foregroundParentsFrom (total : Nat) (requested : ByteRange)
    (extents : List PersistedRangeExtent) (requestedEnd : Nat) :
    Nat → Nat → Option (List (Nat × ByteRange))
  | 0, _ => none
  | fuel + 1, parentOffset =>
    if parentOffset < requestedEnd then
      match logicalRangeParentWithIndex total parentOffset with
      | none => some []
      | some (parentIndex, parent) => do
        let chunks ← foregroundChunksFrom extents requested requestedEnd parentIndex parent.stop
          (parent.stop - parent.start + 1) parent.start
        let rest ← foregroundParentsFrom total requested extents requestedEnd fuel parent.stop
        return chunks ++ rest
    else some []

def plannedForegroundRangeChunks (total : Nat) (requested : ByteRange)
    (extents : List PersistedRangeExtent) : Option (List (Nat × ByteRange)) :=
  if total = 0 ∨ requested.stop ≤ requested.start ∨ total ≤ requested.start then some []
  else
    let requestedEnd := min requested.stop total
    foregroundParentsFrom total requested extents requestedEnd
      (requestedEnd - requested.start + 1) requested.start

variable {total : Nat} {requested : ByteRange} {extents : List PersistedRangeExtent}

/-- A chunk of the parent with the index, on the grid that starts where the parent starts. -/
structure OnGrid (index : Nat) (parent : ByteRange) (chunk : Nat × ByteRange) : Prop where
  carries : chunk.1 = index
  start_le : parent.start ≤ chunk.2.start
  aligned : rangeForegroundChunkBytes ∣ chunk.2.start - parent.start
  before : chunk.2.start < parent.stop
  stop : chunk.2.stop = min (chunk.2.start + rangeForegroundChunkBytes) parent.stop

structure Wanted (extents : List PersistedRangeExtent) (requested : ByteRange)
    (requestedEnd : Nat) (chunk : ByteRange) : Prop where
  start : chunk.start < requestedEnd
  stop : requested.start < chunk.stop
  uncovered : rangeIsCovered extents chunk = false

variable {chunk a b : Nat × ByteRange}

theorem OnGrid.nonempty {index : Nat} {parent : ByteRange}
    (h : OnGrid index parent chunk) : chunk.2.start < chunk.2.stop := by
  have hbytes : 0 < rangeForegroundChunkBytes := by decide
  have := h.before
  rw [h.stop]
  omega

theorem OnGrid.eq_of_meet {index offset : Nat} {parent : ByteRange}
    (ha : OnGrid index parent a) (hb : OnGrid index parent b)
    (hina : offset ∈ offsets a.2) (hinb : offset ∈ offsets b.2) : a = b := by
  rw [mem_offsets, ha.stop] at hina
  rw [mem_offsets, hb.stop] at hinb
  obtain ⟨i, hi⟩ := ha.aligned
  obtain ⟨j, hj⟩ := hb.aligned
  have hastart := ha.start_le
  have hbstart := hb.start_le
  have hbytes : 0 < rangeForegroundChunkBytes := by decide
  generalize rangeForegroundChunkBytes = bytes at *
  have hij : i = j := by
    rcases Nat.lt_trichotomy i j with hlt | heq | hgt
    · have := Nat.mul_le_mul_left bytes (Nat.succ_le_of_lt hlt)
      rw [Nat.mul_succ] at this
      omega
    · exact heq
    · have := Nat.mul_le_mul_left bytes (Nat.succ_le_of_lt hgt)
      rw [Nat.mul_succ] at this
      omega
  have hs : a.2.start = b.2.start := by
    subst hij
    omega
  have hstop : a.2.stop = b.2.stop := by rw [ha.stop, hb.stop, hs]
  have hrange : a.2 = b.2 := by
    cases ha' : a.2
    cases hb' : b.2
    simp_all
  exact Prod.ext (ha.carries.trans hb.carries.symm) hrange

theorem foregroundChunksFrom_spec {requestedEnd index fuel start : Nat} {parent : ByteRange}
    (hmax : parent.stop ≤ u64Max) (hlower : parent.start ≤ start)
    (haligned : start < parent.stop → rangeForegroundChunkBytes ∣ start - parent.start)
    (hfuel : parent.stop - start < fuel) :
    ∃ chunks, foregroundChunksFrom extents requested requestedEnd index parent.stop fuel start =
        some chunks ∧
      Ordered start (chunks.map Prod.snd) ∧
      (∀ chunk ∈ chunks, OnGrid index parent chunk ∧
        Wanted extents requested requestedEnd chunk.2) ∧
      ∀ offset, start ≤ offset → offset < parent.stop → requested.start ≤ offset →
        offset < requestedEnd → offset ∈ covered extents ∪ covered (chunks.map Prod.snd) := by
  have hbytes : 0 < rangeForegroundChunkBytes := by decide
  induction fuel generalizing start with
  | zero => omega
  | succ fuel ih =>
    unfold foregroundChunksFrom
    by_cases hend : start < parent.stop
    · rw [if_pos hend, min_saturatingAdd hmax]
      have hgrid : OnGrid index parent
          (index, ⟨start, min (start + rangeForegroundChunkBytes) parent.stop⟩) :=
        ⟨rfl, hlower, haligned hend, hend, rfl⟩
      obtain ⟨chunks, hchunks, hord, hall, hcover⟩ := @ih
        (min (start + rangeForegroundChunkBytes) parent.stop) (by omega) (fun hn => by
          rw [Nat.min_eq_left (by omega), Nat.sub_add_comm hlower]
          exact Nat.dvd_add (haligned hend) (Nat.dvd_refl _)) (by omega)
      generalize hstop : min (start + rangeForegroundChunkBytes) parent.stop = stop at *
      simp only [hchunks, Option.bind_eq_bind, Option.bind_some]
      by_cases hwanted : start < requestedEnd ∧ requested.start < stop ∧
          rangeIsCovered extents ⟨start, stop⟩ = false
      · refine ⟨(index, ⟨start, stop⟩) :: chunks, by rw [if_pos hwanted]; rfl,
          ⟨le_rfl, hgrid.nonempty, hord⟩, ?_, fun offset hs hb hfst hl => ?_⟩
        · rw [List.forall_mem_cons]
          exact ⟨⟨hgrid, hwanted.1, hwanted.2.1, hwanted.2.2⟩, hall⟩
        · rw [List.map_cons, covered_cons]
          by_cases hin : offset < stop
          · simp [hin, hs]
          · have := hcover offset (by omega) hb hfst hl
            simp only [mem_union] at this ⊢
            tauto
      · refine ⟨chunks, by rw [if_neg hwanted]; rfl, hord.mono (by omega), hall,
          fun offset hs hb hfst hl => ?_⟩
        by_cases hin : offset < stop
        · have hcov : rangeIsCovered extents ⟨start, stop⟩ = true := by
            by_contra hnot
            exact hwanted ⟨by omega, by omega, by simpa using hnot⟩
          exact mem_union_left _ (rangeIsCovered_sound hcov (mem_offsets.mpr ⟨hs, hin⟩))
        · exact hcover offset (by omega) hb hfst hl
    · rw [if_neg hend]
      exact ⟨[], rfl, trivial, by simp, fun offset hs hb => by omega⟩

/-- A chunk on the grid of the resource. -/
def OnResourceGrid (total : Nat) (chunk : Nat × ByteRange) : Prop :=
  ∃ parent, logicalRangeParentWithIndex total chunk.2.start = some (chunk.1, parent) ∧
    OnGrid chunk.1 parent chunk

theorem OnResourceGrid.eq_or_disjoint (hmax : total ≤ u64Max)
    (ha : OnResourceGrid total a) (hb : OnResourceGrid total b) :
    a = b ∨ Disjoint (offsets a.2) (offsets b.2) := by
  rw [or_iff_not_imp_right, not_disjoint_iff]
  rintro ⟨offset, hina, hinb⟩
  have hparent {chunk : Nat × ByteRange} (h : OnResourceGrid total chunk)
      (hin : offset ∈ offsets chunk.2) : ∃ parent, OnGrid chunk.1 parent chunk ∧
      logicalRangeParentWithIndex total offset = some (chunk.1, parent) := by
    obtain ⟨parent, hl, hgrid⟩ := h
    have hbef : chunk.2.start < total := by
      by_contra hnot
      simp [logicalRangeParentWithIndex, Nat.not_lt.mp hnot] at hl
    obtain ⟨index, found, hf, _, _, _, hs⟩ := logicalParent_spec hmax hbef
    rw [hl] at hf
    cases hf
    rw [mem_offsets, hgrid.stop] at hin
    exact ⟨parent, hgrid, hs offset (hgrid.start_le.trans hin.1) (by omega)⟩
  obtain ⟨parent, hgrida, hl⟩ := hparent ha hina
  obtain ⟨other, hgridb, ho⟩ := hparent hb hinb
  rw [hl] at ho
  obtain ⟨hi, rfl⟩ := Prod.mk.inj (Option.some.inj ho)
  exact hgrida.eq_of_meet (hi ▸ hgridb) hina hinb

theorem foregroundParentsFrom_spec {requestedEnd fuel parentOffset lower : Nat}
    (hmax : total ≤ u64Max) (hend : requestedEnd ≤ total)
    (hlower : ∀ index parent, logicalRangeParentWithIndex total parentOffset = some (index, parent) →
      lower ≤ parent.start) (hfuel : requestedEnd - parentOffset < fuel) :
    ∃ chunks, foregroundParentsFrom total requested extents requestedEnd fuel parentOffset =
        some chunks ∧
      Ordered lower (chunks.map Prod.snd) ∧
      (∀ chunk ∈ chunks, OnResourceGrid total chunk ∧
        Wanted extents requested requestedEnd chunk.2) ∧
      ∀ offset, parentOffset ≤ offset → requested.start ≤ offset → offset < requestedEnd →
        offset ∈ covered extents ∪ covered (chunks.map Prod.snd) := by
  induction fuel generalizing parentOffset lower with
  | zero => omega
  | succ fuel ih =>
    unfold foregroundParentsFrom
    by_cases hlast : parentOffset < requestedEnd
    · obtain ⟨index, parent, hl, hsta, hstop, htot, hs⟩ :=
        logicalParent_spec hmax (show parentOffset < total by omega)
      rw [if_pos hlast, hl]
      obtain ⟨chunks, hchunks, hord, hall, hcover⟩ :=
        @foregroundChunksFrom_spec requested extents requestedEnd index _ _ parent
          (htot.trans hmax) le_rfl (fun _ => by simp) (Nat.lt_succ_self _)
      -- The next parent starts where this one stops: an offset has only one parent.
      obtain ⟨rest, hr, hrestOrdered, hrestAll, hrestCover⟩ := @ih parent.stop parent.stop
        (fun other next hn => by
          by_contra hnot
          have hb : parent.stop < total := by
            by_contra hnone
            simp [logicalRangeParentWithIndex, Nat.not_lt.mp hnone] at hn
          obtain ⟨_, _, hf, _, ha, _, hback⟩ := logicalParent_spec hmax hb
          rw [hn] at hf
          cases hf
          have hshared := hback (parent.stop - 1) (by omega) (by omega)
          rw [hs (parent.stop - 1) (by omega) (by omega)] at hshared
          cases hshared
          omega) (by omega)
      refine ⟨chunks ++ rest, by simp [hchunks, hr], ?_, ?_,
        fun offset hoff hfst hb => ?_⟩
      · rw [List.map_append, ordered_append]
        refine ⟨hord.mono (hlower index parent hl), hrestOrdered.mono ?_, ?_⟩
        · have := hlower index parent hl
          omega
        · intro before hm after ha
          obtain ⟨chunk, hchunk, rfl⟩ := List.mem_map.mp hm
          have hn := (hrestOrdered.mem ha).1
          have := (hall chunk hchunk).1.stop
          simp only [span_start_range, span_stop_range] at hn ⊢
          omega
      · intro chunk hm
        rcases mem_append.mp hm with hm | hm
        · obtain ⟨hgrid, hwanted⟩ := hall chunk hm
          refine ⟨⟨parent, ?_, hgrid.carries ▸ hgrid⟩, hwanted⟩
          rw [hgrid.carries]
          exact hs _ hgrid.start_le hgrid.before
        · exact hrestAll chunk hm
      · rw [List.map_append, covered_append]
        by_cases hin : offset < parent.stop
        · have := hcover offset (by omega) hin hfst hb
          simp only [mem_union] at this ⊢
          tauto
        · have := hrestCover offset (by omega) hfst hb
          simp only [mem_union] at this ⊢
          tauto
    · rw [if_neg hlast]
      exact ⟨[], rfl, trivial, by simp, fun offset _ _ => by omega⟩

theorem plannedChunks_spec (hmax : total ≤ u64Max) (requested : ByteRange)
    (extents : List PersistedRangeExtent) :
    ∃ chunks, plannedForegroundRangeChunks total requested extents = some chunks ∧
      Ordered 0 (chunks.map Prod.snd) ∧
      (∀ chunk ∈ chunks, OnResourceGrid total chunk ∧
        rangeIsCovered extents chunk.2 = false ∧
        ∃ offset ∈ offsets chunk.2, offset ∈ offsets requested) ∧
      offsets requested ∩ Finset.Ico 0 total ⊆
        covered extents ∪ covered (chunks.map Prod.snd) := by
  unfold plannedForegroundRangeChunks
  by_cases hn : total = 0 ∨ requested.stop ≤ requested.start ∨ total ≤ requested.start
  · rw [if_pos hn]
    refine ⟨[], rfl, trivial, by simp, fun offset hoff => ?_⟩
    rw [mem_inter, mem_offsets, Finset.mem_Ico] at hoff
    omega
  · rw [if_neg hn]
    obtain ⟨chunks, hchunks, hord, hall, hcover⟩ :=
      @foregroundParentsFrom_spec total requested extents _ _ requested.start 0 hmax
        (Nat.min_le_right requested.stop total) (fun _ _ _ => Nat.zero_le _) (Nat.lt_succ_self _)
    refine ⟨chunks, hchunks, hord, fun chunk hm => ?_, fun offset hoff => ?_⟩
    · obtain ⟨⟨parent, hl, hgrid⟩, hs, hstop, huncovered⟩ := hall chunk hm
      have hne := hgrid.nonempty
      refine ⟨⟨parent, hl, hgrid⟩, huncovered, max chunk.2.start requested.start, ?_, ?_⟩
      · rw [mem_offsets]
        omega
      · rw [mem_offsets]
        omega
    · rw [mem_inter, mem_offsets, Finset.mem_Ico] at hoff
      exact hcover offset hoff.1.1 hoff.1.1 (by omega)

/-- The plan for a request terminates. Its chunks ascend, are not empty and not too long, lie in the
parent they name, meet the request and are not covered; they complete the request, and the chunks of
any other plan for the resource are the same or disjoint. -/
theorem plannedForegroundRangeChunks_complete {total : UInt64}
    (checkpoint : CheckpointExtents total) (requested : ByteRange) :
    ∃ chunks,
      plannedForegroundRangeChunks total.toNat requested checkpoint.extents = some chunks ∧
      Ordered 0 (chunks.map Prod.snd) ∧
      (∀ chunk ∈ chunks, chunk.2.stop - chunk.2.start ≤ rangeForegroundChunkBytes ∧
        (∃ parent, logicalRangeParentWithIndex total.toNat chunk.2.start = some (chunk.1, parent) ∧
          offsets chunk.2 ⊆ offsets parent) ∧
        (∃ offset ∈ offsets chunk.2, offset ∈ offsets requested) ∧
        rangeIsCovered checkpoint.extents chunk.2 = false ∧
        ¬offsets chunk.2 ⊆ covered checkpoint.extents) ∧
      offsets requested ∩ Finset.Ico 0 total.toNat ⊆
        covered checkpoint.extents ∪ covered (chunks.map Prod.snd) ∧
      ∀ otherRequest otherExtents otherChunks,
        plannedForegroundRangeChunks total.toNat otherRequest otherExtents = some otherChunks →
        ∀ chunk ∈ chunks, ∀ other ∈ otherChunks,
          chunk = other ∨ Disjoint (offsets chunk.2) (offsets other.2) := by
  have hmax : total.toNat ≤ u64Max := Nat.le_of_lt_succ total.toNat_lt
  obtain ⟨chunks, hchunks, hascending, hall, hcover⟩ :=
    plannedChunks_spec hmax requested checkpoint.extents
  refine ⟨chunks, hchunks, hascending, fun chunk hmem => ?_, hcover, ?_⟩
  · obtain ⟨⟨parent, hlook, hgrid⟩, huncovered, hmeets⟩ := hall chunk hmem
    have hstop := hgrid.stop
    refine ⟨by omega, ⟨parent, hlook, Finset.Ico_subset_Ico hgrid.start_le (by omega)⟩, hmeets,
      huncovered, fun hsub => ?_⟩
    rw [(rangeIsCovered_iff checkpoint.ordered).mpr ⟨hgrid.nonempty, hsub⟩] at huncovered
    cases huncovered
  · intro otherRequest otherExtents otherChunks hother chunk hmem other hmem'
    obtain ⟨found, hfound, _, hfoundAll, _⟩ := plannedChunks_spec hmax otherRequest otherExtents
    rw [hother] at hfound
    cases hfound
    exact (hall chunk hmem).1.eq_or_disjoint hmax (hfoundAll other hmem').1

/-- A request over the first two gaps of the checkpoint is planned in chunks of both. -/
theorem plannedForegroundRangeChunks_complete_partial : ∃ chunks,
    plannedForegroundRangeChunks 6291456 ⟨524288, 4194304⟩ partialExtents.extents = some chunks ∧
      2 < chunks.length ∧ Ordered 0 (chunks.map Prod.snd) ∧
      offsets ⟨524288, 4194304⟩ ∩ Finset.Ico 0 6291456 ⊆
        covered partialExtents.extents ∪ covered (chunks.map Prod.snd) := by
  obtain ⟨chunks, hchunks, hord, -, hcover, -⟩ :=
    plannedForegroundRangeChunks_complete partialExtents ⟨524288, 4194304⟩
  refine ⟨chunks, hchunks, ?_, hord, hcover⟩
  have hc : ((plannedForegroundRangeChunks 6291456 ⟨524288, 4194304⟩
    partialExtents.extents).map List.length).any (2 < ·) = true := by decide +kernel
  rw [show (6291456 : UInt64).toNat = 6291456 from rfl] at hchunks
  rw [hchunks] at hc
  exact of_decide_eq_true hc

end NetPlayer.RangeCache
