import NetPlayer.RangeCache.Extents

/-!
# Samples for another network

Before a second network serves a resource, a few samples of the durable bytes
beyond the prefix are compared with it: around the first, the middle and the last
of them.
-/

namespace NetPlayer.RangeCache

open Spans List

def hlsCrossCdnSampleBytes : Nat := 16 * 1024
def hlsCrossCdnMaxSamples : Nat := 3

/-- `find` on the intervals, with what it leaves of the offset it counts down. -/
def intervalAt : Nat → List ByteRange → Option (ByteRange × Nat)
  | _, [] => none
  | offset, range :: rest =>
    let length := range.stop - range.start
    if offset < length then some (range, offset) else intervalAt (offset - length) rest

def sampleAround (interval : ByteRange) (offset : Nat) : ByteRange :=
  let length := min (interval.stop - interval.start) hlsCrossCdnSampleBytes
  let center := interval.start + offset
  let start := min (max (center - length / 2) interval.start) (interval.stop - length)
  ⟨start, start + length⟩

/-- One turn of the loop of `select_cross_cdn_sample_ranges`. -/
def addSample (intervals samples : List ByteRange) (target : Nat) : List ByteRange :=
  match intervalAt target intervals with
  | none => samples
  | some (interval, offset) =>
    let sample := sampleAround interval offset
    if samples.any fun existing => existing.start < sample.stop && sample.start < existing.stop then
      samples
    else samples ++ [sample]

variable (extents : List PersistedRangeExtent) (prefixLength : Nat)

def intervalsBeyond : List ByteRange :=
  extents.filterMap fun extent =>
    let start := max extent.start prefixLength
    if start < extent.stop then some ⟨start, extent.stop⟩ else none

def selectCrossCdnSampleRanges : List ByteRange :=
  let intervals := intervalsBeyond extents prefixLength
  let availableBytes := (intervals.map fun range => range.stop - range.start).sum
  if availableBytes = 0 then []
  else [0, (availableBytes - 1) / 2, availableBytes - 1].foldl (addSample intervals) []

structure IsSample (sample : ByteRange) : Prop where
  nonempty : sample.start < sample.stop
  bounded : sample.stop - sample.start ≤ hlsCrossCdnSampleBytes
  beyond : prefixLength ≤ sample.start
  inExtent : ∃ extent ∈ extents, extent.start ≤ sample.start ∧ sample.stop ≤ extent.stop

structure SamplesSound (samples : List ByteRange) : Prop where
  each : ∀ sample ∈ samples, IsSample extents prefixLength sample
  disjoint : samples.Pairwise fun a b => Disjoint (offsets a) (offsets b)

variable {extents prefixLength} {intervals samples : List ByteRange} {offset target : Nat}

theorem intervalAt_spec {interval : ByteRange}
    (h : intervalAt target intervals = some (interval, offset)) :
    interval ∈ intervals ∧ offset < interval.stop - interval.start := by
  induction intervals generalizing target with
  | nil => cases h
  | cons range rest ih =>
    unfold intervalAt at h
    dsimp only at h
    split at h
    · cases h
      exact ⟨mem_cons_self, ‹_›⟩
    · exact ⟨mem_cons_of_mem _ (ih h).1, (ih h).2⟩

theorem intervalAt_isSome
    (h : target < (intervals.map fun range => range.stop - range.start).sum) :
    (intervalAt target intervals).isSome := by
  induction intervals generalizing target with
  | nil => cases h
  | cons range rest ih =>
    unfold intervalAt
    dsimp only
    split
    · rfl
    · rw [map_cons, sum_cons] at h
      exact ih (by omega)

theorem isSample_around {interval : ByteRange}
    (hm : interval ∈ intervalsBeyond extents prefixLength)
    (hoff : offset < interval.stop - interval.start) :
    IsSample extents prefixLength (sampleAround interval offset) := by
  obtain ⟨extent, hextent, hint⟩ := mem_filterMap.mp hm
  dsimp only at hint
  split at hint
  · cases hint
    have hbytes : 0 < hlsCrossCdnSampleBytes := by decide
    unfold sampleAround
    constructor
    · dsimp only
      omega
    · dsimp only
      omega
    · dsimp only
      omega
    · exact ⟨extent, hextent, by dsimp only; omega, by dsimp only; omega⟩
  · cases hint

theorem SamplesSound.add (h : SamplesSound extents prefixLength samples) (target : Nat) :
    SamplesSound extents prefixLength
        (addSample (intervalsBeyond extents prefixLength) samples target) ∧
      samples <+: addSample (intervalsBeyond extents prefixLength) samples target ∧
      (addSample (intervalsBeyond extents prefixLength) samples target).length ≤
        samples.length + 1 := by
  unfold addSample
  split
  · exact ⟨h, prefix_rfl, Nat.le_succ _⟩
  · rename_i interval offset hint
    obtain ⟨hm, hoff⟩ := intervalAt_spec hint
    have hsample := isSample_around hm hoff
    dsimp only
    split
    · exact ⟨h, prefix_rfl, Nat.le_succ _⟩
    · rename_i hapart
      refine ⟨⟨?_, ?_⟩, prefix_append _ _, by simp⟩
      · intro sample hin
        rcases mem_append.mp hin with hin | hin
        · exact h.each sample hin
        · rw [List.mem_singleton.mp hin]
          exact hsample
      · refine pairwise_append.mpr ⟨h.disjoint, pairwise_singleton _ _, fun a ha b hb => ?_⟩
        rw [List.mem_singleton.mp hb, Finset.disjoint_left]
        intro other hina hinb
        rw [mem_offsets] at hina hinb
        refine hapart (any_eq_true.mpr ⟨a, ha, ?_⟩)
        rw [Bool.and_eq_true, decide_eq_true_eq, decide_eq_true_eq]
        omega

/-- The samples are few, not empty, disjoint and of bounded size; each lies in one extent and beyond
the prefix, and there is one as soon as a durable byte lies beyond the prefix. -/
theorem selectCrossCdnSampleRanges_sound (extents : List PersistedRangeExtent) (prefixLength : Nat) :
    (selectCrossCdnSampleRanges extents prefixLength).length ≤ hlsCrossCdnMaxSamples ∧
      SamplesSound extents prefixLength (selectCrossCdnSampleRanges extents prefixLength) ∧
      ∀ offset ∈ covered extents, prefixLength ≤ offset →
        selectCrossCdnSampleRanges extents prefixLength ≠ [] := by
  have hnone : SamplesSound extents prefixLength [] := ⟨by simp, Pairwise.nil⟩
  unfold selectCrossCdnSampleRanges
  dsimp only
  split
  · rename_i hzero
    refine ⟨Nat.zero_le _, hnone, fun offset hoff hbeyond => ?_⟩
    obtain ⟨extent, hextent, hstart, hstop⟩ := mem_covered.mp hoff
    simp only [span_start_extent, span_stop_extent] at hstart hstop
    have hint : ⟨max extent.start prefixLength, extent.stop⟩ ∈
        intervalsBeyond extents prefixLength :=
      mem_filterMap.mpr ⟨extent, hextent, if_pos (by omega)⟩
    have hlen := List.sum_eq_zero_iff_forall_eq_nat.mp hzero _
      (mem_map_of_mem (f := fun range : ByteRange => range.stop - range.start) hint)
    dsimp only at hlen
    omega
  · rename_i hsome
    obtain ⟨hfirst, _, hone⟩ := hnone.add 0
    have hfound := @intervalAt_isSome (intervalsBeyond extents prefixLength) 0
      (Nat.pos_of_ne_zero hsome)
    have hne : addSample (intervalsBeyond extents prefixLength) [] 0 ≠ [] := by
      obtain ⟨found, hfound⟩ := Option.isSome_iff_exists.mp hfound
      simp [addSample, hfound]
    generalize ((intervalsBeyond extents prefixLength).map
      fun range => range.stop - range.start).sum = availableBytes
    obtain ⟨hsecond, hkeeps, htwo⟩ := hfirst.add ((availableBytes - 1) / 2)
    obtain ⟨hthird, hkept, hthree⟩ := hsecond.add (availableBytes - 1)
    refine ⟨?_, hthird, fun _ _ _ hempty => hne ?_⟩
    · rw [length_nil] at hone
      exact hthree.trans (Nat.succ_le_succ (htwo.trans (Nat.succ_le_succ hone)))
    · have hgrows := hkeeps.trans hkept
      simp only [foldl_cons, foldl_nil] at hempty
      rw [hempty] at hgrows
      exact prefix_nil.mp hgrows

end NetPlayer.RangeCache
