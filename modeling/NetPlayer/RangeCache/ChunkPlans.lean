import NetPlayer.RangeCache.ExtentCoverage
import NetPlayer.RangeCache.Finalize

/-!
# The chunk plans of a resource

A background fill builds the chunks of a resource one after another; a foreground
request looks the parent of an offset up by arithmetic and cuts it into smaller
chunks. Both follow one grid, which depends on the total length only.
-/

namespace NetPlayer.RangeCache

open Spans List Nat

theorem logicalParentSize_pos (remaining : Nat) : 0 < logicalParentSize remaining :=
  Nat.lt_of_lt_of_le (by decide) (Nat.le_max_left _ _)

theorem le_mul_logicalParentSize {remaining : Nat}
    (h : remaining ≤ rangeMaxChunkBytes * (rangeMaxChunks - 1)) :
    remaining ≤ (rangeMaxChunks - 1) * logicalParentSize remaining := by
  have hc : max (rangeMaxChunks - 1) 1 = rangeMaxChunks - 1 := by decide
  simp only [logicalParentSize, divCeil, hc]
  simp only [rangeMaxChunks, rangeMaxChunkBytes, rangeMinChunkBytes] at *
  omega

variable {total size fuel start index offset : Nat}

theorem min_saturatingAdd (h : total ≤ u64Max) :
    min (saturatingAdd start size) total = min (start + size) total := by
  unfold saturatingAdd
  omega

theorem chunksFrom_contiguous (hsize : 0 < size) (hmax : total ≤ u64Max) (hs : start ≤ total)
    (hfuel : total - start ≤ fuel) : Contiguous start total (chunksFrom total size fuel start) := by
  induction fuel generalizing start with
  | zero => exact Nat.le_antisymm hs (by omega)
  | succ fuel ih =>
    unfold chunksFrom
    split
    · dsimp only
      rw [min_saturatingAdd hmax]
      have hr := @ih (min (start + size) total) (by omega) (by omega)
      exact ⟨rfl, by simp only [span_start_range, span_stop_range]; omega, hr⟩
    · exact Nat.le_antisymm hs (by omega)

theorem chunksFrom_getElem? (hsize : 0 < size) (hmax : total ≤ u64Max)
    (hfuel : total - start ≤ fuel) :
    (chunksFrom total size fuel start)[index]? =
      if start + index * size < total then
        some ⟨start + index * size, min (start + index * size + size) total⟩
      else none := by
  induction fuel generalizing start index with
  | zero =>
    rw [if_neg (by omega)]
    rfl
  | succ fuel ih =>
    unfold chunksFrom
    split
    · dsimp only
      rw [min_saturatingAdd hmax]
      cases index with
      | zero => simp [*]
      | succ index =>
        rw [getElem?_cons_succ, ih (by omega), succ_mul]
        by_cases hl : start + size ≤ total
        · rw [Nat.min_eq_left hl]
          ac_rfl
        · rw [if_neg (by omega), if_neg (by omega)]
    · rw [if_neg (by omega)]
      rfl

theorem logicalParent_first (h : offset < min total rangeStartupChunkBytes) :
    logicalRangeParentWithIndex total offset = some (0, ⟨0, min total rangeStartupChunkBytes⟩) := by
  unfold logicalRangeParentWithIndex
  rw [if_neg (by omega)]
  exact if_pos h

theorem logicalParent_later (hmax : total ≤ u64Max) (hoff : offset < total)
    (hl : rangeStartupChunkBytes ≤ offset)
    (hsize : size = logicalParentSize (total - rangeStartupChunkBytes))
    (hi : index = (offset - rangeStartupChunkBytes) / size) :
    logicalRangeParentWithIndex total offset =
      some (index + 1, ⟨rangeStartupChunkBytes + index * size,
        min (rangeStartupChunkBytes + index * size + size) total⟩) := by
  have hfst : min total rangeStartupChunkBytes = rangeStartupChunkBytes := by omega
  have hpast : index * size ≤ offset - rangeStartupChunkBytes :=
    hi ▸ div_mul_le_self _ _
  have hs : saturatingAdd rangeStartupChunkBytes (min (index * size) u64Max) =
      rangeStartupChunkBytes + index * size := by
    unfold saturatingAdd
    omega
  unfold logicalRangeParentWithIndex
  rw [if_neg (by omega)]
  simp only [hfst, ← hsize, ← hi, hs]
  rw [if_neg (by omega), min_saturatingAdd hmax]

/-- Every offset of a resource has a parent, which is also the parent of each of its offsets. -/
theorem logicalParent_spec (hmax : total ≤ u64Max) (hoff : offset < total) :
    ∃ index parent, logicalRangeParentWithIndex total offset = some (index, parent) ∧
      parent.start ≤ offset ∧ offset < parent.stop ∧ parent.stop ≤ total ∧
      ∀ other, parent.start ≤ other → other < parent.stop →
        logicalRangeParentWithIndex total other = some (index, parent) := by
  by_cases hfst : offset < min total rangeStartupChunkBytes
  · exact ⟨0, _, logicalParent_first hfst, Nat.zero_le _, hfst, Nat.min_le_left _ _,
      fun other _ ho => logicalParent_first ho⟩
  · have hl : rangeStartupChunkBytes ≤ offset := by omega
    have hsize := logicalParentSize_pos (total - rangeStartupChunkBytes)
    generalize hname : logicalParentSize (total - rangeStartupChunkBytes) = size at hsize
    have hpast := Nat.div_mul_le_self (offset - rangeStartupChunkBytes) size
    have hb := Nat.lt_div_mul_add hsize (a := offset - rangeStartupChunkBytes)
    refine ⟨_, _, logicalParent_later hmax hoff hl hname.symm rfl, by dsimp only; omega,
      Nat.lt_min.mpr ⟨by omega, hoff⟩, Nat.min_le_right _ _, fun other hs hstop => ?_⟩
    generalize (offset - rangeStartupChunkBytes) / size = index at *
    dsimp only at hs hstop
    refine logicalParent_later hmax (by omega) (by omega) hname.symm ?_
    exact (Nat.div_eq_of_lt_le (by omega) (by rw [Nat.succ_mul]; omega)).symm

/-- The planned chunks of a resource that can be resumed are a partition of it, and the logical
parent of an offset is the planned chunk that contains it. -/
theorem plannedRangeChunks_partition {total : Nat} (hpos : 1 ≤ total) (hmax : total ≤ rangeMaxSize) :
    Contiguous 0 total (plannedRangeChunks total) ∧
      (plannedRangeChunks total).length ≤ rangeMaxChunks ∧
      ∀ offset < total, ∃ index chunk,
        logicalRangeParentWithIndex total offset = some (index, chunk) ∧
        (plannedRangeChunks total)[index]? = some chunk ∧ chunk.start ≤ offset ∧
        offset < chunk.stop := by
  have hbound : total ≤ u64Max := Nat.le_trans hmax (by decide)
  have hstartup : 0 < rangeStartupChunkBytes := by decide
  unfold plannedRangeChunks
  rw [if_neg (by omega)]
  by_cases hsmall : total ≤ rangeStartupChunkBytes
  · have hfirst : min total rangeStartupChunkBytes = total := by omega
    simp only [hfirst, if_true]
    refine ⟨⟨rfl, hpos, rfl⟩, Nat.le_of_ble_eq_true rfl, fun offset hoff => ⟨0, ⟨0, total⟩, ?_, rfl,
      Nat.zero_le _, hoff⟩⟩
    rw [logicalParent_first (by omega), hfirst]
  · have hfirst : min total rangeStartupChunkBytes = rangeStartupChunkBytes := by omega
    simp only [hfirst]
    rw [if_neg (by omega)]
    have hsize := logicalParentSize_pos (total - rangeStartupChunkBytes)
    have hcount := @le_mul_logicalParentSize (total - rangeStartupChunkBytes)
      (by unfold rangeMaxSize at hmax; omega)
    generalize hname : logicalParentSize (total - rangeStartupChunkBytes) = size at hsize hcount ⊢
    refine ⟨⟨rfl, hstartup, chunksFrom_contiguous hsize hbound (Nat.le_of_not_le hsmall) (Nat.sub_le _ _)⟩, ?_,
      fun offset hoff => ?_⟩
    · have hend : (chunksFrom total size total rangeStartupChunkBytes)[rangeMaxChunks - 1]? = none := by
        rw [chunksFrom_getElem? hsize hbound (by omega), if_neg (by omega)]
      rw [List.getElem?_eq_none_iff] at hend
      rw [length_cons]
      have : 1 ≤ rangeMaxChunks := by decide
      omega
    · by_cases hin : offset < rangeStartupChunkBytes
      · exact ⟨0, ⟨0, rangeStartupChunkBytes⟩, by rw [logicalParent_first (by omega), hfirst], rfl,
          Nat.zero_le _, hin⟩
      · have hpast := Nat.div_mul_le_self (offset - rangeStartupChunkBytes) size
        have hbefore := Nat.lt_div_mul_add hsize (a := offset - rangeStartupChunkBytes)
        refine ⟨_, _, logicalParent_later hbound hoff (by omega) hname.symm rfl, ?_,
          by dsimp only; omega, Nat.lt_min.mpr ⟨by omega, hoff⟩⟩
        rw [getElem?_cons_succ, chunksFrom_getElem? hsize hbound (by omega), if_pos (by omega)]

theorem plannedRangeChunks_partition_mebibyte :
    Contiguous 0 1048576 (plannedRangeChunks 1048576) ∧
      (plannedRangeChunks 1048576).length ≤ rangeMaxChunks ∧
      ∀ offset < 1048576, ∃ index chunk,
        logicalRangeParentWithIndex 1048576 offset = some (index, chunk) ∧
        (plannedRangeChunks 1048576)[index]? = some chunk ∧ chunk.start ≤ offset ∧
        offset < chunk.stop :=
  plannedRangeChunks_partition (by decide) (by decide)

end NetPlayer.RangeCache
