import Mathlib.Data.List.TakeDrop
import Mathlib.Data.List.GetD

/-!
# Slices of a growing sequence

Reading and writing parts of a sequence the way a file is read and written: a
write past the end fills the hole in between.
-/

namespace Slices

open List

variable {α : Type}

/-- The elements from `lower` up to, not including, `upper`. -/
def slice (data : List α) (lower upper : Nat) : List α :=
  (data.drop lower).take (upper - lower)

/-- Writes `items` at `lower`. A hole that this leaves is filled with `hole`; an empty
write leaves the sequence as it is. -/
def overwrite (hole : α) (data : List α) (lower : Nat) (items : List α) : List α :=
  if items = [] then data
  else
    (data ++ List.replicate (lower - data.length) hole).take lower ++ items ++
      data.drop (lower + items.length)

theorem getElem?_slice (data : List α) (lower upper i : Nat) :
    (slice data lower upper)[i]? = if i < upper - lower then data[lower + i]? else none := by
  unfold slice
  rw [List.getElem?_take, List.getElem?_drop]

variable {data : List α} {lower upper : Nat}

theorem length_slice (h : upper ≤ data.length) :
    (slice data lower upper).length = upper - lower := by
  unfold slice
  rw [length_take, length_drop]
  omega

theorem slice_congr {data' : List α} (h : ∀ i, lower ≤ i → i < upper → data[i]? = data'[i]?) :
    slice data lower upper = slice data' lower upper := by
  apply ext_getElem?
  intro i
  rw [getElem?_slice, getElem?_slice]
  split
  · exact h _ (by omega) (by omega)
  · rfl

theorem slice_append {mid : Nat} (hlower : lower ≤ mid) (hupper : mid ≤ upper)
    (hmid : mid ≤ data.length) :
    slice data lower mid ++ slice data mid upper = slice data lower upper := by
  apply ext_getElem?
  intro i
  have hlen := @length_slice _ _ lower _ hmid
  rw [List.getElem?_append, getElem?_slice, getElem?_slice, getElem?_slice, hlen]
  split
  · rw [if_pos (show i < upper - lower by omega)]
  have hi : mid + (i - (mid - lower)) = lower + i := by omega
  rw [hi]
  by_cases hin : i < upper - lower
  · rw [if_pos hin, if_pos (by omega)]
  · rw [if_neg hin, if_neg (by omega)]

variable {hole : α} {items : List α} {i : Nat}

theorem getElem?_overwrite_of_mem (hlower : lower ≤ i) (hupper : i < lower + items.length) :
    (overwrite hole data lower items)[i]? = items[i - lower]? := by
  have hitems : items ≠ [] := by
    rintro rfl
    simp at hupper
    omega
  have hfront : ((data ++ List.replicate (lower - data.length) hole).take lower).length = lower := by
    rw [length_take, length_append, length_replicate]
    omega
  unfold overwrite
  rw [if_neg hitems, List.getElem?_append_left (by rw [length_append, hfront]; omega),
    List.getElem?_append_right (by omega), hfront]

theorem getElem?_overwrite_of_lt (hi : i < lower) (hdata : i < data.length) :
    (overwrite hole data lower items)[i]? = data[i]? := by
  unfold overwrite
  split
  · rfl
  · rw [append_assoc, List.getElem?_append_left
        (by rw [length_take, length_append, length_replicate]; omega),
      List.getElem?_take, if_pos hi, List.getElem?_append_left hdata]

theorem getElem?_overwrite_of_ge (hi : lower + items.length ≤ i) :
    (overwrite hole data lower items)[i]? = data[i]? := by
  have hfront : ((data ++ List.replicate (lower - data.length) hole).take lower).length = lower := by
    rw [length_take, length_append, length_replicate]
    omega
  unfold overwrite
  split
  · rfl
  rw [List.getElem?_append_right (by rw [length_append, hfront]; omega),
    length_append, hfront, List.getElem?_drop]
  congr 1
  omega

theorem length_le_overwrite (hole : α) (data : List α) (lower : Nat) (items : List α) :
    data.length ≤ (overwrite hole data lower items).length := by
  unfold overwrite
  split
  · exact Nat.le_refl _
  · simp only [length_append, length_take, length_replicate, length_drop]
    omega

theorem le_length_overwrite (h : items ≠ []) :
    lower + items.length ≤ (overwrite hole data lower items).length := by
  unfold overwrite
  rw [if_neg h]
  simp only [length_append, length_take, length_replicate, length_drop]
  omega

theorem getElem?_overwrite_of_outside (houtside : i < lower ∨ lower + items.length ≤ i)
    (hdata : i < data.length) : (overwrite hole data lower items)[i]? = data[i]? := by
  rcases houtside with h | h
  · exact getElem?_overwrite_of_lt h hdata
  · exact getElem?_overwrite_of_ge h

theorem slice_overwrite (h : items.length = upper - lower) :
    slice (overwrite hole data lower items) lower upper = items := by
  apply ext_getElem?
  intro i
  rw [getElem?_slice]
  split
  · rw [getElem?_overwrite_of_mem (by omega) (by omega)]
    congr 1
    omega
  · rw [List.getElem?_eq_none (by omega)]

end Slices
