import Mathlib.Data.Finset.Card
import Mathlib.Order.Interval.Finset.Nat

/-!
# Ranges by index and ranges by position

A sequence of items with an index each. A range between two items can mean the items whose
index lies between theirs, or those whose position does. For ranges of a limited width the two
readings agree on every prefix of the sequence exactly if the indices ascend wherever they are
close.
-/

namespace IndexedRanges

open Finset Nat

variable {limit count : Nat} {index : Nat → Nat}

/-- The two indices span fewer than `limit` values. -/
def Near (limit first second : Nat) : Prop := max first second - min first second < limit

def AscendsNearby (limit : Nat) (index : Nat → Nat) (count : Nat) : Prop :=
  ∀ i j, i < j → j < count → Near limit (index i) (index j) →
    ∀ k, i ≤ k → k < j → index k < index (k + 1)

/-- The positions below `n` whose index lies in a range. -/
def positionsWithin (index : Nat → Nat) (n low high : Nat) : Finset Nat :=
  (Finset.range n).filter fun k => low ≤ index k ∧ index k ≤ high

/-- The positions `first` to `last`, which stand for the indices `low` to `high`, are the ones
in that range; they are in order and within the limit, if the range is. -/
structure RangeAgrees (limit : Nat) (index : Nat → Nat) (n low high first last : Nat) : Prop where
  same : first ≤ last → last - first < limit →
    Finset.Icc first last = positionsWithin index n low high
  ordered : (positionsWithin index n low high).card ≤ limit → first ≤ last ∧ last - first < limit

variable {n low high k first second i j l last : Nat}

theorem mem_positionsWithin :
    k ∈ positionsWithin index n low high ↔ k < n ∧ low ≤ index k ∧ index k ≤ high := by
  simp [positionsWithin]

variable (h : AscendsNearby limit index count)

include h in
theorem AscendsNearby.mono (hle : n ≤ count) : AscendsNearby limit index n :=
  fun i j hij hj => h i j hij (hj.trans_le hle)

theorem Near.symm (h : Near limit first second) : Near limit second first := by
  unfold Near at *
  omega

include h

theorem AscendsNearby.lt (hij : i < j) (hj : j < count)
    (hnear : Near limit (index i) (index j)) (hik : i ≤ k) (hkl : k < l) (hlj : l ≤ j) :
    index k < index l := by
  induction l with
  | zero => omega
  | succ l ih =>
    have hst : index l < index (l + 1) := h i j hij hj hnear l (by omega) (by omega)
    by_cases hl : k = l
    · rw [hl]
      exact hst
    · exact (ih (by omega) (by omega)).trans hst

theorem AscendsNearby.lt_of_index_lt (hi : i < count)
    (hnear : Near limit (index i) (index j)) (hindex : index i < index j) : i < j := by
  by_contra hle
  rcases Nat.lt_or_eq_of_le (Nat.le_of_not_lt hle) with hlt | rfl
  · have := h.lt hlt hi hnear.symm le_rfl hlt le_rfl
    omega
  · omega

theorem AscendsNearby.inj (hi : i < count) (hj : j < count) (hlimit : 0 < limit)
    (hindex : index i = index j) : i = j := by
  have hnear : Near limit (index i) (index j) := by
    unfold Near
    omega
  by_contra hne
  rcases Nat.lt_or_gt_of_ne hne with hlt | hlt
  · have := h.lt hlt hj hnear le_rfl hlt le_rfl
    omega
  · have := h.lt hlt hi hnear.symm le_rfl hlt le_rfl
    omega

omit h

theorem card_positionsWithin_le
    (hinj : ∀ i < n, ∀ j < n, low ≤ index i → index i ≤ high → index i = index j → i = j) :
    (positionsWithin index n low high).card ≤ high + 1 - low := by
  rw [← card_Icc]
  apply card_le_card_of_injOn index
  · intro k hk
    have := mem_positionsWithin.mp hk
    exact mem_coe.mpr (mem_Icc.mpr this.2)
  · intro i hi j hj hindex
    have hi := mem_positionsWithin.mp hi
    have hj := mem_positionsWithin.mp hj
    exact hinj i hi.1 j hj.1 hi.2.1 hi.2.2 hindex

theorem AscendsNearby.rangeAgrees (h : AscendsNearby limit index n)
    (hfst : first < n) (hlast : last < n) (hle : index first ≤ index last)
    (hnear : Near limit (index first) (index last)) :
    RangeAgrees limit index n (index first) (index last) first last := by
  have hlimit : 0 < limit := by
    unfold Near at hnear
    omega
  have hord : first ≤ last := by
    rcases Nat.lt_or_eq_of_le hle with hlt | heq
    · exact (h.lt_of_index_lt hfst hnear hlt).le
    · exact (h.inj hfst hlast hlimit heq).le
  constructor
  · intro _ _
    ext k
    rw [mem_Icc, mem_positionsWithin]
    constructor
    · rintro ⟨hfk, hkl⟩
      refine ⟨by omega, ?_, ?_⟩
      · rcases Nat.lt_or_eq_of_le hfk with hlt | rfl
        · exact (h.lt (hlt.trans_le hkl) hlast hnear le_rfl hlt hkl).le
        · exact le_rfl
      · rcases Nat.lt_or_eq_of_le hkl with hlt | rfl
        · exact (h.lt (hfk.trans_lt hlt) hlast hnear hfk hlt le_rfl).le
        · exact le_rfl
    · rintro ⟨hk, hlow, hhigh⟩
      have hlower : Near limit (index k) (index first) := by
        unfold Near at *
        omega
      have hupper : Near limit (index k) (index last) := by
        unfold Near at *
        omega
      constructor
      · by_contra hlt
        have := h.lt (Nat.lt_of_not_le hlt) hfst hlower le_rfl (Nat.lt_of_not_le hlt) le_rfl
        omega
      · by_contra hlt
        have := h.lt (Nat.lt_of_not_le hlt) hk hupper.symm le_rfl (Nat.lt_of_not_le hlt) le_rfl
        omega
  · intro _
    refine ⟨hord, ?_⟩
    -- The stretch from first to last has no more positions than indices.
    have hstretch : ∀ l, first ≤ l → l ≤ last → l - first ≤ index l - index first := by
      intro l hl hll
      induction l with
      | zero => omega
      | succ l ih =>
        by_cases hs : first = l + 1
        · omega
        have hst : index l < index (l + 1) :=
          h first last (by omega) hlast hnear l (by omega) (by omega)
        have := ih (by omega) (by omega)
        have hbase : first = l ∨ first < l := by omega
        rcases hbase with rfl | hbase
        · omega
        · have := h.lt (by omega) hlast hnear le_rfl hbase (by omega)
          omega
    have := hstretch last hord le_rfl
    unfold Near at hnear
    omega

/-- How a pick of two positions is read: `chosen n value` is some position below `n` that has the
index `value`. -/
def PickAgrees (limit : Nat) (index : Nat → Nat) (chosen : Nat → Nat → Nat) (n a b : Nat) : Prop :=
  Near limit (index a) (index b) →
    RangeAgrees limit index n (min (index a) (index b)) (max (index a) (index b))
      (chosen n (min (index a) (index b))) (chosen n (max (index a) (index b)))

def Chooses (index : Nat → Nat) (chosen : Nat → Nat → Nat) (count : Nat) : Prop :=
  ∀ n ≤ count, ∀ k < n, chosen n (index k) < n ∧ index (chosen n (index k)) = index k

variable {chosen : Nat → Nat → Nat}

theorem AscendsNearby.succ (hlimit : 0 < limit) (hchos : Chooses index chosen (j + 1))
    (h : AscendsNearby limit index j) (hagrees : ∀ i ≤ j, PickAgrees limit index chosen (j + 1) i j)
    : AscendsNearby limit index (j + 1) := by
  -- No earlier position has the index of the new one.
  have hn : ∀ i < j, index i ≠ index j := by
    intro i hi hindex
    have hagree := hagrees i hi.le (by unfold Near; omega)
    rw [hindex, min_self, max_self] at hagree
    have hchoice := (hchos (j + 1) le_rfl j (lt_succ_self j)).1
    have hs := hagree.same le_rfl (by omega)
    have hi' : i ∈ Finset.Icc (chosen (j + 1) (index j)) (chosen (j + 1) (index j)) := by
      rw [hs, mem_positionsWithin]
      omega
    have hj' : j ∈ Finset.Icc (chosen (j + 1) (index j)) (chosen (j + 1) (index j)) := by
      rw [hs, mem_positionsWithin]
      omega
    rw [mem_Icc] at hi' hj'
    omega
  have hinj : ∀ a < j + 1, ∀ b < j + 1, index a = index b → a = b := by
    intro a ha b hb hindex
    rcases Nat.lt_or_eq_of_le (le_of_lt_succ ha) with ha | rfl
    · rcases Nat.lt_or_eq_of_le (le_of_lt_succ hb) with hb | rfl
      · exact h.inj ha hb hlimit hindex
      · exact absurd hindex (hn a ha)
    · rcases Nat.lt_or_eq_of_le (le_of_lt_succ hb) with hb | rfl
      · exact absurd hindex.symm (hn b hb)
      · rfl
  have hchoice : ∀ k < j + 1, chosen (j + 1) (index k) = k := by
    intro k hk
    obtain ⟨hbelow, hindex⟩ := hchos (j + 1) le_rfl k hk
    exact hinj _ hbelow k hk hindex
  intro i l hil hl hnear k hik hkl
  rcases Nat.lt_or_eq_of_le (le_of_lt_succ hl) with hlj | rfl
  · exact h i l hil hlj hnear k hik hkl
  have hagree := hagrees i hil.le hnear
  have hcard : ∀ low high, high - low < limit →
      (positionsWithin index (l + 1) low high).card ≤ limit := by
    intro low high hwidth
    have := @card_positionsWithin_le index (l + 1) low high fun a ha b hb _ _ => hinj a ha b hb
    omega
  rcases Nat.lt_or_gt_of_ne (hn i hil) with hlt | hgt
  · rw [min_eq_left hlt.le, max_eq_right hlt.le, hchoice i (by omega),
      hchoice l (lt_succ_self l)] at hagree
    have hwidth : index l - index i < limit := by
      unfold Near at hnear
      omega
    have hs := hagree.same hil.le (hagree.ordered (hcard _ _ hwidth)).2
    have hbetween : ∀ k, i ≤ k → k ≤ l → index i ≤ index k ∧ index k ≤ index l := by
      intro k hik hkl
      have hm : k ∈ Finset.Icc i l := mem_Icc.mpr ⟨hik, hkl⟩
      rw [hs, mem_positionsWithin] at hm
      exact hm.2
    by_cases hend : k + 1 = l
    · have := hbetween k hik hkl.le
      have := hn k hkl
      rw [hend]
      omega
    · have hk := hbetween (k + 1) (by omega) (by omega)
      have hnear' : Near limit (index i) (index (k + 1)) := by
        unfold Near
        omega
      exact h i (k + 1) (by omega) (by omega) hnear' k hik (lt_succ_self k)
  · rw [min_eq_right hgt.le, max_eq_left hgt.le, hchoice i (by omega),
      hchoice l (lt_succ_self l)] at hagree
    have hwidth : index i - index l < limit := by
      unfold Near at hnear
      omega
    have := (hagree.ordered (hcard _ _ hwidth)).1
    omega

theorem pickAgrees_iff (hlimit : 0 < limit) (hchos : Chooses index chosen count) :
    (∀ n ≤ count, ∀ a < n, ∀ b < n, PickAgrees limit index chosen n a b) ↔
      AscendsNearby limit index count := by
  constructor
  · intro hagrees
    induction count with
    | zero => exact fun i j _ hj => absurd hj (Nat.not_lt_zero j)
    | succ j ih =>
      have hprefix := ih (fun n hn => hchos n (by omega)) fun n hn => hagrees n (by omega)
      exact hprefix.succ hlimit hchos fun i hi =>
        hagrees (j + 1) le_rfl i (by omega) j (lt_succ_self j)
  · intro hascends n hn a ha b hb hnear
    have hprefix := hascends.mono hn
    have hunique : ∀ k < n, chosen n (index k) = k := by
      intro k hk
      obtain ⟨hbelow, hindex⟩ := hchos n hn k hk
      exact hprefix.inj hbelow hk hlimit hindex
    rcases Nat.le_total (index a) (index b) with hle | hle
    · rw [min_eq_left hle, max_eq_right hle, hunique a ha, hunique b hb]
      exact hprefix.rangeAgrees ha hb hle hnear
    · rw [min_eq_right hle, max_eq_left hle, hunique a ha, hunique b hb]
      exact hprefix.rangeAgrees hb ha hle hnear.symm

end IndexedRanges
