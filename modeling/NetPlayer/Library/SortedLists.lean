import Mathlib.Data.List.Sort

/-!
# Places in a sorted list

How many elements stand before and after one of a sorted list, and which of two
elements stands first.
-/

namespace SortedLists

open List

variable {α : Type*} {r : α → α → Prop} [DecidableRel r] {l : List α} {count : Nat}

theorem take_drop_insertionSort [IsTrans α r] [Std.Total r] {x y : α} (hnodup : l.Nodup)
    (hx : x ∈ (l.insertionSort r).take count) (hy : y ∈ (l.insertionSort r).drop count) :
    r x y ∧ x ≠ y := by
  have hsorted := pairwise_insertionSort r l
  have hdist := (perm_insertionSort r l).nodup_iff.mpr hnodup
  rw [← take_append_drop count (l.insertionSort r)] at hsorted hdist
  refine ⟨(pairwise_append.mp hsorted).2.2 x hx y hy, fun heq => ?_⟩
  exact disjoint_of_nodup_append hdist hx (heq ▸ hy)

/-- The first `count` elements are all related to one that comes later. -/
theorem count_le_of_mem_drop [IsTrans α r] [Std.Total r] [DecidableEq α] {x : α} (hnodup : l.Nodup)
    (h : x ∈ (l.insertionSort r).drop count) :
    count ≤ (l.filter fun y => r y x ∧ y ≠ x).length := by
  have hperm := perm_insertionSort r l
  have hsub : (l.insertionSort r).take count ⊆ l.filter fun y => r y x ∧ y ≠ x := by
    intro y hy
    have hm : y ∈ l := hperm.mem_iff.mp (mem_of_mem_take hy)
    exact mem_filter.mpr ⟨hm, by simpa using take_drop_insertionSort hnodup hy h⟩
  have hdist := (hperm.nodup_iff.mpr hnodup).sublist (take_sublist count _)
  have hlen := (subperm_of_subset hdist hsub).length_le
  have hlong : count < (l.insertionSort r).length := by
    by_contra hshort
    rw [drop_eq_nil_of_le (by omega)] at h
    cases h
  rw [length_take] at hlen
  omega

/-- An element of the first `count` is related to all that come later. -/
theorem count_le_of_mem_take [IsTrans α r] [Std.Total r] [DecidableEq α] {x : α} (hnodup : l.Nodup)
    (h : x ∈ (l.insertionSort r).take count) :
    l.length - count ≤ (l.filter fun y => r x y ∧ y ≠ x).length := by
  have hperm := perm_insertionSort r l
  have hsub : (l.insertionSort r).drop count ⊆ l.filter fun y => r x y ∧ y ≠ x := by
    intro y hy
    have hm : y ∈ l := hperm.mem_iff.mp (mem_of_mem_drop hy)
    obtain ⟨hrelated, hne⟩ := take_drop_insertionSort hnodup h hy
    exact mem_filter.mpr ⟨hm, by simpa using ⟨hrelated, hne.symm⟩⟩
  have hdist := (hperm.nodup_iff.mpr hnodup).sublist (drop_sublist count _)
  have hlen := (subperm_of_subset hdist hsub).length_le
  rw [length_drop, hperm.length_eq] at hlen
  exact hlen

theorem length_filter_keys_le {κ : Type*} [DecidableEq κ] {l front back : List α} {key : α → κ}
    (hperm : (front ++ back).Perm l) (hnodup : l.Nodup) :
    (l.filter fun x => decide (key x ∉ front.map key)).length ≤ back.length := by
  apply List.Subperm.length_le
  apply subperm_of_subset (hnodup.filter _)
  intro x hx
  obtain ⟨hm, hk⟩ := mem_filter.mp hx
  rcases mem_append.mp (hperm.mem_iff.mpr hm) with hfront | hback
  · exact absurd (mem_map_of_mem hfront) (of_decide_eq_true hk)
  · exact hback

theorem pairwise_insertionSort_of_coarser {s : α → α → Prop} [IsTrans α s]
    (hof : ∀ a b, r a b → s a b) (hnot : ∀ a b, ¬ r a b → s b a) (l : List α) :
    (l.insertionSort r).Pairwise s := by
  have horderedInsert (a : α) (l : List α) (hl : l.Pairwise s) :
      (l.orderedInsert r a).Pairwise s := by
    induction l with
    | nil => exact pairwise_singleton _ _
    | cons b rest ih =>
      have hb := pairwise_cons.mp hl
      by_cases hab : r a b
      · rw [orderedInsert_cons_of_le r rest hab, pairwise_cons]
        refine ⟨fun c hc => ?_, hl⟩
        rcases mem_cons.mp hc with rfl | hr
        · exact hof _ _ hab
        · exact IsTrans.trans _ _ _ (hof _ _ hab) (hb.1 c hr)
      · rw [orderedInsert_cons, if_neg hab, pairwise_cons]
        refine ⟨fun c hc => ?_, ih hb.2⟩
        rcases (mem_orderedInsert r).mp hc with rfl | hr
        · exact hnot _ _ hab
        · exact hb.1 c hr
  induction l with
  | nil => exact List.Pairwise.nil
  | cons a rest ih => exact horderedInsert a _ ih

theorem pair_sublist {s : α → α → Prop} {a b : α} (hsorted : l.Pairwise s) (ha : a ∈ l) (hb : b ∈ l)
    (hne : a ≠ b) (hnot : ¬ s b a) : [a, b].Sublist l := by
  obtain ⟨before, after, rfl⟩ := append_of_mem ha
  rcases mem_append.mp hb with hbef | haft
  · have hrelated := (pairwise_append.mp hsorted).2.2 b hbef a mem_cons_self
    exact absurd hrelated hnot
  have hb : b ∈ after := by
    rcases mem_cons.mp haft with heq | hm
    · exact absurd heq.symm hne
    · exact hm
  exact ((singleton_sublist.mpr hb).cons_cons a).trans (sublist_append_right _ _)

end SortedLists
