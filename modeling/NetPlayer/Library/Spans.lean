import Mathlib.Algebra.Ring.Nat
import Mathlib.Data.List.Sort
import Mathlib.Order.Interval.Finset.Nat
import Mathlib.Algebra.BigOperators.Group.List.Basic

/-!
# Lists of spans

A span is a half-open interval of naturals carried by some larger record. This
file relates lists of spans to the sets they cover: spans in order, contiguous
runs of spans, and what is left of a window between the spans.
-/

/-- A record with a half-open interval. -/
class Span (α : Type) where
  start : α → Nat
  stop : α → Nat

namespace Spans

open Finset

open Span

variable {α β : Type} [Span α] [Span β]

def covered : List α → Finset Nat
  | [] => ∅
  | span :: rest => Finset.Ico (start span) (stop span) ∪ covered rest

/-- The spans are non-empty, follow one another and begin no sooner than `lower`. -/
def Ordered (lower : Nat) : List α → Prop
  | [] => True
  | span :: rest => lower ≤ start span ∧ start span < stop span ∧ Ordered (stop span) rest

/-- Each span begins where the one before it stops; together they run from `lower`
to `upper`. -/
def Contiguous (lower upper : Nat) : List α → Prop
  | [] => lower = upper
  | span :: rest => start span = lower ∧ start span < stop span ∧ Contiguous (stop span) upper rest

@[simp] theorem covered_nil : covered ([] : List α) = ∅ := rfl

@[simp] theorem covered_cons (span : α) (rest : List α) :
    covered (span :: rest) = Finset.Ico (start span) (stop span) ∪ covered rest := rfl

variable {spans : List α}

variable {offset lower' runStart runStop : Nat}

theorem mem_covered :
    offset ∈ covered spans ↔ ∃ span ∈ spans, start span ≤ offset ∧ offset < stop span := by
  induction spans with
  | nil => simp
  | cons span rest ih => simp [ih]

theorem covered_append (left right : List α) :
    covered (left ++ right) = covered left ∪ covered right := by
  induction left with
  | nil => simp
  | cons span rest ih => simp [ih, union_assoc]

theorem covered_perm {left right : List α} (h : left.Perm right) :
    covered left = covered right := by
  ext offset
  simp [mem_covered, h.mem_iff]

variable {lower : Nat}

theorem Ordered.mono (h : Ordered lower spans) (hlower : lower' ≤ lower) :
    Ordered lower' spans := by
  cases spans with
  | nil => exact trivial
  | cons span rest => exact ⟨by have := h.1; omega, h.2⟩

theorem Ordered.mem (h : Ordered lower spans) {span : α} (hm : span ∈ spans) :
    lower ≤ start span ∧ start span < stop span := by
  induction spans generalizing lower with
  | nil => simp at hm
  | cons first rest ih =>
    obtain ⟨hlower, hfst, hr⟩ := h
    rcases List.mem_cons.mp hm with rfl | hm
    · exact ⟨hlower, hfst⟩
    · have := ih hr hm
      omega

theorem Ordered.covered_lower (h : Ordered lower spans)
    (hoff : offset ∈ covered spans) : lower ≤ offset := by
  obtain ⟨span, hm, hs, _⟩ := mem_covered.mp hoff
  have := (h.mem hm).1
  omega

theorem ordered_append {left right : List α} :
    Ordered lower (left ++ right) ↔
      Ordered lower left ∧ Ordered lower right ∧
        ∀ before ∈ left, ∀ after ∈ right, stop before ≤ start after := by
  induction left generalizing lower with
  | nil => simp [Ordered]
  | cons span rest ih =>
    simp only [List.cons_append, Ordered, ih, List.mem_cons, forall_eq_or_imp]
    constructor
    · rintro ⟨hlower, hspan, hr, hright, hcross⟩
      exact ⟨⟨hlower, hspan, hr⟩, hright.mono (by omega),
        fun after ha => (hright.mem ha).1, hcross⟩
    · rintro ⟨⟨hlower, hspan, hr⟩, hright, hfst, hcross⟩
      refine ⟨hlower, hspan, hr, ?_, hcross⟩
      cases right with
      | nil => exact trivial
      | cons next tail => exact ⟨hfst next (by simp), hright.2⟩

theorem Ordered.pairwise (h : Ordered lower spans) :
    spans.Pairwise fun a b => stop a ≤ start b := by
  induction spans generalizing lower with
  | nil => exact List.Pairwise.nil
  | cons span rest ih =>
    exact List.pairwise_cons.mpr ⟨fun next hn => (h.2.2.mem hn).1, ih h.2.2⟩

theorem Ordered.card_covered (h : Ordered lower spans) :
    (covered spans).card = (spans.map fun span => stop span - start span).sum := by
  induction spans generalizing lower with
  | nil => simp
  | cons span rest ih =>
    obtain ⟨_, _, hr⟩ := h
    have hdisj : Disjoint (Finset.Ico (start span) (stop span)) (covered rest) := by
      rw [disjoint_left]
      intro offset hspan hcov
      have := hr.covered_lower hcov
      have := (mem_Ico.mp hspan).2
      omega
    rw [covered_cons, card_union_of_disjoint hdisj, ih hr]
    simp

variable {upper : Nat}

theorem Ordered.covered_subset (h : Ordered lower spans)
    (hupper : ∀ span ∈ spans, stop span ≤ upper) : covered spans ⊆ Finset.Ico lower upper := by
  intro offset hoff
  obtain ⟨span, hm, _, hstop⟩ := mem_covered.mp hoff
  have := h.covered_lower hoff
  have := hupper span hm
  simp only [mem_Ico]
  omega

theorem ordered_of_sorted (hsorted : spans.Pairwise fun a b => start a ≤ start b)
    (hne : ∀ span ∈ spans, start span < stop span)
    (hdisj : spans.Pairwise fun a b => stop a ≤ start b ∨ stop b ≤ start a) :
    Ordered 0 spans := by
  suffices h : ∀ lower, (∀ span ∈ spans, lower ≤ start span) → Ordered lower spans from
    h 0 fun _ _ => Nat.zero_le _
  induction spans with
  | nil => exact fun _ _ => trivial
  | cons span rest ih =>
    intro lower hlower
    rw [List.pairwise_cons] at hsorted hdisj
    have hspan := hne span (by simp)
    refine ⟨hlower span (by simp), hspan, ?_⟩
    refine ih hsorted.2 (fun s hs => hne s (by simp [hs])) hdisj.2 _ fun next hn => ?_
    have := hsorted.1 next hn
    have := hne next (by simp [hn])
    rcases hdisj.1 next hn with h | h <;> omega

section

variable (h : Contiguous lower upper spans)
include h

theorem Contiguous.ordered : Ordered lower spans := by
  induction spans generalizing lower with
  | nil => exact trivial
  | cons span rest ih => exact ⟨h.1.ge, h.2.1, ih h.2.2⟩

theorem Contiguous.le : lower ≤ upper := by
  induction spans generalizing lower with
  | nil => exact Nat.le_of_eq h
  | cons span rest ih =>
    have := ih h.2.2
    have := h.2.1
    have := h.1
    omega

theorem Contiguous.stop_le {span : α} (hm : span ∈ spans) :
    stop span ≤ upper := by
  induction spans generalizing lower with
  | nil => simp at hm
  | cons first rest ih =>
    rcases List.mem_cons.mp hm with rfl | hm
    · exact h.2.2.le
    · exact ih h.2.2 hm

theorem Contiguous.covered :
    covered spans = Finset.Ico lower upper := by
  induction spans generalizing lower with
  | nil =>
    have : lower = upper := h
    simp [this]
  | cons span rest ih =>
    rw [covered_cons, ih h.2.2, h.1]
    have := h.1
    have := h.2.1
    exact Finset.Ico_union_Ico_eq_Ico (by omega) h.2.2.le

theorem Contiguous.exists_first (hne : spans ≠ []) :
    ∃ first ∈ spans, start first = lower := by
  cases spans with
  | nil => exact absurd rfl hne
  | cons span rest => exact ⟨span, by simp, h.1⟩

theorem Contiguous.exists_last (hne : spans ≠ []) :
    ∃ last ∈ spans, stop last = upper := by
  induction spans generalizing lower with
  | nil => exact absurd rfl hne
  | cons span rest ih =>
    cases rest with
    | nil => exact ⟨span, by simp, h.2.2⟩
    | cons next rest =>
      obtain ⟨last, hm, hl⟩ := ih h.2.2 (by simp)
      exact ⟨last, List.mem_cons_of_mem _ hm, hl⟩

end

variable {before run after : List α}

theorem Ordered.outside_run (h : Ordered lower (before ++ run ++ after))
    (hrun : Contiguous runStart runStop run) (hne : run ≠ []) :
    (∀ span ∈ before, stop span ≤ runStart) ∧ ∀ span ∈ after, runStop ≤ start span := by
  rw [ordered_append, ordered_append] at h
  obtain ⟨⟨_, _, hb⟩, _, ha⟩ := h
  constructor
  · intro span hm
    obtain ⟨first, hfst, hs⟩ := hrun.exists_first hne
    have := hb span hm first hfst
    omega
  · intro span hm
    obtain ⟨last, hl, hstop⟩ := hrun.exists_last hne
    have := ha last (List.mem_append_right _ hl) span hm
    omega

theorem Ordered.replace_run {merged : α} (h : Ordered lower (before ++ run ++ after))
    (hrun : Contiguous (start merged) (stop merged) run) (hne : run ≠ []) :
    Ordered lower (before ++ [merged] ++ after) := by
  obtain ⟨hbeforeRun, hrunAfter⟩ := h.outside_run hrun hne
  rw [ordered_append, ordered_append] at h ⊢
  obtain ⟨⟨hb, hrunOrdered, _⟩, ha, hcross⟩ := h
  obtain ⟨first, hfst, hs⟩ := hrun.exists_first hne
  obtain ⟨last, hl, hstop⟩ := hrun.exists_last hne
  have hlower := hrunOrdered.mem hfst
  have hupper := hrun.stop_le hfst
  refine ⟨⟨hb, ⟨by omega, by omega, trivial⟩, ?_⟩, ha, ?_⟩
  · intro span hm other ho
    rw [List.mem_singleton.mp ho]
    exact hbeforeRun span hm
  · intro span hm other ho
    rcases List.mem_append.mp hm with hm | hm
    · exact hcross span (by simp [hm]) other ho
    · rw [List.mem_singleton.mp hm]
      exact hrunAfter other ho

theorem covered_replace_run {merged : α} (hrun : Contiguous (start merged) (stop merged) run) :
    covered (before ++ [merged] ++ after) = covered (before ++ run ++ after) := by
  simp only [covered_append, hrun.covered, covered_cons, covered_nil, union_empty]

end Spans
