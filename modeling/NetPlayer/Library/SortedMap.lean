import Mathlib.Data.List.Basic
import Mathlib.Order.Lattice

/-!
# Maps in the order of their keys

A map is the list of its entries, in strictly increasing order of the keys, so
its iteration order is part of it. An entry is found, updated and filtered out by
its key.
-/

namespace SortedMap

def Increasing {κ ν : Type*} [LT κ] (entries : List (κ × ν)) : Prop :=
  entries.Pairwise fun a b => a.1 < b.1

end SortedMap

structure SortedMap (κ ν : Type*) [LinearOrder κ] where
  entries : List (κ × ν)
  increasing : SortedMap.Increasing entries

namespace SortedMap

variable {κ ν : Type*} [LinearOrder κ]

instance [DecidableEq ν] : DecidableEq (SortedMap κ ν) := fun a b =>
  decidable_of_iff (a.entries = b.entries) ⟨fun h => by cases a; cases b; cases h; rfl,
    fun h => h ▸ rfl⟩

theorem ext_entries {a b : SortedMap κ ν} (h : a.entries = b.entries) : a = b := by
  cases a
  cases b
  cases h
  rfl

def empty : SortedMap κ ν := ⟨[], List.Pairwise.nil⟩

def size (m : SortedMap κ ν) : Nat := m.entries.length

def lookup (m : SortedMap κ ν) (key : κ) : Option ν :=
  (m.entries.find? fun entry => entry.1 = key).map Prod.snd

/-- The entries with the one of `key` updated, or added if there is none. -/
def upsertFrom (key : κ) (update : Option ν → ν) : List (κ × ν) → List (κ × ν)
  | [] => [(key, update none)]
  | entry :: rest =>
    if key < entry.1 then (key, update none) :: entry :: rest
    else if key = entry.1 then (key, update (some entry.2)) :: rest
    else entry :: upsertFrom key update rest

variable {key : κ} {update : Option ν → ν} {entries : List (κ × ν)}

theorem mem_upsertFrom {entry : κ × ν} (h : entry ∈ upsertFrom key update entries) :
    entry.1 = key ∨ entry ∈ entries := by
  induction entries with
  | nil =>
    rw [upsertFrom, List.mem_singleton] at h
    exact .inl (h ▸ rfl)
  | cons first rest ih =>
    unfold upsertFrom at h
    split at h
    · rcases List.mem_cons.mp h with rfl | hr
      · exact .inl rfl
      · exact .inr hr
    · split at h
      · rcases List.mem_cons.mp h with rfl | hr
        · exact .inl rfl
        · exact .inr (List.mem_cons_of_mem _ hr)
      · rcases List.mem_cons.mp h with rfl | hr
        · exact .inr List.mem_cons_self
        · rcases ih hr with hk | hm
          · exact .inl hk
          · exact .inr (List.mem_cons_of_mem _ hm)

theorem increasing_upsertFrom (h : Increasing entries) :
    Increasing (upsertFrom key update entries) := by
  induction entries with
  | nil => exact List.pairwise_singleton _ _
  | cons first rest ih =>
    have hfst := List.pairwise_cons.mp h
    unfold upsertFrom
    split
    · next hlt =>
        apply List.pairwise_cons.mpr
        refine ⟨fun other hm => ?_, h⟩
        rcases List.mem_cons.mp hm with rfl | hr
        · exact hlt
        · exact hlt.trans (hfst.1 other hr)
    · next hnot =>
        split
        · next heq =>
            apply List.pairwise_cons.mpr
            refine ⟨fun other hm => ?_, hfst.2⟩
            exact heq ▸ hfst.1 other hm
        · next hne =>
            apply List.pairwise_cons.mpr
            refine ⟨fun other hm => ?_, ih hfst.2⟩
            rcases mem_upsertFrom hm with hk | hr
            · rw [hk]
              exact lt_of_le_of_ne (not_lt.mp hnot) fun heq => hne heq.symm
            · exact hfst.1 other hr

def upsert (m : SortedMap κ ν) (key : κ) (update : Option ν → ν) : SortedMap κ ν :=
  ⟨upsertFrom key update m.entries, increasing_upsertFrom m.increasing⟩

def retain (m : SortedMap κ ν) (keep : κ → ν → Bool) : SortedMap κ ν :=
  ⟨m.entries.filter fun entry => keep entry.1 entry.2, m.increasing.filter _⟩

variable {m : SortedMap κ ν} {value : ν}

theorem value_unique {value' : ν} (h : (key, value) ∈ m.entries) (h' : (key, value') ∈ m.entries) :
    value = value' := by
  have hsorted := m.increasing
  revert h h' hsorted
  generalize m.entries = entries
  intro h h' hsorted
  induction entries with
  | nil => cases h
  | cons first rest ih =>
    have hfst := List.pairwise_cons.mp hsorted
    rcases List.mem_cons.mp h with rfl | hr
    · rcases List.mem_cons.mp h' with heq | hrest'
      · cases heq
        rfl
      · exact absurd (hfst.1 _ hrest') (lt_irrefl _)
    · rcases List.mem_cons.mp h' with rfl | hrest'
      · exact absurd (hfst.1 _ hr) (lt_irrefl _)
      · exact ih hr hrest' hfst.2

theorem lookup_eq_some : m.lookup key = some value ↔ (key, value) ∈ m.entries := by
  unfold lookup
  constructor
  · intro h
    obtain ⟨entry, hfind, hvalue⟩ := Option.map_eq_some_iff.mp h
    have hk := List.find?_some hfind
    have hm := List.mem_of_find?_eq_some hfind
    simp only [decide_eq_true_eq] at hk
    rw [← hk, ← hvalue]
    exact hm
  · intro h
    cases hfind : m.entries.find? (fun entry => entry.1 = key) with
    | none =>
      have hn := List.find?_eq_none.mp hfind (key, value) h
      simp at hn
    | some entry =>
      have hk := List.find?_some hfind
      have hm := List.mem_of_find?_eq_some hfind
      simp only [decide_eq_true_eq] at hk
      rw [Option.map_some, value_unique (hk ▸ hm : (key, entry.2) ∈ m.entries) h]

theorem upsertFrom_of_ne {other : κ} (hne : other ≠ key) :
    (other, value) ∈ upsertFrom key update entries ↔ (other, value) ∈ entries := by
  induction entries with
  | nil => simp [upsertFrom, hne]
  | cons first rest ih =>
    unfold upsertFrom
    split
    · simp [hne]
    split
    · next heq =>
        have ho : (other, value) ≠ first := fun h => hne (by rw [heq, ← h])
        simp [hne, ho]
    · simp [ih]

theorem upsertFrom_self (h : Increasing entries) :
    (key, update ((entries.find? fun entry => entry.1 = key).map
      Prod.snd)) ∈ upsertFrom key update entries := by
  induction entries with
  | nil => simp [upsertFrom]
  | cons first rest ih =>
    have hfst := List.pairwise_cons.mp h
    unfold upsertFrom
    split
    · next hlt =>
        have hn : (first :: rest).find? (fun entry => entry.1 = key) = none := by
          rw [List.find?_eq_none]
          intro entry hm
          have hk : key < entry.1 := by
            rcases List.mem_cons.mp hm with rfl | hr
            · exact hlt
            · exact hlt.trans (hfst.1 entry hr)
          simpa using ne_of_gt hk
        rw [hn]
        exact List.mem_cons_self
    · split
      · next heq => simp [heq]
      · next hne =>
          rw [List.find?_cons_of_neg (by simpa using fun h => hne h.symm)]
          exact List.mem_cons_of_mem _ (ih hfst.2)

theorem lookup_upsert_self : (m.upsert key update).lookup key = some (update (m.lookup key)) := by
  rw [lookup_eq_some]
  exact upsertFrom_self m.increasing

variable {keep : κ → ν → Bool}

theorem mem_retain {entry : κ × ν} :
    entry ∈ (m.retain keep).entries ↔ entry ∈ m.entries ∧ keep entry.1 entry.2 = true :=
  List.mem_filter

theorem size_retain_le :
    (m.retain keep).size ≤ m.size := List.length_filter_le _ _

theorem nodup_entries (m : SortedMap κ ν) : m.entries.Nodup :=
  m.increasing.imp fun hlt heq => absurd (heq ▸ hlt) (lt_irrefl _)

theorem nodup_keys (m : SortedMap κ ν) : (m.entries.map Prod.fst).Nodup := by
  rw [List.nodup_iff_pairwise_ne, List.pairwise_map]
  exact m.increasing.imp fun hlt => ne_of_lt hlt

theorem retain_eq_self (h : ∀ entry ∈ m.entries, keep entry.1 entry.2 = true) : m.retain keep = m :=
  ext_entries (List.filter_eq_self.mpr h)

theorem retain_retain_eq_iff {first second : κ → ν → Bool} :
    (m.retain first).retain second = m.retain second ↔
      ∀ entry ∈ (m.retain second).entries, first entry.1 entry.2 = true := by
  constructor
  · intro h entry he
    rw [← h] at he
    exact (mem_retain.mp (mem_retain.mp he).1).2
  · intro h
    apply ext_entries
    exact (List.filter_comm _ _ _).trans (List.filter_eq_self.mpr h)

end SortedMap
