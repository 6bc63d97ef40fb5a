import Mathlib.Algebra.BigOperators.Group.List.Basic
import Mathlib.Algebra.Order.Group.Nat
import Mathlib.Algebra.Ring.Nat
import Mathlib.Data.List.AList

/-!
# Stores of paged snapshots

A store keeps snapshots under keys, a list of the keys in an order of its own, and
cursors: a token that was given out for the next page of a snapshot names the snapshot
and the offset at which the page starts. The three are kept in step by the operations
below, whatever a snapshot is and whatever weights are summed over the live ones.
-/

namespace PagedSnapshots

open List AList

structure Cursor (Key : Type) where
  owner : Key
  offset : Nat
  deriving DecidableEq

structure Pages (Token : Type) where
  size : Nat
  tokens : Nat → Option Token

structure Shelf (Key Token Body : Type) where
  live : AList fun _ : Key => Body
  order : List Key
  cursors : Token → Option (Cursor Key)

variable {Key Token Body : Type} [DecidableEq Key]

def values (live : AList fun _ : Key => Body) : List Body := live.entries.map Sigma.snd

def total (weight : Body → Nat) (live : AList fun _ : Key => Body) : Nat :=
  ((values live).map weight).sum

section Maps

variable {live : AList fun _ : Key => Body} {key other : Key} {body old : Body}

theorem lookup_insert_ite :
    (live.insert key body).lookup other = if other = key then some body else live.lookup other := by
  by_cases h : other = key
  · rw [if_pos h, h]
    exact lookup_insert live
  · rw [if_neg h]
    exact lookup_insert_ne h

theorem lookup_erase_ite :
    (live.erase key).lookup other = if other = key then none else live.lookup other := by
  by_cases h : other = key
  · rw [if_pos h, h]
    exact lookup_erase key live
  · rw [if_neg h]
    exact lookup_erase_ne h

theorem values_insert : values (live.insert key body) = body :: values (live.erase key) := by
  rfl

theorem values_insert_of_notMem (h : key ∉ live) :
    values (live.insert key body) = body :: values live := by
  unfold values
  rw [entries_insert_of_notMem h]
  rfl

theorem values_erase (h : live.lookup key = some old) :
    (values live).Perm (old :: values (live.erase key)) := by
  have hkey : key ∈ live.entries.keys := lookup_isSome.mp (by simp [h])
  obtain ⟨found, front, back, -, hes, herased⟩ := exists_of_kerase hkey
  have hmem : found ∈ live.lookup key := by
    apply mem_lookup_iff.mpr
    rw [hes]
    simp
  obtain rfl : found = old := by
    rw [h] at hmem
    exact (Option.mem_some_iff.mp hmem).symm
  have herase : (live.erase key).entries = front ++ back := herased
  unfold values
  rw [hes, herase]
  simp only [map_append, map_cons]
  exact perm_middle

theorem mem_values : body ∈ values live ↔ ∃ key, live.lookup key = some body := by
  constructor
  · intro h
    obtain ⟨⟨key, found⟩, hmem, rfl⟩ := mem_map.mp h
    exact ⟨key, mem_lookup_iff.mpr hmem⟩
  · rintro ⟨key, h⟩
    exact mem_map.mpr ⟨⟨key, body⟩, mem_lookup_iff.mp h, rfl⟩

variable {weight : Body → Nat}

theorem total_erase (h : live.lookup key = some old) :
    total weight live = weight old + total weight (live.erase key) := by
  unfold total
  rw [((values_erase h).map weight).sum_eq]
  simp

theorem total_insert : total weight (live.insert key body) =
    weight body + total weight (live.erase key) := by
  simp [total, values_insert]

theorem total_insert_of_notMem (h : key ∉ live) :
    total weight (live.insert key body) = weight body + total weight live := by
  simp [total, values_insert_of_notMem h]

omit [DecidableEq Key] in
theorem total_one : total (fun _ => 1) live = live.entries.length := by
  simp only [total, values, List.map_map, Function.comp_def, List.map_const', List.sum_replicate]
  exact Nat.mul_one _

end Maps

namespace Shelf

variable [DecidableEq Token] {s : Shelf Key Token Body} {key : Key} {token : Token}
  {body old : Body} {offset : Nat}

def empty : Shelf Key Token Body := ⟨∅, [], fun _ => none⟩

def remove (s : Shelf Key Token Body) (key : Key) : Shelf Key Token Body where
  live := s.live.erase key
  order := s.order.filter fun other => other ≠ key
  cursors token := (s.cursors token).filter fun cursor => cursor.owner ≠ key

def push (s : Shelf Key Token Body) (key : Key) (body : Body) : Shelf Key Token Body :=
  { s with live := s.live.insert key body, order := s.order ++ [key] }

def replace (s : Shelf Key Token Body) (key : Key) (body : Body) : Shelf Key Token Body :=
  { s with live := s.live.insert key body }

def touch (s : Shelf Key Token Body) (key : Key) : Shelf Key Token Body :=
  { s with order := (s.order.filter fun other => other ≠ key) ++ [key] }

/-- Gives out a token; `body` is the snapshot with the token noted in it. -/
def issue (s : Shelf Key Token Body) (key : Key) (offset : Nat) (token : Token) (body : Body) :
    Shelf Key Token Body :=
  { s with
    live := s.live.insert key body
    cursors := fun other => if other = token then some ⟨key, offset⟩ else s.cursors other }

structure Coherent (pages : Body → Pages Token) (s : Shelf Key Token Body) : Prop where
  nodup : s.order.Nodup
  mem_order : ∀ key, key ∈ s.order ↔ key ∈ s.live
  cursor : ∀ token cursor, s.cursors token = some cursor → ∃ body,
    s.live.lookup cursor.owner = some body ∧ (pages body).tokens cursor.offset = some token
  noted : ∀ key body offset token, s.live.lookup key = some body →
    (pages body).tokens offset = some token →
      s.cursors token = some ⟨key, offset⟩ ∧ 0 < offset ∧ offset < (pages body).size

variable {pages : Body → Pages Token}

omit [DecidableEq Token] in
theorem coherent_empty : (empty : Shelf Key Token Body).Coherent pages where
  nodup := nodup_nil
  mem_order := by simp [empty]
  cursor := by simp [empty]
  noted := by simp [empty]

omit [DecidableEq Token] in
theorem Coherent.remove (h : s.Coherent pages) (key : Key) : (s.remove key).Coherent pages where
  nodup := h.nodup.filter _
  mem_order := by
    intro other
    simp only [Shelf.remove, mem_filter, decide_eq_true_eq, h.mem_order, mem_erase]
    exact and_comm
  cursor := by
    intro token cursor hcursor
    obtain ⟨hfound, hother⟩ := Option.filter_eq_some_iff.mp hcursor
    obtain ⟨body, hlive, htoken⟩ := h.cursor token cursor hfound
    refine ⟨body, ?_, htoken⟩
    show (s.live.erase key).lookup cursor.owner = some body
    rw [lookup_erase_ite, if_neg (by simpa using hother)]
    exact hlive
  noted := by
    intro other body offset token hlive htoken
    replace hlive : (s.live.erase key).lookup other = some body := hlive
    rw [lookup_erase_ite] at hlive
    by_cases hother : other = key
    · simp [hother] at hlive
    rw [if_neg hother] at hlive
    obtain ⟨hcursor, hinside⟩ := h.noted other body offset token hlive htoken
    refine ⟨?_, hinside⟩
    show (s.cursors token).filter _ = _
    rw [hcursor]
    simp [Option.filter, hother]

omit [DecidableEq Token] in
theorem Coherent.push (h : s.Coherent pages) (hfresh : key ∉ s.live)
    (hnone : ∀ offset, (pages body).tokens offset = none) : (s.push key body).Coherent pages where
  nodup := by
    have hnot : key ∉ s.order := fun hmem => hfresh ((h.mem_order key).mp hmem)
    exact List.Nodup.append h.nodup (nodup_singleton key) (by simpa using hnot)
  mem_order := by
    intro other
    simp only [Shelf.push, mem_append, mem_singleton, h.mem_order, mem_insert]
    exact or_comm
  cursor := by
    intro token cursor hcursor
    obtain ⟨found, hlive, htoken⟩ := h.cursor token cursor hcursor
    refine ⟨found, ?_, htoken⟩
    show (s.live.insert key body).lookup cursor.owner = some found
    have hother : cursor.owner ≠ key := by
      rintro rfl
      exact hfresh (lookup_isSome.mp (by simp [hlive]))
    rw [lookup_insert_ite, if_neg hother]
    exact hlive
  noted := by
    intro other found offset token hlive htoken
    replace hlive : (s.live.insert key body).lookup other = some found := hlive
    rw [lookup_insert_ite] at hlive
    split at hlive
    · cases hlive
      rw [hnone] at htoken
      cases htoken
    · exact h.noted other found offset token hlive htoken

omit [DecidableEq Token] in
theorem Coherent.replace (h : s.Coherent pages) (hlive : s.live.lookup key = some old)
    (hpages : pages body = pages old) : (s.replace key body).Coherent pages where
  nodup := h.nodup
  mem_order := by
    intro other
    have hkey : key ∈ s.live := lookup_isSome.mp (by simp [hlive])
    simp only [Shelf.replace, h.mem_order, mem_insert]
    constructor
    · exact .inr
    · rintro (rfl | hmem)
      · exact hkey
      · exact hmem
  cursor := by
    intro token cursor hcursor
    obtain ⟨found, hfound, htoken⟩ := h.cursor token cursor hcursor
    show ∃ found, (s.live.insert key body).lookup cursor.owner = some found ∧ _
    rw [lookup_insert_ite]
    by_cases howner : cursor.owner = key
    · rw [howner, hlive] at hfound
      cases hfound
      exact ⟨body, if_pos howner, by rw [hpages]; exact htoken⟩
    · exact ⟨found, by rw [if_neg howner]; exact hfound, htoken⟩
  noted := by
    intro other found offset token hfound htoken
    replace hfound : (s.live.insert key body).lookup other = some found := hfound
    rw [lookup_insert_ite] at hfound
    split at hfound
    · cases hfound
      rename_i hother
      subst hother
      rw [hpages] at htoken ⊢
      exact h.noted _ old offset token hlive htoken
    · exact h.noted other found offset token hfound htoken

omit [DecidableEq Token] in
theorem Coherent.touch (h : s.Coherent pages) (hkey : key ∈ s.live) :
    (s.touch key).Coherent pages where
  nodup := by
    refine List.Nodup.append (h.nodup.filter _) (nodup_singleton key) ?_
    simp [disjoint_singleton]
  mem_order := by
    intro other
    simp only [Shelf.touch, mem_append, mem_filter, decide_eq_true_eq,
      mem_singleton, h.mem_order]
    by_cases hother : other = key
    · simp [hother, hkey]
    · simp [hother]
  cursor := h.cursor
  noted := h.noted

theorem Coherent.issue (h : s.Coherent pages) (hlive : s.live.lookup key = some old)
    (hfresh : s.cursors token = none) (hpos : 0 < offset) (hinside : offset < (pages old).size)
    (hnone : (pages old).tokens offset = none) (hsize : (pages body).size = (pages old).size)
    (htokens : ∀ at', (pages body).tokens at' =
      if at' = offset then some token else (pages old).tokens at') :
    (s.issue key offset token body).Coherent pages where
  nodup := h.nodup
  mem_order := by
    intro other
    have hkey : key ∈ s.live := lookup_isSome.mp (by simp [hlive])
    simp only [Shelf.issue, h.mem_order, mem_insert]
    constructor
    · exact .inr
    · rintro (rfl | hmem)
      · exact hkey
      · exact hmem
  cursor := by
    intro other cursor hcursor
    replace hcursor : (if other = token then some ⟨key, offset⟩ else s.cursors other) =
      some cursor := hcursor
    show ∃ found, (s.live.insert key body).lookup cursor.owner = some found ∧ _
    rw [lookup_insert_ite]
    split at hcursor
    · cases hcursor
      rename_i hother
      exact ⟨body, if_pos rfl, by rw [htokens, if_pos rfl, hother]⟩
    · obtain ⟨found, hfound, htoken⟩ := h.cursor other cursor hcursor
      by_cases howner : cursor.owner = key
      · rw [howner, hlive] at hfound
        cases hfound
        refine ⟨body, if_pos howner, ?_⟩
        rw [htokens, if_neg]
        · exact htoken
        · intro hoff
          rw [hoff, hnone] at htoken
          cases htoken
      · exact ⟨found, by rw [if_neg howner]; exact hfound, htoken⟩
  noted := by
    intro other found at' issued hfound hissued
    replace hfound : (s.live.insert key body).lookup other = some found := hfound
    have hold : ∀ {other found at' issued}, s.live.lookup other = some found →
        (pages found).tokens at' = some issued →
        (if issued = token then some ⟨key, offset⟩ else s.cursors issued) =
          some ⟨other, at'⟩ ∧ 0 < at' ∧ at' < (pages found).size := by
      intro other found at' issued hfound hissued
      obtain ⟨hcursor, hbounds⟩ := h.noted other found at' issued hfound hissued
      refine ⟨?_, hbounds⟩
      rw [if_neg]
      · exact hcursor
      · rintro rfl
        rw [hfresh] at hcursor
        cases hcursor
    rw [lookup_insert_ite] at hfound
    split at hfound
    · cases hfound
      rename_i hother
      subst hother
      rw [htokens] at hissued
      rw [hsize]
      split at hissued
      · cases hissued
        rename_i hat
        subst hat
        exact ⟨if_pos rfl, hpos, hinside⟩
      · exact hold hlive hissued
    · exact hold hfound hissued

end Shelf

end PagedSnapshots
