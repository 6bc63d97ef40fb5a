import Mathlib.Data.List.Basic

/-!
# Paths of bytes

A path is a sequence of bytes in which a slash separates the names. It is compared by its
components, which leave out empty names and names of one dot, except for a leading one.
-/

namespace Paths

open List

abbrev Path := List UInt8

def slash : UInt8 := 47

def dot : UInt8 := 46

inductive Component where
  | rootDir
  | curDir
  | parentDir
  | normal (name : Path)
  deriving DecidableEq

def Component.bytes : Component → Path
  | .rootDir => [slash]
  | .curDir => [dot]
  | .parentDir => [dot, dot]
  | .normal name => name

def Component.isNormal : Component → Bool
  | .normal _ => true
  | _ => false

def segments : Path → List Path
  | [] => [[]]
  | byte :: rest =>
    if byte = slash then [] :: segments rest
    else
      match segments rest with
      | [] => [[byte]]
      | first :: others => (byte :: first) :: others

def component (segment : Path) : Option Component :=
  if segment = [] ∨ segment = [dot] then none
  else if segment = [dot, dot] then some .parentDir
  else some (.normal segment)

def names (path : Path) : List Component :=
  (segments path).filterMap component

def components (path : Path) : List Component :=
  match path with
  | [] => []
  | byte :: rest =>
    if byte = slash then .rootDir :: names rest
    else if (segments path).head? = some [dot] then .curDir :: names path
    else names path

/-- Appends a path to another; a path with a root takes its place. -/
def join (base path : Path) : Path :=
  if path.head? = some slash then path
  else if base = [] ∨ base.getLast? = some slash then base ++ path
  else base ++ slash :: path

def fromComponents (parts : List Component) : Path :=
  parts.foldl (fun path part => join path part.bytes) []

def stripPrefix (path base : Path) : Option (List Component) :=
  if (components base).isPrefixOf (components path) then
    some ((components path).drop (components base).length)
  else none

theorem segments_ne_nil (path : Path) : segments path ≠ [] := by
  cases path with
  | nil => simp [segments]
  | cons byte rest =>
    unfold segments
    split
    · exact cons_ne_nil _ _
    · split
      · exact cons_ne_nil _ _
      · exact cons_ne_nil _ _

theorem segments_append (front back : Path) :
    segments (front ++ slash :: back) = segments front ++ segments back := by
  induction front with
  | nil => simp [segments]
  | cons byte rest ih =>
    simp only [cons_append, segments, ih]
    by_cases hslash : byte = slash
    · rw [if_pos hslash, if_pos hslash, cons_append]
    rw [if_neg hslash, if_neg hslash]
    cases hsegments : segments rest with
    | nil => exact absurd hsegments (segments_ne_nil rest)
    | cons first others => rfl

variable {path : Path}

theorem segments_of_not_mem (h : slash ∉ path) : segments path = [path] := by
  induction path with
  | nil => rfl
  | cons byte rest ih =>
    rw [mem_cons, not_or] at h
    unfold segments
    rw [if_neg (Ne.symm h.1), ih h.2]

theorem names_append (front back : Path) :
    names (front ++ slash :: back) = names front ++ names back := by
  unfold names
  rw [segments_append, filterMap_append]

theorem names_nil : names [] = [] := rfl

theorem components_append {front : Path} (hfront : front ≠ []) (back : Path) :
    components (front ++ slash :: back) = components front ++ names back := by
  cases front with
  | nil => exact absurd rfl hfront
  | cons byte rest =>
    have hhead : (segments (byte :: (rest ++ slash :: back))).head? =
        (segments (byte :: rest)).head? := by
      have hsplit := segments_append (byte :: rest) back
      rw [cons_append] at hsplit
      rw [hsplit]
      cases hsegments : segments (byte :: rest) with
      | nil => exact absurd hsegments (segments_ne_nil _)
      | cons first others => rfl
    have hnames := names_append (byte :: rest) back
    rw [cons_append] at hnames ⊢
    simp only [components, hhead]
    by_cases hslash : byte = slash
    · rw [if_pos hslash, if_pos hslash, names_append, cons_append]
    rw [if_neg hslash, if_neg hslash, hnames]
    split
    · rw [cons_append]
    · rfl

theorem components_eq_names (h : ∀ part ∈ components path, part.isNormal = true) :
    path.head? ≠ some slash ∧ components path = names path := by
  cases path with
  | nil => exact ⟨nofun, rfl⟩
  | cons byte rest =>
    unfold components at h ⊢
    simp only at h ⊢
    by_cases hslash : byte = slash
    · rw [if_pos hslash] at h
      exact absurd (h _ mem_cons_self) nofun
    rw [if_neg hslash] at h ⊢
    refine ⟨fun hhead => hslash (Option.some.inj hhead), ?_⟩
    split at h
    · exact absurd (h _ mem_cons_self) nofun
    · next hdot => rw [if_neg hdot]

theorem components_join (h : ∀ part ∈ components path, part.isNormal = true) (base : Path) :
    components (join base path) = components base ++ components path := by
  obtain ⟨hhead, hnames⟩ := components_eq_names h
  unfold join
  rw [if_neg hhead]
  by_cases he : base = []
  · subst he
    simp [components]
  by_cases hl : base.getLast? = some slash
  · rw [if_pos (.inr hl)]
    -- The base ends in a slash, which starts the names of the path.
    obtain ⟨front, hfront⟩ := List.getLast?_eq_some_iff.mp hl
    subst hfront
    rw [append_assoc, singleton_append]
    by_cases hroot : front = []
    · subst hroot
      rw [hnames]
      rfl
    · rw [components_append hroot, components_append hroot, names_nil, append_nil, hnames]
  · rw [if_neg (not_or.mpr ⟨he, hl⟩), components_append he, hnames]

theorem components_name {name : Path} (hslash : slash ∉ name) (he : name ≠ [])
    (hdot : name ≠ [dot]) (hdots : name ≠ [dot, dot]) : components name = [.normal name] := by
  have hsegments := segments_of_not_mem hslash
  have hnames : names name = [.normal name] := by
    unfold names component
    rw [hsegments]
    simp [he, hdot, hdots]
  cases name with
  | nil => exact absurd rfl he
  | cons byte rest =>
    rw [mem_cons, not_or] at hslash
    unfold components
    simp only [if_neg (Ne.symm hslash.1)]
    rw [hsegments, if_neg (by simpa using hdot), hnames]

def Covers (path other : Path) : Prop :=
  components path <+: components other

theorem not_covers_of_ne {path other : Path} {start rest others : List Component}
    {first second : Component} (hpath : components path = start ++ first :: rest)
    (ho : components other = start ++ second :: others) (hne : first ≠ second) :
    ¬ Covers path other := by
  unfold Covers
  rw [hpath, ho, prefix_append_right_inj, cons_prefix_cons]
  exact fun h => hne h.1

end Paths
