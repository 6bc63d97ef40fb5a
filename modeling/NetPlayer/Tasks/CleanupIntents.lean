import NetPlayer.Hls.Adapter
import NetPlayer.Library.Paths

/-!
# Cleanup intents

A persisted cleanup names a path below the cache root that a task, its owner, may delete. It is
checked twice: by itself, and against the output directory that is configured.
-/

namespace NetPlayer.Tasks

open Paths List
open Hls (trim)

inductive PersistedFileCleanupKind where
  | bilibiliOwnedOutputDirectory
  | bilibiliTransientOutput
  | localLibraryItem
  deriving DecidableEq

structure PersistedFileCleanupIntent where
  kind : PersistedFileCleanupKind
  ownerId : String
  relativePath : String
  deriving DecidableEq

def maxPersistedCleanupOwnerIdBytes : Nat := 8192
def maxPersistedCleanupRelativePathBytes : Nat := 4096

def isControl (c : Char) : Bool :=
  c.toNat < 32 || (127 ≤ c.toNat && c.toNat < 160)

def osStr (value : String) : Path :=
  value.toUTF8.data.toList

def internalCacheDir : Path := osStr ".tvos-net-player"
def stagingDir : Path := osStr "bbdown-staging"

def toAsciiLower (byte : UInt8) : UInt8 :=
  if 65 ≤ byte ∧ byte ≤ 90 then byte + 32 else byte

def eqIgnoreAsciiCase (left right : Path) : Bool :=
  left.map toAsciiLower == right.map toAsciiLower

def isHexDigit (byte : UInt8) : Bool :=
  (48 ≤ byte && byte ≤ 57) || (97 ≤ byte && byte ≤ 102)

def validBilibiliDownloadTaskId (value : String) : Bool :=
  let start := osStr "bilibili-"
  let suffix := (osStr value).drop start.length
  start.isPrefixOf (osStr value) && suffix.length == 32 && suffix.all isHexDigit

/-- `decode_item_id`; `decodeBase64` is the decoding without padding. -/
def decodeItemId (decodeBase64 : Path → Option Path) (itemId : String) : Option Path :=
  let start := osStr "local.default."
  if start.isPrefixOf (osStr itemId) = false then none
  else
    match decodeBase64 ((osStr itemId).drop start.length) with
    | none => none
    | some path =>
      if ByteArray.validateUTF8 ⟨path.toArray⟩ = false then none
      else if (components path).all Component.isNormal then some path
      else none

namespace PersistedFileCleanupIntent

def parts (intent : PersistedFileCleanupIntent) : List Component :=
  components (osStr intent.relativePath)

def targetsInternalStorage (intent : PersistedFileCleanupIntent) : Bool :=
  match intent.parts.head? with
  | some (.normal value) => eqIgnoreAsciiCase value internalCacheDir
  | _ => false

def isStagingPath (parts : List Component) : Bool :=
  match parts with
  | [.normal internal, .normal staging, .normal _] =>
    internal == internalCacheDir && staging == stagingDir
  | _ => false

def validOwnedOutputDirectory (intent : PersistedFileCleanupIntent) : Bool :=
  validBilibiliDownloadTaskId intent.ownerId &&
    intent.parts.getLast? == some (.normal (osStr intent.ownerId)) &&
    (!intent.targetsInternalStorage || isStagingPath intent.parts)

def validTransientOutput (intent : PersistedFileCleanupIntent) : Bool :=
  validBilibiliDownloadTaskId intent.ownerId &&
    intent.parts.contains (.normal (osStr intent.ownerId)) && !intent.targetsInternalStorage

def validLocalLibraryItem (decodeBase64 : Path → Option Path)
    (intent : PersistedFileCleanupIntent) : Bool :=
  !intent.targetsInternalStorage &&
    (decodeItemId decodeBase64 intent.ownerId).any fun path =>
      fromComponents (components path) == osStr intent.relativePath

def validKind (decodeBase64 : Path → Option Path) (intent : PersistedFileCleanupIntent) : Bool :=
  match intent.kind with
  | .bilibiliOwnedOutputDirectory => intent.validOwnedOutputDirectory
  | .bilibiliTransientOutput => intent.validTransientOutput
  | .localLibraryItem => intent.validLocalLibraryItem decodeBase64

def validate (decodeBase64 : Path → Option Path) (intent : PersistedFileCleanupIntent) :
    Except String Unit :=
  if intent.ownerId = "" ∨ intent.ownerId ≠ trim intent.ownerId ∨
      maxPersistedCleanupOwnerIdBytes < intent.ownerId.utf8ByteSize ∨
      intent.ownerId.toList.any isControl = true then
    .error "persisted file cleanup owner id is invalid"
  else if intent.relativePath = "" ∨
      maxPersistedCleanupRelativePathBytes < intent.relativePath.utf8ByteSize ∨
      intent.relativePath.toList.contains (Char.ofNat 0) = true ∨
      intent.parts.all Component.isNormal = false ∨
      fromComponents intent.parts ≠ osStr intent.relativePath ∨
      intent.validKind decodeBase64 = false then
    .error "persisted file cleanup relative path is invalid"
  else .ok ()

end PersistedFileCleanupIntent

def validatePersistedBilibiliFileCleanupPath (managedOutputPrefix : Option Path)
    (intent : PersistedFileCleanupIntent) : Except String Unit :=
  match intent.kind with
  | .bilibiliOwnedOutputDirectory =>
    let expectedStagingPath :=
      join (osStr ".tvos-net-player/bbdown-staging") (osStr intent.ownerId)
    let expectedPublishedPath :=
      managedOutputPrefix.map fun start => join start (osStr intent.ownerId)
    if intent.parts ≠ components expectedStagingPath ∧
        expectedPublishedPath.map components ≠ some intent.parts then
      .error
        "persisted Bilibili owned-directory cleanup is outside its configured task roots"
    else .ok ()
  | .bilibiliTransientOutput =>
    match managedOutputPrefix with
    | none =>
      .error "persisted Bilibili transient cleanup requires a configured output root"
    | some start =>
      match stripPrefix (osStr intent.relativePath) (join start (osStr intent.ownerId)) with
      | none =>
        .error "persisted Bilibili transient cleanup is outside its configured task root"
      | some descendant =>
        if descendant = [] then
          .error
            "persisted Bilibili transient cleanup cannot target its task directory"
        else .ok ()
  | .localLibraryItem => .ok ()

def validatePersistedBilibiliFileCleanupPaths (managedOutputPrefix : Option Path) :
    List PersistedFileCleanupIntent → Except String Unit
  | [] => .ok ()
  | intent :: rest => do
      validatePersistedBilibiliFileCleanupPath managedOutputPrefix intent
      validatePersistedBilibiliFileCleanupPaths managedOutputPrefix rest

variable {managedOutputPrefix : Option Path}

theorem validate_each {intents : List PersistedFileCleanupIntent} {u : Unit}
    (h : validatePersistedBilibiliFileCleanupPaths managedOutputPrefix intents = .ok u)
    {intent : PersistedFileCleanupIntent} (hm : intent ∈ intents) :
    validatePersistedBilibiliFileCleanupPath managedOutputPrefix intent = .ok () := by
  induction intents with
  | nil => cases hm
  | cons first rest ih =>
    unfold validatePersistedBilibiliFileCleanupPaths at h
    cases hfst : validatePersistedBilibiliFileCleanupPath managedOutputPrefix first with
    | error error =>
      rw [hfst] at h
      cases h
    | ok checked =>
      rw [hfst] at h
      cases hm with
      | head => exact hfst
      | tail _ hm => exact ih h hm

variable {left right ownerId : String}

theorem osStr_inj (h : osStr left = osStr right) : left = right := by
  rw [Array.toList_inj] at h
  exact String.toByteArray_inj.mp (ByteArray.ext h)

theorem not_mem_of_isHexDigit {bytes : Path} (h : bytes.all isHexDigit = true) : slash ∉ bytes := by
  intro hm
  have hdigit := all_eq_true.mp h slash hm
  revert hdigit
  decide

theorem components_owner (h : validBilibiliDownloadTaskId ownerId = true) :
    components (osStr ownerId) = [.normal (osStr ownerId)] := by
  unfold validBilibiliDownloadTaskId at h
  simp only [Bool.and_eq_true, isPrefixOf_iff_prefix] at h
  obtain ⟨⟨⟨suffix, hsuffix⟩, -⟩, hdigits⟩ := h
  rw [← hsuffix, drop_left] at hdigits
  have hs : osStr "bilibili-" = [98, 105, 108, 105, 98, 105, 108, 105, 45] := by
    decide +kernel
  rw [hs] at hsuffix
  rw [← hsuffix]
  apply components_name
  · rw [mem_append, not_or]
    exact ⟨by decide, not_mem_of_isHexDigit hdigits⟩
  · simp
  · simp
  · simp

theorem components_join_owner (h : validBilibiliDownloadTaskId ownerId = true) (base : Path) :
    components (join base (osStr ownerId)) = components base ++ [.normal (osStr ownerId)] := by
  have ho := components_owner h
  rw [components_join, ho]
  intro part hm
  rw [ho, mem_singleton] at hm
  subst hm
  rfl

theorem components_staging :
    components (osStr ".tvos-net-player/bbdown-staging") =
      [.normal internalCacheDir, .normal stagingDir] := by
  decide +kernel

namespace PersistedFileCleanupIntent

variable {decodeBase64 : Path → Option Path} {intent : PersistedFileCleanupIntent}

structure Valid (decodeBase64 : Path → Option Path) (intent : PersistedFileCleanupIntent) :
    Prop where
  normal : ∀ part ∈ intent.parts, part.isNormal = true
  nonempty : intent.parts ≠ []
  kind : intent.validKind decodeBase64 = true

theorem valid_of_validate {u : Unit} (h : intent.validate decodeBase64 = .ok u) :
    intent.Valid decodeBase64 := by
  unfold validate at h
  split at h
  · cases h
  split at h
  · cases h
  next hpath =>
    simp only [not_or, Bool.not_eq_false, not_not] at hpath
    obtain ⟨hnamed, -, -, hnormal, hs, hkind⟩ := hpath
    refine ⟨all_eq_true.mp hnormal, ?_, hkind⟩
    intro he
    rw [he] at hs
    exact hnamed (osStr_inj (hs.symm.trans (by decide +kernel)))

theorem parts_of_isStagingPath {owner : Path} {parts : List Component}
    (h : isStagingPath parts = true) (hl : parts.getLast? = some (.normal owner)) :
    parts = [.normal internalCacheDir, .normal stagingDir, .normal owner] := by
  unfold isStagingPath at h
  split at h
  · next internal staging name =>
      simp only [Bool.and_eq_true, beq_iff_eq] at h
      obtain ⟨rfl, rfl⟩ := h
      have hname : Component.normal name = .normal owner := by simpa using hl
      rw [hname]
  · cases h

/-- Where a cleanup of a Bilibili task lies: in the task's staging directory, or outside the
internal directory at or below the task's directory of outputs. -/
theorem parts_of_accepted {u : Unit}
    (valid : intent.Valid decodeBase64)
    (configured : validatePersistedBilibiliFileCleanupPath managedOutputPrefix intent = .ok u)
    (hkind : intent.kind ≠ .localLibraryItem) :
    intent.parts =
        [.normal internalCacheDir, .normal stagingDir, .normal (osStr intent.ownerId)] ∨
      intent.targetsInternalStorage = false ∧ ∃ start rest, managedOutputPrefix = some start ∧
        intent.parts = components start ++ .normal (osStr intent.ownerId) :: rest := by
  have hv := valid.kind
  unfold validKind at hv
  unfold validatePersistedBilibiliFileCleanupPath at configured
  cases hcase : intent.kind with
  | localLibraryItem => exact absurd hcase hkind
  | bilibiliOwnedOutputDirectory =>
    simp only [hcase] at hv configured
    unfold validOwnedOutputDirectory at hv
    simp only [Bool.and_eq_true, beq_iff_eq, Bool.or_eq_true, Bool.not_eq_true'] at hv
    obtain ⟨⟨ho, hl⟩, hinternal⟩ := hv
    rcases hinternal with houtside | hstaging
    · split at configured
      · cases configured
      next hroots =>
        simp only [components_join_owner ho, components_staging, Option.map_map] at hroots
        rw [not_and_or, not_not, not_not] at hroots
        rcases hroots with hstaging | hpubl
        · exact .inl hstaging
        obtain ⟨start, hs, hparts⟩ := Option.map_eq_some_iff.mp hpubl
        refine .inr ⟨houtside, start, [], hs, ?_⟩
        rw [← hparts]
        exact components_join_owner ho start
    · exact .inl (parts_of_isStagingPath hstaging hl)
  | bilibiliTransientOutput =>
    simp only [hcase] at hv configured
    unfold validTransientOutput at hv
    simp only [Bool.and_eq_true, Bool.not_eq_true'] at hv
    obtain ⟨⟨ho, -⟩, houtside⟩ := hv
    refine .inr ⟨houtside, ?_⟩
    cases hfront : managedOutputPrefix with
    | none =>
      rw [hfront] at configured
      cases configured
    | some start =>
      simp only [hfront] at configured
      unfold stripPrefix at configured
      rw [components_join_owner ho] at configured
      split at configured
      · cases configured
      next descendant hstrip =>
        split at hstrip
        · next hbelow =>
            obtain ⟨rest, hr⟩ := isPrefixOf_iff_prefix.mp hbelow
            refine ⟨start, rest, rfl, ?_⟩
            rw [append_assoc, singleton_append] at hr
            exact hr.symm
        · cases hstrip

end PersistedFileCleanupIntent

theorem head_ne_internal {intent : PersistedFileCleanupIntent}
    (h : intent.targetsInternalStorage = false) :
    intent.parts.head? ≠ some (.normal internalCacheDir) := by
  intro hhead
  unfold PersistedFileCleanupIntent.targetsInternalStorage at h
  rw [hhead] at h
  cases h

theorem head_of_prefix {front back : List Component} (h : front <+: back) (hne : front ≠ []) :
    front.head? = back.head? := by
  obtain ⟨rest, rfl⟩ := h
  cases front with
  | nil => exact absurd rfl hne
  | cons part parts => rfl

theorem not_covers_of_owner_ne {decodeBase64 : Path → Option Path}
    {intent other : PersistedFileCleanupIntent} (valid : intent.Valid decodeBase64)
    (validOther : other.Valid decodeBase64)
    (configured : validatePersistedBilibiliFileCleanupPath managedOutputPrefix intent = .ok ())
    (configuredOther : validatePersistedBilibiliFileCleanupPath managedOutputPrefix other = .ok ())
    (hkind : intent.kind ≠ .localLibraryItem) (hkindOther : other.kind ≠ .localLibraryItem)
    (howner : intent.ownerId ≠ other.ownerId) :
    ¬ Covers (osStr intent.relativePath) (osStr other.relativePath) := by
  have hname : Component.normal (osStr intent.ownerId) ≠ .normal (osStr other.ownerId) :=
    fun hsame => howner (osStr_inj (Component.normal.inj hsame))
  rcases PersistedFileCleanupIntent.parts_of_accepted valid configured hkind with
    hstaging | ⟨houtside, start, rest, hs, hparts⟩
  · rcases PersistedFileCleanupIntent.parts_of_accepted validOther configuredOther hkindOther with
      ho | ⟨houtside, -⟩
    · have hfst : components (osStr intent.relativePath) =
          [.normal internalCacheDir, .normal stagingDir] ++
            .normal (osStr intent.ownerId) :: [] := hstaging
      have hsnd : components (osStr other.relativePath) =
          [.normal internalCacheDir, .normal stagingDir] ++
            .normal (osStr other.ownerId) :: [] := ho
      exact not_covers_of_ne hfst hsnd hname
    · intro hcovers
      apply head_ne_internal houtside
      have hhead : intent.parts.head? = other.parts.head? :=
        head_of_prefix hcovers valid.nonempty
      rw [← hhead, hstaging]
      rfl
  · rcases PersistedFileCleanupIntent.parts_of_accepted validOther configuredOther hkindOther with
      ho | ⟨-, otherStart, others, hotherStart, ho⟩
    · intro hcovers
      apply head_ne_internal houtside
      have hhead : intent.parts.head? = other.parts.head? :=
        head_of_prefix hcovers valid.nonempty
      rw [hhead, ho]
      rfl
    · rw [hs, Option.some.injEq] at hotherStart
      subst hotherStart
      exact not_covers_of_ne hparts ho hname

/-- The cleanups that both checks accept: those of different owners are apart, and each lies
strictly below the cache root, in the internal directory only where its owner stages files. -/
theorem cleanup_intents_disjoint {decodeBase64 : Path → Option Path}
    {managedOutputPrefix : Option Path} {intents : List PersistedFileCleanupIntent}
    (valid : ∀ intent ∈ intents, intent.validate decodeBase64 = .ok ())
    (configured :
      validatePersistedBilibiliFileCleanupPaths managedOutputPrefix intents = .ok ()) :
    (∀ intent ∈ intents, ∀ other ∈ intents, intent.kind ≠ .localLibraryItem →
      other.kind ≠ .localLibraryItem → intent.ownerId ≠ other.ownerId →
        ¬ Covers (osStr intent.relativePath) (osStr other.relativePath)) ∧
    ∀ intent ∈ intents, intent.parts ≠ [] ∧
      (∀ root, components (join root (osStr intent.relativePath)) =
        components root ++ intent.parts) ∧
      (∀ part ∈ intent.parts, part.isNormal = true) ∧
      (intent.targetsInternalStorage = true → intent.parts =
        [.normal internalCacheDir, .normal stagingDir, .normal (osStr intent.ownerId)]) := by
  refine ⟨?_, ?_⟩
  · intro intent hmem other hother hkind hkindOther howner
    exact not_covers_of_owner_ne
      (PersistedFileCleanupIntent.valid_of_validate (valid intent hmem))
      (PersistedFileCleanupIntent.valid_of_validate (valid other hother))
      (validate_each configured hmem) (validate_each configured hother) hkind hkindOther howner
  · intro intent hmem
    have hvalid := PersistedFileCleanupIntent.valid_of_validate (valid intent hmem)
    refine ⟨hvalid.nonempty, components_join hvalid.normal, hvalid.normal, ?_⟩
    intro hinternal
    by_cases hkind : intent.kind = .localLibraryItem
    · have hlocal := hvalid.kind
      unfold PersistedFileCleanupIntent.validKind at hlocal
      simp only [hkind, PersistedFileCleanupIntent.validLocalLibraryItem, hinternal] at hlocal
      cases hlocal
    · rcases PersistedFileCleanupIntent.parts_of_accepted hvalid (validate_each configured hmem)
        hkind with hstaging | ⟨houtside, -⟩
      · exact hstaging
      · rw [houtside] at hinternal
        cases hinternal

def sampleIntents : List PersistedFileCleanupIntent :=
  [{ kind := .bilibiliOwnedOutputDirectory
     ownerId := "bilibili-00000000000000000000000000000001"
     relativePath :=
      ".tvos-net-player/bbdown-staging/bilibili-00000000000000000000000000000001" },
   { kind := .bilibiliTransientOutput
     ownerId := "bilibili-00000000000000000000000000000002"
     relativePath := "downloads/bilibili-00000000000000000000000000000002/video.mp4" }]

theorem cleanup_intents_disjoint_sample :
    ∃ staged transient, sampleIntents = [staged, transient] ∧
      ¬ Covers (osStr staged.relativePath) (osStr transient.relativePath) ∧
      ¬ Covers (osStr transient.relativePath) (osStr staged.relativePath) := by
  have hvalid : ∀ intent ∈ sampleIntents, intent.validate (fun _ => none) = .ok () := by
    decide +kernel
  have hconfigured :
      validatePersistedBilibiliFileCleanupPaths (some (osStr "downloads")) sampleIntents =
        .ok () := by
    decide +kernel
  have hdisjoint := (cleanup_intents_disjoint hvalid hconfigured).1
  refine ⟨_, _, rfl, ?_, ?_⟩
  · exact hdisjoint _ mem_cons_self _ (mem_cons_of_mem _ mem_cons_self) nofun nofun
      (by decide +kernel)
  · exact hdisjoint _ (mem_cons_of_mem _ mem_cons_self) _ mem_cons_self nofun nofun
      (by decide +kernel)

end NetPlayer.Tasks
