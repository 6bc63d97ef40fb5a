import NetPlayer.RangeCache.StoreRuns

/-!
# Interrupted creations of a manifest

The data file is created first, and its manifest names the object. A creation that
is cut short in between leaves a data file without manifest, which the loader takes
for a conflict of identities; no later call gets past it.
-/

namespace NetPlayer.RangeCache

open Faulty Faulty.Program Transition

structure LeftOver (files : ResourceFiles) : Prop where
  data : files.rangeData ≠ none
  noManifest : files.rangeManifest = none

/-- The call was cut short between the creation of the data file and the installation of
the manifest; it leaves `t`. -/
structure CreationCutShort [UrlParser] (resource : HlsMediaResource) (files : ResourceFiles)
    (verdicts : List Verdict) (t : ResourceFiles) : Prop where
  noData : files.rangeData = none
  noManifest : files.rangeManifest = none
  ran : (ensureRangeManifest resource files verdicts).2.1 = t
  leftOver : LeftOver t

def LaterCreation [UrlParser] (resource : HlsMediaResource) (files : ResourceFiles)
    (attempt : List Verdict × Outcome HlsRangeError LoadedRangeManifest) (t : ResourceFiles) :
    Prop :=
  ∃ rest, ensureRangeManifest resource files attempt.1 = (attempt.2, t, rest)

section

variable [UrlParser] {resource : HlsMediaResource} {files t : ResourceFiles}

theorem LeftOver.load (h : LeftOver files) :
    Inspects (loadRangeManifest resource) files (fun _ => False) fun _ => True := by
  have hn : files.identityAt .rangeManifest = none := by
    simp [ResourceFiles.identityAt, h.noManifest]
  have hs : files.identityAt .rangeData ≠ none := by
    simpa [ResourceFiles.identityAt] using h.data
  apply Inspects.bind ((reads_safeFileIdentity .rangeManifest files).mono (fun _ h => h)
    fun _ _ => trivial)
  rintro _ rfl
  rw [hn]
  apply Inspects.bind ((reads_safeFileIdentity .rangeData files).mono (fun _ h => h)
    fun _ _ => trivial)
  rintro _ rfl
  apply Inspects.bind (inspects_demand trivial)
  intro _ ha
  exact absurd ha hs

theorem LeftOver.ensure (h : LeftOver files) :
    Inspects (ensureRangeManifest resource) files (fun _ => False) fun _ => True := by
  apply Inspects.bind h.load
  intro _ hfalse
  exact hfalse.elim

theorem LaterCreation.leftOver
    {attempt : List Verdict × Outcome HlsRangeError LoadedRangeManifest}
    (hst : LaterCreation resource files attempt t) (h : LeftOver files) :
    t = files ∧ ∀ loaded, attempt.2 ≠ .returned loaded := by
  obtain ⟨verdicts, outcome⟩ := attempt
  obtain ⟨rest, hrun⟩ := hst
  have hends := @LeftOver.ensure _ resource files h verdicts
  rw [hrun] at hends
  cases outcome with
  | returned loaded => exact hends.2.elim
  | raised error => exact ⟨hends.1, fun loaded hl => by cases hl⟩
  | crashed => exact ⟨hends, fun loaded hl => by cases hl⟩

theorem LeftOver.never_returns
    {attempts : List (List Verdict × Outcome HlsRangeError LoadedRangeManifest)}
    (h : LeftOver files) (hrun : Run (LaterCreation resource) files attempts t) :
    t = files ∧ ∀ attempt ∈ attempts, ∀ loaded, attempt.2 ≠ .returned loaded := by
  apply hrun.invariant_history
    (fun attempts t => t = files ∧ ∀ attempt ∈ attempts, ∀ loaded, attempt.2 ≠ .returned loaded)
  · rintro a b label past hst ⟨rfl, hpast⟩
    have hl := hst.leftOver h
    refine ⟨hl.1, fun attempt hm => ?_⟩
    rcases List.mem_append.mp hm with hb | hlabel
    · exact hpast attempt hb
    · rw [List.mem_singleton.mp hlabel]
      exact hl.2
  · exact ⟨rfl, by simp⟩

def Unrecoverable (resource : HlsMediaResource) (files : ResourceFiles) : Prop :=
  ∀ attempts t, Run (LaterCreation resource) files attempts t →
    t = files ∧ ∀ attempt ∈ attempts, ∀ loaded, attempt.2 ≠ .returned loaded

/-- However a creation is cut short between its two files, no later call for the resource
returns a manifest. -/
theorem manifest_creation_unrecoverable {verdicts : List Verdict}
    (hcut : CreationCutShort resource files verdicts t) : Unrecoverable resource t :=
  fun _ _ hlater => hcut.leftOver.never_returns hlater

end

/-! A crash when the data file and its directory entry are durable. -/

/-- The crash falls on the first call of `write_json_atomically`. -/
def crashBeforeManifest : List Verdict := List.replicate 8 .proceed ++ [.crash 0]

def leftOverFiles : ResourceFiles :=
  { noFiles with
    rangeData := some ⟨noFiles.freshIdentity, []⟩
    nextInode := noFiles.nextInode + 1 }

theorem leftOverFiles_cutShort :
    @CreationCutShort sampleUrls sampleVideo noFiles crashBeforeManifest leftOverFiles :=
  @CreationCutShort.mk sampleUrls _ _ _ _ rfl rfl (by decide +kernel) ⟨by decide, rfl⟩

theorem manifest_creation_unrecoverable_crash :
    @Unrecoverable sampleUrls sampleVideo leftOverFiles :=
  @manifest_creation_unrecoverable sampleUrls sampleVideo noFiles leftOverFiles
    crashBeforeManifest leftOverFiles_cutShort

/-- A first call that crashes leaves files on which the next one, undisturbed, refuses. -/
theorem manifest_creation_crash_refused :
    @ensureRangeManifest sampleUrls sampleVideo noFiles crashBeforeManifest =
      (.crashed, leftOverFiles, []) ∧
    Refuses (@ensureRangeManifest sampleUrls sampleVideo) leftOverFiles
      (identityErrorAt "manifest-missing-data-present") leftOverFiles ∧
    ¬ ∃ loaded after, Completes (@ensureRangeManifest sampleUrls sampleVideo) leftOverFiles loaded
      after := by
  have hrefuses : Refuses (@ensureRangeManifest sampleUrls sampleVideo) leftOverFiles
      (identityErrorAt "manifest-missing-data-present") leftOverFiles := by
    unfold Refuses
    decide +kernel
  refine ⟨by decide +kernel, hrefuses, ?_⟩
  rintro ⟨loaded, after, hcompletes⟩
  have hsame := hrefuses.symm.trans hcompletes
  simp only [Prod.mk.injEq, reduceCtorEq, false_and] at hsame

end NetPlayer.RangeCache
