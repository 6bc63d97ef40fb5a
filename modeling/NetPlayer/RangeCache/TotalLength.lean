import Mathlib.Data.Multiset.Basic
import NetPlayer.RangeCache.StoreRuns

/-!
# Stability of the total length

Fills of one resource read the manifest, discover a total length upstream and
publish it, in any interleaving with each other and with the other operations of
the store. A publication compares the total of its own snapshot with the
manifest, so a snapshot without a total lets any discovered total through.
-/

namespace NetPlayer.RangeCache

open Faulty Faulty.Program Transition

def fillTotal (resource : HlsMediaResource) (loaded : PersistedRangeManifest)
    (discovered : Nat) : Nat :=
  (loaded.totalLength.or (resource.size.map UInt64.toNat)).getD discovered

structure FillSystem where
  files : ResourceFiles
  snapshots : Multiset LoadedRangeManifest

def FillSystem.total (s : FillSystem) : Option Nat :=
  s.files.current.bind PersistedRangeManifest.totalLength

inductive ResourceAction
  | read
  | publish (snapshot : LoadedRangeManifest) (total : UInt64)
  | operate (operation : StoreOperation)

def takeSnapshot (snapshots : Multiset LoadedRangeManifest) :
    Outcome HlsRangeError LoadedRangeManifest → Multiset LoadedRangeManifest
  | .returned loaded => loaded ::ₘ snapshots
  | .raised _ => snapshots
  | .crashed => snapshots

def StoreOperation.LeavesTotal : StoreOperation → Prop
  | .publishTotal _ _ => False
  | .commit _ _ _ => True
  | .publishOrigin _ _ _ => True
  | .compact _ _ _ => True

inductive ResourceStep [UrlParser] (resource : HlsMediaResource) :
    FillSystem → ResourceAction → FillSystem → Prop
  | read (s : FillSystem) (verdicts : List Verdict) :
      ResourceStep resource s .read
        { files := (ensureRangeManifest resource s.files verdicts).2.1
          snapshots := takeSnapshot s.snapshots (ensureRangeManifest resource s.files verdicts).1 }
  | publish {s : FillSystem} {snapshot : LoadedRangeManifest}
      {rest : Multiset LoadedRangeManifest} {total : UInt64} (discovered : Nat)
      (verdicts : List Verdict) (live : s.snapshots = snapshot ::ₘ rest)
      (goesBy : fillTotal resource snapshot.manifest discovered = total.toNat)
      (resumable : rangeSizeIsResumable total.toNat = true)
      (changes : snapshot.manifest.totalLength ≠ some total.toNat) :
      ResourceStep resource s (.publish snapshot total)
        { files :=
            (publishRangeManifest resource snapshot (setTotal total.toNat) s.files verdicts).2.1
          snapshots := rest }
  | operate {s : FillSystem} {operation : StoreOperation} {files : ResourceFiles}
      {outcome : Outcome RangeExtentCommitFailure Unit} (other : operation.LeavesTotal)
      (ok : StoreStep resource s.files (operation, outcome) files) :
      ResourceStep resource s (.operate operation) { s with files := files }

/-- A fill publishes only where the manifest has no total yet, or has the one it discovered. -/
def FreshTotal (s : FillSystem) : ResourceAction → Prop
  | .publish _ total => ∀ known, s.total = some known → known = total.toNat
  | .read => True
  | .operate _ => True

section

variable [UrlParser] {resource : HlsMediaResource} {files : ResourceFiles} {s t : FillSystem}

theorem reads_ensureRangeManifest (h : files.loaded.isSome) :
    Reads (ensureRangeManifest resource) files fun loaded => files.loaded = some loaded := by
  refine Inspects.bind (reads_loadRangeManifest resource files) ?_
  rintro _ ⟨rfl, _⟩
  cases hl : files.loaded with
  | none => simp [hl] at h
  | some loaded => exact inspects_pure rfl

theorem Stored.loaded_isSome (h : Stored resource files) : files.loaded.isSome := by
  obtain ⟨manifest, data, hh, _⟩ := h
  have hcurr := hh.manifestFile
  unfold ResourceFiles.loaded
  cases hob : files.rangeManifest with
  | none => simp [hob] at hcurr
  | some object => rfl

omit [UrlParser] in
/-- The total length after an operation that replaces the manifest as `publishes` says. -/
theorem total_of_replaces {publishes : PersistedRangeManifest → PersistedRangeManifest → Prop}
    (h : Replaces publishes s.files t.files)
    (keeps : ∀ old new, s.files.current = some old → publishes old new →
      new.totalLength = old.totalLength) : t.total = s.total := by
  unfold FillSystem.total
  rcases h with hsame | ⟨old, new, hold, hnew, hpublishes⟩
  · rw [hsame]
  · rw [hold, hnew]
    exact keeps old new hold hpublishes

omit [UrlParser] in
theorem StoreOperation.keepsTotal {operation : StoreOperation} (other : operation.LeavesTotal)
    {old new : PersistedRangeManifest} (h : operation.publishes old new) :
    new.totalLength = old.totalLength := by
  cases operation with
  | commit activeFlightCount range input => exact PublishesCommit.total h
  | publishTotal expected total => exact other.elim
  | publishOrigin expected origin strongEtag => exact PublishesOrigin.total h
  | compact control activeFlightCount forceDrain => exact PublishesMerge.total h

theorem publishRangeManifest_replaces (h : Stored resource files) (expected : LoadedRangeManifest)
    (total : UInt64) (verdicts : List Verdict) :
    Stored resource (publishRangeManifest resource expected (setTotal total.toNat) files
        verdicts).2.1 ∧
      Replaces (PublishesTotal expected.manifest total.toNat) files
        (publishRangeManifest resource expected (setTotal total.toNat) files verdicts).2.1 := by
  have hbd : total.toNat ≤ u64Max := by
    have := total.toNat_lt
    unfold u64Max
    omega
  have hends := publishRangeManifest_staysPut h expected hbd verdicts
  revert hends
  cases (publishRangeManifest resource expected (setTotal total.toNat) files verdicts).1 with
  | returned loaded => exact fun hends => ⟨hends.1.stored, hends.1.replaces⟩
  | raised error | crashed => exact fun hends => ⟨hends.stored, hends.replaces⟩

theorem ResourceStep.stored {action : ResourceAction} (hst : ResourceStep resource s action t)
    (h : Stored resource s.files) : Stored resource t.files := by
  cases hst with
  | read verdicts =>
    rw [(reads_ensureRangeManifest h.loaded_isSome).state_eq verdicts]
    exact h
  | publish discovered verdicts live goesBy resumable changes =>
    exact (publishRangeManifest_replaces h _ _ verdicts).1
  | operate other ok => exact (ok.advances h).1

/-- The step lemma: a step that meets the condition leaves a known total alone. -/
theorem ResourceStep.keeps_total {action : ResourceAction}
    (hst : Guarded (ResourceStep resource) FreshTotal s action t)
    (h : Stored resource s.files) {total : Nat} (htot : s.total = some total) :
    t.total = some total := by
  obtain ⟨hst, hfr⟩ := hst
  cases hst with
  | read verdicts =>
    rw [(reads_ensureRangeManifest h.loaded_isSome).state_eq verdicts]
    exact htot
  | publish discovered verdicts live goesBy resumable changes =>
    rw [← htot]
    refine total_of_replaces (publishRangeManifest_replaces h _ _ verdicts).2 ?_
    intro old new hold hpublishes
    have hk : old.totalLength = some total := by
      simpa [FillSystem.total, hold] using htot
    rw [hpublishes.total, hk, hfr total htot]
  | operate other ok =>
    rw [← htot]
    refine total_of_replaces (ok.advances h).2.2.2 ?_
    intro old new _ hpublishes
    exact StoreOperation.keepsTotal other hpublishes

theorem total_of_published (h : Stored resource files) {expected loaded : LoadedRangeManifest}
    {total : UInt64} {verdicts : List Verdict}
    (hreturned : (publishRangeManifest resource expected (setTotal total.toNat) files verdicts).1 =
      .returned loaded) :
    (publishRangeManifest resource expected (setTotal total.toNat) files verdicts).2.1.current.bind
      PersistedRangeManifest.totalLength = some total.toNat := by
  have hbd : total.toNat ≤ u64Max := by
    have := total.toNat_lt
    unfold u64Max
    omega
  have hends := publishRangeManifest_staysPut h expected hbd verdicts
  rw [hreturned] at hends
  obtain ⟨_, hl, htot⟩ := hends
  obtain ⟨object, hob, rfl⟩ := Option.map_eq_some_iff.mp hl
  simpa [ResourceFiles.current, hob] using htot

theorem ResourceStep.read_completes {after : ResourceFiles} {snapshots : Multiset LoadedRangeManifest}
    {loaded : LoadedRangeManifest}
    (h : Completes (ensureRangeManifest resource) files loaded after) :
    ResourceStep resource ⟨files, snapshots⟩ .read ⟨after, loaded ::ₘ snapshots⟩ := by
  have hrun : ensureRangeManifest resource files [] = (.returned loaded, after, []) := h
  have hst := @ResourceStep.read _ resource ⟨files, snapshots⟩ []
  rw [hrun] at hst
  exact hst

theorem ResourceStep.publish_completes {after : ResourceFiles} {rest : Multiset LoadedRangeManifest}
    {snapshot loaded : LoadedRangeManifest} {total : UInt64} (unsized : resource.size = none)
    (unknown : snapshot.manifest.totalLength = none)
    (resumable : rangeSizeIsResumable total.toNat = true)
    (h : Completes (publishRangeManifest resource snapshot (setTotal total.toNat)) files loaded
      after) :
    ResourceStep resource ⟨files, snapshot ::ₘ rest⟩ (.publish snapshot total) ⟨after, rest⟩ := by
  have hrun : publishRangeManifest resource snapshot (setTotal total.toNat) files [] =
      (.returned loaded, after, []) := h
  have hst := @ResourceStep.publish _ resource ⟨files, snapshot ::ₘ rest⟩ snapshot rest total
    total.toNat [] rfl (by simp [fillTotal, unsized, unknown]) resumable (by simp [unknown])
  rw [hrun] at hst
  exact hst

theorem stored_of_run {labels : List ResourceAction} (hrun : Run (ResourceStep resource) s labels t)
    (h : Stored resource s.files) : Stored resource t.files :=
  hrun.invariant (fun s => Stored resource s.files) (fun hst h => hst.stored h) h

/-- Once a total is published, a run in which every discovered total meets the condition keeps
it; and a publication that returns without meeting the condition replaces it. -/
theorem total_length_stable {start s : FillSystem} {before : List ResourceAction}
    (hstart : Stored resource start.files)
    (hbefore : Run (ResourceStep resource) start before s) {total : Nat}
    (htotal : s.total = some total) :
    (∀ after t, Run (Guarded (ResourceStep resource) FreshTotal) s after t → t.total = some total) ∧
      ∀ (snapshot loaded : LoadedRangeManifest) (other : UInt64) (verdicts : List Verdict),
        ¬ FreshTotal s (.publish snapshot other) →
        (publishRangeManifest resource snapshot (setTotal other.toNat) s.files verdicts).1 =
          .returned loaded →
        (publishRangeManifest resource snapshot (setTotal other.toNat) s.files
          verdicts).2.1.current.bind PersistedRangeManifest.totalLength ≠ some total := by
  have hstored : Stored resource s.files := stored_of_run hbefore hstart
  constructor
  · intro after t hafter
    have hboth : Stored resource t.files ∧ t.total = some total :=
      hafter.invariant (fun t => Stored resource t.files ∧ t.total = some total)
        (fun hstep h => ⟨hstep.1.stored h.1, ResourceStep.keeps_total hstep h.1 h.2⟩) ⟨hstored, htotal⟩
    exact hboth.2
  · intro snapshot loaded other verdicts hstale hreturned hsame
    rw [total_of_published hstored hreturned] at hsame
    apply hstale
    intro known hknown
    rw [htotal] at hknown
    cases hknown
    exact (Option.some.inj hsame).symm

end

/-- A resource whose length is not known in advance. -/
def unsizedVideo : HlsMediaResource := { sampleVideo with size := none }

def unsizedManifest : LoadedRangeManifest where
  manifest := initialManifest unsizedVideo ⟨1, 100⟩
  bytesDigest := "73682b6475876a2a84f89fafd98c748ad250263251e0f28b5b6e3e1e8d786e65"
  fileIdentity := ⟨1, 101⟩

def unsizedFiles : ResourceFiles :=
  { noFiles with
    rangeData := some ⟨⟨1, 100⟩, []⟩
    rangeManifest := some ⟨⟨1, 101⟩, unsizedManifest.manifest⟩
    nextInode := 102 }

def firstManifest : LoadedRangeManifest where
  manifest := { unsizedManifest.manifest with generation := 2, totalLength := some 100 }
  bytesDigest := "75caf7738760c14cf3e7815c002755624cab4cdef872ab4ff9d9c3ab85bf36fb"
  fileIdentity := ⟨1, 102⟩

def firstFiles : ResourceFiles :=
  { unsizedFiles with
    rangeManifest := some ⟨⟨1, 102⟩, firstManifest.manifest⟩
    nextInode := 103 }

def secondManifest : LoadedRangeManifest where
  manifest := { unsizedManifest.manifest with generation := 3, totalLength := some 200 }
  bytesDigest := "3c68465ef61962d0a3beb39adbe585f38f37e0a3248d2f9fee1c8218ed4aa26f"
  fileIdentity := ⟨1, 103⟩

def secondFiles : ResourceFiles :=
  { firstFiles with
    rangeManifest := some ⟨⟨1, 103⟩, secondManifest.manifest⟩
    nextInode := 104 }

theorem unsizedManifest_created :
    Completes (@ensureRangeManifest sampleUrls unsizedVideo) noFiles unsizedManifest
      unsizedFiles := by
  unfold Completes
  decide +kernel

theorem unsizedManifest_read :
    Completes (@ensureRangeManifest sampleUrls unsizedVideo) unsizedFiles unsizedManifest
      unsizedFiles := by
  unfold Completes
  decide +kernel

theorem firstManifest_published :
    Completes (@publishRangeManifest sampleUrls unsizedVideo unsizedManifest (setTotal 100))
      unsizedFiles firstManifest firstFiles := by
  unfold Completes
  decide +kernel

theorem secondManifest_published :
    Completes (@publishRangeManifest sampleUrls unsizedVideo unsizedManifest (setTotal 200))
      firstFiles secondManifest secondFiles := by
  unfold Completes
  decide +kernel

theorem unsizedFiles_stored : @Stored sampleUrls unsizedVideo unsizedFiles :=
  @stored_of_completes sampleUrls unsizedVideo noFiles unsizedManifest unsizedFiles rfl
    unsizedManifest_created

theorem firstFiles_run :
    Run (@ResourceStep sampleUrls unsizedVideo) ⟨unsizedFiles, unsizedManifest ::ₘ 0⟩
      [.read, .publish unsizedManifest 100] ⟨firstFiles, unsizedManifest ::ₘ 0⟩ :=
  Run.cons (@ResourceStep.read_completes sampleUrls _ _ _ _ _ unsizedManifest_read)
    (Run.single (@ResourceStep.publish_completes sampleUrls _ _ _ _ _ _ 100 rfl rfl (by decide)
      firstManifest_published))

theorem total_length_stable_first :
    (∀ after t, Run (Guarded (@ResourceStep sampleUrls unsizedVideo) FreshTotal)
        ⟨firstFiles, unsizedManifest ::ₘ 0⟩ after t → t.total = some 100) ∧
      ∀ (snapshot loaded : LoadedRangeManifest) (other : UInt64) (verdicts : List Verdict),
        ¬ FreshTotal ⟨firstFiles, unsizedManifest ::ₘ 0⟩ (.publish snapshot other) →
        (@publishRangeManifest sampleUrls unsizedVideo snapshot (setTotal other.toNat) firstFiles
          verdicts).1 = .returned loaded →
        (@publishRangeManifest sampleUrls unsizedVideo snapshot (setTotal other.toNat) firstFiles
          verdicts).2.1.current.bind PersistedRangeManifest.totalLength ≠ some 100 :=
  @total_length_stable sampleUrls unsizedVideo ⟨unsizedFiles, unsizedManifest ::ₘ 0⟩
    ⟨firstFiles, unsizedManifest ::ₘ 0⟩ _ unsizedFiles_stored firstFiles_run 100 rfl

/-- Two fills read the manifest before either has published: the second one to publish replaces
the total of the first. -/
theorem total_length_replaced :
    Run (@ResourceStep sampleUrls unsizedVideo) ⟨noFiles, 0⟩
        [.read, .read, .publish unsizedManifest 100] ⟨firstFiles, unsizedManifest ::ₘ 0⟩ ∧
      Run (@ResourceStep sampleUrls unsizedVideo) ⟨firstFiles, unsizedManifest ::ₘ 0⟩
        [.publish unsizedManifest 200] ⟨secondFiles, 0⟩ ∧
      Completes (@publishRangeManifest sampleUrls unsizedVideo unsizedManifest (setTotal 200))
        firstFiles secondManifest secondFiles ∧
      FillSystem.total ⟨firstFiles, unsizedManifest ::ₘ 0⟩ = some 100 ∧
      FillSystem.total ⟨secondFiles, 0⟩ = some 200 :=
  ⟨Run.cons (@ResourceStep.read_completes sampleUrls _ _ _ _ _ unsizedManifest_created) firstFiles_run,
    Run.single (@ResourceStep.publish_completes sampleUrls _ _ _ _ _ _ 200 rfl rfl (by decide)
      secondManifest_published),
    secondManifest_published, rfl, rfl⟩

end NetPlayer.RangeCache
