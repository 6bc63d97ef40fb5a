import NetPlayer.Library.Transition
import NetPlayer.RangeCache.StoreCommit

/-!
# Runs of the range store

Any sequence of commits, publications and compactions, each of which may fail or
crash anywhere, starting from a manifest that was just created.
-/

namespace NetPlayer.RangeCache

open Faulty Faulty.Program Spans Slices Transition

theorem ends_createNewMedia (path : ManagedPath) (files : ResourceFiles) :
    Ends (createNewMedia path) files
      ⟨fun _ t => files.identityAt path = none ∧ t = files.createMedia path,
        fun _ _ => True, fun _ => True⟩ := by
  refine ends_call (fun _ t h => ?_) (fun _ _ => trivial) (fun _ => trivial) fun _ => trivial
  split at h
  · cases h
  · cases h
    exact ⟨by simpa using ‹¬(files.identityAt path).isSome = true›, rfl⟩

section

variable [UrlParser] {resource : HlsMediaResource} {files : ResourceFiles}

theorem initialManifest_sound {identity : FileIdentity}
    (hv : validateRangeManifest (initialManifest resource identity) resource = .ok ())
    (data : Bytes) : CheckpointSound resource (initialManifest resource identity) data where
  valid := hv
  digests := by simp [initialManifest]
  prefixDigest := by simp [initialManifest]
  totalLimit := by
    intro total htot
    simp only [initialManifest, Option.map_eq_some_iff] at htot
    obtain ⟨size, _, rfl⟩ := htot
    have := size.toNat_lt
    unfold u64Max
    omega
  totalKnown := by simp [initialManifest]

theorem ends_ensureRangeManifest (ha : files.rangeManifest = none) :
    Ends (ensureRangeManifest resource) files
      ⟨fun _ t => Stored resource t ∧
          ∃ identity, t.current = some (initialManifest resource identity),
        fun _ _ => True, fun _ => True⟩ := by
  have hnever : files.loaded = none := by simp [ResourceFiles.loaded, ha]
  refine Ends.bind_inspects (reads_loadRangeManifest resource files) ?_ (fun _ _ => trivial) trivial
  rintro found ⟨hf, _⟩
  rw [hnever] at hf
  subst hf
  refine Ends.bind_inspects (reads_osCall (by decide) files) (fun _ _ => ?_) (fun _ _ => trivial)
    trivial
  refine Ends.bind_inspects (reads_osCall (by decide) files) (fun _ _ => ?_) (fun _ _ => trivial)
    trivial
  refine Ends.bind (ends_createNewMedia .rangeData files) ?_ (fun _ _ _ => trivial)
    fun _ _ => trivial
  rintro _ _ ⟨_, rfl⟩
  refine Ends.bind_inspects (reads_osCall (by decide) _) (fun _ _ => ?_) (fun _ _ => trivial)
    trivial
  refine Ends.bind_inspects (reads_objectIdentity .rangeData _) (fun identity hident => ?_)
    (fun _ _ => trivial) trivial
  refine Ends.bind (ends_syncDirectory _) ?_ (fun _ _ _ => trivial) fun _ _ => trivial
  rintro _ _ rfl
  refine Ends.bind (ends_writeJsonAtomically _ _) ?_ (fun _ _ _ => trivial) fun _ _ => trivial
  rintro _ _ rfl
  refine Ends.bind (ends_syncDirectory _) ?_ (fun _ _ _ => trivial) fun _ _ => trivial
  rintro _ _ rfl
  refine Ends.mono (reads_loadExisting resource _) ?_ (fun _ _ _ => trivial) fun _ _ => trivial
  rintro loaded _ ⟨rfl, hl, hv⟩
  cases hident
  have hh : Holds ((files.createMedia .rangeData).installManifest
      (initialManifest resource files.freshIdentity))
      (initialManifest resource files.freshIdentity) ⟨files.freshIdentity, []⟩ :=
    ⟨rfl, rfl, rfl⟩
  rw [hh.loaded_manifest hl] at hv
  exact ⟨⟨_, _, hh, initialManifest_sound hv _⟩, _, hh.manifestFile⟩

variable {loaded : LoadedRangeManifest}

theorem created_stored {verdicts : List Verdict} (ha : files.rangeManifest = none)
    (hcreated : (ensureRangeManifest resource files verdicts).1 = .returned loaded) :
    Stored resource (ensureRangeManifest resource files verdicts).2.1 ∧
      ∃ identity, (ensureRangeManifest resource files verdicts).2.1.current =
        some (initialManifest resource identity) := by
  have hends := @ends_ensureRangeManifest _ resource files ha verdicts
  rwa [hcreated] at hends

theorem stored_of_completes {after : ResourceFiles} (ha : files.rangeManifest = none)
    (hcompls : Completes (ensureRangeManifest resource) files loaded after) :
    Stored resource after := by
  have hrun : ensureRangeManifest resource files [] = (.returned loaded, after, []) := hcompls
  have hstor := (@created_stored _ resource files loaded [] ha (by rw [hrun])).1
  rwa [hrun] at hstor

inductive StoreOperation
  | commit (activeFlightCount : Nat) (range : ByteRange) (input : RangeExtentCommitInput)
  | publishTotal (expected : LoadedRangeManifest) (total : UInt64)
  | publishOrigin (expected : LoadedRangeManifest) (origin : String) (strongEtag : Option String)
  | compact (control : CompactionControl) (activeFlightCount : Nat) (forceDrain : Bool)

def forEffect {Value : Type} (program : FileM Value) :
    Program ResourceFiles RangeExtentCommitFailure Unit :=
  (program >>= fun _ => pure ()).mapError RangeExtentCommitFailure.rejected

def StoreOperation.program (resource : HlsMediaResource) :
    StoreOperation → Program ResourceFiles RangeExtentCommitFailure Unit
  | .commit activeFlightCount range input => do
      let _ ← commitRangeExtentWithFailure resource activeFlightCount range input
  | .publishTotal expected total =>
    forEffect (publishRangeManifest resource expected (setTotal total.toNat))
  | .publishOrigin expected origin strongEtag =>
    forEffect (publishValidatedOrigin resource expected origin strongEtag)
  | .compact control activeFlightCount forceDrain =>
    forEffect (compactOneCompleteRangeParent resource control activeFlightCount forceDrain)

def StoreOperation.adds : StoreOperation → Finset Nat
  | .commit _ range _ => offsets range
  | .publishTotal _ _ => ∅
  | .publishOrigin _ _ _ => ∅
  | .compact _ _ _ => ∅

def StoreOperation.publishes :
    StoreOperation → PersistedRangeManifest → PersistedRangeManifest → Prop
  | .commit activeFlightCount _ _ => PublishesCommit activeFlightCount
  | .publishTotal expected total => PublishesTotal expected.manifest total.toNat
  | .publishOrigin _ _ _ => PublishesOrigin
  | .compact _ _ _ => PublishesMerge

/-- One operation, whatever its calls meet with; the label says how it ended. -/
inductive StoreStep (resource : HlsMediaResource) :
    ResourceFiles → StoreOperation × Outcome RangeExtentCommitFailure Unit → ResourceFiles → Prop
  | run (files : ResourceFiles) (operation : StoreOperation) (verdicts : List Verdict) :
      StoreStep resource files (operation, (operation.program resource files verdicts).1)
        (operation.program resource files verdicts).2.1

/-- The bytes covered after an operation that was to add `added` to `before`. A failed directory
sync comes after the new manifest is in place. -/
def CoversAfter (outcome : Outcome RangeExtentCommitFailure Unit)
    (before added after : Finset Nat) : Prop :=
  match outcome with
  | .returned _ => after = before ∪ added
  | .raised failure =>
    if failure = .rejected (.io (.os .syncDirectory)) then after = before ∪ added
    else after = before
  | .crashed => after = before ∨ after = before ∪ added

/-- Where an operation that is to add `added` can end. -/
def operationPost (resource : HlsMediaResource)
    (publishes : PersistedRangeManifest → PersistedRangeManifest → Prop) (files : ResourceFiles)
    (added : Finset Nat) : Post ResourceFiles RangeExtentCommitFailure Unit where
  returned := fun _ t => Advances resource publishes files t (coveredSet files ∪ added)
  raised := fun failure t => Advances resource publishes files t
    (if failure = .rejected (.io (.os .syncDirectory)) then coveredSet files ∪ added
      else coveredSet files)
  crashed := fun t => Advances resource publishes files t (coveredSet files) ∨
    Advances resource publishes files t (coveredSet files ∪ added)

theorem ends_forEffect {Value : Type} {program : FileM Value}
    {publishes : PersistedRangeManifest → PersistedRangeManifest → Prop}
    {result : Value → ResourceFiles → Prop}
    (h : StaysPut resource publishes result program files) :
    Ends (forEffect program) files (operationPost resource publishes files ∅) := by
  have hpure : StaysPut resource publishes (fun _ _ => True) (program >>= fun _ => pure ()) files :=
    Ends.bind h (fun _ _ h => ends_pure ⟨h.1, trivial⟩) (fun _ _ h => h) fun _ h => h
  refine Ends.mapError hpure (fun _ t h => ?_) (fun _ t h => ?_) fun _ h => .inl h
  · show Advances resource publishes files t (coveredSet files ∪ ∅)
    rw [Finset.union_empty]
    exact h.1
  · show Advances resource publishes files t (if _ then coveredSet files ∪ ∅ else coveredSet files)
    rwa [Finset.union_empty, ite_self]

theorem ends_operation (h : Stored resource files) (operation : StoreOperation) :
    Ends (operation.program resource) files
      (operationPost resource operation.publishes files operation.adds) := by
  cases operation with
  | commit activeFlightCount range input =>
    refine Ends.bind (ends_commitRangeExtent h activeFlightCount range input)
      (fun _ t h => ends_pure h.2) (fun failure t h => ?_) fun _ h => h
    show Advances resource _ files t (if _ then _ else _)
    rcases h with ⟨hfailure, h⟩ | ⟨rfl, h⟩
    · rwa [if_neg hfailure]
    · rwa [if_pos rfl]
  | publishTotal expected total =>
    refine ends_forEffect (publishRangeManifest_staysPut h expected ?_)
    have := total.toNat_lt
    unfold u64Max
    omega
  | publishOrigin expected origin strongEtag =>
    exact ends_forEffect (publishValidatedOrigin_staysPut h expected origin strongEtag)
  | compact control activeFlightCount forceDrain =>
    exact ends_forEffect
      (compactOneCompleteRangeParent_staysPut h control activeFlightCount forceDrain)

/-- The step lemma: every operation keeps the store and adds what it should. -/
theorem StoreStep.advances {next : ResourceFiles} {operation : StoreOperation}
    {outcome : Outcome RangeExtentCommitFailure Unit}
    (hst : StoreStep resource files (operation, outcome) next) (h : Stored resource files) :
    Stored resource next ∧ KeepsBytes (coveredSet files) files next ∧
      CoversAfter outcome (coveredSet files) operation.adds (coveredSet next) ∧
      Replaces operation.publishes files next := by
  cases hst with
  | run _ verdicts =>
    have hends := ends_operation h operation verdicts
    revert hends
    generalize operation.program resource files verdicts = result
    obtain ⟨outcome, next, rest⟩ := result
    intro hends
    cases outcome with
    | returned _ =>
      have hends : Advances resource _ files next _ := hends
      exact ⟨hends.stored, hends.keeps, hends.covers_eq, hends.replaces⟩
    | raised failure =>
      have hends : Advances resource _ files next _ := hends
      refine ⟨hends.stored, hends.keeps, ?_, hends.replaces⟩
      have hcovers := hends.covers_eq
      show if failure = _ then _ else _
      by_cases hsync : failure = .rejected (.io (.os .syncDirectory))
      · rwa [if_pos hsync] at hcovers ⊢
      · rwa [if_neg hsync] at hcovers ⊢
    | crashed =>
      rcases hends with hends | hends
      · exact ⟨hends.stored, hends.keeps, .inl hends.covers_eq, hends.replaces⟩
      · exact ⟨hends.stored, hends.keeps, .inr hends.covers_eq, hends.replaces⟩

structure ManifestInvariant (resource : HlsMediaResource) (files : ResourceFiles)
    (manifest : PersistedRangeManifest) (data : FileObject Bytes) : Prop where
  current : files.rangeManifest.map FileObject.content = some manifest
  dataObject : files.rangeData = some data ∧ manifest.dataIdentity = some data.identity
  valid : validateRangeManifest manifest resource = .ok ()
  sorted : manifest.extents.Pairwise fun a b => a.stop ≤ b.start
  nonempty : ∀ extent ∈ manifest.extents, extent.start < extent.stop
  inside : ∀ total, manifest.totalLength = some total →
    ∀ extent ∈ manifest.extents, extent.stop ≤ total
  measure : manifest.durableBytes = (coveredSet files).card
  digests : ∀ extent ∈ manifest.extents, extent.stop ≤ data.content.length ∧
    sha256Hex (slice data.content extent.start extent.stop) = extent.sha256

theorem Stored.invariant (h : Stored resource files) :
    ∃ manifest data, ManifestInvariant resource files manifest data := by
  obtain ⟨manifest, data, hh, hs⟩ := h
  have hord := hs.ordered
  refine ⟨manifest, data, hh.manifestFile, ⟨hh.dataFile, hh.identity⟩, hs.valid,
    ?_, fun extent hm => (hord.mem hm).2, fun total htot extent hm =>
      stop_le_total_of_valid hs.valid hm htot, ?_, hs.digests⟩
  · exact hord.pairwise
  · rw [hh.coveredSet_eq]
    exact hs.durableBytes

/-- In every run from a created manifest the current manifest satisfies its invariant, and
every further operation leaves the bytes covered so far alone, adds exactly what it committed
when it succeeds or when only its directory sync fails, and nothing when it fails otherwise. -/
theorem range_store_invariant {resource : HlsMediaResource} {files now : ResourceFiles}
    {loaded : LoadedRangeManifest} {verdicts : List Verdict}
    {history : List (StoreOperation × Outcome RangeExtentCommitFailure Unit)}
    (habsent : files.rangeManifest = none)
    (hcreated : (ensureRangeManifest resource files verdicts).1 = .returned loaded)
    (hrun : Run (StoreStep resource) (ensureRangeManifest resource files verdicts).2.1 history now) :
    (∃ manifest data, ManifestInvariant resource now manifest data) ∧
      ∀ operation outcome next, StoreStep resource now (operation, outcome) next →
        KeepsBytes (coveredSet now) now next ∧
          CoversAfter outcome (coveredSet now) operation.adds (coveredSet next) := by
  have hstored : Stored resource now :=
    hrun.invariant (Stored resource) (fun hstep h => (hstep.advances h).1)
      (created_stored habsent hcreated).1
  refine ⟨hstored.invariant, fun operation outcome next hstep => ?_⟩
  obtain ⟨_, hkeeps, hcovers, _⟩ := hstep.advances hstored
  exact ⟨hkeeps, hcovers⟩

end

/-- One origin, under the URL of a file and under its own name. -/
@[reducible] def sampleUrls : UrlParser where
  parse url :=
    if url = "https://cdn.test/video" ∨ url = "https://cdn.test:443" then
      some ⟨"https", some "cdn.test", some 443⟩
    else none

def sampleVideo : HlsMediaResource where
  id := "video"
  representation := "4bf5122f344554c53bde2ebb8cd2b7e3d1600ad631c385a5d7cce23c7785459a"
  contentType := "video/mp4"
  size := some 6
  cacheKey := ⟨"c", "video", none, none⟩

def noFiles : ResourceFiles where
  rangeData := none
  rangeFullGetTemp := none
  final := none
  rangeManifest := none
  metadata := none
  device := 1
  nextInode := 100
  dataWrites := []

def createdManifest : LoadedRangeManifest where
  manifest := initialManifest sampleVideo ⟨1, 100⟩
  bytesDigest := "fc16f0ddf9596c3d7880e87bf85c1478a36f7fc4ba90644e1e544045f5ae96cb"
  fileIdentity := ⟨1, 101⟩

def createdFiles : ResourceFiles :=
  { noFiles with
    rangeData := some ⟨⟨1, 100⟩, []⟩
    rangeManifest := some ⟨⟨1, 101⟩, createdManifest.manifest⟩
    nextInode := 102 }

def startupCommit : RangeExtentCommitInput where
  expected := createdManifest.manifest
  bytes := [1, 2, 3]
  finalUrl := "https://cdn.test/video"
  etag := some "\"e\""
  lastModified := none

def startupOperation : StoreOperation := .commit 1 ⟨0, 3⟩ startupCommit

def startupDigest : String := "039058c6f2c0cb492c533b0a4d14ef77cc0f78abccced5287d84a1a2011cfb81"

def committedManifest : LoadedRangeManifest where
  manifest :=
    { createdManifest.manifest with
      generation := 2
      strongEtag := some "\"e\""
      validatorOrigin := some "https://cdn.test:443"
      prefixLength := 3
      prefixSha256 := some startupDigest
      durableBytes := 3
      validatedOrigins := [⟨"https://cdn.test:443", startupDigest, some "\"e\""⟩]
      extents := [⟨0, 3, startupDigest⟩] }
  bytesDigest := "3351ff24d288db1c8dd7d7529f29bf2011256ca7e7f981590b1fe23a6c8e74d2"
  fileIdentity := ⟨1, 102⟩

def committedFiles : ResourceFiles :=
  { createdFiles with
    rangeData := some ⟨⟨1, 100⟩, [1, 2, 3]⟩
    rangeManifest := some ⟨⟨1, 102⟩, committedManifest.manifest⟩
    nextInode := 103
    dataWrites := [⟨0, 3⟩] }

theorem createdManifest_completes :
    Completes (@ensureRangeManifest sampleUrls sampleVideo) noFiles createdManifest
      createdFiles := by
  unfold Completes
  decide +kernel

theorem startupCommit_completes :
    Completes (@StoreOperation.program sampleUrls sampleVideo startupOperation) createdFiles ()
      committedFiles := by
  unfold Completes
  decide +kernel

theorem startup_step :
    @StoreStep sampleUrls sampleVideo createdFiles (startupOperation, .returned ())
      committedFiles := by
  have hrun : @StoreOperation.program sampleUrls sampleVideo startupOperation createdFiles [] =
      (.returned (), committedFiles, []) := startupCommit_completes
  have hst := @StoreStep.run sampleUrls sampleVideo createdFiles startupOperation []
  rwa [hrun] at hst

theorem range_store_invariant_startup :
    (∃ manifest data, @ManifestInvariant sampleUrls sampleVideo committedFiles manifest data) ∧
      ∀ operation outcome next,
        @StoreStep sampleUrls sampleVideo committedFiles (operation, outcome) next →
        KeepsBytes (coveredSet committedFiles) committedFiles next ∧
          CoversAfter outcome (coveredSet committedFiles) operation.adds (coveredSet next) := by
  have hcreated : @ensureRangeManifest sampleUrls sampleVideo noFiles [] =
      (.returned createdManifest, createdFiles, []) := createdManifest_completes
  apply @range_store_invariant sampleUrls sampleVideo noFiles committedFiles createdManifest []
    [(startupOperation, .returned ())] rfl
  · rw [hcreated]
  · rw [hcreated]
    exact Run.single startup_step

def unsyncedVerdicts : List Verdict := List.replicate 33 .proceed ++ [.fail 0]

set_option maxRecDepth 10000 in
theorem unsyncedCommit_raises :
    @StoreOperation.program sampleUrls sampleVideo startupOperation createdFiles unsyncedVerdicts =
      (.raised (.rejected (.io (.os .syncDirectory))), committedFiles, []) := by
  decide +kernel

theorem failed_commit_adds_bytes :
    Completes (@ensureRangeManifest sampleUrls sampleVideo) noFiles createdManifest createdFiles ∧
      @StoreStep sampleUrls sampleVideo createdFiles
        (startupOperation, .raised (.rejected (.io (.os .syncDirectory)))) committedFiles ∧
      coveredSet createdFiles = ∅ ∧ coveredSet committedFiles = {0, 1, 2} := by
  refine ⟨createdManifest_completes, ?_, by decide, by decide⟩
  have hstep := @StoreStep.run sampleUrls sampleVideo createdFiles startupOperation unsyncedVerdicts
  rwa [unsyncedCommit_raises] at hstep

end NetPlayer.RangeCache
