import NetPlayer.RangeCache.FinalizeRecovery
import NetPlayer.RangeCache.FullGet

/-!
# Recovery of an interrupted full GET

A full GET leaves the traces of the empty range fill until the completed file has
its metadata. A crash in between leaves both a completed file and a manifest that
is bound to another object; no later fill gets past them.
-/

namespace NetPlayer.RangeCache

open Faulty Faulty.Program Slices Segments Transition List Option

def OnlyTemp (files t : ResourceFiles) : Prop :=
  ∃ temp nextInode, t = { files with rangeFullGetTemp := temp, nextInode := nextInode }

section

variable {files t : ResourceFiles}

theorem OnlyTemp.refl (files : ResourceFiles) : OnlyTemp files files :=
  ⟨files.rangeFullGetTemp, files.nextInode, rfl⟩

theorem OnlyTemp.truncate (h : OnlyTemp files t) :
    OnlyTemp files (t.truncateMedia .rangeFullGetTemp) := by
  obtain ⟨temp, nextInode, rfl⟩ := h
  unfold ResourceFiles.truncateMedia
  split
  · exact ⟨_, nextInode, rfl⟩
  · exact ⟨_, nextInode + 1, rfl⟩

theorem OnlyTemp.append (h : OnlyTemp files t) (bytes : Bytes) :
    OnlyTemp files (t.appendMedia .rangeFullGetTemp bytes) := by
  obtain ⟨temp, nextInode, rfl⟩ := h
  exact ⟨_, nextInode, rfl⟩

theorem OnlyTemp.removeTemp (h : OnlyTemp files t) :
    OnlyTemp files (t.remove .rangeFullGetTemp) := by
  obtain ⟨temp, nextInode, rfl⟩ := h
  exact ⟨none, nextInode, rfl⟩

theorem keeps_osCall {inv : ResourceFiles → Prop} (call : FileCall) :
    Keeps inv (osCall call) := keeps_inspect _ _

theorem keeps_discardBody (files : ResourceFiles) (error : HlsRangeError) :
    Keeps (OnlyTemp files) (discardBody error) := by
  apply Keeps.bind (keeps_atomic fun _ h => h.truncate)
  intro _
  apply Keeps.bind (keeps_osCall _)
  intro _
  exact keeps_pure _

theorem keeps_checkBody (files : ResourceFiles) (total : Nat) :
    Keeps (OnlyTemp files) (checkBody total) := by
  apply Keeps.bind (Keeps.attempt (keeps_inspect _ _))
  intro found
  cases found with
  | none => exact keeps_discardBody files _
  | some initializationLength =>
    dsimp only
    split
    · apply Keeps.bind (Keeps.attempt (keeps_inspect _ _))
      intro segments
      cases segments with
      | none => exact keeps_discardBody files _
      | some segments => exact keeps_pure _
    · exact keeps_discardBody files _

theorem keeps_readChunks (files : ResourceFiles) (expected : Nat) (broken : Bool) (total : Nat)
    (chunks : List Bytes) : Keeps (OnlyTemp files) (readChunks expected broken total chunks) := by
  induction chunks generalizing total with
  | nil => exact keeps_pure _
  | cons chunk rest ih =>
    unfold readChunks
    dsimp only
    split
    · exact keeps_pure _
    · apply Keeps.bind (keeps_gradual (fun _ h => h.append _) fun _ _ h => h.append _)
      intro _
      exact ih _

theorem keeps_downloadBody (files : ResourceFiles) (source : FullGetSource)
    (resource : HlsMediaResource) (expected : Nat) (chunks : List Bytes) (broken : Bool) :
    Keeps (OnlyTemp files) (downloadBody source resource expected chunks broken) := by
  apply Keeps.bind (keeps_forEach (fun call => keeps_osCall call) _)
  intro _
  apply Keeps.bind (keeps_inspect _ _)
  intro _
  apply Keeps.bind (keeps_osCall _)
  intro _
  apply Keeps.bind (keeps_atomic fun _ h => h.truncate)
  intro _
  apply Keeps.bind (keeps_readChunks files expected broken 0 chunks)
  intro received
  obtain ⟨total, stopped⟩ := received
  cases stopped with
  | some error => exact keeps_discardBody files error
  | none =>
    dsimp only
    split
    · exact keeps_discardBody files _
    · apply Keeps.bind (keeps_osCall _)
      intro _
      exact keeps_checkBody files total

theorem keeps_tryCandidate (files : ResourceFiles) (source : FullGetSource)
    (resource : HlsMediaResource) (answer : FullGetAnswer) :
    Keeps (OnlyTemp files) (tryCandidate source resource answer) := by
  cases answer with
  | unreachable => exact keeps_pure _
  | refused status =>
    simp only [tryCandidate]
    split
    · exact keeps_raise _
    · split
      · exact keeps_pure _
      · exact keeps_raise _
  | answered declaredLength chunks broken =>
    simp only [tryCandidate]
    split
    · exact keeps_pure _
    · exact keeps_downloadBody files source resource _ chunks broken

theorem keeps_tryCandidates (files : ResourceFiles) (source : FullGetSource)
    (resource : HlsMediaResource) (lastError : HlsRangeError) (answers : List FullGetAnswer) :
    Keeps (OnlyTemp files) (tryCandidates source resource lastError answers) := by
  induction answers generalizing lastError with
  | nil => exact keeps_pure _
  | cons answer rest ih =>
    apply Keeps.bind (keeps_tryCandidate files source resource answer)
    intro found
    cases found with
    | ok body => exact keeps_pure _
    | error error => exact ih error

theorem keeps_removeTemp (files : ResourceFiles) :
    Keeps (OnlyTemp files) (removeManagedCacheFileIfExists .rangeFullGetTemp) := by
  intro t h
  refine (ends_removeManagedCacheFileIfExists .rangeFullGetTemp t).mono ?_ ?_ ?_
  · intro _ t' ht'
    exact ht' ▸ h.removeTemp
  · intro _ t' ht'
    exact ht' ▸ h
  · intro t' ht'
    rcases ht' with rfl | rfl
    · exact h
    · exact h.removeTemp

end

/-- The completed file is there and so is an empty manifest. -/
structure Stuck (resource : HlsMediaResource) (files : ResourceFiles) : Prop where
  checkpoint : ∃ checkpoint, files.rangeManifest = some checkpoint ∧
    checkpoint.content.extents = [] ∧
    (checkpoint.content.totalLength = none → resource.size = none)
  final : files.final ≠ none

section

variable [UrlParser] {resource : HlsMediaResource} {files : ResourceFiles}
  {storedKey : Option BilibiliMediaCacheKey}

omit [UrlParser] in
theorem Stuck.of_onlyTemp {t : ResourceFiles} (h : Stuck resource files) (ht : OnlyTemp files t) :
    Stuck resource t := by
  obtain ⟨temp, nextInode, rfl⟩ := ht
  exact ⟨h.checkpoint, h.final⟩

abbrev NeverReturns {Value : Type} (resource : HlsMediaResource) (program : FileM Value)
    (files : ResourceFiles) : Prop :=
  Ends program files ⟨fun _ _ => False, fun _ t => Stuck resource t, fun t => Stuck resource t⟩

omit [UrlParser] in
theorem Stuck.demand_false {condition : Prop} [Decidable condition] {error : HlsRangeError}
    (h : Stuck resource files) (hnot : ¬ condition) :
    NeverReturns resource (demand condition error) files :=
  Ends.mono finds_demand (fun _ _ ht => hnot ht.2) (fun _ _ ht => ht.1 ▸ h) fun _ ht => ht ▸ h

omit [UrlParser] in
theorem Stuck.after_inspects {Value Value' : Type} {first : FileM Value}
    {next : Value → FileM Value'} {values : Value → Prop} {errors : HlsRangeError → Prop}
    (h : Stuck resource files) (hfirst : Inspects first files values errors)
    (hnext : ∀ value, values value → NeverReturns resource (next value) files) :
    NeverReturns resource (first >>= next) files :=
  Ends.bind_inspects hfirst hnext (fun _ _ => h) h

omit [UrlParser] in
theorem Stuck.abandonFullGet (h : Stuck resource files) (error : HlsRangeError) :
    NeverReturns resource (abandonFullGet error) files := by
  refine Ends.bind (keeps_removeTemp files files (OnlyTemp.refl files)) ?_
    (fun _ _ ht => h.of_onlyTemp ht) fun _ ht => h.of_onlyTemp ht
  intro _ t ht
  exact ends_raise (h.of_onlyTemp ht)

variable (h : Stuck resource files)

include h

theorem Stuck.publishFullGet (loaded : LoadedRangeManifest) (body : FullGetBody) :
    NeverReturns resource (publishFullGet resource loaded body) files := by
  apply h.after_inspects (reads_loadRangeManifest resource files)
  intro found _
  cases found with
  | none => exact h.abandonFullGet _
  | some current =>
    dsimp only
    split
    · exact h.abandonFullGet _
    split
    · exact h.abandonFullGet _
    apply h.after_inspects (reads_safeFileIdentity .final files)
    intro identity hident
    refine Ends.bind (h.demand_false ?_) (fun _ _ hfalse => hfalse.elim) (fun _ _ ht => ht)
      fun _ ht => ht
    rw [hident]
    simpa [ResourceFiles.identityAt] using h.final

theorem Stuck.finds_ensure :
    Inspects (ensureRangeManifest resource) files (fun loaded => files.loaded = some loaded)
      NotSync := by
  obtain ⟨checkpoint, hcheckpoint, _⟩ := h.checkpoint
  apply Inspects.bind (reads_loadRangeManifest resource files)
  intro found hf
  have hload : files.loaded = some (loadedCheckpoint checkpoint) := by
    simp [ResourceFiles.loaded, loadedCheckpoint, hcheckpoint]
  rw [hf.1, hload]
  exact inspects_pure rfl

theorem Stuck.fillFullGetCompat (source : FullGetSource) :
    NeverReturns resource (fillFullGetCompat source resource) files := by
  apply h.after_inspects h.finds_ensure
  intro loaded _
  apply h.after_inspects finds_demand
  intro _ _
  apply h.after_inspects finds_demand
  intro _ _
  refine Ends.bind (keeps_tryCandidates files source resource _ _ files (OnlyTemp.refl files)) ?_
    (fun _ _ ht => h.of_onlyTemp ht) fun _ ht => h.of_onlyTemp ht
  intro outcome t ht
  have hstuck := h.of_onlyTemp ht
  cases outcome with
  | ok body => exact hstuck.publishFullGet loaded body
  | error lastError =>
    refine Ends.bind (keeps_removeTemp t t (OnlyTemp.refl t)) ?_
      (fun _ _ ht => hstuck.of_onlyTemp ht) fun _ ht => hstuck.of_onlyTemp ht
    intro _ t' ht'
    have hstuck' := hstuck.of_onlyTemp ht'
    refine Ends.bind (ends_syncDirectory t') ?_ (fun _ _ ht => ht.2 ▸ hstuck') fun _ ht =>
      ht ▸ hstuck'
    intro _ t'' ht''
    exact ends_raise (ht'' ▸ hstuck')

theorem Stuck.fillRanges (source : FullGetSource) {loaded : LoadedRangeManifest}
    (hload : files.loaded = some loaded) {total : Nat}
    (htotal : loaded.manifest.totalLength = some total) :
    NeverReturns resource (fillRanges (source.remote resource) resource loaded total) files := by
  obtain ⟨checkpoint, hcheckpoint, hexts, _⟩ := h.checkpoint
  have hmani : loaded.manifest = checkpoint.content := by
    simp only [ResourceFiles.loaded, hcheckpoint, map_some, Option.some.injEq] at hload
    rw [← hload]
  apply h.after_inspects finds_demand
  intro _ _
  simp only [htotal, if_true]
  split
  · exact h.fillFullGetCompat source
  have hpure : Inspects (pure loaded : FileM LoadedRangeManifest) files
      (fun found => found = loaded) fun _ => True := inspects_pure rfl
  apply h.after_inspects hpure
  intro found hf
  rw [hf, hmani, if_pos hexts]
  have hunsupported : Inspects ((source.remote resource).ensureRangeSpan
      ⟨0, min total rangeStartupChunkBytes⟩) files (fun supported => supported = false)
      fun _ => True := inspects_pure rfl
  apply h.after_inspects hunsupported
  intro supported hsupported
  rw [if_pos hsupported]
  exact h.fillFullGetCompat source

theorem Stuck.fillMissingRanges (source : FullGetSource) :
    NeverReturns resource (fillMissingRanges (source.remote resource) resource) files := by
  obtain ⟨checkpoint, hcheckpoint, _, hsized⟩ := h.checkpoint
  apply h.after_inspects h.finds_ensure
  intro loaded hload
  have hmani : loaded.manifest = checkpoint.content := by
    simp only [ResourceFiles.loaded, hcheckpoint, map_some, Option.some.injEq] at hload
    rw [← hload]
  apply h.after_inspects (finds_verifyRangeExtentsSync loaded.manifest files)
  intro _ _
  cases htotal : loaded.manifest.totalLength with
  | some total => exact h.fillRanges source hload htotal
  | none =>
    rw [hsized (hmani ▸ htotal)]
    have hn : Inspects (source.remote resource).discoverRangeTotal files
        (fun found => found = none) fun _ => True := inspects_pure rfl
    apply h.after_inspects hn
    intro found hf
    rw [hf]
    exact h.fillFullGetCompat source

theorem Stuck.finalizeRangeResource (totalLength : Nat) :
    NeverReturns resource (finalizeRangeResource storedKey resource totalLength) files := by
  obtain ⟨checkpoint, hcheckpoint, hexts, _⟩ := h.checkpoint
  apply h.after_inspects (reads_loadRangeManifest resource files)
  intro found hf
  have hload : files.loaded = some (loadedCheckpoint checkpoint) := by
    simp [ResourceFiles.loaded, loadedCheckpoint, hcheckpoint]
  rw [hf.1, hload]
  have huncovered : ¬ CoversTotal checkpoint.content totalLength := by
    intro hcovers
    have hcov := hcovers.2.2
    unfold rangeIsCovered at hcov
    rw [hexts] at hcov
    split at hcov
    · cases hcov
    · simp [coveredFrom] at hcov
  have hcheck : NeverReturns resource (checkRangeResource checkpoint.content totalLength) files :=
    Ends.bind (h.demand_false huncovered) (fun _ _ hfalse => hfalse.elim) (fun _ _ ht => ht)
      fun _ ht => ht
  exact Ends.bind hcheck (fun _ _ hfalse => hfalse.elim) (fun _ _ ht => ht) fun _ ht => ht

/-- The step lemma: no fill of the resource gets past the files, whatever its calls meet with, and
none of them changes that. -/
theorem Stuck.cacheResource (source : FullGetSource) :
    NeverReturns resource (cacheResource (source.remote resource) storedKey resource) files := by
  obtain ⟨checkpoint, hcheckpoint, _⟩ := h.checkpoint
  apply h.after_inspects finds_cachedResource
  intro cached _
  cases cached with
  | some length =>
    apply h.after_inspects (reads_loadRangeManifest resource files)
    intro found hf
    have hload : files.loaded = some (loadedCheckpoint checkpoint) := by
      simp [ResourceFiles.loaded, loadedCheckpoint, hcheckpoint]
    rw [hf.1, hload]
    exact Ends.bind (h.finalizeRangeResource length) (fun _ _ hfalse => hfalse.elim)
      (fun _ _ ht => ht) fun _ ht => ht
  | none =>
    exact Ends.bind (h.fillMissingRanges source) (fun _ _ hfalse => hfalse.elim)
      (fun _ _ ht => ht) fun _ ht => ht

end

section

variable {files t : ResourceFiles} {nextInode : Nat} {identity : FileIdentity}

variable {source : FullGetSource} {resource : HlsMediaResource} {expected : Nat}

end

structure Accepted (body : FullGetBody) (bytes : Bytes) : Prop where
  length : bytes.length = body.totalLength
  initialization : 0 < body.initializationLength
  inside : body.initializationLength < body.totalLength

variable {expected total : Nat}

variable {bytes : Bytes}

structure EmptyFill [UrlParser] (resource : HlsMediaResource)
    (checkpoint : FileObject PersistedRangeManifest) (data : FileObject Bytes)
    (files : ResourceFiles) : Prop where
  manifestFile : files.rangeManifest = some checkpoint
  bounded : (ResourceFiles.manifestBytes checkpoint.content).length ≤ rangeMaxManifestBytes
  valid : validateRangeManifest checkpoint.content resource = .ok ()
  noExtents : checkpoint.content.extents = []
  noOrigins : checkpoint.content.validatedOrigins = []
  sized : checkpoint.content.totalLength = none → resource.size = none
  nonempty : checkpoint.content.totalLength ≠ some 0
  dataFile : files.rangeData = some data
  bound : checkpoint.content.dataIdentity = some data.identity
  final : files.final = none
  metadata : files.metadata = none

def FullGetBody.plan (body : FullGetBody) (resource : HlsMediaResource)
    (checkpoint : FileObject PersistedRangeManifest) (temp : FileObject Bytes) : FinalizePlan :=
  ⟨checkpoint, temp, body.initializationLength, body.segments,
    completedMetadata resource body.totalLength body.initializationLength body.segments⟩

section

variable [UrlParser] {resource : HlsMediaResource} {checkpoint : FileObject PersistedRangeManifest}
  {data temp : FileObject Bytes} {files t : ResourceFiles} {body : FullGetBody}
  {storedKey : Option BilibiliMediaCacheKey} (h : EmptyFill resource checkpoint data files)

include h in
theorem EmptyFill.of_onlyTemp (ht : OnlyTemp files t) : EmptyFill resource checkpoint data t := by
  obtain ⟨temp, nextInode, rfl⟩ := ht
  exact { h with }

omit [UrlParser] in
theorem Accepted.describes (h : Accepted body temp.content)
    (hkey : storedKey = some resource.cacheKey) :
    Describes storedKey resource body.totalLength temp
      (body.plan resource checkpoint temp).description :=
  ⟨rfl, rfl, hkey, rfl, h.initialization, h.inside, h.length⟩

include h

theorem EmptyFill.completes_load :
    Completes (loadRangeManifest resource) files (some (loadedCheckpoint checkpoint)) files :=
  completes_loadRangeManifest h.manifestFile h.bounded h.valid (.inl ⟨rfl, h.dataFile⟩) h.bound

omit h

def FullGetBody.publish (body : FullGetBody) (resource : HlsMediaResource)
    (files : ResourceFiles) : ResourceFiles :=
  (((files.renameMedia .rangeFullGetTemp .final).installMetadata
    (completedMetadata resource body.totalLength body.initializationLength
      body.segments)).remove .rangeData).remove .rangeManifest

variable (source : FullGetSource)

/-- A later fill, against its own upstream and quota and with its own disturbances. -/
structure LaterFill where
  source : FullGetSource
  verdicts : List Verdict
  outcome : Outcome HlsRangeError Nat

def LaterFill.Leads (resource : HlsMediaResource) (files : ResourceFiles) (later : LaterFill)
    (t : ResourceFiles) : Prop :=
  ∃ rest, cacheResource (later.source.remote resource) later.source.storedKey resource files
    later.verdicts = (later.outcome, t, rest)

omit source

theorem LaterFill.Leads.stuck {later : LaterFill} (hst : later.Leads resource files t)
    (h : Stuck resource files) :
    Stuck resource t ∧ ∀ value, later.outcome ≠ .returned value := by
  obtain ⟨source, verdicts, outcome⟩ := later
  obtain ⟨rest, hrun⟩ := hst
  have hends := @Stuck.cacheResource _ resource files source.storedKey h source verdicts
  rw [hrun] at hends
  cases outcome with
  | returned value => exact hends.elim
  | raised error | crashed => exact ⟨hends, fun value hvalue => by cases hvalue⟩

theorem Stuck.never_returns {fills : List LaterFill} (h : Stuck resource files)
    (hrun : Run (LaterFill.Leads resource) files fills t) :
    ∀ later ∈ fills, ∀ value, later.outcome ≠ .returned value := by
  have hend : Stuck resource t ∧ ∀ later ∈ fills, ∀ value, later.outcome ≠ .returned value := by
    apply hrun.invariant_history
      (fun fills t => Stuck resource t ∧ ∀ later ∈ fills, ∀ value,
        later.outcome ≠ .returned value)
    · intro a b label past hst hpast
      have hl := hst.stuck hpast.1
      refine ⟨hl.1, fun later hm => ?_⟩
      rcases mem_append.mp hm with hb | hlabel
      · exact hpast.2 later hb
      · rw [mem_singleton.mp hlabel]
        exact hl.2
    · exact ⟨h, by simp⟩
  exact hend.2

end

/-! An upstream that has no ranges, and crashes around the rename of the file. -/

end NetPlayer.RangeCache
