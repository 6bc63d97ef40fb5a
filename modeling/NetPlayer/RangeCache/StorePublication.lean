import NetPlayer.RangeCache.StoreReads

/-!
# Publications and compactions keep the store

A publication of a total length or of an origin, and a compaction, change the
manifest but not the bytes it covers, whether they succeed, fail or crash.
-/

namespace NetPlayer.RangeCache

open Faulty Faulty.Program Spans Slices

variable {files : ResourceFiles} {manifest next : PersistedRangeManifest}
  {data : FileObject Bytes}

theorem reads_nextGeneration (manifest : PersistedRangeManifest) (files : ResourceFiles) :
    Reads (nextGeneration manifest) files fun generation =>
      generation = manifest.generation + 1 := by
  refine Inspects.bind (inspects_demand (by simp [NotSync])) fun _ _ => ?_
  exact inspects_pure rfl

theorem reads_ensureRangeManifestCapacity (manifest : PersistedRangeManifest)
    (files : ResourceFiles) :
    Reads (ofExcept (ensureRangeManifestCapacity manifest)) files fun _ => True := by
  refine (inspects_ofExcept fun error h => ?_).mono (fun _ _ => trivial) fun _ h => h
  unfold ensureRangeManifestCapacity at h
  split at h
  · cases h
    simp [NotSync]
  split at h
  · cases h
    simp [NotSync]
  · cases h

theorem reads_validateRangeManifest [UrlParser] (manifest : PersistedRangeManifest)
    (resource : HlsMediaResource) (files : ResourceFiles) :
    Reads (ofExcept (validateRangeManifest manifest resource)) files fun _ =>
      validateRangeManifest manifest resource = .ok () :=
  inspects_ofExcept fun _ => validateRangeManifest_notSync

theorem ends_replaceManifest (next : PersistedRangeManifest) (files : ResourceFiles) :
    Ends (replaceManifest next) files
      ⟨fun _ t => t = files.installManifest next,
        fun error t => NotSync error ∧ t = files ∨
          error = .io (.os .syncDirectory) ∧ t = files.installManifest next,
        fun t => t = files ∨ t = files.installManifest next⟩ := by
  refine Ends.bind (ends_writeJsonAtomically _ files) ?_ (fun _ _ h => .inl h) (fun _ h => h)
  rintro _ _ rfl
  exact (ends_syncDirectory _).mono (fun _ _ h => h) (fun _ _ h => .inr h) fun _ h => .inr h

/-- The store goes on covering what it covered, however the program ends; `result` is what a
returned value has to do with the files. -/
abbrev StaysPut [UrlParser] {Value : Type} (resource : HlsMediaResource)
    (publishes : PersistedRangeManifest → PersistedRangeManifest → Prop)
    (result : Value → ResourceFiles → Prop) (program : FileM Value) (files : ResourceFiles) : Prop :=
  Ends program files
    ⟨fun value t => Advances resource publishes files t (coveredSet files) ∧ result value t,
      fun _ t => Advances resource publishes files t (coveredSet files),
      fun t => Advances resource publishes files t (coveredSet files)⟩

section

variable [UrlParser] {resource : HlsMediaResource} {Value Value' : Type}
  {publishes : PersistedRangeManifest → PersistedRangeManifest → Prop}
  {result : Value → ResourceFiles → Prop}

theorem StaysPut.bind (h : Holds files manifest data)
    (hs : CheckpointSound resource manifest data.content) {first : FileM Value'}
    {rest : Value' → FileM Value} {values : Value' → Prop} {errors : HlsRangeError → Prop}
    (hfst : Inspects first files values errors)
    (hr : ∀ value, values value → StaysPut resource publishes result (rest value) files) :
    StaysPut resource publishes result (first >>= rest) files :=
  Ends.bind_inspects hfst hr (fun _ _ => Advances.refl h hs) (Advances.refl h hs)

theorem staysPut_replaceManifest (h : Holds files manifest data)
    (hs : CheckpointSound resource manifest data.content)
    (hident : next.dataIdentity = manifest.dataIdentity)
    (hn : CheckpointSound resource next data.content)
    (hcov : covered next.extents = covered manifest.extents)
    (hpubs : publishes manifest next) {rest : FileM Value}
    (hr : Reads rest (files.installManifest next)
      fun value => result value (files.installManifest next)) :
    StaysPut resource publishes result (replaceManifest next >>= fun _ => rest) files := by
  have hkeep : Advances resource publishes files files (coveredSet files) :=
    Advances.refl h hs
  have hinst :
      Advances resource publishes files (files.installManifest next) (coveredSet files) := by
    have := Advances.install h hident hn hpubs
    rwa [hcov, ← h.coveredSet_eq] at this
  have hboth : ∀ t, t = files ∨ t = files.installManifest next →
      Advances resource publishes files t (coveredSet files) := by
    rintro t (rfl | rfl)
    · exact hkeep
    · exact hinst
  refine Ends.bind (ends_replaceManifest next files) ?_
    (fun _ t h => hboth t (h.imp And.right And.right)) hboth
  rintro _ _ rfl
  refine Ends.mono hr ?_ ?_ ?_
  · rintro _ _ ⟨rfl, h⟩
    exact ⟨hinst, h⟩
  · rintro _ _ ⟨rfl, _⟩
    exact hinst
  · rintro _ rfl
    exact hinst

/-- The update that `publish_range_manifest` is called with. -/
def setTotal (total : Nat) (manifest : PersistedRangeManifest) : PersistedRangeManifest :=
  { manifest with totalLength := some total }

structure PublishesTotal (expected : PersistedRangeManifest) (total : Nat)
    (old new : PersistedRangeManifest) : Prop where
  succeeds : Succeeds old new
  bindings : KeepsBindings old new
  extents : new.extents = old.extents
  total : new.totalLength = some total
  known : ∀ known, expected.totalLength = some known → old.totalLength = some known

structure PublishesOrigin (old new : PersistedRangeManifest) : Prop where
  succeeds : Succeeds old new
  extents : new.extents = old.extents
  total : new.totalLength = old.totalLength

def IsLoaded (loaded : LoadedRangeManifest) (files : ResourceFiles) : Prop :=
  files.loaded = some loaded

variable {expected current : PersistedRangeManifest} {total : Nat}

omit [UrlParser] in
theorem sameLineage_total (h : sameLineage expected current = true)
    (htotal : expected.totalLength = some total) : current.totalLength = some total := by
  unfold sameLineage at h
  simp only [Bool.and_eq_true] at h
  simpa [htotal] using h.1.2

omit [UrlParser] in
theorem sameLineage_prefixDigest (h : sameLineage expected current = true) {digest : String}
    (hdig : expected.prefixSha256 = some digest) : current.prefixSha256 = some digest := by
  unfold sameLineage at h
  simp only [Bool.and_eq_true] at h
  simpa [hdig] using h.2

omit [UrlParser] in
theorem sameLineage_of_rebase {ignored : Option String} {allowValidatorUpdate : Bool}
    (h : rangeManifestRebaseCompatibleIgnoringOrigin expected current ignored
      allowValidatorUpdate = true) : sameLineage expected current = true := by
  unfold rangeManifestRebaseCompatibleIgnoringOrigin at h
  simp only [Bool.and_eq_true] at h
  exact h.1.1

theorem publishRangeManifest_staysPut (h : Stored resource files) (expected : LoadedRangeManifest)
    (htotal : total ≤ u64Max) :
    StaysPut resource (PublishesTotal expected.manifest total)
      (fun loaded t => IsLoaded loaded t ∧ loaded.manifest.totalLength = some total)
      (publishRangeManifest resource expected (setTotal total)) files := by
  obtain ⟨manifest, data, hh, hs⟩ := h
  refine StaysPut.bind hh hs (inspects_demand (notSync_identity _)) fun _ _ => ?_
  refine StaysPut.bind hh hs (reads_loadExisting resource files) fun current hcurr => ?_
  obtain rfl := hh.loaded_manifest hcurr.1
  refine StaysPut.bind hh hs (inspects_demand (notSync_identity _)) fun _ hrebase => ?_
  refine StaysPut.bind hh hs (reads_nextGeneration _ files) fun generation hn => ?_
  refine StaysPut.bind hh hs (reads_ensureRangeManifestCapacity _ files) fun _ _ => ?_
  refine StaysPut.bind hh hs (reads_validateRangeManifest _ resource files)
    fun _ hv => ?_
  refine StaysPut.bind hh hs (reads_loadExisting resource files) fun _ _ => ?_
  refine StaysPut.bind hh hs (inspects_demand (notSync_identity _)) fun _ _ => ?_
  refine staysPut_replaceManifest hh hs ?_ ?_ ?_ ?_
    ((reads_loadExisting resource _).mono ?_ fun _ h => h)
  · rfl
  · refine hs.of_sameExtents hv rfl rfl rfl ?_ fun _ => rfl
    rintro _ ⟨⟩
    exact htotal
  · rfl
  · have hgen : current.manifest.generation ≤ generation := by
      rw [hn]
      exact Nat.le_succ _
    exact ⟨Succeeds.of_sameOrigins rfl rfl rfl hgen rfl rfl, KeepsBindings.of_sameOrigins rfl,
      rfl, rfl, fun known => sameLineage_total (sameLineage_of_rebase hrebase)⟩
  · intro loaded h
    refine ⟨h.1, ?_⟩
    cases h.1
    rfl

theorem publishBinding_staysPut {current : LoadedRangeManifest}
    (hh : Holds files current.manifest data)
    (hs : CheckpointSound resource current.manifest data.content)
    (origin : String) {prefixSha256 : String} (strongEtag : Option String)
    (hpref : current.manifest.prefixSha256 = some prefixSha256) :
    StaysPut resource PublishesOrigin IsLoaded
      (publishBinding resource current origin prefixSha256 strongEtag) files := by
  refine StaysPut.bind hh hs (reads_nextGeneration _ files) fun generation hn => ?_
  refine StaysPut.bind hh hs (reads_ensureRangeManifestCapacity _ files) fun _ _ => ?_
  refine StaysPut.bind hh hs (reads_validateRangeManifest _ resource files)
    fun _ hv => ?_
  refine StaysPut.bind hh hs (reads_loadExisting resource files) fun _ _ => ?_
  refine StaysPut.bind hh hs (inspects_demand (notSync_identity _)) fun _ _ => ?_
  refine staysPut_replaceManifest hh hs ?_ ?_ ?_ ?_
    ((reads_loadExisting resource _).mono (fun _ h => h.1) fun _ h => h)
  · rfl
  · exact hs.of_sameExtents hv rfl rfl rfl hs.totalLimit fun h => h
  · rfl
  · refine ⟨succeeds_bindOrigin hs.originCount hpref rfl ?_, rfl, rfl⟩
    rw [hn]
    exact Nat.le_succ _

theorem publishValidatedOrigin_staysPut (h : Stored resource files)
    (expected : LoadedRangeManifest) (origin : String) (strongEtag : Option String) :
    StaysPut resource PublishesOrigin IsLoaded
      (publishValidatedOrigin resource expected origin strongEtag) files := by
  obtain ⟨manifest, data, hh, hs⟩ := h
  refine StaysPut.bind hh hs (inspects_orRaise (notSync_identity "")) fun prefixSha256
    hpref => ?_
  refine StaysPut.bind hh hs (reads_loadExisting resource files) fun current hcurr => ?_
  obtain rfl := hh.loaded_manifest hcurr.1
  refine StaysPut.bind hh hs (inspects_demand (notSync_identity _)) fun _ hrebase => ?_
  split
  · exact ends_pure ⟨Advances.refl hh hs, hcurr.1⟩
  · refine StaysPut.bind hh hs (inspects_demand (notSync_identity _)) fun _ _ => ?_
    exact publishBinding_staysPut hh hs origin strongEtag
      (sameLineage_prefixDigest (sameLineage_of_rebase hrebase) hpref)

theorem CheckpointSound.supplies (hs : CheckpointSound resource manifest data.content) :
    Supplies data.content data.content manifest.extents [] ⟨0, 0⟩ [] where
  olds := fun extent hm =>
    ⟨le_of_lt (hs.ordered.mem hm).2, (hs.digests extent hm).1, rfl⟩
  gaps := by simp

theorem CheckpointSound.merge (hs : CheckpointSound resource manifest data.content)
    {before run after : List PersistedRangeExtent} (hexts : manifest.extents = before ++ run ++ after)
    {merged : ByteRange} (hrun : Contiguous merged.start merged.stop run) (hne : run ≠ [])
    (hv : validateRangeManifest next resource = .ok ())
    (hn : next.extents = before ++ [⟨merged.start, merged.stop,
      sha256Hex (slice data.content merged.start merged.stop)⟩] ++ after)
    (hlen : next.prefixLength = manifest.prefixLength)
    (hpref : next.prefixSha256 = manifest.prefixSha256)
    (htotal : next.totalLength = manifest.totalLength) :
    CheckpointSound resource next data.content where
  valid := hv
  digests := by
    intro extent hm
    rw [hn, List.mem_append, List.mem_append, List.mem_singleton] at hm
    rcases hm with (hm | rfl) | hm
    · exact hs.digests extent (by simp [hexts, hm])
    · obtain ⟨last, hl, hstop⟩ := hrun.exists_last hne
      have := (hs.digests last (by simp [hexts, hl])).1
      simp only [span_stop_extent] at hstop
      exact ⟨by simp only; omega, rfl⟩
    · exact hs.digests extent (by simp [hexts, hm])
  prefixDigest := by rw [hpref, hlen]; exact hs.prefixDigest
  totalLimit := by rw [htotal]; exact hs.totalLimit
  totalKnown := by
    intro _
    rw [htotal]
    apply hs.totalKnown
    rw [hexts]
    simp [hne]

/-- A compaction. -/
structure PublishesMerge (old new : PersistedRangeManifest) : Prop where
  succeeds : Succeeds old new
  bindings : KeepsBindings old new
  total : new.totalLength = old.totalLength

theorem compactRun_staysPut (control : CompactionControl) {loaded : LoadedRangeManifest}
    (hh : Holds files loaded.manifest data)
    (hs : CheckpointSound resource loaded.manifest data.content) {merged : ByteRange}
    (hmerged : firstCompleteParentCompaction loaded.manifest.extents total none = some merged) :
    StaysPut resource PublishesMerge (fun _ _ => True) (compactRun resource control loaded merged)
      files := by
  obtain ⟨before, run, after, hexts, hlen, hrun⟩ :=
    isRun_firstCompleteParentCompaction hs.ordered hmerged
  have hne : run ≠ [] := by
    rintro rfl
    simp at hlen
  have hord := hs.ordered
  rw [hexts] at hord
  have hcoalesced := coalesceSelectedRange_of_run hord hlen hrun
  have hsta : merged.start ≤ data.content.length := by
    obtain ⟨first, hfst, hsta⟩ := hrun.exists_first hne
    have hspan : first ∈ loaded.manifest.extents := by simp [hexts, hfst]
    have := (hs.digests first hspan).1
    have := (hs.ordered.mem hspan).2
    simp only [span_start_extent, span_stop_extent] at this hsta
    omega
  refine StaysPut.bind hh hs (inspects_ofExcept fun _ h => h) fun _ _ => ?_
  refine StaysPut.bind hh hs (reads_dataPathForManifest _ files) fun path hpath => ?_
  obtain rfl : path = .rangeData := by
    rcases hpath.2.2 with h | ⟨_, h⟩
    · exact h
    · exact absurd hh.identityAt h
  refine StaysPut.bind hh hs (reads_osCall (by decide) files) fun _ _ => ?_
  refine StaysPut.bind hh hs (reads_openRangeFile _ files) fun _ _ => ?_
  refine StaysPut.bind hh hs (reads_mediaLength _ files) fun _ _ => ?_
  refine StaysPut.bind hh hs (inspects_demand (notSync_identity _)) fun _ _ => ?_
  refine StaysPut.bind hh hs (reads_hashVerifiedMergedRange hh.mediaAt _ _ _ _ _ _)
    fun digest hdig => ?_
  obtain rfl := hdig data.content hs.supplies hrun.le hsta
  refine StaysPut.bind hh hs (inspects_ofExcept fun _ h => h) fun _ _ => ?_
  refine StaysPut.bind hh hs (reads_objectIdentity _ files) fun _ _ => ?_
  refine StaysPut.bind hh hs (reads_mediaLength _ files) fun _ _ => ?_
  refine StaysPut.bind hh hs (inspects_demand (notSync_identity _)) fun _ _ => ?_
  refine StaysPut.bind hh hs (reads_rangeDataObjectIsStillBound _ files) fun _ _ => ?_
  refine StaysPut.bind hh hs (inspects_demand (notSync_identity _)) fun _ _ => ?_
  rw [hexts, hcoalesced, if_neg (by simp)]
  rw [setExtentDigest_merged (hord.replace_run hrun hne)]
  refine StaysPut.bind hh hs (inspects_orRaise (notSync_identity "")) ?_
  rintro _ ⟨⟩
  refine StaysPut.bind hh hs (reads_nextGeneration _ files) fun generation hn => ?_
  refine StaysPut.bind hh hs (reads_ensureRangeManifestCapacity _ files) fun _ _ => ?_
  refine StaysPut.bind hh hs (reads_validateRangeManifest _ resource files)
    fun _ hv => ?_
  refine StaysPut.bind hh hs (reads_loadExisting resource files) fun _ _ => ?_
  refine StaysPut.bind hh hs (inspects_demand (notSync_identity _)) fun _ _ => ?_
  have hdone (after : ResourceFiles) : Reads (pure true) after fun _ => True :=
    inspects_pure trivial
  refine staysPut_replaceManifest hh hs ?_ ?_ ?_ ?_ (hdone _)
  · rfl
  · exact hs.merge hexts hrun hne hv rfl rfl rfl rfl
  · rw [hexts]
    exact covered_replace_run hrun
  · have hgen : loaded.manifest.generation ≤ generation := by
      rw [hn]
      exact Nat.le_succ _
    exact ⟨Succeeds.of_sameOrigins rfl rfl rfl hgen rfl rfl, KeepsBindings.of_sameOrigins rfl,
      rfl⟩

theorem compactAdmitted_staysPut (h : Stored resource files) (control : CompactionControl)
    (activeFlightCount : Nat) :
    StaysPut resource PublishesMerge (fun _ _ => True)
      (compactAdmitted resource control activeFlightCount) files := by
  obtain ⟨manifest, data, hh, hs⟩ := h
  unfold compactAdmitted
  split
  · exact ends_pure ⟨Advances.refl hh hs, trivial⟩
  refine StaysPut.bind hh hs (reads_loadRangeManifest resource files) ?_
  rintro found ⟨hf, _⟩
  cases found with
  | none => exact ends_pure ⟨Advances.refl hh hs, trivial⟩
  | some loaded =>
    obtain rfl := hh.loaded_manifest hf.symm
    dsimp only
    split
    · exact ends_pure ⟨Advances.refl hh hs, trivial⟩
    · split
      · exact ends_pure ⟨Advances.refl hh hs, trivial⟩
      · exact compactRun_staysPut control hh hs ‹_›

theorem compactOneCompleteRangeParent_staysPut (h : Stored resource files)
    (control : CompactionControl) (activeFlightCount : Nat) (forceDrain : Bool) :
    StaysPut resource PublishesMerge (fun _ _ => True)
      (compactOneCompleteRangeParent resource control activeFlightCount forceDrain) files := by
  have hstor := h
  obtain ⟨manifest, data, hh, hs⟩ := h
  have hdue : Reads (compactionIsDue resource forceDrain) files fun _ => True := by
    unfold compactionIsDue
    split
    · exact inspects_pure trivial
    · exact Inspects.bind (reads_loadRangeManifest resource files) fun _ _ => inspects_pure trivial
  refine StaysPut.bind hh hs hdue fun due _ => ?_
  split
  · exact ends_pure ⟨Advances.refl hh hs, trivial⟩
  · refine StaysPut.bind hh hs (inspects_ofExcept fun _ h => h) fun _ _ => ?_
    exact compactAdmitted_staysPut hstor control activeFlightCount

end

end NetPlayer.RangeCache
