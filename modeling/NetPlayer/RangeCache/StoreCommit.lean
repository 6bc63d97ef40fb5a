import NetPlayer.RangeCache.StorePublication

/-!
# Commits keep the store

A commit writes to the gaps of its range only, so until its manifest is in place
the store covers what it covered before, and afterwards the range on top.
-/

namespace NetPlayer.RangeCache

open Faulty Faulty.Program Spans Slices List Finset

/-- The data keeps its object and changes at most inside the gaps. -/
structure GapWrites (files after : ResourceFiles) (data data' : FileObject Bytes)
    (gaps : List ByteRange) : Prop where
  onlyData : after = { files with rangeData := some data', dataWrites := after.dataWrites }
  identity : data'.identity = data.identity
  length : data.content.length ≤ data'.content.length
  outside : ∀ offset < data.content.length, offset ∉ covered gaps →
    data'.content[offset]? = data.content[offset]?
  writes : ∃ writes, after.dataWrites = files.dataWrites ++ writes ∧
    ∀ write ∈ writes, offsets write ⊆ covered gaps

variable {files after : ResourceFiles} {data data' : FileObject Bytes} {gaps : List ByteRange}

theorem GapWrites.refl (h : files.rangeData = some data) (gaps : List ByteRange) :
    GapWrites files files data data gaps where
  onlyData := by rw [← h]
  identity := rfl
  length := le_rfl
  outside := fun _ _ _ => rfl
  writes := ⟨[], by simp, by simp⟩

theorem GapWrites.write (h : GapWrites files after data data' gaps) {gap : ByteRange}
    (hgap : gap ∈ gaps) {bytes : Bytes} (hlen : bytes.length ≤ gap.stop - gap.start) :
    GapWrites files (after.writeMedia .rangeData gap.start bytes) data
      { data' with content := overwrite 0 data'.content gap.start bytes } gaps where
  onlyData := by
    rw [h.onlyData]
    rfl
  identity := h.identity
  length := le_trans h.length (length_le_overwrite _ _ _ _)
  outside := by
    intro offset hoff hout
    have hgapOut : ¬ (gap.start ≤ offset ∧ offset < gap.stop) :=
      fun hin => hout (mem_covered.mpr ⟨gap, hgap, hin⟩)
    have hlong := h.length
    rw [← h.outside offset hoff hout]
    exact getElem?_overwrite_of_outside (by omega) (by omega)
  writes := by
    obtain ⟨writes, hwrites, hinside⟩ := h.writes
    refine ⟨writes ++ [⟨gap.start, gap.start + bytes.length⟩], ?_, ?_⟩
    · show after.dataWrites ++ _ = _
      rw [hwrites, append_assoc]
    · intro write hmem
      rcases mem_append.mp hmem with hmem | hmem
      · exact hinside write hmem
      rw [List.mem_singleton.mp hmem]
      intro offset hoff
      rw [mem_offsets] at hoff
      simp only at hoff
      exact mem_covered.mpr ⟨gap, hgap, by simp only [span_start_range]; omega,
        by simp only [span_stop_range]; omega⟩

def HoldsGap (range : ByteRange) (bytes data : Bytes) (gap : ByteRange) : Prop :=
  gap.stop ≤ data.length ∧ slice data gap.start gap.stop = incomingPart range bytes gap

theorem length_incomingPart {range gap : ByteRange} {bytes : Bytes}
    (hbytes : bytes.length = range.stop - range.start) (hstop : gap.stop ≤ range.stop)
    (hstart : range.start ≤ gap.start) :
    (incomingPart range bytes gap).length = gap.stop - gap.start := by
  unfold incomingPart
  rw [length_slice (by omega)]
  omega

theorem HoldsGap.write {range gap other : ByteRange} {bytes : Bytes} {data items : Bytes}
    (h : HoldsGap range bytes data gap) (hitems : items.length ≤ other.stop - other.start)
    (hdisj : gap.stop ≤ other.start ∨ other.stop ≤ gap.start) :
    HoldsGap range bytes (overwrite 0 data other.start items) gap := by
  refine ⟨le_trans h.1 (length_le_overwrite _ _ _ _), ?_⟩
  rw [← h.2]
  have := h.1
  exact slice_congr fun i hlower hupper => getElem?_overwrite_of_outside (by omega) (by omega)

variable {lower : Nat}

/-- Wherever the writes stop, they have stayed inside the gaps; complete, they hold the bytes
received. -/
theorem ends_writeGaps {range : ByteRange} {bytes : Bytes} (hdata : files.rangeData = some data)
    (hord : Ordered lower gaps)
    (hpart : ∀ gap ∈ gaps, (incomingPart range bytes gap).length = gap.stop - gap.start) :
    Ends (writeGaps .rangeData range bytes gaps) files
      ⟨fun _ t => ∃ data', GapWrites files t data data' gaps ∧
          ∀ gap ∈ gaps, HoldsGap range bytes data'.content gap,
        fun error t => NotSync error ∧ ∃ data', GapWrites files t data data' gaps,
        fun t => ∃ data', GapWrites files t data data' gaps⟩ := by
  have hbody : ∀ before gap after, gaps = before ++ gap :: after → ∀ t,
      (∃ data', GapWrites files t data data' gaps ∧
        ∀ done ∈ before, HoldsGap range bytes data'.content done) →
      Ends (writeAll .rangeData gap.start (incomingPart range bytes gap)) t
        ⟨fun _ t => ∃ data', GapWrites files t data data' gaps ∧
            ∀ done ∈ before ++ [gap], HoldsGap range bytes data'.content done,
          fun error t => NotSync error ∧ ∃ data', GapWrites files t data data' gaps,
          fun t => ∃ data', GapWrites files t data data' gaps⟩ := by
    rintro before gap after hgaps t ⟨current, hwrites, hdone⟩
    have hmem : gap ∈ gaps := by simp [hgaps]
    have hlen := hpart gap hmem
    have hnonempty := (hord.mem hmem).2
    simp only [span_start_range, span_stop_range] at hnonempty
    have hpartially (progress : Nat) : ∃ data', GapWrites files
        (t.writeMedia .rangeData gap.start ((incomingPart range bytes gap).take progress))
        data data' gaps :=
      ⟨_, hwrites.write hmem (by rw [length_take]; omega)⟩
    refine ends_gradual ⟨_, hwrites.write hmem (by omega), ?_⟩
      (fun progress => ⟨notSync_os (by decide), hpartially progress⟩) hpartially
    intro done hmemDone
    rcases mem_append.mp hmemDone with hmemDone | hmemDone
    · refine (hdone done hmemDone).write (by omega) (.inl ?_)
      rw [hgaps, ordered_append] at hord
      exact hord.2.2 done hmemDone gap (by simp)
    · rw [List.mem_singleton.mp hmemDone]
      have hne : incomingPart range bytes gap ≠ [] := by
        intro hnil
        rw [hnil] at hlen
        simp at hlen
        omega
      have hreach : gap.start + (incomingPart range bytes gap).length ≤
          (overwrite 0 current.content gap.start (incomingPart range bytes gap)).length :=
        le_length_overwrite hne
      exact ⟨by simp only; omega, slice_overwrite hlen⟩
  exact Ends.forEach hbody (fun _ h => h) ⟨data, GapWrites.refl hdata gaps, by simp⟩

section

variable {resource : HlsMediaResource} {manifest : PersistedRangeManifest}

theorem GapWrites.holds (h : GapWrites files after data data' gaps)
    (hholds : Holds files manifest data) : Holds after manifest data' := by
  constructor
  · rw [h.onlyData]
    exact hholds.manifestFile
  · rw [h.onlyData]
  · rw [h.identity]
    exact hholds.identity

variable [UrlParser]

section

variable (h : GapWrites files after data data' gaps)
  (hsound : CheckpointSound resource manifest data.content)
  (hdisj : Disjoint (covered gaps) (covered manifest.extents))
include h hsound hdisj

theorem GapWrites.covered_same {offset : Nat}
    (hoff : offset ∈ covered manifest.extents) :
    data'.content[offset]? = data.content[offset]? :=
  h.outside offset (hsound.covered_lt hoff) fun hgap =>
    Finset.disjoint_left.mp hdisj hgap hoff

theorem GapWrites.slice_extent
    {extent : PersistedRangeExtent} (hmem : extent ∈ manifest.extents) :
    slice data'.content extent.start extent.stop = slice data.content extent.start extent.stop :=
  slice_congr fun _ hstart hstop =>
    h.covered_same hsound hdisj (mem_covered.mpr ⟨extent, hmem, hstart, hstop⟩)

theorem GapWrites.slice_prefixed :
    slice data'.content 0 manifest.prefixLength = slice data.content 0 manifest.prefixLength :=
  slice_congr fun _ _ hstop => h.covered_same hsound hdisj (hsound.prefix_covered hstop)

theorem GapWrites.sound :
    CheckpointSound resource manifest data'.content where
  valid := hsound.valid
  digests := by
    intro extent hmem
    rw [h.slice_extent hsound hdisj hmem]
    exact ⟨le_trans (hsound.digests extent hmem).1 h.length, (hsound.digests extent hmem).2⟩
  prefixDigest := by
    rw [h.slice_prefixed hsound hdisj]
    exact hsound.prefixDigest
  totalLimit := hsound.totalLimit
  totalKnown := hsound.totalKnown

end

variable (h : GapWrites files after data data' gaps) (hholds : Holds files manifest data)
  (hsound : CheckpointSound resource manifest data.content)
  (hdisj : Disjoint (covered gaps) (covered manifest.extents))
include h hholds hsound hdisj

theorem GapWrites.keeps :
    KeepsBytes (coveredSet files) files after := by
  rw [hholds.coveredSet_eq]
  refine ⟨⟨data, data', hholds.dataFile, (h.holds hholds).dataFile, h.identity,
    fun offset hoff => h.covered_same hsound hdisj hoff⟩, ?_⟩
  obtain ⟨writes, hwrites, hin⟩ := h.writes
  exact ⟨writes, hwrites, fun write hmem => Disjoint.mono_left (hin write hmem) hdisj⟩

theorem GapWrites.advances {publishes : PersistedRangeManifest → PersistedRangeManifest → Prop} :
    Advances resource publishes files after (coveredSet files) where
  stored := ⟨manifest, data', h.holds hholds, h.sound hsound hdisj⟩
  keeps := h.keeps hholds hsound hdisj
  covers_eq := by rw [hholds.coveredSet_eq, (h.holds hholds).coveredSet_eq]
  replaces := .inl ((h.holds hholds).manifestFile.trans hholds.manifestFile.symm)

end

section

variable (manifest : PersistedRangeManifest) (range : ByteRange) (origin : String)
  (input : RangeExtentCommitInput)

theorem bindStartup_frame :
    (bindStartup manifest range origin input).resourceId = manifest.resourceId ∧
      (bindStartup manifest range origin input).representationDigest =
        manifest.representationDigest ∧
      (bindStartup manifest range origin input).dataIdentity = manifest.dataIdentity ∧
      (bindStartup manifest range origin input).generation = manifest.generation ∧
      (bindStartup manifest range origin input).totalLength = manifest.totalLength ∧
      (bindStartup manifest range origin input).durableBytes = manifest.durableBytes ∧
      (bindStartup manifest range origin input).extents = manifest.extents := by
  unfold bindStartup
  by_cases hstart : range.start ≠ 0
  · simp [hstart]
  rw [if_neg hstart]
  cases hpref : manifest.prefixSha256 with
  | none => simp
  | some digest => simp [hpref]

@[simp] theorem bindStartup_dataIdentity :
    (bindStartup manifest range origin input).dataIdentity = manifest.dataIdentity :=
  (bindStartup_frame manifest range origin input).2.2.1

@[simp] theorem bindStartup_totalLength :
    (bindStartup manifest range origin input).totalLength = manifest.totalLength :=
  (bindStartup_frame manifest range origin input).2.2.2.2.1

@[simp] theorem bindStartup_extents :
    (bindStartup manifest range origin input).extents = manifest.extents :=
  (bindStartup_frame manifest range origin input).2.2.2.2.2.2

theorem bindStartup_prefixed :
    (bindStartup manifest range origin input).prefixLength = manifest.prefixLength ∧
        (bindStartup manifest range origin input).prefixSha256 = manifest.prefixSha256 ∨
      range.start = 0 ∧ manifest.prefixSha256 = none ∧
        (bindStartup manifest range origin input).prefixLength =
          min input.bytes.length rangeStartupChunkBytes ∧
        (bindStartup manifest range origin input).prefixSha256 =
          some (sha256Hex (input.bytes.take (min input.bytes.length rangeStartupChunkBytes))) := by
  unfold bindStartup
  by_cases hstart : range.start ≠ 0
  · rw [if_pos hstart]
    exact .inl ⟨rfl, rfl⟩
  rw [if_neg hstart]
  cases hpref : manifest.prefixSha256 with
  | none => exact .inr ⟨not_not.mp hstart, rfl, rfl, rfl⟩
  | some digest =>
    left
    simp [hpref]

end

def withGapExtents (olds : List PersistedRangeExtent) (range : ByteRange) (bytes : Bytes) :
    List PersistedRangeExtent :=
  sortExtents (olds ++ gapExtents range bytes (missingRangesWithin olds range))

variable {olds : List PersistedRangeExtent}

theorem withGapExtents_ordered (h : Ordered lower olds) (range : ByteRange) (bytes : Bytes) :
    Ordered 0 (withGapExtents olds range bytes) :=
  sortExtents_ordered h rfl

theorem covered_withGapExtents (h : Ordered lower olds) (range : ByteRange) (bytes : Bytes) :
    covered (withGapExtents olds range bytes) = covered olds ∪ offsets range :=
  covered_sortExtents h rfl

theorem coalesceMerged_cases (activeFlightCount total : Nat) (range : ByteRange)
    {extents : List PersistedRangeExtent} (h : Ordered 0 extents) :
    coalesceMerged extents (commitMerge activeFlightCount total range extents) = (extents, false) ∨
      ∃ merged before run after,
        commitMerge activeFlightCount total range extents = some merged ∧
          extents = before ++ run ++ after ∧ run ≠ [] ∧
          Contiguous merged.start merged.stop run ∧
          coalesceMerged extents (some merged) =
            (before ++ [pendingExtent merged] ++ after, true) := by
  cases hmerge : commitMerge activeFlightCount total range extents with
  | none => exact .inl rfl
  | some merged =>
    right
    unfold commitMerge at hmerge
    split at hmerge
    · obtain ⟨before, run, after, rfl, hlen, hrun⟩ :=
        isRun_firstCompleteParentCompaction h hmerge
      refine ⟨merged, before, run, after, rfl, rfl, ?_, hrun,
        coalesceSelectedRange_of_run h hlen hrun⟩
      rintro rfl
      simp at hlen
    · cases hmerge

section

variable [UrlParser] {resource : HlsMediaResource} {manifest : PersistedRangeManifest}
  {range : ByteRange} {bytes : Bytes}

/-- What is known once the bytes of a commit are written and checked. -/
structure Received (manifest : PersistedRangeManifest) (data' : Bytes) (range : ByteRange)
    (bytes : Bytes) : Prop where
  length : bytes.length = range.stop - range.start
  nonempty : range.start < range.stop
  gaps : ∀ gap ∈ missingRangesWithin manifest.extents range, HoldsGap range bytes data' gap
  overlaps : ∀ extent ∈ manifest.extents, extent.overlaps range = true →
    AgreesOn data' extent range bytes

omit [UrlParser] in
theorem Received.getElem? {data' : Bytes} (h : Received manifest data' range bytes)
    (hord : Ordered 0 manifest.extents) {offset : Nat} (hlower : range.start ≤ offset)
    (hupper : offset < range.stop) : data'[offset]? = bytes[offset - range.start]? := by
  by_cases hcov : offset ∈ covered manifest.extents
  · obtain ⟨extent, hmem, hstart, hstop⟩ := mem_covered.mp hcov
    simp only [span_start_extent, span_stop_extent] at hstart hstop
    refine h.overlaps extent hmem ?_ offset hstart hstop hlower hupper
    simp only [PersistedRangeExtent.overlaps, Bool.and_eq_true, decide_eq_true_eq]
    omega
  · have hgap : offset ∈ covered (missingRangesWithin manifest.extents range) := by
      rw [covered_missingRangesWithin hord, mem_sdiff, mem_offsets]
      exact ⟨⟨hlower, hupper⟩, hcov⟩
    obtain ⟨gap, hmem, hstart, hstop⟩ := mem_covered.mp hgap
    simp only [span_start_range, span_stop_range] at hstart hstop
    have hfirst := ((missingRangesWithin_ordered hord range).mem hmem).1
    simp only [span_start_range] at hfirst
    have hindex := congrArg (fun part => part[offset - gap.start]?) (h.gaps gap hmem).2
    simp only [incomingPart, getElem?_slice] at hindex
    rw [if_pos (by omega), if_pos (by omega)] at hindex
    have hleft : gap.start + (offset - gap.start) = offset := by omega
    have hright : gap.start - range.start + (offset - gap.start) = offset - range.start := by omega
    rwa [hleft, hright] at hindex

variable (hsound : CheckpointSound resource manifest data.content)
  (hwrites : GapWrites files after data data' (missingRangesWithin manifest.extents range))
  (hreceived : Received manifest data'.content range bytes)

include hsound

theorem gaps_disjoint_covered : Disjoint (covered (missingRangesWithin manifest.extents range))
    (covered manifest.extents) := by
  rw [covered_missingRangesWithin hsound.ordered]
  exact sdiff_disjoint

include hwrites hreceived

theorem supplies_of_received :
    Supplies data'.content data.content manifest.extents
      (missingRangesWithin manifest.extents range) range bytes where
  olds := by
    intro extent hmem
    have hs := hwrites.slice_extent hsound (gaps_disjoint_covered hsound) hmem
    exact ⟨le_of_lt (hsound.ordered.mem hmem).2,
      le_trans (hsound.digests extent hmem).1 hwrites.length, hs⟩
  gaps := by
    intro gap hmem
    have hgap := hreceived.gaps gap hmem
    exact ⟨le_of_lt ((missingRangesWithin_ordered hsound.ordered range).mem hmem).2, hgap⟩

theorem digests_withGapExtents :
    ∀ extent ∈ withGapExtents manifest.extents range bytes,
      extent.stop ≤ data'.content.length ∧
        sha256Hex (slice data'.content extent.start extent.stop) = extent.sha256 := by
  intro extent hmem
  have hsupp := supplies_of_received hsound hwrites hreceived
  unfold withGapExtents at hmem
  rw [(sortExtents_perm _).mem_iff, mem_append] at hmem
  rcases hmem with hmem | hmem
  · obtain ⟨_, hlen, hs⟩ := hsupp.olds extent hmem
    exact ⟨hlen, by rw [hs]; exact (hsound.digests extent hmem).2⟩
  unfold gapExtents at hmem
  rw [List.mem_map] at hmem
  obtain ⟨gap, hgap, rfl⟩ := hmem
  obtain ⟨_, hlen, hs⟩ := hsupp.gaps gap hgap
  exact ⟨hlen, by rw [hs]⟩

end

section

variable {resource : HlsMediaResource} {activeFlightCount : Nat} {range : ByteRange}
  {input : RangeExtentCommitInput} {admitted : AdmittedCommit} {path : ManagedPath}

/-- What is known of the manifest that is going to be published. -/
structure PlanFor [UrlParser] (resource : HlsMediaResource) (activeFlightCount : Nat)
    (range : ByteRange)
    (input : RangeExtentCommitInput) (admitted : AdmittedCommit) (path : ManagedPath)
    (data : Bytes) (plan : CommitPlan) : Prop where
  path : plan.path = path
  gaps : plan.gaps = missingRangesWithin admitted.loaded.manifest.extents range
  merged : plan.merged = commitMerge activeFlightCount admitted.total range
    (withGapExtents admitted.loaded.manifest.extents range input.bytes)
  compacted : plan.compacted = (coalesceMerged
    (withGapExtents admitted.loaded.manifest.extents range input.bytes) plan.merged).2
  manifest : ∃ generation, generation = admitted.loaded.manifest.generation + 1 ∧
    plan.manifest = bindStartup
      { admitted.loaded.manifest with
        generation := generation
        extents := (coalesceMerged
          (withGapExtents admitted.loaded.manifest.extents range input.bytes) plan.merged).1
        durableBytes := durableExtentBytes (coalesceMerged
          (withGapExtents admitted.loaded.manifest.extents range input.bytes) plan.merged).1 }
      range admitted.origin input
  valid : validateRangeManifest plan.manifest resource = .ok ()
  digest : plan.compacted = true → ∃ merged digest, plan.merged = some merged ∧
    plan.mergedSha256 = some digest ∧
    ∀ future, Supplies future data admitted.loaded.manifest.extents
        (missingRangesWithin admitted.loaded.manifest.extents range) range input.bytes →
      merged.start ≤ merged.stop → merged.start ≤ future.length →
      digest = sha256Hex (slice future merged.start merged.stop)

theorem reads_mergedDigest (hdata : files.mediaAt path = some data) (openedLength : Nat)
    (merged : Option ByteRange) (compacted : Bool) :
    Reads (mergedDigest path admitted range input.bytes gaps openedLength merged compacted) files
      fun found => compacted = true → ∃ selected digest, merged = some selected ∧
        found = some digest ∧
        ∀ future, Supplies future data.content admitted.loaded.manifest.extents gaps range
            input.bytes →
          selected.start ≤ selected.stop → selected.start ≤ future.length →
          digest = sha256Hex (slice future selected.start selected.stop) := by
  unfold mergedDigest
  split
  · refine Inspects.bind (inspects_orRaise (notSync_identity "")) ?_
    rintro selected rfl
    refine Inspects.bind (reads_hashVerifiedMergedRange hdata _ _ _ _ _ _) fun digest hdig => ?_
    exact inspects_pure fun _ => ⟨selected, digest, rfl, rfl, hdig⟩
  · exact inspects_pure fun h => absurd h ‹_›

theorem reads_planCommit [UrlParser] (hdata : files.mediaAt path = some data)
    (dataIdentity : FileIdentity)
    (openedLength : Nat) :
    Reads (planCommit resource activeFlightCount range input admitted path dataIdentity openedLength
      (missingRangesWithin admitted.loaded.manifest.extents range)) files
      (PlanFor resource activeFlightCount range input admitted path data.content) := by
  refine Inspects.bind (reads_mergedDigest hdata openedLength _ _) fun digest hdig => ?_
  refine Inspects.bind (reads_verifyExtents hdata _ range input.bytes openedLength _) fun _ _ => ?_
  refine Inspects.bind (reads_rangeDataObjectIsStillBound _ files) fun _ _ => ?_
  refine Inspects.bind (inspects_demand (notSync_identity _)) fun _ _ => ?_
  refine Inspects.bind (reads_nextGeneration _ files) fun generation hgen => ?_
  refine Inspects.bind (reads_ensureRangeManifestCapacity _ files) fun _ _ => ?_
  refine Inspects.bind (reads_validateRangeManifest _ resource files) fun _ hv => ?_
  exact inspects_pure ⟨rfl, rfl, rfl, rfl, ⟨generation, hgen, rfl⟩, hv, hdig⟩

theorem reads_checkGaps (hdata : files.mediaAt path = some data) (bytes : Bytes) :
    Reads (checkGaps path range bytes gaps) files fun _ => True := by
  have hgap : ∀ gap ∈ gaps, Reads (do
      let digest ← hashFileRange path gap
      demand (digest = sha256Hex (incomingPart range bytes gap))
        (identityErrorAt "extent-write-content")) files fun _ => True := by
    intro gap _
    refine Inspects.bind (reads_hashFileRange hdata gap) fun _ _ => ?_
    exact (inspects_demand (notSync_identity _)).mono (fun _ _ => trivial) fun _ h => h
  exact (inspects_forEach hgap).mono (fun _ _ => trivial) fun _ h => h

def Finished (plan : CommitPlan) (manifest : PersistedRangeManifest) : Prop :=
  plan.compacted = false ∧ manifest = plan.manifest ∨
    plan.compacted = true ∧ ∃ merged digest extents, plan.merged = some merged ∧
      plan.mergedSha256 = some digest ∧
      setExtentDigest merged digest plan.manifest.extents = some extents ∧
      manifest = { plan.manifest with extents := extents }

theorem reads_finishManifest (plan : CommitPlan) (files : ResourceFiles) :
    Reads (finishManifest plan) files (Finished plan) := by
  unfold finishManifest
  split
  · rename_i hcompacted
    refine Inspects.bind (inspects_orRaise (notSync_identity "")) fun merged hmerged => ?_
    refine Inspects.bind (inspects_orRaise (notSync_identity "")) fun digest hdig => ?_
    refine Inspects.bind (inspects_orRaise (notSync_identity "")) fun extents hexts => ?_
    exact inspects_pure (.inr ⟨hcompacted, merged, digest, extents, hmerged, hdig, hexts, rfl⟩)
  · rename_i hcompacted
    exact inspects_pure (.inl ⟨by simpa using hcompacted, rfl⟩)

theorem reads_confirmCommit {plan : CommitPlan} (hdata : files.mediaAt plan.path = some data) :
    Reads (confirmCommit range input admitted plan) files fun manifest =>
      Finished plan manifest ∧
        ∀ extent ∈ admitted.loaded.manifest.extents, extent.overlaps range = true →
          AgreesOn data.content extent range input.bytes := by
  refine Inspects.bind (reads_osCall (by decide) files) fun _ _ => ?_
  refine Inspects.bind (reads_mediaLength _ files) fun _ _ => ?_
  refine Inspects.bind (reads_checkGaps hdata _) fun _ _ => ?_
  refine Inspects.bind (reads_verifyExtents hdata _ _ _ _ _) fun _ hagrees => ?_
  refine Inspects.bind (reads_finishManifest plan files) fun manifest hfin => ?_
  refine Inspects.bind (reads_objectIdentity _ files) fun _ _ => ?_
  refine Inspects.bind (reads_mediaLength _ files) fun _ _ => ?_
  refine Inspects.bind (inspects_demand (notSync_identity _)) fun _ _ => ?_
  refine Inspects.bind (reads_rangeDataObjectIsStillBound _ files) fun _ _ => ?_
  refine Inspects.bind (inspects_demand (notSync_identity _)) fun _ _ => ?_
  exact inspects_pure ⟨hfin, fun extent hmem hoverlap =>
    hagrees extent hmem (by simp [hoverlap])⟩

end

section

variable [UrlParser] {resource : HlsMediaResource} {activeFlightCount : Nat} {range : ByteRange}
  {input : RangeExtentCommitInput} {admitted : AdmittedCommit} {path : ManagedPath}
  {plan : CommitPlan} {next : PersistedRangeManifest}

theorem digest_of_extent {manifest : PersistedRangeManifest}
    (h : validateRangeManifest manifest resource = .ok ()) {extent : PersistedRangeExtent}
    (hmem : extent ∈ manifest.extents) : isSha256Hex extent.sha256 = true :=
  (validateExtents_eq_some.mp (validateRangeManifest_eq_ok.mp h).2).2.2.1 extent hmem

variable
  (hplan : PlanFor resource activeFlightCount range input admitted path data.content plan)
  (hsound : CheckpointSound resource admitted.loaded.manifest data.content)
  (hwrites : GapWrites files after data data'
    (missingRangesWithin admitted.loaded.manifest.extents range))
  (hreceived : Received admitted.loaded.manifest data'.content range input.bytes)

include hplan hsound hwrites hreceived

/-- The manifest to publish, with the gaps as extents of their own or merged with their
neighbours. -/
theorem finished_cases (hfin : Finished plan next) :
    next = plan.manifest ∧
        next.extents = withGapExtents admitted.loaded.manifest.extents range input.bytes ∨
      ∃ merged before run rest,
        withGapExtents admitted.loaded.manifest.extents range input.bytes =
            before ++ run ++ rest ∧ run ≠ [] ∧ Contiguous merged.start merged.stop run ∧
          plan.manifest.extents = before ++ [pendingExtent merged] ++ rest ∧
          next = { plan.manifest with
            extents := before ++ [⟨merged.start, merged.stop,
              sha256Hex (slice data'.content merged.start merged.stop)⟩] ++ rest } := by
  have hord := withGapExtents_ordered hsound.ordered range input.bytes
  obtain ⟨generation, _, hmani⟩ := hplan.manifest
  have hexts := congrArg PersistedRangeManifest.extents hmani
  rw [bindStartup_extents, hplan.merged] at hexts
  have hcompacted := hplan.compacted
  rw [hplan.merged] at hcompacted
  rcases coalesceMerged_cases activeFlightCount admitted.total range hord with
    hn | ⟨merged, before, run, rest, hmerge, hsplit, hne, hrun, hs⟩
  · rw [hn] at hexts hcompacted
    rcases hfin with ⟨_, rfl⟩ | ⟨hyes, _⟩
    · exact .inl ⟨rfl, hexts⟩
    · rw [hcompacted] at hyes
      cases hyes
  · rw [hmerge, hs] at hexts hcompacted
    rcases hfin with ⟨hno, _⟩ | ⟨hyes, selected, digest, extents, hsel, hdig, hset, rfl⟩
    · rw [hcompacted] at hno
      cases hno
    obtain ⟨_, _, hmerged', hdigest', hvalue⟩ := hplan.digest hyes
    rw [hplan.merged, hmerge] at hsel hmerged'
    cases hsel
    cases hmerged'
    rw [hdig] at hdigest'
    cases hdigest'
    rw [hsplit] at hord
    rw [hexts, setExtentDigest_merged (hord.replace_run hrun hne)] at hset
    cases hset
    have hstop : merged.stop ≤ data'.content.length := by
      obtain ⟨last, hl, hstop⟩ := hrun.exists_last hne
      have hmem : last ∈ withGapExtents admitted.loaded.manifest.extents range input.bytes := by
        simp [hsplit, hl]
      have := (digests_withGapExtents hsound hwrites hreceived last hmem).1
      simp only [span_stop_extent] at hstop
      omega
    have hle := hrun.le
    have hsha := hvalue data'.content (supplies_of_received hsound hwrites hreceived) hle (by omega)
    right
    exact ⟨merged, before, run, rest, hsplit, hne, hrun, hexts, by rw [hsha]⟩

/-- The extents that a commit publishes cover the same bytes as the old ones and the new ones
together, and carry their digests. -/
theorem finished_extents (hfin : Finished plan next) :
    validateRangeManifest next resource = .ok () ∧
      (∀ extent ∈ next.extents, extent.stop ≤ data'.content.length ∧
        sha256Hex (slice data'.content extent.start extent.stop) = extent.sha256) ∧
      covered next.extents = covered admitted.loaded.manifest.extents ∪ offsets range ∧
      next = { plan.manifest with extents := next.extents } := by
  have hdigs := digests_withGapExtents hsound hwrites hreceived
  have hcov := covered_withGapExtents hsound.ordered range input.bytes
  rcases finished_cases hplan hsound hwrites hreceived hfin with
    ⟨rfl, hexts⟩ | ⟨merged, before, run, rest, hsplit, hne, hrun, hexts, rfl⟩
  · rw [hexts]
    exact ⟨hplan.valid, hdigs, hcov, by rw [← hexts]⟩
  rw [hsplit] at hdigs hcov
  refine ⟨?_, ?_, ?_, rfl⟩
  · refine valid_of_sameSpans hplan.valid ?_ ?_
    · rw [hexts]
      exact sameSpans_merged
    · intro extent hmem
      rw [mem_append, mem_append, List.mem_singleton] at hmem
      have hold : extent ∈ before ++ [pendingExtent merged] ++ rest →
          isSha256Hex extent.sha256 = true :=
        fun h => digest_of_extent hplan.valid (hexts ▸ h)
      rcases hmem with (hmem | rfl) | hmem
      · exact hold (by simp [hmem])
      · exact isSha256Hex_sha256Hex _
      · exact hold (by simp [hmem])
  · intro extent hmem
    rw [mem_append, mem_append, List.mem_singleton] at hmem
    rcases hmem with (hmem | rfl) | hmem
    · exact hdigs extent (by simp [hmem])
    · obtain ⟨last, hl, hstop⟩ := hrun.exists_last hne
      have := (hdigs last (by simp [hl])).1
      simp only [span_stop_extent] at hstop
      exact ⟨by simp only; omega, rfl⟩
    · exact hdigs extent (by simp [hmem])
  · rw [← hcov]
    exact covered_replace_run hrun

theorem finished_sound (htot : admitted.loaded.manifest.totalLength.isSome)
    (hfin : Finished plan next) : CheckpointSound resource next data'.content := by
  obtain ⟨hv, hdigs, _, hn⟩ :=
    finished_extents hplan hsound hwrites hreceived hfin
  obtain ⟨generation, _, hmani⟩ := hplan.manifest
  have hs : next.totalLength = admitted.loaded.manifest.totalLength := by
    rw [hn, hmani]
    simp
  refine ⟨hv, hdigs, ?_, ?_, ?_⟩
  · have hlen : next.prefixLength = plan.manifest.prefixLength := by rw [hn]
    have hpref : next.prefixSha256 = plan.manifest.prefixSha256 := by rw [hn]
    intro digest hdig
    rw [hlen]
    rw [hpref] at hdig
    rw [hmani] at hdig ⊢
    rcases bindStartup_prefixed _ range admitted.origin input with
      ⟨hold, hsha⟩ | ⟨hzero, _, hnew, hsha⟩
    · rw [hold]
      rw [hsha] at hdig
      rw [hwrites.slice_prefixed hsound (gaps_disjoint_covered hsound)]
      exact hsound.prefixDigest digest hdig
    · rw [hnew]
      rw [hsha] at hdig
      cases hdig
      congr 1
      apply ext_getElem?
      intro i
      rw [getElem?_slice, List.getElem?_take]
      by_cases hi : i < min input.bytes.length rangeStartupChunkBytes
      · have := hreceived.length
        rw [if_pos (by omega), if_pos hi, hreceived.getElem? hsound.ordered (by omega) (by omega)]
        congr 1
        omega
      · rw [if_neg (by omega), if_neg hi]
  · rw [hs]
    exact hsound.totalLimit
  · intro _
    rw [hs]
    exact htot

end

structure PublishesCommit (activeFlightCount : Nat) (old new : PersistedRangeManifest) : Prop where
  succeeds : Succeeds old new
  bindings : KeepsBindings old new
  total : new.totalLength = old.totalLength
  extents : activeFlightCount ≠ 1 → KeepsExtents old new

theorem finished_publishes [UrlParser] {resource : HlsMediaResource} {activeFlightCount : Nat}
    {range : ByteRange} {input : RangeExtentCommitInput} {admitted : AdmittedCommit}
    {path : ManagedPath} {plan : CommitPlan} {bytes : Bytes} {next : PersistedRangeManifest}
    (hplan : PlanFor resource activeFlightCount range input admitted path bytes plan)
    (hc : admitted.loaded.manifest.validatedOrigins.length ≤ 64)
    (hfin : Finished plan next) :
    PublishesCommit activeFlightCount admitted.loaded.manifest next := by
  obtain ⟨generation, hgen, hmani⟩ := hplan.manifest
  have hplanned : Succeeds admitted.loaded.manifest plan.manifest := by
    rw [hmani]
    refine Succeeds.trans ?_ (succeeds_bindStartup _ _ _ _ ?_)
    · have hl : admitted.loaded.manifest.generation ≤ generation := by omega
      exact Succeeds.of_sameOrigins rfl rfl rfl hl rfl rfl
    · exact hc
  have hbinds : KeepsBindings admitted.loaded.manifest plan.manifest := by
    rw [hmani]
    intro other binding hbind
    apply keepsBindings_bindStartup
    · exact hc
    · exact hbind
  have htot : plan.manifest.totalLength = admitted.loaded.manifest.totalLength := by
    rw [hmani]
    simp
  rcases hfin with ⟨_, rfl⟩ | ⟨hcompacted, merged, _, _, hmerged, _, _, rfl⟩
  · refine ⟨hplanned, hbinds, htot, fun hseveral extent hmem => ?_⟩
    have hn : plan.merged = none := by
      rw [hplan.merged, commitMerge, if_neg hseveral]
    rw [hmani, hn]
    simp only [bindStartup_extents]
    exact (sortExtents_perm _).mem_iff.mpr (mem_append_left _ hmem)
  · refine ⟨hplanned.trans (Succeeds.of_sameOrigins rfl rfl rfl le_rfl rfl rfl),
      hbinds, htot, fun hseveral => ?_⟩
    rw [hplan.merged, commitMerge, if_neg hseveral] at hmerged
    cases hmerged

def CommitNotSync (failure : RangeExtentCommitFailure) : Prop :=
  failure ≠ .rejected (.io (.os .syncDirectory))

theorem commitNotSync_rejected {error : HlsRangeError} (h : NotSync error) :
    CommitNotSync (.rejected error) := by
  simpa [CommitNotSync, NotSync] using h

section

variable [UrlParser] {resource : HlsMediaResource} {range : ByteRange}
  {input : RangeExtentCommitInput} {admitted : AdmittedCommit}

/-- What the checks before the plan have found out. -/
structure AdmittedFor (range : ByteRange) (input : RangeExtentCommitInput)
    (files : ResourceFiles) (admitted : AdmittedCommit) : Prop where
  loaded : files.loaded = some admitted.loaded
  length : input.bytes.length = range.stop - range.start
  origin : mediaUrlOrigin input.finalUrl = some admitted.origin
  rebase : rangeManifestRebaseCompatibleForExtentPublication input.expected
    admitted.loaded.manifest admitted.origin = true
  binding : (admitted.loaded.manifest.bindingOf admitted.origin).all
    (fun binding => binding.strongEtag = input.etag) = true
  total : admitted.loaded.manifest.totalLength = some admitted.total
  bounds : range.start < range.stop ∧ range.stop ≤ admitted.total

omit [UrlParser] in
theorem inspects_demandRebase (expected current : PersistedRangeManifest) (origin : String)
    (files : ResourceFiles) :
    Inspects (demandRebase expected current origin) files
      (fun _ => rangeManifestRebaseCompatibleForExtentPublication expected current origin = true)
      CommitNotSync := by
  unfold demandRebase
  split
  · exact inspects_pure ‹_›
  · split
    · exact inspects_raise (by simp [CommitNotSync])
    · exact inspects_raise (commitNotSync_rejected (notSync_identity _))

theorem inspects_admitCommit (resource : HlsMediaResource) (range : ByteRange)
    (input : RangeExtentCommitInput) (files : ResourceFiles) :
    Inspects (admitCommit resource range input) files (AdmittedFor range input files)
      CommitNotSync := by
  refine Inspects.bind (inspects_demand (commitNotSync_rejected (notSync_invalid _)))
    fun _ hlen => ?_
  refine Inspects.bind (inspects_orRaise (commitNotSync_rejected (notSync_invalid _)))
    fun origin horigin => ?_
  refine Inspects.bind ((reads_loadExisting resource files).mapError
    fun _ => commitNotSync_rejected) fun loaded hl => ?_
  refine Inspects.bind (inspects_demandRebase _ _ _ files) fun _ hrebase => ?_
  refine Inspects.bind (inspects_demand (commitNotSync_rejected (notSync_identity _)))
    fun _ hbind => ?_
  refine Inspects.bind (inspects_orRaise (commitNotSync_rejected (notSync_identity "")))
    fun total htot => ?_
  refine Inspects.bind (inspects_demand (commitNotSync_rejected (notSync_invalid _)))
    fun _ hbounds => ?_
  exact inspects_pure ⟨hl.1, hlen, horigin, hrebase, hbind, htot, hbounds⟩

def commitPost {Error : Type} (kept : Error → Prop) (unsynced : Error)
    (before after : ResourceFiles → Prop) : Post ResourceFiles Error Nat where
  returned durableBytes t := durableBytes = (coveredSet t).card ∧ after t
  raised error t := kept error ∧ before t ∨ error = unsynced ∧ after t
  crashed t := before t ∨ after t

/-- A commit covers the old bytes wherever it stops, and the new ones too once it succeeds. -/
theorem ends_commitAdmitted (hadm : AdmittedFor range input files admitted)
    (hholds : Holds files admitted.loaded.manifest data)
    (hsound : CheckpointSound resource admitted.loaded.manifest data.content)
    (activeFlightCount : Nat) :
    Ends (commitAdmitted resource activeFlightCount range input admitted) files
      (commitPost NotSync (.io (.os .syncDirectory))
        (Advances resource (PublishesCommit activeFlightCount) files · (coveredSet files))
        (Advances resource (PublishesCommit activeFlightCount) files ·
          (coveredSet files ∪ offsets range))) := by
  have hs : Advances resource (PublishesCommit activeFlightCount) files files
      (coveredSet files) := Advances.refl hholds hsound
  have hdisj : Disjoint (covered (missingRangesWithin _ range)) _ := gaps_disjoint_covered hsound
  refine Ends.bind_inspects (reads_dataPathForManifest _ files) (fun path hpath => ?_)
    (fun _ h => .inl ⟨h, hs⟩) (.inl hs)
  obtain rfl : path = .rangeData := by
    rcases hpath.2.2 with h | ⟨_, h⟩
    · exact h
    · exact absurd hholds.identityAt h
  refine Ends.bind_inspects (reads_osCall (by decide) files) (fun _ _ => ?_)
    (fun _ h => .inl ⟨h, hs⟩) (.inl hs)
  refine Ends.bind_inspects (reads_openRangeFile _ files) (fun dataIdentity _ => ?_)
    (fun _ h => .inl ⟨h, hs⟩) (.inl hs)
  refine Ends.bind_inspects (reads_mediaLength _ files) (fun openedLength _ => ?_)
    (fun _ h => .inl ⟨h, hs⟩) (.inl hs)
  refine Ends.bind_inspects (inspects_demand (notSync_identity _)) (fun _ _ => ?_)
    (fun _ h => .inl ⟨h, hs⟩) (.inl hs)
  dsimp only
  split
  · -- nothing is missing: the bytes are compared with what is there
    rename_i hgaps
    have he := covered_missingRangesWithin hsound.ordered range
    rw [hgaps, covered_nil] at he
    have hcovers : coveredSet files ∪ offsets range = coveredSet files := by
      rw [hholds.coveredSet_eq, union_eq_left]
      exact sdiff_eq_empty_iff_subset.mp he.symm
    refine Ends.bind_inspects (reads_verifyExtents hholds.mediaAt _ _ _ _ _) (fun _ _ => ?_)
      (fun _ h => .inl ⟨h, hs⟩) (.inl hs)
    refine ends_pure ⟨?_, by rw [hcovers]; exact hs⟩
    rw [hholds.coveredSet_eq]
    exact hsound.durableBytes
  · refine Ends.bind_inspects (reads_planCommit hholds.mediaAt dataIdentity openedLength)
      (fun plan hplan => ?_) (fun _ h => .inl ⟨h, hs⟩) (.inl hs)
    have hgapsOrdered := missingRangesWithin_ordered hsound.ordered range
    have hpart : ∀ gap ∈ missingRangesWithin admitted.loaded.manifest.extents range,
        (incomingPart range input.bytes gap).length = gap.stop - gap.start := fun gap hmem =>
      length_incomingPart hadm.length (missingRangesWithin_stop_le hsound.ordered hmem)
        (hgapsOrdered.mem hmem).1
    have hpartially (t : ResourceFiles) (h : ∃ data', GapWrites files t data data'
        (missingRangesWithin admitted.loaded.manifest.extents range)) :
        Advances resource (PublishesCommit activeFlightCount) files t (coveredSet files) := by
      obtain ⟨data', hwrites⟩ := h
      exact hwrites.advances hholds hsound hdisj
    refine Ends.bind (ends_writeGaps hholds.dataFile hgapsOrdered hpart) ?_
      (fun _ t h => .inl ⟨h.1, hpartially t h.2⟩) (fun t h => .inl (hpartially t h))
    rintro _ t ⟨data', hwrites, hwrit⟩
    have hwritesOnly : Advances resource (PublishesCommit activeFlightCount) files t
        (coveredSet files) := hwrites.advances hholds hsound hdisj
    have hholds' := hwrites.holds hholds
    refine Ends.bind_inspects (reads_confirmCommit (by rw [hplan.path]; exact hholds'.mediaAt))
      (fun next hn => ?_) (fun _ h => .inl ⟨h, hwritesOnly⟩) (.inl hwritesOnly)
    obtain ⟨hfin, hagrees⟩ := hn
    have hreceived : Received admitted.loaded.manifest data'.content range input.bytes :=
      ⟨hadm.length, hadm.bounds.1, hwrit, hagrees⟩
    obtain ⟨_, _, hcov, hsameRecord⟩ :=
      finished_extents hplan hsound hwrites hreceived hfin
    have hnextSound := finished_sound hplan hsound hwrites hreceived
      (by rw [hadm.total]; rfl) hfin
    have hident : next.dataIdentity = admitted.loaded.manifest.dataIdentity := by
      obtain ⟨generation, _, hmani⟩ := hplan.manifest
      rw [hsameRecord, hmani]
      simp
    have hnextHolds := hholds'.install hident
    have hpubl : Advances resource (PublishesCommit activeFlightCount) files (t.installManifest next)
        (coveredSet files ∪ offsets range) :=
      ⟨⟨next, data', hnextHolds, hnextSound⟩, hwritesOnly.keeps.install next,
        by rw [hnextHolds.coveredSet_eq, hcov, hholds.coveredSet_eq],
        .inr ⟨_, next, hholds.manifestFile, rfl,
          finished_publishes hplan hsound.originCount hfin⟩⟩
    refine Ends.bind_inspects (reads_loadExisting resource t) (fun _ _ => ?_)
      (fun _ h => .inl ⟨h, hwritesOnly⟩) (.inl hwritesOnly)
    refine Ends.bind_inspects (inspects_demand (notSync_identity _)) (fun _ _ => ?_)
      (fun _ h => .inl ⟨h, hwritesOnly⟩) (.inl hwritesOnly)
    refine Ends.bind (ends_replaceManifest next t) ?_ ?_ ?_
    · rintro _ _ rfl
      refine ends_pure ⟨?_, hpubl⟩
      rw [hnextHolds.coveredSet_eq]
      exact hnextSound.durableBytes
    · rintro error _ (⟨herror, rfl⟩ | ⟨herror, rfl⟩)
      · exact .inl ⟨herror, hwritesOnly⟩
      · exact .inr ⟨herror, hpubl⟩
    · rintro _ (rfl | rfl)
      · exact .inl hwritesOnly
      · exact .inr hpubl

theorem ends_commitRangeExtent (h : Stored resource files) (activeFlightCount : Nat)
    (range : ByteRange) (input : RangeExtentCommitInput) :
    Ends (commitRangeExtentWithFailure resource activeFlightCount range input) files
      (commitPost CommitNotSync (.rejected (.io (.os .syncDirectory)))
        (Advances resource (PublishesCommit activeFlightCount) files · (coveredSet files))
        (Advances resource (PublishesCommit activeFlightCount) files ·
          (coveredSet files ∪ offsets range))) := by
  obtain ⟨manifest, data, hholds, hsound⟩ := h
  have hs : Advances resource (PublishesCommit activeFlightCount) files files
      (coveredSet files) := Advances.refl hholds hsound
  refine Ends.bind_inspects (inspects_admitCommit resource range input files)
    (fun admitted hadm => ?_) (fun _ h => .inl ⟨h, hs⟩) (.inl hs)
  obtain rfl := hholds.loaded_manifest hadm.loaded
  refine (ends_commitAdmitted hadm hholds hsound activeFlightCount).mapError
    (fun _ _ h => h) (fun error t h => ?_) (fun _ h => h)
  rcases h with ⟨herror, h⟩ | ⟨rfl, h⟩
  · exact .inl ⟨commitNotSync_rejected herror, h⟩
  · exact .inr ⟨rfl, h⟩

end

end NetPlayer.RangeCache
