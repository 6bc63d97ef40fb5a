import NetPlayer.Outputs.Identity

/-!
# Deleted items

A deletion marks the results that refer to what was deleted as failed and clears their references.
The mark of a library item chooses the primary result again when it affects it; the mark of a
playback cache keeps it, and leaves the references that it does not match.
-/

namespace NetPlayer.Outputs

open TaskResult List Option

def TaskResult.references (result : TaskResult) : List String :=
  result.libraryItemId ::
    ((result.playbackSource.toList.map PlaybackSource.itemId) ++
      result.artifacts.map TaskArtifact.libraryItemId)

def TaskResult.RefersTo (ids : List String) (result : TaskResult) : Prop :=
  ∃ id ∈ ids, id ≠ "" ∧ id ∈ result.references

def PrimaryLeads (primaryResultId : String) (results : List TaskResult) : Prop :=
  (∃ result ∈ results, isSuccessful result = true) →
    ∃ result ∈ results, result.id = primaryResultId ∧ isSuccessful result = true

def TaskResult.outline (result : TaskResult) : String × Int32 × List String :=
  (result.id, result.state, result.references)

theorem SameArtifacts.libraryItemIds {artifacts bound : List TaskArtifact}
    (h : SameArtifacts artifacts bound) :
    bound.map TaskArtifact.libraryItemId = artifacts.map TaskArtifact.libraryItemId := by
  induction h with
  | nil => rfl
  | cons same _ ih =>
    rw [map_cons, map_cons, ih, same]

theorem SameResults.outlines {results bound : List TaskResult} (h : SameResults results bound) :
    bound.map TaskResult.outline = results.map TaskResult.outline := by
  induction h with
  | nil => rfl
  | @cons result other results others same _ ih =>
    obtain ⟨hs, harts⟩ := same
    have hreferences : other.references = result.references := by
      unfold TaskResult.references
      rw [harts.libraryItemIds, hs]
    have houtline : other.outline = result.outline := by
      unfold TaskResult.outline
      rw [hreferences, hs]
    rw [map_cons, map_cons, ih, houtline]

theorem exists_of_outlines {results others : List TaskResult} {holds : TaskResult → Prop}
    (h : others.map TaskResult.outline = results.map TaskResult.outline)
    (respects : ∀ result other : TaskResult, result.outline = other.outline → holds result →
      holds other)
    (hexists : ∃ result ∈ others, holds result) : ∃ result ∈ results, holds result := by
  obtain ⟨result, hm, hh⟩ := hexists
  have hin : result.outline ∈ results.map TaskResult.outline := h ▸ List.mem_map_of_mem hm
  obtain ⟨other, ho, hs⟩ := List.mem_map.mp hin
  exact ⟨other, ho, respects result other hs.symm hh⟩

variable {result other : TaskResult} (h : result.outline = other.outline)

include h

theorem isSuccessful_of_outline : isSuccessful result = isSuccessful other := by
  have hs : result.state = other.state := congrArg (fun outline => outline.2.1) h
  unfold isSuccessful
  rw [hs]

theorem id_of_outline : result.id = other.id :=
  congrArg Prod.fst h

theorem references_of_outline : result.references = other.references :=
  congrArg (fun outline => outline.2.2) h

omit h

theorem PrimaryLeads.of_outlines {primary : String} {results others : List TaskResult}
    (h : others.map TaskResult.outline = results.map TaskResult.outline)
    (leads : PrimaryLeads primary results) : PrimaryLeads primary others := by
  intro hsucc
  have hb := exists_of_outlines h
    (fun result other hs hh => (isSuccessful_of_outline hs).symm.trans hh)
    hsucc
  refine exists_of_outlines h.symm (fun result other hs hh => ?_) (leads hb)
  exact ⟨(id_of_outline hs).symm.trans hh.1,
    (isSuccessful_of_outline hs).symm.trans hh.2⟩

theorem refersTo_of_outlines {ids : List String} {results others : List TaskResult}
    (h : others.map TaskResult.outline = results.map TaskResult.outline)
    (hrefs : ∃ result ∈ others, result.RefersTo ids) : ∃ result ∈ results, result.RefersTo ids := by
  refine exists_of_outlines h (fun result other hs hh => ?_) hrefs
  obtain ⟨id, hid, hnamed, hin⟩ := hh
  exact ⟨id, hid, hnamed, references_of_outline hs ▸ hin⟩

variable {uuid : BitVec 128}

theorem finishDeletion_primary {updated after : TaskOutputRecord} {affected : Bool}
    (h : updated.finishDeletion affected uuid = .ok after) :
    after.primaryResultId =
      if affected || !hasResult updated.results updated.primaryResultId then
        inferredPrimaryResultId updated.results else updated.primaryResultId := by
  unfold TaskOutputRecord.finishDeletion at h
  obtain ⟨-, h⟩ := bind_check_eq_ok.mp h
  obtain ⟨bound, -, h⟩ := bind_eq_ok.mp h
  obtain ⟨-, h⟩ := bind_check_eq_ok.mp h
  obtain ⟨-, h⟩ := bind_check_eq_ok.mp h
  cases h
  rfl

theorem inferredPrimaryResultId_leads (results : List TaskResult) :
    PrimaryLeads (inferredPrimaryResultId results) results := by
  rintro ⟨result, hm, hsucc⟩
  unfold inferredPrimaryResultId
  cases hfind : results.find? isSuccessful with
  | none =>
    rw [List.find?_eq_none] at hfind
    exact absurd hsucc (hfind result hm)
  | some first =>
    exact ⟨first, mem_of_find?_eq_some hfind, rfl, List.find?_some hfind⟩

def markedResults (matched : TaskResult → Bool) (mark : TaskResult → TaskResult)
    (results : List TaskResult) : List TaskResult :=
  results.map fun result => if matched result then mark result else result

section Marks

variable {matched : TaskResult → Bool} {mark : TaskResult → TaskResult}
  {results : List TaskResult}

theorem mem_markedResults :
    result ∈ markedResults matched mark results ↔
      (∃ old ∈ results, matched old = true ∧ mark old = result) ∨
        (result ∈ results ∧ matched result = false) := by
  unfold markedResults
  rw [List.mem_map]
  constructor
  · rintro ⟨old, hold, hmark⟩
    cases hm : matched old with
    | true =>
      rw [if_pos hm] at hmark
      exact .inl ⟨old, hold, hm, hmark⟩
    | false =>
      rw [hm, if_neg Bool.false_ne_true] at hmark
      subst hmark
      exact .inr ⟨hold, hm⟩
  · rintro (⟨old, hold, hm, hmark⟩ | ⟨hold, hm⟩)
    · exact ⟨old, hold, by rw [if_pos hm, hmark]⟩
    · exact ⟨result, hold, by rw [hm, if_neg Bool.false_ne_true]⟩

structure FailingMark (mark : TaskResult → TaskResult) : Prop where
  id : ∀ result, (mark result).id = result.id
  failed : ∀ result, isSuccessful (mark result) = false

theorem mem_of_successful (hmark : FailingMark mark)
    (hm : result ∈ markedResults matched mark results) (hsucc : isSuccessful result = true) :
    result ∈ results ∧ matched result = false := by
  rcases mem_markedResults.mp hm with ⟨old, -, -, rfl⟩ | hk
  · rw [hmark.failed old] at hsucc
    cases hsucc
  · exact hk

theorem ids_markedResults (hmark : FailingMark mark) :
    (markedResults matched mark results).map TaskResult.id = results.map TaskResult.id := by
  unfold markedResults
  rw [List.map_map]
  apply map_congr_left
  intro result _
  show (if matched result then mark result else result).id = result.id
  split
  · exact hmark.id result
  · rfl

theorem PrimaryLeads.marked (hmark : FailingMark mark) {primary : String}
    (leads : PrimaryLeads primary results)
    (unmatched : ∀ result ∈ results, result.id = primary → isSuccessful result = true →
      (∃ other ∈ results, isSuccessful other = true ∧ matched other = false) →
      matched result = false) : PrimaryLeads primary (markedResults matched mark results) := by
  rintro ⟨other, hm, hsucc⟩
  obtain ⟨ho, hk⟩ := mem_of_successful hmark hm hsucc
  obtain ⟨result, hres, hid, hprim⟩ := leads ⟨other, ho, hsucc⟩
  have hfree := unmatched result hres hid hprim ⟨other, ho, hsucc, hk⟩
  exact ⟨result, mem_markedResults.mpr (.inr ⟨hres, hfree⟩), hid, hprim⟩

end Marks

theorem isSuccessful_of_failed (h : result.state = taskStateFailed) :
    isSuccessful result = false := by
  unfold isSuccessful
  rw [h]
  decide

theorem failingMark_playbackDeleted (message : String) :
    FailingMark (playbackDeleted message) where
  id _ := rfl
  failed _ := isSuccessful_of_failed rfl

theorem failingMark_itemDeleted (libraryItemId message : String) :
    FailingMark (itemDeleted libraryItemId message) where
  id _ := rfl
  failed _ := isSuccessful_of_failed rfl

theorem itemDeleted_not_refersTo (libraryItemId message : String) (result : TaskResult) :
    ¬ (result.itemDeleted libraryItemId message).RefersTo [libraryItemId] := by
  rintro ⟨id, hid, hnamed, hin⟩
  rw [mem_singleton] at hid
  subst hid
  unfold TaskResult.references itemDeleted at hin
  simp only [mem_cons, mem_append, List.mem_map, mem_toList] at hin
  rcases hin with hi | ⟨source, hsrc, hi⟩ | ⟨artifact, ⟨old, -, hart⟩, hi⟩
  · split at hi
    · exact hnamed hi
    · next ho => exact ho hi.symm
  · rw [filter_eq_some_iff] at hsrc
    simp [hi] at hsrc
  split at hart
  · next ho =>
      subst hart
      exact ho hi
  · subst hart
    exact hnamed hi.symm

theorem not_refersTo_of_not_matchesItem {libraryItemId : String}
    (h : result.matchesItem libraryItemId = false) : ¬ result.RefersTo [libraryItemId] := by
  rintro ⟨id, hid, -, hin⟩
  rw [mem_singleton] at hid
  subst hid
  unfold matchesItem refersToItem at h
  simp only [Bool.or_eq_false_iff, beq_eq_false_iff_ne] at h
  obtain ⟨⟨hi, hsrc⟩, harts⟩ := h
  unfold TaskResult.references at hin
  simp only [mem_cons, mem_append, List.mem_map, mem_toList] at hin
  rcases hin with hown | ⟨source, hplayback, hown⟩ | ⟨artifact, hart, hown⟩
  · exact hi hown.symm
  · rw [hplayback] at hsrc
    simp [hown] at hsrc
  · rw [List.any_eq_false] at harts
    exact harts artifact hart (by simp [hown])

variable {record after : TaskOutputRecord}

theorem itemMark_keeps {libraryItemId message : String} (managed : record.legacyManaged = false)
    (leads : PrimaryLeads record.primaryResultId record.results)
    (h : record.markLibraryItemDeleted libraryItemId message uuid = .ok after) :
    PrimaryLeads after.primaryResultId after.results ∧
      ¬ ∃ result ∈ after.results, result.RefersTo [libraryItemId] := by
  unfold TaskOutputRecord.markLibraryItemDeleted at h
  rw [managed, if_neg Bool.false_ne_true] at h
  split at h
  · have hs := (finishDeletion_spec h).2.1.outlines
    have hmark := failingMark_itemDeleted libraryItemId message
    have hprim := finishDeletion_primary h
    change after.results.map TaskResult.outline =
      (markedResults (matchesItem libraryItemId)
        (itemDeleted libraryItemId message) record.results).map TaskResult.outline
      at hs
    constructor
    · apply PrimaryLeads.of_outlines hs
      rw [hprim]
      split
      · exact inferredPrimaryResultId_leads _
      next hk =>
        rw [Bool.not_eq_true, Bool.or_eq_false_iff] at hk
        refine leads.marked hmark fun result hm hid _ _ => ?_
        have haffected := List.any_eq_false.mp hk.1 result hm
        simpa [hid] using haffected
    · intro hrefs
      obtain ⟨result, hm, hres⟩ := refersTo_of_outlines hs hrefs
      rcases mem_markedResults.mp hm with ⟨old, -, -, rfl⟩ | ⟨-, hfree⟩
      · exact itemDeleted_not_refersTo libraryItemId message old hres
      · exact not_refersTo_of_not_matchesItem hfree hres
  · next hn =>
      cases h
      refine ⟨leads, ?_⟩
      rintro ⟨result, hm, hrefs⟩
      rw [Bool.not_eq_true, List.any_eq_false] at hn
      have hfree : result.matchesItem libraryItemId = false := by
        simpa using hn result hm
      exact not_refersTo_of_not_matchesItem hfree hrefs

def TaskArtifact.keptByCacheMark (artifact : TaskArtifact) : Prop :=
  TaskArtifactKind.of artifact.kind ≠ .media ∨ TaskArtifactState.of artifact.state ≠ .available

/-- When the mark of a playback cache does all there is to do: the primary result is not matched
while another successful one is kept, and neither a kept artifact of a matched result nor a result
that is not matched refers to what was deleted. -/
structure TaskOutputRecord.CacheMarkSuffices (record : TaskOutputRecord)
    (sessionId libraryItemId : String) : Prop where
  primary : (∃ result ∈ record.results, result.id = record.primaryResultId ∧
      result.matchesCache sessionId libraryItemId = true) →
    ∀ result ∈ record.results, isSuccessful result = true →
      result.matchesCache sessionId libraryItemId = true
  matched : ∀ result ∈ record.results, result.matchesCache sessionId libraryItemId = true →
    ∀ artifact ∈ result.artifacts, artifact.keptByCacheMark → artifact.libraryItemId ≠ "" →
      artifact.libraryItemId ∉ [sessionId, libraryItemId]
  unmatched : ∀ result ∈ record.results, result.matchesCache sessionId libraryItemId = false →
    ¬ result.RefersTo [sessionId, libraryItemId]

theorem playbackDeleted_refersTo {message : String} {ids : List String} :
    (result.playbackDeleted message).RefersTo ids ↔
      ∃ artifact ∈ result.artifacts, artifact.keptByCacheMark ∧ artifact.libraryItemId ≠ "" ∧
        artifact.libraryItemId ∈ ids := by
  constructor
  · rintro ⟨id, hid, hnamed, hin⟩
    unfold TaskResult.references playbackDeleted at hin
    simp only [mem_cons, mem_append, List.mem_map, mem_toList] at hin
    rcases hin with hi | ⟨source, hsrc, -⟩ | ⟨artifact, ⟨old, hold, hart⟩, hi⟩
    · exact absurd hi hnamed
    · cases hsrc
    split at hart
    · next hk =>
        subst hart hi
        exact ⟨old, hold, hk, hnamed, hid⟩
    · subst hart
      exact absurd hi.symm hnamed
  · rintro ⟨artifact, hm, hk, hnamed, hin⟩
    refine ⟨artifact.libraryItemId, hin, hnamed, ?_⟩
    unfold TaskResult.references playbackDeleted
    simp only [mem_cons, mem_append, List.mem_map, mem_toList]
    exact .inr (.inr ⟨artifact, ⟨artifact, hm, if_pos hk⟩, rfl⟩)

variable {sessionId libraryItemId message : String}

theorem cacheMark_refersTo_iff {results : List TaskResult} :
    (¬ ∃ result ∈ markedResults (matchesCache sessionId libraryItemId)
        (playbackDeleted message) results,
      result.RefersTo [sessionId, libraryItemId]) ↔
      (∀ result ∈ results, result.matchesCache sessionId libraryItemId = true →
        ∀ artifact ∈ result.artifacts, artifact.keptByCacheMark → artifact.libraryItemId ≠ "" →
          artifact.libraryItemId ∉ [sessionId, libraryItemId]) ∧
        ∀ result ∈ results, result.matchesCache sessionId libraryItemId = false →
          ¬ result.RefersTo [sessionId, libraryItemId] := by
  constructor
  · intro hn
    constructor
    · intro result hmem hm artifact hart hk hnamed hin
      exact hn ⟨_, mem_markedResults.mpr (.inl ⟨result, hmem, hm, rfl⟩),
        playbackDeleted_refersTo.mpr ⟨artifact, hart, hk, hnamed, hin⟩⟩
    · intro result hmem hm hrefs
      exact hn ⟨result, mem_markedResults.mpr (.inr ⟨hmem, hm⟩), hrefs⟩
  · rintro ⟨hmatched, hunmatched⟩ ⟨result, hmem, hrefs⟩
    rcases mem_markedResults.mp hmem with ⟨old, hold, hm, rfl⟩ | ⟨hold, hm⟩
    · obtain ⟨artifact, hart, hk, hnamed, hin⟩ := playbackDeleted_refersTo.mp hrefs
      exact hmatched old hold hm artifact hart hk hnamed hin
    · exact hunmatched result hold hm hrefs

theorem eq_of_id {results : List TaskResult} (unique : (results.map TaskResult.id).Nodup)
    (hm : result ∈ results) (ho : other ∈ results) (hid : result.id = other.id) :
    result = other :=
  inj_on_of_nodup_map unique hm ho hid

theorem cacheMark_leads_iff (leads : PrimaryLeads record.primaryResultId record.results)
    (h : (record.withResults (markedResults (matchesCache sessionId libraryItemId)
      (playbackDeleted message) record.results)).finishDeletion false uuid = .ok after) :
    PrimaryLeads after.primaryResultId after.results ↔
      ((∃ result ∈ record.results, result.id = record.primaryResultId ∧
          result.matchesCache sessionId libraryItemId = true) →
        ∀ result ∈ record.results, isSuccessful result = true →
          result.matchesCache sessionId libraryItemId = true) := by
  obtain ⟨hformed, hs, -⟩ := finishDeletion_spec h
  have hmark := failingMark_playbackDeleted message
  have hprim := finishDeletion_primary h
  have hids : (record.results.map TaskResult.id).Nodup := by
    have ha := hformed.uniqueResults
    rw [hs.ids] at ha
    rwa [← ids_markedResults hmark]
  rw [Bool.false_or] at hprim
  constructor
  · rintro ha ⟨primary, hmem, hid, hm⟩ result hres hsucc
    by_contra hfree
    rw [Bool.not_eq_true] at hfree
    have hhas : hasResult (markedResults (matchesCache sessionId libraryItemId)
        (playbackDeleted message) record.results) record.primaryResultId = true := by
      rw [hasResult_eq_true]
      exact ⟨_, mem_markedResults.mpr (.inl ⟨primary, hmem, hm, rfl⟩), hid⟩
    change after.primaryResultId = if !hasResult (markedResults _ _ record.results)
      record.primaryResultId then _ else record.primaryResultId at hprim
    rw [hhas, Bool.not_true, if_neg Bool.false_ne_true] at hprim
    rw [hprim] at ha
    have hmarked := ha.of_outlines hs.outlines.symm
    obtain ⟨leader, hleader, hleads, hsucceeds⟩ :=
      hmarked ⟨result, mem_markedResults.mpr (.inr ⟨hres, hfree⟩), hsucc⟩
    obtain ⟨hold, hunmatched⟩ := mem_of_successful hmark hleader hsucceeds
    have hsameResult := eq_of_id hids hold hmem (hleads.trans hid.symm)
    rw [hsameResult, hm] at hunmatched
    cases hunmatched
  · intro hcond
    apply PrimaryLeads.of_outlines hs.outlines
    rw [hprim]
    split
    · exact inferredPrimaryResultId_leads _
    refine leads.marked hmark fun result hmem hid _ hk => ?_
    obtain ⟨other, ho, hsucc, hfree⟩ := hk
    by_contra hm
    rw [Bool.not_eq_false] at hm
    have hall := hcond ⟨result, hmem, hid, hm⟩ other ho hsucc
    rw [hall] at hfree
    cases hfree

theorem cacheMark_keeps_iff (managed : record.legacyManaged = false)
    (leads : PrimaryLeads record.primaryResultId record.results)
    (h : record.markPlaybackCacheDeleted sessionId libraryItemId message uuid = .ok after) :
    (PrimaryLeads after.primaryResultId after.results ∧
      ¬ ∃ result ∈ after.results, result.RefersTo [sessionId, libraryItemId]) ↔
      record.CacheMarkSuffices sessionId libraryItemId := by
  unfold TaskOutputRecord.markPlaybackCacheDeleted at h
  rw [managed, if_neg Bool.false_ne_true] at h
  split at h
  · have hs := (finishDeletion_spec h).2.1.outlines
    have hleads := cacheMark_leads_iff leads h
    have hrefs : (¬ ∃ result ∈ after.results, result.RefersTo [sessionId, libraryItemId]) ↔
        ¬ ∃ result ∈ markedResults (matchesCache sessionId libraryItemId)
          (playbackDeleted message) record.results,
          result.RefersTo [sessionId, libraryItemId] :=
      not_congr ⟨refersTo_of_outlines hs, refersTo_of_outlines hs.symm⟩
    rw [hleads, hrefs, cacheMark_refersTo_iff]
    constructor
    · rintro ⟨hprim, hmatched, hunmatched⟩
      exact ⟨hprim, hmatched, hunmatched⟩
    · intro hsuffices
      exact ⟨hsuffices.primary, hsuffices.matched, hsuffices.unmatched⟩
  · next hn =>
      cases h
      rw [Bool.not_eq_true, List.any_eq_false] at hn
      have hfree : ∀ result ∈ record.results,
          result.matchesCache sessionId libraryItemId = false := by
        simpa using hn
      constructor
      · rintro ⟨-, hrefs⟩
        refine ⟨?_, ?_, ?_⟩
        · rintro ⟨primary, hmem, -, hm⟩
          rw [hfree primary hmem] at hm
          cases hm
        · intro result hmem hm
          rw [hfree result hmem] at hm
          cases hm
        · exact fun result hmem _ hres => hrefs ⟨result, hmem, hres⟩
      · intro hsuffices
        refine ⟨leads, ?_⟩
        rintro ⟨result, hmem, hres⟩
        exact hsuffices.unmatched result hmem (hfree result hmem) hres

def OutputOperation.deletedIds : OutputOperation → List String
  | .markPlaybackCacheDeleted sessionId libraryItemId _ => [sessionId, libraryItemId]
  | .markLibraryItemDeleted libraryItemId _ => [libraryItemId]
  | _ => []

/-- When a deletion keeps the primary result playable and leaves no reference. -/
def OutputOperation.Suffices (operation : OutputOperation) (record : TaskOutputRecord) : Prop :=
  match operation with
  | .markPlaybackCacheDeleted sessionId libraryItemId _ =>
    record.CacheMarkSuffices sessionId libraryItemId
  | _ => True

/-- A deletion keeps the primary result playable and leaves no reference to what it deletes
exactly when it is the mark of a library item, or that of a playback cache which suffices. -/
theorem deletion_keeps_primary_iff {operation : OutputOperation} {record after : TaskOutputRecord}
    {uuid : BitVec 128} (deletion : operation.isDeletion = true)
    (managed : record.legacyManaged = false)
    (leads : PrimaryLeads record.primaryResultId record.results)
    (h : operation.apply record uuid = .ok after) :
    (PrimaryLeads after.primaryResultId after.results ∧
      ∀ result ∈ after.results, ¬ result.RefersTo operation.deletedIds) ↔
      operation.Suffices record := by
  cases operation with
  | markPlaybackCacheDeleted sessionId libraryItemId message =>
    have hkeeps := cacheMark_keeps_iff managed leads h
    simp only [not_exists, not_and] at hkeeps
    exact hkeeps
  | markLibraryItemDeleted libraryItemId message =>
    have hkeeps := itemMark_keeps managed leads h
    simp only [not_exists, not_and] at hkeeps
    exact ⟨fun _ => trivial, fun _ => hkeeps⟩
  | reconcile task | replace results resources preferred
  | updateFillStatusForTask task resultId status | retireExpired now excluded
  | updateFillStatus resultId status | restore => cases deletion

def twoResults : TaskOutputRecord :=
  { sampleOutput with results := [sampleResult, { sampleResult with id := "second" }] }

def twoResultsMarked : TaskOutputRecord :=
  { twoResults with
    revision := 2
    snapshotId := newSnapshotId 1
    results := [sampleResult.playbackDeleted "The cache was deleted.",
      { sampleResult with id := "second" }] }

theorem twoResults_replaced :
    TaskOutputRecord.replaceWithPrimaryResult none twoResults.results [] none 0 =
      .ok twoResults := by
  decide +kernel

theorem twoResults_lead : PrimaryLeads twoResults.primaryResultId twoResults.results := by
  unfold PrimaryLeads
  decide +kernel

theorem twoResults_marked : sampleMark.apply twoResults 1 = .ok twoResultsMarked := by
  decide +kernel

/-- After the mark the failed result stays primary, beside one that has succeeded. -/
theorem failed_result_stays_primary :
    ∃ record after : TaskOutputRecord, record.Begun ∧ record.legacyManaged = false ∧
      PrimaryLeads record.primaryResultId record.results ∧
      sampleMark.apply record 1 = .ok after ∧
      ¬ PrimaryLeads after.primaryResultId after.results := by
  refine ⟨twoResults, twoResultsMarked, .replaced twoResults_replaced, rfl, twoResults_lead,
    twoResults_marked, ?_⟩
  unfold PrimaryLeads
  decide +kernel

theorem twoResults_suffices : twoResults.CacheMarkSuffices "second" "" where
  primary := by decide +kernel
  matched := by
    intro result hm _ artifact hart
    have hn : ∀ result ∈ twoResults.results, result.artifacts = [] := by decide +kernel
    rw [hn result hm] at hart
    cases hart
  unmatched := by
    intro result hm _
    have hreferences : ∀ result ∈ twoResults.results, result.references = [""] := by
      decide +kernel
    rintro ⟨id, -, hnamed, hin⟩
    rw [hreferences result hm, mem_singleton] at hin
    exact hnamed hin

theorem deletion_keeps_primary_second :
    ∃ after : TaskOutputRecord,
      (OutputOperation.markPlaybackCacheDeleted "second" "" "Deleted.").apply twoResults 1 =
        .ok after ∧ after.results ≠ twoResults.results ∧
      PrimaryLeads after.primaryResultId after.results := by
  have happlied : (OutputOperation.markPlaybackCacheDeleted "second" "" "Deleted.").apply
      twoResults 1 = .ok { twoResults with
        revision := 2
        snapshotId := newSnapshotId 1
        results := [sampleResult,
          ({ sampleResult with id := "second" } : TaskResult).playbackDeleted "Deleted."] } := by
    decide +kernel
  have hkeeps := deletion_keeps_primary_iff rfl rfl twoResults_lead happlied
  exact ⟨_, happlied, by decide +kernel, (hkeeps.mpr twoResults_suffices).1⟩

end NetPlayer.Outputs
