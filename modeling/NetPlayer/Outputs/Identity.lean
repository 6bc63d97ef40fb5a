import NetPlayer.Outputs.Checks

/-!
# The identity of an output

The revision and the snapshot id of an output record stand for its contents: an operation
renews both exactly when it changes the contents, over every run of operations on the records
of one task. A run keeps every record that the task has had, since readers retain them and a
rejected save or a restart goes back to one.
-/

namespace NetPlayer.Outputs

open List Option TaskResult

open Hls (trim)
open TaskOutputRecord

inductive OutputOperation where
  | reconcile (task : LegacyTask)
  | replace (results : List TaskResult) (resources : List TaskResourceRecord)
      (preferredPrimaryResultId : Option String)
  | updateFillStatus (resultId : String) (status : HlsCacheFillStatus)
  | updateFillStatusForTask (task : LegacyTask) (resultId : String)
      (status : HlsCacheFillStatus)
  | retireExpired (now : Timestamp) (excluded : List String)
  | markPlaybackCacheDeleted (sessionId libraryItemId message : String)
  | markLibraryItemDeleted (libraryItemId message : String)
  | restore

def OutputOperation.apply (operation : OutputOperation) (record : TaskOutputRecord)
    (uuid : BitVec 128) : Except String TaskOutputRecord :=
  match operation with
  | .reconcile task => record.reconcileLegacyTask task uuid
  | .replace results resources preferred =>
    replaceWithPrimaryResult (some record) results resources preferred uuid
  | .updateFillStatus resultId status =>
    .ok (record.updateBilibiliCacheFillStatus resultId status uuid)
  | .updateFillStatusForTask task resultId status =>
    record.updateBilibiliCacheFillStatusForTask task resultId status uuid
  | .retireExpired now excluded => .ok (record.retireExpiredResourcesExcept now excluded uuid)
  | .markPlaybackCacheDeleted sessionId libraryItemId message =>
    record.markPlaybackCacheDeleted sessionId libraryItemId message uuid
  | .markLibraryItemDeleted libraryItemId message =>
    record.markLibraryItemDeleted libraryItemId message uuid
  | .restore =>
    TaskOutputRecord.restored record.revision record.snapshotId record.primaryResultId
      record.results record.resources record.legacyManaged uuid

def OutputOperation.isDeletion : OutputOperation → Bool
  | .markPlaybackCacheDeleted _ _ _ | .markLibraryItemDeleted _ _ => true
  | _ => false

def TaskOutputRecord.contents (record : TaskOutputRecord) :
    List TaskResult × List TaskResourceRecord × String × Bool :=
  (record.results, record.resources, record.primaryResultId, record.legacyManaged)

/-- The condition under which an operation keeps the identity law: there is a next revision,
a deleted library item has an id, and a playback mark that matches results has not been made on
all of them before. -/
def OutputOperation.Lawful (operation : OutputOperation) (record : TaskOutputRecord) : Prop :=
  record.revision ≠ maxRevision ∧
    match operation with
    | .markPlaybackCacheDeleted sessionId libraryItemId message =>
      record.legacyManaged = true ∨
        (∀ result ∈ record.results, result.matchesCache sessionId libraryItemId = false) ∨
        ∃ result ∈ record.results, result.matchesCache sessionId libraryItemId = true ∧
          result.playbackDeleted message ≠ result
    | .markLibraryItemDeleted libraryItemId _ => libraryItemId ≠ ""
    | _ => True

theorem lt_nextRevision {revision : UInt64} (h : revision ≠ maxRevision) :
    revision < nextRevision revision := by
  have hmax : maxRevision.toNat = 2 ^ 64 - 1 := by decide
  have hne : revision.toNat ≠ 2 ^ 64 - 1 := by
    intro hs
    exact h (UInt64.toNat_inj.mp (hs.trans hmax.symm))
  have hbd := revision.toNat_lt
  have hsucc : (revision + 1).toNat = revision.toNat + 1 := by
    rw [UInt64.toNat_add]
    exact Nat.mod_eq_of_lt (by simp only [UInt64.toNat_one]; omega)
  have hpos : revision + 1 ≠ 0 := by
    intro hzero
    have := congrArg UInt64.toNat hzero
    rw [hsucc] at this
    simp at this
  unfold nextRevision atLeastOne
  rw [if_neg h, if_neg hpos, UInt64.lt_iff_toNat_lt, hsucc]
  omega

structure Renewal (record after : TaskOutputRecord) (uuid : BitVec 128) : Prop where
  changed : after.contents ≠ record.contents →
    record.revision < after.revision ∧ after.snapshotId = newSnapshotId uuid
  unchanged : after.contents = record.contents → after = record

theorem Renewal.refl (record : TaskOutputRecord) (uuid : BitVec 128) :
    Renewal record record uuid where
  changed h := absurd rfl h
  unchanged _ := rfl

variable {record : TaskOutputRecord} {uuid : BitVec 128}

theorem renewal_of_changed {updated : TaskOutputRecord} (below : record.revision ≠ maxRevision)
    (revision : updated.revision = record.revision) (differs : updated.contents ≠ record.contents) :
    Renewal record (updated.renewed uuid) uuid where
  changed _ := by
    refine ⟨?_, rfl⟩
    show record.revision < nextRevision updated.revision
    rw [revision]
    exact lt_nextRevision below
  unchanged h := absurd h differs

structure TaskOutputRecord.Settled (record : TaskOutputRecord) : Prop where
  revision : 1 ≤ record.revision
  snapshotId : resourceIdIsValid record.snapshotId = true
  primary : hasResult record.results record.primaryResultId = true ∨
    record.results = [] ∧ record.primaryResultId = ""
  bound : ∀ result ∈ record.results, ∀ artifact ∈ result.artifacts,
    artifact.BoundTo record.resources

theorem TaskOutputRecord.WellFormed.settled (h : record.WellFormed) : record.Settled where
  revision := h.revision
  snapshotId := h.snapshotId
  primary := h.primary
  bound := h.bindings.bound

theorem nextRevision_pos (revision : UInt64) : 1 ≤ nextRevision revision :=
  atLeastOne_pos _

theorem atLeastOne_eq_self {revision : UInt64} (h : 1 ≤ revision) :
    atLeastOne revision = revision := by
  apply if_neg
  intro hzero
  rw [hzero] at h
  revert h
  decide

variable {task : LegacyTask} {result : TaskResult}

theorem artifacts_legacy (h : result ∈ legacyTaskResults task) : result.artifacts = [] := by
  unfold legacyTaskResults at h
  split at h
  · rw [mem_singleton.mp h]
    rfl
  · obtain ⟨item, -, rfl⟩ := List.mem_map.mp h
    rfl

theorem legacyTaskResults_ne_nil (task : LegacyTask) : legacyTaskResults task ≠ [] := by
  unfold legacyTaskResults
  split
  · exact cons_ne_nil _ _
  · next h => exact fun hnil => h (map_eq_nil_iff.mp hnil)

theorem boundTo_legacy (resources : List TaskResourceRecord) :
    ∀ result ∈ legacyTaskResults task, ∀ artifact ∈ result.artifacts,
      artifact.BoundTo resources := by
  intro result hmem artifact hin
  rw [artifacts_legacy hmem] at hin
  cases hin

theorem legacyPrimaryResultId_mem (task : LegacyTask) :
    hasResult (legacyTaskResults task)
      (legacyPrimaryResultId task (legacyTaskResults task)) = true := by
  unfold legacyPrimaryResultId
  simp only
  split
  · next item hi =>
      obtain ⟨primary, -, hfind⟩ := bind_eq_some_iff.mp hi
      have hmem := mem_of_find?_eq_some hfind
      have hne : task.resultItems ≠ [] := ne_nil_of_mem hmem
      rw [hasResult_eq_true]
      refine ⟨legacyItemResult task item, ?_, rfl⟩
      unfold legacyTaskResults
      rw [if_neg hne]
      exact List.mem_map_of_mem hmem
  · split
    · next result hres =>
        split at hres
        · cases hres
        · exact hasResult_eq_true.mpr ⟨result, mem_of_find?_eq_some hres, rfl⟩
    · exact inferredPrimaryResultId_mem (legacyTaskResults_ne_nil task)

theorem settled_fromLegacyTask (task : LegacyTask) (uuid : BitVec 128) :
    (TaskOutputRecord.fromLegacyTask task uuid).Settled where
  revision := by
    show (1 : UInt64) ≤ 1
    decide
  snapshotId := newSnapshotId_valid uuid
  primary := .inl (legacyPrimaryResultId_mem task)
  bound := boundTo_legacy []

theorem settled_renewed (primary : hasResult record.results record.primaryResultId = true ∨
      record.results = [] ∧ record.primaryResultId = "")
    (bound : ∀ result ∈ record.results, ∀ artifact ∈ result.artifacts,
      artifact.BoundTo record.resources) : (record.renewed uuid).Settled where
  revision := nextRevision_pos _
  snapshotId := newSnapshotId_valid uuid
  primary := primary
  bound := bound

variable {after : TaskOutputRecord}

theorem reconcile_renewal (settled : record.Settled) (below : record.revision ≠ maxRevision)
    (h : record.reconcileLegacyTask task uuid = .ok after) :
    Renewal record after uuid ∧ after.Settled := by
  unfold TaskOutputRecord.reconcileLegacyTask at h
  split at h
  · cases h
    exact ⟨Renewal.refl record uuid, settled⟩
  obtain ⟨-, h⟩ := bind_check_eq_ok.mp h
  obtain ⟨results, hresults, h⟩ := bind_eq_ok.mp h
  have hs := validateAndBindResources_of_bound (boundTo_legacy []) hresults
  subst hs
  obtain ⟨-, h⟩ := bind_check_eq_ok.mp h
  obtain ⟨-, h⟩ := bind_check_eq_ok.mp h
  simp only at h
  split at h
  · cases h
    exact ⟨Renewal.refl record uuid, settled⟩
  next hdiffers =>
    cases h
    refine ⟨renewal_of_changed below rfl ?_, ?_⟩
    · intro hs
      have hparts := Prod.mk.inj hs
      exact hdiffers ⟨hparts.1.symm, (Prod.mk.inj (Prod.mk.inj hparts.2).2).1.symm⟩
    · exact settled_renewed (.inl (legacyPrimaryResultId_mem task))
        (boundTo_legacy record.resources)

variable {results : List TaskResult} {preferred : Option String}
  {previous : Option TaskOutputRecord}

variable {primary id sessionId : String}

theorem chosenPrimaryResultId_spec
    (h : chosenPrimaryResultId previous results preferred = .ok primary) :
    hasResult results primary = true ∨ results = [] ∧ primary = "" := by
  unfold chosenPrimaryResultId at h
  split at h
  · split at h
    · next hhas =>
        cases h
        exact .inl hhas
    · cases h
  · cases h
    unfold replacedPrimaryResultId
    simp only
    cases hfilter : (previous.map TaskOutputRecord.primaryResultId).filter (fun primary =>
        results.any fun result => result.id = primary &&
          (!results.any isSuccessful || isSuccessful result)) with
    | some primary =>
      rw [getD_some]
      have hany := (filter_eq_some_iff.mp hfilter).2
      obtain ⟨result, hmem, hm⟩ := List.any_eq_true.mp hany
      simp only [Bool.and_eq_true, decide_eq_true_eq] at hm
      exact .inl (hasResult_eq_true.mpr ⟨result, hmem, hm.1⟩)
    | none =>
      rw [getD_none]
      by_cases he : results = []
      · right
        subst he
        exact ⟨rfl, rfl⟩
      · exact .inl (inferredPrimaryResultId_mem he)

variable {resources : List TaskResourceRecord}

theorem replace_renewal (settled : record.Settled) (below : record.revision ≠ maxRevision)
    (h : replaceWithPrimaryResult (some record) results resources preferred
      uuid = .ok after) : Renewal record after uuid := by
  obtain ⟨-, h⟩ := bind_check_eq_ok.mp h
  obtain ⟨bound, -, h⟩ := bind_eq_ok.mp h
  obtain ⟨-, h⟩ := bind_check_eq_ok.mp h
  obtain ⟨-, h⟩ := bind_check_eq_ok.mp h
  obtain ⟨-, h⟩ := bind_check_eq_ok.mp h
  obtain ⟨primary, -, h⟩ := bind_eq_ok.mp h
  simp only at h
  split at h
  · next hs =>
      cases h
      obtain ⟨hresults, hrscs, hprim, hlegacy⟩ := hs
      have heq : { record with
          revision := atLeastOne record.revision
          snapshotId := record.snapshotId
          primaryResultId := primary
          results := bound
          resources := resources
          legacyManaged := false } = record := by
        rw [atLeastOne_eq_self settled.revision, ← hresults, ← hrscs, ← hprim, ← hlegacy]
      rw [heq]
      exact Renewal.refl record uuid
  · next hdiffers =>
      cases h
      exact
        { changed := fun _ => ⟨lt_nextRevision below, rfl⟩
          unchanged := by
            intro hs
            have hparts := Prod.mk.inj hs
            have hr := Prod.mk.inj hparts.2
            have hl := Prod.mk.inj hr.2
            exact absurd ⟨hparts.1.symm, hr.1.symm, hl.1.symm, hl.2.symm⟩ hdiffers }

theorem replace_wellFormed (settled : ∀ record, previous = some record → record.Settled)
    (h : replaceWithPrimaryResult previous results resources preferred
      uuid = .ok after) : after.WellFormed := by
  obtain ⟨-, h⟩ := bind_check_eq_ok.mp h
  obtain ⟨bound, hbd, h⟩ := bind_eq_ok.mp h
  obtain ⟨hsizes, h⟩ := bind_check_eq_ok.mp h
  obtain ⟨hids, h⟩ := bind_check_eq_ok.mp h
  obtain ⟨-, h⟩ := bind_check_eq_ok.mp h
  obtain ⟨primary, hprim, h⟩ := bind_eq_ok.mp h
  have hfit := validateCollectionSizes_eq_ok.mp hsizes
  obtain ⟨hunique, hv⟩ := validateResultIds_eq_ok.mp hids
  have hbinds := (validateAndBindResources_spec hbd).2
  have hmain := chosenPrimaryResultId_spec hprim
  have build : ∀ (revision : UInt64) (snapshotId : String), 1 ≤ revision →
      resourceIdIsValid snapshotId = true → TaskOutputRecord.WellFormed
        { revision := revision
          snapshotId := snapshotId
          primaryResultId := primary
          results := bound
          resources := resources
          legacyManaged := false } := by
    intro revision snapshotId hrev hsnap
    exact ⟨hfit, hunique, hv, hbinds, hrev, hsnap, hmain⟩
  cases previous with
  | none =>
    cases h
    exact build 1 _ (by decide) (newSnapshotId_valid uuid)
  | some record =>
    have hsettl := settled record rfl
    simp only at h
    split at h
    · cases h
      exact build _ _ (atLeastOne_pos _) hsettl.snapshotId
    · cases h
      exact build _ _ (nextRevision_pos _) (newSnapshotId_valid uuid)

theorem restore_eq_self (settled : record.Settled)
    (h : TaskOutputRecord.restored record.revision record.snapshotId record.primaryResultId
      record.results record.resources record.legacyManaged uuid = .ok after) : after = record := by
  obtain ⟨-, h⟩ := bind_check_eq_ok.mp h
  obtain ⟨hids, h⟩ := bind_check_eq_ok.mp h
  obtain ⟨results, hresults, h⟩ := bind_eq_ok.mp h
  obtain ⟨-, h⟩ := bind_check_eq_ok.mp h
  obtain ⟨snapshotId, hsnap, h⟩ := bind_eq_ok.mp h
  obtain ⟨primary, hprim, h⟩ := bind_eq_ok.mp h
  have hv := (validateResultIds_eq_ok.mp hids).2
  have hs := validateAndBindResources_of_bound settled.bound hresults
  subst hs
  have hsnapshotEq : snapshotId = record.snapshotId := by
    unfold restoredSnapshotId at hsnap
    rw [if_neg (trim_ne_empty_of_valid settled.snapshotId)] at hsnap
    obtain ⟨-, hsnap⟩ := bind_check_eq_ok.mp hsnap
    cases hsnap
    rfl
  have hprimaryEq : primary = record.primaryResultId := by
    unfold restoredPrimaryResultId at hprim
    cases settled.primary with
    | inl hhas =>
      rw [if_neg (nonblank_of_hasResult hv hhas), if_pos hhas] at hprim
      cases hprim
      rfl
    | inr he =>
      rw [if_pos he.2, he.1] at hprim
      cases hprim
      rw [he.2]
      rfl
  cases h
  rw [hsnapshotEq, hprimaryEq, atLeastOne_eq_self settled.revision]

variable {status : HlsCacheFillStatus}

theorem withFillStatus_spec {updated : TaskResult}
    (h : result.withFillStatus status = some updated) :
    ∃ details, result.providerDetails = some { bilibili := some details } ∧
      details.hlsCacheFillStatus ≠ some status ∧
      updated = { result with
        providerDetails := some
          { bilibili := some { details with hlsCacheFillStatus := some status } } } := by
  unfold TaskResult.withFillStatus at h
  cases hdetails : result.providerDetails with
  | none =>
    rw [hdetails] at h
    cases h
  | some provider =>
    obtain ⟨bilibili⟩ := provider
    cases bilibili with
    | none =>
      rw [hdetails] at h
      cases h
    | some details =>
      rw [hdetails] at h
      simp only [bind_some] at h
      split at h
      · cases h
      · next hst =>
          cases h
          exact ⟨details, rfl, hst, rfl⟩

variable {updated : List TaskResult} {resultId : String}

variable (h : resultsWithFillStatus resultId status results = some updated)

include h in
theorem resultsWithFillStatus_spec :
    ∃ front result back changed, results = front ++ result :: back ∧ result.id = resultId ∧
      result.withFillStatus status = some changed ∧ updated = front ++ changed :: back := by
  induction results generalizing updated with
  | nil => cases h
  | cons first rest ih =>
    unfold resultsWithFillStatus at h
    split at h
    · next hid =>
        obtain ⟨changed, hchg, rfl⟩ := map_eq_some_iff.mp h
        exact ⟨[], first, rest, changed, rfl, hid, hchg, rfl⟩
    · obtain ⟨others, hothers, rfl⟩ := map_eq_some_iff.mp h
      obtain ⟨front, result, back, changed, hresults, hid, hchg, hupd⟩ := ih hothers
      exact ⟨first :: front, result, back, changed, by rw [hresults, cons_append], hid,
        hchg, by rw [hupd, cons_append]⟩

variable {other : List TaskResult}

theorem hasResult_of_ids (h : other.map TaskResult.id = results.map TaskResult.id) (id : String) :
    hasResult other id = hasResult results id := by
  have hids : ∀ list : List TaskResult,
      hasResult list id = (list.map TaskResult.id).any fun found => found = id := by
    intro list
    simp [hasResult, Function.comp_def]
  rw [hids, hids, h]

theorem primary_of_ids (h : other.map TaskResult.id = results.map TaskResult.id)
    (settled : hasResult results primary = true ∨ results = [] ∧ primary = "") :
    hasResult other primary = true ∨ other = [] ∧ primary = "" := by
  cases settled with
  | inl hhas =>
    left
    rw [hasResult_of_ids h]
    exact hhas
  | inr he =>
    right
    rw [he.1] at h
    exact ⟨map_eq_nil_iff.mp h, he.2⟩

include h

theorem fillStatus_ids :
    updated.map TaskResult.id = results.map TaskResult.id := by
  obtain ⟨front, result, back, changed, rfl, -, hchg, rfl⟩ := resultsWithFillStatus_spec h
  obtain ⟨details, -, -, rfl⟩ := withFillStatus_spec hchg
  simp

theorem fillStatus_artifacts :
    updated.map TaskResult.artifacts = results.map TaskResult.artifacts := by
  obtain ⟨front, result, back, changed, rfl, -, hchg, rfl⟩ := resultsWithFillStatus_spec h
  obtain ⟨details, -, -, rfl⟩ := withFillStatus_spec hchg
  simp

omit h

theorem fillStatus_renewal (settled : record.Settled) (below : record.revision ≠ maxRevision) :
    Renewal record (record.updateBilibiliCacheFillStatus resultId status uuid) uuid ∧
      (record.updateBilibiliCacheFillStatus resultId status uuid).Settled := by
  unfold TaskOutputRecord.updateBilibiliCacheFillStatus
  cases hupd : resultsWithFillStatus resultId status record.results with
  | none => exact ⟨Renewal.refl record uuid, settled⟩
  | some results =>
    refine ⟨renewal_of_changed below rfl ?_, settled_renewed ?_ ?_⟩
    · intro hs
      have hresults : results = record.results := (Prod.mk.inj hs).1
      obtain ⟨front, result, back, changed, hb, -, hchg, ha⟩ :=
        resultsWithFillStatus_spec hupd
      rw [hb, ha] at hresults
      have hone : changed = result :=
        (List.cons.inj (append_cancel_left hresults)).1
      obtain ⟨details, hdetails, hst, hmade⟩ := withFillStatus_spec hchg
      rw [hmade] at hone
      have hprov := congrArg TaskResult.providerDetails hone
      rw [hdetails] at hprov
      simp only [some.injEq, TaskResultProviderDetails.mk.injEq] at hprov
      exact hst (congrArg BilibiliTaskResultDetails.hlsCacheFillStatus hprov).symm
    · exact primary_of_ids (fillStatus_ids hupd) settled.primary
    · intro result hmem artifact hin
      have hlisted : result.artifacts ∈ results.map TaskResult.artifacts :=
        List.mem_map_of_mem hmem
      rw [fillStatus_artifacts hupd] at hlisted
      obtain ⟨other, ho, hs⟩ := List.mem_map.mp hlisted
      exact settled.bound other ho artifact (hs ▸ hin)

theorem resourceById_filter {keep : String → Bool} (h : keep id = true) :
    resourceById (resources.filter fun record => keep record.resource.id) id =
      resourceById resources id := by
  unfold resourceById
  rw [List.find?_filter]
  congr 2
  funext record
  by_cases hid : record.resource.id = id
  · simp [hid, h]
  · simp [hid]

variable {artifact : TaskArtifact}

theorem boundTo_filter (keep : String → Bool) (bound : artifact.BoundTo resources)
    (kept : ∀ reference, artifact.resource = some reference → keep reference.id = true) :
    artifact.BoundTo (resources.filter fun record => keep record.resource.id) := by
  intro reference href
  have hf := bound reference href
  have hid := (resourceById_id hf).1
  rw [resourceById_filter]
  · exact hf
  · rw [← hid]
    exact kept reference href

theorem retire_resource {expiredIds : List String} {reference : CacheResourceRef}
    (h : (artifact.retire expiredIds).resource = some reference) :
    artifact.retire expiredIds = artifact ∧ expiredIds.contains reference.id = false := by
  unfold TaskArtifact.retire at h ⊢
  split at h
  · next hl =>
      rw [if_pos hl]
      refine ⟨rfl, ?_⟩
      simpa [TaskArtifact.isExpired, h] using hl
  · split at h <;> cases h

theorem retire_renewal {now : Timestamp} {excluded : List String} (settled : record.Settled)
    (below : record.revision ≠ maxRevision) :
    Renewal record (record.retireExpiredResourcesExcept now excluded uuid) uuid ∧
      (record.retireExpiredResourcesExcept now excluded uuid).Settled := by
  unfold TaskOutputRecord.retireExpiredResourcesExcept
  simp only
  split
  · exact ⟨Renewal.refl record uuid, settled⟩
  next hexp =>
    refine ⟨renewal_of_changed below rfl ?_, settled_renewed ?_ ?_⟩
    · intro hs
      have hrscs := (Prod.mk.inj (Prod.mk.inj hs).2).1
      have hk := filter_eq_self.mp hrscs
      obtain ⟨id, hid⟩ := exists_mem_of_ne_nil _ hexp
      obtain ⟨resource, hrsc, hidEq⟩ := List.mem_map.mp hid
      have hthis := hk resource (mem_of_mem_filter hrsc)
      rw [hidEq] at hthis
      simp [hid] at hthis
    · refine primary_of_ids ?_ settled.primary
      simp only [List.map_map]
      rfl
    · intro result hmem artifact hin
      obtain ⟨old, hold, rfl⟩ := List.mem_map.mp hmem
      obtain ⟨before, hb, rfl⟩ := List.mem_map.mp hin
      intro reference href
      obtain ⟨hs, hl⟩ := retire_resource href
      rw [hs] at href
      have hbd := boundTo_filter
        (fun id => !(record.expiredIds now excluded).contains id)
        (settled.bound old hold before hb) fun other ho => by
          rw [href] at ho
          cases ho
          rw [hl]
          rfl
      exact hbd reference href

theorem finishDeletion_spec {updated : TaskOutputRecord} {affected : Bool}
    (h : updated.finishDeletion affected uuid = .ok after) :
    after.WellFormed ∧ SameResults updated.results after.results ∧
      after.revision = nextRevision updated.revision ∧ after.snapshotId = newSnapshotId uuid ∧
      after.legacyManaged = updated.legacyManaged := by
  unfold finishDeletion at h
  obtain ⟨-, h⟩ := bind_check_eq_ok.mp h
  obtain ⟨bound, hbd, h⟩ := bind_eq_ok.mp h
  obtain ⟨hsizes, h⟩ := bind_check_eq_ok.mp h
  obtain ⟨hids, h⟩ := bind_check_eq_ok.mp h
  cases h
  obtain ⟨hs, hbinds⟩ := validateAndBindResources_spec hbd
  obtain ⟨hunique, hv⟩ := validateResultIds_eq_ok.mp hids
  refine ⟨?_, hs, rfl, rfl, rfl⟩
  exact
    { sizes := validateCollectionSizes_eq_ok.mp hsizes
      uniqueResults := hunique
      results := hv
      bindings := hbinds
      revision := nextRevision_pos _
      snapshotId := newSnapshotId_valid uuid
      primary := by
        apply primary_of_ids hs.ids
        show hasResult updated.results (if (affected ||
            !hasResult updated.results updated.primaryResultId) = true then
            inferredPrimaryResultId updated.results else updated.primaryResultId) = true ∨ _
        split
        · by_cases he : updated.results = []
          · right
            rw [he]
            exact ⟨rfl, rfl⟩
          · exact .inl (inferredPrimaryResultId_mem he)
        · next hkeep =>
            left
            cases hhas : hasResult updated.results updated.primaryResultId with
            | true => rfl
            | false =>
              rw [hhas] at hkeep
              simp at hkeep }

theorem deletion_renewal {affected : Bool} (below : record.revision ≠ maxRevision)
    (h : (record.withResults results).finishDeletion affected uuid = .ok after)
    (differs : ¬ SameResults results record.results) :
    Renewal record after uuid ∧ after.Settled := by
  obtain ⟨hformed, hs, hrev, hsnap, -⟩ := finishDeletion_spec h
  refine ⟨?_, hformed.settled⟩
  exact
    { changed := fun _ => by
        refine ⟨?_, hsnap⟩
        rw [hrev]
        exact lt_nextRevision below
      unchanged := fun hcont => by
        have hresults : after.results = record.results := (Prod.mk.inj hcont).1
        rw [hresults] at hs
        exact absurd hs differs }

/-- Marked results that are the same as before up to the resources: every mark is there. -/
theorem sameResults_map {mark : TaskResult → TaskResult}
    (h : SameResults (results.map mark) results) :
    ∀ result ∈ results, result = { mark result with artifacts := result.artifacts } ∧
      SameArtifacts (mark result).artifacts result.artifacts := by
  unfold SameResults at h
  rw [forall₂_map_left_iff, List.forall₂_same] at h
  exact h

variable {message : String}

theorem deleted_media_state (h : artifact = { (if TaskArtifactKind.of artifact.kind ≠ .media ∨
        TaskArtifactState.of artifact.state ≠ .available then artifact
      else artifact.deleted "cache.resource_deleted" message) with
        resource := artifact.resource }) :
    TaskArtifactKind.of artifact.kind ≠ .media ∨
      TaskArtifactState.of artifact.state ≠ .available := by
  by_cases hkeep : TaskArtifactKind.of artifact.kind ≠ .media ∨
      TaskArtifactState.of artifact.state ≠ .available
  · exact hkeep
  rw [if_neg hkeep] at h
  right
  have hs : artifact.state = artifactDeleted := congrArg TaskArtifact.state h
  rw [hs]
  decide

theorem playbackDeleted_eq_self
    (same : result = { result.playbackDeleted message with artifacts := result.artifacts })
    (artifacts : ∀ artifact ∈ result.artifacts, TaskArtifactKind.of artifact.kind ≠ .media ∨
      TaskArtifactState.of artifact.state ≠ .available) :
    result.playbackDeleted message = result := by
  have hmap : (result.playbackDeleted message).artifacts = result.artifacts := by
    conv_rhs => rw [← List.map_id result.artifacts]
    apply map_congr_left
    intro artifact hmem
    rw [if_pos (artifacts artifact hmem)]
    rfl
  calc result.playbackDeleted message =
        { result.playbackDeleted message with
          artifacts := (result.playbackDeleted message).artifacts } := rfl
    _ = { result.playbackDeleted message with artifacts := result.artifacts } := by rw [hmap]
    _ = result := same.symm

variable {libraryItemId : String}

theorem playbackMark_differs (hmem : result ∈ results)
    (hm : result.matchesCache sessionId libraryItemId = true)
    (hunmarked : result.playbackDeleted message ≠ result) :
    ¬ SameResults (results.map fun result =>
      if result.matchesCache sessionId libraryItemId then result.playbackDeleted message
      else result) results := by
  intro hs
  obtain ⟨hres, harts⟩ := sameResults_map hs result hmem
  rw [if_pos hm] at hres harts
  refine hunmarked (playbackDeleted_eq_self hres ?_)
  have hpairs : SameArtifacts (result.artifacts.map fun artifact =>
      if TaskArtifactKind.of artifact.kind ≠ .media ∨
          TaskArtifactState.of artifact.state ≠ .available then artifact
      else artifact.deleted "cache.resource_deleted" message) result.artifacts := harts
  unfold SameArtifacts at hpairs
  rw [forall₂_map_left_iff, List.forall₂_same] at hpairs
  intro artifact hin
  exact deleted_media_state (hpairs artifact hin)

theorem itemMark_differs (hnamed : libraryItemId ≠ "")
    (hany : results.any (matchesItem libraryItemId) = true) :
    ¬ SameResults (results.map fun result =>
      if result.matchesItem libraryItemId then result.itemDeleted libraryItemId message
      else result) results := by
  intro hs
  obtain ⟨result, hmem, hm⟩ := List.any_eq_true.mp hany
  obtain ⟨hres, harts⟩ := sameResults_map hs result hmem
  rw [if_pos hm] at hres harts
  have hc : (result.libraryItemId = libraryItemId ∨ ∃ source,
      result.playbackSource = some source ∧ source.itemId = libraryItemId) ∨
      ∃ artifact ∈ result.artifacts, artifact.libraryItemId = libraryItemId := by
    simpa [matchesItem, refersToItem, Option.any_eq_true] using hm
  rcases hc with (hi | ⟨source, hsrc, hi⟩) | ⟨artifact, hin, hi⟩
  · have hclr : result.libraryItemId =
        if result.libraryItemId = libraryItemId then "" else result.libraryItemId :=
      congrArg TaskResult.libraryItemId hres
    rw [if_pos hi, hi] at hclr
    exact hnamed hclr
  · have hfiltered : result.playbackSource =
        result.playbackSource.filter fun source => source.itemId != libraryItemId :=
      congrArg TaskResult.playbackSource hres
    rw [hsrc] at hfiltered
    simp [Option.filter, hi] at hfiltered
  · have hpairs : SameArtifacts (result.artifacts.map fun artifact =>
        if artifact.libraryItemId ≠ libraryItemId then artifact
        else artifact.deleted "cache.library_item_deleted" message) result.artifacts := harts
    unfold SameArtifacts at hpairs
    rw [forall₂_map_left_iff, List.forall₂_same] at hpairs
    have hpair := hpairs artifact hin
    rw [if_neg (not_not.mpr hi)] at hpair
    have hclr : artifact.libraryItemId = "" := congrArg TaskArtifact.libraryItemId hpair
    rw [hi] at hclr
    exact hnamed hclr

theorem playbackMark_renewal (settled : record.Settled)
    (lawful : (OutputOperation.markPlaybackCacheDeleted sessionId libraryItemId message).Lawful
      record)
    (h : record.markPlaybackCacheDeleted sessionId libraryItemId message uuid = .ok after) :
    Renewal record after uuid ∧ after.Settled := by
  unfold TaskOutputRecord.markPlaybackCacheDeleted at h
  obtain ⟨below, hmarks⟩ := lawful
  split at h
  · cases h
    exact ⟨Renewal.refl record uuid, settled⟩
  next hlegacy =>
    split at h
    · next hany =>
        obtain ⟨matched, hmem, hm⟩ := List.any_eq_true.mp hany
        rcases hmarks with hmanaged | hn | ⟨result, hres, hmatches, hunmarked⟩
        · exact absurd hmanaged hlegacy
        · rw [hn matched hmem] at hm
          cases hm
        · exact deletion_renewal below h (playbackMark_differs hres hmatches hunmarked)
    · cases h
      exact ⟨Renewal.refl record uuid, settled⟩

theorem itemMark_renewal (settled : record.Settled) (below : record.revision ≠ maxRevision)
    (hnamed : libraryItemId ≠ "")
    (h : record.markLibraryItemDeleted libraryItemId message uuid = .ok after) :
    Renewal record after uuid ∧ after.Settled := by
  unfold TaskOutputRecord.markLibraryItemDeleted at h
  split at h
  · cases h
    exact ⟨Renewal.refl record uuid, settled⟩
  split at h
  · next hany => exact deletion_renewal below h (itemMark_differs hnamed hany)
  · cases h
    exact ⟨Renewal.refl record uuid, settled⟩

variable {operation : OutputOperation}

/-- The step lemma: a lawful operation renews the record exactly when it changes it. -/
theorem apply_renewal (settled : record.Settled) (lawful : operation.Lawful record)
    (h : operation.apply record uuid = .ok after) : Renewal record after uuid ∧ after.Settled := by
  have below := lawful.1
  cases operation with
  | reconcile task => exact reconcile_renewal settled below h
  | replace results resources preferred =>
    refine ⟨replace_renewal settled below h, ?_⟩
    apply (replace_wellFormed ?_ h).settled
    intro previous hprev
    cases hprev
    exact settled
  | updateFillStatus resultId status =>
    cases h
    exact fillStatus_renewal settled below
  | updateFillStatusForTask task resultId status =>
    unfold OutputOperation.apply TaskOutputRecord.updateBilibiliCacheFillStatusForTask at h
    simp only at h
    split at h
    · exact reconcile_renewal settled below h
    · cases h
      exact fillStatus_renewal settled below
  | retireExpired now excluded =>
    cases h
    exact retire_renewal settled below
  | markPlaybackCacheDeleted sessionId libraryItemId message =>
    exact playbackMark_renewal settled lawful h
  | markLibraryItemDeleted libraryItemId message =>
    exact itemMark_renewal settled below lawful.2 h
  | restore =>
    have hs := restore_eq_self settled h
    subst hs
    exact ⟨Renewal.refl _ uuid, settled⟩

theorem exists_of_mem_right {Left Right : Type} {related : Left → Right → Prop}
    {lefts : List Left} {rights : List Right} {right : Right}
    (h : List.Forall₂ related lefts rights) (hmem : right ∈ rights) :
    ∃ left ∈ lefts, related left right := by
  induction h with
  | nil => cases hmem
  | cons hpair _ ih =>
    cases hmem with
    | head => exact ⟨_, mem_cons_self, hpair⟩
    | tail _ hr =>
      obtain ⟨left, hleft, hrelated⟩ := ih hr
      exact ⟨left, mem_cons_of_mem _ hleft, hrelated⟩

theorem playbackMark_marked {results bound : List TaskResult}
    (h : SameResults (results.map fun result =>
      if result.matchesCache sessionId libraryItemId then result.playbackDeleted message
      else result) bound) :
    ∀ result ∈ bound, result.matchesCache sessionId libraryItemId = true →
      result.playbackDeleted message = result := by
  intro result hmem hm
  unfold SameResults at h
  rw [forall₂_map_left_iff] at h
  obtain ⟨old, -, hs, harts⟩ := exists_of_mem_right h hmem
  by_cases hold : old.matchesCache sessionId libraryItemId = true
  · rw [if_pos hold] at hs harts
    apply playbackDeleted_eq_self
    · generalize result.artifacts = artifacts at hs
      subst hs
      rfl
    · intro artifact hin
      have hpairs : SameArtifacts (old.artifacts.map fun artifact =>
          if TaskArtifactKind.of artifact.kind ≠ .media ∨
              TaskArtifactState.of artifact.state ≠ .available then artifact
          else artifact.deleted "cache.resource_deleted" message) result.artifacts := harts
      unfold SameArtifacts at hpairs
      rw [forall₂_map_left_iff] at hpairs
      obtain ⟨before, -, hb⟩ := exists_of_mem_right hpairs hin
      rw [hb]
      by_cases hkeep : TaskArtifactKind.of before.kind ≠ .media ∨
          TaskArtifactState.of before.state ≠ .available
      · rw [if_pos hkeep]
        exact hkeep
      rw [if_neg hkeep]
      right
      show TaskArtifactState.of artifactDeleted ≠ .available
      decide
  · rw [if_neg hold] at hs
    rw [hs] at hm
    exact absurd hm hold

theorem itemMark_unmatched {results bound : List TaskResult}
    (hnamed : libraryItemId ≠ "")
    (h : SameResults (results.map fun result =>
      if result.matchesItem libraryItemId then result.itemDeleted libraryItemId message
      else result) bound) :
    ∀ result ∈ bound, result.matchesItem libraryItemId = false := by
  intro result hmem
  unfold SameResults at h
  rw [forall₂_map_left_iff] at h
  obtain ⟨old, -, hs, harts⟩ := exists_of_mem_right h hmem
  have hparts : result.libraryItemId ≠ libraryItemId ∧
      (∀ source, result.playbackSource = some source → source.itemId ≠ libraryItemId) ∧
      ∀ artifact ∈ result.artifacts, artifact.libraryItemId ≠ libraryItemId := by
    by_cases hold : old.matchesItem libraryItemId = true
    · rw [if_pos hold] at hs harts
      refine ⟨?_, ?_, ?_⟩
      · rw [hs]
        show (if old.libraryItemId = libraryItemId then "" else old.libraryItemId) ≠ libraryItemId
        split
        · exact fun he => hnamed he.symm
        · next hne => exact hne
      · intro source hsrc
        rw [hs] at hsrc
        have hfiltered : old.playbackSource.filter
            (fun source => source.itemId != libraryItemId) = some source := hsrc
        simpa using (filter_eq_some_iff.mp hfiltered).2
      · intro artifact hin
        have hpairs : List.Forall₂ (fun before other =>
            other = { before with resource := other.resource })
            (old.artifacts.map fun artifact =>
              if artifact.libraryItemId ≠ libraryItemId then artifact
              else artifact.deleted "cache.library_item_deleted" message) result.artifacts :=
          harts
        rw [forall₂_map_left_iff] at hpairs
        obtain ⟨before, -, hb⟩ := exists_of_mem_right hpairs hin
        rw [hb]
        by_cases hkeep : before.libraryItemId ≠ libraryItemId
        · rw [if_pos hkeep]
          exact hkeep
        · rw [if_neg hkeep]
          exact fun he => hnamed he.symm
    · rw [if_neg hold] at hs harts
      have hn : (old.libraryItemId ≠ libraryItemId ∧
          (∀ source, old.playbackSource = some source → source.itemId ≠ libraryItemId)) ∧
          ∀ artifact ∈ old.artifacts, artifact.libraryItemId ≠ libraryItemId := by
        simpa [matchesItem, refersToItem, Option.any_eq_true] using hold
      refine ⟨?_, ?_, ?_⟩
      · rw [hs]
        exact hn.1.1
      · rw [hs]
        exact hn.1.2
      · intro artifact hin
        obtain ⟨before, hmemBefore, hb⟩ := exists_of_mem_right harts hin
        rw [hb]
        exact hn.2 before hmemBefore
  obtain ⟨hi, hsrc, hart⟩ := hparts
  simpa [matchesItem, refersToItem, Option.any_eq_false] using
    ⟨⟨hi, hsrc⟩, hart⟩

theorem playbackMark_repeated {record after again : TaskOutputRecord} {uuid uuid' : BitVec 128}
    (h : record.markPlaybackCacheDeleted sessionId libraryItemId message uuid = .ok after)
    (lawful : (OutputOperation.markPlaybackCacheDeleted sessionId libraryItemId message).Lawful
      after)
    (hagain : after.markPlaybackCacheDeleted sessionId libraryItemId message uuid' = .ok again) :
    again = after := by
  unfold TaskOutputRecord.markPlaybackCacheDeleted at hagain
  split at hagain
  · cases hagain
    rfl
  next hlegacy =>
    split at hagain
    · next hany =>
        exfalso
        obtain ⟨matched, hmatched, hmatches⟩ := List.any_eq_true.mp hany
        rcases lawful.2 with hmanaged | hn | ⟨result, hmem, hm, hunmarked⟩
        · exact hlegacy hmanaged
        · rw [hn matched hmatched] at hmatches
          cases hmatches
        unfold TaskOutputRecord.markPlaybackCacheDeleted at h
        split at h
        · next hmanaged =>
            cases h
            exact hlegacy hmanaged
        · split at h
          · exact hunmarked (playbackMark_marked (finishDeletion_spec h).2.1 result hmem hm)
          · next hn =>
              cases h
              exact hn hany
    · cases hagain
      rfl

variable {again : TaskOutputRecord}

theorem itemMark_repeated {uuid' : BitVec 128} (hnamed : libraryItemId ≠ "")
    (h : record.markLibraryItemDeleted libraryItemId message uuid = .ok after)
    (hagain : after.markLibraryItemDeleted libraryItemId message uuid' = .ok again) :
    again = after := by
  unfold TaskOutputRecord.markLibraryItemDeleted at hagain
  split at hagain
  · cases hagain
    rfl
  next hlegacy =>
    split at hagain
    · next hany =>
        exfalso
        unfold TaskOutputRecord.markLibraryItemDeleted at h
        split at h
        · next hmanaged =>
            cases h
            exact hlegacy hmanaged
        · split at h
          · obtain ⟨matched, hmatched, hm⟩ := List.any_eq_true.mp hany
            rw [itemMark_unmatched hnamed (finishDeletion_spec h).2.1 matched hmatched] at hm
            cases hm
          · next hn =>
              cases h
              exact hn hany
    · cases hagain
      rfl

theorem deletion_repeated {uuid' : BitVec 128} (deletion : operation.isDeletion = true)
    (h : operation.apply record uuid = .ok after) (lawful : operation.Lawful after)
    (hagain : operation.apply after uuid' = .ok again) : again = after := by
  cases operation with
  | markPlaybackCacheDeleted sessionId libraryItemId message =>
    exact playbackMark_repeated h lawful hagain
  | markLibraryItemDeleted libraryItemId message => exact itemMark_repeated lawful.2 h hagain
  | _ => cases deletion

inductive TaskOutputRecord.Begun : TaskOutputRecord → Prop
  | legacy (task : LegacyTask) (uuid : BitVec 128) :
      Begun (TaskOutputRecord.fromLegacyTask task uuid)
  | restored {revision : UInt64} {snapshotId primaryResultId : String}
      {results : List TaskResult} {resources : List TaskResourceRecord} {legacyManaged : Bool}
      {uuid : BitVec 128} {record : TaskOutputRecord}
      (h : TaskOutputRecord.restored revision snapshotId primaryResultId results resources
        legacyManaged uuid = .ok record) : Begun record
  | replaced {results : List TaskResult} {resources : List TaskResourceRecord}
      {preferred : Option String} {uuid : BitVec 128} {record : TaskOutputRecord}
      (h : replaceWithPrimaryResult none results resources preferred uuid =
        .ok record) : Begun record

inductive OutputHistory : List TaskOutputRecord → Prop
  | begin {record : TaskOutputRecord} (begun : record.Begun) : OutputHistory [record]
  | step {records : List TaskOutputRecord} {record after : TaskOutputRecord}
      {operation : OutputOperation} {uuid : BitVec 128} (history : OutputHistory records)
      (hmem : record ∈ records) (lawful : operation.Lawful record)
      (fresh : ∀ other ∈ records, other.snapshotId ≠ newSnapshotId uuid)
      (h : operation.apply record uuid = .ok after) : OutputHistory (after :: records)

/-- `shared_visible_task_output`: the record that readers get for a live one. -/
def sharedVisibleTaskOutput (previous : Option TaskOutputRecord) (record : TaskOutputRecord) :
    TaskOutputRecord :=
  (previous.filter fun output => output.revision = record.revision &&
    output.snapshotId = record.snapshotId).getD record

theorem TaskOutputRecord.Begun.settled (begun : record.Begun) : record.Settled := by
  cases begun with
  | legacy task uuid => exact settled_fromLegacyTask task uuid
  | restored h => exact (restored_spec h).settled
  | replaced h =>
    apply (replace_wellFormed ?_ h).settled
    intro previous hn
    cases hn

def Identified (records : List TaskOutputRecord) : Prop :=
  ∀ record ∈ records, ∀ other ∈ records, record.revision = other.revision →
    record.snapshotId = other.snapshotId → record.contents = other.contents

variable {records : List TaskOutputRecord}

theorem identified_cons (identified : Identified records) (hmem : record ∈ records)
    (fresh : ∀ other ∈ records, other.snapshotId ≠ newSnapshotId uuid)
    (renewal : Renewal record after uuid) : Identified (after :: records) := by
  by_cases hs : after.contents = record.contents
  · rw [renewal.unchanged hs]
    intro first hfst second hsnd
    have hold : ∀ found ∈ record :: records, found ∈ records := by
      intro found hf
      cases mem_cons.mp hf with
      | inl heq => exact heq ▸ hmem
      | inr hr => exact hr
    exact identified first (hold first hfst) second (hold second hsnd)
  · have hn := (renewal.changed hs).2
    intro first hfst second hsnd _ hid
    cases mem_cons.mp hfst with
    | inl hfirstNew =>
      cases mem_cons.mp hsnd with
      | inl hsecondNew => rw [hfirstNew, hsecondNew]
      | inr hsecondOld =>
        rw [hfirstNew, hn] at hid
        exact absurd hid.symm (fresh second hsecondOld)
    | inr hfirstOld =>
      cases mem_cons.mp hsnd with
      | inl hsecondNew =>
        rw [hsecondNew, hn] at hid
        exact absurd hid (fresh first hfirstOld)
      | inr hsecondOld => exact identified first hfirstOld second hsecondOld ‹_› hid

theorem OutputHistory.invariant (history : OutputHistory records) :
    (∀ record ∈ records, record.Settled) ∧ Identified records := by
  induction history with
  | begin begun =>
    refine ⟨?_, ?_⟩
    · intro record hmem
      rw [mem_singleton.mp hmem]
      exact begun.settled
    · intro first hfst second hsnd _ _
      rw [mem_singleton.mp hfst, mem_singleton.mp hsnd]
  | step _ hmem lawful fresh h ih =>
    obtain ⟨renewal, hsettl⟩ := apply_renewal (ih.1 _ hmem) lawful h
    refine ⟨?_, identified_cons ih.2 hmem fresh renewal⟩
    intro record hrec
    cases mem_cons.mp hrec with
    | inl heq => exact heq ▸ hsettl
    | inr hold => exact ih.1 record hold

/-- In every history of lawful operations the revision and the snapshot id stand for the
contents. -/
theorem output_identity_law {records : List TaskOutputRecord}
    (history : OutputHistory records) :
    Identified records ∧
      (∀ record ∈ records, ∀ other ∈ records,
        (sharedVisibleTaskOutput (some other) record).contents = record.contents) ∧
      ∀ record ∈ records, ∀ (operation : OutputOperation) (uuid : BitVec 128)
        (after : TaskOutputRecord), operation.Lawful record →
        (∀ other ∈ records, other.snapshotId ≠ newSnapshotId uuid) →
        operation.apply record uuid = .ok after →
          record.revision ≤ after.revision ∧
          (after.contents ≠ record.contents ↔ record.revision < after.revision ∧
            ∀ other ∈ records, other.snapshotId ≠ after.snapshotId) ∧
          (after.contents = record.contents → after = record) ∧
          (operation.isDeletion = true → ∀ (uuid' : BitVec 128) (again : TaskOutputRecord),
            operation.Lawful after → operation.apply after uuid' = .ok again → again = after) := by
  obtain ⟨hsettled, identified⟩ := history.invariant
  refine ⟨identified, ?_, ?_⟩
  · intro record hrecord other hother
    unfold sharedVisibleTaskOutput
    cases hfilter : (some other).filter (fun output => output.revision = record.revision &&
        output.snapshotId = record.snapshotId) with
    | none => rfl
    | some shared =>
      obtain ⟨hshared, hkey⟩ := filter_eq_some_iff.mp hfilter
      cases hshared
      simp only [Bool.and_eq_true, decide_eq_true_eq] at hkey
      exact identified other hother record hrecord hkey.1 hkey.2
  · intro record hrecord operation uuid after lawful fresh h
    obtain ⟨renewal, -⟩ := apply_renewal (hsettled record hrecord) lawful h
    refine ⟨?_, ⟨?_, ?_⟩, renewal.unchanged, ?_⟩
    · by_cases hsame : after.contents = record.contents
      · rw [renewal.unchanged hsame]
        exact UInt64.le_refl _
      · exact UInt64.le_of_lt (renewal.changed hsame).1
    · intro hdiffers
      obtain ⟨hlt, hid⟩ := renewal.changed hdiffers
      exact ⟨hlt, fun other hother => hid ▸ fresh other hother⟩
    · rintro ⟨hlt, -⟩ hsame
      rw [renewal.unchanged hsame] at hlt
      exact UInt64.lt_irrefl _ hlt
    · intro hdeletion uuid' again hlawful hagain
      exact deletion_repeated hdeletion h hlawful hagain

def sampleResult : TaskResult :=
  { id := "session"
    state := 3
    title := "Video"
    subtitle := ""
    progress := none
    problem := none
    libraryItemId := ""
    playbackSource := none
    artifacts := []
    createdAt := none
    updatedAt := none
    subject := none
    providerDetails := none }

def sampleOutput : TaskOutputRecord :=
  { revision := 1
    snapshotId := newSnapshotId 0
    primaryResultId := "session"
    results := [sampleResult]
    resources := []
    legacyManaged := false }

theorem sampleOutput_replaced :
    replaceWithPrimaryResult none [sampleResult] [] none 0 = .ok sampleOutput := by
  decide +kernel

def sampleMark : OutputOperation :=
  .markPlaybackCacheDeleted "session" "" "The cache was deleted."

def markedOutput : TaskOutputRecord :=
  { sampleOutput with
    revision := 2
    snapshotId := newSnapshotId 1
    results := [sampleResult.playbackDeleted "The cache was deleted."] }

theorem sampleMark_once : sampleMark.apply sampleOutput 1 = .ok markedOutput := by
  decide +kernel

/-- The second mark changes no contents and still renews the revision and the snapshot id. -/
theorem playbackMark_twice :
    ∃ record after again : TaskOutputRecord, record.Begun ∧
      sampleMark.apply record 1 = .ok after ∧ sampleMark.apply after 2 = .ok again ∧
      again.contents = after.contents ∧ after.revision < again.revision ∧
      again.snapshotId ≠ after.snapshotId := by
  refine ⟨sampleOutput, markedOutput, markedOutput.renewed 2, .replaced sampleOutput_replaced,
    sampleMark_once, ?_, rfl, ?_, ?_⟩
  · decide +kernel
  · decide +kernel
  · decide +kernel

theorem output_identity_law_marked :
    OutputHistory [markedOutput, sampleOutput] ∧ Identified [markedOutput, sampleOutput] := by
  have lawful : sampleMark.Lawful sampleOutput := by
    refine ⟨by decide, .inr (.inr ⟨sampleResult, mem_cons_self, by decide, ?_⟩)⟩
    intro hsame
    have hstate := congrArg TaskResult.state hsame
    revert hstate
    decide
  have history : OutputHistory [markedOutput, sampleOutput] := by
    refine .step (.begin (.replaced sampleOutput_replaced)) mem_cons_self lawful ?_
      sampleMark_once
    intro other hother
    rw [mem_singleton.mp hother]
    decide +kernel
  exact ⟨history, (output_identity_law history).1⟩

end NetPlayer.Outputs
