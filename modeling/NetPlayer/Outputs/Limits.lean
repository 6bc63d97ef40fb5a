import NetPlayer.Outputs.Identity

/-!
# Limits of an output under later operations

A deletion validates the output again. A new fill status and the retirement of expired
resources do not: they keep everything that a restore checks except for the limits, and the
limits exactly when what they add to the output still fits.
-/

namespace NetPlayer.Outputs

open ProtoLength List Option TaskResult

def detailsField (details : BilibiliTaskResultDetails) : Nat :=
  delimited (TaskResultProviderDetails.encodedLen { bilibili := some details })

structure FillStatusFits (record : TaskOutputRecord) (result : TaskResult)
    (details : BilibiliTaskResultDetails) (status : HlsCacheFillStatus) : Prop where
  projectedResult : projectedTaskResultEncodedBytes result +
      detailsField { details with hlsCacheFillStatus := some status } ≤
    maxTaskResultEncodedBytes + detailsField details
  strings : taskOutputStringBytes record.results record.resources +
      fillStatusStringBytes status ≤
    maxTaskOutputStringBytes + details.hlsCacheFillStatus.elim 0 fillStatusStringBytes
  projected : taskOutputProjectedEncodedBytes record.results record.resources +
      detailsField { details with hlsCacheFillStatus := some status } ≤
    maxTaskOutputEncodedBytes + detailsField details

def retiredLoss (expiredIds : List String) (artifact : TaskArtifact) : Nat :=
  if artifact.isExpired expiredIds then
    artifact.resource.elim 0 resourceStringBytes +
      if TaskArtifactState.of artifact.state = .available then
        artifact.problem.elim 0 problemStringBytes else 0
  else 0

def retiredGain (expiredIds : List String) (artifact : TaskArtifact) : Nat :=
  if artifact.isExpired expiredIds && TaskArtifactState.of artifact.state = .available then
    problemStringBytes resourceExpiredProblem
  else 0

def artifactSum (results : List TaskResult) (value : TaskArtifact → Nat) : Nat :=
  (results.map fun result => (result.artifacts.map value).sum).sum

/-- The problems of the retired artifacts in the place of their resources keep the output
within the limit of its strings. -/
def RetirementFits (record : TaskOutputRecord) (expiredIds : List String) : Prop :=
  taskOutputStringBytes record.results record.resources +
      artifactSum record.results (retiredGain expiredIds) ≤
    maxTaskOutputStringBytes + artifactSum record.results (retiredLoss expiredIds) +
      resourcesStringBytes (record.resources.filter fun resource =>
        expiredIds.contains resource.resource.id)

def OutputOperation.isLater : OutputOperation → Bool
  | .updateFillStatus _ _ | .retireExpired _ _ => true
  | .markPlaybackCacheDeleted _ _ _ | .markLibraryItemDeleted _ _ => true
  | _ => false

def OutputOperation.Fits (operation : OutputOperation) (record : TaskOutputRecord) : Prop :=
  match operation with
  | .updateFillStatus resultId status =>
    ∀ result ∈ record.results, result.id = resultId → ∀ details,
      result.providerDetails = some { bilibili := some details } →
        FillStatusFits record result details status
  | .retireExpired now excluded => RetirementFits record (record.expiredIds now excluded)
  | _ => True

variable {results other : List TaskResult}
  (h : other.map TaskResult.artifacts = results.map TaskResult.artifacts)

include h in
theorem referencedIds_of_artifacts : referencedIds other = referencedIds results := by
  unfold referencedIds
  rw [flatMap_def, flatMap_def, h]

variable {result : TaskResult}

include h in
theorem exists_of_artifacts (hmem : result ∈ other) :
    ∃ old ∈ results, old.artifacts = result.artifacts := by
  have hlisted : result.artifacts ∈ other.map TaskResult.artifacts := List.mem_map_of_mem hmem
  rw [h] at hlisted
  obtain ⟨old, hold, hsame⟩ := List.mem_map.mp hlisted
  exact ⟨old, hold, hsame⟩

variable {resources : List TaskResourceRecord}

theorem WellBound.of_artifacts (bindings : WellBound results resources)
    (h : other.map TaskResult.artifacts = results.map TaskResult.artifacts) :
    WellBound other resources where
  resourceIds := bindings.resourceIds
  uniqueResources := bindings.uniqueResources
  uniqueArtifacts := by
    intro result hmem
    obtain ⟨old, hold, hsame⟩ := exists_of_artifacts h hmem
    rw [← hsame]
    exact bindings.uniqueArtifacts old hold
  artifacts := by
    intro result hmem
    obtain ⟨old, hold, hsame⟩ := exists_of_artifacts h hmem
    rw [← hsame]
    exact bindings.artifacts old hold
  bound := by
    intro result hmem
    obtain ⟨old, hold, hsame⟩ := exists_of_artifacts h hmem
    rw [← hsame]
    exact bindings.bound old hold
  referenced := by
    rw [referencedIds_of_artifacts h]
    exact bindings.referenced

def TaskResult.setDetails (result : TaskResult) (details : BilibiliTaskResultDetails) :
    TaskResult :=
  { result with providerDetails := some { bilibili := some details } }

variable {details : BilibiliTaskResultDetails}

theorem projected_setDetails (changed : BilibiliTaskResultDetails)
    (h : result.providerDetails = some { bilibili := some details }) :
    projectedTaskResultEncodedBytes (result.setDetails changed) + detailsField details =
      projectedTaskResultEncodedBytes result + detailsField changed := by
  have hold : messageField TaskResultProviderDetails.encodedLen result.providerDetails =
      detailsField details := by rw [h]; rfl
  have hnew : messageField TaskResultProviderDetails.encodedLen
      (result.setDetails changed).providerDetails = detailsField changed := rfl
  have hlen : (result.setDetails changed).encodedLen + detailsField details =
      result.encodedLen + detailsField changed := by
    unfold TaskResult.encodedLen
    rw [hold, hnew]
    simp only [setDetails]
    omega
  have hgrowth : projectedTaskResultRedactionBytes (result.setDetails changed) =
      projectedTaskResultRedactionBytes result := rfl
  unfold projectedTaskResultEncodedBytes
  rw [hgrowth]
  simp only [setDetails] at hlen ⊢
  omega

theorem strings_setDetails (status : HlsCacheFillStatus)
    (h : result.providerDetails = some { bilibili := some details }) :
    taskResultStringBytes (result.setDetails { details with hlsCacheFillStatus := some status }) +
        details.hlsCacheFillStatus.elim 0 fillStatusStringBytes =
      taskResultStringBytes result + fillStatusStringBytes status := by
  unfold taskResultStringBytes
  rw [h]
  simp only [setDetails, elim_some, providerDetailsStringBytes,
    bilibiliDetailsStringBytes]
  omega

variable {status : HlsCacheFillStatus}

theorem valid_setDetails (h : result.providerDetails = some { bilibili := some details })
    (valid : result.Valid) :
    (result.setDetails { details with hlsCacheFillStatus := some status }).Valid where
  named := valid.named
  known := valid.known
  progress := valid.progress
  problem := valid.problem
  details := by
    have hdetails := valid.details
    unfold validateResultSubjectAndProviderDetails at hdetails ⊢
    rw [bind_check_eq_ok] at hdetails ⊢
    obtain ⟨hsubject, hprov⟩ := hdetails
    refine ⟨hsubject, ?_⟩
    rw [h] at hprov
    simp only [setDetails] at hprov ⊢
    cases hf : result.subject with
    | none =>
      rw [hf] at hprov
      cases hprov
    | some subject =>
      rw [hf] at hprov
      rw [bind_check_eq_ok, bind_check_eq_ok] at hprov ⊢
      refine ⟨hprov.1, ?_, hprov.2.2⟩
      simp

variable {Item : Type}

theorem sum_map_middle (value : Item → Nat) (front back : List Item) (item : Item) :
    ((front ++ item :: back).map value).sum =
      (front.map value).sum + value item + (back.map value).sum := by
  simp only [map_append, map_cons, sum_append, sum_cons]
  omega

theorem totals_middle (front back : List TaskResult) (result changed : TaskResult)
    (resources : List TaskResourceRecord) :
    taskOutputStringBytes (front ++ changed :: back) resources + taskResultStringBytes result =
        taskOutputStringBytes (front ++ result :: back) resources +
          taskResultStringBytes changed ∧
      taskOutputProjectedEncodedBytes (front ++ changed :: back) resources +
          projectedTaskResultEncodedBytes result =
        taskOutputProjectedEncodedBytes (front ++ result :: back) resources +
          projectedTaskResultEncodedBytes changed := by
  unfold taskOutputStringBytes taskOutputProjectedEncodedBytes
  simp only [sum_map_middle]
  omega

variable {resultId id snapshotId primaryResultId : String}

theorem withFillStatus_of_none (unique : (results.map TaskResult.id).Nodup)
    (h : resultsWithFillStatus resultId status results = none) :
    ∀ result ∈ results, result.id = resultId → result.withFillStatus status = none := by
  induction results with
  | nil =>
    intro result hmem
    cases hmem
  | cons first rest ih =>
    rw [map_cons, nodup_cons] at unique
    unfold resultsWithFillStatus at h
    intro result hmem hid
    split at h
    · next hfst =>
        cases hmem with
        | head => exact map_eq_none_iff.mp h
        | tail _ hr =>
          exfalso
          apply unique.1
          rw [hfst, ← hid]
          exact List.mem_map_of_mem hr
    · next hfst =>
        cases hmem with
        | head => exact absurd hid hfst
        | tail _ hr => exact ih unique.2 (map_eq_none_iff.mp h) result hr hid

variable {front back : List TaskResult}

theorem eq_of_unique_id {other : TaskResult}
    (unique : ((front ++ result :: back).map TaskResult.id).Nodup)
    (hmem : other ∈ front ++ result :: back) (hid : other.id = result.id) : other = result :=
  inj_on_of_nodup_map unique hmem (by simp) hid

theorem withFillStatus_setDetails {changed : TaskResult}
    (h : result.withFillStatus status = some changed) :
    ∃ details, result.providerDetails = some { bilibili := some details } ∧
      changed = result.setDetails { details with hlsCacheFillStatus := some status } := by
  obtain ⟨details, hdetails, -, hchg⟩ := withFillStatus_spec h
  exact ⟨details, hdetails, hchg⟩

variable {record : TaskOutputRecord}

theorem fillStatusFits_iff (status : HlsCacheFillStatus) (formed : record.WellFormed)
    (hres : record.results = front ++ result :: back)
    (hdetails : result.providerDetails = some { bilibili := some details }) :
    SizesFit (front ++ result.setDetails { details with hlsCacheFillStatus := some status } ::
        back) record.resources ↔ FillStatusFits record result details status := by
  have hproj := projected_setDetails
    { details with hlsCacheFillStatus := some status } hdetails
  have hstrings := strings_setDetails status hdetails
  obtain ⟨htotalStrings, htotalProjected⟩ := totals_middle front back result
    (result.setDetails { details with hlsCacheFillStatus := some status }) record.resources
  rw [← hres] at htotalStrings htotalProjected
  constructor
  · intro h
    have hone := h.projectedResult
      (result.setDetails { details with hlsCacheFillStatus := some status }) (by simp)
    have htot := h.strings
    have hall := h.projected
    exact ⟨by omega, by omega, by omega⟩
  · intro h
    have hone := h.projectedResult
    have htot := h.strings
    have hall := h.projected
    have hsizes := formed.sizes
    rw [hres] at hsizes
    refine ⟨?_, hsizes.resourceCount, ?_, ?_, hsizes.resource, by omega, by omega⟩
    · have hc := hsizes.resultCount
      simpa using hc
    · have hc := hsizes.artifacts
      unfold artifactCount at hc ⊢
      rw [sum_map_middle] at hc ⊢
      exact hc
    · intro other hmem
      rw [mem_append, mem_cons] at hmem
      rcases hmem with hfront | hsame | hback
      · exact hsizes.projectedResult other (mem_append_left _ hfront)
      · rw [hsame]
        omega
      · exact hsizes.projectedResult other (mem_append_right _ (mem_cons_of_mem _ hback))

variable {uuid : BitVec 128}

theorem fillStatus_wellFormed_iff (formed : record.WellFormed) :
    (record.updateBilibiliCacheFillStatus resultId status uuid).WellFormed ↔
      (OutputOperation.updateFillStatus resultId status).Fits record := by
  unfold TaskOutputRecord.updateBilibiliCacheFillStatus
  cases hupd : resultsWithFillStatus resultId status record.results with
  | none =>
    refine ⟨fun _ => ?_, fun _ => formed⟩
    intro result hmem hid details hdetails
    have hn := withFillStatus_of_none formed.uniqueResults hupd result hmem hid
    have hsame : details.hlsCacheFillStatus = some status := by
      unfold TaskResult.withFillStatus at hn
      rw [hdetails] at hn
      simp only [bind_some] at hn
      by_contra hne
      rw [if_neg hne] at hn
      cases hn
    have hdetailsSame : { details with hlsCacheFillStatus := some status } = details := by
      rw [← hsame]
    refine ⟨?_, ?_, ?_⟩
    · rw [hdetailsSame]
      have := formed.sizes.projectedResult result hmem
      omega
    · rw [hsame]
      have := formed.sizes.strings
      simp only [elim_some]
      omega
    · rw [hdetailsSame]
      have := formed.sizes.projected
      omega
  | some updated =>
    obtain ⟨front, result, back, changed, hres, hid, hchg, ha⟩ :=
      resultsWithFillStatus_spec hupd
    obtain ⟨details, hdetails, hmade⟩ := withFillStatus_setDetails hchg
    have hlimits := fillStatusFits_iff status formed hres hdetails
    constructor
    · intro h other hmem ho otherDetails hotherDetails
      have hunique := formed.uniqueResults
      rw [hres] at hunique hmem
      have heq : other = result := eq_of_unique_id hunique hmem (ho.trans hid.symm)
      subst heq
      rw [hdetails] at hotherDetails
      cases hotherDetails
      apply hlimits.mp
      rw [← hmade, ← ha]
      exact h.sizes
    · intro h
      have hfits := h result (by rw [hres]; simp) hid details hdetails
      exact
        { sizes := by
            have hsizes := hlimits.mpr hfits
            rw [← hmade, ← ha] at hsizes
            exact hsizes
          uniqueResults := by
            show (updated.map TaskResult.id).Nodup
            rw [fillStatus_ids hupd]
            exact formed.uniqueResults
          results := by
            show ∀ other ∈ updated, other.Valid
            intro other hmem
            rw [ha, mem_append, mem_cons] at hmem
            rcases hmem with hfront | hsame | hback
            · exact formed.results other (by rw [hres]; exact mem_append_left _ hfront)
            · rw [hsame, hmade]
              exact valid_setDetails hdetails (formed.results result (by rw [hres]; simp))
            · apply formed.results other
              rw [hres]
              exact mem_append_right _ (mem_cons_of_mem _ hback)
          bindings := formed.bindings.of_artifacts (fillStatus_artifacts hupd)
          revision := nextRevision_pos _
          snapshotId := newSnapshotId_valid uuid
          primary := primary_of_ids (fillStatus_ids hupd) formed.primary }

theorem retire_id (expiredIds : List String) (artifact : TaskArtifact) :
    (artifact.retire expiredIds).id = artifact.id := by
  unfold TaskArtifact.retire
  split
  · rfl
  · split <;> rfl

variable {expiredIds : List String}

theorem valid_retire {artifact : TaskArtifact} (valid : artifact.Valid) :
    (artifact.retire expiredIds).Valid := by
  unfold TaskArtifact.retire
  split
  · exact valid
  next hexp =>
    have hi : artifact.libraryItemId = "" := by
      by_contra hne
      have hn := (valid.libraryItem hne).2.1
      simp [TaskArtifact.isExpired, hn] at hexp
    split
    · refine ⟨valid.named, valid.kind, ?_, ?_, ?_, ?_⟩
      · show TaskArtifactState.of artifactUnavailable ≠ .unspecified
        decide
      · show validateProblem (some resourceExpiredProblem) artifact.id = .ok ()
        rfl
      · exact fun hne => absurd hi hne
      · intro havail
        exfalso
        revert havail
        show ¬ TaskArtifactState.of artifactUnavailable = .available
        decide
    · next hs =>
        refine ⟨valid.named, valid.kind, valid.state, valid.problem, ?_, ?_⟩
        · exact fun hne => absurd hi hne
        · exact fun havail => absurd havail hs

def artifactProjectedBytes (artifact : TaskArtifact) : Nat :=
  delimited artifact.encodedLen +
    (if artifact.resource.isSome then
      maxTaskResourceBaseUriBytes + maxTaskResourceUriProjectionOverheadBytes else 0) +
    problemGrowth artifact.problem

/-- A retired artifact loses the projection of its resource, which is more than its problem
adds. -/
theorem projected_retire_le (expiredIds : List String) (artifact : TaskArtifact) :
    artifactProjectedBytes (artifact.retire expiredIds) ≤ artifactProjectedBytes artifact := by
  unfold TaskArtifact.retire
  split
  · exact le_rfl
  next hexp =>
    have hs : artifact.resource.isSome = true := by
      cases hrsc : artifact.resource with
      | none => simp [TaskArtifact.isExpired, hrsc] at hexp
      | some resource => rfl
    split
    · have hproblem : messageField TaskProblem.encodedLen (some resourceExpiredProblem) = 52 := by
        decide +kernel
      have hst : int32Field artifactUnavailable = 2 := by decide +kernel
      have hn : messageField CacheResourceRef.encodedLen none = 0 := rfl
      have hlen : TaskArtifact.encodedLen { artifact with
            resource := none
            state := artifactUnavailable
            problem := some resourceExpiredProblem } ≤ artifact.encodedLen + 54 := by
        unfold TaskArtifact.encodedLen
        simp only [hproblem, hst, hn]
        omega
      have hfield := delimited_mono hlen
      have hadd := delimited_add_le artifact.encodedLen 54
      have hgrowth : problemGrowth (some resourceExpiredProblem) = 250 := by decide +kernel
      unfold artifactProjectedBytes
      simp only [hs, hgrowth, if_true, isSome_none, Bool.false_eq_true, if_false,
        maxTaskResourceBaseUriBytes, maxTaskResourceUriProjectionOverheadBytes]
      omega
    · have hlen : TaskArtifact.encodedLen { artifact with resource := none } ≤
          artifact.encodedLen := by
        unfold TaskArtifact.encodedLen
        simp only [messageField]
        omega
      have hfield := delimited_mono hlen
      unfold artifactProjectedBytes
      simp only [hs, if_true, isSome_none, Bool.false_eq_true, if_false]
      omega

theorem length_filter_mul (items : List Item) (keep : Item → Bool) (value : Nat) :
    (items.filter keep).length * value =
      (items.map fun item => if keep item then value else 0).sum := by
  induction items with
  | nil => simp
  | cons item rest ih =>
    by_cases hkeep : keep item = true
    · rw [filter_cons_of_pos hkeep, length_cons, Nat.succ_mul, ih, map_cons,
        sum_cons, if_pos hkeep]
      omega
    · rw [filter_cons_of_neg hkeep, ih, map_cons, sum_cons, if_neg hkeep]
      omega

theorem projected_eq_artifacts (result : TaskResult) :
    projectedTaskResultEncodedBytes result =
      projectedTaskResultEncodedBytes { result with artifacts := [] } +
        (result.artifacts.map artifactProjectedBytes).sum := by
  have hsum : (result.artifacts.map artifactProjectedBytes).sum =
      repeatedField TaskArtifact.encodedLen result.artifacts +
        (result.artifacts.filter fun artifact => artifact.resource.isSome).length *
          (maxTaskResourceBaseUriBytes + maxTaskResourceUriProjectionOverheadBytes) +
        (result.artifacts.map fun artifact => problemGrowth artifact.problem).sum := by
    rw [length_filter_mul]
    unfold repeatedField
    rw [← sum_map_add, ← sum_map_add]
    rfl
  rw [hsum]
  unfold projectedTaskResultEncodedBytes projectedTaskResultRedactionBytes TaskResult.encodedLen
  simp only [repeatedField, map_nil, sum_nil, filter_nil, length_nil]
  omega

theorem projected_result_retire_le (expiredIds : List String) (result : TaskResult) :
    projectedTaskResultEncodedBytes (result.retire expiredIds) ≤
      projectedTaskResultEncodedBytes result := by
  rw [projected_eq_artifacts, projected_eq_artifacts result]
  have hsum : ((result.retire expiredIds).artifacts.map artifactProjectedBytes).sum ≤
      (result.artifacts.map artifactProjectedBytes).sum := by
    show ((result.artifacts.map _).map _).sum ≤ _
    rw [List.map_map]
    exact sum_le_sum fun artifact _ => projected_retire_le expiredIds artifact
  exact Nat.add_le_add (le_of_eq rfl) hsum

theorem strings_retire (expiredIds : List String) (artifact : TaskArtifact) :
    artifactStringBytes (artifact.retire expiredIds) + retiredLoss expiredIds artifact =
      artifactStringBytes artifact + retiredGain expiredIds artifact := by
  unfold TaskArtifact.retire retiredLoss retiredGain
  by_cases hexp : artifact.isExpired expiredIds = true
  · by_cases hs : TaskArtifactState.of artifact.state = .available
    · simp only [hexp, hs, Bool.not_true, Bool.false_eq_true, if_false, if_true,
        decide_true, Bool.and_true, artifactStringBytes, elim_none, elim_some]
      omega
    · simp only [hexp, hs, Bool.not_true, Bool.false_eq_true, if_false, if_true,
        decide_false, Bool.and_false, artifactStringBytes, elim_none]
      omega
  · simp only [hexp, Bool.not_false, if_true, Bool.false_and, Bool.false_eq_true, if_false]

theorem strings_result_retire (expiredIds : List String) (result : TaskResult) :
    taskResultStringBytes (result.retire expiredIds) +
        (result.artifacts.map (retiredLoss expiredIds)).sum =
      taskResultStringBytes result + (result.artifacts.map (retiredGain expiredIds)).sum := by
  have hsum : ((result.retire expiredIds).artifacts.map artifactStringBytes).sum +
        (result.artifacts.map (retiredLoss expiredIds)).sum =
      (result.artifacts.map artifactStringBytes).sum +
        (result.artifacts.map (retiredGain expiredIds)).sum := by
    show ((result.artifacts.map _).map _).sum + _ = _
    rw [List.map_map, ← sum_map_add, ← sum_map_add]
    exact congrArg List.sum (map_congr_left fun artifact _ =>
      strings_retire expiredIds artifact)
  unfold taskResultStringBytes
  simp only [TaskResult.retire] at hsum ⊢
  omega

theorem strings_results_retire (expiredIds : List String) (results : List TaskResult) :
    ((results.map (TaskResult.retire expiredIds)).map taskResultStringBytes).sum +
        artifactSum results (retiredLoss expiredIds) =
      (results.map taskResultStringBytes).sum + artifactSum results (retiredGain expiredIds) := by
  unfold artifactSum
  rw [List.map_map, ← sum_map_add, ← sum_map_add]
  exact congrArg List.sum (map_congr_left fun result _ =>
    strings_result_retire expiredIds result)

theorem sum_filter_add (items : List Item) (drop : Item → Bool) (value : Item → Nat) :
    ((items.filter fun item => !drop item).map value).sum + ((items.filter drop).map value).sum =
      (items.map value).sum := by
  induction items with
  | nil => rfl
  | cons item rest ih =>
    cases hdrop : drop item with
    | true =>
      rw [filter_cons_of_neg (by simp [hdrop]), filter_cons_of_pos hdrop]
      simp only [map_cons, sum_cons]
      omega
    | false =>
      rw [filter_cons_of_pos (by simp [hdrop]), filter_cons_of_neg (by simp [hdrop])]
      simp only [map_cons, sum_cons]
      omega

theorem referencedIds_retire (h : id ∈ referencedIds results) (live : id ∉ expiredIds)
    : id ∈ referencedIds (results.map (TaskResult.retire expiredIds)) := by
  obtain ⟨artifact, hart, hid⟩ := mem_filterMap.mp h
  obtain ⟨result, hres, hin⟩ := mem_flatMap.mp hart
  obtain ⟨reference, href, hsame⟩ := map_eq_some_iff.mp hid
  refine mem_filterMap.mpr ⟨artifact.retire expiredIds, ?_, ?_⟩
  · refine mem_flatMap.mpr ⟨result.retire expiredIds, List.mem_map_of_mem hres, ?_⟩
    exact List.mem_map_of_mem hin
  · have hl : artifact.isExpired expiredIds = false := by
      simpa [TaskArtifact.isExpired, href, hsame] using live
    have hk : artifact.retire expiredIds = artifact := by
      unfold TaskArtifact.retire
      rw [hl]
      rfl
    rw [hk]
    exact hid

theorem wellBound_retire (expiredIds : List String) (bindings : WellBound results resources) :
    WellBound (results.map (TaskResult.retire expiredIds))
      (resources.filter fun record => !expiredIds.contains record.resource.id) where
  resourceIds record hmem := bindings.resourceIds record (mem_of_mem_filter hmem)
  uniqueResources := bindings.uniqueResources.sublist (filter_sublist.map _)
  uniqueArtifacts := by
    intro result hmem
    obtain ⟨old, hold, rfl⟩ := List.mem_map.mp hmem
    show ((old.artifacts.map _).map _).Nodup
    have hids : (old.artifacts.map (TaskArtifact.retire expiredIds)).map TaskArtifact.id =
        old.artifacts.map TaskArtifact.id := by
      rw [List.map_map]
      exact map_congr_left fun artifact _ => retire_id expiredIds artifact
    rw [hids]
    exact bindings.uniqueArtifacts old hold
  artifacts := by
    intro result hmem artifact hin
    obtain ⟨old, hold, rfl⟩ := List.mem_map.mp hmem
    obtain ⟨before, hb, rfl⟩ := List.mem_map.mp hin
    exact valid_retire (bindings.artifacts old hold before hb)
  bound := by
    intro result hmem artifact hin reference href
    obtain ⟨old, hold, rfl⟩ := List.mem_map.mp hmem
    obtain ⟨before, hb, rfl⟩ := List.mem_map.mp hin
    obtain ⟨hsame, hl⟩ := retire_resource href
    rw [hsame] at href
    have hbd := boundTo_filter (fun id => !expiredIds.contains id)
      (bindings.bound old hold before hb) fun other ho => by
        rw [href] at ho
        cases ho
        rw [hl]
        rfl
    exact hbd reference href
  referenced := by
    intro record hmem
    obtain ⟨hin, hl⟩ := mem_filter.mp hmem
    exact referencedIds_retire (bindings.referenced record hin) (by simpa using hl)

theorem artifactSum_zero {value : TaskArtifact → Nat} (h : ∀ artifact, value artifact = 0) :
    artifactSum results value = 0 := by
  have hvalue : value = fun _ => 0 := funext h
  subst hvalue
  simp [artifactSum]

theorem retire_wellFormed_iff {now : Timestamp} {excluded : List String}
    (formed : record.WellFormed) :
    (record.retireExpiredResourcesExcept now excluded uuid).WellFormed ↔
      (OutputOperation.retireExpired now excluded).Fits record := by
  show _ ↔ RetirementFits record (record.expiredIds now excluded)
  unfold TaskOutputRecord.retireExpiredResourcesExcept
  simp only
  have hstrings := strings_results_retire (record.expiredIds now excluded) record.results
  have hdropped := sum_filter_add record.resources
    (fun resource => (record.expiredIds now excluded).contains resource.resource.id)
    (fun resource => resourceStringBytes resource.resource)
  split
  · next hempty =>
      refine ⟨fun _ => ?_, fun _ => formed⟩
      have hfits := formed.sizes.strings
      unfold RetirementFits
      have hgain : artifactSum record.results (retiredGain (record.expiredIds now excluded)) =
          0 := by
        rw [hempty]
        exact artifactSum_zero fun artifact => by
          simp [retiredGain, TaskArtifact.isExpired]
      omega
  · next hexp =>
      generalize record.expiredIds now excluded = expiredIds at hstrings hdropped
      have htot : taskOutputStringBytes (record.results.map (TaskResult.retire expiredIds))
            (record.resources.filter fun record => !expiredIds.contains record.resource.id) +
          artifactSum record.results (retiredLoss expiredIds) +
          resourcesStringBytes (record.resources.filter fun resource =>
            expiredIds.contains resource.resource.id) =
          taskOutputStringBytes record.results record.resources +
            artifactSum record.results (retiredGain expiredIds) := by
        unfold taskOutputStringBytes resourcesStringBytes
        omega
      unfold RetirementFits
      constructor
      · intro h
        have hfits : taskOutputStringBytes (record.results.map (TaskResult.retire expiredIds))
            (record.resources.filter fun record => !expiredIds.contains record.resource.id) ≤
            maxTaskOutputStringBytes := h.sizes.strings
        omega
      · intro h
        have hsizes := formed.sizes
        have hids : (record.results.map (TaskResult.retire expiredIds)).map TaskResult.id =
            record.results.map TaskResult.id := by
          rw [List.map_map]
          rfl
        exact
          { sizes :=
              { resultCount := by
                  show (record.results.map _).length ≤ _
                  rw [length_map]
                  exact hsizes.resultCount
                resourceCount := le_trans (length_filter_le _ _) hsizes.resourceCount
                artifacts := by
                  show artifactCount (record.results.map _) ≤ _
                  have hc : artifactCount (record.results.map (TaskResult.retire expiredIds)) =
                      artifactCount record.results := by
                    unfold artifactCount
                    rw [List.map_map]
                    refine congrArg List.sum (map_congr_left fun result _ => ?_)
                    exact length_map _
                  rw [hc]
                  exact hsizes.artifacts
                projectedResult := by
                  intro result hmem
                  obtain ⟨old, hold, rfl⟩ := List.mem_map.mp hmem
                  exact le_trans (projected_result_retire_le expiredIds old)
                    (hsizes.projectedResult old hold)
                resource := fun resource hmem =>
                  hsizes.resource resource (mem_of_mem_filter hmem)
                strings := by
                  show taskOutputStringBytes (record.results.map (TaskResult.retire expiredIds))
                    (record.resources.filter fun record =>
                      !expiredIds.contains record.resource.id) ≤ _
                  omega
                projected := by
                  show taskOutputProjectedEncodedBytes
                    (record.results.map (TaskResult.retire expiredIds))
                    (record.resources.filter fun record =>
                      !expiredIds.contains record.resource.id) ≤ _
                  have hres : ((record.results.map (TaskResult.retire expiredIds)).map
                        projectedTaskResultEncodedBytes).sum ≤
                      (record.results.map projectedTaskResultEncodedBytes).sum := by
                    rw [List.map_map]
                    exact sum_le_sum fun result _ =>
                      projected_result_retire_le expiredIds result
                  have hrscs := sum_filter_add record.resources
                    (fun resource => expiredIds.contains resource.resource.id)
                    (fun resource => resource.resource.encodedLen)
                  have hold := hsizes.projected
                  unfold taskOutputProjectedEncodedBytes resourcesEncodedBytes at hold ⊢
                  omega }
            uniqueResults := by
              show ((record.results.map _).map _).Nodup
              rw [hids]
              exact formed.uniqueResults
            results := by
              intro result hmem
              obtain ⟨old, hold, rfl⟩ := List.mem_map.mp hmem
              have hvalid := formed.results old hold
              exact { hvalid with }
            bindings := wellBound_retire expiredIds formed.bindings
            revision := nextRevision_pos _
            snapshotId := newSnapshotId_valid uuid
            primary := primary_of_ids hids formed.primary }

variable {operation : OutputOperation} {after : TaskOutputRecord}

theorem deletion_wellFormed (formed : record.WellFormed) (deletion : operation.isDeletion = true)
    (h : operation.apply record uuid = .ok after) : after.WellFormed := by
  cases operation with
  | markPlaybackCacheDeleted sessionId libraryItemId message =>
    unfold OutputOperation.apply TaskOutputRecord.markPlaybackCacheDeleted at h
    simp only at h
    split at h
    · cases h
      exact formed
    split at h
    · exact (finishDeletion_spec h).1
    · cases h
      exact formed
  | markLibraryItemDeleted libraryItemId message =>
    unfold OutputOperation.apply TaskOutputRecord.markLibraryItemDeleted at h
    simp only at h
    split at h
    · cases h
      exact formed
    split at h
    · exact (finishDeletion_spec h).1
    · cases h
      exact formed
  | _ => cases deletion

/-- The step lemma: the result is well formed exactly when the operation fits. -/
theorem later_wellFormed_iff (formed : record.WellFormed) (later : operation.isLater = true)
    (h : operation.apply record uuid = .ok after) : after.WellFormed ↔ operation.Fits record := by
  cases operation with
  | updateFillStatus resultId status =>
    cases h
    exact fillStatus_wellFormed_iff formed
  | retireExpired now excluded =>
    cases h
    exact retire_wellFormed_iff formed
  | markPlaybackCacheDeleted sessionId libraryItemId message
  | markLibraryItemDeleted libraryItemId message =>
    exact iff_of_true (deletion_wellFormed formed rfl h) trivial
  | _ => cases later

/-- An output that `restored` or `replace` has accepted. A replaced output has had a record
before it, which need not be validated. -/
inductive TaskOutputRecord.Accepted : TaskOutputRecord → Prop
  | restored {revision : UInt64} {snapshotId primaryResultId : String}
      {results : List TaskResult} {resources : List TaskResourceRecord} {legacyManaged : Bool}
      {uuid : BitVec 128} {record : TaskOutputRecord}
      (h : TaskOutputRecord.restored revision snapshotId primaryResultId results resources
        legacyManaged uuid = .ok record) : Accepted record
  | replaced {previous : Option TaskOutputRecord} {results : List TaskResult}
      {resources : List TaskResourceRecord} {preferred : Option String} {uuid : BitVec 128}
      {record : TaskOutputRecord}
      (settled : ∀ other, previous = some other → other.Settled)
      (h : TaskOutputRecord.replaceWithPrimaryResult previous results resources preferred uuid =
        .ok record) : Accepted record

theorem TaskOutputRecord.Accepted.wellFormed (accepted : record.Accepted) : record.WellFormed := by
  cases accepted with
  | restored h => exact restored_spec h
  | replaced settled h => exact replace_wellFormed settled h

inductive FittingRun (start : TaskOutputRecord) : TaskOutputRecord → Prop
  | refl : FittingRun start start
  | step {record after : TaskOutputRecord} {operation : OutputOperation} {uuid : BitVec 128}
      (run : FittingRun start record) (later : operation.isLater = true)
      (fits : operation.Fits record) (h : operation.apply record uuid = .ok after) :
      FittingRun start after

theorem FittingRun.wellFormed {start : TaskOutputRecord} (run : FittingRun start record)
    (formed : start.WellFormed) : record.WellFormed := by
  induction run with
  | refl => exact formed
  | step _ later fits h ih => exact (later_wellFormed_iff ih later h).mpr fits

/-- Later operations on an accepted output keep all checks of a restore as long as each fits,
and one that does not fit breaks them. -/
theorem later_operations_wellFormed {start record : TaskOutputRecord}
    (accepted : start.Accepted) (run : FittingRun start record) :
    record.WellFormed ∧
      (∀ uuid, TaskOutputRecord.restored record.revision record.snapshotId
        record.primaryResultId record.results record.resources record.legacyManaged uuid =
          .ok record) ∧
      ∀ (operation : OutputOperation) (uuid : BitVec 128) (after : TaskOutputRecord),
        operation.isLater = true → operation.apply record uuid = .ok after →
          (after.WellFormed ↔ operation.Fits record) := by
  have formed := run.wellFormed accepted.wellFormed
  refine ⟨formed, fun uuid => (restored_self_iff record uuid).mpr formed, ?_⟩
  intro operation uuid after later h
  exact later_wellFormed_iff formed later h

def shortResult : TaskResult :=
  { id := "part"
    state := 3
    title := ""
    subtitle := ""
    progress := none
    problem := none
    libraryItemId := ""
    playbackSource := none
    artifacts := []
    createdAt := none
    updatedAt := none
    subject := some
      { provider := "bilibili"
        kind := "video_page"
        id := "7"
        index := 0 }
    providerDetails := some
      { bilibili := some
          { identity := some
              { kind := 1
                aid := 5
                bvid := ""
                cid := 7
                epid := 0 }
            playbackSession := none
            hlsCacheFillStatus := none } } }

def queuedStatus : HlsCacheFillStatus :=
  { state := 1
    failureKind := 0
    completedBytes := 0
    totalBytes := 0
    totalBytesKnown := false
    representationId := ""
    message := "" }

def TaskResult.titled (result : TaskResult) (title : String) : TaskResult :=
  { result with title := title }

theorem projected_titled (result : TaskResult) (title : String) :
    projectedTaskResultEncodedBytes (result.titled title) + stringField result.title =
      projectedTaskResultEncodedBytes result + stringField title := by
  have hlen : (result.titled title).encodedLen + stringField result.title =
      result.encodedLen + stringField title := by
    unfold TaskResult.encodedLen
    simp only [titled]
    omega
  have hgrowth : projectedTaskResultRedactionBytes (result.titled title) =
      projectedTaskResultRedactionBytes result := rfl
  unfold projectedTaskResultEncodedBytes
  rw [hgrowth]
  simp only [titled] at hlen ⊢
  omega

theorem strings_titled (result : TaskResult) (title : String) :
    taskResultStringBytes (result.titled title) + result.title.utf8ByteSize =
      taskResultStringBytes result + title.utf8ByteSize := by
  unfold taskResultStringBytes
  simp only [titled, stringBytes, map_cons, sum_cons]
  omega

def titledOutput (title : String) : TaskOutputRecord :=
  { revision := 1
    snapshotId := newSnapshotId 0
    primaryResultId := "part"
    results := [shortResult.titled title]
    resources := []
    legacyManaged := false }

variable {title : String} (hsize : title.utf8ByteSize = 1048525)

include hsize in
theorem projected_shortTitled :
    projectedTaskResultEncodedBytes (shortResult.titled title) = 1048576 := by
  have hne : title ≠ "" := by
    intro hempty
    rw [hempty] at hsize
    cases hsize
  have hvarint : varint 1048525 = 3 := by decide +kernel
  have hfield : stringField title = 1048529 := by
    unfold stringField delimited
    rw [if_neg hne, hsize, hvarint]
  have hshort : projectedTaskResultEncodedBytes shortResult = 47 := by decide +kernel
  have hempty : stringField shortResult.title = 0 := by decide
  have htitled := projected_titled shortResult title
  rw [hshort, hempty, hfield] at htitled
  omega

include hsize in
theorem titledOutput_sizesFit :
    SizesFit (titledOutput title).results (titledOutput title).resources where
  resultCount := by
    show 1 ≤ maxTaskResults
    decide
  resourceCount := Nat.zero_le _
  artifacts := Nat.zero_le _
  projectedResult := by
    intro result hmem
    rw [mem_singleton.mp hmem, projected_shortTitled hsize]
    decide
  resource := by
    intro record hmem
    cases hmem
  strings := by
    have hshort : taskResultStringBytes shortResult = 23 := by decide +kernel
    have hempty : shortResult.title.utf8ByteSize = 0 := by decide
    have htitled := strings_titled shortResult title
    rw [hshort, hempty, hsize] at htitled
    simp only [titledOutput, taskOutputStringBytes, resourcesStringBytes, map_cons,
      map_nil, sum_cons, sum_nil, maxTaskOutputStringBytes]
    omega
  projected := by
    simp only [titledOutput, taskOutputProjectedEncodedBytes, resourcesEncodedBytes,
      map_cons, map_nil, sum_cons, sum_nil, projected_shortTitled hsize,
      maxTaskOutputEncodedBytes]
    omega

theorem shortResult_valid : shortResult.Valid where
  named := by decide
  known := by decide
  progress := by decide
  problem := rfl
  details := by decide +kernel

include hsize in
theorem titledOutput_wellFormed : (titledOutput title).WellFormed where
  sizes := titledOutput_sizesFit hsize
  uniqueResults := nodup_singleton _
  results := by
    intro result hmem
    rw [mem_singleton.mp hmem]
    have hvalid := shortResult_valid
    exact { hvalid with }
  bindings :=
    { resourceIds := by
        intro record hmem
        cases hmem
      uniqueResources := nodup_nil
      uniqueArtifacts := by
        intro result hmem
        rw [mem_singleton.mp hmem]
        exact nodup_nil
      artifacts := by
        intro result hmem artifact hin
        rw [mem_singleton.mp hmem] at hin
        cases hin
      bound := by
        intro result hmem artifact hin
        rw [mem_singleton.mp hmem] at hin
        cases hin
      referenced := by
        intro record hmem
        cases hmem }
  revision := atLeastOne_pos 1
  snapshotId := newSnapshotId_valid 0
  primary := .inl (hasResult_eq_true.mpr ⟨_, mem_singleton.mpr rfl, rfl⟩)

def queuedDetails : BilibiliTaskResultDetails :=
  { identity := some
      { kind := 1
        aid := 5
        bvid := ""
        cid := 7
        epid := 0 }
    playbackSession := none
    hlsCacheFillStatus := some queuedStatus }

include hsize in
theorem queued_misfit :
    ¬ SizesFit ((titledOutput title).updateBilibiliCacheFillStatus "part" queuedStatus 1).results
      ((titledOutput title).updateBilibiliCacheFillStatus "part" queuedStatus 1).resources := by
  intro hfits
  have hmem : (shortResult.titled title).setDetails queuedDetails ∈
      ((titledOutput title).updateBilibiliCacheFillStatus "part" queuedStatus 1).results :=
    mem_singleton.mpr rfl
  have hone := hfits.projectedResult _ hmem
  have hgrown := projected_setDetails queuedDetails
    (show (shortResult.titled title).providerDetails =
      some { bilibili := some { queuedDetails with hlsCacheFillStatus := none } } from rfl)
  have hold : detailsField { queuedDetails with hlsCacheFillStatus := none } = 12 := by
    decide +kernel
  have hnew : detailsField queuedDetails = 16 := by decide +kernel
  rw [projected_shortTitled hsize, hold, hnew] at hgrown
  unfold maxTaskResultEncodedBytes at hone
  omega

theorem sizesFit_of_restored {revision : UInt64} {legacyManaged : Bool}
    (h : TaskOutputRecord.restored revision snapshotId primaryResultId results resources
      legacyManaged uuid = .ok record) : SizesFit results resources := by
  exact validateCollectionSizes_eq_ok.mp (bind_check_eq_ok.mp h).1

def longTitle : String := String.ofList (List.replicate 1048525 'a')

theorem utf8ByteSize_longTitle : longTitle.utf8ByteSize = 1048525 := by
  unfold longTitle
  rw [Sha256.utf8ByteSize_ofList, length_replicate]
  intro c hmem
  rw [eq_of_mem_replicate hmem]
  decide

/-- A queued status in an accepted output that is full: no restore takes the output back. -/
theorem queuedStatus_not_restored :
    ∃ record after : TaskOutputRecord, record.Accepted ∧
      (OutputOperation.updateFillStatus "part" queuedStatus).apply record 1 = .ok after ∧
      ¬ after.WellFormed ∧
      ∀ uuid restored, TaskOutputRecord.restored after.revision after.snapshotId
        after.primaryResultId after.results after.resources after.legacyManaged uuid ≠
          .ok restored := by
  have hsize := utf8ByteSize_longTitle
  have accepted : (titledOutput longTitle).Accepted :=
    .restored ((restored_self_iff _ 0).mpr (titledOutput_wellFormed hsize))
  refine ⟨titledOutput longTitle, _, accepted, rfl, ?_, ?_⟩
  · exact fun formed => queued_misfit hsize formed.sizes
  · exact fun uuid restored h => queued_misfit hsize (sizesFit_of_restored h)

theorem later_operations_wellFormed_marked :
    FittingRun sampleOutput (markedOutput.renewed 2) ∧
      (markedOutput.renewed 2).WellFormed := by
  have first : FittingRun sampleOutput markedOutput := by
    refine .step .refl ?_ ?_ sampleMark_once
    · rfl
    · exact trivial
  have again : sampleMark.apply markedOutput 2 = .ok (markedOutput.renewed 2) := by
    decide +kernel
  have run : FittingRun sampleOutput (markedOutput.renewed 2) := by
    refine .step first ?_ ?_ again
    · rfl
    · exact trivial
  have accepted : sampleOutput.Accepted := by
    refine .replaced ?_ sampleOutput_replaced
    intro other hnone
    cases hnone
  exact ⟨run, (later_operations_wellFormed accepted run).1⟩

end NetPlayer.Outputs
