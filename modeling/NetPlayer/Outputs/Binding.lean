import NetPlayer.Outputs.Checks

/-!
# The size of bound results

The expansion check computes the size a result will have once its artifacts carry the registered
resources, from the size it has now and the sizes of the artifacts before and after.
-/

namespace NetPlayer.Outputs

open ProtoLength List

def boundArtifacts (resources : List TaskResourceRecord) :
    List TaskArtifact → Except String (List TaskArtifact)
  | [] => .ok []
  | artifact :: rest => do
      let bound ← bindArtifact resources artifact
      let others ← boundArtifacts resources rest
      .ok (bound :: others)

def TaskResult.bound (resources : List TaskResourceRecord) (result : TaskResult) :
    Except String TaskResult := do
  let artifacts ← boundArtifacts resources result.artifacts
  .ok { result with artifacts := artifacts }

def TaskResult.sizes (result : TaskResult) : Nat × Nat :=
  (result.encodedLen, taskResultStringBytes result)

theorem sizes_bindArtifact {result : TaskResult}
    {done rest : List TaskArtifact} {artifact : TaskArtifact} {reference canonical : CacheResourceRef}
    (hrsc : artifact.resource = some reference) :
    let before := { result with artifacts := done ++ artifact :: rest }
    let after := { result with
      artifacts := done ++ { artifact with resource := some canonical } :: rest }
    after.sizes =
      (before.sizes.1 - lengthDelimitedFieldBytes artifact.encodedLen +
          lengthDelimitedFieldBytes
            ({ artifact with resource := some canonical } : TaskArtifact).encodedLen,
        before.sizes.2 - resourceStringBytes reference + resourceStringBytes canonical) := by
  simp only [TaskResult.sizes, TaskResult.encodedLen, taskResultStringBytes, repeatedField,
    lengthDelimitedFieldBytes_eq, artifactStringBytes, map_append, map_cons,
    sum_append, sum_cons, hrsc, Option.elim_some]
  rw [Prod.mk.injEq]
  constructor
  · omega
  · omega

theorem boundArtifactSizes_eq (resources : List TaskResourceRecord) (result : TaskResult)
    (done rest : List TaskArtifact) :
    boundArtifactSizes resources rest
        ({ result with artifacts := done ++ rest } : TaskResult).sizes =
      (boundArtifacts resources rest).map fun bound =>
        ({ result with artifacts := done ++ bound } : TaskResult).sizes := by
  induction rest generalizing done with
  | nil => rfl
  | cons artifact rest ih =>
    unfold boundArtifactSizes boundArtifacts bindArtifact
    cases hrsc : artifact.resource with
    | none =>
      have hr := ih (done ++ [artifact])
      simp only [append_assoc, singleton_append] at hr
      simp only [hr]
      cases boundArtifacts resources rest <;> rfl
    | some reference =>
      cases hf : resourceById resources (toAsciiLowercase reference.id) with
      | none =>
        simp only [hf]
        rfl
      | some canonical =>
        have hr := ih (done ++ [{ artifact with resource := some canonical }])
        simp only [append_assoc, singleton_append] at hr
        have hsizes := @sizes_bindArtifact result done rest artifact reference canonical hrsc
        rw [hsizes] at hr
        simp only [hf, hr]
        cases boundArtifacts resources rest <;> rfl

theorem boundArtifactSizes_eq_bound (resources : List TaskResourceRecord) (result : TaskResult) :
    boundArtifactSizes resources result.artifacts result.sizes =
      (result.bound resources).map TaskResult.sizes := by
  have hsizes := boundArtifactSizes_eq resources result [] result.artifacts
  simp only [nil_append] at hsizes
  rw [hsizes]
  unfold TaskResult.bound
  cases boundArtifacts resources result.artifacts <;> rfl

variable {resources : List TaskResourceRecord}

theorem boundArtifacts_of_bind {resultId : String} {seen : List String}
    {artifacts bound : List TaskArtifact}
    (h : bindArtifactsFrom resources resultId seen artifacts = .ok bound) :
    boundArtifacts resources artifacts = .ok bound := by
  induction artifacts generalizing seen bound with
  | nil => exact h
  | cons artifact rest ih =>
    unfold bindArtifactsFrom at h
    rw [bind_check_eq_ok, bind_eq_ok] at h
    obtain ⟨-, first, hfst, h⟩ := h
    obtain ⟨others, hos, h⟩ := bind_eq_ok.mp h
    exact bind_eq_ok.mpr ⟨first, hfst, bind_eq_ok.mpr ⟨others, ih hos, h⟩⟩

theorem bound_of_bindResults {results bound : List TaskResult}
    (h : bindResults resources results = .ok bound) :
    List.Forall₂ (fun result after => result.bound resources = .ok after) results bound := by
  induction results generalizing bound with
  | nil =>
    cases h
    exact List.Forall₂.nil
  | cons result rest ih =>
    obtain ⟨artifacts, harts, h⟩ := bind_eq_ok.mp h
    obtain ⟨others, hos, h⟩ := bind_eq_ok.mp h
    cases h
    refine List.Forall₂.cons ?_ (ih hos)
    exact bind_eq_ok.mpr ⟨artifacts, boundArtifacts_of_bind harts, rfl⟩

theorem encodedLen_le_of_boundResultSizes {results : List TaskResult} {totals sums : Nat × Nat}
    (h : boundResultSizes resources results totals = .ok sums) {result after : TaskResult}
    (hm : result ∈ results) (hbd : result.bound resources = .ok after) :
    after.encodedLen ≤ maxTaskResultEncodedBytes := by
  induction results generalizing totals with
  | nil => cases hm
  | cons first rest ih =>
    obtain ⟨sizes, hsizes, h⟩ := bind_eq_ok.mp h
    obtain ⟨hfit, h⟩ := bind_check_eq_ok.mp h
    cases hm with
    | tail _ hm => exact ih h hm
    | head =>
      have hcomputed := boundArtifactSizes_eq_bound resources result
      rw [hbd] at hcomputed
      have hs : sizes = after.sizes := Except.ok.inj (hsizes.symm.trans hcomputed)
      rw [reject_eq_ok, hs] at hfit
      simpa [TaskResult.sizes] using hfit

/-- The size computed for a result is the size it has once it is bound, so the accepted results
are within their limit afterwards. -/
theorem bound_resource_expansion_exact (results : List TaskResult)
    (resources : List TaskResourceRecord) :
    (∀ result : TaskResult, boundArtifactSizes resources result.artifacts
        (result.encodedLen, taskResultStringBytes result) =
      (result.bound resources).map fun after => (after.encodedLen, taskResultStringBytes after)) ∧
    ∀ bound, validateAndBindResources results resources = .ok bound →
      List.Forall₂ (fun result after => result.bound resources = .ok after ∧
        after.encodedLen ≤ maxTaskResultEncodedBytes) results bound := by
  refine ⟨boundArtifactSizes_eq_bound resources, fun bound hbound => ?_⟩
  unfold validateAndBindResources at hbound
  rw [bind_check_eq_ok, bind_check_eq_ok] at hbound
  obtain ⟨-, hexpansion, hbound⟩ := hbound
  obtain ⟨other, hresults, hbound⟩ := bind_eq_ok.mp hbound
  obtain ⟨-, hbound⟩ := bind_check_eq_ok.mp hbound
  cases hbound
  obtain ⟨totals, htotals, -⟩ := bind_eq_ok.mp hexpansion
  have hafter := bound_of_bindResults hresults
  rw [forall₂_iff_get] at hafter ⊢
  obtain ⟨hlength, hafter⟩ := hafter
  refine ⟨hlength, fun i hi hi' => ⟨hafter i hi hi', ?_⟩⟩
  exact encodedLen_le_of_boundResultSizes htotals (get_mem results ⟨i, hi⟩) (hafter i hi hi')

def sampleReference : CacheResourceRef :=
  { id := "COVER"
    uri := ""
    contentType := ""
    sizeBytes := 0
    sizeKnown := false
    supportsByteRanges := false
    etag := ""
    expiresAt := none }

def sampleResource : TaskResourceRecord :=
  { resource := { sampleReference with
      id := "cover"
      uri := "/resources/cover"
      contentType := "image/jpeg" }
    bodyIdentity := none
    bodyIdentityMigrationPending := false }

def coveredResult : TaskResult :=
  { id := "session"
    state := 3
    title := "Video"
    subtitle := ""
    progress := none
    problem := none
    libraryItemId := ""
    playbackSource := none
    artifacts := [
      { id := "cover"
        kind := 3
        state := 2
        title := "Cover"
        format := "jpeg"
        languageTag := ""
        isAiGenerated := false
        resource := some sampleReference
        problem := none
        libraryItemId := "" }]
    createdAt := none
    updatedAt := none
    subject := none
    providerDetails := none }

theorem bound_resource_expansion_exact_covered :
    ∃ after, coveredResult.bound [sampleResource] = .ok after ∧
      coveredResult.encodedLen < after.encodedLen ∧
      after.encodedLen ≤ maxTaskResultEncodedBytes := by
  have haccepted : ∃ after, validateAndBindResources [coveredResult] [sampleResource] =
      .ok [after] ∧ coveredResult.encodedLen < after.encodedLen := by
    refine ⟨{ coveredResult with artifacts := coveredResult.artifacts.map fun artifact =>
      { artifact with resource := some sampleResource.resource } }, ?_, ?_⟩
    · decide +kernel
    · decide +kernel
  obtain ⟨after, hbound, hgrown⟩ := haccepted
  have hexact := (bound_resource_expansion_exact [coveredResult] [sampleResource]).2 _ hbound
  obtain ⟨hafter, hfits⟩ := (forall₂_cons.mp hexact).1
  exact ⟨after, hafter, hgrown, hfits⟩

end NetPlayer.Outputs
