import Mathlib.Algebra.Order.BigOperators.Group.List
import Mathlib.Algebra.Order.Group.Nat
import NetPlayer.Outputs.Output

/-!
# What the validation of an output accepts

Each check accepts exactly what its condition here says, and a record passes the checks of a
restore unchanged exactly when it is well formed.
-/

namespace NetPlayer.Outputs

open ProtoLength List TaskOutputRecord
open Hls (trim isWhitespace trim_of_notWhitespace)

structure SizesFit (results : List TaskResult) (resources : List TaskResourceRecord) : Prop where
  resultCount : results.length ≤ maxTaskResults
  resourceCount : resources.length ≤ maxTaskResources
  artifacts : artifactCount results ≤ maxTaskArtifacts
  projectedResult : ∀ result ∈ results,
    projectedTaskResultEncodedBytes result ≤ maxTaskResultEncodedBytes
  resource : ∀ record ∈ resources, record.resource.encodedLen ≤ maxTaskResourceEncodedBytes
  strings : taskOutputStringBytes results resources ≤ maxTaskOutputStringBytes
  projected : taskOutputProjectedEncodedBytes results resources ≤ maxTaskOutputEncodedBytes

theorem encodedLen_le_projected (result : TaskResult) :
    result.encodedLen ≤ projectedTaskResultEncodedBytes result := by
  unfold projectedTaskResultEncodedBytes
  omega

theorem encodedBytes_le_projected (results : List TaskResult)
    (resources : List TaskResourceRecord) :
    taskOutputEncodedBytes results resources ≤
      taskOutputProjectedEncodedBytes results resources := by
  have hsum := sum_le_sum fun result (_ : result ∈ results) =>
    encodedLen_le_projected result
  unfold taskOutputEncodedBytes taskOutputProjectedEncodedBytes
  omega

variable {results : List TaskResult} {resources : List TaskResourceRecord} {u : Unit}

theorem validateCollectionSizes_eq_ok :
    validateCollectionSizes results resources = .ok u ↔ SizesFit results resources := by
  unfold validateCollectionSizes
  simp only [bind_check_eq_ok, reject_eq_ok, rejectFirst_eq_ok, decide_eq_false_iff_not,
    gt_iff_lt, not_lt]
  constructor
  · rintro ⟨hres, hrscs, harts, -, hproj, hrsc, hstrings, -, htot⟩
    exact ⟨hres, hrscs, harts, hproj, hrsc, hstrings, htot⟩
  · intro h
    refine ⟨h.resultCount, h.resourceCount, h.artifacts, ?_, h.projectedResult, h.resource, h.strings,
      ?_, h.projected⟩
    · intro result hm
      exact le_trans (encodedLen_le_projected result) (h.projectedResult result hm)
    · exact le_trans (encodedBytes_le_projected results resources) h.projected

structure TaskResult.Valid (result : TaskResult) : Prop where
  named : trim result.id ≠ ""
  known : taskStateOf result.state ≠ .unspecified
  progress : result.progress.any invalidProgress = false
  problem : validateProblem result.problem result.id = .ok ()
  details : validateResultSubjectAndProviderDetails result = .ok ()

variable {seen : List String}

theorem validateResultIdsFrom_eq_ok :
    validateResultIdsFrom seen results = .ok u ↔
      (results.map TaskResult.id).Nodup ∧ ∀ result ∈ results, result.Valid ∧ result.id ∉ seen := by
  induction results generalizing seen with
  | nil => simp [validateResultIdsFrom]
  | cons result rest ih =>
    unfold validateResultIdsFrom
    simp only [bind_check_eq_ok, reject_eq_ok, ih, decide_eq_false_iff_not,
      map_cons, nodup_cons, mem_cons, mem_map, not_or, forall_eq_or_imp]
    constructor
    · rintro ⟨hnamed, hseen, hk, hprogress, hproblem, hdetails, hnodup, hr⟩
      refine ⟨⟨?_, hnodup⟩, ⟨⟨hnamed, hk, hprogress, hproblem, hdetails⟩, ?_⟩, ?_⟩
      · rintro ⟨other, hm, hid⟩
        exact (hr other hm).2.1 hid
      · simpa using hseen
      · intro other hm
        exact ⟨(hr other hm).1, (hr other hm).2.2⟩
    · rintro ⟨⟨hfr, hnodup⟩, ⟨hv, hseen⟩, hr⟩
      refine ⟨hv.named, by simpa using hseen, hv.known, hv.progress,
        hv.problem, hv.details, hnodup, ?_⟩
      intro other hm
      exact ⟨(hr other hm).1, fun hid => hfr ⟨other, hm, hid⟩, (hr other hm).2⟩

theorem validateResultIds_eq_ok :
    validateResultIds results = .ok u ↔
      (results.map TaskResult.id).Nodup ∧ ∀ result ∈ results, result.Valid := by
  unfold validateResultIds
  rw [validateResultIdsFrom_eq_ok]
  simp

structure TaskArtifact.Valid (artifact : TaskArtifact) : Prop where
  named : trim artifact.id ≠ ""
  kind : TaskArtifactKind.of artifact.kind ≠ .unspecified
  state : TaskArtifactState.of artifact.state ≠ .unspecified
  problem : validateProblem artifact.problem artifact.id = .ok ()
  libraryItem : artifact.libraryItemId ≠ "" → blankOrPadded artifact.libraryItemId = false ∧
    artifact.resource = none ∧ TaskArtifactKind.of artifact.kind = .media
  backed : TaskArtifactState.of artifact.state = .available →
    artifact.resource ≠ none ∨ artifact.libraryItemId ≠ ""

variable {resultId : String} {artifact : TaskArtifact}

theorem validateArtifact_eq_ok :
    validateArtifact resultId seen artifact = .ok u ↔ artifact.Valid ∧ artifact.id ∉ seen := by
  unfold validateArtifact
  simp only [bind_check_eq_ok, reject_eq_ok, decide_eq_false_iff_not]
  constructor
  · rintro ⟨hnamed, hseen, hk, hproblem, hpadded, hboth, hmedia, hbacked⟩
    have hknown' : TaskArtifactKind.of artifact.kind ≠ .unspecified ∧
        TaskArtifactState.of artifact.state ≠ .unspecified := by simpa using hk
    refine ⟨⟨hnamed, hknown'.1, hknown'.2, hproblem, ?_, ?_⟩, by simpa using hseen⟩
    · intro hi
      refine ⟨?_, ?_, ?_⟩
      · simpa [hi] using hpadded
      · simpa [hi] using hboth
      · simpa [hi] using hmedia
    · intro havail
      by_contra hn
      have hnone' : artifact.resource = none ∧ artifact.libraryItemId = "" := by
        simpa [not_or] using hn
      simp [havail, hnone'.1, hnone'.2] at hbacked
  · rintro ⟨hv, hseen⟩
    refine ⟨hv.named, by simpa using hseen, ?_, hv.problem, ?_, ?_, ?_, ?_⟩
    · simp [hv.kind, hv.state]
    · by_cases hi : artifact.libraryItemId = ""
      · simp [hi]
      · simp [(hv.libraryItem hi).1]
    · by_cases hi : artifact.libraryItemId = ""
      · simp [hi]
      · simp [(hv.libraryItem hi).2.1]
    · by_cases hi : artifact.libraryItemId = ""
      · simp [hi]
      · simp [(hv.libraryItem hi).2.2]
    · by_cases havail : TaskArtifactState.of artifact.state = .available
      · cases hv.backed havail with
        | inl hrsc =>
          cases hf : artifact.resource with
          | none => exact absurd hf hrsc
          | some resource => simp
        | inr hi => simp [hi]
      · simp [havail]

variable {id : String}

theorem resourceById_id {resource : CacheResourceRef}
    (h : resourceById resources id = some resource) :
    resource.id = id ∧ ∃ record ∈ resources, record.resource = resource := by
  unfold resourceById at h
  cases hfind : resources.find? (fun record => record.resource.id = id) with
  | none =>
    rw [hfind] at h
    cases h
  | some record =>
    rw [hfind] at h
    cases h
    exact ⟨by simpa using List.find?_some hfind, record, mem_of_find?_eq_some hfind, rfl⟩

theorem toLower_toLower (c : Char) : c.toLower.toLower = c.toLower := by
  unfold Char.toLower
  split
  · next h =>
      have hlow : ¬ (c.val + ('a'.val - 'A'.val) ≤ 'Z'.val) := by
        have hupper := h.1
        have hbd := h.2
        simp only [UInt32.le_iff_toNat_le, UInt32.toNat_add] at *
        have ha : ('a'.val - 'A'.val).toNat = 32 := by decide
        have hA : ('A'.val).toNat = 65 := by decide
        have hZ : ('Z'.val).toNat = 90 := by decide
        omega
      rw [dif_neg]
      exact fun both => hlow both.2
  · rfl

theorem toAsciiLowercase_idempotent (value : String) :
    toAsciiLowercase (toAsciiLowercase value) = toAsciiLowercase value := by
  unfold toAsciiLowercase
  rw [String.toList_ofList, map_map]
  congr 2
  funext c
  exact toLower_toLower c

def TaskArtifact.BoundTo (resources : List TaskResourceRecord) (artifact : TaskArtifact) : Prop :=
  ∀ reference, artifact.resource = some reference →
    resourceById resources (toAsciiLowercase reference.id) = some reference

theorem bindArtifact_boundTo {bound : TaskArtifact}
    (h : bindArtifact resources artifact = .ok bound) : bound.BoundTo resources := by
  unfold bindArtifact at h
  cases hrsc : artifact.resource with
  | none =>
    simp only [hrsc, Except.ok.injEq] at h
    subst h
    intro reference href
    rw [hrsc] at href
    cases href
  | some reference =>
    simp only [hrsc] at h
    cases hf : resourceById resources (toAsciiLowercase reference.id) with
    | none =>
      rw [hf] at h
      cases h
    | some canonical =>
      rw [hf] at h
      cases h
      intro other ho
      cases ho
      rw [(resourceById_id hf).1, toAsciiLowercase_idempotent]
      exact hf

theorem bindArtifact_eq_self (h : artifact.BoundTo resources) :
    bindArtifact resources artifact = .ok artifact := by
  unfold bindArtifact
  cases hrsc : artifact.resource with
  | none => rfl
  | some reference =>
    simp only [h reference hrsc]
    rw [← hrsc]

theorem TaskArtifact.Valid.bind {bound : TaskArtifact} (valid : artifact.Valid)
    (h : bindArtifact resources artifact = .ok bound) : bound.Valid ∧ bound.id = artifact.id := by
  unfold bindArtifact at h
  cases hrsc : artifact.resource with
  | none =>
    simp only [hrsc, Except.ok.injEq] at h
    exact h ▸ ⟨valid, rfl⟩
  | some reference =>
    simp only [hrsc] at h
    cases hf : resourceById resources (toAsciiLowercase reference.id) with
    | none =>
      rw [hf] at h
      cases h
    | some canonical =>
      rw [hf] at h
      cases h
      refine ⟨⟨valid.named, valid.kind, valid.state, valid.problem, ?_, ?_⟩, rfl⟩
      · intro hi
        have hn := (valid.libraryItem hi).2.1
        rw [hrsc] at hn
        cases hn
      · intro _
        exact .inl nofun

def SameArtifacts (artifacts bound : List TaskArtifact) : Prop :=
  List.Forall₂ (fun artifact other => other = { artifact with resource := other.resource })
    artifacts bound

theorem bindArtifact_same {bound : TaskArtifact} (h : bindArtifact resources artifact = .ok bound) :
    bound = { artifact with resource := bound.resource } := by
  unfold bindArtifact at h
  cases hrsc : artifact.resource with
  | none =>
    simp only [hrsc, Except.ok.injEq] at h
    exact h ▸ rfl
  | some reference =>
    simp only [hrsc] at h
    cases hf : resourceById resources (toAsciiLowercase reference.id) with
    | none =>
      rw [hf] at h
      cases h
    | some canonical =>
      rw [hf] at h
      cases h
      rfl

variable {artifacts : List TaskArtifact}

theorem bindArtifactsFrom_spec {bound : List TaskArtifact}
    (h : bindArtifactsFrom resources resultId seen artifacts = .ok bound) :
    SameArtifacts artifacts bound ∧ (bound.map TaskArtifact.id).Nodup ∧
      ∀ artifact ∈ bound, artifact.Valid ∧ artifact.BoundTo resources ∧ artifact.id ∉ seen := by
  induction artifacts generalizing seen bound with
  | nil =>
    cases h
    exact ⟨List.Forall₂.nil, by simp⟩
  | cons artifact rest ih =>
    unfold bindArtifactsFrom at h
    rw [bind_check_eq_ok, bind_eq_ok] at h
    obtain ⟨hchecked, first, hfst, h⟩ := h
    obtain ⟨others, hos, h⟩ := bind_eq_ok.mp h
    cases h
    obtain ⟨hv, hseen⟩ := validateArtifact_eq_ok.mp hchecked
    obtain ⟨hfirstValid, hid⟩ := hv.bind hfst
    obtain ⟨hs, hnodup, hr⟩ := ih hos
    refine ⟨List.Forall₂.cons (bindArtifact_same hfst) hs, ?_, ?_⟩
    · rw [map_cons, nodup_cons, mem_map]
      refine ⟨?_, hnodup⟩
      rintro ⟨other, hm, hs⟩
      apply (hr other hm).2.2
      rw [hs, hid]
      exact mem_cons_self
    · intro other hm
      cases hm with
      | head => exact ⟨hfirstValid, bindArtifact_boundTo hfst, hid ▸ hseen⟩
      | tail _ hm =>
        obtain ⟨ho, hbd, hfr⟩ := hr other hm
        exact ⟨ho, hbd, fun hin => hfr (mem_cons_of_mem _ hin)⟩

theorem bindArtifactsFrom_eq_self (unique : (artifacts.map TaskArtifact.id).Nodup)
    (h : ∀ artifact ∈ artifacts, artifact.Valid ∧ artifact.BoundTo resources ∧ artifact.id ∉ seen) :
    bindArtifactsFrom resources resultId seen artifacts = .ok artifacts := by
  induction artifacts generalizing seen with
  | nil => rfl
  | cons artifact rest ih =>
    obtain ⟨hv, hbd, hseen⟩ := h artifact mem_cons_self
    rw [map_cons, nodup_cons] at unique
    have hr : bindArtifactsFrom resources resultId (artifact.id :: seen) rest = .ok rest := by
      apply ih unique.2
      intro other hm
      obtain ⟨ho, hotherBound, hfr⟩ := h other (mem_cons_of_mem _ hm)
      refine ⟨ho, hotherBound, ?_⟩
      intro hin
      cases mem_cons.mp hin with
      | inl same => exact unique.1 (mem_map.mpr ⟨other, hm, same⟩)
      | inr old => exact hfr old
    unfold bindArtifactsFrom
    rw [bind_check_eq_ok, bind_eq_ok]
    refine ⟨validateArtifact_eq_ok.mpr ⟨hv, hseen⟩, artifact, bindArtifact_eq_self hbd, ?_⟩
    exact bind_eq_ok.mpr ⟨rest, hr, rfl⟩

theorem validateResourceIdsFrom_eq_ok :
    validateResourceIdsFrom seen resources = .ok u ↔
      (resources.map fun record => record.resource.id).Nodup ∧
        ∀ record ∈ resources, resourceIdIsValid record.resource.id = true ∧
          record.resource.id ∉ seen := by
  induction resources generalizing seen with
  | nil => simp [validateResourceIdsFrom]
  | cons record rest ih =>
    unfold validateResourceIdsFrom validateResourceId
    simp only [bind_check_eq_ok, reject_eq_ok, ih, map_cons, nodup_cons,
      mem_cons, mem_map, not_or, forall_eq_or_imp, Bool.not_eq_false']
    constructor
    · rintro ⟨hv, hseen, hnodup, hr⟩
      refine ⟨⟨?_, hnodup⟩, ⟨hv, by simpa using hseen⟩, ?_⟩
      · rintro ⟨other, hm, hid⟩
        exact (hr other hm).2.1 hid
      · intro other hm
        exact ⟨(hr other hm).1, (hr other hm).2.2⟩
    · rintro ⟨⟨hfr, hnodup⟩, ⟨hv, hseen⟩, hr⟩
      refine ⟨hv, by simpa using hseen, hnodup, ?_⟩
      intro other hm
      exact ⟨(hr other hm).1, fun hid => hfr ⟨other, hm, hid⟩, (hr other hm).2⟩

structure WellBound (results : List TaskResult) (resources : List TaskResourceRecord) : Prop where
  resourceIds : ∀ record ∈ resources, resourceIdIsValid record.resource.id = true
  uniqueResources : (resources.map fun record => record.resource.id).Nodup
  uniqueArtifacts : ∀ result ∈ results, (result.artifacts.map TaskArtifact.id).Nodup
  artifacts : ∀ result ∈ results, ∀ artifact ∈ result.artifacts, artifact.Valid
  bound : ∀ result ∈ results, ∀ artifact ∈ result.artifacts, artifact.BoundTo resources
  referenced : ∀ record ∈ resources, record.resource.id ∈ referencedIds results

def SameResults (results bound : List TaskResult) : Prop :=
  List.Forall₂ (fun result other => other = { result with artifacts := other.artifacts } ∧
    SameArtifacts result.artifacts other.artifacts) results bound

variable {bound : List TaskResult}

theorem SameResults.ids (h : SameResults results bound) :
    bound.map TaskResult.id = results.map TaskResult.id := by
  induction h with
  | nil => rfl
  | cons same _ ih =>
    rw [map_cons, map_cons, ih, same.1]

theorem SameResults.valid (h : SameResults results bound)
    (valid : ∀ result ∈ results, result.Valid) : ∀ result ∈ bound, result.Valid := by
  induction h with
  | nil =>
    intro result hm
    cases hm
  | cons same _ ih =>
    intro result hm
    cases hm with
    | head =>
      have hv := valid _ mem_cons_self
      rw [same.1]
      exact { hv with }
    | tail _ hm =>
      have hr := ih fun other ho => valid other (mem_cons_of_mem _ ho)
      exact hr result hm

theorem bindResults_spec (h : bindResults resources results = .ok bound) :
    SameResults results bound ∧ ∀ result ∈ bound,
      (result.artifacts.map TaskArtifact.id).Nodup ∧
        ∀ artifact ∈ result.artifacts, artifact.Valid ∧ artifact.BoundTo resources := by
  induction results generalizing bound with
  | nil =>
    cases h
    exact ⟨List.Forall₂.nil, by simp⟩
  | cons result rest ih =>
    obtain ⟨artifacts, harts, h⟩ := bind_eq_ok.mp h
    obtain ⟨others, hos, h⟩ := bind_eq_ok.mp h
    cases h
    obtain ⟨hsameFirst, hunique, hfst⟩ := bindArtifactsFrom_spec harts
    obtain ⟨hs, hr⟩ := ih hos
    refine ⟨List.Forall₂.cons ⟨rfl, hsameFirst⟩ hs, ?_⟩
    intro other hm
    cases hm with
    | head =>
      refine ⟨hunique, fun artifact hin => ?_⟩
      exact ⟨(hfst artifact hin).1, (hfst artifact hin).2.1⟩
    | tail _ hm => exact hr other hm

theorem bindResults_eq_self (resources : List TaskResourceRecord)
    (h : ∀ result ∈ results, (result.artifacts.map TaskArtifact.id).Nodup ∧
      ∀ artifact ∈ result.artifacts, artifact.Valid ∧ artifact.BoundTo resources) :
    bindResults resources results = .ok results := by
  induction results with
  | nil => rfl
  | cons result rest ih =>
    obtain ⟨hunique, harts⟩ := h result mem_cons_self
    have hfst : bindArtifactsFrom resources result.id [] result.artifacts =
        .ok result.artifacts := by
      apply bindArtifactsFrom_eq_self hunique
      intro artifact hm
      exact ⟨(harts artifact hm).1, (harts artifact hm).2, not_mem_nil⟩
    have hr := ih fun other hm => h other (mem_cons_of_mem _ hm)
    unfold bindResults
    rw [hfst, hr]
    rfl

theorem validateAndBindResources_spec (h : validateAndBindResources results resources = .ok bound) :
    SameResults results bound ∧ WellBound bound resources := by
  unfold validateAndBindResources at h
  rw [bind_check_eq_ok, bind_check_eq_ok] at h
  obtain ⟨hids, -, h⟩ := h
  obtain ⟨other, hbd, h⟩ := bind_eq_ok.mp h
  obtain ⟨hreferenced, h⟩ := bind_check_eq_ok.mp h
  cases h
  obtain ⟨hunique, hv⟩ := validateResourceIdsFrom_eq_ok.mp hids
  obtain ⟨hs, hres⟩ := bindResults_spec hbd
  refine ⟨hs, ?_⟩
  exact
    { resourceIds := fun record hm => (hv record hm).1
      uniqueResources := hunique
      uniqueArtifacts := fun result hm => (hres result hm).1
      artifacts := fun result hm artifact hin => ((hres result hm).2 artifact hin).1
      bound := fun result hm artifact hin => ((hres result hm).2 artifact hin).2
      referenced := by
        intro record hm
        simpa using rejectFirst_eq_ok.mp hreferenced record hm }

theorem bindArtifactsFrom_of_bound {other : List TaskArtifact}
    (bound : ∀ artifact ∈ artifacts, artifact.BoundTo resources)
    (h : bindArtifactsFrom resources resultId seen artifacts = .ok other) : other = artifacts := by
  induction artifacts generalizing seen other with
  | nil =>
    cases h
    rfl
  | cons artifact rest ih =>
    obtain ⟨-, h⟩ := bind_check_eq_ok.mp h
    obtain ⟨first, hfst, h⟩ := bind_eq_ok.mp h
    obtain ⟨others, hos, h⟩ := bind_eq_ok.mp h
    cases h
    rw [bindArtifact_eq_self (bound artifact mem_cons_self)] at hfst
    cases hfst
    rw [ih (fun other hm => bound other (mem_cons_of_mem _ hm)) hos]

variable {other : List TaskResult}

theorem bindResults_of_bound
    (bound : ∀ result ∈ results, ∀ artifact ∈ result.artifacts, artifact.BoundTo resources)
    (h : bindResults resources results = .ok other) : other = results := by
  induction results generalizing other with
  | nil =>
    cases h
    rfl
  | cons result rest ih =>
    obtain ⟨artifacts, harts, h⟩ := bind_eq_ok.mp h
    obtain ⟨others, hos, h⟩ := bind_eq_ok.mp h
    cases h
    rw [bindArtifactsFrom_of_bound (bound result mem_cons_self) harts,
      ih (fun other hm => bound other (mem_cons_of_mem _ hm)) hos]

theorem validateAndBindResources_of_bound
    (bound : ∀ result ∈ results, ∀ artifact ∈ result.artifacts, artifact.BoundTo resources)
    (h : validateAndBindResources results resources = .ok other) : other = results := by
  unfold validateAndBindResources at h
  rw [bind_check_eq_ok, bind_check_eq_ok] at h
  obtain ⟨-, -, h⟩ := h
  obtain ⟨found, hf, h⟩ := bind_eq_ok.mp h
  obtain ⟨-, h⟩ := bind_check_eq_ok.mp h
  cases h
  exact bindResults_of_bound bound hf

theorem varintBytes_eq (value : Nat) : varintBytes value = varint value := by
  unfold varintBytes varint
  by_cases hzero : value = 0
  · subst hzero
    decide
  · simp only [if_neg hzero]
    omega

theorem lengthDelimitedFieldBytes_eq (payloadBytes : Nat) :
    lengthDelimitedFieldBytes payloadBytes = delimited payloadBytes := by
  unfold lengthDelimitedFieldBytes delimited
  rw [varintBytes_eq]

theorem boundArtifactSizes_eq_self {sizes : Nat × Nat}
    (bound : ∀ artifact ∈ artifacts, artifact.BoundTo resources)
    (encoded : ∀ artifact ∈ artifacts, delimited artifact.encodedLen ≤ sizes.1)
    (strings : ∀ artifact ∈ artifacts, artifactStringBytes artifact ≤ sizes.2) :
    boundArtifactSizes resources artifacts sizes = .ok sizes := by
  induction artifacts with
  | nil => rfl
  | cons artifact rest ih =>
    have hr := ih (fun other hm => bound other (mem_cons_of_mem _ hm))
      (fun other hm => encoded other (mem_cons_of_mem _ hm))
      (fun other hm => strings other (mem_cons_of_mem _ hm))
    unfold boundArtifactSizes
    cases hrsc : artifact.resource with
    | none => exact hr
    | some reference =>
      simp only [bound artifact mem_cons_self reference hrsc]
      have hencoded := encoded artifact mem_cons_self
      have hstrings := strings artifact mem_cons_self
      have hs : { artifact with resource := some reference } = artifact := by
        rw [← hrsc]
      have hpart : resourceStringBytes reference ≤ artifactStringBytes artifact := by
        unfold artifactStringBytes
        rw [hrsc]
        simp only [Option.elim_some]
        omega
      rw [hs, lengthDelimitedFieldBytes_eq, Nat.sub_add_cancel hencoded,
        Nat.sub_add_cancel (le_trans hpart hstrings)]
      exact hr

theorem boundResultSizes_eq
    (bound : ∀ result ∈ results, ∀ artifact ∈ result.artifacts, artifact.BoundTo resources)
    (fits : ∀ result ∈ results, result.encodedLen ≤ maxTaskResultEncodedBytes)
    (totals : Nat × Nat) :
    boundResultSizes resources results totals =
      .ok (totals.1 + (results.map TaskResult.encodedLen).sum,
        totals.2 + (results.map taskResultStringBytes).sum) := by
  induction results generalizing totals with
  | nil => rfl
  | cons result rest ih =>
    have hsizes : boundArtifactSizes resources result.artifacts
        (result.encodedLen, taskResultStringBytes result) =
        .ok (result.encodedLen, taskResultStringBytes result) := by
      apply boundArtifactSizes_eq_self (bound result mem_cons_self)
      · intro artifact hm
        have hpart : delimited artifact.encodedLen ≤
            repeatedField TaskArtifact.encodedLen result.artifacts :=
          le_sum_of_mem (mem_map_of_mem hm)
        unfold TaskResult.encodedLen
        omega
      · intro artifact hm
        have hpart : artifactStringBytes artifact ≤ (result.artifacts.map artifactStringBytes).sum :=
          le_sum_of_mem (mem_map_of_mem hm)
        unfold taskResultStringBytes
        omega
    have hr := ih
      (fun other hm => bound other (mem_cons_of_mem _ hm))
      (fun other hm => fits other (mem_cons_of_mem _ hm))
      (totals.1 + result.encodedLen, totals.2 + taskResultStringBytes result)
    have hfit := fits result mem_cons_self
    unfold boundResultSizes
    rw [hsizes]
    refine bind_eq_ok.mpr ⟨_, rfl, ?_⟩
    refine bind_check_eq_ok.mpr ⟨?_, ?_⟩
    · rw [reject_eq_ok]
      simpa using hfit
    · rw [hr]
      simp only [map_cons, sum_cons, Nat.add_assoc]

theorem validateAndBindResources_eq_self (sizes : SizesFit results resources)
    (h : WellBound results resources) :
    validateAndBindResources results resources = .ok results := by
  have hbd := bindResults_eq_self resources fun result hm =>
    ⟨h.uniqueArtifacts result hm, fun artifact hin =>
      ⟨h.artifacts result hm artifact hin, h.bound result hm artifact hin⟩⟩
  have hexpansion : validateBoundResourceExpansion results resources = .ok () := by
    unfold validateBoundResourceExpansion
    rw [boundResultSizes_eq h.bound fun result hm =>
      le_trans (encodedLen_le_projected result) (sizes.projectedResult result hm)]
    refine bind_eq_ok.mpr ⟨_, rfl, ?_⟩
    have hstrings := sizes.strings
    have hencoded := le_trans (encodedBytes_le_projected results resources) sizes.projected
    unfold taskOutputStringBytes at hstrings
    unfold taskOutputEncodedBytes at hencoded
    rw [bind_check_eq_ok, reject_eq_ok, reject_eq_ok]
    simp only [decide_eq_false_iff_not, gt_iff_lt, not_lt]
    omega
  unfold validateAndBindResources
  rw [bind_check_eq_ok, bind_check_eq_ok]
  refine ⟨?_, hexpansion, bind_eq_ok.mpr ⟨results, hbd, bind_check_eq_ok.mpr ⟨?_, rfl⟩⟩⟩
  · rw [validateResourceIdsFrom_eq_ok]
    exact ⟨h.uniqueResources, fun record hm => ⟨h.resourceIds record hm, not_mem_nil⟩⟩
  · rw [rejectFirst_eq_ok]
    intro record hm
    simpa using h.referenced record hm

/-- What the checks of a restore establish. -/
structure TaskOutputRecord.WellFormed (record : TaskOutputRecord) : Prop where
  sizes : SizesFit record.results record.resources
  uniqueResults : (record.results.map TaskResult.id).Nodup
  results : ∀ result ∈ record.results, result.Valid
  bindings : WellBound record.results record.resources
  revision : 1 ≤ record.revision
  snapshotId : resourceIdIsValid record.snapshotId = true
  primary : hasResult record.results record.primaryResultId = true ∨
    record.results = [] ∧ record.primaryResultId = ""

theorem isWhitespace_of_isIdChar {c : Char} (h : isIdChar c = true) : isWhitespace c = false := by
  have hc : c.isAlphanum = true ∨ c = '-' ∨ c = '_' := by
    simpa [isIdChar, or_assoc] using h
  rcases hc with hletter | rfl | rfl
  · have hval : (65 ≤ c.toNat ∧ c.toNat ≤ 90) ∨ (97 ≤ c.toNat ∧ c.toNat ≤ 122) ∨
        (48 ≤ c.toNat ∧ c.toNat ≤ 57) := by
      delta Char.isAlphanum Char.isAlpha Char.isUpper Char.isLower Char.isDigit at hletter
      simp only [Bool.or_eq_true, Bool.and_eq_true, decide_eq_true_eq, ge_iff_le,
        UInt32.le_iff_toNat_le] at hletter
      simp only [Char.toNat]
      have hA : ('A'.val).toNat = 65 := by decide
      have hZ : ('Z'.val).toNat = 90 := by decide
      have ha : ('a'.val).toNat = 97 := by decide
      have hz : ('z'.val).toNat = 122 := by decide
      have h0 : ('0'.val).toNat = 48 := by decide
      have h9 : ('9'.val).toNat = 57 := by decide
      omega
    simp only [isWhitespace, Bool.or_eq_false_iff, Bool.and_eq_false_iff, decide_eq_false_iff_not]
    omega
  · decide
  · decide

theorem trim_of_isIdChar {value : String} (h : value.toList.all isIdChar = true) :
    trim value = value :=
  trim_of_notWhitespace fun c hm =>
    isWhitespace_of_isIdChar (all_eq_true.mp h c hm)

theorem trim_ne_empty_of_valid (h : resourceIdIsValid id = true) : trim id ≠ "" := by
  simp only [resourceIdIsValid, Bool.and_eq_true, bne_iff_ne] at h
  rw [trim_of_isIdChar h.2]
  exact h.1.1

theorem hexDigit_mem (value : Nat) :
    hexDigit value ∈
      ['0', '1', '2', '3', '4', '5', '6', '7', '8', '9', 'a', 'b', 'c', 'd', 'e', 'f'] := by
  unfold hexDigit
  cases hf : (['0', '1', '2', '3', '4', '5', '6', '7', '8', '9', 'a', 'b', 'c', 'd', 'e',
      'f'][value]?) with
  | none => decide
  | some c => exact mem_of_getElem? hf

theorem hexDigit_isIdChar (value : Nat) :
    isIdChar (hexDigit value) = true ∧ (hexDigit value).utf8Size = 1 := by
  have hall : (['0', '1', '2', '3', '4', '5', '6', '7', '8', '9', 'a', 'b', 'c', 'd', 'e',
      'f'].all fun c => isIdChar c && c.utf8Size == 1) = true := by decide
  have hdigit := all_eq_true.mp hall (hexDigit value) (hexDigit_mem value)
  simpa only [Bool.and_eq_true, beq_iff_eq] using hdigit

theorem newSnapshotId_valid (uuid : BitVec 128) :
    resourceIdIsValid (newSnapshotId uuid) = true := by
  have hdigits : ∀ c ∈ (List.range 32).map
      (fun i => hexDigit (uuid.toNat / 16 ^ (31 - i) % 16)), isIdChar c = true ∧ c.utf8Size = 1 := by
    intro c hm
    obtain ⟨i, -, rfl⟩ := mem_map.mp hm
    exact hexDigit_isIdChar (uuid.toNat / 16 ^ (31 - i) % 16)
  have hsize : (simpleUuid uuid).utf8ByteSize = 32 := by
    unfold simpleUuid
    rw [Sha256.utf8ByteSize_ofList fun c hm => (hdigits c hm).2, length_map,
      length_range]
  unfold resourceIdIsValid newSnapshotId
  simp only [Bool.and_eq_true, bne_iff_ne, ne_eq, decide_eq_true_eq]
  refine ⟨⟨?_, ?_⟩, ?_⟩
  · intro he
    have hlen := congrArg String.utf8ByteSize he
    rw [String.utf8ByteSize_append, hsize] at hlen
    revert hlen
    decide
  · rw [String.utf8ByteSize_append, hsize]
    decide
  · rw [String.toList_append, all_append, Bool.and_eq_true]
    refine ⟨by decide, ?_⟩
    unfold simpleUuid
    rw [String.toList_ofList, all_eq_true]
    exact fun c hm => (hdigits c hm).1

theorem atLeastOne_pos (revision : UInt64) : 1 ≤ atLeastOne revision := by
  unfold atLeastOne
  split
  · decide
  next hne =>
    have hpos : revision.toNat ≠ 0 := fun hzero => hne (UInt64.toNat_inj.mp hzero)
    have hone : (1 : UInt64).toNat = 1 := rfl
    rw [UInt64.le_iff_toNat_le, hone]
    omega

theorem hasResult_eq_true : hasResult results id = true ↔ ∃ result ∈ results, result.id = id := by
  simp [hasResult]

theorem inferredPrimaryResultId_mem (h : results ≠ []) :
    hasResult results (inferredPrimaryResultId results) = true := by
  rw [hasResult_eq_true]
  unfold inferredPrimaryResultId
  cases hfind : results.find? isSuccessful with
  | some result => exact ⟨result, mem_of_find?_eq_some hfind, rfl⟩
  | none =>
    cases results with
    | nil => exact absurd rfl h
    | cons first rest => exact ⟨first, mem_cons_self, rfl⟩

theorem nonblank_of_hasResult (valid : ∀ result ∈ results, result.Valid)
    (h : hasResult results id = true) : id ≠ "" := by
  obtain ⟨result, hm, rfl⟩ := hasResult_eq_true.mp h
  intro he
  apply (valid result hm).named
  rw [he]
  decide

theorem restored_spec {revision : UInt64} {snapshotId primaryResultId : String} {legacyManaged : Bool}
    {uuid : BitVec 128} {record : TaskOutputRecord}
    (h : restored revision snapshotId primaryResultId results resources
      legacyManaged uuid = .ok record) : record.WellFormed := by
  unfold restored at h
  simp only [bind_check_eq_ok, validateCollectionSizes_eq_ok, validateResultIds_eq_ok] at h
  obtain ⟨-, ⟨hunique, hv⟩, h⟩ := h
  obtain ⟨bound, hbd, h⟩ := bind_eq_ok.mp h
  obtain ⟨hsizes, h⟩ := bind_check_eq_ok.mp h
  obtain ⟨snapshot, hsnap, h⟩ := bind_eq_ok.mp h
  obtain ⟨primary, hprim, h⟩ := bind_eq_ok.mp h
  cases h
  obtain ⟨hs, hbinds⟩ := validateAndBindResources_spec hbd
  have hboundValid := hs.valid hv
  have hsnapshotValid : resourceIdIsValid snapshot = true := by
    unfold restoredSnapshotId at hsnap
    split at hsnap
    · cases hsnap
      exact newSnapshotId_valid uuid
    · obtain ⟨hchecked, hsnap⟩ := bind_check_eq_ok.mp hsnap
      cases hsnap
      simpa [validateSnapshotId] using hchecked
  exact
    { sizes := validateCollectionSizes_eq_ok.mp hsizes
      uniqueResults := by
        rw [hs.ids]
        exact hunique
      results := hboundValid
      bindings := hbinds
      revision := atLeastOne_pos revision
      snapshotId := hsnapshotValid
      primary := by
        unfold restoredPrimaryResultId at hprim
        split at hprim
        · cases hprim
          by_cases he : bound = []
          · right
            subst he
            exact ⟨rfl, rfl⟩
          · exact .inl (inferredPrimaryResultId_mem he)
        · split at hprim
          · next hhas =>
              cases hprim
              exact .inl hhas
          · cases hprim }

theorem restored_self_iff (record : TaskOutputRecord) (uuid : BitVec 128) :
    restored record.revision record.snapshotId record.primaryResultId
      record.results record.resources record.legacyManaged uuid = .ok record ↔
        record.WellFormed := by
  constructor
  · exact restored_spec
  · intro h
    have hrev : atLeastOne record.revision = record.revision := by
      apply if_neg
      intro hzero
      have hpos := h.revision
      rw [hzero] at hpos
      revert hpos
      decide
    have hprim : restoredPrimaryResultId record.results record.primaryResultId =
        .ok record.primaryResultId := by
      unfold restoredPrimaryResultId
      cases h.primary with
      | inl hhas => rw [if_neg (nonblank_of_hasResult h.results hhas), if_pos hhas]
      | inr he =>
        rw [if_pos he.2, he.1, he.2]
        rfl
    unfold restored
    simp only [bind_check_eq_ok, validateCollectionSizes_eq_ok, validateResultIds_eq_ok]
    refine ⟨h.sizes, ⟨h.uniqueResults, h.results⟩, ?_⟩
    refine bind_eq_ok.mpr ⟨_, validateAndBindResources_eq_self h.sizes h.bindings, ?_⟩
    refine bind_check_eq_ok.mpr ⟨validateCollectionSizes_eq_ok.mpr h.sizes, ?_⟩
    refine bind_eq_ok.mpr ⟨record.snapshotId, ?_, ?_⟩
    · unfold restoredSnapshotId
      rw [if_neg (trim_ne_empty_of_valid h.snapshotId)]
      refine bind_check_eq_ok.mpr ⟨?_, rfl⟩
      simp [validateSnapshotId, h.snapshotId]
    · refine bind_eq_ok.mpr ⟨record.primaryResultId, hprim, ?_⟩
      rw [hrev]

end NetPlayer.Outputs
