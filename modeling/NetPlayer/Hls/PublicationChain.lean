import NetPlayer.Hls.SessionSaves
import NetPlayer.Library.Transition

/-!
# The chain of published sessions

From one removal of a session to the next, every published session is read back
as it was written, keeps the policy, and keeps every resource of the sessions
before it with the same binding.
-/

namespace NetPlayer.Hls

open Faulty Faulty.Program Transition List HlsPlaybackSession PersistedHlsSession
open RangeCache (SessionPublicationMode jsonLines jsonObject jsonString length_le_jsonString
  rangeMaxManifestBytes utf8)

def HlsMediaResource.binding (resource : HlsMediaResource) : HlsMediaResource :=
  resource.mapRequest clearRequest

def HlsPlaybackSession.bindings (session : HlsPlaybackSession) : List HlsMediaResource :=
  session.resources.map HlsMediaResource.binding

structure Keeps (session next : HlsPlaybackSession) : Prop where
  policy : next.effectivePolicy = session.effectivePolicy
  bindings : session.bindings ⊆ next.bindings

theorem Keeps.refl (session : HlsPlaybackSession) : Keeps session session :=
  ⟨rfl, List.Subset.refl _⟩

theorem Keeps.trans {session next last : HlsPlaybackSession} (first : Keeps session next)
    (second : Keeps next last) : Keeps session last :=
  ⟨second.policy.trans first.policy, fun _ h => second.bindings (first.bindings h)⟩

section

variable {session next existing completed incoming : HlsPlaybackSession} {variant : HlsVariant}

theorem resources_clear : (clearRequestUrlsAndHeaders variant).resources =
    variant.resources.map HlsMediaResource.binding := by
  unfold clearRequestUrlsAndHeaders HlsVariant.mapResources HlsVariant.resources
  cases variant.audio <;> rfl

theorem bindings_eq : session.bindings =
    (session.resourceVariants.map clearRequestUrlsAndHeaders).flatMap HlsVariant.resources := by
  unfold HlsPlaybackSession.bindings HlsPlaybackSession.resources
  rw [map_flatMap, flatMap_map]
  congr 1
  funext variant
  exact resources_clear.symm

/-- The cleared resource variants decide the bindings, in whatever order they come. -/
theorem bindings_subset (h : session.resourceVariants.map clearRequestUrlsAndHeaders ⊆
    next.resourceVariants.map clearRequestUrlsAndHeaders) : session.bindings ⊆ next.bindings := by
  rw [bindings_eq, bindings_eq]
  intro resource hm
  obtain ⟨variant, hvar, hrsc⟩ := mem_flatMap.mp hm
  exact mem_flatMap.mpr ⟨variant, h hvar, hrsc⟩

theorem bindings_of_cleared (hvar : clearRequestUrlsAndHeaders session.variant =
      clearRequestUrlsAndHeaders next.variant)
    (halts : (session.alternateVariants.map clearRequestUrlsAndHeaders).Perm
      (next.alternateVariants.map clearRequestUrlsAndHeaders)) :
    session.bindings ⊆ next.bindings := by
  apply bindings_subset
  unfold resourceVariants
  rw [map_cons, map_cons, hvar]
  exact (halts.cons _).subset

theorem cleared_of_bindings (hvar : (sessionBindings session).variant =
      (sessionBindings next).variant)
    (halts : (sessionBindings session).alternateVariants =
      (sessionBindings next).alternateVariants) :
    clearRequestUrlsAndHeaders session.variant = clearRequestUrlsAndHeaders next.variant ∧
      (session.alternateVariants.map clearRequestUrlsAndHeaders).Perm
        (next.alternateVariants.map clearRequestUrlsAndHeaders) := by
  rw [sessionBindings_eq, sessionBindings_eq] at hvar halts
  refine ⟨hvar, ?_⟩
  have hsorted := mergeSort_perm (session.alternateVariants.map clearRequestUrlsAndHeaders)
    variantIdLe
  have hsortedNext := mergeSort_perm (next.alternateVariants.map clearRequestUrlsAndHeaders)
    variantIdLe
  simp only at halts
  rw [halts] at hsorted
  exact hsorted.symm.trans hsortedNext

theorem refreshMatches_cleared (h : sessionRefreshMatches session next = true) :
    clearRequestUrlsAndHeaders session.variant = clearRequestUrlsAndHeaders next.variant ∧
      (session.alternateVariants.map clearRequestUrlsAndHeaders).Perm
        (next.alternateVariants.map clearRequestUrlsAndHeaders) := by
  have hbinds := sessionRefreshMatches_iff.mp h
  exact cleared_of_bindings (congrArg HlsPlaybackSession.variant hbinds)
    (congrArg alternateVariants hbinds)

theorem refreshMatches_keeps (h : sessionRefreshMatches session next = true) :
    Keeps session next := by
  obtain ⟨hvar, halts⟩ := refreshMatches_cleared h
  have hpolicy := congrArg HlsPlaybackSession.effectivePolicy (sessionRefreshMatches_iff.mp h)
  exact ⟨hpolicy.symm, bindings_of_cleared hvar halts⟩

theorem completionMatches_keeps (h : sessionCompletionMatches existing completed = true) :
    Keeps existing completed := by
  unfold sessionCompletionMatches at h
  split at h
  · cases h
  rename_i hs
  have hbinds := beq_iff_eq.mp h
  have hvar : (sessionBindings existing).variant = (sessionBindings completed).variant := by
    have hfield := congrArg HlsPlaybackSession.variant hbinds
    exact hfield
  have halts : (sessionBindings existing).alternateVariants =
      (sessionBindings completed).alternateVariants := by
    have hfield := congrArg alternateVariants hbinds
    exact hfield
  obtain ⟨hclr, hperm⟩ := cleared_of_bindings hvar halts
  refine ⟨?_, bindings_of_cleared hclr hperm⟩
  by_contra hpolicy
  exact hs (.inr fun h => hpolicy h.symm)

theorem scrubMatches_binding {left right : HlsMediaResource}
    (h : resourceBindingsMatchAfterHeaderScrub left right = true) :
    left.binding = right.binding := by
  unfold resourceBindingsMatchAfterHeaderScrub mediaResourceBindingMismatchStage at h
  split at h
  · cases h
  rename_i hid
  split at h
  · cases h
  rename_i hk
  split at h
  · cases h
  rename_i hproperties
  obtain ⟨leftId, left⟩ := left
  obtain ⟨rightId, right⟩ := right
  simp only [clearRequestHeaders, HlsMediaResource.mapRequest, ne_eq, not_or, not_not]
    at hid hk hproperties
  obtain ⟨hkind, hstream, hmime, hcodecs, hbandwidth, hwidth, hheight, hrate, hsize,
    hdur, -⟩ := hproperties
  simp [HlsMediaResource.binding, HlsMediaResource.mapRequest, clearRequest, hid, hk,
    hkind, hstream, hmime, hcodecs, hbandwidth, hwidth, hheight, hrate, hsize, hdur]

theorem preservesBindings_resources {left right : HlsVariant}
    (h : variantsPreserveResourceBindings left right = true) :
    left.resources.map HlsMediaResource.binding = right.resources.map HlsMediaResource.binding := by
  simp only [variantsPreserveResourceBindings, Bool.and_eq_true] at h
  obtain ⟨⟨-, hvideo⟩, haudio⟩ := h
  have hvideo := scrubMatches_binding hvideo
  unfold HlsVariant.resources
  rw [map_cons, map_cons, hvideo]
  split at haudio
  · rename_i leftAudio rightAudio hleft hright
    rw [hleft, hright]
    simp [scrubMatches_binding haudio]
  · rename_i hleft hright
    rw [hleft, hright]
  · cases haudio

theorem transcodeMatches_keeps (h : transcodeBindingsMatch existing completed = true) :
    Keeps existing completed := by
  unfold transcodeBindingsMatch at h
  split at h
  · cases h
  rename_i hs
  simp only [not_or, not_not] at hs
  refine ⟨hs.2.1.symm, ?_⟩
  simp only [Bool.and_eq_true, all_eq_true, any_eq_true] at h
  intro binding hm
  obtain ⟨resource, hrsc, rfl⟩ := mem_map.mp hm
  obtain ⟨source, hsrc, hin⟩ := mem_flatMap.mp hrsc
  obtain ⟨candidate, hcand, hpreserves⟩ := h.1 source hsrc
  have hbind : resource.binding ∈ candidate.resources.map HlsMediaResource.binding := by
    rw [← preservesBindings_resources hpreserves]
    exact mem_map_of_mem hin
  obtain ⟨kept, hk, hsameBinding⟩ := mem_map.mp hbind
  rw [← hsameBinding]
  exact mem_map_of_mem
    (mem_flatMap.mpr ⟨candidate, mem_cons_of_mem _ hcand, hk⟩)

theorem clear_clear : clearRequestUrlsAndHeaders (clearRequestUrlsAndHeaders variant) =
    clearRequestUrlsAndHeaders variant := by
  unfold clearRequestUrlsAndHeaders
  rw [mapResources_mapResources]
  rfl

theorem sanitized_variant : (sanitizedCompletedSession session).variant =
    clearRequestUrlsAndHeaders session.variant :=
  clear_clear

theorem sanitized_alternates : (sanitizedCompletedSession session).alternateVariants =
    session.alternateVariants.map clearRequestUrlsAndHeaders := rfl

theorem sanitized_keeps : Keeps session (sanitizedCompletedSession session) := by
  refine ⟨rfl, bindings_of_cleared ?_ (List.Perm.of_eq ?_)⟩
  · rw [sanitized_variant, clear_clear]
  · rw [sanitized_alternates, map_map]
    exact map_congr_left fun _ _ => clear_clear.symm

theorem sourceRestore_keeps : Keeps session (sourceCompletedSessionForRestore session) := by
  unfold sourceCompletedSessionForRestore
  split
  · exact ⟨rfl, List.Subset.refl _⟩
  · exact Keeps.refl _

theorem clear_preserveVariant {other : HlsVariant} :
    clearRequestUrlsAndHeaders (preserveVariantRequestCandidates variant other) =
      clearRequestUrlsAndHeaders variant := by
  unfold preserveVariantRequestCandidates clearRequestUrlsAndHeaders HlsVariant.mapResources
  cases variant.audio <;> cases other.audio <;> rfl

theorem clear_preserveAlternate {others : List HlsVariant} :
    clearRequestUrlsAndHeaders (preserveAlternateRequestCandidates others variant) =
      clearRequestUrlsAndHeaders variant := by
  unfold preserveAlternateRequestCandidates
  split
  · exact clear_preserveVariant
  · rfl

theorem preserve_bindings :
    (preservePersistedRequestCandidates existing incoming).bindings = incoming.bindings := by
  rw [bindings_eq, bindings_eq]
  unfold resourceVariants preservePersistedRequestCandidates
  rw [map_cons, map_cons, map_map, clear_preserveVariant]
  congr 2
  exact map_congr_left fun _ _ => clear_preserveAlternate

theorem preserve_keeps (h : sessionRefreshMatches existing incoming = true) :
    Keeps existing (preservePersistedRequestCandidates existing incoming) := by
  obtain ⟨hpolicy, hbinds⟩ := refreshMatches_keeps h
  refine ⟨hpolicy, ?_⟩
  rw [preserve_bindings]
  exact hbinds

variable {files : SessionFiles} {call : SessionCall}

theorem written_keeps (h : call.Permitted files)
    (hstor : storedSession call.session.id files = .ok (some existing)) :
    Keeps existing (call.written files) := by
  cases call with
  | save session =>
    have hwrit : (SessionCall.save session).written files =
        if sessionRefreshMatches existing session then
          preservePersistedRequestCandidates existing session
        else session := by
      simp only [SessionCall.session] at hstor
      simp only [SessionCall.written, hstor]
    rcases h with hn | ⟨other, ho, hm⟩
    · cases hstor.symm.trans hn
    · cases hstor.symm.trans ho
      rw [hwrit, if_pos hm]
      exact preserve_keeps hm
  | saveRefreshed expected replacement =>
    obtain ⟨hexpd, hid, hm⟩ := h
    rw [hid] at hexpd
    cases hstor.symm.trans hexpd
    exact refreshMatches_keeps hm
  | saveCompleted session =>
    rcases h with hn | ⟨other, ho, hproved⟩
    · cases hstor.symm.trans hn
    cases hstor.symm.trans ho
    rcases hproved with hcompn | htranscode
    · exact completionMatches_keeps hcompn
    · exact transcodeMatches_keeps htranscode
  | saveRestored completed item =>
    obtain ⟨other, ho, hr⟩ := h
    cases hstor.symm.trans ho
    show Keeps existing (sanitizedCompletedSession completed)
    rw [← hr]
    exact sourceRestore_keeps.trans sanitized_keeps

theorem bindings_ids : session.bindings.map HlsMediaResource.id =
    session.resources.map HlsMediaResource.id := by
  unfold HlsPlaybackSession.bindings
  rw [map_map]
  rfl

theorem WellFormed.of_bindings (h : WellFormed session) (hbinds : next.bindings ⊆ session.bindings)
    (hp : next.transcoding = session.transcoding) : WellFormed next := by
  refine ⟨?_, hp ▸ h.transcoding⟩
  intro resource hm
  have hid : resource.id ∈ session.resources.map HlsMediaResource.id := by
    rw [← bindings_ids]
    exact mem_map.mpr ⟨resource.binding, hbinds (mem_map_of_mem hm), rfl⟩
  obtain ⟨kept, hk, hs⟩ := mem_map.mp hid
  rw [← hs]
  exact h.resources kept hk

theorem sanitized_bindings : (sanitizedCompletedSession session).bindings ⊆ session.bindings := by
  apply bindings_of_cleared
  · rw [sanitized_variant, clear_clear]
  · rw [sanitized_alternates, map_map]
    exact List.Perm.of_eq (map_congr_left fun _ _ => clear_clear)

theorem written_wellFormed (h : WellFormed call.session) : WellFormed (call.written files) := by
  cases call with
  | save session =>
    simp only [SessionCall.written]
    split
    · rename_i existing _
      split
      · have hsub : (preservePersistedRequestCandidates existing session).bindings ⊆
            session.bindings := by
          rw [preserve_bindings]
          exact List.Subset.refl _
        exact WellFormed.of_bindings h hsub rfl
      · exact h
    · exact h
  | saveRefreshed expected replacement => exact h
  | saveCompleted session => exact h.of_bindings sanitized_bindings rfl
  | saveRestored completed item => exact h.of_bindings sanitized_bindings rfl

theorem written_id : (call.written files).id = call.session.id := by
  cases call with
  | save session =>
    simp only [SessionCall.written]
    split
    · split <;> rfl
    · rfl
  | saveRefreshed expected replacement | saveCompleted session | saveRestored completed item => rfl

theorem stored_isCacheId {sessionId : String} {found : Option HlsPlaybackSession}
    (h : storedSession sessionId files = .ok found) : isCacheId sessionId = true := by
  by_contra hinvalid
  simp [storedSession, validateCacheId, hinvalid] at h

theorem permitted_isCacheId (h : call.Permitted files) : isCacheId call.session.id = true := by
  cases call with
  | save session | saveCompleted session =>
    rcases h with hn | ⟨_, hstor, -⟩
    · exact stored_isCacheId hn
    · exact stored_isCacheId hstor
  | saveRefreshed expected replacement =>
    obtain ⟨hstor, hid, -⟩ := h
    rw [hid] at hstor
    exact stored_isCacheId hstor
  | saveRestored completed item =>
    obtain ⟨_, hstor, -⟩ := h
    exact stored_isCacheId hstor

end

inductive SessionAction
  | call (call : SessionCall) (outcome : Outcome SessionError Unit)
  | other

inductive SessionStep (sessionId : String) : SessionFiles → SessionAction → SessionFiles → Prop
  | call {files : SessionFiles} (call : SessionCall) (verdicts : List Verdict)
      (same : call.session.id = sessionId) :
      SessionStep sessionId files (.call call (call.perform files verdicts).1)
        (call.perform files verdicts).2.1
  | other {files t : SessionFiles} (same : t.session = files.session) :
      SessionStep sessionId files .other t

section

variable {sessionId : String} {files t : SessionFiles} {action : SessionAction}
  {actions : List SessionAction}

/-- A step leaves `session.json` alone or is a permitted call that replaced it. -/
theorem SessionStep.effect (h : SessionStep sessionId files action t) :
    t.session = files.session ∨
      ∃ call outcome, action = .call call outcome ∧ call.session.id = sessionId ∧
        call.Permitted files ∧ t.session = some (.ofSession (call.written files)) := by
  cases h with
  | other same => exact .inl same
  | call call verdicts same =>
    have hends := @ends_perform files call verdicts
    revert hends
    cases (call.perform files verdicts).1 with
    | returned value =>
      intro hends
      exact .inr ⟨call, _, rfl, same, hends.1, by rw [hends.2]; rfl⟩
    | raised error =>
      intro hends
      exact .inl (congrArg SessionFiles.session hends)
    | crashed =>
      rintro (hs | ⟨hperm, hinst⟩)
      · exact .inl (congrArg SessionFiles.session hs)
      · exact .inr ⟨call, _, rfl, same, hperm, by rw [hinst]; rfl⟩

variable {call : SessionCall}

theorem SessionStep.raised {error : SessionError}
    (h : SessionStep sessionId files (.call call (.raised error)) t) : t = files := by
  generalize haction : SessionAction.call call (.raised error) = action at h
  cases h with
  | other same => cases haction
  | call other verdicts same =>
    obtain ⟨rfl, houtc⟩ := SessionAction.call.inj haction
    have hends := @ends_perform files call verdicts
    rw [← houtc] at hends
    exact hends

theorem SessionStep.returned (h : SessionStep sessionId files (.call call (.returned ())) t) :
    call.Permitted files ∧ t = files.install (call.written files) := by
  generalize haction : SessionAction.call call (.returned ()) = action at h
  cases h with
  | other same => cases haction
  | call other verdicts same =>
    obtain ⟨rfl, houtc⟩ := SessionAction.call.inj haction
    have hends := @ends_perform files call verdicts
    rw [← houtc] at hends
    exact hends

theorem stored_none (h : storedSession sessionId files = .ok none) : files.session = none := by
  unfold storedSession at h
  split at h
  · cases h
  · assumption
  rename_i persisted _ hpers
  cases hr : readForPublication sessionId persisted with
  | error error | ok session =>
    rw [hr] at h
    cases h

variable {persisted : PersistedHlsSession}

theorem stored_some {existing : HlsPlaybackSession} (hpers : files.session = some persisted)
    (h : storedSession sessionId files = .ok (some existing)) :
    readForPublication sessionId persisted = .ok existing := by
  unfold storedSession at h
  rw [hpers] at h
  cases hv : validateCacheId sessionId with
  | error error =>
    rw [hv] at h
    cases h
  | ok _ =>
    simp only [hv] at h
    cases hr : readForPublication sessionId persisted with
    | error error =>
      rw [hr] at h
      cases h
    | ok session =>
      rw [hr] at h
      cases h
      rfl

theorem stored_keeps {existing : HlsPlaybackSession} (hpers : files.session = some persisted)
    (h : storedSession sessionId files = .ok (some existing)) :
    Keeps persisted.toHlsPlaybackSession existing := by
  have hr := readForPublication_ok (stored_some hpers h)
  rw [toSession_some hr.2]
  exact ⟨rfl, List.Subset.refl _⟩

theorem permitted_stored (h : call.Permitted files) :
    files.session = none ∨
      ∃ existing, storedSession call.session.id files = .ok (some existing) := by
  cases call with
  | save session | saveCompleted session =>
    rcases h with hn | ⟨existing, hstor, -⟩
    · exact .inl (stored_none hn)
    · exact .inr ⟨existing, hstor⟩
  | saveRefreshed expected replacement =>
    obtain ⟨hstor, hid, -⟩ := h
    rw [hid] at hstor
    exact .inr ⟨expected, hstor⟩
  | saveRestored completed item =>
    obtain ⟨existing, hstor, -⟩ := h
    exact .inr ⟨existing, hstor⟩

theorem SessionStep.keeps (h : SessionStep sessionId files action t)
    (hpers : files.session = some persisted) :
    ∃ next, t.session = some next ∧
      Keeps persisted.toHlsPlaybackSession next.toHlsPlaybackSession := by
  rcases h.effect with hs | ⟨call, outcome, -, hid, hperm, hwrit⟩
  · exact ⟨persisted, hs.trans hpers, Keeps.refl _⟩
  refine ⟨_, hwrit, ?_⟩
  rcases permitted_stored hperm with hn | ⟨existing, hstor⟩
  · rw [hpers] at hn
    cases hn
  · exact (stored_keeps hpers hstor).trans (written_keeps hperm hstor)

def WellFormedCalls (_files : SessionFiles) : SessionAction → Prop
  | .call call _ => WellFormed call.session
  | .other => True

/-- And what they write fits in the file that is read back. -/
def ShortCalls (files : SessionFiles) : SessionAction → Prop
  | .call call _ => WellFormed call.session ∧
      (ofSession (call.written files)).fileLength ≤ rangeMaxManifestBytes
  | .other => True

def Written (sessionId : String) (files : SessionFiles) : Prop :=
  ∀ persisted, files.session = some persisted → ∃ session,
    persisted = .ofSession session ∧ Storable session ∧ session.id = sessionId

theorem written_step (h : Guarded (SessionStep sessionId) WellFormedCalls files action t)
    (hwrit : Written sessionId files) : Written sessionId t := by
  obtain ⟨hst, hformed⟩ := h
  rcases hst.effect with hs | ⟨call, outcome, rfl, hid, hperm, hrepl⟩
  · intro persisted hpers
    exact hwrit persisted (hs ▸ hpers)
  intro persisted hpers
  obtain rfl := Option.some.inj (hrepl.symm.trans hpers)
  have hv : isCacheId (call.written files).id = true := by
    rw [written_id]
    exact permitted_isCacheId hperm
  exact ⟨call.written files, rfl, ⟨written_wellFormed hformed, hv⟩, written_id.trans hid⟩

theorem short_step (h : Guarded (SessionStep sessionId) ShortCalls files action t)
    (hshort : ∀ persisted, files.session = some persisted →
      persisted.fileLength ≤ rangeMaxManifestBytes) :
    ∀ persisted, t.session = some persisted → persisted.fileLength ≤ rangeMaxManifestBytes := by
  obtain ⟨hst, hallowed⟩ := h
  rcases hst.effect with hs | ⟨call, outcome, rfl, -, -, hrepl⟩
  · rw [hs]
    exact hshort
  · intro persisted hpers
    obtain rfl := Option.some.inj (hrepl.symm.trans hpers)
    exact hallowed.2

theorem Run.wellFormed (run : Run (Guarded (SessionStep sessionId) ShortCalls) files actions t) :
    Run (Guarded (SessionStep sessionId) WellFormedCalls) files actions t := by
  induction run with
  | nil => exact .nil _
  | @snoc _ _ _ action _ hst ih =>
    refine .snoc ih ⟨hst.1, ?_⟩
    cases action with
    | call call outcome => exact hst.2.1
    | other => trivial

theorem storedSession_written {session : HlsPlaybackSession} (hstorable : Storable session)
    (hfile : files.session = some (.ofSession session)) :
    storedSession session.id files = .ok (some session) ↔
      (ofSession session).fileLength ≤ rangeMaxManifestBytes := by
  rw [← hstorable.readForPublication]
  have hv : validateCacheId session.id = .ok () := if_pos hstorable.id
  constructor
  · exact stored_some hfile
  · intro hr
    simp only [storedSession, hv, hfile, hr]
    rfl

end

/-- Between two removals, every published session is loaded as it was written, and the next
publication reads it so exactly when the file is not too long; a call that fails changes
nothing; the policy and the bindings of all resources are kept. -/
theorem session_publication_chain (sessionId : String) :
    (∀ {files t : SessionFiles} {actions : List SessionAction}, files.session = none →
      Run (Guarded (SessionStep sessionId) ShortCalls) files actions t →
      ∀ persisted, t.session = some persisted → ∃ session,
        persisted = .ofSession session ∧ loadFromDirectory sessionId persisted = some session ∧
          storedSession sessionId t = .ok (some session)) ∧
    (∀ {files t : SessionFiles} {actions : List SessionAction}, files.session = none →
      Run (Guarded (SessionStep sessionId) WellFormedCalls) files actions t →
      ∀ persisted, t.session = some persisted → ∃ session,
        persisted = .ofSession session ∧ loadFromDirectory sessionId persisted = some session ∧
          (storedSession sessionId t = .ok (some session) ↔
            persisted.fileLength ≤ rangeMaxManifestBytes)) ∧
    (∀ {files t : SessionFiles} {call : SessionCall} {error : SessionError},
      SessionStep sessionId files (.call call (.raised error)) t → t = files) ∧
    (∀ {files t : SessionFiles} {actions : List SessionAction},
      Run (SessionStep sessionId) files actions t →
      ∀ persisted, files.session = some persisted → ∃ next, t.session = some next ∧
        Keeps persisted.toHlsPlaybackSession next.toHlsPlaybackSession) := by
  have hread : ∀ {files t : SessionFiles} {actions : List SessionAction}, files.session = none →
      Run (Guarded (SessionStep sessionId) WellFormedCalls) files actions t →
      ∀ persisted, t.session = some persisted → ∃ session,
        persisted = .ofSession session ∧ loadFromDirectory sessionId persisted = some session ∧
          (storedSession sessionId t = .ok (some session) ↔
            persisted.fileLength ≤ rangeMaxManifestBytes) := by
    intro files t actions hempty hrun persisted hpersisted
    have hwritten : Written sessionId t :=
      hrun.invariant (Written sessionId) (fun hstep h => written_step hstep h)
        fun _ h => by rw [hempty] at h; cases h
    obtain ⟨session, rfl, hstorable, rfl⟩ := hwritten persisted hpersisted
    exact ⟨session, rfl, hstorable.loadFromDirectory, storedSession_written hstorable hpersisted⟩
  refine ⟨?_, hread, fun h => h.raised, ?_⟩
  · intro files t actions hempty hrun persisted hpersisted
    have hshort := hrun.invariant
      (fun files => ∀ persisted, files.session = some persisted →
        persisted.fileLength ≤ rangeMaxManifestBytes)
      (fun hstep h => short_step hstep h) (fun _ h => by rw [hempty] at h; cases h)
    obtain ⟨session, hsession, hload, hstored⟩ := hread hempty (Run.wellFormed hrun) persisted
      hpersisted
    exact ⟨session, hsession, hload, hstored.mpr (hshort persisted hpersisted)⟩
  · intro files t actions hrun persisted hpersisted
    exact hrun.invariant
      (fun files => ∃ next, files.session = some next ∧
        Keeps persisted.toHlsPlaybackSession next.toHlsPlaybackSession)
      (fun hstep h => by
        obtain ⟨middle, hmiddle, hkeeps⟩ := h
        obtain ⟨next, hnext, hkept⟩ := hstep.keeps hmiddle
        exact ⟨next, hnext, hkeeps.trans hkept⟩)
      ⟨persisted, hpersisted, Keeps.refl _⟩

theorem length_le_jsonLines {indent : Nat} {opening closing : UInt8} {items : List Bytes}
    {item : Bytes} (h : item ∈ items) :
    item.length ≤ (jsonLines indent opening closing items).length := by
  unfold jsonLines
  have hjoined : item.length ≤ (List.intercalate [0x2c, 0x0a]
      (items.map fun item => List.replicate (indent + 2) 0x20 ++ item)).length := by
    induction items with
    | nil => cases h
    | cons first rest ih =>
      cases rest with
      | nil =>
        obtain rfl := mem_singleton.mp h
        simp
      | cons second rest =>
        rw [map_cons, map_cons, intercalate_cons_cons]
        rcases mem_cons.mp h with rfl | hr
        · simp only [length_append]
          omega
        have hl := ih hr
        rw [map_cons] at hl
        simp only [length_append]
        omega
  simp only [length_cons, length_append]
  omega

theorem length_le_jsonObject {indent : Nat} {fields : List (String × Bytes)} {name : String}
    {value : Bytes} (h : (name, value) ∈ fields) :
    value.length ≤ (jsonObject indent fields).length := by
  have hi : jsonString name ++ utf8 ": " ++ value ∈
      fields.map fun field => jsonString field.1 ++ utf8 ": " ++ field.2 :=
    mem_map.mpr ⟨_, h, rfl⟩
  have hlines : (jsonString name ++ utf8 ": " ++ value).length ≤
      (jsonObject indent fields).length := length_le_jsonLines hi
  rw [length_append] at hlines
  omega

theorem title_lt_fileLength {persisted : PersistedHlsSession} :
    persisted.title.utf8ByteSize < persisted.fileLength := by
  have hfield : (jsonString persisted.title).length ≤ persisted.toVecPretty.length := by
    exact @length_le_jsonObject 0 _ "title" _ (by simp)
  have htitle := @length_le_jsonString persisted.title
  unfold PersistedHlsSession.fileLength
  omega

theorem firstSave_completes {session : HlsPlaybackSession} {files : SessionFiles}
    (hfiles : files.session = none) (hid : isCacheId session.id = true) :
    Completes (saveSession session) files () (files.install session) := by
  have hstor : storedSession session.id files = .ok none := by
    simp [storedSession, validateCacheId, hid, hfiles]
  have hr : Completes (readSessionManifestForPublication session.id) files none files :=
    completes_inspect hstor
  have hmode : Completes (sessionPublicationMode session false) files .fresh files := by
    exact Completes.bind hr (completes_pure _ _)
  have hbegin : Completes (beginSessionPublication .fresh) files () files := completes_inspect rfl
  have hvalidate : Completes (validateSessionPublication session .fresh) files () files := by
    exact Completes.bind hr (completes_pure _ _)
  have hwrite : Completes (writeSessionJsonAtomically session) files () (files.install session) :=
    rfl
  apply Completes.bind hr
  apply Completes.bind hmode
  apply Completes.bind hbegin
  exact Completes.bind hvalidate hwrite

def noFiles : SessionFiles := ⟨none, fun _ => none, fun _ => none⟩

def longSession : HlsPlaybackSession :=
  { sampleSession "session" "https://cdn/a" with
    title := String.ofList (List.replicate rangeMaxManifestBytes 'a')
    transcoding := HlsTranscodingPlan.default }

theorem longSession_storable : Storable longSession := by
  refine ⟨⟨?_, withState_complete (by decide)⟩, by decide⟩
  intro resource hm
  obtain rfl : resource = ⟨"video.m4s", sampleRequest .video "https://cdn/a"⟩ := by
    simpa [HlsPlaybackSession.resources, resourceVariants, longSession,
      sampleSession, sampleVariant, HlsVariant.resources] using hm
  decide

/-- A call stores the session, and the next one cannot read it. -/
theorem long_session_refused :
    Run (Guarded (SessionStep "session") WellFormedCalls) noFiles
        [.call (.save longSession) (.returned ())] (noFiles.install longSession) ∧
      storedSession "session" (noFiles.install longSession) = .error .sizeBound := by
  have hid : isCacheId longSession.id = true := longSession_storable.id
  have hsaved : saveSession longSession noFiles [] =
      (.returned (), noFiles.install longSession, []) := firstSave_completes rfl hid
  have hstep : SessionStep "session" noFiles (.call (.save longSession) (.returned ()))
      (noFiles.install longSession) := by
    have hcall := @SessionStep.call "session" noFiles (.save longSession) [] rfl
    rw [SessionCall.perform, hsaved] at hcall
    exact hcall
  refine ⟨Run.single ⟨hstep, longSession_storable.toWellFormed⟩, ?_⟩
  have htitle : longSession.title.utf8ByteSize = rangeMaxManifestBytes := by
    unfold longSession
    rw [Sha256.utf8ByteSize_ofList, length_replicate]
    intro c hc
    rw [eq_of_mem_replicate hc]
    rfl
  have hlong : rangeMaxManifestBytes < (ofSession longSession).fileLength := by
    have hlength := @title_lt_fileLength (.ofSession longSession)
    rw [← htitle]
    exact hlength
  have hvalid : validateCacheId "session" = .ok () := if_pos hid
  simp only [storedSession, hvalid, SessionFiles.install, readForPublication, if_pos hlong]
  rfl

end NetPlayer.Hls
