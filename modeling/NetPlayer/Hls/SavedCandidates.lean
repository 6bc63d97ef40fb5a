import NetPlayer.Hls.PublicationChain

/-!
# Refreshed candidates survive later saves

A save with an older copy of a session keeps the addresses and headers that the
last refresh stored: the selected variant takes those of the stored one, and an
alternate those of the first stored alternate with its id.
-/

namespace NetPlayer.Hls

open Faulty Faulty.Program Transition List
open RangeCache (rangeMaxManifestBytes)

def requestCandidates (request : BilibiliMediaRequest) :
    String × List String × List BilibiliHttpHeader :=
  (request.url, request.backupUrls, request.headers)

def variantCandidates (variant : HlsVariant) :
    (String × List String × List BilibiliHttpHeader) ×
      Option (String × List String × List BilibiliHttpHeader) :=
  (requestCandidates variant.video.request,
    variant.audio.map fun audio => requestCandidates audio.request)

def IdsDecideCandidates (alternates : List HlsVariant) : Prop :=
  ∀ left ∈ alternates, ∀ right ∈ alternates, left.id = right.id →
    variantCandidates left = variantCandidates right

theorem idsDecide_of_nodup {alternates : List HlsVariant}
    (h : (alternates.map HlsVariant.id).Nodup) : IdsDecideCandidates alternates := by
  intro left hleft right hright hid
  rw [inj_on_of_nodup_map h hleft hright hid]

section

variable {incoming existing variant : HlsVariant} {alternates : List HlsVariant}

theorem preserveRequest_eq {incoming existing request : BilibiliMediaRequest}
    (hclear : clearRequest incoming = clearRequest request)
    (hcands : requestCandidates existing = requestCandidates request) :
    preserveRequestCandidates incoming existing = request := by
  cases incoming
  cases request
  simp_all [clearRequest, requestCandidates, preserveRequestCandidates]

theorem preserveResource_eq {incoming resource : HlsMediaResource}
    {existing : BilibiliMediaRequest} (hclear : incoming.binding = resource.binding)
    (hcands : requestCandidates existing = requestCandidates resource.request) :
    incoming.mapRequest (preserveRequestCandidates · existing) = resource := by
  obtain ⟨hid, hreq⟩ := HlsMediaResource.mk.inj hclear
  show HlsMediaResource.mk incoming.id (preserveRequestCandidates incoming.request existing) = _
  rw [preserveRequest_eq hreq hcands, hid]

/-- What a variant takes from an existing one whose candidates are those of `variant`. -/
theorem preserveVariant_eq (hclear : clearRequestUrlsAndHeaders incoming =
      clearRequestUrlsAndHeaders variant)
    (hcands : variantCandidates existing = variantCandidates variant) :
    preserveVariantRequestCandidates incoming existing = variant := by
  obtain ⟨id, bandwidth, codecs, width, height, duration, video, audio⟩ := incoming
  obtain ⟨id', bandwidth', codecs', width', height', duration', video', audio'⟩ := variant
  obtain ⟨rfl, rfl, rfl, rfl, rfl, rfl, hvideo, haudio⟩ := HlsVariant.mk.inj hclear
  obtain ⟨hvideoCandidates, haudioCandidates⟩ := Prod.mk.inj hcands
  have hnewVideo := preserveResource_eq hvideo hvideoCandidates
  unfold preserveVariantRequestCandidates
  simp only [hnewVideo, HlsVariant.mk.injEq, true_and]
  cases audio with
  | none =>
    cases audio' with
    | none => rfl
    | some kept => cases haudio
  | some audio =>
    cases audio' with
    | none => cases haudio
    | some kept =>
      cases hexisting : existing.audio with
      | none =>
        rw [hexisting] at haudioCandidates
        cases haudioCandidates
      | some stored =>
        rw [hexisting] at haudioCandidates
        exact congrArg some (preserveResource_eq (Option.some.inj haudio)
          (Option.some.inj haudioCandidates))

theorem preserveAlternate_eq (hids : IdsDecideCandidates alternates) (hm : variant ∈ alternates)
    (hclear : clearRequestUrlsAndHeaders incoming = clearRequestUrlsAndHeaders variant) :
    preserveAlternateRequestCandidates alternates incoming = variant := by
  have hid : incoming.id = variant.id := by
    have hfield := congrArg HlsVariant.id hclear
    exact hfield
  unfold preserveAlternateRequestCandidates
  cases hfind : alternates.find? (·.id == incoming.id) with
  | none =>
    have hn := List.find?_eq_none.mp hfind variant hm
    exact absurd (by simpa using hid.symm) hn
  | some existing =>
    have hexisting : existing.id = incoming.id := by simpa using List.find?_some hfind
    exact preserveVariant_eq hclear (hids existing (mem_of_find?_eq_some hfind) variant hm
      (hexisting.trans hid))

theorem preserveAlternates_perm {incoming : List HlsVariant} (hids : IdsDecideCandidates alternates)
    (hclr : (alternates.map clearRequestUrlsAndHeaders).Perm
      (incoming.map clearRequestUrlsAndHeaders)) :
    (incoming.map (preserveAlternateRequestCandidates alternates)).Perm alternates := by
  have hincoming : incoming.map (preserveAlternateRequestCandidates alternates) =
      (incoming.map clearRequestUrlsAndHeaders).map
        (preserveAlternateRequestCandidates alternates) := by
    rw [map_map]
    apply map_congr_left
    intro variant hm
    have hclr : clearRequestUrlsAndHeaders variant ∈
        alternates.map clearRequestUrlsAndHeaders :=
      hclr.mem_iff.mpr (mem_map_of_mem hm)
    obtain ⟨kept, hk, hs⟩ := mem_map.mp hclr
    rw [preserveAlternate_eq hids hk hs.symm, Function.comp_apply,
      preserveAlternate_eq hids hk (clear_clear.trans hs.symm)]
  have halts : (alternates.map clearRequestUrlsAndHeaders).map
      (preserveAlternateRequestCandidates alternates) = alternates := by
    rw [map_map]
    refine (map_congr_left ?_).trans (map_id alternates)
    intro variant hm
    exact preserveAlternate_eq hids hm clear_clear
  have hperm := hclr.symm.map (preserveAlternateRequestCandidates alternates)
  rw [← hincoming, halts] at hperm
  exact hperm

end

structure Carries (refreshed : HlsPlaybackSession) (persisted : PersistedHlsSession) : Prop where
  variant : persisted.variant = refreshed.variant
  alternates : persisted.alternateVariants.Perm refreshed.alternateVariants

def NoNewRefresh (_files : SessionFiles) : SessionAction → Prop
  | .call (.save _) _ => True
  | .call (.saveRefreshed _ _) (.raised _) => True
  | .call _ _ => False
  | .other => True

section

variable {sessionId : String} {files t : SessionFiles} {action : SessionAction}
  {refreshed expected replacement : HlsPlaybackSession}

theorem carries_written {persisted : PersistedHlsSession} {existing session : HlsPlaybackSession}
    (hids : IdsDecideCandidates refreshed.alternateVariants) (hcarries : Carries refreshed persisted)
    (hr : persisted.toSession = some existing)
    (hm : sessionRefreshMatches existing session = true) :
    Carries refreshed (.ofSession (preservePersistedRequestCandidates existing session)) := by
  have hexisting := toSession_some hr
  have hvar : existing.variant = refreshed.variant := by
    rw [hexisting]
    exact hcarries.variant
  have halts : existing.alternateVariants.Perm refreshed.alternateVariants := by
    rw [hexisting]
    exact hcarries.alternates
  have hexistingIds : IdsDecideCandidates existing.alternateVariants := by
    intro left hleft right hright
    exact hids left (halts.mem_iff.mp hleft) right (halts.mem_iff.mp hright)
  obtain ⟨hclear, hclr⟩ := refreshMatches_cleared hm
  constructor
  · have hk := preserveVariant_eq hclear.symm rfl
    exact hk.trans hvar
  · exact (preserveAlternates_perm hexistingIds hclr).trans halts

theorem carries_step (hids : IdsDecideCandidates refreshed.alternateVariants)
    (h : Guarded (SessionStep sessionId) NoNewRefresh files action t)
    (hcarries : ∃ persisted, files.session = some persisted ∧ Carries refreshed persisted) :
    ∃ persisted, t.session = some persisted ∧ Carries refreshed persisted := by
  obtain ⟨hst, hallowed⟩ := h
  obtain ⟨persisted, hpers, hcarries⟩ := hcarries
  rcases hst.effect with hs | ⟨call, outcome, rfl, -, hperm, hrepl⟩
  · exact ⟨persisted, hs.trans hpers, hcarries⟩
  cases call with
  | save session =>
    rcases hperm with hn | ⟨existing, hstored, hm⟩
    · rw [stored_none hn] at hpers
      cases hpers
    have hwrit : (SessionCall.save session).written files =
        preservePersistedRequestCandidates existing session := by
      simp only [SessionCall.written, hstored, hm, if_true]
    have hr := readForPublication_ok (stored_some hpers hstored)
    rw [hwrit] at hrepl
    exact ⟨_, hrepl, carries_written hids hcarries hr.2 hm⟩
  | saveRefreshed expected replacement =>
    cases outcome with
    | raised error =>
      rw [hst.raised]
      exact ⟨persisted, hpers, hcarries⟩
    | returned value | crashed => exact hallowed.elim
  | saveCompleted session | saveRestored completed item => exact hallowed.elim

theorem refreshed_stored (h : SessionStep sessionId files
    (.call (.saveRefreshed expected replacement) (.returned ())) t) :
    t.session = some (.ofSession replacement) := by
  rw [h.returned.2]
  rfl

/-- After a refresh, every save with an older copy keeps all the candidates it stored. -/
theorem refreshed_candidates_kept {mid : SessionFiles} {actions : List SessionAction}
    (hrefresh : SessionStep sessionId files
      (.call (.saveRefreshed expected replacement) (.returned ())) mid)
    (hids : IdsDecideCandidates replacement.alternateVariants)
    (hrun : Run (Guarded (SessionStep sessionId) NoNewRefresh) mid actions t) :
    ∃ persisted, t.session = some persisted ∧ Carries replacement persisted := by
  apply hrun.invariant
    (fun files => ∃ persisted, files.session = some persisted ∧ Carries replacement persisted)
  · intro _ _ _ hstep hcarries
    exact carries_step hids hstep hcarries
  · exact ⟨_, refreshed_stored hrefresh, rfl, List.Perm.refl _⟩

end

section

variable {files : SessionFiles} {existing session expected replacement : HlsPlaybackSession}

theorem refreshedSave_completes
    (hstored : storedSession expected.id files = .ok (some expected))
    (hid : expected.id = replacement.id)
    (hm : sessionRefreshMatches expected replacement = true) :
    Completes (saveRefreshedSession expected replacement) files () (files.install replacement) := by
  have hr : Completes (readSessionManifestForPublication expected.id) files (some expected)
      files := completes_inspect hstored
  have hbegin : Completes (beginSessionPublication .refresh) files () files := completes_inspect rfl
  have hvalidate : Completes (validateSessionPublication replacement .refresh) files () files := by
    unfold validateSessionPublication
    rw [← hid]
    exact Completes.bind hr (completes_demand hm)
  apply Completes.bind (completes_demand ⟨hid, hm⟩)
  apply Completes.bind hr
  apply Completes.bind (completes_pure expected files)
  apply Completes.bind (completes_demand rfl)
  apply Completes.bind hbegin
  apply Completes.bind hr
  apply Completes.bind (completes_pure expected files)
  apply Completes.bind (completes_demand rfl)
  exact Completes.bind hvalidate rfl

theorem matchingSave_completes
    (hstored : storedSession session.id files = .ok (some existing))
    (hm : sessionRefreshMatches existing session = true)
    (hpreserved : sessionRefreshMatches existing
      (preservePersistedRequestCandidates existing session) = true) :
    Completes (saveSession session) files ()
      (files.install (preservePersistedRequestCandidates existing session)) := by
  have hr : Completes (readSessionManifestForPublication session.id) files (some existing)
      files := completes_inspect hstored
  have hmode : Completes (sessionPublicationMode
      (preservePersistedRequestCandidates existing session) false) files .refresh files := by
    have hstage : sessionRefreshMismatchStage existing
        (preservePersistedRequestCandidates existing session) = none := by
      simpa [sessionRefreshMatches] using hpreserved
    apply Completes.bind hr
    simp only [hstage]
    exact completes_pure _ _
  have hbegin : Completes (beginSessionPublication .refresh) files () files := completes_inspect rfl
  have hvalidate : Completes (validateSessionPublication
      (preservePersistedRequestCandidates existing session) .refresh) files () files := by
    exact Completes.bind hr (completes_demand hpreserved)
  apply Completes.bind hr
  simp only [hm, if_true]
  apply Completes.bind hmode
  apply Completes.bind hbegin
  exact Completes.bind hvalidate rfl

end

def sampleAlternate (id resourceId url : String) : HlsVariant :=
  { sampleVariant url with
    id := id
    video := ⟨resourceId, sampleRequest .video url⟩ }

def switchable (firstId secondId firstUrl secondUrl : String) : HlsPlaybackSession :=
  { sampleSession "session" "https://cdn/a" with
    alternateVariants :=
      [sampleAlternate firstId "v1-video.m4s" firstUrl,
        sampleAlternate secondId "v2-video.m4s" secondUrl]
    transcoding := HlsTranscodingPlan.default }

section

variable {firstId secondId firstUrl secondUrl freshFirst freshSecond : String}

theorem switchable_storable : Storable (switchable firstId secondId firstUrl secondUrl) := by
  have hid : isCacheId "session" = true := by decide
  have hvideo : isCacheId "video.m4s" = true := by decide
  have hfst : isCacheId "v1-video.m4s" = true := by decide
  have hsnd : isCacheId "v2-video.m4s" = true := by decide
  refine ⟨⟨?_, withState_complete (by decide)⟩, hid⟩
  intro resource hm
  simp only [HlsPlaybackSession.resources, HlsPlaybackSession.resourceVariants, switchable,
    sampleSession, sampleVariant, sampleAlternate, HlsVariant.resources, flatMap_cons,
    flatMap_nil, Option.toList_none, append_nil, cons_append, nil_append,
    mem_cons, not_mem_nil, or_false] at hm
  rcases hm with rfl | rfl | rfl
  · exact hvideo
  · exact hfst
  · exact hsnd

theorem switchable_matches :
    sessionRefreshMatches (switchable firstId secondId firstUrl secondUrl)
      (switchable firstId secondId freshFirst freshSecond) = true := by
  apply sameBinding_refreshMatches
  simp only [sameHlsMediaRefreshBinding, beq_iff_eq]
  rfl

variable
  (hstored : storedSession "session" (noFiles.install (switchable firstId secondId firstUrl secondUrl)) = .ok (some (switchable firstId secondId firstUrl secondUrl)))
include hstored

theorem switchable_refreshed :
    SessionStep "session" (noFiles.install (switchable firstId secondId firstUrl secondUrl))
      (.call (.saveRefreshed (switchable firstId secondId firstUrl secondUrl)
        (switchable firstId secondId freshFirst freshSecond)) (.returned ()))
      (noFiles.install (switchable firstId secondId freshFirst freshSecond)) := by
  have hc := @SessionStep.call "session"
    (noFiles.install (switchable firstId secondId firstUrl secondUrl))
    (.saveRefreshed (switchable firstId secondId firstUrl secondUrl)
      (switchable firstId secondId freshFirst freshSecond)) [] rfl
  have hrun : saveRefreshedSession (switchable firstId secondId firstUrl secondUrl)
      (switchable firstId secondId freshFirst freshSecond)
      (noFiles.install (switchable firstId secondId firstUrl secondUrl)) [] =
        (.returned (), noFiles.install (switchable firstId secondId freshFirst freshSecond), []) :=
    refreshedSave_completes hstored rfl switchable_matches
  rw [SessionCall.perform, hrun] at hc
  exact hc

theorem switchable_saved {oldFirst oldSecond : String}
    (hpreserved : preservePersistedRequestCandidates
      (switchable firstId secondId firstUrl secondUrl)
      (switchable firstId secondId oldFirst oldSecond) =
        switchable firstId secondId freshFirst freshSecond) :
    SessionStep "session" (noFiles.install (switchable firstId secondId firstUrl secondUrl))
      (.call (.save (switchable firstId secondId oldFirst oldSecond)) (.returned ()))
      (noFiles.install (switchable firstId secondId freshFirst freshSecond)) := by
  have hc := @SessionStep.call "session"
    (noFiles.install (switchable firstId secondId firstUrl secondUrl))
    (.save (switchable firstId secondId oldFirst oldSecond)) [] rfl
  have hm : sessionRefreshMatches (switchable firstId secondId firstUrl secondUrl)
      (preservePersistedRequestCandidates (switchable firstId secondId firstUrl secondUrl)
        (switchable firstId secondId oldFirst oldSecond)) = true := by
    rw [hpreserved]
    exact switchable_matches
  have hcompls := matchingSave_completes hstored switchable_matches hm
  rw [hpreserved] at hcompls
  have hrun : saveSession (switchable firstId secondId oldFirst oldSecond)
      (noFiles.install (switchable firstId secondId firstUrl secondUrl)) [] =
        (.returned (), noFiles.install (switchable firstId secondId freshFirst freshSecond), []) :=
    hcompls
  rw [SessionCall.perform, hrun] at hc
  exact hc

end

/-- An instance with two ids: the refresh is followed by a save of the older session. -/
theorem refreshed_candidates_kept_two_ids :
    ∃ persisted, (noFiles.install (switchable "720p" "480p" "https://new/1" "https://new/2")).session
        = some persisted ∧
      Carries (switchable "720p" "480p" "https://new/1" "https://new/2") persisted := by
  have hold : storedSession "session"
      (noFiles.install (switchable "720p" "480p" "https://old/1" "https://old/2")) =
        .ok (some (switchable "720p" "480p" "https://old/1" "https://old/2")) :=
    (storedSession_written switchable_storable rfl).mpr (by decide +kernel)
  have hnew : storedSession "session"
      (noFiles.install (switchable "720p" "480p" "https://new/1" "https://new/2")) =
        .ok (some (switchable "720p" "480p" "https://new/1" "https://new/2")) :=
    (storedSession_written switchable_storable rfl).mpr (by decide +kernel)
  have hkept : preservePersistedRequestCandidates
      (switchable "720p" "480p" "https://new/1" "https://new/2")
      (switchable "720p" "480p" "https://old/1" "https://old/2") =
        switchable "720p" "480p" "https://new/1" "https://new/2" := by decide +kernel
  have hsaved := switchable_saved hnew hkept
  exact refreshed_candidates_kept (switchable_refreshed hold)
    (idsDecide_of_nodup (by decide)) (Run.single ⟨hsaved, trivial⟩)

/-- The candidates of the second alternate are replaced by those of the first. -/
theorem refreshed_candidates_mixed :
    SessionStep "session" (noFiles.install (switchable "720p" "720p" "https://old/1" "https://old/2"))
        (.call (.saveRefreshed (switchable "720p" "720p" "https://old/1" "https://old/2")
          (switchable "720p" "720p" "https://new/1" "https://new/2")) (.returned ()))
        (noFiles.install (switchable "720p" "720p" "https://new/1" "https://new/2")) ∧
      SessionStep "session"
        (noFiles.install (switchable "720p" "720p" "https://new/1" "https://new/2"))
        (.call (.save (switchable "720p" "720p" "https://old/1" "https://old/2")) (.returned ()))
        (noFiles.install (switchable "720p" "720p" "https://new/1" "https://new/1")) := by
  have hold : storedSession "session"
      (noFiles.install (switchable "720p" "720p" "https://old/1" "https://old/2")) =
        .ok (some (switchable "720p" "720p" "https://old/1" "https://old/2")) :=
    (storedSession_written switchable_storable rfl).mpr (by decide +kernel)
  have hnew : storedSession "session"
      (noFiles.install (switchable "720p" "720p" "https://new/1" "https://new/2")) =
        .ok (some (switchable "720p" "720p" "https://new/1" "https://new/2")) :=
    (storedSession_written switchable_storable rfl).mpr (by decide +kernel)
  have hmixed : preservePersistedRequestCandidates
      (switchable "720p" "720p" "https://new/1" "https://new/2")
      (switchable "720p" "720p" "https://old/1" "https://old/2") =
        switchable "720p" "720p" "https://new/1" "https://new/1" := by decide +kernel
  exact ⟨switchable_refreshed hold, switchable_saved hnew hmixed⟩

end NetPlayer.Hls
