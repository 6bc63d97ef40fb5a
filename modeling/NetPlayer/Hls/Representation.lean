import Mathlib.Data.List.Forall2
import NetPlayer.Hls.Adapter
import NetPlayer.Hls.Bindings

/-!
# Refreshing a session from a plan

A refresh replaces the addresses and headers of a session's requests by those of
a new plan for the same content. It goes through only when each representation
the session was accepted with is found exactly once in the plan.
-/

namespace NetPlayer.Hls

open List BilibiliContentIdentity HlsPlaybackSession HlsVariant

/-- `bvid.trim().is_empty()` of a present id. -/
def blankBvid (bvid : Option String) : Bool := bvid.any fun bvid => trim bvid = ""

def BilibiliContentIdentity.isComplete (identity : BilibiliContentIdentity) : Bool :=
  if identity.aid = some 0 ∨ identity.cid = some 0 ∨ identity.epid = some 0 ∨
      blankBvid identity.bvid then
    false
  else
    let aidOrBvid := identity.aid.isSome || (identity.bvid.isSome && !blankBvid identity.bvid)
    match identity.kind with
    | .videoPage => identity.cid.isSome && aidOrBvid && identity.epid.isNone
    | .collectionItem => identity.cid.isSome && aidOrBvid && identity.epid.isNone
    | .seasonEpisode => identity.epid.isSome

def BilibiliContentIdentity.isRefreshComplete (identity : BilibiliContentIdentity) : Bool :=
  if !identity.isComplete then false
  else
    match identity.kind with
    | .videoPage => identity.aid.isSome && identity.cid.isSome && identity.epid.isNone
    | .collectionItem => identity.aid.isSome && identity.cid.isSome && identity.epid.isNone
    | .seasonEpisode => identity.epid.isSome && identity.aid.isSome && identity.cid.isSome

def validAcceptedIdentity (identity : BilibiliContentIdentity) : Bool :=
  if !identity.isComplete || !identity.isRefreshComplete then false
  else
    match identity.kind with
    | .videoPage => identity.epid.isNone
    | .collectionItem => identity.epid.isNone
    | .seasonEpisode => identity.epid.any (0 < ·)

def entryMatchesIdentity (entry : BilibiliPlaybackEntry) (identity : BilibiliContentIdentity) :
    Bool :=
  0 < entry.aid && 0 < entry.cid && entry.aid == identity.aid.getD 0 &&
    entry.bvid == identity.bvid && entry.cid == identity.cid.getD 0 && entry.epid == identity.epid

def BilibiliPlaybackEntry.identity (entry : BilibiliPlaybackEntry) : BilibiliContentIdentity where
  kind := if entry.epid.isSome then .seasonEpisode else .videoPage
  aid := some entry.aid
  bvid := entry.bvid
  cid := some entry.cid
  epid := entry.epid

def BilibiliPlaybackEntry.acceptedIdentity (entry : BilibiliPlaybackEntry) :
    Option BilibiliContentIdentity :=
  if entry.identity.isRefreshComplete then some entry.identity else none

theorem acceptedIdentity_valid {entry : BilibiliPlaybackEntry} {identity : BilibiliContentIdentity}
    (h : entry.acceptedIdentity = some identity) :
    validAcceptedIdentity identity = true ∧ entryMatchesIdentity entry identity = true := by
  unfold BilibiliPlaybackEntry.acceptedIdentity at h
  split at h
  · rename_i hrefr
    obtain rfl := Option.some.inj h
    have hcomp : entry.identity.isComplete = true := by
      by_contra hincomplete
      simp [isRefreshComplete, hincomplete] at hrefr
    have hpos := hcomp
    unfold isComplete at hpos
    split at hpos
    · cases hpos
    rename_i hzero
    simp only [BilibiliPlaybackEntry.identity, not_or, Option.some.injEq] at hzero
    obtain ⟨haid, hcid, hepid, -⟩ := hzero
    constructor
    · simp only [validAcceptedIdentity, hcomp, hrefr]
      cases hid : entry.epid with
      | none => simp [BilibiliPlaybackEntry.identity, hid]
      | some epid =>
        rw [hid, Option.some.injEq] at hepid
        simpa [BilibiliPlaybackEntry.identity, hid] using Nat.pos_of_ne_zero hepid
    · simp [entryMatchesIdentity, BilibiliPlaybackEntry.identity, Nat.pos_of_ne_zero haid,
        Nat.pos_of_ne_zero hcid]
  · cases h

def cacheKeyIdentityMatches (accepted candidate : BilibiliMediaCacheKey) : Bool :=
  accepted.contentId == candidate.contentId && accepted.mediaKind == candidate.mediaKind &&
    accepted.streamId == candidate.streamId && accepted.codecs == candidate.codecs

def keyConsistent (request : BilibiliMediaRequest) : Bool :=
  request.cacheKey.mediaKind == request.kind && request.cacheKey.streamId == request.streamId &&
    request.cacheKey.codecs == request.codecs

def requestMatchesAccepted (accepted candidate : BilibiliMediaRequest) : Bool :=
  accepted.kind == candidate.kind && accepted.streamId == candidate.streamId &&
    accepted.mimeType == candidate.mimeType && accepted.codecs == candidate.codecs &&
    accepted.bandwidth == candidate.bandwidth && accepted.width == candidate.width &&
    accepted.height == candidate.height && accepted.frameRate == candidate.frameRate &&
    accepted.size == candidate.size && accepted.durationSeconds == candidate.durationSeconds &&
    keyConsistent accepted && keyConsistent candidate &&
    cacheKeyIdentityMatches accepted.cacheKey candidate.cacheKey

/-- The metadata published for the variant, or what `HlsVariant` kept of it. -/
def propertiesMatchAccepted (accepted : HlsVariant) (metadata : Option HlsVariantMetadata)
    (candidate : BilibiliPlaybackVariant) (video : BilibiliMediaRequest) : Bool :=
  match metadata with
  | some metadata =>
    candidate.contentId == metadata.contentId && candidate.bandwidth == metadata.bandwidth &&
      candidate.codecs == metadata.codecs && candidate.mimeTypes == metadata.mimeTypes &&
      candidate.width == metadata.width && candidate.height == metadata.height &&
      candidate.frameRate == metadata.frameRate &&
      candidate.durationSeconds == metadata.durationSeconds
  | none =>
    (candidate.bandwidth.or video.bandwidth).getD defaultBandwidth == accepted.bandwidth &&
      hlsVariantCodecs candidate video candidate.audio == accepted.codecs &&
      candidate.width == accepted.width && candidate.height == accepted.height &&
      (candidate.durationSeconds.or video.durationSeconds).getD defaultDurationSeconds ==
        accepted.durationSeconds

def audioMatchesAccepted (accepted : Option HlsMediaResource)
    (candidate : Option BilibiliMediaRequest) : Bool :=
  match accepted, candidate with
  | some old, some new => requestMatchesAccepted old.request new
  | none, none => true
  | _, _ => false

def variantMatchesAccepted (accepted : HlsVariant) (metadata : Option HlsVariantMetadata)
    (candidate : BilibiliPlaybackVariant) : Bool :=
  candidate.kind == .dash && candidate.flvSegments.isEmpty &&
    candidate.video.any fun video =>
      requestMatchesAccepted accepted.video.request video &&
        audioMatchesAccepted accepted.audio candidate.audio &&
        propertiesMatchAccepted accepted metadata candidate video

def replaceRequestCandidates (accepted fresh : BilibiliMediaRequest) : BilibiliMediaRequest :=
  { accepted with url := fresh.url, backupUrls := fresh.backupUrls, headers := fresh.headers }

def replaceVariantCandidates (accepted : HlsVariant) (candidate : BilibiliPlaybackVariant) :
    HlsVariant :=
  { accepted with
    video :=
      match candidate.video with
      | some fresh => accepted.video.mapRequest (replaceRequestCandidates · fresh)
      | none => accepted.video
    audio :=
      match accepted.audio, candidate.audio with
      | some audio, some fresh => some (audio.mapRequest (replaceRequestCandidates · fresh))
      | audio, _ => audio }

def acceptedCandidates (accepted : HlsVariant) (session : HlsPlaybackSession)
    (entry : BilibiliPlaybackEntry) : List BilibiliPlaybackVariant :=
  entry.variants.filter
    (variantMatchesAccepted accepted (session.variants.find? (·.id == accepted.id)))

def refreshAcceptedVariant (accepted : HlsVariant) (session : HlsPlaybackSession)
    (entry : BilibiliPlaybackEntry) : Except HlsSessionError HlsVariant :=
  match acceptedCandidates accepted session entry with
  | [] => .error ⟨"Refreshed playback plan is missing an accepted HLS representation."⟩
  | [candidate] => .ok (replaceVariantCandidates accepted candidate)
  | _ => .error ⟨"Refreshed playback plan ambiguously matches an accepted HLS representation."⟩

def refreshAlternates (session : HlsPlaybackSession) (entry : BilibiliPlaybackEntry) :
    Nat → List HlsVariant → Except HlsSessionError (List HlsVariant)
  | _, [] => .ok []
  | index, variant :: rest =>
    match refreshAcceptedVariant variant session entry with
    | .error _ =>
      .error ⟨"Refreshed playback plan does not uniquely match accepted HLS alternate " ++
        toString index ++ "."⟩
    | .ok variant => do
        let rest ← refreshAlternates session entry (index + 1) rest
        pure (variant :: rest)

/-- The part of `with_refreshed_media_requests` after the checks of the identity. -/
def refreshEntries (session : HlsPlaybackSession) (identity : BilibiliContentIdentity) :
    List BilibiliPlaybackEntry → Except HlsSessionError HlsPlaybackSession
  | [entry] =>
    if !entryMatchesIdentity entry identity then
      .error ⟨"Refreshed playback plan does not contain the accepted content."⟩
    else do
      let variant ← refreshAcceptedVariant session.variant session entry
      let alternates ← refreshAlternates session entry 0 session.alternateVariants
      pure { session with variant := variant, alternateVariants := alternates }
  | _ => .error ⟨"Refreshed playback plan must contain exactly one content entry."⟩

def withRefreshedMediaRequests (session : HlsPlaybackSession) (plan : BilibiliPlaybackPlan) :
    Except HlsSessionError HlsPlaybackSession :=
  match session.acceptedIdentity with
  | none => .error ⟨"HLS session has no accepted content identity."⟩
  | some identity =>
    if !validAcceptedIdentity identity then
      .error ⟨"HLS session has an invalid accepted content identity."⟩
    else refreshEntries session identity plan.entries

structure RefreshesVariant (session : HlsPlaybackSession) (entry : BilibiliPlaybackEntry)
    (accepted fresh : HlsVariant) (candidate : BilibiliPlaybackVariant) : Prop where
  only : acceptedCandidates accepted session entry = [candidate]
  replaced : fresh = replaceVariantCandidates accepted candidate

section

variable {session refreshed : HlsPlaybackSession} {entry : BilibiliPlaybackEntry}
  {accepted fresh : HlsVariant} {candidate : BilibiliPlaybackVariant}

theorem candidate_matches (h : candidate ∈ acceptedCandidates accepted session entry) :
    candidate ∈ entry.variants ∧ candidate.kind = .dash ∧ candidate.video.isSome ∧
      candidate.audio.isSome = accepted.audio.isSome := by
  simp only [acceptedCandidates, mem_filter, variantMatchesAccepted, Bool.and_eq_true,
    beq_iff_eq, Option.any_eq_true] at h
  obtain ⟨hm, ⟨hkind, -⟩, video, hvideo, ⟨-, haudio⟩, -⟩ := h
  refine ⟨hm, hkind, by simp [hvideo], ?_⟩
  unfold audioMatchesAccepted at haudio
  split at haudio <;> simp_all

theorem refreshAcceptedVariant_ok :
    refreshAcceptedVariant accepted session entry = .ok fresh ↔
      ∃ candidate, RefreshesVariant session entry accepted fresh candidate := by
  unfold refreshAcceptedVariant
  constructor
  · intro h
    split at h
    · cases h
    · rename_i candidate honly
      cases h
      exact ⟨candidate, honly, rfl⟩
    · cases h
  · rintro ⟨candidate, honly, rfl⟩
    rw [honly]

theorem refreshAlternates_ok {index : Nat} {variants alternates : List HlsVariant} :
    refreshAlternates session entry index variants = .ok alternates ↔
      List.Forall₂ (fun accepted fresh =>
        ∃ candidate, RefreshesVariant session entry accepted fresh candidate)
        variants alternates := by
  induction variants generalizing index alternates with
  | nil =>
    simp only [refreshAlternates, Except.ok.injEq, forall₂_nil_left_iff]
    exact eq_comm
  | cons variant rest ih =>
    rw [forall₂_cons_left_iff, refreshAlternates]
    cases hvar : refreshAcceptedVariant variant session entry with
    | error error =>
      simp only [reduceCtorEq, false_iff]
      rintro ⟨fresh, _, ⟨candidate, hrefr⟩, -⟩
      rw [refreshAcceptedVariant_ok.mpr ⟨candidate, hrefr⟩] at hvar
      cases hvar
    | ok fresh =>
      have hrefr := refreshAcceptedVariant_ok.mp hvar
      cases hr : refreshAlternates session entry (index + 1) rest with
      | error error =>
        constructor
        · intro h
          cases h
        · rintro ⟨_, freshRest, -, hforall, -⟩
          rw [ih.mpr hforall] at hr
          cases hr
      | ok freshRest =>
        constructor
        · intro h
          cases h
          exact ⟨fresh, freshRest, hrefr, ih.mp hr, rfl⟩
        · rintro ⟨other, otherRest, ⟨candidate, ho⟩, hforall, rfl⟩
          have hs : other = fresh := by
            have hok := refreshAcceptedVariant_ok.mpr ⟨candidate, ho⟩
            rw [hvar] at hok
            exact (Except.ok.inj hok).symm
          have hsameRest : otherRest = freshRest := by
            have hok : refreshAlternates session entry (index + 1) rest = .ok otherRest :=
              ih.mpr hforall
            rw [hr] at hok
            exact (Except.ok.inj hok).symm
          rw [hs, hsameRest]
          rfl

/-- A refreshed session: every resource variant has one candidate, of which it has the
addresses, and nothing else has changed. -/
structure Refreshes (session : HlsPlaybackSession) (entry : BilibiliPlaybackEntry)
    (refreshed : HlsPlaybackSession) : Prop where
  variants : List.Forall₂ (fun accepted fresh => ∃ candidate,
      RefreshesVariant session entry accepted fresh candidate ∧ candidate.kind = .dash ∧
        candidate.video.isSome ∧ candidate.audio.isSome = accepted.audio.isSome)
    session.resourceVariants refreshed.resourceVariants
  rest : refreshed = { session with
    variant := refreshed.variant, alternateVariants := refreshed.alternateVariants }

theorem refreshesVariant_candidate (h : RefreshesVariant session entry accepted fresh candidate) :
    RefreshesVariant session entry accepted fresh candidate ∧ candidate.kind = .dash ∧
      candidate.video.isSome ∧ candidate.audio.isSome = accepted.audio.isSome := by
  have hm : candidate ∈ acceptedCandidates accepted session entry := by
    rw [h.only]
    exact mem_singleton_self _
  exact ⟨h, (candidate_matches hm).2⟩

theorem withRefreshedMediaRequests_ok {plan : BilibiliPlaybackPlan}
    {identity : BilibiliContentIdentity} (hident : session.acceptedIdentity = some identity) :
    withRefreshedMediaRequests session plan = .ok refreshed ↔
      validAcceptedIdentity identity = true ∧ ∃ entry, plan.entries = [entry] ∧
        entryMatchesIdentity entry identity = true ∧ Refreshes session entry refreshed := by
  have hres : withRefreshedMediaRequests session plan =
      if !validAcceptedIdentity identity then
        .error ⟨"HLS session has an invalid accepted content identity."⟩
      else refreshEntries session identity plan.entries := by
    unfold withRefreshedMediaRequests
    rw [hident]
  rw [hres]
  unfold refreshEntries
  cases hv : validAcceptedIdentity identity with
  | false => simp
  | true =>
    simp only [Bool.not_true, Bool.false_eq_true, if_false, true_and]
    split
    · rename_i entry hes
      cases hm : entryMatchesIdentity entry identity with
      | false => simp [hes, hm]
      | true =>
        constructor
        · intro h
          cases hvar : refreshAcceptedVariant session.variant session entry with
          | error error =>
            rw [hvar] at h
            cases h
          | ok variant =>
            cases halts : refreshAlternates session entry 0 session.alternateVariants with
            | error error =>
              rw [hvar, halts] at h
              cases h
            | ok alternates =>
              rw [hvar, halts] at h
              cases h
              refine ⟨entry, hes, hm, ?_, rfl⟩
              obtain ⟨candidate, hrefr⟩ := refreshAcceptedVariant_ok.mp hvar
              refine List.Forall₂.cons ⟨candidate, refreshesVariant_candidate hrefr⟩ ?_
              refine (refreshAlternates_ok.mp halts).imp ?_
              rintro old new ⟨candidate, hrefr⟩
              exact ⟨candidate, refreshesVariant_candidate hrefr⟩
        · rintro ⟨other, ho, -, hrefr⟩
          obtain rfl : entry = other := by
            rw [hes] at ho
            exact singleton_inj.mp ho
          obtain ⟨⟨candidate, hvar, -⟩, halts⟩ :=
            forall₂_cons.mp hrefr.variants
          have hok := refreshAcceptedVariant_ok.mpr ⟨candidate, hvar⟩
          have hall : refreshAlternates session entry 0 session.alternateVariants =
              .ok refreshed.alternateVariants :=
            refreshAlternates_ok.mpr
              (halts.imp fun _ _ h => ⟨h.choose, h.choose_spec.1⟩)
          rw [hok, hall]
          exact congrArg Except.ok hrefr.rest.symm
    · rename_i hes
      simp only [reduceCtorEq, false_iff, not_exists, not_and]
      intro entry he
      exact absurd he (hes entry)

theorem exists_forall₂ {α β : Type} {related : α → β → Prop} {values : List α} :
    (∃ others, List.Forall₂ related values others) ↔ ∀ value ∈ values, ∃ other, related value other := by
  induction values with
  | nil => simp
  | cons first rest ih =>
    rw [forall_mem_cons, ← ih]
    constructor
    · rintro ⟨_, hforall⟩
      obtain ⟨other, others, hfst, hr, -⟩ := forall₂_cons_left_iff.mp hforall
      exact ⟨⟨other, hfst⟩, others, hr⟩
    · rintro ⟨⟨other, hfst⟩, others, hr⟩
      exact ⟨other :: others, List.Forall₂.cons hfst hr⟩

theorem exists_refreshes : (∃ refreshed, Refreshes session entry refreshed) ↔
    ∀ accepted ∈ session.resourceVariants, ∃ candidate,
      acceptedCandidates accepted session entry = [candidate] := by
  constructor
  · rintro ⟨refreshed, hrefr⟩ accepted hm
    obtain ⟨_, candidate, hvar, -⟩ := exists_forall₂.mp ⟨_, hrefr.variants⟩ accepted hm
    exact ⟨candidate, hvar.only⟩
  · intro hcands
    have hvariants : ∀ accepted ∈ session.resourceVariants, ∃ fresh candidate,
        RefreshesVariant session entry accepted fresh candidate ∧ candidate.kind = .dash ∧
          candidate.video.isSome ∧ candidate.audio.isSome = accepted.audio.isSome := by
      intro accepted hm
      obtain ⟨candidate, honly⟩ := hcands accepted hm
      exact ⟨_, candidate, refreshesVariant_candidate ⟨honly, rfl⟩⟩
    obtain ⟨_, hforall⟩ := exists_forall₂.mpr hvariants
    obtain ⟨variant, alternates, hvar, halts, -⟩ := forall₂_cons_left_iff.mp hforall
    exact ⟨{ session with variant := variant, alternateVariants := alternates },
      List.Forall₂.cons hvar halts, rfl⟩

theorem clear_replaceVariantCandidates :
    clearRequestUrlsAndHeaders (replaceVariantCandidates accepted candidate) =
      clearRequestUrlsAndHeaders accepted := by
  unfold replaceVariantCandidates clearRequestUrlsAndHeaders mapResources
  cases candidate.video <;> cases accepted.audio <;> cases candidate.audio <;> rfl

theorem refreshes_sameBinding (h : Refreshes session entry refreshed) :
    sameHlsMediaRefreshBinding session refreshed = true := by
  have hclr : session.resourceVariants.map clearRequestUrlsAndHeaders =
      refreshed.resourceVariants.map clearRequestUrlsAndHeaders := by
    rw [← forall₂_eq_eq_eq, forall₂_map_left_iff, forall₂_map_right_iff]
    refine h.variants.imp ?_
    rintro accepted fresh ⟨candidate, hrefr, -⟩
    rw [hrefr.replaced, clear_replaceVariantCandidates]
  obtain ⟨hvar, halts⟩ := cons_eq_cons.mp hclr
  rw [h.rest]
  simp only [sameHlsMediaRefreshBinding, withoutRequests, hvar, halts, beq_self_eq_true]

def comparedRequest (request : BilibiliMediaRequest) : BilibiliMediaRequest :=
  { clearRequest request with cacheKey := { request.cacheKey with sourceHash := "" } }

def comparedFields (variant : BilibiliPlaybackVariant) : BilibiliPlaybackVariant :=
  { variant with
    id := ""
    abr := none
    flvSegments := []
    video := variant.video.map comparedRequest
    audio := variant.audio.map comparedRequest }

structure BuiltFrom (variant : BilibiliPlaybackVariant) (accepted : HlsVariant) : Prop where
  id : accepted.id = variant.id
  video : variant.video = some accepted.video.request
  audio : variant.audio = accepted.audio.map HlsMediaResource.request

variable {variant : BilibiliPlaybackVariant}

theorem fromAdapter_builtFrom {videoId audioId : String}
    (h : fromAdapterWithResourceIds variant videoId audioId = .ok accepted) :
    BuiltFrom variant accepted := by
  unfold fromAdapterWithResourceIds at h
  split at h
  · cases h
  rename_i video hvideo
  cases h
  refine ⟨rfl, hvideo, ?_⟩
  simp [Option.map_map, Function.comp_def]

theorem requestMatches_compared {old new : BilibiliMediaRequest}
    (h : requestMatchesAccepted old new = true) : comparedRequest old = comparedRequest new := by
  simp only [requestMatchesAccepted, cacheKeyIdentityMatches, Bool.and_eq_true, beq_iff_eq] at h
  obtain ⟨⟨⟨⟨⟨⟨⟨⟨⟨⟨⟨⟨hkind, hstream⟩, hmime⟩, hcodecs⟩, hbandwidth⟩, hwidth⟩, hheight⟩, hrate⟩,
    hsize⟩, hdur⟩, -⟩, -⟩, ⟨⟨hcontent, hmedia⟩, hkeyStream⟩, hkeyCodecs⟩ := h
  simp only [comparedRequest, clearRequest, hkind, hstream, hmime, hcodecs, hbandwidth, hwidth,
    hheight, hrate, hsize, hdur, hcontent, hmedia, hkeyStream, hkeyCodecs]

theorem requestMatches_self {request : BilibiliMediaRequest} (h : keyConsistent request = true) :
    requestMatchesAccepted request request = true := by
  simp [requestMatchesAccepted, cacheKeyIdentityMatches, h]

structure WellPlanned (variant : BilibiliPlaybackVariant) : Prop where
  video : ∀ request ∈ variant.video, keyConsistent request = true
  audio : ∀ request ∈ variant.audio, keyConsistent request = true
  flv : variant.kind = .dash → variant.flvSegments = []

theorem variantMatches_self (hbuilt : BuiltFrom variant accepted) (hp : WellPlanned variant)
    (hkind : variant.kind = .dash) :
    variantMatchesAccepted accepted (some (HlsVariantMetadata.fromAdapter variant)) variant =
      true := by
  have hvideo := requestMatches_self (hp.video _ hbuilt.video)
  have haudio : audioMatchesAccepted accepted.audio variant.audio = true := by
    have hcons := hp.audio
    rw [hbuilt.audio] at hcons ⊢
    cases hrsc : accepted.audio with
    | none => rfl
    | some resource =>
      rw [hrsc] at hcons
      exact requestMatches_self (hcons _ rfl)
  simp [variantMatchesAccepted, hkind, hp.flv hkind, hbuilt.video, hvideo, haudio,
    propertiesMatchAccepted, HlsVariantMetadata.fromAdapter]

theorem variantMatches_compared {variant other : BilibiliPlaybackVariant}
    (hbuilt : BuiltFrom variant accepted) (hkind : variant.kind = .dash)
    (h : variantMatchesAccepted accepted (some (HlsVariantMetadata.fromAdapter variant)) other =
      true) : comparedFields other = comparedFields variant := by
  simp only [variantMatchesAccepted, propertiesMatchAccepted, HlsVariantMetadata.fromAdapter,
    Bool.and_eq_true, beq_iff_eq, Option.any_eq_true] at h
  obtain ⟨⟨ho, -⟩, video, hvideo, ⟨hm, haudio⟩, hproperties⟩ := h
  obtain ⟨⟨⟨⟨⟨⟨⟨hcontent, hbandwidth⟩, hcodecs⟩, hmime⟩, hwidth⟩, hheight⟩, hrate⟩, hdur⟩ :=
    hproperties
  have hvideos : other.video.map comparedRequest = variant.video.map comparedRequest := by
    rw [hvideo, hbuilt.video]
    simp [requestMatches_compared hm]
  have haudios : other.audio.map comparedRequest = variant.audio.map comparedRequest := by
    rw [hbuilt.audio]
    unfold audioMatchesAccepted at haudio
    split at haudio
    · rename_i old new _ hold hn
      simp [hold, hn, requestMatches_compared haudio]
    · rename_i hold hn
      simp [hold, hn]
    · cases haudio
  simp only [comparedFields, ho, hkind, hcontent, hbandwidth, hcodecs, hmime, hwidth, hheight,
    hrate, hdur, hvideos, haudios]

theorem replaceVariantCandidates_self (hbuilt : BuiltFrom variant accepted) :
    replaceVariantCandidates accepted variant = accepted := by
  have haudio := hbuilt.audio
  unfold replaceVariantCandidates
  rw [hbuilt.video]
  cases hrsc : accepted.audio with
  | none =>
    cases accepted
    simp_all [HlsMediaResource.mapRequest, replaceRequestCandidates]
  | some resource =>
    rw [hrsc] at haudio
    cases accepted
    simp_all [HlsMediaResource.mapRequest, replaceRequestCandidates]

theorem filter_eq_singleton {α β : Type} {compared : α → β} {keep : α → Bool} {values : List α}
    {value : α} (hdist : values.Pairwise (compared · ≠ compared ·)) (hm : value ∈ values)
    (hkeep : keep value = true)
    (hs : ∀ other ∈ values, keep other = true → compared other = compared value) :
    values.filter keep = [value] := by
  induction values with
  | nil => cases hm
  | cons first rest ih =>
    obtain ⟨hfst, hr⟩ := pairwise_cons.mp hdist
    obtain rfl | hin := mem_cons.mp hm
    · have hn : rest.filter keep = [] := by
        rw [filter_eq_nil_iff]
        intro other ho hk
        exact hfst other ho (hs other (mem_cons_of_mem _ ho) hk).symm
      rw [filter_cons_of_pos hkeep, hn]
    · have hdropped : ¬ keep first = true := by
        intro hk
        exact hfst value hin (hs first mem_cons_self hk)
      rw [filter_cons_of_neg hdropped]
      exact ih hr hin fun other ho => hs other (mem_cons_of_mem _ ho)

variable {variants : List BilibiliPlaybackVariant}

theorem metadata_find (hdist : variants.Pairwise (·.id ≠ ·.id)) (hm : variant ∈ variants) :
    (variants.map HlsVariantMetadata.fromAdapter).find? (·.id == variant.id) =
      some (HlsVariantMetadata.fromAdapter variant) := by
  induction variants with
  | nil => cases hm
  | cons first rest ih =>
    obtain ⟨hfst, hr⟩ := pairwise_cons.mp hdist
    rw [map_cons]
    obtain rfl | hin := mem_cons.mp hm
    · exact List.find?_cons_of_pos (by simp [HlsVariantMetadata.fromAdapter])
    have ho : ¬ ((HlsVariantMetadata.fromAdapter first).id == variant.id) = true := by
      simpa [HlsVariantMetadata.fromAdapter] using hfst variant hin
    have hskip := List.find?_cons_of_neg
      (p := fun metadata : HlsVariantMetadata => metadata.id == variant.id)
      (l := rest.map HlsVariantMetadata.fromAdapter) ho
    rw [hskip]
    exact ih hr hin

variable {selected : BilibiliPlaybackVariant}

theorem alternatesFrom_builtFrom [FrameRates] {index : Nat} {alternates : List HlsVariant}
    (h : alternatesFrom selected index variants = .ok alternates) :
    ∀ alternate ∈ alternates, ∃ variant ∈ variants, variant.kind = .dash ∧
      BuiltFrom variant alternate := by
  induction variants generalizing index alternates with
  | nil =>
    cases h
    intro alternate hm
    cases hm
  | cons variant rest ih =>
    rw [alternatesFrom] at h
    split at h
    · rename_i hplayable
      cases hbuilt : fromAdapterWithResourceIds variant
          ("v" ++ toString index ++ "-video.m4s") ("v" ++ toString index ++ "-audio.m4s") with
      | error error =>
        rw [hbuilt] at h
        cases h
      | ok first =>
        rw [hbuilt] at h
        cases hr : alternatesFrom selected (index + 1) rest with
        | error error =>
          rw [hr] at h
          cases h
        | ok others =>
          rw [hr] at h
          cases h
          intro alternate hm
          obtain rfl | hin := mem_cons.mp hm
          · have hkind : variant.kind = .dash := by
              simp only [isPlayableAlternate, isAvplayerSafeAlternateVariant,
                Bool.and_eq_true, beq_iff_eq] at hplayable
              exact hplayable.2.1
            exact ⟨variant, mem_cons_self, hkind, fromAdapter_builtFrom hbuilt⟩
          · obtain ⟨source, hsrc, hkind, hfrom⟩ := ih hr alternate hin
            exact ⟨source, mem_cons_of_mem _ hsrc, hkind, hfrom⟩
    · intro alternate hm
      obtain ⟨source, hsrc, hkind, hfrom⟩ := ih h alternate hm
      exact ⟨source, mem_cons_of_mem _ hsrc, hkind, hfrom⟩

theorem refreshes_self
    (hmeta : session.variants = entry.variants.map HlsVariantMetadata.fromAdapter)
    (hids : entry.variants.Pairwise (·.id ≠ ·.id))
    (hfields : entry.variants.Pairwise (comparedFields · ≠ comparedFields ·))
    (hp : ∀ variant ∈ entry.variants, WellPlanned variant) (hm : variant ∈ entry.variants)
    (hkind : variant.kind = .dash) (hbuilt : BuiltFrom variant accepted) :
    RefreshesVariant session entry accepted accepted variant where
  only := by
    have hfind : session.variants.find? (·.id == accepted.id) =
        some (HlsVariantMetadata.fromAdapter variant) := by
      rw [hmeta, hbuilt.id]
      exact metadata_find hids hm
    unfold acceptedCandidates
    rw [hfind]
    exact filter_eq_singleton hfields hm
      (variantMatches_self hbuilt (hp variant hm) hkind)
      fun other _ => variantMatches_compared hbuilt hkind
  replaced := (replaceVariantCandidates_self hbuilt).symm

/-- What `from_playback_entry_with_policy` takes over from the variants of an entry. -/
theorem fromPlaybackEntry_built [FrameRates] {sessionId title : String}
    {abr : BilibiliPlaybackAbrMetadata} {policy : PlaybackPolicy}
    (h : fromPlaybackEntryWithPolicy sessionId title selected abr variants
      policy = .ok session) (hm : selected ∈ variants) :
    session.variants = variants.map HlsVariantMetadata.fromAdapter ∧
      ∀ accepted ∈ session.resourceVariants, ∃ variant ∈ variants, variant.kind = .dash ∧
        BuiltFrom variant accepted := by
  unfold fromPlaybackEntryWithPolicy fromSelectedVariant at h
  by_cases hkind : selected.kind = .dash
  swap
  · rw [if_pos hkind] at h
    cases h
  rw [if_neg (not_not.mpr hkind)] at h
  cases hvar : HlsVariant.fromAdapter selected with
  | error error =>
    rw [hvar] at h
    cases h
  | ok hlsVariant =>
    rw [hvar] at h
    have hbuilt : BuiltFrom selected hlsVariant := fromAdapter_builtFrom hvar
    cases halts : playableAlternateVariants selected variants with
    | error error =>
      rw [halts] at h
      cases h
    | ok alternates =>
      rw [halts] at h
      cases h
      constructor
      · refine if_pos ?_
        rw [any_map, any_eq_true]
        exact ⟨selected, hm, by simp [HlsVariantMetadata.fromAdapter, hbuilt.id]⟩
      · intro accepted hacc
        obtain rfl | hin := mem_cons.mp hacc
        · exact ⟨selected, hm, hkind, hbuilt⟩
        unfold playableAlternateVariants at halts
        split at halts
        · cases halts
          cases hin
        · exact alternatesFrom_builtFrom halts accepted hin

end

/-- A plan refreshes a session exactly when it is for the accepted content and has one
candidate for each resource variant; then only addresses and headers change, so both
views of the bindings agree. A session is reproduced by the entry it was built from. -/
theorem refreshed_media_requests [FrameRates] :
    (∀ (session : HlsPlaybackSession) (identity : BilibiliContentIdentity)
        (plan : BilibiliPlaybackPlan), session.acceptedIdentity = some identity →
      ((∃ refreshed, withRefreshedMediaRequests session plan = .ok refreshed) ↔
        validAcceptedIdentity identity = true ∧ ∃ entry, plan.entries = [entry] ∧
          entryMatchesIdentity entry identity = true ∧
          ∀ accepted ∈ session.resourceVariants, ∃ candidate,
            acceptedCandidates accepted session entry = [candidate]) ∧
      ∀ refreshed, withRefreshedMediaRequests session plan = .ok refreshed →
        (∃ entry, plan.entries = [entry] ∧ Refreshes session entry refreshed) ∧
          sameHlsMediaRefreshBinding session refreshed = true ∧
          sessionRefreshMatches session refreshed = true) ∧
    ∀ (sessionId title : String) (entry : BilibiliPlaybackEntry)
        (selected : BilibiliPlaybackVariant) (policy : PlaybackPolicy)
        (session : HlsPlaybackSession) (identity : BilibiliContentIdentity),
      selected ∈ entry.variants →
      fromPlaybackEntryWithPolicy sessionId title selected entry.abr
        entry.variants policy = .ok session →
      entry.acceptedIdentity = some identity →
      entry.variants.Pairwise (·.id ≠ ·.id) →
      entry.variants.Pairwise (comparedFields · ≠ comparedFields ·) →
      (∀ variant ∈ entry.variants, WellPlanned variant) →
      withRefreshedMediaRequests { session with acceptedIdentity := some identity } ⟨[entry]⟩ =
        .ok { session with acceptedIdentity := some identity } := by
  constructor
  · intro session identity plan hidentity
    constructor
    · constructor
      · rintro ⟨refreshed, hok⟩
        obtain ⟨hvalid, entry, hentry, hmatches, hrefreshes⟩ :=
          (withRefreshedMediaRequests_ok hidentity).mp hok
        exact ⟨hvalid, entry, hentry, hmatches, exists_refreshes.mp ⟨refreshed, hrefreshes⟩⟩
      · rintro ⟨hvalid, entry, hentry, hmatches, hcandidates⟩
        obtain ⟨refreshed, hrefreshes⟩ := exists_refreshes.mpr hcandidates
        exact ⟨refreshed, (withRefreshedMediaRequests_ok hidentity).mpr
          ⟨hvalid, entry, hentry, hmatches, hrefreshes⟩⟩
    · intro refreshed hok
      obtain ⟨-, entry, hentry, -, hrefreshes⟩ := (withRefreshedMediaRequests_ok hidentity).mp hok
      have hsame := refreshes_sameBinding hrefreshes
      exact ⟨⟨entry, hentry, hrefreshes⟩, hsame, sameBinding_refreshMatches hsame⟩
  · intro sessionId title entry selected policy session identity hselected hbuilt hidentity hids
      hfields hplanned
    obtain ⟨hvalid, hmatches⟩ := acceptedIdentity_valid hidentity
    obtain ⟨hmetadata, hresources⟩ := fromPlaybackEntry_built hbuilt hselected
    rw [withRefreshedMediaRequests_ok rfl]
    refine ⟨hvalid, entry, rfl, hmatches, ?_, rfl⟩
    rw [List.forall₂_same]
    intro accepted haccepted
    obtain ⟨variant, hmem, hkind, hfrom⟩ := hresources accepted haccepted
    exact ⟨variant, refreshesVariant_candidate
      (refreshes_self hmetadata hids hfields hplanned hmem hkind hfrom)⟩

end NetPlayer.Hls
