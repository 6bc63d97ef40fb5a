import Mathlib.Data.List.Basic
import NetPlayer.Hls.Session

/-!
# Bindings of a session

What a session has to keep when its media requests change: everything but the
addresses and headers of the requests. The refresh coordinator and the cache
compare it in two ways, the cache after it has also sorted the alternates and
forgotten the title.
-/

namespace NetPlayer.Hls

def clearRequest (request : BilibiliMediaRequest) : BilibiliMediaRequest :=
  { request with url := "", backupUrls := [], headers := [] }

variable (resource : HlsMediaResource)

def HlsMediaResource.mapRequest (change : BilibiliMediaRequest → BilibiliMediaRequest) :
    HlsMediaResource :=
  { resource with request := change resource.request }

def HlsVariant.mapResources (variant : HlsVariant) (change : HlsMediaResource → HlsMediaResource) :
    HlsVariant :=
  { variant with video := change variant.video, audio := variant.audio.map change }

def clearRequestUrlsAndHeaders (variant : HlsVariant) : HlsVariant :=
  variant.mapResources (·.mapRequest clearRequest)

def withoutRequests (session : HlsPlaybackSession) : HlsPlaybackSession :=
  { session with
    variant := clearRequestUrlsAndHeaders session.variant
    alternateVariants := session.alternateVariants.map clearRequestUrlsAndHeaders }

variable (expected current : HlsPlaybackSession)

def sameHlsMediaRefreshBinding : Bool :=
  withoutRequests expected == withoutRequests current

def HlsPlaybackSession.mediaResource (session : HlsPlaybackSession) (segmentId : String) :
    Option HlsMediaResource :=
  (session.resourceVariants.flatMap HlsVariant.resources).find? (·.id == segmentId)

def requestUrlsOrHeadersDiffer (expected current : BilibiliMediaRequest) : Bool :=
  expected.url != current.url || expected.backupUrls != current.backupUrls ||
    expected.headers != current.headers

def mediaResourceRequestChanged (expected : HlsMediaResource) (current : HlsPlaybackSession) :
    Bool :=
  (current.mediaResource expected.id).any
    fun resource => requestUrlsOrHeadersDiffer expected.request resource.request

def sessionResourceRequests (session : HlsPlaybackSession) : List (String × BilibiliMediaRequest) :=
  (session.resourceVariants.flatMap HlsVariant.resources).map
    fun resource => (resource.id, resource.request)

def failedMediaRequestWasRefreshed (failedResource : Option HlsMediaResource) : Bool :=
  match failedResource with
  | some resource => mediaResourceRequestChanged resource current
  | none =>
    if !sameHlsMediaRefreshBinding expected current then false
    else
      let expectedRequests := sessionResourceRequests expected
      let currentRequests := sessionResourceRequests current
      !expectedRequests.isEmpty && expectedRequests.length == currentRequests.length &&
        (expectedRequests.zip currentRequests).all fun (expected, current) =>
          expected.1 == current.1 && requestUrlsOrHeadersDiffer expected.2 current.2

def mediaResourceBindingMismatchStage (left right : HlsMediaResource) : Option String :=
  if left.id ≠ right.id then some "resource-id"
  else if left.request.cacheKey ≠ right.request.cacheKey then some "resource-cache-key"
  else if left.request.kind ≠ right.request.kind ∨
      left.request.streamId ≠ right.request.streamId ∨
      left.request.mimeType ≠ right.request.mimeType ∨
      left.request.codecs ≠ right.request.codecs ∨
      left.request.bandwidth ≠ right.request.bandwidth ∨
      left.request.width ≠ right.request.width ∨
      left.request.height ≠ right.request.height ∨
      left.request.frameRate ≠ right.request.frameRate ∨
      left.request.size ≠ right.request.size ∨
      left.request.durationSeconds ≠ right.request.durationSeconds ∨
      left.request.headers ≠ right.request.headers then
    some "resource-properties-or-auth-headers"
  else none

def variantBindingMismatchStage (left right : HlsVariant) : Option String :=
  if left.id ≠ right.id then some "selected-variant-id"
  else if left.bandwidth ≠ right.bandwidth ∨ left.codecs ≠ right.codecs ∨
      left.width ≠ right.width ∨ left.height ≠ right.height ∨
      left.durationSeconds ≠ right.durationSeconds then
    some "selected-variant-properties"
  else
    match mediaResourceBindingMismatchStage left.video right.video with
    | some stage => some stage
    | none =>
      match left.audio, right.audio with
      | some left, some right => mediaResourceBindingMismatchStage left right
      | none, none => none
      | _, _ => some "selected-audio-presence"

def normalizeResourceBinding : HlsMediaResource :=
  resource.mapRequest fun request =>
    { request with
      url := ""
      backupUrls := []
      headers := (request.headers.map fun header => ⟨header.name.toLower, ""⟩).mergeSort
        fun left right => decide (left.name ≤ right.name) }

def normalizeVariantBindings (variant : HlsVariant) : HlsVariant :=
  variant.mapResources normalizeResourceBinding

/-- The order of the alternates once they are sorted. -/
def variantIdLe (left right : HlsVariant) : Bool := decide (left.id ≤ right.id)

def normalizedSessionBindings (session : HlsPlaybackSession) : HlsPlaybackSession :=
  { session with
    title := ""
    advertiseAlternateVariants := false
    variant := normalizeVariantBindings session.variant
    alternateVariants :=
      (session.alternateVariants.map normalizeVariantBindings).mergeSort variantIdLe }

def clearRequestHeaders : HlsMediaResource :=
  resource.mapRequest fun request => { request with headers := [] }

def clearSessionRequestHeaders (session : HlsPlaybackSession) : HlsPlaybackSession :=
  { session with
    variant := session.variant.mapResources clearRequestHeaders
    alternateVariants := session.alternateVariants.map (·.mapResources clearRequestHeaders) }

/-- What the cache compares. -/
def sessionBindings (session : HlsPlaybackSession) : HlsPlaybackSession :=
  clearSessionRequestHeaders (normalizedSessionBindings session)

variable (existing incoming : HlsPlaybackSession)

def sessionRefreshMismatchStage : Option String :=
  if existing.id ≠ incoming.id then some "session-id"
  else if existing.effectivePolicy ≠ incoming.effectivePolicy then some "authorization-policy"
  else
    let existing := sessionBindings existing
    let incoming := sessionBindings incoming
    if existing.variant ≠ incoming.variant then
      some ((variantBindingMismatchStage existing.variant incoming.variant).getD
        "selected-resource")
    else if existing.alternateVariants ≠ incoming.alternateVariants then
      some "alternate-resources"
    else if existing.abr ≠ incoming.abr then some "abr-bindings"
    else if existing.variants ≠ incoming.variants then some "variant-metadata"
    else if existing.transcoding ≠ incoming.transcoding then some "transcoding-plan"
    else if existing ≠ incoming then some "other-session-binding"
    else none

def sessionRefreshMatches : Bool :=
  (sessionRefreshMismatchStage existing incoming).isNone

section

variable {variant : HlsVariant} {session other : HlsPlaybackSession}

theorem mapResources_mapResources {first second : HlsMediaResource → HlsMediaResource} :
    (variant.mapResources first).mapResources second = variant.mapResources (second ∘ first) := by
  simp [HlsVariant.mapResources, Option.map_map]

theorem clearRequestHeaders_normalize :
    (normalizeVariantBindings variant).mapResources clearRequestHeaders =
      clearRequestUrlsAndHeaders variant := by
  unfold normalizeVariantBindings
  rw [mapResources_mapResources]
  rfl

theorem mergeSort_map_variants {change : HlsVariant → HlsVariant} {variants : List HlsVariant}
    (hid : ∀ variant, (change variant).id = variant.id) :
    (variants.mergeSort variantIdLe).map change = (variants.map change).mergeSort variantIdLe := by
  apply List.map_mergeSort
  intro left _ right _
  simp only [variantIdLe, hid]

theorem sessionBindings_eq : sessionBindings session =
    { session with
      title := ""
      advertiseAlternateVariants := false
      variant := clearRequestUrlsAndHeaders session.variant
      alternateVariants :=
        (session.alternateVariants.map clearRequestUrlsAndHeaders).mergeSort variantIdLe } := by
  have halts :
      ((session.alternateVariants.map normalizeVariantBindings).mergeSort variantIdLe).map
          (·.mapResources clearRequestHeaders) =
        (session.alternateVariants.map clearRequestUrlsAndHeaders).mergeSort variantIdLe := by
    have hid : ∀ variant : HlsVariant,
        (variant.mapResources clearRequestHeaders).id = variant.id := fun _ => rfl
    rw [mergeSort_map_variants hid, List.map_map]
    congr 1
    exact List.map_congr_left (fun _ _ => clearRequestHeaders_normalize)
  simp only [sessionBindings, clearSessionRequestHeaders, normalizedSessionBindings,
    clearRequestHeaders_normalize, halts]

theorem sessionRefreshMatches_iff :
    sessionRefreshMatches session other = true ↔ sessionBindings session = sessionBindings other := by
  have hid : sessionBindings session = sessionBindings other → session.id = other.id := by
    intro h
    have hfield := congrArg HlsPlaybackSession.id h
    exact hfield
  have hpolicy : sessionBindings session = sessionBindings other →
      session.effectivePolicy = other.effectivePolicy := by
    intro h
    have hfield := congrArg HlsPlaybackSession.effectivePolicy h
    exact hfield
  unfold sessionRefreshMatches sessionRefreshMismatchStage
  constructor
  · intro h
    split at h
    · cases h
    split at h
    · cases h
    simp only at h
    repeat' split at h
    all_goals first
      | exact not_not.mp ‹¬ sessionBindings session ≠ sessionBindings other›
      | cases h
  · intro h
    simp [hid h, hpolicy h, h]

theorem sameBinding_refreshMatches (h : sameHlsMediaRefreshBinding session other = true) :
    sessionRefreshMatches session other = true := by
  have hs : withoutRequests session = withoutRequests other := by
    simpa [sameHlsMediaRefreshBinding] using h
  have halts := congrArg HlsPlaybackSession.alternateVariants hs
  have hvar := congrArg HlsPlaybackSession.variant hs
  simp only [withoutRequests] at halts hvar
  rw [sessionRefreshMatches_iff, sessionBindings_eq, sessionBindings_eq, halts, hvar]
  cases session
  cases other
  simp only [withoutRequests, HlsPlaybackSession.mk.injEq] at hs ⊢
  simp [hs]

end

end NetPlayer.Hls
