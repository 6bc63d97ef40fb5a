import NetPlayer.Hls.Bindings
import NetPlayer.Hls.SessionFile
import NetPlayer.Library.Faulty

/-!
# Publishing a session

The four calls that replace `session.json`. Each one reads the file first and
goes on only with a proof that the new session is the stored one: refreshed,
completed, transcoded, or restored to its source. All of them hold the
publication lock, so calls on one session do not overlap.
-/

namespace NetPlayer.Hls

open Faulty Faulty.Program
open RangeCache (SessionPublicationMode)

def preserveRequestCandidates (incoming existing : BilibiliMediaRequest) : BilibiliMediaRequest :=
  { incoming with
    url := existing.url
    backupUrls := existing.backupUrls
    headers := existing.headers }

def preserveVariantRequestCandidates (incoming existing : HlsVariant) : HlsVariant :=
  { incoming with
    video := incoming.video.mapRequest (preserveRequestCandidates · existing.video.request)
    audio :=
      match incoming.audio, existing.audio with
      | some incoming, some existing =>
        some (incoming.mapRequest (preserveRequestCandidates · existing.request))
      | incoming, _ => incoming }

def preserveAlternateRequestCandidates (existing : List HlsVariant) (variant : HlsVariant) :
    HlsVariant :=
  match existing.find? (·.id == variant.id) with
  | some existing => preserveVariantRequestCandidates variant existing
  | none => variant

def preservePersistedRequestCandidates (existing incoming : HlsPlaybackSession) :
    HlsPlaybackSession :=
  { incoming with
    variant := preserveVariantRequestCandidates incoming.variant existing.variant
    alternateVariants :=
      incoming.alternateVariants.map
        (preserveAlternateRequestCandidates existing.alternateVariants) }

def sanitizeCompletedVariant (variant : HlsVariant) : HlsVariant :=
  variant.mapResources (·.mapRequest clearRequest)

def completedRuntimeSession (session : HlsPlaybackSession) : HlsPlaybackSession :=
  { session with
    advertiseAlternateVariants := false
    variant := sanitizeCompletedVariant session.variant }

def sanitizedCompletedSession (session : HlsPlaybackSession) : HlsPlaybackSession :=
  let session := completedRuntimeSession session
  { session with
    acceptedIdentity := none
    variant := sanitizeCompletedVariant session.variant
    alternateVariants := session.alternateVariants.map sanitizeCompletedVariant }

def sourceCompletedSessionForRestore (session : HlsPlaybackSession) : HlsPlaybackSession :=
  if session.transcoding.state = .ready then
    { session with
      transcoding := .withState .disabled session.transcoding.sourceVariantId
        ("LAN transcoding was unavailable during restore; " ++
          "serving the completed source HLS cache.") }
  else session

def completionBindings (session : HlsPlaybackSession) : HlsPlaybackSession :=
  clearSessionRequestHeaders { normalizedSessionBindings session with acceptedIdentity := none }

def sessionCompletionMatches (existing completed : HlsPlaybackSession) : Bool :=
  if existing.id ≠ completed.id ∨ existing.effectivePolicy ≠ completed.effectivePolicy then false
  else completionBindings existing == completionBindings completed

def resourceBindingsMatchAfterHeaderScrub (left right : HlsMediaResource) : Bool :=
  (mediaResourceBindingMismatchStage (clearRequestHeaders left) (clearRequestHeaders right)).isNone

def variantsPreserveResourceBindings (left right : HlsVariant) : Bool :=
  left.id == right.id && resourceBindingsMatchAfterHeaderScrub left.video right.video &&
    match left.audio, right.audio with
    | some left, some right => resourceBindingsMatchAfterHeaderScrub left right
    | none, none => true
    | _, _ => false

def hlsTranscodedResourceId : String := "transcoded.m4s"

def transcodedCacheKey (session : HlsPlaybackSession) (codecs : List String) :
    BilibiliMediaCacheKey :=
  let sourceVideo := session.variant.video.request.cacheKey
  let audioHash :=
    match session.variant.audio with
    | some audio => audio.request.cacheKey.sourceHash
    | none => "no-audio"
  { contentId := sourceVideo.contentId
    mediaKind := .video
    streamId := sourceVideo.streamId
    codecs := some (",".intercalate codecs)
    sourceHash := "lan-transcoded:" ++ session.transcoding.profileId ++ ":" ++
      sourceVideo.sourceHash ++ ":" ++ audioHash }

def transcodeBindingsMatch (existing completed : HlsPlaybackSession) : Bool :=
  if existing.id ≠ completed.id ∨ existing.effectivePolicy ≠ completed.effectivePolicy ∨
      existing.transcoding.state ≠ .ready ∨ completed.transcoding.state ≠ .notRequired ∨
      completed.transcoding.sourceVariantId ≠ existing.variant.id ∨
      completed.variant.id ≠ existing.variant.id ∨
      completed.variant.video.id ≠ hlsTranscodedResourceId ∨ completed.variant.audio.isSome ∨
      completed.variant.video.request.kind ≠ .video then
    false
  else
    (existing.resourceVariants.all fun source =>
      completed.alternateVariants.any (variantsPreserveResourceBindings source)) &&
      completed.variant.video.request.cacheKey ==
        transcodedCacheKey existing completed.variant.codecs

/-- The fields of a resource's metadata that the calls check. -/
structure PersistedHlsCachedResource where
  schemaVersion : Nat
  id : String
  totalLength : Nat
  initializationLength : Nat
  cacheKey : BilibiliMediaCacheKey
  deriving DecidableEq

/-- The directory of a session: `session.json`, and by resource id the metadata and the
length of the completed files. -/
structure SessionFiles where
  session : Option PersistedHlsSession
  metadata : String → Option PersistedHlsCachedResource
  media : String → Option Nat

def SessionFiles.install (files : SessionFiles) (session : HlsPlaybackSession) : SessionFiles :=
  { files with session := some (PersistedHlsSession.ofSession session) }

abbrev SessionM := Program SessionFiles SessionError

/-- What `read_session_manifest_for_publication` finds. -/
def storedSession (sessionId : String) (files : SessionFiles) :
    Except SessionError (Option HlsPlaybackSession) :=
  match validateCacheId sessionId, files.session with
  | .error error, _ => .error error
  | .ok _, none => .ok none
  | .ok _, some persisted => (readForPublication sessionId persisted).map some

def readSessionManifestForPublication (sessionId : String) : SessionM (Option HlsPlaybackSession) :=
  inspect .io (storedSession sessionId)

def loadSession (sessionId : String) : SessionM (Option HlsPlaybackSession) :=
  attempt (inspect .io fun files =>
    match files.session.bind (loadFromDirectory sessionId) with
    | some session => .ok session
    | none => .error .io : SessionM HlsPlaybackSession)

def readResourceMetadata (resourceId : String) : SessionM (Option PersistedHlsCachedResource) :=
  attempt (inspect .io fun files =>
    match files.metadata resourceId with
    | some metadata =>
      if metadata.schemaVersion = hlsCacheSchemaVersion ∧ metadata.id = resourceId then
        .ok metadata
      else .error .io
    | none => .error .io : SessionM PersistedHlsCachedResource)

def mediaFileLength (resourceId : String) : SessionM (Option Nat) :=
  attempt (inspect .io fun files =>
    match validateCacheId resourceId, files.media resourceId with
    | .ok _, some length => .ok length
    | _, _ => .error .io : SessionM Nat)

def resourceCacheKeyMatches (sessionId resourceId : String) (cacheKey : BilibiliMediaCacheKey) :
    SessionM Bool := do
  match ← loadSession sessionId with
  | none => return false
  | some session =>
    return (session.mediaResource resourceId).any (·.request.cacheKey == cacheKey)

/-- The total length that `cached_resource` reports. -/
def cachedResource (sessionId resourceId : String) : SessionM (Option Nat) := do
  match ← readResourceMetadata resourceId with
  | none => return none
  | some metadata =>
    if !(← resourceCacheKeyMatches sessionId resourceId metadata.cacheKey) then return none
    else
      let length ← mediaFileLength resourceId
      if length ≠ some metadata.totalLength ∨ metadata.initializationLength = 0 ∨
          metadata.totalLength ≤ metadata.initializationLength then
        return none
      else return some metadata.totalLength

def sourceResourceIsComplete (sessionId : String) (resource : HlsMediaResource) :
    SessionM Bool := do
  match ← cachedResource sessionId resource.id with
  | none => return false
  | some totalLength => return resource.request.size.all (· == totalLength)

def sourceSessionResourcesAreComplete (session : HlsPlaybackSession) : SessionM Bool := do
  if !(← sourceResourceIsComplete session.id session.variant.video) then return false
  else
    match session.variant.audio with
    | none => return true
    | some audio => sourceResourceIsComplete session.id audio

def completedTranscodeMatches (existing completed : HlsPlaybackSession) : SessionM Bool := do
  if !transcodeBindingsMatch existing completed then return false
  else
    match ← readResourceMetadata hlsTranscodedResourceId with
    | none => return false
    | some metadata =>
      if metadata.cacheKey ≠ transcodedCacheKey existing completed.variant.codecs ∨
          metadata.initializationLength = 0 ∨
          metadata.totalLength ≤ metadata.initializationLength then
        return false
      else
        let length ← mediaFileLength hlsTranscodedResourceId
        return length == some metadata.totalLength

def completedPublicationMatches (existing completed : HlsPlaybackSession) : SessionM Bool := do
  if sessionCompletionMatches existing completed then return true
  else completedTranscodeMatches existing completed

def sourceRestoreCompletionMatches (existing incoming : HlsPlaybackSession) : SessionM Bool := do
  if existing.id ≠ incoming.id ∨ existing.transcoding.state ≠ .ready then return false
  else if !(← sourceSessionResourcesAreComplete existing) then return false
  else return sanitizedCompletedSession (sourceCompletedSessionForRestore existing) == incoming

/-- The coordinator may refuse a publication; it changes no file. -/
def beginSessionPublication (_mode : SessionPublicationMode) : SessionM Unit :=
  inspect .sessionRemoving fun _ => .ok ()

/-- The temporary file can fail to be written; only the rename changes `session.json`. -/
def writeSessionJsonAtomically (session : HlsPlaybackSession) : SessionM Unit := do
  inspect .io fun _ => .ok ()
  atomic .io fun files => files.install session

def sessionPublicationMode (session : HlsPlaybackSession) (completed : Bool) :
    SessionM SessionPublicationMode := do
  match ← readSessionManifestForPublication session.id with
  | none => return .fresh
  | some existing =>
    if completed then
      if ← completedPublicationMatches existing session then return .ownedCompletion
      else
        raise (.rejected ((sessionRefreshMismatchStage existing session).getD "completion-proof"))
    else
      match sessionRefreshMismatchStage existing session with
      | none => return .refresh
      | some stage => raise (.rejected stage)

def validateSessionPublication (session : HlsPlaybackSession) (mode : SessionPublicationMode) :
    SessionM Unit := do
  match mode, ← readSessionManifestForPublication session.id with
  | .fresh, none => return ()
  | .refresh, some existing =>
    demand (sessionRefreshMatches existing session = true) (.rejected "guard-boundary")
  | .ownedCompletion, some existing =>
    let proved ← completedPublicationMatches existing session
    demand (proved = true) (.rejected "guard-boundary")
  | _, _ => raise (.rejected "guard-boundary")

def saveSessionWithMode (session : HlsPlaybackSession) (mode : SessionPublicationMode) :
    SessionM Unit := do
  beginSessionPublication mode
  validateSessionPublication session mode
  writeSessionJsonAtomically session

def saveSession (session : HlsPlaybackSession) : SessionM Unit := do
  let existing ← readSessionManifestForPublication session.id
  let session :=
    match existing with
    | some existing =>
      if sessionRefreshMatches existing session then
        preservePersistedRequestCandidates existing session
      else session
    | none => session
  let mode ← sessionPublicationMode session false
  saveSessionWithMode session mode

def saveRefreshedSession (expected replacement : HlsPlaybackSession) : SessionM Unit := do
  demand (expected.id = replacement.id ∧ sessionRefreshMatches expected replacement = true)
    (.rejected "refresh-replacement-binding")
  let existing ← readSessionManifestForPublication expected.id
  let existing ← orRaise existing (.rejected "refresh-expected-missing")
  demand (existing = expected) (.rejected "refresh-expected-mismatch")
  beginSessionPublication .refresh
  let existing ← readSessionManifestForPublication expected.id
  let existing ← orRaise existing (.rejected "refresh-recheck-missing")
  demand (existing = expected) (.rejected "refresh-recheck-mismatch")
  validateSessionPublication replacement .refresh
  writeSessionJsonAtomically replacement

def saveCompletedSession (session : HlsPlaybackSession) : SessionM Unit := do
  let completed := sanitizedCompletedSession session
  let mode ← sessionPublicationMode completed true
  saveSessionWithMode completed mode

def completedLibraryItemId (sessionId : String) : String := "bilibili.hls." ++ sessionId

def saveRestoredSourceCompletedSession (completed : HlsPlaybackSession)
    (completedLibraryItem : String) : SessionM Unit := do
  let completed := sanitizedCompletedSession completed
  demand (completedLibraryItem = completedLibraryItemId completed.id)
    (.rejected "restore-task-item-binding")
  let existing ← readSessionManifestForPublication completed.id
  let existing ← orRaise existing (.rejected "restore-source-manifest-missing")
  let proved ← sourceRestoreCompletionMatches existing completed
  demand (proved = true) (.rejected "restore-source-proof")
  beginSessionPublication .ownedRestoration
  let existing ← readSessionManifestForPublication completed.id
  let existing ← orRaise existing (.rejected "restore-source-manifest-recheck")
  let proved ← sourceRestoreCompletionMatches existing completed
  demand (proved = true) (.rejected "restore-source-proof-recheck")
  writeSessionJsonAtomically completed

/-- The program changes no file and returns only values of `values`. -/
abbrev Looks {Value : Type} (program : SessionM Value) (files : SessionFiles)
    (values : Value → Prop) : Prop :=
  Inspects program files values fun _ => True

section

variable {files : SessionFiles} {session existing completed : HlsPlaybackSession}
  {sessionId resourceId : String}

theorem looks_readSession : Looks (readSessionManifestForPublication sessionId) files
    fun found => storedSession sessionId files = .ok found :=
  inspects_inspect (fun _ h => h) (fun _ _ => trivial) trivial

theorem looks_attempt {Value : Type} {look : SessionFiles → Except SessionError Value} :
    Looks (attempt (inspect .io look : SessionM Value)) files fun _ => True := by
  have hinspects : Looks (inspect .io look) files fun _ => True :=
    inspects_inspect (fun _ _ => trivial) (fun _ _ => trivial) trivial
  exact (inspects_attempt hinspects).mono (fun _ _ => trivial) (fun _ h => h)

theorem looks_cachedResource : Looks (cachedResource sessionId resourceId) files fun _ => True := by
  apply Inspects.bind looks_attempt
  intro found _
  cases found with
  | none => exact inspects_pure trivial
  | some metadata =>
    have hm : Looks (resourceCacheKeyMatches sessionId resourceId metadata.cacheKey) files
        fun _ => True := by
      apply Inspects.bind looks_attempt
      intro found _
      cases found <;> exact inspects_pure trivial
    apply Inspects.bind hm
    intro same _
    cases same with
    | false => exact inspects_pure trivial
    | true =>
      apply Inspects.bind looks_attempt
      intro length _
      split <;> exact inspects_pure trivial

theorem looks_sourceResourceIsComplete {resource : HlsMediaResource} :
    Looks (sourceResourceIsComplete sessionId resource) files fun _ => True := by
  apply Inspects.bind looks_cachedResource
  intro found _
  cases found <;> exact inspects_pure trivial

theorem looks_sourceSessionResourcesAreComplete :
    Looks (sourceSessionResourcesAreComplete session) files fun _ => True := by
  apply Inspects.bind looks_sourceResourceIsComplete
  intro complete _
  cases complete with
  | false => exact inspects_pure trivial
  | true =>
    cases session.variant.audio with
    | none => exact inspects_pure trivial
    | some audio => exact looks_sourceResourceIsComplete

theorem looks_completedPublicationMatches :
    Looks (completedPublicationMatches existing completed) files fun proved => proved = true →
      sessionCompletionMatches existing completed = true ∨
        transcodeBindingsMatch existing completed = true := by
  unfold completedPublicationMatches
  by_cases hcompn : sessionCompletionMatches existing completed = true
  · rw [if_pos hcompn]
    exact inspects_pure fun _ => .inl hcompn
  rw [if_neg hcompn]
  unfold completedTranscodeMatches
  cases htranscode : transcodeBindingsMatch existing completed with
  | false => exact inspects_pure fun h => by cases h
  | true =>
    apply Inspects.bind looks_attempt
    intro found _
    cases found with
    | none => exact inspects_pure fun _ => .inr rfl
    | some metadata =>
      simp only
      split
      · exact inspects_pure fun _ => .inr trivial
      · apply Inspects.bind looks_attempt
        intro length _
        exact inspects_pure fun _ => .inr trivial

theorem looks_sourceRestoreCompletionMatches :
    Looks (sourceRestoreCompletionMatches existing completed) files fun proved => proved = true →
      sanitizedCompletedSession (sourceCompletedSessionForRestore existing) = completed := by
  unfold sourceRestoreCompletionMatches
  split
  · exact inspects_pure fun h => by cases h
  apply Inspects.bind looks_sourceSessionResourcesAreComplete
  intro complete _
  cases complete with
  | false => exact inspects_pure fun h => by cases h
  | true => exact inspects_pure fun h => by simpa using h

def ModePermits (files : SessionFiles) (session : HlsPlaybackSession) (completed : Bool) :
    SessionPublicationMode → Prop
  | .fresh => storedSession session.id files = .ok none
  | .refresh => completed = false ∧ ∃ existing,
      storedSession session.id files = .ok (some existing) ∧
        sessionRefreshMatches existing session = true
  | .ownedCompletion => completed = true ∧ ∃ existing,
      storedSession session.id files = .ok (some existing) ∧
        (sessionCompletionMatches existing session = true ∨
          transcodeBindingsMatch existing session = true)
  | .ownedRestoration => False

theorem looks_sessionPublicationMode {complete : Bool} :
    Looks (sessionPublicationMode session complete) files
      (ModePermits files session complete) := by
  apply Inspects.bind looks_readSession
  intro found hf
  cases found with
  | none => exact inspects_pure hf
  | some existing =>
    cases complete with
    | true =>
      apply Inspects.bind looks_completedPublicationMatches
      intro proved hproved
      cases proved with
      | true => exact inspects_pure ⟨rfl, existing, hf, hproved rfl⟩
      | false => exact inspects_raise trivial
    | false =>
      simp only [Bool.false_eq_true, if_false]
      cases hstage : sessionRefreshMismatchStage existing session with
      | none =>
        have hm : sessionRefreshMatches existing session = true := by
          rw [sessionRefreshMatches, hstage]
          rfl
        exact inspects_pure ⟨rfl, existing, hf, hm⟩
      | some stage => exact inspects_raise trivial

variable {mode : SessionPublicationMode}

theorem looks_validateSessionPublication :
    Looks (validateSessionPublication session mode) files fun _ => True := by
  apply Inspects.bind looks_readSession
  intro found _
  split
  · exact inspects_pure trivial
  · exact (inspects_demand trivial).mono (fun _ _ => trivial) (fun _ h => h)
  · apply Inspects.bind looks_completedPublicationMatches
    intro proved _
    exact (inspects_demand trivial).mono (fun _ _ => trivial) (fun _ h => h)
  · exact inspects_raise trivial

theorem looks_beginSessionPublication : Looks (beginSessionPublication mode) files fun _ => True :=
  inspects_inspect (fun _ _ => trivial) (fun _ _ => trivial) trivial

/-- Where a call ends that may write `session`: it fails and changes nothing, or it was
permitted and the file is replaced. -/
def Installs (files : SessionFiles) (session : HlsPlaybackSession) (permitted : Prop) :
    Post SessionFiles SessionError Unit :=
  ⟨fun _ t => permitted ∧ t = files.install session, fun _ t => t = files,
    fun t => t = files ∨ permitted ∧ t = files.install session⟩

variable {permitted : Prop}

theorem ends_writeSessionJson (h : permitted) :
    Ends (writeSessionJsonAtomically session) files (Installs files session permitted) := by
  have htemp : Looks (inspect .io fun _ => .ok ()) files fun _ => True :=
    inspects_inspect (fun _ _ => trivial) (fun _ _ => trivial) trivial
  refine Ends.bind_inspects htemp (fun _ _ => ?_) (fun _ _ => rfl) (.inl rfl)
  exact ends_atomic ⟨h, rfl⟩ rfl (.inl rfl) (.inr ⟨h, rfl⟩)

theorem Ends.after_looks {Value : Type} {first : SessionM Value} {next : Value → SessionM Unit}
    {values : Value → Prop} (hfst : Looks first files values)
    (hn : ∀ value, values value → Ends (next value) files (Installs files session permitted)) :
    Ends (first >>= next) files (Installs files session permitted) :=
  Ends.bind_inspects hfst hn (fun _ _ => rfl) (.inl rfl)

theorem ends_saveSessionWithMode (h : permitted) :
    Ends (saveSessionWithMode session mode) files (Installs files session permitted) := by
  apply Ends.after_looks looks_beginSessionPublication
  intro _ _
  apply Ends.after_looks looks_validateSessionPublication
  intro _ _
  exact ends_writeSessionJson h

end

inductive SessionCall
  | save (session : HlsPlaybackSession)
  | saveRefreshed (expected replacement : HlsPlaybackSession)
  | saveCompleted (session : HlsPlaybackSession)
  | saveRestored (completed : HlsPlaybackSession) (completedLibraryItem : String)

namespace SessionCall

def perform : SessionCall → SessionM Unit
  | .save session => saveSession session
  | .saveRefreshed expected replacement => saveRefreshedSession expected replacement
  | .saveCompleted session => saveCompletedSession session
  | .saveRestored completed item => saveRestoredSourceCompletedSession completed item

def session : SessionCall → HlsPlaybackSession
  | .save session => session
  | .saveRefreshed _ replacement => replacement
  | .saveCompleted session => session
  | .saveRestored completed _ => completed

def written (files : SessionFiles) : SessionCall → HlsPlaybackSession
  | .save session =>
    match storedSession session.id files with
    | .ok (some existing) =>
      if sessionRefreshMatches existing session then
        preservePersistedRequestCandidates existing session
      else session
    | _ => session
  | .saveRefreshed _ replacement => replacement
  | .saveCompleted session => sanitizedCompletedSession session
  | .saveRestored completed _ => sanitizedCompletedSession completed

def Permitted (files : SessionFiles) : SessionCall → Prop
  | .save session =>
    storedSession session.id files = .ok none ∨
      ∃ existing, storedSession session.id files = .ok (some existing) ∧
        sessionRefreshMatches existing session = true
  | .saveRefreshed expected replacement =>
    storedSession expected.id files = .ok (some expected) ∧ expected.id = replacement.id ∧
      sessionRefreshMatches expected replacement = true
  | .saveCompleted session =>
    storedSession session.id files = .ok none ∨
      ∃ existing, storedSession session.id files = .ok (some existing) ∧
        (sessionCompletionMatches existing (sanitizedCompletedSession session) = true ∨
          transcodeBindingsMatch existing (sanitizedCompletedSession session) = true)
  | .saveRestored completed _ =>
    ∃ existing, storedSession completed.id files = .ok (some existing) ∧
      sanitizedCompletedSession (sourceCompletedSessionForRestore existing) =
        sanitizedCompletedSession completed

end SessionCall

section

variable {files : SessionFiles}

theorem ends_saveSession {session : HlsPlaybackSession} :
    Ends (saveSession session) files (Installs files ((SessionCall.save session).written files)
      ((SessionCall.save session).Permitted files)) := by
  apply Ends.after_looks looks_readSession
  intro found hf
  cases found with
  | none =>
    have hwrit : (SessionCall.save session).written files = session := by
      simp only [SessionCall.written, hf]
    rw [hwrit]
    apply Ends.after_looks looks_sessionPublicationMode
    intro mode _
    exact ends_saveSessionWithMode (.inl hf)
  | some existing =>
    have hwrit : (SessionCall.save session).written files =
        if sessionRefreshMatches existing session then
          preservePersistedRequestCandidates existing session
        else session := by
      simp only [SessionCall.written, hf]
    rw [hwrit]
    by_cases hm : sessionRefreshMatches existing session = true
    · simp only [hm, if_true]
      apply Ends.after_looks looks_sessionPublicationMode
      intro mode _
      exact ends_saveSessionWithMode (.inr ⟨existing, hf, hm⟩)
    · simp only [hm]
      apply Ends.after_looks looks_sessionPublicationMode
      intro mode hmode
      apply ends_saveSessionWithMode
      cases mode with
      | fresh => exact .inl hmode
      | refresh =>
        obtain ⟨-, other, ho, hos⟩ := hmode
        exact .inr ⟨other, ho, hos⟩
      | ownedCompletion => exact absurd hmode.1 (by decide)
      | ownedRestoration => exact hmode.elim

theorem ends_saveRefreshedSession {expected replacement : HlsPlaybackSession} :
    Ends (saveRefreshedSession expected replacement) files (Installs files replacement
      ((SessionCall.saveRefreshed expected replacement).Permitted files)) := by
  apply Ends.after_looks (inspects_demand trivial)
  intro _ hbind
  apply Ends.after_looks looks_readSession
  intro found hf
  apply Ends.after_looks (inspects_orRaise trivial)
  rintro existing rfl
  apply Ends.after_looks (inspects_demand trivial)
  rintro _ rfl
  apply Ends.after_looks looks_beginSessionPublication
  intro _ _
  apply Ends.after_looks looks_readSession
  intro _ _
  apply Ends.after_looks (inspects_orRaise trivial)
  intro _ _
  apply Ends.after_looks (inspects_demand trivial)
  intro _ _
  apply Ends.after_looks looks_validateSessionPublication
  intro _ _
  exact ends_writeSessionJson ⟨hf, hbind⟩

theorem ends_saveCompletedSession {session : HlsPlaybackSession} :
    Ends (saveCompletedSession session) files (Installs files (sanitizedCompletedSession session)
      ((SessionCall.saveCompleted session).Permitted files)) := by
  apply Ends.after_looks looks_sessionPublicationMode
  intro mode hmode
  apply ends_saveSessionWithMode
  cases mode with
  | fresh => exact .inl hmode
  | refresh => exact absurd hmode.1 (by decide)
  | ownedCompletion => exact .inr hmode.2
  | ownedRestoration => exact hmode.elim

theorem ends_saveRestoredSession {completed : HlsPlaybackSession} {item : String} :
    Ends (saveRestoredSourceCompletedSession completed item) files
      (Installs files (sanitizedCompletedSession completed)
        ((SessionCall.saveRestored completed item).Permitted files)) := by
  apply Ends.after_looks (inspects_demand trivial)
  intro _ _
  apply Ends.after_looks looks_readSession
  intro found hf
  apply Ends.after_looks (inspects_orRaise trivial)
  rintro existing rfl
  apply Ends.after_looks looks_sourceRestoreCompletionMatches
  intro proved hproved
  apply Ends.after_looks (inspects_demand trivial)
  rintro _ rfl
  apply Ends.after_looks looks_beginSessionPublication
  intro _ _
  apply Ends.after_looks looks_readSession
  intro _ _
  apply Ends.after_looks (inspects_orRaise trivial)
  intro _ _
  apply Ends.after_looks looks_sourceRestoreCompletionMatches
  intro _ _
  apply Ends.after_looks (inspects_demand trivial)
  intro _ _
  exact ends_writeSessionJson ⟨existing, hf, hproved rfl⟩

theorem ends_perform (call : SessionCall) :
    Ends call.perform files (Installs files (call.written files) (call.Permitted files)) := by
  cases call with
  | save session => exact ends_saveSession
  | saveRefreshed expected replacement => exact ends_saveRefreshedSession
  | saveCompleted session => exact ends_saveCompletedSession
  | saveRestored completed item => exact ends_saveRestoredSession

end

end NetPlayer.Hls
