import NetPlayer.Hls.Representation
import NetPlayer.Library.PagedSnapshots
import NetPlayer.Library.ProtoLength
import NetPlayer.Segments.Fragments

/-!
# The store of Bilibili resolutions

A resolved input is kept as a snapshot of its candidates for a while, so that a client can
page through it and select from it with opaque tokens. A draw of a UUID is an argument; the
sizes that `mem::size_of` gives are a parameter. A `usize` has 64 bits here.
-/

namespace NetPlayer.Paging

open Hls (BilibiliContentIdentity BilibiliContentKind trim)
open Segments (checkedAdd checkedMul)
open ProtoLength PagedSnapshots

inductive Code
  | invalidArgument | notFound | failedPrecondition | resourceExhausted | aborted | internal
  deriving DecidableEq

structure Status where
  code : Code
  message : String
  deriving DecidableEq

def Status.invalidArgument (message : String) : Status := ⟨.invalidArgument, message⟩
def Status.failedPrecondition (message : String) : Status := ⟨.failedPrecondition, message⟩
def Status.resourceExhausted (message : String) : Status := ⟨.resourceExhausted, message⟩

/-- An early return with `error` unless the condition holds. -/
def demand (condition : Prop) [Decidable condition] (error : Status) : Except Status Unit :=
  if condition then .ok () else .error error

/-- `Uuid::new_v4().simple()`. -/
structure Uuid where
  text : String
  length : text.utf8ByteSize = 32
  deriving DecidableEq

/-- `BILIBILI_RESOLUTION_SESSION_TTL`, in nanoseconds. -/
def bilibiliResolutionSessionTtl : Nat := 15 * 60 * 1000000000
def maxBilibiliResolutionPageSize : Nat := 200
def maxBilibiliResolutionCandidates : Nat := 10000
def maxBilibiliResolutionTaskCandidates : Nat := 100
def maxBilibiliResolutionSessions : Nat := 32
def maxBilibiliResolutionTotalCandidates : Nat := 50000
def maxBilibiliResolutionTokenBytes : Nat := 256
def maxBilibiliResolutionSnapshotBytes : Nat := 64 * 1024 * 1024
def maxBilibiliResolutionStringBytes : Nat := 64 * 1024
def bilibiliPageTokenEstimatedBytes : Nat := 14 + 32

/-- The last `SystemTime`, in nanoseconds. -/
def systemTimeMax : Nat := (2 ^ 63 - 1) * 1000000000 + 999999999

structure BilibiliResolvedCandidate where
  selectionId : String
  title : String
  subtitle : String
  sourceKind : String
  contentId : String
  identity : BilibiliContentIdentity
  index : UInt32
  durationSeconds : Option UInt32
  coverUri : String
  deriving DecidableEq

structure BilibiliInputResolution where
  source : String
  title : String
  sourceKind : String
  candidates : List BilibiliResolvedCandidate
  defaultSelectionId : String
  candidatesTruncated : Bool

structure BilibiliPlaybackPolicy where
  transcodingPreference : Int32
  compatibleVariantPreference : Int32
  weakNetworkPreference : Int32

structure BilibiliPlaybackOptions where
  qualityPreference : String
  encodingPreference : String
  preferTvApi : Bool
  audioLanguage : String
  playbackPolicy : Option BilibiliPlaybackPolicy

structure BilibiliRequestContext where
  apiMode : Int32
  credentialProfileId : String

def BilibiliPlaybackPolicy.encodedLen (policy : BilibiliPlaybackPolicy) : Nat :=
  int32Field policy.transcodingPreference + int32Field policy.compatibleVariantPreference +
    int32Field policy.weakNetworkPreference

def BilibiliPlaybackOptions.encodedLen (options : BilibiliPlaybackOptions) : Nat :=
  stringField options.qualityPreference + stringField options.encodingPreference +
    boolField options.preferTvApi + stringField options.audioLanguage +
    messageField BilibiliPlaybackPolicy.encodedLen options.playbackPolicy

def BilibiliRequestContext.encodedLen (context : BilibiliRequestContext) : Nat :=
  int32Field context.apiMode + stringField context.credentialProfileId

structure TokenizedBilibiliCandidate where
  token : String
  candidate : BilibiliResolvedCandidate
  deriving DecidableEq

structure BilibiliResolutionSessionView where
  id : String
  source : String
  title : String
  sourceKind : String
  createdAt : Nat
  expiresAt : Nat
  defaultCandidateToken : String
  candidatesTruncated : Bool
  requestContext : Option BilibiliRequestContext

structure BilibiliResolutionPageView where
  session : BilibiliResolutionSessionView
  candidates : List TokenizedBilibiliCandidate
  totalSize : Nat
  nextPageToken : String
  snapshotId : String

structure AcceptedBilibiliResolution where
  source : String
  title : String
  options : Option BilibiliPlaybackOptions
  requestContext : Option BilibiliRequestContext
  candidates : List BilibiliResolvedCandidate

structure BilibiliResolutionSessionSnapshot where
  view : BilibiliResolutionSessionView
  snapshotId : String
  options : Option BilibiliPlaybackOptions
  candidates : List TokenizedBilibiliCandidate
  candidateOffsetsByToken : String → Option Nat
  pageTokensByOffset : Nat → Option String
  expiresAt : Nat
  estimatedBytes : Nat

def BilibiliResolutionSessionSnapshot.withPageToken (snapshot : BilibiliResolutionSessionSnapshot)
    (offset : Nat) (token : String) : BilibiliResolutionSessionSnapshot :=
  { snapshot with
    pageTokensByOffset := Function.update snapshot.pageTokensByOffset offset (some token) }

structure BilibiliResolutionPageCursor where
  sessionId : String
  snapshotId : String
  offset : Nat
  deriving DecidableEq

structure BilibiliResolutionStore where
  sessionsById : AList fun _ : String => BilibiliResolutionSessionSnapshot
  sessionOrder : List String
  pageCursorsByToken : String → Option BilibiliResolutionPageCursor
  totalCandidates : Nat
  totalBytes : Nat

def BilibiliResolutionStore.default : BilibiliResolutionStore := ⟨∅, [], fun _ => none, 0, 0⟩

def validateString (label value : String) : Except Status Unit :=
  demand (value.utf8ByteSize ≤ maxBilibiliResolutionStringBytes)
    (.resourceExhausted (label ++ " exceeds the resolution-session limit."))

def validateRequiredString (label value : String) : Except Status Unit := do
  validateString label value
  demand (trim value ≠ "")
    (.failedPrecondition (label ++ " is missing from the resolved input."))

def matchesContentId (identity : BilibiliContentIdentity) (contentId : String) : Bool :=
  match identity.kind with
  | .videoPage => identity.cid.any fun cid => contentId == toString cid
  | .seasonEpisode => identity.epid.any fun epid => contentId == toString epid
  | .collectionItem =>
    identity.bvid.any (fun bvid => contentId == bvid) ||
      identity.aid.any fun aid => contentId == "av" ++ toString aid

variable (candidate : BilibiliResolvedCandidate)

def isIdentified : Bool :=
  trim candidate.selectionId ≠ "" && trim candidate.title ≠ "" &&
    trim candidate.sourceKind ≠ "" && trim candidate.contentId ≠ "" && candidate.index ≠ 0 &&
    candidate.identity.isComplete && matchesContentId candidate.identity candidate.contentId

def validateCandidate : Except Status Unit := do
  validateString "Bilibili candidate selection id" candidate.selectionId
  validateString "Bilibili candidate title" candidate.title
  validateString "Bilibili candidate subtitle" candidate.subtitle
  validateString "Bilibili candidate source kind" candidate.sourceKind
  validateString "Bilibili candidate content id" candidate.contentId
  validateString "Bilibili candidate cover URI" candidate.coverUri
  demand (isIdentified candidate)
    (.failedPrecondition "Bilibili input resolved an incomplete stable candidate identity.")
  match candidate.identity.bvid with
  | some bvid => validateString "Bilibili candidate BVID" bvid
  | none => .ok ()

/-- The loop over the candidates; `seen` are the selection ids so far. -/
def validateCandidates (seen : List String) : List BilibiliResolvedCandidate → Except Status Unit
  | [] => .ok ()
  | candidate :: rest => do
      validateCandidate candidate
      demand (candidate.selectionId ∉ seen)
        (.failedPrecondition "Bilibili input resolved duplicate stable candidate identities.")
      validateCandidates (candidate.selectionId :: seen) rest

def validateRequestContext : Option BilibiliRequestContext → Except Status Unit
  | none => .ok ()
  | some context => do
      validateString "Bilibili credential profile id" context.credentialProfileId
      demand (context.encodedLen ≤ maxBilibiliResolutionStringBytes)
        (.resourceExhausted "Bilibili request context exceeds the resolution-session limit.")

def validateResolution (resolution : BilibiliInputResolution)
    (options : Option BilibiliPlaybackOptions) (requestContext : Option BilibiliRequestContext) :
    Except Status Unit := do
  demand (resolution.candidates.length ≤ maxBilibiliResolutionCandidates)
    (.resourceExhausted "Bilibili input contains more than 10000 candidates.")
  demand (resolution.candidates ≠ [])
    (if resolution.candidatesTruncated then
      .resourceExhausted "Bilibili input candidate window is empty and truncated."
    else .failedPrecondition "Bilibili input did not resolve any selectable candidates.")
  validateRequiredString "Bilibili resolution source" resolution.source
  validateRequiredString "Bilibili resolution title" resolution.title
  validateRequiredString "Bilibili resolution source kind" resolution.sourceKind
  validateString "Bilibili default candidate identity" resolution.defaultSelectionId
  demand (∀ playback ∈ options, playback.encodedLen ≤ maxBilibiliResolutionStringBytes)
    (.resourceExhausted "Bilibili playback options exceed the resolution-session limit.")
  validateRequestContext requestContext
  validateCandidates [] resolution.candidates
  demand (resolution.defaultSelectionId = "" ∨
      resolution.defaultSelectionId ∈ resolution.candidates.map (·.selectionId))
    (.failedPrecondition "Bilibili input resolved a default candidate outside the snapshot.")

def validatePageSize (pageSize : Nat) : Except Status Unit :=
  demand (pageSize ≠ 0 ∧ pageSize ≤ maxBilibiliResolutionPageSize)
    (.invalidArgument "Bilibili resolution page size must be between 1 and 200.")

def normalizedSessionId (sessionId : String) : Except Status String := do
  demand (trim sessionId ≠ "") (.invalidArgument "Bilibili resolution session id is required.")
  demand (sessionId.utf8ByteSize ≤ maxBilibiliResolutionTokenBytes)
    (.invalidArgument "Bilibili resolution session id is invalid.")
  return sessionId

def validateToken (label token : String) : Except Status Unit :=
  demand (token.utf8ByteSize ≤ maxBilibiliResolutionTokenBytes)
    (.invalidArgument (label ++ " is invalid."))

def resolutionNotFound : Status :=
  ⟨.notFound, "Bilibili resolution session was not found; resolve the input again."⟩

def resolutionExpired : Status :=
  .failedPrecondition "Bilibili resolution session expired; resolve the input again."

def resolutionSizeOverflow : Status :=
  .resourceExhausted "Bilibili resolution snapshot size overflowed the server limit."

/-- What `mem::size_of` gives for the types that a session owns. -/
structure OwnedSizes where
  sessionSnapshot : Nat
  tokenizedCandidate : Nat
  offsetEntry : Nat
  pageTokenEntry : Nat
  cursorEntry : Nat

def checkedSum (start : Nat) (parts : List Nat) : Option Nat := parts.foldlM checkedAdd start

def TokenizedBilibiliCandidate.ownedBytes (sizes : OwnedSizes)
    (candidate : TokenizedBilibiliCandidate) : List Nat :=
  [sizes.tokenizedCandidate, candidate.token.utf8ByteSize, candidate.token.utf8ByteSize,
    sizes.offsetEntry, candidate.candidate.selectionId.utf8ByteSize,
    candidate.candidate.title.utf8ByteSize, candidate.candidate.subtitle.utf8ByteSize,
    candidate.candidate.sourceKind.utf8ByteSize, candidate.candidate.contentId.utf8ByteSize,
    candidate.candidate.coverUri.utf8ByteSize,
    (candidate.candidate.identity.bvid.elim 0 String.utf8ByteSize), 32]

def estimateSessionBytes (sizes : OwnedSizes) (view : BilibiliResolutionSessionView)
    (snapshotId : String) (options : Option BilibiliPlaybackOptions)
    (requestContext : Option BilibiliRequestContext)
    (candidates : List TokenizedBilibiliCandidate) : Option Nat := do
  let session ← checkedSum sizes.sessionSnapshot
    [view.id.utf8ByteSize, view.source.utf8ByteSize, view.title.utf8ByteSize,
      view.sourceKind.utf8ByteSize, view.defaultCandidateToken.utf8ByteSize,
      snapshotId.utf8ByteSize, options.elim 0 BilibiliPlaybackOptions.encodedLen,
      requestContext.elim 0 BilibiliRequestContext.encodedLen, view.id.utf8ByteSize,
      view.id.utf8ByteSize]
  let owned ← checkedSum session
    (candidates.flatMap (TokenizedBilibiliCandidate.ownedBytes sizes))
  -- A cursor at every interior offset is paid for in advance.
  let perCursorBytes ← checkedSum sizes.pageTokenEntry
    [sizes.cursorEntry, bilibiliPageTokenEstimatedBytes * 2, view.id.utf8ByteSize,
      snapshotId.utf8ByteSize, 64]
  let cursorBytes ← checkedMul perCursorBytes (candidates.length - 1)
  checkedAdd owned cursorBytes

def sessionIdOf (uuid : Uuid) : String := "bilibili-resolution-" ++ uuid.text
def snapshotIdOf (uuid : Uuid) : String := "bilibili-resolution-snapshot-" ++ uuid.text
def candidateTokenOf (uuid : Uuid) : String := "bilibili-candidate-" ++ uuid.text
def pageTokenOf (uuid : Uuid) : String := "bilibili-page-" ++ uuid.text

structure CreateDraws where
  session : Uuid
  snapshot : Uuid
  candidate : Nat → Uuid
  page : Uuid

def tokenizeFrom (uuids : Nat → Uuid) (offset : Nat) :
    List BilibiliResolvedCandidate → List TokenizedBilibiliCandidate
  | [] => []
  | candidate :: rest =>
    ⟨candidateTokenOf (uuids offset), { candidate with coverUri := "" }⟩ ::
      tokenizeFrom uuids (offset + 1) rest

/-- The lookup map of the tokens; a later entry replaces an earlier one of the same token. -/
def offsetsFrom (offsets : String → Option Nat) (offset : Nat) :
    List TokenizedBilibiliCandidate → String → Option Nat
  | [] => offsets
  | candidate :: rest =>
    offsetsFrom (Function.update offsets candidate.token (some offset)) (offset + 1) rest

def defaultCandidateToken (selectionId : String) (candidates : List TokenizedBilibiliCandidate) :
    String :=
  if selectionId = "" then ""
  else ((candidates.find? fun candidate => candidate.candidate.selectionId = selectionId).map
    (·.token)).getD ""

structure CreateRequest where
  resolution : BilibiliInputResolution
  options : Option BilibiliPlaybackOptions
  requestContext : Option BilibiliRequestContext
  now : Nat
  wallClockNow : Nat
  pageSize : Nat
  draws : CreateDraws

/-- The part of `create_session` that does not look at the store: the checks and the new
snapshot. -/
def CreateRequest.snapshot (sizes : OwnedSizes) (request : CreateRequest) :
    Except Status BilibiliResolutionSessionSnapshot := do
  let resolution := request.resolution
  validatePageSize request.pageSize
  validateResolution resolution request.options request.requestContext
  demand (request.wallClockNow + bilibiliResolutionSessionTtl ≤ systemTimeMax)
    ⟨.internal, "Bilibili resolution expiry could not be represented."⟩
  let candidates := tokenizeFrom request.draws.candidate 0 resolution.candidates
  let view : BilibiliResolutionSessionView :=
    { id := sessionIdOf request.draws.session
      source := resolution.source
      title := resolution.title
      sourceKind := resolution.sourceKind
      createdAt := request.wallClockNow
      expiresAt := request.wallClockNow + bilibiliResolutionSessionTtl
      defaultCandidateToken := defaultCandidateToken resolution.defaultSelectionId candidates
      candidatesTruncated := resolution.candidatesTruncated
      requestContext := request.requestContext }
  let snapshotId := snapshotIdOf request.draws.snapshot
  match estimateSessionBytes sizes view snapshotId request.options request.requestContext
      candidates with
  | none => .error resolutionSizeOverflow
  | some estimatedBytes =>
    demand (estimatedBytes ≤ maxBilibiliResolutionSnapshotBytes)
      (.resourceExhausted "Bilibili resolution snapshot exceeds the server byte limit.")
    return {
      view := view
      snapshotId := snapshotId
      options := request.options
      candidates := candidates
      candidateOffsetsByToken := offsetsFrom (fun _ => none) 0 candidates
      pageTokensByOffset := fun _ => none
      expiresAt := request.now + bilibiliResolutionSessionTtl
      estimatedBytes := estimatedBytes }

namespace BilibiliResolutionStore

variable (s : BilibiliResolutionStore) (sessionId : String)

def removeSession : BilibiliResolutionStore :=
  match s.sessionsById.lookup sessionId with
  | none => s
  | some snapshot =>
    { sessionsById := s.sessionsById.erase sessionId
      sessionOrder := s.sessionOrder.filter fun candidate => candidate ≠ sessionId
      pageCursorsByToken := fun token =>
        (s.pageCursorsByToken token).filter fun cursor => cursor.sessionId ≠ sessionId
      totalCandidates := s.totalCandidates - snapshot.candidates.length
      totalBytes := s.totalBytes - snapshot.estimatedBytes }

def expired (now : Nat) : List String :=
  (s.sessionsById.entries.filter fun entry => entry.2.expiresAt ≤ now).map Sigma.fst

/-- `prune`; the ids of the expired sessions are `s.expired now`. -/
def prune (now : Nat) : BilibiliResolutionStore :=
  (s.expired now).foldl removeSession s

def issuePageToken (snapshot : BilibiliResolutionSessionSnapshot) (offset : Nat)
    (token : String) : BilibiliResolutionStore :=
  { s with
    sessionsById := s.sessionsById.insert sessionId (snapshot.withPageToken offset token)
    pageCursorsByToken := Function.update s.pageCursorsByToken token
      (some ⟨sessionId, snapshot.snapshotId, offset⟩) }

def pageAtOffset (offset pageSize : Nat) (uuid : Uuid) :
    BilibiliResolutionStore × Except Status BilibiliResolutionPageView :=
  match s.sessionsById.lookup sessionId with
  | none => (s, .error resolutionNotFound)
  | some snapshot =>
    if snapshot.candidates.length < offset then
      (s, .error (.invalidArgument "Bilibili resolution page token offset is invalid."))
    else
      let last := min (offset + pageSize) snapshot.candidates.length
      let view (token : String) : BilibiliResolutionPageView :=
        { session := snapshot.view
          candidates := (snapshot.candidates.take last).drop offset
          totalSize := snapshot.candidates.length
          nextPageToken := token
          snapshotId := snapshot.snapshotId }
      if last < snapshot.candidates.length then
        match snapshot.pageTokensByOffset last with
        | some token => (s, .ok (view token))
        | none =>
          (s.issuePageToken sessionId snapshot last (pageTokenOf uuid),
            .ok (view (pageTokenOf uuid)))
      else (s, .ok (view ""))

def pageOffset (pageToken : Option String) : Except Status Nat :=
  match pageToken.filter fun token => token ≠ "" with
  | none => .ok 0
  | some token => do
      validateToken "Bilibili resolution page token" token
      match s.pageCursorsByToken token with
      | none =>
        .error (.invalidArgument "Bilibili resolution page token is invalid or expired.")
      | some cursor =>
        demand (cursor.sessionId = sessionId) (.invalidArgument
          "Bilibili resolution page token does not belong to this session.")
        match s.sessionsById.lookup sessionId with
        | none => .error resolutionNotFound
        | some snapshot =>
          demand (cursor.snapshotId = snapshot.snapshotId) (.invalidArgument
            "Bilibili resolution page token does not belong to this snapshot.")
          return cursor.offset

def page (pageToken : Option String) (now pageSize : Nat) (uuid : Uuid) :
    BilibiliResolutionStore × Except Status BilibiliResolutionPageView :=
  match validatePageSize pageSize with
  | .error error => (s, .error error)
  | .ok _ =>
    let t := s.prune now
    match normalizedSessionId sessionId with
    | .error error => (t, .error error)
    | .ok sessionId =>
      if sessionId ∈ s.expired now then (t, .error resolutionExpired)
      else
        match t.pageOffset sessionId pageToken with
        | .error error => (t, .error error)
        | .ok offset => t.pageAtOffset sessionId offset pageSize uuid

def capacityExceeded (incomingCandidates incomingBytes : Nat) : Bool :=
  decide (maxBilibiliResolutionSessions ≤ s.sessionsById.entries.length) ||
    decide (maxBilibiliResolutionTotalCandidates <
      saturatingAdd s.totalCandidates incomingCandidates) ||
    decide (maxBilibiliResolutionSnapshotBytes < saturatingAdd s.totalBytes incomingBytes)

/-- The eviction loop, with a bound on its rounds: the store it leaves, and whether there is
room now. -/
def makeRoom (incomingCandidates incomingBytes : Nat) :
    Nat → BilibiliResolutionStore → Option (BilibiliResolutionStore × Bool)
  | 0, _ => none
  | rounds + 1, s =>
    if s.capacityExceeded incomingCandidates incomingBytes then
      match s.sessionOrder with
      | [] => some (s, false)
      | oldest :: _ => makeRoom incomingCandidates incomingBytes rounds (s.removeSession oldest)
    else some (s, true)

def insertSession (snapshot : BilibiliResolutionSessionSnapshot) : BilibiliResolutionStore :=
  { s with
    sessionsById := s.sessionsById.insert sessionId snapshot
    sessionOrder := s.sessionOrder ++ [sessionId]
    totalCandidates := saturatingAdd s.totalCandidates snapshot.candidates.length
    totalBytes := saturatingAdd s.totalBytes snapshot.estimatedBytes }

/-- `create_session`; `none` when the eviction loop takes more rounds than there are sessions in
the order. -/
def createSession (sizes : OwnedSizes) (s : BilibiliResolutionStore) (request : CreateRequest) :
    Option (BilibiliResolutionStore × Except Status BilibiliResolutionPageView) :=
  let s := s.prune request.now
  match request.snapshot sizes with
  | .error error => some (s, .error error)
  | .ok snapshot =>
    match makeRoom snapshot.candidates.length snapshot.estimatedBytes
        (s.sessionOrder.length + 1) s with
    | none => none
    | some (t, false) => some (t, .error (.resourceExhausted
        "Bilibili resolution snapshot capacity is unavailable."))
    | some (t, true) =>
      some ((t.insertSession snapshot.view.id snapshot).page snapshot.view.id none request.now
        request.pageSize request.draws.page)

end BilibiliResolutionStore

end NetPlayer.Paging
