import NetPlayer.Paging.Resolutions

/-!
# Selections from a resolution

A selection names candidates of a snapshot by their tokens: one, several, a range between two
of them in the order of the snapshot, or all.
-/

namespace NetPlayer.Paging

inductive BilibiliResolutionSelectionMode
  | unspecified | single | multiple | range | all
  deriving DecidableEq

def BilibiliResolutionSelectionMode.tryFrom (mode : Int32) :
    Option BilibiliResolutionSelectionMode :=
  if mode = 0 then some .unspecified
  else if mode = 1 then some .single
  else if mode = 2 then some .multiple
  else if mode = 3 then some .range
  else if mode = 4 then some .all
  else none

structure BilibiliResolutionSelection where
  mode : Int32
  candidateTokens : List String
  rangeStartCandidateToken : String
  rangeEndCandidateToken : String

def validateTaskCandidateCount (candidateCount : Nat) : Except Status Unit :=
  demand (candidateCount ≤ maxBilibiliResolutionTaskCandidates) (.resourceExhausted
    "A Bilibili playback task cannot exceed 100 candidates.")

variable (snapshot : BilibiliResolutionSessionSnapshot)

def candidateOffset (token : String) : Except Status Nat :=
  match snapshot.candidateOffsetsByToken token with
  | some offset => .ok offset
  | none => .error (.invalidArgument
      "Bilibili candidate token is invalid, expired, or belongs to another session.")

def requireEmptyRange (first last : String) : Except Status Unit :=
  demand (first = "" ∧ last = "") (.invalidArgument
    "Explicit Bilibili candidate selection cannot include range tokens.")

def validateCandidateTokens : List String → Except Status Unit
  | [] => .ok ()
  | token :: rest => do
      demand (token ≠ "") (.invalidArgument "Bilibili candidate token cannot be empty.")
      validateToken "Bilibili candidate token" token
      validateCandidateTokens rest

def validateRangeToken (label token : String) : Except Status Unit :=
  if token = "" then .ok () else validateToken label token

variable (selection : BilibiliResolutionSelection)

def validateBilibiliResolutionSelection :
    Except Status BilibiliResolutionSelectionMode := do
  demand (selection.candidateTokens.length ≤ maxBilibiliResolutionCandidates) (.resourceExhausted
    "Bilibili resolution selection cannot exceed 10000 candidate tokens.")
  validateCandidateTokens selection.candidateTokens
  let first := selection.rangeStartCandidateToken
  let last := selection.rangeEndCandidateToken
  validateRangeToken "Bilibili range start candidate token" first
  validateRangeToken "Bilibili range end candidate token" last
  match BilibiliResolutionSelectionMode.tryFrom selection.mode with
  | none => .error (.invalidArgument "Unknown Bilibili resolution selection mode.")
  | some .single => do
      requireEmptyRange first last
      demand (selection.candidateTokens.length = 1) (.invalidArgument
        "Single Bilibili resolution selection requires exactly one candidate token.")
      return .single
  | some .multiple => do
      requireEmptyRange first last
      demand (selection.candidateTokens ≠ []) (.invalidArgument
        "Multiple Bilibili resolution selection requires candidate tokens.")
      validateTaskCandidateCount selection.candidateTokens.length
      return .multiple
  | some .range => do
      demand (selection.candidateTokens = [] ∧ first ≠ "" ∧ last ≠ "") (.invalidArgument
        "Range Bilibili resolution selection requires only start and end candidate tokens.")
      return .range
  | some .all => do
      demand (selection.candidateTokens = [] ∧ first = "" ∧ last = "") (.invalidArgument
        "All Bilibili resolution selection cannot include candidate tokens.")
      return .all
  | some .unspecified =>
    .error (.invalidArgument "Bilibili resolution selection mode is required.")

/-- The offsets of the tokens; `seen` are the offsets so far. -/
def distinctOffsets (snapshot : BilibiliResolutionSessionSnapshot) (seen : List Nat) :
    List String → Except Status (List Nat)
  | [] => .ok []
  | token :: rest => do
      let offset ← candidateOffset snapshot token
      demand (offset ∉ seen) (.invalidArgument
        "Bilibili resolution selection contains a duplicate candidate token.")
      let offsets ← distinctOffsets snapshot (offset :: seen) rest
      return offset :: offsets

def rangeOffsets (first last : String) :
    Except Status (List Nat) := do
  let start ← candidateOffset snapshot first
  let stop ← candidateOffset snapshot last
  demand (start ≤ stop) (.invalidArgument
    "Bilibili resolution range start cannot follow its end in snapshot order.")
  validateTaskCandidateCount (stop - start + 1)
  return List.range' start (stop - start + 1)

def selectedOffsets : Except Status (List Nat) := do
  match ← validateBilibiliResolutionSelection selection with
  | .single => do
      let offset ← candidateOffset snapshot (selection.candidateTokens.headD "")
      return [offset]
  | .multiple => do
      validateTaskCandidateCount selection.candidateTokens.length
      distinctOffsets snapshot [] selection.candidateTokens
  | .range =>
    rangeOffsets snapshot selection.rangeStartCandidateToken selection.rangeEndCandidateToken
  | .all => do
      validateTaskCandidateCount snapshot.candidates.length
      return List.range snapshot.candidates.length
  | .unspecified => .error (.invalidArgument "Bilibili resolution selection mode is required.")

def BilibiliResolutionStore.acceptSelection (s : BilibiliResolutionStore) (sessionId : String)
    (selection : BilibiliResolutionSelection) (now : Nat) :
    BilibiliResolutionStore × Except Status AcceptedBilibiliResolution :=
  let t := s.prune now
  (t, do
    let sessionId ← normalizedSessionId sessionId
    demand (sessionId ∉ s.expired now) resolutionExpired
    match t.sessionsById.lookup sessionId with
    | none => .error resolutionNotFound
    | some snapshot =>
      let offsets ← selectedOffsets snapshot selection
      return {
        source := snapshot.view.source
        title := snapshot.view.title
        options := snapshot.options
        requestContext := snapshot.view.requestContext
        candidates := offsets.filterMap fun offset =>
          snapshot.candidates[offset]?.map (·.candidate) })

end NetPlayer.Paging
