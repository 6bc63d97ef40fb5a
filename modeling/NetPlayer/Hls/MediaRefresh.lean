import NetPlayer.Hls.Registry
import NetPlayer.Hls.Representation
import NetPlayer.Hls.SessionSaves

/-!
# Refreshing the media requests of a session

Any number of calls refresh one session, each with a copy of it that may be old.
A call compares its copy with the registered session three times: at once, when
it holds the lock of the session's entry, and when its plan has arrived. Between
two critical sections anything else may happen.
-/

namespace NetPlayer.Hls

open Faulty

inductive HlsMediaRefreshError
  | cancelled
  | preempted
  | unavailable
  | identityMismatch
  | persistence (error : SessionError)
  deriving DecidableEq

def ticksPerSecond : Nat := 1000000000

def hlsMediaRefreshCooldown : Nat := 60 * ticksPerSecond
def hlsMediaRefreshMaxResourceCooldowns : Nat := 64

/-- One step of the loop of `preserve_concurrent_media_request_updates`, on the resource of
the replacement at a position. -/
def preserveAt (expectedRequests currentRequests : List (String × BilibiliMediaRequest))
    (refreshedResourceId : Option String) (position : Nat) (replacement : HlsMediaResource) :
    HlsMediaResource :=
  match expectedRequests[position]?, currentRequests[position]? with
  | some (expectedId, expected), some (currentId, current) =>
    if expectedId == currentId && currentId == replacement.id &&
        refreshedResourceId != some currentId &&
        requestUrlsOrHeadersDiffer expected current then
      replacement.mapRequest (preserveRequestCandidates · current)
    else replacement
  | _, _ => replacement

def updateResources (update : Nat → HlsMediaResource → HlsMediaResource) :
    Nat → List HlsVariant → List HlsVariant
  | _, [] => []
  | position, variant :: rest =>
    { variant with
      video := update position variant.video
      audio := variant.audio.map (update (position + 1)) } ::
    updateResources update (position + variant.resources.length) rest

def preserveConcurrentMediaRequestUpdates (expected current replacement : HlsPlaybackSession)
    (refreshedResourceId : Option String) : HlsPlaybackSession :=
  let update := preserveAt (sessionResourceRequests expected) (sessionResourceRequests current)
    refreshedResourceId
  match updateResources update 0 replacement.resourceVariants with
  | variant :: alternates =>
    { replacement with variant := variant, alternateVariants := alternates }
  | [] => replacement

structure HlsMediaRefreshEntry where
  /-- The call that has the entry's lock. -/
  holder : Option Nat
  lastAttempts : List (Option String × Instant)
  deriving DecidableEq

def HlsMediaRefreshEntry.default : HlsMediaRefreshEntry := ⟨none, []⟩

def HlsMediaRefreshEntry.lastAttempt (entry : HlsMediaRefreshEntry) (key : Option String) :
    Option Instant :=
  (entry.lastAttempts.find? (·.1 = key)).map Prod.snd

/-- `now.saturating_duration_since(last) < HLS_MEDIA_REFRESH_COOLDOWN`. -/
def coolingDown (now last : Instant) : Bool := decide (now - last < hlsMediaRefreshCooldown)

/-- The entry after the attempt, or `none` when it may not begin. -/
def HlsMediaRefreshEntry.beginAttempt (entry : HlsMediaRefreshEntry) (key : Option String)
    (now : Instant) : Option HlsMediaRefreshEntry :=
  if (entry.lastAttempt key).any (coolingDown now) then none
  else
    let retained := entry.lastAttempts.filter fun attempt => coolingDown now attempt.2
    if !(retained.any (·.1 = key)) &&
        decide (hlsMediaRefreshMaxResourceCooldowns ≤ retained.length) then
      none
    else
      some { entry with
        lastAttempts := retained.filter (·.1 ≠ key) ++ [(key, now)] }

def HlsMediaRefreshEntry.clearAttemptIfCurrent (entry : HlsMediaRefreshEntry)
    (key : Option String) (attempt : Instant) : HlsMediaRefreshEntry :=
  if entry.lastAttempt key = some attempt then
    { entry with lastAttempts := entry.lastAttempts.filter (·.1 ≠ key) }
  else entry

def HlsMediaRefreshEntry.isIdle (entry : HlsMediaRefreshEntry) (now : Instant) : Bool :=
  entry.lastAttempts.all fun attempt => !coolingDown now attempt.2

/-- `current_refresh_session` once it has read the registry; `refreshable` is the answer of
the task registry. -/
def currentRefreshSession (failed : HlsPlaybackSession) (identity : BilibiliContentIdentity)
    (refreshable : Bool) (handle : Option HlsPlaybackSessionHandle) :
    Except HlsMediaRefreshError HlsPlaybackSessionHandle :=
  match handle with
  | none => .error .unavailable
  | some handle =>
    if !refreshable then .error .unavailable
    else
      match handle.session.acceptedIdentity with
      | none => .error .unavailable
      | some currentIdentity =>
        if !currentIdentity.isRefreshComplete then .error .unavailable
        else if currentIdentity ≠ identity ∨
            sameHlsMediaRefreshBinding failed handle.session = false then
          .error .identityMismatch
        else .ok handle

structure RefreshCaller (sessionId : String) where
  failed : HlsPlaybackSession
  failedResource : Option HlsMediaResource
  same : failed.id = sessionId

namespace RefreshCaller

variable {sessionId : String}

def resourceId (caller : RefreshCaller sessionId) : Option String :=
  caller.failedResource.map HlsMediaResource.id

def identity (caller : RefreshCaller sessionId) : Option BilibiliContentIdentity :=
  caller.failed.acceptedIdentity.filter BilibiliContentIdentity.isRefreshComplete

end RefreshCaller

/-- What a comparison with the registered session tells a call to do. -/
inductive RefreshCheck
  | fails (error : HlsMediaRefreshError)
  | refreshed (session : HlsPlaybackSession)
  | stale (handle : HlsPlaybackSessionHandle)

def RefreshCaller.check {sessionId : String} (caller : RefreshCaller sessionId)
    (refreshable : Bool) (handle : Option HlsPlaybackSessionHandle) : RefreshCheck :=
  match caller.identity with
  | none => .fails .unavailable
  | some identity =>
    match currentRefreshSession caller.failed identity refreshable handle with
    | .error error => .fails error
    | .ok handle =>
      if failedMediaRequestWasRefreshed caller.failed handle.session caller.failedResource then
        .refreshed handle.session
      else .stale handle

def RefreshCaller.replacement {sessionId : String} (caller : RefreshCaller sessionId)
    (current : HlsPlaybackSession) (plan : BilibiliPlaybackPlan) : Option HlsPlaybackSession :=
  match withRefreshedMediaRequests current plan with
  | .error _ => none
  | .ok replacement =>
    if sameHlsMediaRefreshBinding current replacement then
      some (preserveConcurrentMediaRequestUpdates caller.failed current replacement
        caller.resourceId)
    else none

inductive RefreshPhase
  | idle
  | checked
  | waiting (entry : Nat)
  | locked (entry : Nat)
  | stale (entry : Nat)
  | planning (entry : Nat) (started : Instant)
  | merging (entry : Nat) (started : Instant) (handle : HlsPlaybackSessionHandle)
      (plan : BilibiliPlaybackPlan)
  | ended (result : Except HlsMediaRefreshError HlsPlaybackSession)
  | dropped

def RefreshPhase.entry : RefreshPhase → Option Nat
  | .waiting entry => some entry
  | .locked entry => some entry
  | .stale entry => some entry
  | .planning entry _ => some entry
  | .merging entry _ _ _ => some entry
  | _ => none

def RefreshPhase.holds : RefreshPhase → Option Nat
  | .waiting _ => none
  | phase => phase.entry

def RefreshPhase.attempt : RefreshPhase → Option (Nat × Instant)
  | .planning entry started => some (entry, started)
  | .merging entry started _ _ => some (entry, started)
  | _ => none

def RefreshPhase.awaits : RefreshPhase → Bool
  | .merging _ _ _ _ => false
  | .ended _ => false
  | .dropped => false
  | _ => true

/-- A plan that was started, for the history: `removals` counts the removals of the session
from the coordinator before the call took its entry. -/
structure PlanStart where
  call : Nat
  entry : Nat
  removals : Nat
  key : Option String
  started : Instant
  interrupted : Bool
  deriving DecidableEq

def PlanStart.interruptCall (call : Nat) (plan : PlanStart) : PlanStart :=
  if plan.call = call then { plan with interrupted := true } else plan

/-- The entries of the session in the coordinator, and the calls. Of the coordinator's map
only the session's own entry matters; `removals`, `plans` and, for each entry ever made,
`madeAfter` and `evicted` are history. -/
structure HlsMediaRefreshCoordinator where
  entry : Option Nat
  entries : Nat → HlsMediaRefreshEntry
  nextEntry : Nat
  calls : Nat → RefreshPhase
  now : Instant
  removals : Nat
  madeAfter : Nat → Nat
  evicted : Nat → Bool
  plans : List PlanStart

namespace HlsMediaRefreshCoordinator

def start (now : Instant) : HlsMediaRefreshCoordinator where
  entry := none
  entries := fun _ => .default
  nextEntry := 0
  calls := fun _ => .idle
  now := now
  removals := 0
  madeAfter := fun _ => 0
  evicted := fun _ => false
  plans := []

variable (c : HlsMediaRefreshCoordinator) (call : Nat)

def setCall (phase : RefreshPhase) : HlsMediaRefreshCoordinator :=
  { c with calls := fun other => if other = call then phase else c.calls other }

def setEntry (id : Nat) (entry : HlsMediaRefreshEntry) : HlsMediaRefreshCoordinator :=
  { c with entries := fun other => if other = id then entry else c.entries other }

def release : HlsMediaRefreshCoordinator :=
  match (c.calls call).holds with
  | some id => c.setEntry id { c.entries id with holder := none }
  | none => c

def leave (phase : RefreshPhase) : HlsMediaRefreshCoordinator :=
  (c.release call).setCall call phase

def finish (result : Except HlsMediaRefreshError HlsPlaybackSession) : HlsMediaRefreshCoordinator :=
  c.leave call (.ended result)

def clearAttempt (call id : Nat) (key : Option String) (started : Instant) :
    HlsMediaRefreshCoordinator :=
  { c.setEntry id ((c.entries id).clearAttemptIfCurrent key started) with
    plans := c.plans.map (PlanStart.interruptCall call) }

def interrupt (key : Option String) (error : HlsMediaRefreshError) : HlsMediaRefreshCoordinator :=
  match (c.calls call).attempt with
  | some (id, started) => (c.clearAttempt call id key started).finish call (.error error)
  | none => c.finish call (.error error)

def makeEntry : HlsMediaRefreshCoordinator :=
  { (c.setEntry c.nextEntry .default).setCall call (.waiting c.nextEntry) with
    entry := some c.nextEntry
    nextEntry := c.nextEntry + 1
    madeAfter := fun other => if other = c.nextEntry then c.removals else c.madeAfter other
    evicted := fun other => if other = c.nextEntry then false else c.evicted other }

def lock (call id : Nat) : HlsMediaRefreshCoordinator :=
  (c.setEntry id { c.entries id with holder := some call }).setCall call (.locked id)

/-- The attempt of the call begins with the entry that `begin_attempt` left. -/
def begin (call id : Nat) (key : Option String) (entry : HlsMediaRefreshEntry) :
    HlsMediaRefreshCoordinator :=
  { (c.setEntry id entry).setCall call (.planning id c.now) with
    plans := c.plans ++ [⟨call, id, c.madeAfter id, key, c.now, false⟩] }

def removeEntry : HlsMediaRefreshCoordinator :=
  { c with entry := none, removals := c.removals + 1 }

def evictEntry (id : Nat) : HlsMediaRefreshCoordinator :=
  { c with
    entry := none
    evicted := fun other => if other = id then true else c.evicted other }

/-- What a comparison makes of the call; `next` is the phase of a call that goes on. -/
def afterCheck (check : RefreshCheck) (next : HlsPlaybackSessionHandle → RefreshPhase) :
    HlsMediaRefreshCoordinator :=
  match check with
  | .fails error => c.finish call (.error error)
  | .refreshed session => c.finish call (.ok session)
  | .stale handle => c.setCall call (next handle)

end HlsMediaRefreshCoordinator

structure RefreshSystem where
  registry : HlsPlaybackRegistryInner
  files : SessionFiles
  coordinator : HlsMediaRefreshCoordinator

namespace RefreshSystem

def start (registry : HlsPlaybackRegistryInner) (files : SessionFiles) (now : Instant) :
    RefreshSystem :=
  ⟨registry, files, .start now⟩

def compare {sessionId : String} (s : RefreshSystem) (call : Nat)
    (caller : RefreshCaller sessionId) (refreshable : Bool)
    (next : HlsPlaybackSessionHandle → RefreshPhase) : RefreshSystem :=
  let read := scrubAndRead s.registry sessionId s.coordinator.now
  { s with
    registry := read.1
    coordinator := s.coordinator.afterCheck call (caller.check refreshable read.2) next }

/-- `replace_media_requests_if_current`, with the outcome of `save_refreshed_session` when the
registry asks for it. -/
def replace (s : RefreshSystem) (call : Nat) (handle : HlsPlaybackSessionHandle)
    (replacement : HlsPlaybackSession) (saved : Except SessionError Unit × SessionFiles) :
    RefreshSystem :=
  match replaceMediaRequestsIfCurrent s.registry handle replacement saved.1 with
  | (registry, .ok true) =>
    ⟨registry, saved.2, s.coordinator.finish call (.ok replacement)⟩
  | (registry, .ok false) =>
    { s with
      registry := registry
      coordinator := s.coordinator.finish call (.error .unavailable) }
  | (registry, .error error) =>
    ⟨registry, saved.2, s.coordinator.finish call (.error (.persistence error))⟩

end RefreshSystem

inductive RefreshAction
  | call (id : Nat)
  | environment
  deriving DecidableEq

open HlsMediaRefreshCoordinator in
/-- The critical sections of the calls, and what may happen around them. A plan comes with
`merging`; a timeout, a failed plan and a missing task all end a call as unavailable. -/
inductive RefreshStep {sessionId : String} (callers : Nat → RefreshCaller sessionId) :
    RefreshSystem → RefreshAction → RefreshSystem → Prop
  | firstCheck {s : RefreshSystem} {call : Nat} {refreshable : Bool}
      (phase : s.coordinator.calls call = .idle) :
      RefreshStep callers s (.call call)
        (s.compare call (callers call) refreshable fun _ => .checked)
  | takeEntry {s : RefreshSystem} {call id : Nat} (phase : s.coordinator.calls call = .checked)
      (found : s.coordinator.entry = some id) :
      RefreshStep callers s (.call call)
        { s with coordinator := s.coordinator.setCall call (.waiting id) }
  | makeEntry {s : RefreshSystem} {call : Nat} (phase : s.coordinator.calls call = .checked)
      (missing : s.coordinator.entry = none) :
      RefreshStep callers s (.call call) { s with coordinator := s.coordinator.makeEntry call }
  | lock {s : RefreshSystem} {call id : Nat} (phase : s.coordinator.calls call = .waiting id)
      (free : (s.coordinator.entries id).holder = none) :
      RefreshStep callers s (.call call) { s with coordinator := s.coordinator.lock call id }
  | secondCheck {s : RefreshSystem} {call id : Nat} {refreshable : Bool}
      (phase : s.coordinator.calls call = .locked id) :
      RefreshStep callers s (.call call)
        (s.compare call (callers call) refreshable fun _ => .stale id)
  | beginAttempt {s : RefreshSystem} {call id : Nat} {entry : HlsMediaRefreshEntry}
      (phase : s.coordinator.calls call = .stale id)
      (begun : (s.coordinator.entries id).beginAttempt (callers call).resourceId
        s.coordinator.now = some entry) :
      RefreshStep callers s (.call call)
        { s with coordinator := s.coordinator.begin call id (callers call).resourceId entry }
  | coolingDown {s : RefreshSystem} {call id : Nat} (phase : s.coordinator.calls call = .stale id)
      (refused : (s.coordinator.entries id).beginAttempt (callers call).resourceId
        s.coordinator.now = none) :
      RefreshStep callers s (.call call)
        { s with coordinator := s.coordinator.finish call (.error .unavailable) }
  | thirdCheck {s : RefreshSystem} {call id : Nat} {started : Instant} {refreshable : Bool}
      {plan : BilibiliPlaybackPlan} (phase : s.coordinator.calls call = .planning id started) :
      RefreshStep callers s (.call call)
        (s.compare call (callers call) refreshable fun handle => .merging id started handle plan)
  | mismatch {s : RefreshSystem} {call id : Nat} {started : Instant}
      {handle : HlsPlaybackSessionHandle} {plan : BilibiliPlaybackPlan}
      (phase : s.coordinator.calls call = .merging id started handle plan)
      (rejected : (callers call).replacement handle.session plan = none) :
      RefreshStep callers s (.call call)
        { s with coordinator := s.coordinator.finish call (.error .identityMismatch) }
  | replace {s : RefreshSystem} {call id : Nat} {started : Instant}
      {handle : HlsPlaybackSessionHandle} {plan : BilibiliPlaybackPlan}
      {replacement : HlsPlaybackSession} {verdicts : List Verdict}
      {saved : Except SessionError Unit × SessionFiles}
      (phase : s.coordinator.calls call = .merging id started handle plan)
      (accepted : (callers call).replacement handle.session plan = some replacement)
      (persisted : (saveRefreshedSession handle.session replacement s.files verdicts).1 =
          match saved.1 with
          | .ok () => .returned ()
          | .error error => .raised error)
      (written : (saveRefreshedSession handle.session replacement s.files verdicts).2.1 = saved.2) :
      RefreshStep callers s (.call call) (s.replace call handle replacement saved)
  | unavailable {s : RefreshSystem} {call : Nat}
      (awaits : (s.coordinator.calls call).awaits = true) :
      RefreshStep callers s (.call call)
        { s with coordinator := s.coordinator.finish call (.error .unavailable) }
  | interrupted {s : RefreshSystem} {call : Nat} {error : HlsMediaRefreshError}
      (awaits : (s.coordinator.calls call).awaits = true)
      (control : error = .cancelled ∨ error = .preempted) :
      RefreshStep callers s (.call call)
        { s with coordinator := s.coordinator.interrupt call (callers call).resourceId error }
  | drop {s : RefreshSystem} {call : Nat} (awaits : (s.coordinator.calls call).awaits = true) :
      RefreshStep callers s (.call call)
        { s with coordinator := s.coordinator.leave call .dropped }
  | registry {s : RefreshSystem} {event : RegistryEvent SessionError}
      {after : HlsPlaybackRegistryInner} (step : RegistryStep s.registry event after)
      (other : ∀ expected replacement persist, event ≠ .replace expected replacement persist) :
      RefreshStep callers s .environment { s with registry := after }
  | files {s : RefreshSystem} {after : SessionFiles} :
      RefreshStep callers s .environment { s with files := after }
  | tick {s : RefreshSystem} {later : Instant} (forward : s.coordinator.now ≤ later) :
      RefreshStep callers s .environment
        { s with coordinator := { s.coordinator with now := later } }
  | removeEntry {s : RefreshSystem} :
      RefreshStep callers s .environment { s with coordinator := s.coordinator.removeEntry }
  | evictEntry {s : RefreshSystem} {id : Nat} (found : s.coordinator.entry = some id)
      (unreferenced : ∀ call, (s.coordinator.calls call).entry ≠ some id)
      (idle : (s.coordinator.entries id).isIdle s.coordinator.now = true) :
      RefreshStep callers s .environment
        { s with coordinator := s.coordinator.evictEntry id }

end NetPlayer.Hls
