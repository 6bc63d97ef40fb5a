import Mathlib.Algebra.Ring.Nat
import Mathlib.Data.List.Nodup
import NetPlayer.Library.Transition

/-!
# Login sessions

The sessions of the login manager and the reservations of credential profiles. Both hash maps are
lists here: the sessions carry their ids, and a reservation is a profile with the operation or
session that holds it. Instants are nanoseconds. The readiness of credentials, which no operation
decides by, is left out.
-/

namespace NetPlayer.Login

inductive LoginSessionState where
  | unspecified | pending | ready | expired | error
  deriving DecidableEq

inductive LoginMethod where
  | webQr | accessKeyBrowser
  deriving DecidableEq

def maxLoginSessions : Nat := 64
def sessionTtl : Nat := 180 * 10 ^ 9
def terminalSessionTtl : Nat := 15 * 60 * 10 ^ 9

structure SessionRecord where
  id : String
  profileId : String
  method : LoginMethod
  state : LoginSessionState
  message : String
  credentialPath : Option String
  ticketKey : Option String
  accessTicket : Option String
  capability : Option String
  serverOrigin : Option String
  expectedAccountId : Option Nat
  deadline : Nat
  finishing : Bool
  completedAt : Option Nat
  deriving DecidableEq

structure LoginState where
  sessions : List SessionRecord
  activeProfiles : List (String × String)
  deriving DecidableEq

namespace SessionRecord

variable (record : SessionRecord)

def isPending : Bool := record.state == .pending

def clearPrivate : SessionRecord :=
  { record with
    credentialPath := none
    ticketKey := none
    accessTicket := none
    capability := none
    serverOrigin := none
    expectedAccountId := none }

def settled (state : LoginSessionState) (message : String) (now : Nat) : SessionRecord :=
  { record.clearPrivate with state := state, message := message, completedAt := some now }

def expiredAt (now : Nat) : SessionRecord :=
  record.settled .expired "The login session expired." now

def isLive : Bool := record.completedAt.isNone

end SessionRecord

def release (active : List (String × String)) (profileId sessionId : String) :
    List (String × String) :=
  if active.lookup profileId = some sessionId then active.filter fun entry => entry.1 != profileId
  else active

namespace LoginState

variable (s : LoginState)

def owner (profileId : String) : Option String :=
  s.activeProfiles.lookup profileId

def session (sessionId : String) : Option SessionRecord :=
  s.sessions.find? fun record => record.id == sessionId

def modify (sessionId : String) (change : SessionRecord → SessionRecord) : LoginState :=
  { s with sessions := s.sessions.map fun record =>
      if record.id == sessionId then change record else record }

def releaseProfile (profileId sessionId : String) : LoginState :=
  { s with activeProfiles := release s.activeProfiles profileId sessionId }

def unmaterialized : Nat :=
  s.activeProfiles.countP fun entry => !(s.sessions.any fun record => record.id == entry.2)

def due (now : Nat) (record : SessionRecord) : Bool :=
  record.isPending && !record.finishing && decide (record.deadline ≤ now)

def expireSessions (now : Nat) : LoginState where
  sessions := s.sessions.map fun record => if due now record then record.expiredAt now else record
  activeProfiles := (s.sessions.filter (due now)).foldl
    (fun active record => release active record.profileId record.id) s.activeProfiles

def pruneTerminalSessions (now : Nat) : LoginState :=
  { s with sessions := s.sessions.filter fun record =>
      record.isPending || record.finishing ||
        record.completedAt.all fun completedAt => decide (now - completedAt < terminalSessionTtl) }

def oldestTerminal : List SessionRecord → Option SessionRecord
  | [] => none
  | record :: rest =>
    match record.completedAt, oldestTerminal rest with
    | none, found => found
    | some _, none => some record
    | some completedAt, some other =>
      if other.completedAt.getD 0 < completedAt then some other else some record

def evictOldestTerminalSession : Option LoginState :=
  (oldestTerminal s.sessions).map fun oldest =>
    { s with sessions := s.sessions.filter fun record => record.id != oldest.id }

/-- Evictions while the store is full. Each removes a session, so as many turns as there are
sessions are enough. -/
def evictWhile (full : LoginState → Bool) : Nat → LoginState → LoginState
  | 0, s => s
  | turns + 1, s =>
    if full s then
      match s.evictOldestTerminalSession with
      | some evicted => evictWhile full turns evicted
      | none => s
    else s

def isFull : Bool :=
  decide (maxLoginSessions ≤ s.sessions.length + s.unmaterialized)

def reserveProfile (profileId operationId : String) (now : Nat) : LoginState × Bool :=
  let kept := (s.expireSessions now).pruneTerminalSessions now
  if (kept.owner profileId).isSome then (kept, false)
  else
    let room := evictWhile isFull kept.sessions.length kept
    if room.isFull then (room, false)
    else ({ room with activeProfiles := (profileId, operationId) :: room.activeProfiles }, true)

/-- `get`, and the part of `browser_page` that changes the store. -/
def get (now : Nat) : LoginState :=
  (s.expireSessions now).pruneTerminalSessions now

def put (record : SessionRecord) : LoginState :=
  { s with sessions := record :: s.sessions.filter fun other => other.id != record.id }

def insertPending (record : SessionRecord) (now : Nat) : LoginState :=
  (s.expireSessions now).put record

def insertTerminal (record : SessionRecord) (now : Nat) : LoginState × Bool :=
  let kept := (s.expireSessions now).pruneTerminalSessions now
  let full := fun s : LoginState => decide (maxLoginSessions ≤ s.sessions.length)
  let room := evictWhile full kept.sessions.length kept
  if full room then (room, false) else (room.put record, true)

def setState (sessionId : String) (state : LoginSessionState) (message : String) : LoginState :=
  s.modify sessionId fun record => { record with state := state, message := message }

variable (sessionId profileId : String)

def finishWithoutStore (state : LoginSessionState) (message : String) (now : Nat) : LoginState :=
  let s := s.expireSessions now
  if s.owner profileId = some sessionId && (s.session sessionId).any fun record =>
      record.isPending && !record.finishing then
    (s.modify sessionId fun record => record.settled state message now).releaseProfile
      profileId sessionId
  else s

def expireSession (sessionId : String) (now : Nat) : LoginState :=
  let s := s.expireSessions now
  match s.session sessionId with
  | some record =>
    if record.isPending then
      (s.modify sessionId fun record => record.expiredAt now).releaseProfile record.profileId
        sessionId
    else s
  | none => s

/-- The claim of `persist_credentials` for a verified account. -/
def claimWebCommit (accountId now : Nat) : LoginState × Bool :=
  if s.owner profileId = some sessionId && (s.session sessionId).any fun record =>
      record.profileId == profileId && record.isPending && !record.finishing &&
        decide (now < record.deadline) &&
        record.expectedAccountId.all (fun expected => expected == accountId) then
    (s.modify sessionId fun record => { record with finishing := true }, true)
  else (s, false)

def completeClaimedSession (saved : Bool) (now : Nat) :
    LoginState × Bool :=
  if s.owner profileId = some sessionId && (s.session sessionId).any fun record =>
      record.profileId == profileId && record.isPending && record.finishing then
    let message := fun record : SessionRecord =>
      if saved then
        match record.method with
        | .webQr => "Bilibili Web login completed."
        | .accessKeyBrowser => "Bilibili access-key login completed."
      else "Login could not be saved. Check server credential storage and retry."
    ((s.modify sessionId fun record =>
      { record.settled (if saved then .ready else .error) (message record) now with
        finishing := false }).releaseProfile profileId sessionId, true)
  else (s, false)

structure BrowserCall where
  sessionId : String
  requestOrigin : String
  capability : String

def beginBrowserCompletion (call : BrowserCall) (now : Nat) :
    LoginState × Option SessionRecord :=
  let s := s.expireSessions now
  match s.session call.sessionId with
  | none => (s, none)
  | some record =>
    if record.method = .accessKeyBrowser && record.isPending && !record.finishing &&
        decide (now < record.deadline) &&
        record.serverOrigin == some call.requestOrigin &&
        record.capability == some call.capability &&
        s.owner record.profileId == some call.sessionId &&
        record.credentialPath.isSome && record.accessTicket.isSome then
      (s.modify call.sessionId fun record => { record with finishing := true }, some record)
    else (s, none)

def expireBrowserCompletion (now : Nat) :
    LoginState × Bool :=
  if s.owner profileId = some sessionId && (s.session sessionId).any fun record =>
      record.profileId == profileId && record.method == .accessKeyBrowser && record.isPending &&
        record.finishing && decide (record.deadline ≤ now) then
    ((s.modify sessionId fun record =>
      { record.expiredAt now with finishing := false }).releaseProfile profileId sessionId, true)
  else (s, false)

def isCompleting : Bool :=
  s.owner profileId = some sessionId && (s.session sessionId).any fun record =>
    record.profileId == profileId && record.method == .accessKeyBrowser && record.isPending &&
      record.finishing

def cancelBrowserCompletion (now : Nat) :
    LoginState :=
  let (s, expired) := s.expireBrowserCompletion sessionId profileId now
  if !expired && s.isCompleting sessionId profileId then
    s.modify sessionId fun record => { record with finishing := false }
  else s

end LoginState

end NetPlayer.Login
