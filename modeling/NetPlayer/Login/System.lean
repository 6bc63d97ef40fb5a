import Mathlib.Logic.Function.Basic
import NetPlayer.Login.Sessions

/-!
# Logins under way

The login manager with what runs beside it: the operations that hold a reservation (a start before
its session is inserted, or a check of stored credentials), the pollers of QR sessions, the timers
of browser sessions and the requests that complete a browser login. A step is what one of them does
between two points where another may run; whatever the provider or the credential store answers is
an argument.
-/

namespace NetPlayer.Login

open Function (update)

/-- Where `run_session` is. -/
inductive PollStage where
  | checking
  | polling
  | verifying
  | saving
  /-- `finish_without_store` is next, with this state. -/
  | finishing (state : LoginSessionState)
  deriving DecidableEq

structure Poller where
  profileId : String
  stage : PollStage
  deriving DecidableEq

inductive CompletionPhase where
  | active | cancelled | committing | finished
  deriving DecidableEq

/-- `BrowserCommitOutcome`; `refused` stands for the cancelled and the inactive one. -/
inductive CommitOutcome where
  | completed (sessionCompleted : Bool)
  | refused
  | expired
  deriving DecidableEq

/-- Where the blocking `commit_browser_access_key` is. -/
inductive WorkerStage where
  | absent
  | queued
  | writing
  | written (saved : Bool)
  | ended (outcome : Option CommitOutcome)
  deriving DecidableEq

/-- Where `complete_browser_login` is. `dropping`: the dropped guard has moved the phase and has
not yet called `cancel_browser_completion`. -/
inductive RequestStage where
  | verifying | waiting | dropping | ended
  deriving DecidableEq

structure BrowserRequest where
  sessionId : String
  profileId : String
  phase : CompletionPhase
  stage : RequestStage
  worker : WorkerStage
  deriving DecidableEq

structure LoginSystem where
  state : LoginState
  /-- The reservations whose guard is armed. -/
  operations : List (String × String)
  pollers : String → Option Poller
  timers : List String
  requests : Nat → Option BrowserRequest
  /-- The ids drawn so far. -/
  used : List String
  inserted : List String
  /-- The requests that claimed a commit, and the requests that wrote credentials, with the
  session; a poller's write is not one of them. No operation reads them. -/
  claims : List (Nat × String)
  writes : List (Nat × String)

namespace LoginSystem

def initial : LoginSystem where
  state := ⟨[], []⟩
  operations := []
  pollers _ := none
  timers := []
  requests _ := none
  used := []
  inserted := []
  claims := []
  writes := []

variable (w : LoginSystem) (sessionId : String)

def setPoller (poller : Option Poller) : LoginSystem :=
  { w with pollers := update w.pollers sessionId poller }

variable (number : Nat)

def setRequest (request : BrowserRequest) : LoginSystem :=
  { w with requests := update w.requests number (some request) }

def setState (state : LoginState) : LoginSystem :=
  { w with state := state }

def insert (state : LoginState) : LoginSystem :=
  { w with state := state, inserted := sessionId :: w.inserted }

variable (profileId operationId : String)

def withoutOperation : LoginSystem :=
  { w with operations := w.operations.filter fun entry => entry != (profileId, operationId) }

def reserve (now : Nat) : LoginSystem :=
  let (state, reserved) := w.state.reserveProfile profileId operationId now
  { w with
    state := state
    operations := if reserved then (profileId, operationId) :: w.operations else w.operations
    used := operationId :: w.used }

/-- The guard of a reservation is dropped, or disarmed before `release_profile`. -/
def endOperation : LoginSystem :=
  (w.setState (w.state.releaseProfile profileId operationId)).withoutOperation profileId operationId

structure SessionStart where
  profileId : String
  sessionId : String
  credentialPath : String
  /-- Of the verified Web account; a browser login has one. -/
  expectedAccountId : Option Nat
  now : Nat

variable (start : SessionStart)

def pendingRecord (method : LoginMethod) (message : String) : SessionRecord where
  id := start.sessionId
  profileId := start.profileId
  method := method
  state := .pending
  message := message
  credentialPath := some start.credentialPath
  ticketKey := none
  accessTicket := none
  capability := none
  serverOrigin := none
  expectedAccountId := start.expectedAccountId
  deadline := start.now + sessionTtl
  finishing := false
  completedAt := none

def webQrRecord (ticketKey : String) : SessionRecord :=
  { pendingRecord start .webQr "Waiting for QR scan." with ticketKey := some ticketKey }

def browserRecord (messageOrigin capability serverOrigin : String) : SessionRecord :=
  { pendingRecord start .accessKeyBrowser "Waiting for Bilibili authorization." with
    accessTicket := some messageOrigin
    capability := some capability
    serverOrigin := some serverOrigin }

def readyRecord (method : LoginMethod) (message : String) : SessionRecord :=
  { (pendingRecord start method message).clearPrivate with
    state := .ready, deadline := start.now, completedAt := some start.now }

def startWebQr (start : SessionStart) (ticketKey : String) : LoginSystem :=
  ((w.insert start.sessionId
    (w.state.insertPending (webQrRecord start ticketKey) start.now)).withoutOperation
      start.profileId start.sessionId).setPoller start.sessionId
        (some ⟨start.profileId, .checking⟩)

def startAccessKey (start : SessionStart) (messageOrigin capability serverOrigin : String) :
    LoginSystem :=
  let record := browserRecord start messageOrigin capability serverOrigin
  let w := (w.insert start.sessionId (w.state.insertPending record start.now)).withoutOperation
    start.profileId start.sessionId
  { w with timers := start.sessionId :: w.timers }

/-- `insert_terminal_session` of a start whose credentials are ready. The reservation is released
after it. -/
def startReady (start : SessionStart) (method : LoginMethod) (message : String) : LoginSystem :=
  w.insert start.sessionId
    (w.state.insertTerminal (readyRecord start method message) start.now).1

/-- The head of the loop of `run_session`. -/
def pollCheck (poller : Poller) (now : Nat) : LoginSystem :=
  let state := w.state.expireSessions now
  let goes := (state.session sessionId).any fun record =>
    record.isPending && !record.finishing && record.ticketKey.isSome
  (w.setState state).setPoller sessionId
    (if goes then some { poller with stage := .polling } else none)

def confirming (poller : Poller) : LoginSystem :=
  (w.setState (w.state.setState sessionId .pending "QR scanned; waiting for confirmation.")).setPoller
    sessionId (some { poller with stage := .checking })

/-- `persist_credentials` has the identity of the new cookie. -/
def pollVerified (poller : Poller) (accountId now : Nat) : LoginSystem :=
  let (state, claimed) := w.state.claimWebCommit sessionId poller.profileId accountId now
  (w.setState state).setPoller sessionId
    (some { poller with stage := if claimed then .saving else .finishing .error })

/-- `persist_credentials` has the answer of the store. -/
def pollSaved (poller : Poller) (saved : Bool) (now : Nat) : LoginSystem :=
  let (state, completed) := w.state.completeClaimedSession sessionId poller.profileId saved now
  (w.setState state).setPoller sessionId
    (some { poller with stage := .finishing (if completed && saved then .ready else .error) })

def finishMessage : LoginSessionState → String
  | .expired => "The QR login session expired."
  | .ready => "Bilibili Web login completed."
  | _ => "Login could not be saved. Check server credential storage and retry."

def pollFinish (poller : Poller) (state : LoginSessionState) (now : Nat) : LoginSystem :=
  (w.setState (w.state.finishWithoutStore sessionId poller.profileId state (finishMessage state)
    now)).setPoller sessionId none

def beginCompletion (call : LoginState.BrowserCall) (now : Nat) :
    LoginSystem :=
  match w.state.beginBrowserCompletion call now with
  | (state, none) => w.setState state
  | (state, some record) =>
    (w.setState state).setRequest number
      ⟨call.sessionId, record.profileId, .active, .verifying, .absent⟩

def failCompletion (request : BrowserRequest) (now : Nat) :
    LoginSystem :=
  (w.setState (w.state.completeClaimedSession request.sessionId request.profileId false
    now).1).setRequest number { request with phase := .finished, stage := .ended }

def dropRequest (request : BrowserRequest) : LoginSystem :=
  w.setRequest number
    (if request.phase = .active then { request with phase := .cancelled, stage := .dropping }
      else { request with stage := .ended })

def cancelCompletion (request : BrowserRequest) (now : Nat) :
    LoginSystem :=
  (w.setState (w.state.cancelBrowserCompletion request.sessionId request.profileId
    now)).setRequest number { request with stage := .ended }

/-- `claim_browser_commit`. The phase is moved without the lock when a request is dropped; that
goes before the claim or after it. -/
def claimCommit (request : BrowserRequest) (now : Nat) : LoginSystem :=
  if request.phase ≠ .active then
    w.setRequest number { request with worker := .ended (some .refused) }
  else
    let (state, expired) :=
      w.state.expireBrowserCompletion request.sessionId request.profileId now
    if expired then
      (w.setState state).setRequest number
        { request with phase := .finished, worker := .ended (some .expired) }
    else if w.state.isCompleting request.sessionId request.profileId then
      { w.setRequest number { request with phase := .committing, worker := .writing } with
        claims := (number, request.sessionId) :: w.claims }
    else w.setRequest number { request with worker := .ended (some .refused) }

/-- `persist_access_key` has returned. -/
def writeCredentials (request : BrowserRequest) (saved : Bool) : LoginSystem :=
  { w.setRequest number { request with worker := .written saved } with
    writes := if saved then (number, request.sessionId) :: w.writes else w.writes }

/-- The guard of the worker is finished or, after a panic (`outcome` is `none`), dropped. -/
def finishWorker (request : BrowserRequest) (saved panicked : Bool) (now : Nat) : LoginSystem :=
  let (state, completed) := w.state.completeClaimedSession request.sessionId request.profileId
    (saved && !panicked) now
  (w.setState state).setRequest number
    { request with
      phase := .finished
      worker := .ended (if panicked then none else some (.completed completed)) }

def resumeCompletion (request : BrowserRequest) (outcome : Option CommitOutcome) (now : Nat) :
    LoginSystem :=
  match outcome with
  | some (.completed _) | some .expired =>
    w.setRequest number { request with phase := .finished, stage := .ended }
  | some .refused | none => w.failCompletion number request now

end LoginSystem

inductive LoginEvent where
  | reserve (profileId operationId : String)
  | endOperation (profileId operationId : String)
  | started (sessionId : String)
  | get
  | timer (sessionId : String)
  | pollCheck (sessionId : String)
  | pollWaiting (sessionId : String)
  | confirming (sessionId : String)
  | pollAnswered (sessionId : String)
  | pollVerified (sessionId : String)
  | pollSaved (sessionId : String)
  | pollFinish (sessionId : String)
  | pollAbort (sessionId : String)
  | begin (number : Nat)
  | fail (number : Nat)
  | spawn (number : Nat)
  | drop (number : Nat)
  | cancel (number now : Nat)
  | claim (number : Nat)
  | write (number : Nat)
  | finishWorker (number : Nat)
  | resume (number : Nat)

open LoginSystem in
inductive LoginStep : LoginSystem → LoginEvent → LoginSystem → Prop
  | reserve {w : LoginSystem} {profileId operationId : String} (now : Nat)
      (fresh : operationId ∉ w.used) :
      LoginStep w (.reserve profileId operationId) (w.reserve profileId operationId now)
  | endOperation {w : LoginSystem} {profileId operationId : String}
      (armed : (profileId, operationId) ∈ w.operations) :
      LoginStep w (.endOperation profileId operationId) (w.endOperation profileId operationId)
  | startWebQr {w : LoginSystem} (start : SessionStart) (ticketKey : String)
      (armed : (start.profileId, start.sessionId) ∈ w.operations)
      (first : start.sessionId ∉ w.inserted) :
      LoginStep w (.started start.sessionId) (w.startWebQr start ticketKey)
  | startAccessKey {w : LoginSystem} (start : SessionStart)
      (messageOrigin capability serverOrigin : String)
      (armed : (start.profileId, start.sessionId) ∈ w.operations)
      (first : start.sessionId ∉ w.inserted) :
      LoginStep w (.started start.sessionId)
        (w.startAccessKey start messageOrigin capability serverOrigin)
  | startReady {w : LoginSystem} (start : SessionStart) (method : LoginMethod) (message : String)
      (armed : (start.profileId, start.sessionId) ∈ w.operations)
      (first : start.sessionId ∉ w.inserted) :
      LoginStep w (.started start.sessionId) (w.startReady start method message)
  | get {w : LoginSystem} (now : Nat) : LoginStep w .get (w.setState (w.state.get now))
  | timer {w : LoginSystem} {sessionId : String} (now : Nat) (set : sessionId ∈ w.timers) :
      LoginStep w (.timer sessionId) (w.setState (w.state.expireSession sessionId now))
  | pollCheck {w : LoginSystem} {sessionId : String} {poller : Poller} (now : Nat)
      (polls : w.pollers sessionId = some poller) (stage : poller.stage = .checking) :
      LoginStep w (.pollCheck sessionId) (w.pollCheck sessionId poller now)
  | pollWaiting {w : LoginSystem} {sessionId : String} {poller : Poller}
      (polls : w.pollers sessionId = some poller) (stage : poller.stage = .polling) :
      LoginStep w (.pollWaiting sessionId)
        (w.setPoller sessionId (some { poller with stage := .checking }))
  | confirming {w : LoginSystem} {sessionId : String} {poller : Poller}
      (polls : w.pollers sessionId = some poller) (stage : poller.stage = .polling) :
      LoginStep w (.confirming sessionId) (w.confirming sessionId poller)
  | pollExpired {w : LoginSystem} {sessionId : String} {poller : Poller}
      (polls : w.pollers sessionId = some poller) (stage : poller.stage = .polling) :
      LoginStep w (.pollAnswered sessionId)
        (w.setPoller sessionId (some { poller with stage := .finishing .expired }))
  | pollFailed {w : LoginSystem} {sessionId : String} {poller : Poller}
      (polls : w.pollers sessionId = some poller)
      (stage : poller.stage = .polling ∨ poller.stage = .verifying) :
      LoginStep w (.pollAnswered sessionId)
        (w.setPoller sessionId (some { poller with stage := .finishing .error }))
  | pollSucceeded {w : LoginSystem} {sessionId : String} {poller : Poller}
      (polls : w.pollers sessionId = some poller) (stage : poller.stage = .polling) :
      LoginStep w (.pollAnswered sessionId)
        (w.setPoller sessionId (some { poller with stage := .verifying }))
  | pollVerified {w : LoginSystem} {sessionId : String} {poller : Poller} (accountId now : Nat)
      (polls : w.pollers sessionId = some poller) (stage : poller.stage = .verifying) :
      LoginStep w (.pollVerified sessionId) (w.pollVerified sessionId poller accountId now)
  | pollSaved {w : LoginSystem} {sessionId : String} {poller : Poller} (saved : Bool) (now : Nat)
      (polls : w.pollers sessionId = some poller) (stage : poller.stage = .saving) :
      LoginStep w (.pollSaved sessionId) (w.pollSaved sessionId poller saved now)
  | pollFinish {w : LoginSystem} {sessionId : String} {poller : Poller}
      {state : LoginSessionState} (now : Nat) (polls : w.pollers sessionId = some poller)
      (stage : poller.stage = .finishing state) :
      LoginStep w (.pollFinish sessionId) (w.pollFinish sessionId poller state now)
  | pollAbort {w : LoginSystem} {sessionId : String} {poller : Poller}
      (polls : w.pollers sessionId = some poller) :
      LoginStep w (.pollAbort sessionId) (w.setPoller sessionId none)
  | begin {w : LoginSystem} {number : Nat} (call : LoginState.BrowserCall) (now : Nat)
      (fresh : w.requests number = none) :
      LoginStep w (.begin number) (w.beginCompletion number call now)
  | fail {w : LoginSystem} {number : Nat} {request : BrowserRequest} (now : Nat)
      (sent : w.requests number = some request) (stage : request.stage = .verifying) :
      LoginStep w (.fail number) (w.failCompletion number request now)
  | spawn {w : LoginSystem} {number : Nat} {request : BrowserRequest}
      (sent : w.requests number = some request) (stage : request.stage = .verifying) :
      LoginStep w (.spawn number)
        (w.setRequest number { request with stage := .waiting, worker := .queued })
  | drop {w : LoginSystem} {number : Nat} {request : BrowserRequest}
      (sent : w.requests number = some request)
      (stage : request.stage = .verifying ∨ request.stage = .waiting) :
      LoginStep w (.drop number) (w.dropRequest number request)
  | cancel {w : LoginSystem} {number : Nat} {request : BrowserRequest} (now : Nat)
      (sent : w.requests number = some request) (stage : request.stage = .dropping) :
      LoginStep w (.cancel number now) (w.cancelCompletion number request now)
  | claim {w : LoginSystem} {number : Nat} {request : BrowserRequest} (now : Nat)
      (sent : w.requests number = some request) (worker : request.worker = .queued) :
      LoginStep w (.claim number) (w.claimCommit number request now)
  | write {w : LoginSystem} {number : Nat} {request : BrowserRequest} (saved : Bool)
      (sent : w.requests number = some request) (worker : request.worker = .writing) :
      LoginStep w (.write number) (w.writeCredentials number request saved)
  | finishWorker {w : LoginSystem} {number : Nat} {request : BrowserRequest} {saved : Bool}
      (panicked : Bool) (now : Nat) (sent : w.requests number = some request)
      (worker : request.worker = .written saved ∨
        request.worker = .writing ∧ panicked = true) :
      LoginStep w (.finishWorker number) (w.finishWorker number request saved panicked now)
  | resume {w : LoginSystem} {number : Nat} {request : BrowserRequest}
      {outcome : Option CommitOutcome} (now : Nat) (sent : w.requests number = some request)
      (stage : request.stage = .waiting) (worker : request.worker = .ended outcome) :
      LoginStep w (.resume number) (w.resumeCompletion number request outcome now)

end NetPlayer.Login
