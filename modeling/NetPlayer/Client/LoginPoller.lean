import Mathlib.Data.Option.Basic
import Mathlib.Logic.Function.Basic

/-!
# The login of the client

One server address at a time. A refresh of the credential status and a login start are fenced by
`operationSequence`; the session that a start returns is polled by a task that is fenced by its
cancellation. A poller remembers the session it took up last and what the operations stood at
then. The status texts are left out.
-/

namespace NetPlayer.Client

inductive BilibiliLoginStatus
  | disconnected
  | checking
  | credentialStatusUnavailable
  | loginSessionsUnavailable
  | credentialPathMissing
  | credentialUnknown
  | credentialUnavailable
  | authenticated
  | loginRequired
  | sessionPending
  | sessionExpired
  | failed
deriving DecidableEq

inductive BilibiliLoginMethod
  | webQR
  | accessKeyBrowser
deriving DecidableEq

def BilibiliLoginMethod.rawValue : BilibiliLoginMethod → String
  | .webQR => "webQR"
  | .accessKeyBrowser => "accessKeyBrowser"

inductive BilibiliCredentialReadiness
  | unspecified
  | missing
  | checking
  | ready
  | loginRequired
  | unavailable
deriving DecidableEq

structure BilibiliLoginSession where
  id : String
  profileID : String
  method : String
  state : String
  verificationURI : String
  expiresAt : Option Int
deriving DecidableEq

structure BilibiliCredentialStatus where
  state : String
  credentialPathConfigured : Bool
  credentialFileLoaded : Bool
  hasWebCookie : Bool
  hasAccessKey : Bool
  activeProfileID : String
  defaultProfileID : String
  webCookieReadiness : BilibiliCredentialReadiness
  accessKeyReadiness : BilibiliCredentialReadiness

structure CacheServerSummary where
  supportsBilibiliCredentialStatus : Bool
  supportsBilibiliLoginSessions : Bool
  supportsBilibiliAccessKeyLogin : Bool
  supportsBilibiliCredentialReadiness : Bool
  mediaBaseURIs : List String

structure Platform (Endpoint : Type) where
  normalized : String → Option Endpoint
  safeWebQRPayload : String → Option String
  safeServerLoginLink : String → String → List String → Option String
  lowercased : String → String
  localizedCaseInsensitiveContains : String → String → Bool

/-- The view model; `pollingTask` is the generation that its task was started with. -/
structure LoginModel where
  status : BilibiliLoginStatus
  verificationQRPayload : Option String
  verificationLink : Option String
  isStartingLogin : Bool
  serverAddressText : String
  active : Bool
  operationSequence : Nat
  pollingGeneration : Nat
  pollingTask : Option Nat
  activeSession : Option BilibiliLoginSession
  activeProfileID : String
  effectiveProfileID : String
  serverInfo : Option CacheServerSummary
  supportsLoginSessions : Bool
  supportsAccessKeyLogin : Bool
  supportsCredentialReadiness : Bool
  webLoginAllowed : Bool
  accessKeyLoginAllowed : Bool

namespace LoginModel

def initial : LoginModel where
  status := .disconnected
  verificationQRPayload := none
  verificationLink := none
  isStartingLogin := false
  serverAddressText := ""
  active := false
  operationSequence := 0
  pollingGeneration := 0
  pollingTask := none
  activeSession := none
  activeProfileID := ""
  effectiveProfileID := ""
  serverInfo := none
  supportsLoginSessions := false
  supportsAccessKeyLogin := false
  supportsCredentialReadiness := false
  webLoginAllowed := false
  accessKeyLoginAllowed := false

/-- What the claims of a poller are about. -/
def presented (m : LoginModel) :
    BilibiliLoginStatus × Option BilibiliLoginSession × Option String × Option String :=
  (m.status, m.activeSession, m.verificationQRPayload, m.verificationLink)

def clearPresentation (m : LoginModel) : LoginModel :=
  { m with verificationQRPayload := none, verificationLink := none }

def failInvalidSession (m : LoginModel) : LoginModel :=
  { m with status := .failed }.clearPresentation

def expireSession (m : LoginModel) : LoginModel :=
  { { m with status := .sessionExpired }.clearPresentation with activeSession := none }

def resetCredentialState (m : LoginModel) : LoginModel :=
  { m with
    activeProfileID := ""
    effectiveProfileID := ""
    webLoginAllowed := false
    accessKeyLoginAllowed := false }

def resetServerState (m : LoginModel) : LoginModel :=
  { m with
    supportsLoginSessions := false
    supportsAccessKeyLogin := false
    supportsCredentialReadiness := false
    serverInfo := none }.resetCredentialState

variable {Endpoint : Type} [DecidableEq Endpoint] (env : Platform Endpoint)

def canStartLoginSession (m : LoginModel) : Bool :=
  let statusAllowsLogin :=
    m.status == .loginRequired || m.status == .authenticated || m.status == .sessionExpired ||
      m.status == .failed
  m.active && (env.normalized m.serverAddressText).isSome && statusAllowsLogin &&
    m.supportsLoginSessions && !m.isStartingLogin

def canStartLogin (m : LoginModel) : Bool :=
  m.canStartLoginSession env && m.webLoginAllowed

def canStartAccessKeyLogin (m : LoginModel) : Bool :=
  m.canStartLoginSession env && m.supportsAccessKeyLogin && m.accessKeyLoginAllowed

def isCurrent (m : LoginModel) (sequence : Nat) (endpoint : Endpoint) : Bool :=
  sequence == m.operationSequence && m.active &&
    env.normalized m.serverAddressText == some endpoint

def setLoginRequired (m : LoginModel) : LoginModel :=
  { m with
    status := if m.supportsLoginSessions then .loginRequired else .loginSessionsUnavailable }

def applyCredentials (m : LoginModel) (credentials : BilibiliCredentialStatus)
    (usingReadiness : Bool) : LoginModel :=
  let m := { m with
    activeProfileID := credentials.activeProfileID
    effectiveProfileID :=
      if credentials.activeProfileID = "" then credentials.defaultProfileID
      else credentials.activeProfileID }
  if !credentials.credentialPathConfigured then
    { m with status := .credentialPathMissing }
  else if env.localizedCaseInsensitiveContains credentials.state "error" then
    { m with status := .credentialUnavailable }
  else if !usingReadiness then
    if credentials.credentialFileLoaded &&
        (credentials.hasWebCookie || credentials.hasAccessKey) &&
        env.localizedCaseInsensitiveContains credentials.state "ready" then
      { m with status := .authenticated }
    else if credentials.hasWebCookie || credentials.hasAccessKey then
      { m with status := .credentialUnknown }
    else
      { m with
        webLoginAllowed := true
        accessKeyLoginAllowed := m.supportsAccessKeyLogin }.setLoginRequired
  else
    let webLoginAllowed := credentials.webCookieReadiness == .missing ||
      credentials.webCookieReadiness == .loginRequired
    let accessKeyLoginAllowed := (credentials.accessKeyReadiness == .missing ||
      credentials.accessKeyReadiness == .loginRequired) &&
      credentials.webCookieReadiness == .ready
    let m := { m with
      webLoginAllowed := webLoginAllowed
      accessKeyLoginAllowed := accessKeyLoginAllowed }
    if credentials.webCookieReadiness == .ready || credentials.accessKeyReadiness == .ready then
      { m with status := .authenticated }
    else if credentials.webCookieReadiness == .checking ||
        credentials.accessKeyReadiness == .checking then
      { m with status := .checking }
    else if credentials.webCookieReadiness == .unavailable &&
        credentials.accessKeyReadiness == .unavailable then
      { m with status := .credentialUnavailable }
    else if webLoginAllowed || accessKeyLoginAllowed then
      m.setLoginRequired
    else
      { m with status := .credentialUnknown }

def sameMethod (method other : String) : Bool := env.lowercased method == env.lowercased other

def applySession (m : LoginModel) (session : BilibiliLoginSession) : LoginModel :=
  match env.lowercased session.state with
  | "pending" =>
    if sameMethod env session.method BilibiliLoginMethod.webQR.rawValue then
      match env.safeWebQRPayload session.verificationURI with
      | none => m.failInvalidSession
      | some payload =>
        { m with
          verificationQRPayload := some payload
          verificationLink := none
          status := .sessionPending }
    else if sameMethod env session.method BilibiliLoginMethod.accessKeyBrowser.rawValue then
      match env.safeServerLoginLink session.verificationURI session.id
          ((m.serverInfo.map (·.mediaBaseURIs)).getD []) with
      | none => m.failInvalidSession
      | some link =>
        { m with
          verificationLink := some link
          verificationQRPayload := some link
          status := .sessionPending }
    else
      m.failInvalidSession
  | "ready" =>
    let m :=
      if sameMethod env session.method BilibiliLoginMethod.webQR.rawValue then
        { m with webLoginAllowed := false }
      else if sameMethod env session.method BilibiliLoginMethod.accessKeyBrowser.rawValue then
        { m with accessKeyLoginAllowed := false }
      else m
    { m with status := .authenticated }.clearPresentation
  | "expired" => { m with status := .sessionExpired }.clearPresentation
  | "unsupported" => { m with status := .loginSessionsUnavailable }.clearPresentation
  | _ => { m with status := .failed }.clearPresentation

end LoginModel

inductive RefreshCaller
  | activate
  | refreshReadiness
  | startLogin
  | poller (generation : Nat)

inductive RefreshPhase
  | serverInfo
  | credentials
deriving DecidableEq

structure Refresh (Endpoint : Type) where
  caller : RefreshCaller
  endpoint : Endpoint
  phase : RefreshPhase

structure Start (Endpoint : Type) where
  endpoint : Endpoint
  method : BilibiliLoginMethod

inductive PollerPhase (Endpoint : Type)
  | created
  | polling (endpoint : Endpoint)
  | sleeping
  | refreshing

def PollerPhase.isPolling {Endpoint : Type} : PollerPhase Endpoint → Bool
  | .polling _ => true
  | _ => false

/-- `session` is the session that it was started for, and then the one of its last poll.
`sequence` and `starting` are what the operations stood at when it was taken up; the code does
not keep them. -/
structure Poller (Endpoint : Type) where
  cancelled : Bool
  session : BilibiliLoginSession
  sequence : Nat
  starting : Bool
  phase : PollerPhase Endpoint

/-- The view model and what it waits for: refreshes and starts by their sequences, pollers by
their generations. -/
structure LoginSystem (Endpoint : Type) where
  model : LoginModel
  refreshes : Nat → Option (Refresh Endpoint)
  starts : Nat → Option (Start Endpoint)
  pollers : Nat → Option (Poller Endpoint)

inductive LoopTop (Endpoint : Type)
  | poll (session : BilibiliLoginSession) (endpoint : Endpoint)
  | sessionExpired
  | timedOut
  | stopped

namespace LoginSystem

variable {Endpoint : Type} [DecidableEq Endpoint] (env : Platform Endpoint)

def initial : LoginSystem Endpoint := ⟨.initial, fun _ => none, fun _ => none, fun _ => none⟩

def setPoller (s : LoginSystem Endpoint) (generation : Nat) (poller : Option (Poller Endpoint)) :
    LoginSystem Endpoint :=
  { s with pollers := Function.update s.pollers generation poller }

def setRefresh (s : LoginSystem Endpoint) (sequence : Nat) (refresh : Option (Refresh Endpoint)) :
    LoginSystem Endpoint :=
  { s with refreshes := Function.update s.refreshes sequence refresh }

def setStart (s : LoginSystem Endpoint) (sequence : Nat) (start : Option (Start Endpoint)) :
    LoginSystem Endpoint :=
  { s with starts := Function.update s.starts sequence start }

def startPolling (s : LoginSystem Endpoint) : LoginSystem Endpoint :=
  match s.model.activeSession with
  | none => s
  | some session =>
    if s.model.active && s.model.pollingTask.isNone then
      let generation := s.model.pollingGeneration + 1
      { s with
        model := { s.model with
          pollingGeneration := generation
          pollingTask := some generation } }.setPoller generation
        (some ⟨false, session, s.model.operationSequence, s.model.isStartingLogin, .created⟩)
    else s

def stopPolling (s : LoginSystem Endpoint) : LoginSystem Endpoint :=
  { s with
    model := { s.model with
      pollingGeneration := s.model.pollingGeneration + 1
      pollingTask := none }
    pollers := fun generation =>
      if s.model.pollingTask = some generation then
        (s.pollers generation).map fun poller => { poller with cancelled := true }
      else s.pollers generation }

def endPoller (s : LoginSystem Endpoint) (generation : Nat) : LoginSystem Endpoint :=
  { s with
    model :=
      if generation = s.model.pollingGeneration then { s.model with pollingTask := none }
      else s.model }.setPoller generation none

def finishRefresh (s : LoginSystem Endpoint) : RefreshCaller → LoginSystem Endpoint
  | .activate => if s.model.activeSession.isSome then s.startPolling else s
  | .refreshReadiness => s
  | .startLogin => s
  | .poller generation => s.endPoller generation

/-- `refreshCredentialStatus` up to its first request. -/
def beginRefresh (s : LoginSystem Endpoint) (caller : RefreshCaller) : LoginSystem Endpoint :=
  let m := { s.model with
    operationSequence := s.model.operationSequence + 1
    isStartingLogin := false }
  match env.normalized m.serverAddressText with
  | none =>
    { s with model := { m with status := .disconnected }.resetServerState }.finishRefresh caller
  | some endpoint =>
    { s with
      model := { { m with status := .checking }.clearPresentation with
        activeSession := none }.resetCredentialState }.setRefresh m.operationSequence
      (some ⟨caller, endpoint, .serverInfo⟩)

def endRefresh (s : LoginSystem Endpoint) (sequence : Nat) (refresh : Refresh Endpoint)
    (m : LoginModel) : LoginSystem Endpoint :=
  ({ s with model := m }.setRefresh sequence none).finishRefresh refresh.caller

def serverInfoAnswered (s : LoginSystem Endpoint) (sequence : Nat) (refresh : Refresh Endpoint)
    (info : CacheServerSummary) : LoginSystem Endpoint :=
  if s.model.isCurrent env sequence refresh.endpoint then
    let m := { s.model with
      serverInfo := some info
      supportsLoginSessions := info.supportsBilibiliLoginSessions
      supportsAccessKeyLogin := info.supportsBilibiliAccessKeyLogin
      supportsCredentialReadiness := info.supportsBilibiliCredentialReadiness }
    if !info.supportsBilibiliCredentialStatus then
      s.endRefresh sequence refresh { m with status := .credentialStatusUnavailable }
    else
      { s with model := m }.setRefresh sequence (some { refresh with phase := .credentials })
  else
    s.endRefresh sequence refresh s.model

def credentialsAnswered (s : LoginSystem Endpoint) (sequence : Nat) (refresh : Refresh Endpoint)
    (credentials : BilibiliCredentialStatus) : LoginSystem Endpoint :=
  if s.model.isCurrent env sequence refresh.endpoint then
    s.endRefresh sequence refresh
      (s.model.applyCredentials env credentials s.model.supportsCredentialReadiness)
  else
    s.endRefresh sequence refresh s.model

/-- A request of a refresh throws; `unsupported` is the error that names the feature. -/
def refreshThrew (s : LoginSystem Endpoint) (sequence : Nat) (refresh : Refresh Endpoint)
    (unsupported : Bool) : LoginSystem Endpoint :=
  if s.model.isCurrent env sequence refresh.endpoint then
    s.endRefresh sequence refresh
      { s.model with status := if unsupported then .credentialStatusUnavailable else .failed }
  else
    s.endRefresh sequence refresh s.model

def invalidateSession (s : LoginSystem Endpoint) : LoginSystem Endpoint :=
  let stopped := { s with
    model := { s.model with
      operationSequence := s.model.operationSequence + 1
      isStartingLogin := false } }.stopPolling
  { stopped with
    model := { { stopped.model with activeSession := none }.clearPresentation with
      serverInfo := none } }

def isUnexpired (session : BilibiliLoginSession) (now : Int) : Bool :=
  match session.expiresAt with
  | none => true
  | some expiresAt => decide (now < expiresAt)

/-- `activate`, up to the refresh that it may begin. -/
def activate (s : LoginSystem Endpoint) (serverAddressText : String) (now : Int) :
    LoginSystem Endpoint :=
  let previousEndpoint := env.normalized s.model.serverAddressText
  let nextEndpoint := env.normalized serverAddressText
  let changedAddress := previousEndpoint ≠ nextEndpoint ∨
    (previousEndpoint = none ∧ s.model.serverAddressText ≠ serverAddressText)
  let s := { s with
    model := { s.model with serverAddressText := serverAddressText, active := true } }
  if changedAddress then
    s.invalidateSession.beginRefresh env .activate
  else if s.model.isStartingLogin then
    s
  else
    match s.model.activeSession with
    | none => s.beginRefresh env .activate
    | some session =>
      if s.model.status ≠ .sessionPending then
        s.beginRefresh env .activate
      else if isUnexpired session now then
        s.startPolling
      else
        { s with model := s.model.expireSession }.beginRefresh env .activate

def deactivate (s : LoginSystem Endpoint) : LoginSystem Endpoint :=
  { s with
    model := { s.model with
      active := false
      operationSequence := s.model.operationSequence + 1
      isStartingLogin := false } }.stopPolling

def refreshReadiness (s : LoginSystem Endpoint) : LoginSystem Endpoint :=
  if s.model.active && s.model.supportsCredentialReadiness then
    s.beginRefresh env .refreshReadiness
  else s

def startLogin (s : LoginSystem Endpoint) (method : BilibiliLoginMethod) : LoginSystem Endpoint :=
  let allowed :=
    if method = .webQR then s.model.canStartLogin env else s.model.canStartAccessKeyLogin env
  match env.normalized s.model.serverAddressText with
  | none => s
  | some endpoint =>
    if allowed then
      { s with
        model := { s.model with
          operationSequence := s.model.operationSequence + 1
          isStartingLogin := true } }.setStart (s.model.operationSequence + 1)
        (some ⟨endpoint, method⟩)
    else s

def startAnswered (s : LoginSystem Endpoint) (sequence : Nat) (start : Start Endpoint)
    (session : BilibiliLoginSession) : LoginSystem Endpoint :=
  let s := s.setStart sequence none
  if s.model.isCurrent env sequence start.endpoint then
    if session.profileID = s.model.effectiveProfileID ∧
        LoginModel.sameMethod env session.method start.method.rawValue then
      let s := { s with
        model := { s.model with
          isStartingLogin := false
          activeSession := some session }.applySession env session }
      if s.model.status = .authenticated then
        s.beginRefresh env .startLogin
      else if s.model.status = .sessionPending then
        s.startPolling
      else s
    else
      { s with model := { s.model with isStartingLogin := false, status := .failed } }
  else s

def startFailed (s : LoginSystem Endpoint) (sequence : Nat) (start : Start Endpoint) :
    LoginSystem Endpoint :=
  let s := s.setStart sequence none
  if s.model.isCurrent env sequence start.endpoint then
    { s with model := { s.model with isStartingLogin := false, status := .failed } }
  else s

def leaveLoop (s : LoginSystem Endpoint) : LoopTop Endpoint :=
  if s.model.active && s.model.status == .sessionPending then .timedOut else .stopped

/-- The condition of the loop, then the expiry of the session it has read. `late` says that the
deadline of the poller has passed. -/
def loopTop (s : LoginSystem Endpoint) (poller : Poller Endpoint) (late : Bool) (now : Int) :
    LoopTop Endpoint :=
  if !poller.cancelled && s.model.active && !late then
    match s.model.activeSession, env.normalized s.model.serverAddressText with
    | some session, some endpoint =>
      if isUnexpired session now then .poll session endpoint else .sessionExpired
    | _, _ => s.leaveLoop
  else s.leaveLoop

def pollerRuns (s : LoginSystem Endpoint) (generation : Nat) (poller : Poller Endpoint)
    (late : Bool) (now : Int) : LoginSystem Endpoint :=
  match s.loopTop env poller late now with
  | .poll session endpoint =>
    s.setPoller generation (some { poller with
      session := session
      sequence := s.model.operationSequence
      starting := s.model.isStartingLogin
      phase := .polling endpoint })
  | .sessionExpired => { s with model := s.model.expireSession }.endPoller generation
  | .timedOut => { s with model := s.model.expireSession }.endPoller generation
  | .stopped => s.endPoller generation

def acceptsPoll (s : LoginSystem Endpoint) (poller : Poller Endpoint) (endpoint : Endpoint)
    (updated : BilibiliLoginSession) : Bool :=
  s.model.active && !poller.cancelled &&
    env.normalized s.model.serverAddressText == some endpoint &&
    updated.id == poller.session.id && updated.profileID == s.model.effectiveProfileID &&
    LoginModel.sameMethod env updated.method poller.session.method

def pollAnswered (s : LoginSystem Endpoint) (generation : Nat) (poller : Poller Endpoint)
    (endpoint : Endpoint) (updated : BilibiliLoginSession) : LoginSystem Endpoint :=
  if s.acceptsPoll env poller endpoint updated then
    let s := { s with
      model := { s.model with activeSession := some updated }.applySession env updated }
    if s.model.status ≠ .sessionPending then
      if s.model.status = .authenticated then
        (s.setPoller generation (some { poller with phase := .refreshing })).beginRefresh env
          (.poller generation)
      else
        { s with model := { s.model with activeSession := none } }.endPoller generation
    else
      s.setPoller generation (some { poller with phase := .sleeping })
  else
    s.endPoller generation

def pollFailed (s : LoginSystem Endpoint) (generation : Nat) (poller : Poller Endpoint) :
    LoginSystem Endpoint :=
  if s.model.active && !poller.cancelled then
    { s with
      model := { { s.model with status := .failed }.clearPresentation with
        activeSession := none } }.endPoller generation
  else
    s.endPoller generation

end LoginSystem

inductive LoginEvent
  | activate (serverAddressText : String) (now : Int)
  | deactivate
  | refreshReadiness
  | startLogin (method : BilibiliLoginMethod)
  | serverInfoAnswered (sequence : Nat) (info : CacheServerSummary)
  | credentialsAnswered (sequence : Nat) (credentials : BilibiliCredentialStatus)
  | refreshThrew (sequence : Nat) (unsupported : Bool)
  | startAnswered (sequence : Nat) (session : BilibiliLoginSession)
  | startFailed (sequence : Nat)
  | pollerRuns (generation : Nat) (late : Bool) (now : Int)
  | pollAnswered (generation : Nat) (updated : BilibiliLoginSession)
  | pollFailed (generation : Nat)
  | sleepCancelled (generation : Nat)

inductive LoginStep {Endpoint : Type} [DecidableEq Endpoint] (env : Platform Endpoint) :
    LoginSystem Endpoint → LoginEvent → LoginSystem Endpoint → Prop
  | activate (s : LoginSystem Endpoint) (serverAddressText : String) (now : Int) :
      LoginStep env s (.activate serverAddressText now) (s.activate env serverAddressText now)
  | deactivate (s : LoginSystem Endpoint) : LoginStep env s .deactivate s.deactivate
  | refreshReadiness (s : LoginSystem Endpoint) :
      LoginStep env s .refreshReadiness (s.refreshReadiness env)
  | startLogin (s : LoginSystem Endpoint) (method : BilibiliLoginMethod) :
      LoginStep env s (.startLogin method) (s.startLogin env method)
  | serverInfoAnswered {s : LoginSystem Endpoint} {sequence : Nat} {refresh : Refresh Endpoint}
      (info : CacheServerSummary) (inFlight : s.refreshes sequence = some refresh)
      (phase : refresh.phase = .serverInfo) :
      LoginStep env s (.serverInfoAnswered sequence info)
        (s.serverInfoAnswered env sequence refresh info)
  | credentialsAnswered {s : LoginSystem Endpoint} {sequence : Nat} {refresh : Refresh Endpoint}
      (credentials : BilibiliCredentialStatus) (inFlight : s.refreshes sequence = some refresh)
      (phase : refresh.phase = .credentials) :
      LoginStep env s (.credentialsAnswered sequence credentials)
        (s.credentialsAnswered env sequence refresh credentials)
  | refreshThrew {s : LoginSystem Endpoint} {sequence : Nat} {refresh : Refresh Endpoint}
      (unsupported : Bool) (inFlight : s.refreshes sequence = some refresh) :
      LoginStep env s (.refreshThrew sequence unsupported)
        (s.refreshThrew env sequence refresh unsupported)
  | startAnswered {s : LoginSystem Endpoint} {sequence : Nat} {start : Start Endpoint}
      (session : BilibiliLoginSession) (inFlight : s.starts sequence = some start) :
      LoginStep env s (.startAnswered sequence session)
        (s.startAnswered env sequence start session)
  | startFailed {s : LoginSystem Endpoint} {sequence : Nat} {start : Start Endpoint}
      (inFlight : s.starts sequence = some start) :
      LoginStep env s (.startFailed sequence) (s.startFailed env sequence start)
  | pollerRuns {s : LoginSystem Endpoint} {generation : Nat} {poller : Poller Endpoint}
      (late : Bool) (now : Int) (alive : s.pollers generation = some poller)
      (phase : poller.phase = .created ∨ poller.phase = .sleeping) :
      LoginStep env s (.pollerRuns generation late now)
        (s.pollerRuns env generation poller late now)
  | pollAnswered {s : LoginSystem Endpoint} {generation : Nat} {poller : Poller Endpoint}
      {endpoint : Endpoint} (updated : BilibiliLoginSession)
      (alive : s.pollers generation = some poller) (phase : poller.phase = .polling endpoint) :
      LoginStep env s (.pollAnswered generation updated)
        (s.pollAnswered env generation poller endpoint updated)
  | pollFailed {s : LoginSystem Endpoint} {generation : Nat} {poller : Poller Endpoint}
      {endpoint : Endpoint} (alive : s.pollers generation = some poller)
      (phase : poller.phase = .polling endpoint) :
      LoginStep env s (.pollFailed generation) (s.pollFailed generation poller)
  | sleepCancelled {s : LoginSystem Endpoint} {generation : Nat} {poller : Poller Endpoint}
      (alive : s.pollers generation = some poller) (phase : poller.phase = .sleeping)
      (cancelled : poller.cancelled = true) :
      LoginStep env s (.sleepCancelled generation) (s.endPoller generation)

end NetPlayer.Client
