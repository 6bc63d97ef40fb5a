import NetPlayer.Resolver.PlanRace

/-!
# Planning a restricted episode

`plan_with_resolver_routing` as the state machine that its `async` block is: the places
where it waits, and what one poll does from each of them. A poll runs until a future it
waits for is not ready. What the futures return is given with the call; which of them are
ready is given with each poll, so every order of completion is a sequence of polls.
-/

namespace NetPlayer.Resolver

structure PgcCall where
  input : Input
  revision : Nat
  candidates : Except String (List ResolverCandidate)
  permit : Except Unit Unit
  official : Except BbdownError PlannedPgcPlan
  metadata : Except BbdownError ResolvedContent
  probeCandidates : Region → Option String → Except Unit (List ResolverCandidate)
  proxy : Nat → ResolverCandidate → Region → Except BbdownError PlannedPgcPlan
  display : BbdownError → String
  normalizeHost : String → Option String

def PgcCall.failed (call : PgcCall) (error : BbdownError) : BilibiliDownloadError :=
  .failed ("BBDown adapter failed: " ++ call.display error)

/-- What the rest of a call knows once the metadata is there. -/
structure RouteContext where
  metadata : PgcRouteMetadata
  targetArea : Region
  hasAreaAffinity : Bool
  deriving DecidableEq

variable (context : RouteContext)

def RouteContext.accepts (plan : PlannedPgcPlan) (route : PgcPlanRoute) : Bool :=
  plan.hasSingleIdentity context.metadata.identity route

inductive PlanPath where
  | trusted
  /-- The official plan of an input without single-episode metadata. -/
  | unrouted
  | official (context : RouteContext)
  | proxy (context : RouteContext) (index : Nat) (candidate : ResolverCandidate)
  deriving DecidableEq

abbrev OfficialResult := Except BbdownError PlannedPgcPlan

abbrev Outcome := Except BilibiliDownloadError (PlannedPgcPlan × PlanPath)

inductive Await where
  | permit
  | initial (wait : InitialWait PlannedPgcPlan BbdownError)
  | officialWithoutRoute
  | probing (context : RouteContext) (preferredHost : Option String)
      (officialResult : Option OfficialResult)
  | officialWithoutProbes (context : RouteContext)
  | racing (context : RouteContext) (primary : ResolverCandidate)
      (rest : List ResolverCandidate) (observed : Option OfficialResult)
      (race : PlanRace BbdownError)
  | officialBeforeProxies (context : RouteContext) (probed : List ResolverCandidate)
  | proxies (context : RouteContext) (officialError : BbdownError) (index : Nat)
      (candidates : List ResolverCandidate)
  | finished (outcome : Outcome)

structure RegionRoute where
  hostId : String
  area : Region
  deriving DecidableEq

structure Operation where
  await : Await
  memory : RouteMemory
  recorded : List RegionRoute := []

def Operation.wait (op : Operation) (await : Await) : Operation :=
  { op with await }

def Operation.finish (op : Operation) (outcome : Outcome) : Operation :=
  { op with await := .finished outcome }

/-- What one poll finds: the futures that are ready, the time and the settings' revision. -/
structure Wake where
  permitReady : Bool := false
  officialReady : Bool := false
  metadataReady : Bool := false
  probesReady : Bool := false
  proxyReady : Nat → Bool := fun _ => false
  now : Nat := 0

def pollResult {Result : Type} (ready : Bool) (result : Result) : Option Result :=
  if ready then some result else none

theorem pollResult_eq_some {Result : Type} {ready : Bool} {result found : Result} :
    pollResult ready result = some found ↔ ready = true ∧ found = result := by
  unfold pollResult
  cases ready with
  | false => simp
  | true => simp [eq_comm]

def Operation.recordRegionRoute (op : Operation) (call : PgcCall) (context : RouteContext)
    (hostId : String) (now : Nat) : Operation :=
  { op with
    memory := op.memory.recordRegionRoute call.normalizeHost context.metadata.identity.contentKey
      context.metadata.seriesKeys hostId context.targetArea now
    recorded := op.recorded ++ [⟨hostId, context.targetArea⟩] }

/-- Returns a proxy's plan; `train` says whether the route is worth remembering. -/
def Operation.finishProxy (op : Operation) (call : PgcCall) (context : RouteContext)
    (index : Nat) (candidate : ResolverCandidate) (plan : PlannedPgcPlan) (train : Bool)
    (now : Nat) : Operation :=
  (if train then op.recordRegionRoute call context candidate.hostId now else op).finish
    (.ok (plan, .proxy context index candidate))

/-- The loop over the candidates; `current` says whether the settings are still the call's. -/
def pollProxies (call : PgcCall) (wake : Wake) (current : Bool) (context : RouteContext)
    (officialError : BbdownError) (op : Operation) :
    Nat → List ResolverCandidate → Operation
  | _, [] => op.finish (.error (call.failed officialError))
  | index, candidate :: rest =>
    match coreAreaForRegion context.targetArea with
    | .error error => op.finish (.error error)
    | .ok _ =>
      if wake.proxyReady index then
        match call.proxy index candidate context.targetArea with
        | .ok plan =>
          if plan.hasSingleIdentity context.metadata.identity .proxy then
            op.finishProxy call context index candidate plan current wake.now
          else
            pollProxies call wake current context officialError op (index + 1) rest
        | .error _ =>
          pollProxies call wake current context officialError op (index + 1) rest
      else
        op.wait (.proxies context officialError index (candidate :: rest))

variable (call : PgcCall) (wake : Wake)

def proxiesAfter (current : Bool) (context : RouteContext) (officialError : BbdownError)
    (index : Nat) (candidates : List ResolverCandidate) (op : Operation) : Operation :=
  if isGenuineRegionRestriction officialError then
    pollProxies call wake current context officialError op index candidates
  else
    op.finish (.error (call.failed officialError))

def validateRoutePlan (plan : PlannedPgcPlan) (context : RouteContext) : Outcome :=
  if plan.hasSingleIdentity context.metadata.identity .official then
    .ok (plan, .official context)
  else
    .error (.failed "PGC route result did not match the resolved episode identity.")

def shouldTrainRoute (observedOfficialError : Option BbdownError) : Bool :=
  observedOfficialError.any isGenuineRegionRestriction

def exhaustedError (officialError proxyError : Option BbdownError) (invalidPlan : Bool) :
    BbdownError :=
  match officialError with
  | some error => error
  | none =>
    if invalidPlan then
      .missingField "a single PGC route entry matching the resolved episode identity"
    else
      proxyError.getD (.missingField "a valid PGC route result")

def pollRacing (current : Bool) (context : RouteContext) (primary : ResolverCandidate)
    (rest : List ResolverCandidate) (observed : Option OfficialResult) (race : PlanRace BbdownError)
    (op : Operation) : Operation :=
  match race.poll context.accepts
      (observed.or (pollResult wake.officialReady call.official))
      (pollResult (wake.proxyReady 0) (call.proxy 0 primary context.targetArea)) with
  | .inr race => op.wait (.racing context primary rest observed race)
  | .inl (.winner plan .official _) => op.finish (.ok (plan, .official context))
  | .inl (.winner plan .proxy observedOfficialError) =>
    op.finishProxy call context 0 primary plan
      (shouldTrainRoute observedOfficialError && current) wake.now
  | .inl (.exhausted officialError proxyError invalidPlan) =>
    proxiesAfter call wake current context
      (exhaustedError officialError proxyError invalidPlan) 1 rest op

def pollOfficialWithoutProbes (context : RouteContext) (officialResult : Option OfficialResult)
    (op : Operation) : Operation :=
  match officialResult.or (pollResult wake.officialReady call.official) with
  | none => op.wait (.officialWithoutProbes context)
  | some (.ok plan) => op.finish (validateRoutePlan plan context)
  | some (.error error) => op.finish (.error (call.failed error))

def pollOfficialBeforeProxies (current : Bool) (context : RouteContext)
    (probed : List ResolverCandidate) (officialResult : Option OfficialResult) (op : Operation) :
    Operation :=
  match officialResult.or (pollResult wake.officialReady call.official) with
  | none => op.wait (.officialBeforeProxies context probed)
  | some (.ok plan) => op.finish (validateRoutePlan plan context)
  | some (.error error) => proxiesAfter call wake current context error 0 probed op

def afterProbes (current : Bool) (context : RouteContext)
    (officialResult : Option OfficialResult) (probed : List ResolverCandidate) (op : Operation) :
    Operation :=
  match probed with
  | [] => pollOfficialWithoutProbes call wake context officialResult op
  | primary :: rest =>
    if context.hasAreaAffinity then
      match coreAreaForRegion context.targetArea with
      | .error error => op.finish (.error error)
      | .ok _ => pollRacing call wake current context primary rest officialResult {} op
    else
      pollOfficialBeforeProxies call wake current context probed officialResult op

def refuses : Option OfficialResult → Option BbdownError
  | some (.error error) =>
    if !context.hasAreaAffinity && !isGenuineRegionRestriction error then some error else none
  | _ => none

def mismatch : BbdownError :=
  .missingField "a single official PGC entry matching the resolved episode identity"

def judgeOfficial : OfficialResult → PlannedPgcPlan ⊕ OfficialResult
  | .ok plan =>
    if plan.hasSingleIdentity context.metadata.identity .official then .inl plan
    else .inr (.error mismatch)
  | .error error => .inr (.error error)

/-- The probe's branch of the `select!`, after the check at the head of the loop. -/
def pollProbes (current : Bool) (context : RouteContext) (preferredHost : Option String)
    (officialResult : Option OfficialResult) (op : Operation) : Operation :=
  match refuses context officialResult with
  | some error => op.finish (.error (call.failed error))
  | none =>
    match pollResult wake.probesReady
        (call.probeCandidates context.targetArea preferredHost) with
    | none => op.wait (.probing context preferredHost officialResult)
    | some (.error ()) =>
      op.finish (.error (.cancelled "Cancelled while probing resolver connectivity."))
    | some (.ok probed) => afterProbes call wake current context officialResult probed op

def pollProbing (current : Bool) (context : RouteContext) (preferredHost : Option String)
    (officialResult : Option OfficialResult) (op : Operation) : Operation :=
  match officialResult, pollResult wake.officialReady call.official with
  | none, some result =>
    match judgeOfficial context result with
    | .inl plan => op.finish (.ok (plan, .official context))
    | .inr kept => pollProbes call wake current context preferredHost (some kept) op
  | officialResult, _ =>
    pollProbes call wake current context preferredHost officialResult op

def pollOfficialWithoutRoute (officialResult : Option OfficialResult) (op : Operation) :
    Operation :=
  match officialResult.or (pollResult wake.officialReady call.official) with
  | none => op.wait .officialWithoutRoute
  | some (.ok plan) => op.finish (.ok (plan, .unrouted))
  | some (.error error) => op.finish (.error (call.failed error))

def routeContext (metadata : PgcRouteMetadata) (affinity : Option RouteMemoryEntry) :
    RouteContext where
  metadata := metadata
  targetArea := routeTargetArea (affinity.map RouteMemoryEntry.area) metadata.areaHint
  hasAreaAffinity := metadata.areaHint.isSome || affinity.isSome

def afterMetadata (current : Bool) (resolved : ResolvedContent)
    (officialResult : Option OfficialResult) (op : Operation) : Operation :=
  match pgcRouteMetadata call.input resolved with
  | none => pollOfficialWithoutRoute call wake officialResult op
  | some metadata =>
    let memory := op.memory.unexpired wake.now
    let affinity := memory.lookup metadata.identity.contentKey metadata.seriesKeys
    let context := routeContext metadata affinity
    let preferredHost := affinity.map RouteMemoryEntry.hostId
    let op := { op with memory }
    match officialResult with
    | none => pollProbing call wake current context preferredHost none op
    | some result =>
      match judgeOfficial context result with
      | .inl plan => op.finish (.ok (plan, .official context))
      | .inr kept =>
        pollProbing call wake current context preferredHost (some kept) op

def pollInitial (current : Bool) (wait : InitialWait PlannedPgcPlan BbdownError)
    (op : Operation) : Operation :=
  match pollInitialPgcPlan (trustedOfficialEpisodeMatchesInput call.input)
      (pollResult wake.officialReady call.official)
      (pollResult wake.metadataReady call.metadata) wait with
  | .inr wait => op.wait (.initial wait)
  | .inl (.trustedOfficial plan) => op.finish (.ok (plan, .trusted))
  | .inl (.metadataReady resolved officialResult) =>
    afterMetadata call wake current resolved officialResult op
  | .inl (.metadataFailed (.error officialError) _) =>
    op.finish (.error (call.failed officialError))
  | .inl (.metadataFailed (.ok _) metadataError) =>
    match call.input with
    | .episode _ =>
      op.finish (.error (call.failed
        (.missingField "a single official PGC entry matching the requested episode input")))
    | _ => op.finish (.error (call.failed metadataError))

def pollPermit (current : Bool) (op : Operation) : Operation :=
  match pollResult wake.permitReady call.permit with
  | none => op.wait .permit
  | some (.error ()) =>
    op.finish (.error (.failed
      "Resolver routing admission is unavailable; retry the request."))
  | some (.ok ()) => pollInitial call wake current (.select none) op

/-- One poll of the operation that `plan_with_resolver_routing` runs. -/
def Operation.poll (current : Bool) (op : Operation) : Operation :=
  match op.await with
  | .permit => pollPermit call wake current op
  | .initial wait => pollInitial call wake current wait op
  | .officialWithoutRoute => pollOfficialWithoutRoute call wake none op
  | .probing context preferredHost officialResult =>
    pollProbing call wake current context preferredHost officialResult op
  | .officialWithoutProbes context => pollOfficialWithoutProbes call wake context none op
  | .racing context primary rest observed race =>
    pollRacing call wake current context primary rest observed race op
  | .officialBeforeProxies context probed =>
    pollOfficialBeforeProxies call wake current context probed none op
  | .proxies context officialError index candidates =>
    pollProxies call wake current context officialError op index candidates
  | .finished _ => op

/-- Where `run_resolver_future_until_current` is. -/
inductive Outer where
  | checkingCancellation
  | checkingRevision
  | selecting
  | delivered (outcome : Outcome)
  | uncancelled (outcome : Outcome)
  | returned (outcome : Outcome)

/-- A call among everything that may happen to it: `cancelled` is what its cancellation test
sees, `revision` the one that the settings store has. -/
structure PlanningState where
  operation : Operation
  outer : Outer
  cancelled : Bool := false
  revision : Nat

inductive PlanningEvent where
  /-- The call's own steps. -/
  | checkCancellation
  | checkRevision
  | poll (wake : Wake)
  | timer
  | deadline
  /-- What others do. -/
  | cancel
  | updateSettings
  | changeMemory (memory : RouteMemory)

def resolverCancelled : Outcome :=
  .error (.cancelled "Cancelled while resolving PGC Web playback routes.")

def resolverSettingsChanged : Outcome :=
  .error (.failed "Resolver settings changed during planning; retry the request.")

def deadlineExceeded : Outcome :=
  .error (.failed "Resolver routing exceeded its planning deadline; retry the request.")

def PlanningState.isCurrent (s : PlanningState) (call : PgcCall) : Bool :=
  s.revision == call.revision

def PlanningState.poll (s : PlanningState) (call : PgcCall) (wake : Wake) : PlanningState :=
  let operation := s.operation.poll call wake (s.isCurrent call)
  match operation.await with
  | .finished outcome => { s with operation, outer := .delivered outcome }
  | _ => { s with operation }

def PlanningState.step (s : PlanningState) :
    PlanningEvent → Option PlanningState
  | .checkCancellation =>
    match s.outer with
    | .checkingCancellation =>
      some { s with
        outer := if s.cancelled then .returned resolverCancelled else .checkingRevision }
    | .delivered outcome =>
      some { s with
        outer := if s.cancelled then .returned resolverCancelled else .uncancelled outcome }
    | _ => none
  | .checkRevision =>
    match s.outer with
    | .checkingRevision =>
      some { s with
        outer := if s.isCurrent call then .selecting else .returned resolverSettingsChanged }
    | .uncancelled outcome =>
      some { s with
        outer := if s.isCurrent call then .returned outcome
          else .returned resolverSettingsChanged }
    | _ => none
  | .poll wake =>
    match s.outer with
    | .selecting => some (s.poll call wake)
    | _ => none
  | .timer =>
    match s.outer with
    | .selecting => some { s with outer := .checkingCancellation }
    | _ => none
  | .deadline =>
    match s.outer with
    | .selecting => some { s with outer := .returned deadlineExceeded }
    | _ => none
  | .cancel => some { s with cancelled := true }
  | .updateSettings => some { s with revision := s.revision + 1 }
  | .changeMemory memory => some { s with operation := { s.operation with memory } }

def PgcCall.start (memory : RouteMemory) : PlanningState where
  operation := { await := .permit, memory }
  outer :=
    match call.candidates with
    | .ok _ => .checkingCancellation
    | .error message => .returned (.error (.failed ("BBDown adapter failed: " ++ message)))
  revision := call.revision

end NetPlayer.Resolver
