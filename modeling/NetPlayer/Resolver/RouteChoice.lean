import NetPlayer.Resolver.Planning

/-!
# The route that a plan comes from

What a waiting call knows about the results of its futures, and what one poll does: it
keeps that knowledge, records a route only with the proxy plan it returns, and returns no
proxy plan when it finds a plan of the episode on the official route.
-/

namespace NetPlayer.Resolver

def RouteContext.For (context : RouteContext) (call : PgcCall) : Prop :=
  ∃ resolved, call.metadata = .ok resolved ∧
    pgcRouteMetadata call.input resolved = some context.metadata

def PgcCall.OfficialLost (call : PgcCall) (context : RouteContext) : Prop :=
  ∀ plan, call.official = .ok plan →
    plan.hasSingleIdentity context.metadata.identity .official = false

def PgcCall.RegionRestricted (call : PgcCall) : Prop :=
  ∃ error, call.official = .error error ∧ isGenuineRegionRestriction error = true

def PgcCall.Judged (call : PgcCall) (context : RouteContext)
    (officialResult : Option OfficialResult) : Prop :=
  ∀ result, officialResult = some result → judgeOfficial context call.official = .inr result

def PgcCall.Delivers (call : PgcCall) (plan : PlannedPgcPlan) : PlanPath → Prop
  | .trusted =>
    call.official = .ok plan ∧ trustedOfficialEpisodeMatchesInput call.input plan = true
  | .unrouted =>
    call.official = .ok plan ∧
      ∃ resolved, call.metadata = .ok resolved ∧ pgcRouteMetadata call.input resolved = none
  | .official context =>
    context.For call ∧ call.official = .ok plan ∧
      plan.hasSingleIdentity context.metadata.identity .official = true
  | .proxy context index candidate =>
    context.For call ∧ call.proxy index candidate context.targetArea = .ok plan ∧
      plan.hasSingleIdentity context.metadata.identity .proxy = true

def Await.Consistent (call : PgcCall) : Await → Prop
  | .permit => True
  | .initial wait => wait.Consistent call.official
  | .officialWithoutRoute =>
    ∃ resolved, call.metadata = .ok resolved ∧ pgcRouteMetadata call.input resolved = none
  | .probing context _ officialResult => context.For call ∧ call.Judged context officialResult
  | .officialWithoutProbes context => context.For call
  | .racing context _ _ observed race =>
    context.For call ∧ call.Judged context observed ∧
      race.Consistent context.accepts
        (observed.getD call.official)
  | .officialBeforeProxies context _ => context.For call
  | .proxies context officialError _ _ =>
    context.For call ∧ call.official = .error officialError ∧
      isGenuineRegionRestriction officialError = true
  | .finished (.ok (plan, path)) => call.Delivers plan path
  | .finished (.error _) => True

theorem official_of_pollResult {call : PgcCall} {ready : Bool} (result : OfficialResult)
    (h : pollResult ready call.official = some result) : result = call.official :=
  (pollResult_eq_some.mp h).2

theorem judged_none (call : PgcCall) (context : RouteContext) : call.Judged context none :=
  nofun

variable {result kept official proxy : OfficialResult}

theorem judgeOfficial_kept {context : RouteContext} (h : judgeOfficial context result = .inr kept) :
    (∃ error, result = .error error ∧ kept = .error error) ∨
      ∃ plan, result = .ok plan ∧ kept = .error mismatch ∧
        plan.hasSingleIdentity context.metadata.identity .official = false := by
  cases result with
  | error error =>
    cases h
    exact .inl ⟨error, rfl, rfl⟩
  | ok plan =>
    simp only [judgeOfficial] at h
    by_cases hvalid : plan.hasSingleIdentity context.metadata.identity .official = true
    · rw [if_pos hvalid] at h
      cases h
    · rw [if_neg hvalid] at h
      cases h
      exact .inr ⟨plan, rfl, rfl, Bool.eq_false_iff.mpr hvalid⟩

variable {officialResult : Option OfficialResult}

theorem PgcCall.Judged.error {call : PgcCall} {context : RouteContext}
    (judged : call.Judged context officialResult) {error : BbdownError}
    (h : officialResult = some (.error error)) (genuine : isGenuineRegionRestriction error = true) :
    call.official = .error error := by
  rcases judgeOfficial_kept (judged _ h) with ⟨other, hofficial, hkept⟩ | ⟨_, _, hkept, _⟩
  · cases hkept
    exact hofficial
  · cases hkept
    cases genuine

theorem PgcCall.Judged.lost {call : PgcCall} {context : RouteContext}
    (judged : call.Judged context officialResult)
    (h : officialResult = some result) : call.OfficialLost context := by
  intro plan hplan
  rcases judgeOfficial_kept (judged _ h) with ⟨_, hofficial, _⟩ | ⟨other, hofficial, _, hinvalid⟩
  · rw [hofficial] at hplan
    cases hplan
  · rw [hofficial] at hplan
    cases hplan
    exact hinvalid

variable {plan : PlannedPgcPlan}

theorem PgcCall.Judged.not_ok {call : PgcCall} {context : RouteContext}
    (judged : call.Judged context officialResult) : officialResult ≠ some (.ok plan) := by
  intro h
  rcases judgeOfficial_kept (judged _ h) with ⟨_, _, hkept⟩ | ⟨_, _, hkept, _⟩
  · cases hkept
  · cases hkept

theorem PgcCall.RegionRestricted.lost {call : PgcCall} (restricted : call.RegionRestricted)
    (context : RouteContext) : call.OfficialLost context := by
  intro plan hplan
  obtain ⟨error, herror, -⟩ := restricted
  rw [herror] at hplan
  cases hplan

def Await.returnedProxy : Await → Option RouteContext
  | .finished (.ok (_, .proxy context _ _)) => some context
  | _ => none

def Trained (call : PgcCall) (before after : Operation) : Prop :=
  ∃ plan context index candidate,
    after.await = .finished (.ok (plan, .proxy context index candidate)) ∧
      after.recorded = before.recorded ++ [⟨candidate.hostId, context.targetArea⟩] ∧
      call.RegionRestricted

structure Polled (call : PgcCall) (wake : Wake) (before after : Operation) : Prop where
  await : after.await.Consistent call
  recorded : after.recorded = before.recorded ∨ Trained call before after
  memory : ∀ entry ∈ after.memory, entry ∈ before.memory ∨
    ∃ route, after.recorded = before.recorded ++ [route] ∧
      call.normalizeHost route.hostId = some entry.hostId ∧ entry.area = route.area
  officialFirst : ∀ context, after.await.returnedProxy = some context →
    wake.officialReady = true → call.OfficialLost context

variable {call : PgcCall} {wake : Wake} {current : Bool} {context : RouteContext}
  {op : Operation}

theorem polled_wait (await : Await) (consistent : await.Consistent call)
    (other : await.returnedProxy = none) : Polled call wake op (op.wait await) where
  await := consistent
  recorded := .inl rfl
  memory := fun _ h => .inl h
  officialFirst := fun context h => by
    rw [show (op.wait await).await = await from rfl, other] at h
    cases h

theorem polled_error (error : BilibiliDownloadError) :
    Polled call wake op (op.finish (.error error)) :=
  polled_wait (.finished (.error error)) True.intro rfl

variable (route : context.For call)

include route in
theorem polled_official (official : call.official = .ok plan)
    (valid : plan.hasSingleIdentity context.metadata.identity .official = true) :
    Polled call wake op (op.finish (.ok (plan, .official context))) :=
  polled_wait (.finished (.ok (plan, .official context)))
    ⟨route, official, valid⟩ rfl

theorem polled_finishProxy {index : Nat} {candidate : ResolverCandidate} {train : Bool}
    (now : Nat) (route : context.For call)
    (proxy : call.proxy index candidate context.targetArea = .ok plan)
    (valid : plan.hasSingleIdentity context.metadata.identity .proxy = true)
    (lost : wake.officialReady = true → call.OfficialLost context)
    (trained : train = true → call.RegionRestricted) :
    Polled call wake op (op.finishProxy call context index candidate plan train now) := by
  have hlost : ∀ other, some context = some other →
      wake.officialReady = true → call.OfficialLost other := by
    intro other h
    cases h
    exact lost
  cases train with
  | false =>
    exact {
      await := ⟨route, proxy, valid⟩
      recorded := .inl rfl
      memory := fun _ h => .inl h
      officialFirst := hlost }
  | true =>
    refine {
      await := ⟨route, proxy, valid⟩
      recorded := .inr ⟨plan, context, index, candidate, rfl, rfl, trained rfl⟩
      memory := fun entry hm => ?_
      officialFirst := hlost }
    rcases recordRegionRoute_mem hm with hold | ⟨host, hhost, -, hn⟩
    · exact .inl hold
    · exact .inr ⟨⟨candidate.hostId, context.targetArea⟩, rfl, by rw [hhost, hn.hostId],
        hn.area⟩

variable {officialError : BbdownError}

include route

theorem pollProxies_polled (official : call.official = .error officialError)
    (genuine : isGenuineRegionRestriction officialError = true) (index : Nat)
    (candidates : List ResolverCandidate) :
    Polled call wake op
      (pollProxies call wake current context officialError op index candidates) := by
  have hrestricted : call.RegionRestricted := ⟨officialError, official, genuine⟩
  induction candidates generalizing index with
  | nil => exact polled_error _
  | cons candidate rest ih =>
    unfold pollProxies
    cases coreAreaForRegion context.targetArea with
    | error error => exact polled_error error
    | ok area =>
      by_cases hready : wake.proxyReady index = true
      · rw [if_pos hready]
        cases hproxy : call.proxy index candidate context.targetArea with
        | error _ => exact ih (index + 1)
        | ok plan =>
          simp only
          by_cases hvalid :
              plan.hasSingleIdentity context.metadata.identity .proxy = true
          · rw [if_pos hvalid]
            exact polled_finishProxy wake.now route hproxy hvalid
              (fun _ => hrestricted.lost context) fun _ => hrestricted
          · rw [if_neg hvalid]
            exact ih (index + 1)
      · rw [if_neg hready]
        exact polled_wait _ ⟨route, official, genuine⟩ rfl

theorem proxiesAfter_polled (official : isGenuineRegionRestriction officialError = true →
      call.official = .error officialError) (index : Nat) (candidates : List ResolverCandidate) :
    Polled call wake op
      (proxiesAfter call wake current context officialError index candidates op) := by
  unfold proxiesAfter
  by_cases hgenuine : isGenuineRegionRestriction officialError = true
  · rw [if_pos hgenuine]
    exact pollProxies_polled route (official hgenuine) hgenuine index candidates
  · rw [if_neg hgenuine]
    exact polled_error _

theorem validateRoutePlan_polled (official : call.official = .ok plan) :
    Polled call wake op (op.finish (validateRoutePlan plan context)) := by
  unfold validateRoutePlan
  by_cases hvalid : plan.hasSingleIdentity context.metadata.identity .official = true
  · rw [if_pos hvalid]
    exact polled_official route official hvalid
  · rw [if_neg hvalid]
    exact polled_error _

omit route

theorem official_at_hand (judged : call.Judged context officialResult)
    (h : officialResult.or (pollResult wake.officialReady call.official) = some (.ok plan)) :
    call.official = .ok plan := by
  cases officialResult with
  | none => exact (official_of_pollResult _ h).symm
  | some kept => exact absurd h judged.not_ok

theorem error_at_hand {error : BbdownError} (judged : call.Judged context officialResult)
    (h : officialResult.or (pollResult wake.officialReady call.official) = some (.error error))
    (genuine : isGenuineRegionRestriction error = true) : call.official = .error error := by
  cases officialResult with
  | none => exact (official_of_pollResult _ h).symm
  | some kept => exact judged.error h genuine

include route in
theorem pollOfficialWithoutProbes_polled (judged : call.Judged context officialResult) :
    Polled call wake op (pollOfficialWithoutProbes call wake context officialResult op) := by
  unfold pollOfficialWithoutProbes
  split
  · exact polled_wait _ route rfl
  · rename_i plan hplan
    exact validateRoutePlan_polled route (official_at_hand judged hplan)
  · exact polled_error _

theorem pollOfficialBeforeProxies_polled (probed : List ResolverCandidate)
    (route : context.For call) (judged : call.Judged context officialResult) :
    Polled call wake op
      (pollOfficialBeforeProxies call wake current context probed officialResult op) := by
  unfold pollOfficialBeforeProxies
  split
  · exact polled_wait _ route rfl
  · rename_i plan hplan
    exact validateRoutePlan_polled route (official_at_hand judged hplan)
  · rename_i error herror
    exact proxiesAfter_polled route (error_at_hand judged herror) 0 probed

variable {observed : Option OfficialResult}

theorem restricted_of_observed {error : BbdownError} (judged : call.Judged context observed)
    (h : observed.getD call.official = .error error)
    (genuine : isGenuineRegionRestriction error = true) : call.official = .error error := by
  cases observed with
  | none => exact h
  | some kept => exact judged.error (congrArg some h) genuine

theorem lost_of_observed (judged : call.Judged context observed)
    (h : ∀ plan, observed.getD call.official = .ok plan →
      plan.hasSingleIdentity context.metadata.identity .official = false) :
    call.OfficialLost context := by
  cases observed with
  | none => exact h
  | some kept => exact judged.lost rfl

theorem exhaustedError_genuine {officialError proxyError : Option BbdownError} {invalidPlan : Bool}
    (sound : FirstValidRace.Sound
      context.accepts official proxy
      (.exhausted officialError proxyError invalidPlan))
    (genuine : isGenuineRegionRestriction
      (exhaustedError officialError proxyError invalidPlan) = true) :
    official = .error (exhaustedError officialError proxyError invalidPlan) := by
  rcases sound.exhausted _ _ _ rfl with ⟨error, herror, rfl⟩ | ⟨plan, -, -, rfl, rfl⟩
  · exact herror
  · cases genuine

include route in
theorem pollRacing_polled {primary : ResolverCandidate} {rest : List ResolverCandidate}
    {race : PlanRace BbdownError} (judged : call.Judged context observed)
    (consistent : race.Consistent context.accepts (observed.getD call.official)) :
    Polled call wake op (pollRacing call wake current context primary rest observed race op) := by
  have hofficial : ∀ result,
      observed.or (pollResult wake.officialReady call.official) = some result →
        result = observed.getD call.official := by
    intro result h
    cases observed with
    | none => exact official_of_pollResult result h
    | some kept => exact (Option.some.inj h).symm
  have hproxy : ∀ result, pollResult (wake.proxyReady 0)
      (call.proxy 0 primary context.targetArea) = some result →
        result = call.proxy 0 primary context.targetArea :=
    fun result h => (pollResult_eq_some.mp h).2
  obtain ⟨hsound, hnext⟩ := poll_spec consistent hofficial hproxy
  unfold pollRacing
  split
  · rename_i next hpoll
    exact polled_wait _ ⟨route, judged, hnext next hpoll⟩ rfl
  · rename_i plan seen hpoll
    obtain ⟨hplan, hvalid⟩ := (hsound _ hpoll).officialWinner plan seen rfl
    cases observed with
    | none => exact polled_official route hplan hvalid
    | some kept => exact absurd (congrArg some hplan) judged.not_ok
  · rename_i plan seen hpoll
    obtain ⟨hplan, hvalid, herror⟩ := (hsound _ hpoll).proxyWinner plan seen rfl
    apply polled_finishProxy wake.now route hplan hvalid
    · -- A ready official plan of the episode would have won this poll.
      intro hready
      apply lost_of_observed judged
      intro other hother
      apply Bool.eq_false_iff.mpr
      intro (hvalidOther : context.accepts other .official = true)
      cases hdone : race.officialDone with
      | true =>
        rcases consistent.officialDone hdone with ⟨error, h, -⟩ | ⟨lost, h, hinvalid, -⟩
        · rw [hother] at h
          cases h
        rw [hother] at h
        cases h
        rw [hvalidOther] at hinvalid
        cases hinvalid
      | false =>
        have hseen : observed.or (pollResult wake.officialReady call.official) =
            some (.ok other) := by
          cases observed with
          | none => rw [← hother]; exact pollResult_eq_some.mpr ⟨hready, rfl⟩
          | some kept => exact congrArg some hother
        rw [hseen, poll_official_first _ hdone hvalidOther] at hpoll
        cases hpoll
    · intro htrain
      have hgenuine := (Bool.and_eq_true_iff.mp htrain).1
      cases seen with
      | none => cases hgenuine
      | some error =>
        exact ⟨error, restricted_of_observed judged (herror error rfl) hgenuine, hgenuine⟩
  · rename_i officialError proxyError invalidPlan hpoll
    refine proxiesAfter_polled route (fun hgenuine => ?_) 1 rest
    exact restricted_of_observed judged (exhaustedError_genuine (hsound _ hpoll) hgenuine) hgenuine

theorem afterProbes_polled (probed : List ResolverCandidate) (route : context.For call)
    (judged : call.Judged context officialResult) :
    Polled call wake op (afterProbes call wake current context officialResult probed op) := by
  cases probed with
  | nil => exact pollOfficialWithoutProbes_polled route judged
  | cons primary rest =>
    unfold afterProbes
    by_cases haffinity : context.hasAreaAffinity = true
    · simp only [haffinity, if_true]
      cases coreAreaForRegion context.targetArea with
      | error error => exact polled_error error
      | ok area => exact pollRacing_polled route judged (consistent_start _ _)
    · simp only [haffinity, Bool.false_eq_true, if_false]
      exact pollOfficialBeforeProxies_polled (primary :: rest) route judged

variable {preferredHost : Option String}

include route in
theorem pollProbes_polled (judged : call.Judged context officialResult) :
    Polled call wake op (pollProbes call wake current context preferredHost officialResult op) := by
  unfold pollProbes
  split
  · exact polled_error _
  split
  · exact polled_wait _ ⟨route, judged⟩ rfl
  · exact polled_error _
  · rename_i probed _
    exact afterProbes_polled probed route judged

theorem judged_kept
    (h : judgeOfficial context call.official = .inr kept) : call.Judged context (some kept) := by
  intro result hres
  cases hres
  exact h

include route in
theorem polled_judged (h : judgeOfficial context call.official = .inl plan) :
    Polled call wake op (op.finish (.ok (plan, .official context))) := by
  unfold judgeOfficial at h
  cases hofficial : call.official with
  | error error =>
    rw [hofficial] at h
    cases h
  | ok official =>
    rw [hofficial] at h
    simp only at h
    by_cases hvalid : official.hasSingleIdentity context.metadata.identity .official = true
    · rw [if_pos hvalid] at h
      cases h
      exact polled_official route hofficial hvalid
    · rw [if_neg hvalid] at h
      cases h

include route in
theorem pollProbing_polled (judged : call.Judged context officialResult) :
    Polled call wake op
      (pollProbing call wake current context preferredHost officialResult op) := by
  unfold pollProbing
  split
  · rename_i result hres
    rw [official_of_pollResult result hres]
    split
    · rename_i plan hplan
      exact polled_judged route hplan
    · rename_i kept hkept
      exact pollProbes_polled route (judged_kept hkept)
  · exact pollProbes_polled route judged

theorem pollOfficialWithoutRoute_polled (unrouted : ∃ resolved, call.metadata = .ok resolved ∧
      pgcRouteMetadata call.input resolved = none)
    (kept : ∀ result, officialResult = some result → result = call.official) :
    Polled call wake op (pollOfficialWithoutRoute call wake officialResult op) := by
  have hofficial : ∀ result,
      officialResult.or (pollResult wake.officialReady call.official) = some result →
        result = call.official := by
    intro result h
    cases officialResult with
    | none => exact official_of_pollResult result h
    | some _ => exact kept result h
  unfold pollOfficialWithoutRoute
  split
  · exact polled_wait _ unrouted rfl
  · rename_i plan hplan
    exact polled_wait (.finished (.ok (plan, .unrouted))) ⟨(hofficial _ hplan).symm, unrouted⟩ rfl
  · exact polled_error _

theorem Polled.of_unexpired (now : Nat) {after : Operation}
    (polled : Polled call wake { op with memory := op.memory.unexpired now } after) :
    Polled call wake op after where
  await := polled.await
  recorded := polled.recorded
  memory := fun entry hm =>
    (polled.memory entry hm).imp_left fun h => (List.mem_filter.mp h).1
  officialFirst := polled.officialFirst

theorem afterMetadata_polled {resolved : ResolvedContent}
    (hresol : call.metadata = .ok resolved)
    (kept : ∀ result, officialResult = some result → result = call.official) :
    Polled call wake op (afterMetadata call wake current resolved officialResult op) := by
  unfold afterMetadata
  cases hmeta : pgcRouteMetadata call.input resolved with
  | none => exact pollOfficialWithoutRoute_polled ⟨resolved, hresol, hmeta⟩ kept
  | some metadata =>
    apply Polled.of_unexpired wake.now
    have hroute : ∀ affinity, (routeContext metadata affinity).For call :=
      fun _ => ⟨resolved, hresol, hmeta⟩
    cases officialResult with
    | none => exact pollProbing_polled (hroute _) (judged_none call _)
    | some result =>
      rw [kept result rfl]
      simp only
      split
      · rename_i plan hplan
        exact polled_judged (hroute _) hplan
      · rename_i left hleft
        exact pollProbing_polled (hroute _) (judged_kept hleft)

theorem pollInitial_polled {wait : InitialWait PlannedPgcPlan BbdownError}
    (consistent : wait.Consistent call.official) :
    Polled call wake op (pollInitial call wake current wait op) := by
  have hspec : Sum.elim
      (InitialPgcPlan.Sound (trustedOfficialEpisodeMatchesInput call.input) call.official
        call.metadata)
      (InitialWait.Consistent call.official)
      (pollInitialPgcPlan (trustedOfficialEpisodeMatchesInput call.input)
        (pollResult wake.officialReady call.official)
        (pollResult wake.metadataReady call.metadata) wait) :=
    pollInitialPgcPlan_spec (fun result => official_of_pollResult result)
      (fun _ h => (pollResult_eq_some.mp h).2) consistent
  unfold pollInitial
  split
  all_goals rename_i hpoll; rw [hpoll] at hspec
  · exact polled_wait _ hspec rfl
  · exact polled_wait (.finished (.ok (_, .trusted))) hspec rfl
  · exact afterMetadata_polled hspec.1 hspec.2
  · exact polled_error _
  · split
    · exact polled_error _
    · exact polled_error _

theorem pollPermit_polled : Polled call wake op (pollPermit call wake current op) := by
  unfold pollPermit
  split
  · exact polled_wait _ True.intro rfl
  · exact polled_error _
  · exact pollInitial_polled nofun

theorem poll_polled (wake : Wake) (current : Bool) (consistent : op.await.Consistent call)
    (waiting : ∀ outcome, op.await ≠ .finished outcome) :
    Polled call wake op (op.poll call wake current) := by
  unfold Operation.poll
  cases hawait : op.await with
  | finished outcome => exact absurd hawait (waiting outcome)
  | permit => exact pollPermit_polled
  | initial wait =>
    rw [hawait] at consistent
    exact pollInitial_polled consistent
  | officialWithoutRoute =>
    rw [hawait] at consistent
    exact pollOfficialWithoutRoute_polled consistent nofun
  | probing context preferredHost officialResult =>
    rw [hawait] at consistent
    exact pollProbing_polled consistent.1 consistent.2
  | officialWithoutProbes context =>
    rw [hawait] at consistent
    exact pollOfficialWithoutProbes_polled consistent (judged_none call context)
  | racing context primary rest observed race =>
    rw [hawait] at consistent
    exact pollRacing_polled consistent.1 consistent.2.1 consistent.2.2
  | officialBeforeProxies context probed =>
    rw [hawait] at consistent
    exact pollOfficialBeforeProxies_polled probed consistent (judged_none call context)
  | proxies context officialError index candidates =>
    rw [hawait] at consistent
    exact pollProxies_polled consistent.1 consistent.2.1 consistent.2.2 index candidates

end NetPlayer.Resolver
