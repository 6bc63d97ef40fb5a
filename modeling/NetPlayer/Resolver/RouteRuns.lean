import NetPlayer.Library.Transition
import NetPlayer.Resolver.RouteChoice

/-!
# Runs of the route planner

What is known about a call is kept by its steps and by everything that others do. From
it: a returned plan shows the resolved episode on its route, the official plan wins a
poll that both routes are ready for, a recorded route is that of the proxy plan that the
operation returned after a region restriction, and a call that is no longer current
returns an error.
-/

namespace NetPlayer.Resolver

open Transition (Run)

def Step (call : PgcCall) (s : PlanningState) (event : PlanningEvent) (t : PlanningState) : Prop :=
  s.step call event = some t

def Outer.Holds (await : Await) : Outer → Prop
  | .checkingCancellation | .checkingRevision | .selecting =>
    ∀ outcome, await ≠ .finished outcome
  | .delivered outcome | .uncancelled outcome => await = .finished outcome
  | .returned (.ok plan) => await = .finished (.ok plan)
  | .returned (.error _) => True

def Operation.RecordedOnly (call : PgcCall) (op : Operation) : Prop :=
  op.recorded = [] ∨ ∃ plan context index candidate,
    op.await = .finished (.ok (plan, .proxy context index candidate)) ∧
      op.recorded = [⟨candidate.hostId, context.targetArea⟩] ∧ call.RegionRestricted

structure PlanningState.Known (call : PgcCall) (s : PlanningState) : Prop where
  await : s.operation.await.Consistent call
  recorded : s.operation.RecordedOnly call
  outer : s.outer.Holds s.operation.await
  revision : call.revision ≤ s.revision

theorem known_start (call : PgcCall) (memory : RouteMemory) : (call.start memory).Known call where
  await := True.intro
  recorded := .inl rfl
  outer := by
    unfold PgcCall.start
    cases call.candidates with
    | ok _ => exact nofun
    | error _ => exact True.intro
  revision := le_rfl

variable {call : PgcCall} {s t : PlanningState}

theorem PlanningState.Known.of_operation (known : s.Known call)
    (await : t.operation.await = s.operation.await)
    (recorded : t.operation.recorded = s.operation.recorded) (revision : s.revision ≤ t.revision)
    (outer : t.outer.Holds s.operation.await) : t.Known call where
  await := by rw [await]; exact known.await
  recorded := by
    have hrecd := known.recorded
    unfold Operation.RecordedOnly at hrecd ⊢
    rw [await, recorded]
    exact hrecd
  outer := by rw [await]; exact outer
  revision := le_trans known.revision revision

variable {op : Operation}

theorem recordedOnly_nil (recorded : op.RecordedOnly call)
    (waiting : ∀ outcome, op.await ≠ .finished outcome) : op.recorded = [] := by
  rcases recorded with hnil | ⟨plan, context, index, candidate, hawait, -⟩
  · exact hnil
  · exact absurd hawait (waiting _)

theorem known_poll (wake : Wake) (known : s.Known call) (selecting : s.outer = .selecting) :
    (s.poll call wake).Known call := by
  have hwait : ∀ outcome, s.operation.await ≠ .finished outcome := by
    have houter := known.outer
    rw [selecting] at houter
    exact houter
  have hpolled := poll_polled wake (s.isCurrent call) known.await hwait
  have hnil := recordedOnly_nil known.recorded hwait
  have hrecd : (s.operation.poll call wake (s.isCurrent call)).RecordedOnly call := by
    rcases hpolled.recorded with hs | ⟨plan, context, index, candidate, hawait, hn, hgenuine⟩
    · exact .inl (hs.trans hnil)
    · rw [hnil] at hn
      exact .inr ⟨plan, context, index, candidate, hawait, hn, hgenuine⟩
  unfold PlanningState.poll
  simp only
  split
  · rename_i outcome hawait
    exact ⟨hpolled.await, hrecd, hawait, known.revision⟩
  rename_i ho
  refine ⟨hpolled.await, hrecd, ?_, known.revision⟩
  simp only [selecting]
  exact ho

theorem known_step {event : PlanningEvent} (step : Step call s event t) (known : s.Known call) :
    t.Known call := by
  have houter := known.outer
  unfold Step at step
  cases event with
  | poll wake =>
    simp only [PlanningState.step] at step
    split at step
    · rename_i hselecting
      cases step
      exact known_poll wake known hselecting
    · cases step
  | checkCancellation =>
    simp only [PlanningState.step] at step
    split at step
    · rename_i hat
      rw [hat] at houter
      cases step
      refine known.of_operation rfl rfl le_rfl ?_
      cases s.cancelled with
      | true => exact True.intro
      | false => exact houter
    · rename_i outcome hat
      rw [hat] at houter
      cases step
      refine known.of_operation rfl rfl le_rfl ?_
      cases s.cancelled with
      | true => exact True.intro
      | false => exact houter
    · cases step
  | checkRevision =>
    simp only [PlanningState.step] at step
    split at step
    · rename_i hat
      rw [hat] at houter
      cases step
      refine known.of_operation rfl rfl le_rfl ?_
      cases s.isCurrent call with
      | true => exact houter
      | false => exact True.intro
    · rename_i outcome hat
      rw [hat] at houter
      cases step
      refine known.of_operation rfl rfl le_rfl ?_
      cases s.isCurrent call with
      | true =>
        cases outcome with
        | ok plan => exact houter
        | error error => exact True.intro
      | false => exact True.intro
    · cases step
  | timer =>
    simp only [PlanningState.step] at step
    split at step
    · rename_i hat
      rw [hat] at houter
      cases step
      exact known.of_operation rfl rfl le_rfl houter
    · cases step
  | deadline =>
    simp only [PlanningState.step] at step
    split at step
    · cases step
      exact known.of_operation rfl rfl le_rfl True.intro
    · cases step
  | cancel | changeMemory memory =>
    cases step
    exact known.of_operation rfl rfl le_rfl houter
  | updateSettings =>
    cases step
    exact known.of_operation rfl rfl (Nat.le_succ _) houter

theorem known_run {memory : RouteMemory} {events : List PlanningEvent}
    (run : Run (Step call) (call.start memory) events s) : s.Known call :=
  run.invariant (PlanningState.Known call) known_step (known_start call memory)

structure PlanningState.Stale (call : PgcCall) (s : PlanningState) : Prop where
  changed : s.cancelled = true ∨ call.revision < s.revision
  outer : match s.outer with
    | .uncancelled _ => call.revision < s.revision
    | .returned outcome => ∃ error, outcome = .error error
    | _ => True

theorem stale_step {event : PlanningEvent} (step : Step call s event t) (stale : s.Stale call) :
    t.Stale call := by
  obtain ⟨hchg, houter⟩ := stale
  have hnotCurrent : call.revision < s.revision → s.isCurrent call = false := by
    intro h
    unfold PlanningState.isCurrent
    rw [beq_eq_false_iff_ne]
    omega
  unfold Step at step
  cases event with
  | poll wake =>
    simp only [PlanningState.step] at step
    split at step
    · rename_i hselecting
      cases step
      unfold PlanningState.poll
      simp only
      split
      · exact ⟨hchg, True.intro⟩
      · exact ⟨hchg, by simp only [hselecting]⟩
    · cases step
  | checkCancellation =>
    simp only [PlanningState.step] at step
    split at step
    · cases step
      refine ⟨hchg, ?_⟩
      cases s.cancelled with
      | true => exact ⟨_, rfl⟩
      | false => exact True.intro
    · cases step
      refine ⟨hchg, ?_⟩
      cases hcanc : s.cancelled with
      | true => exact ⟨_, rfl⟩
      | false =>
        rw [hcanc] at hchg
        exact hchg.resolve_left Bool.false_ne_true
    · cases step
  | checkRevision =>
    simp only [PlanningState.step] at step
    split at step
    · cases step
      refine ⟨hchg, ?_⟩
      cases s.isCurrent call with
      | true => exact True.intro
      | false => exact ⟨_, rfl⟩
    · rename_i outcome hat
      rw [hat] at houter
      cases step
      refine ⟨hchg, ?_⟩
      rw [hnotCurrent houter]
      exact ⟨_, rfl⟩
    · cases step
  | timer =>
    simp only [PlanningState.step] at step
    split at step
    · cases step
      exact ⟨hchg, True.intro⟩
    · cases step
  | deadline =>
    simp only [PlanningState.step] at step
    split at step
    · cases step
      exact ⟨hchg, ⟨_, rfl⟩⟩
    · cases step
  | cancel =>
    cases step
    exact ⟨.inl rfl, houter⟩
  | updateSettings =>
    cases step
    refine ⟨hchg.imp_right fun h => Nat.lt_succ_of_lt h, ?_⟩
    split
    · rename_i hat
      rw [hat] at houter
      exact Nat.lt_succ_of_lt houter
    · rename_i hat
      rw [hat] at houter
      exact houter
    · exact True.intro
  | changeMemory memory =>
    cases step
    exact ⟨hchg, houter⟩

/-- The result of the operation has not been looked at yet. -/
def PlanningState.BeforeDelivery (s : PlanningState) : Prop :=
  match s.outer with
  | .uncancelled _ | .returned _ => False
  | _ => True

theorem stale_of_before (before : s.BeforeDelivery)
    (changed : s.cancelled = true ∨ call.revision < s.revision) : s.Stale call := by
  refine ⟨changed, ?_⟩
  unfold PlanningState.BeforeDelivery at before
  split
  · rename_i hat
    rw [hat] at before
    exact before.elim
  · rename_i hat
    rw [hat] at before
    exact before.elim
  · exact True.intro

def PgcCall.RouteSafe (call : PgcCall) (plan : PlannedPgcPlan) : PlanPath → Prop
  | .trusted =>
    call.official = .ok plan ∧ ∃ epid aid cid, call.input = .episode epid ∧ aid ≠ 0 ∧ cid ≠ 0 ∧
      plan.entries = [⟨aid, cid, some epid, .pgcWeb⟩]
  | .unrouted => False
  | .official _ =>
    call.official = .ok plan ∧ ∃ resolved metadata, call.metadata = .ok resolved ∧
      pgcRouteMetadata call.input resolved = some metadata ∧
      plan.entries = [⟨metadata.identity.aid, metadata.identity.cid,
        some metadata.identity.epid, .pgcWeb⟩]
  | .proxy context index candidate =>
    call.proxy index candidate context.targetArea = .ok plan ∧
      ∃ resolved metadata, call.metadata = .ok resolved ∧
      pgcRouteMetadata call.input resolved = some metadata ∧
      plan.entries = [⟨metadata.identity.aid, metadata.identity.cid,
        some metadata.identity.epid, .pgcProxy⟩]

variable {plan official : PlannedPgcPlan}

theorem routeSafe_of_delivers {path : PlanPath}
    (single : ∀ resolved, call.metadata = .ok resolved →
      (pgcRouteMetadata call.input resolved).isSome = true)
    (delivers : call.Delivers plan path) : call.RouteSafe plan path := by
  cases path with
  | trusted => exact ⟨delivers.1, trustedOfficialEpisode_iff.mp delivers.2⟩
  | unrouted =>
    obtain ⟨-, resolved, hresol, hn⟩ := delivers
    have hs := single resolved hresol
    rw [hn] at hs
    cases hs
  | official context =>
    obtain ⟨⟨resolved, hresol, hmeta⟩, hoffic, hv⟩ := delivers
    exact ⟨hoffic, resolved, context.metadata, hresol, hmeta,
      hasSingleIdentity_iff.mp hv⟩
  | proxy context index candidate =>
    obtain ⟨⟨resolved, hresol, hmeta⟩, hproxy, hv⟩ := delivers
    exact ⟨hproxy, resolved, context.metadata, hresol, hmeta,
      hasSingleIdentity_iff.mp hv⟩

def PgcCall.OfficialServes (call : PgcCall) (plan : PlannedPgcPlan) : Prop :=
  call.official = .ok plan ∧ ∀ resolved metadata, call.metadata = .ok resolved →
    pgcRouteMetadata call.input resolved = some metadata →
    plan.hasSingleIdentity metadata.identity .official = true

theorem official_wins_poll {wake : Wake} {current : Bool}
    {path : PlanPath} (consistent : op.await.Consistent call)
    (waiting : ∀ outcome, op.await ≠ .finished outcome) (serves : call.OfficialServes official)
    (ready : wake.officialReady = true)
    (finished : (op.poll call wake current).await = .finished (.ok (plan, path))) :
    plan = official := by
  have hpolled := poll_polled wake current consistent waiting
  have hdelivers : call.Delivers plan path := by
    have h := hpolled.await
    rw [finished] at h
    exact h
  have hs : call.official = .ok plan → plan = official := by
    intro h
    rw [serves.1] at h
    cases h
    rfl
  cases path with
  | trusted | unrouted => exact hs hdelivers.1
  | official context => exact hs hdelivers.2.1
  | proxy context index candidate =>
    obtain ⟨resolved, hresol, hmeta⟩ := hdelivers.1
    have hlost := hpolled.officialFirst context (by rw [finished]; rfl) ready official serves.1
    rw [serves.2 resolved context.metadata hresol hmeta] at hlost
    cases hlost

theorem racing_official_wins {wake : Wake} {current : Bool} {context : RouteContext}
    {primary : ResolverCandidate} {rest : List ResolverCandidate} {race : PlanRace BbdownError}
    (racing : op.await = .racing context primary rest none race)
    (pending : race.officialDone = false) (hoffic : call.official = .ok official)
    (valid : context.accepts official .official = true) (ready : wake.officialReady = true) :
    (op.poll call wake current).await = .finished (.ok (official, .official context)) := by
  unfold Operation.poll
  rw [racing]
  simp only [pollRacing, Option.none_or, pollResult, ready, if_true, hoffic]
  rw [poll_official_first _ pending valid]
  rfl

structure PgcCall.ChoosesSafely (call : PgcCall) (s : PlanningState) : Prop where
  identified : ∀ plan path, s.outer = .returned (.ok (plan, path)) → call.RouteSafe plan path
  officialWins : ∀ wake official, s.outer = .selecting → wake.officialReady = true →
    call.OfficialServes official →
    ∀ plan path, (s.poll call wake).operation.await = .finished (.ok (plan, path)) →
      plan = official
  racing : ∀ wake context primary rest race official,
    s.operation.await = .racing context primary rest none race → race.officialDone = false →
    wake.officialReady = true → call.OfficialServes official →
    (s.poll call wake).operation.await = .finished (.ok (official, .official context))
  recorded : ∀ route ∈ s.operation.recorded, ∃ plan context index candidate,
    s.operation.await = .finished (.ok (plan, .proxy context index candidate)) ∧
      call.RouteSafe plan (.proxy context index candidate) ∧
      route = ⟨candidate.hostId, context.targetArea⟩ ∧ call.RegionRestricted
  memory : ∀ wake, s.outer = .selecting →
    ∀ entry ∈ (s.poll call wake).operation.memory, entry ∈ s.operation.memory ∨
      ∃ route ∈ (s.poll call wake).operation.recorded,
        call.normalizeHost route.hostId = some entry.hostId ∧ entry.area = route.area
  current : s.BeforeDelivery → s.cancelled = true ∨ s.revision ≠ call.revision →
    ∀ events t outcome, Run (Step call) s events t → t.outer = .returned outcome →
      ∃ error, outcome = .error error

theorem planWithResolverRouting_safe {call : PgcCall} {memory : RouteMemory}
    {events : List PlanningEvent} {s : PlanningState}
    (single : ∀ resolved, call.metadata = .ok resolved →
      (pgcRouteMetadata call.input resolved).isSome = true)
    (run : Run (Step call) (call.start memory) events s) : call.ChoosesSafely s := by
  have known := known_run run
  have hwaiting : s.outer = .selecting → ∀ outcome, s.operation.await ≠ .finished outcome := by
    intro hselecting
    have houter := known.outer
    rw [hselecting] at houter
    exact houter
  have hpoll : ∀ wake, (s.poll call wake).operation =
      s.operation.poll call wake (s.isCurrent call) := by
    intro wake
    unfold PlanningState.poll
    simp only
    split <;> rfl
  constructor
  case identified =>
    intro plan path hreturned
    have houter := known.outer
    rw [hreturned] at houter
    have hconsistent := known.await
    rw [show s.operation.await = .finished (.ok (plan, path)) from houter] at hconsistent
    exact routeSafe_of_delivers single hconsistent
  case officialWins =>
    intro wake official hselecting ready serves plan path hfinished
    rw [hpoll] at hfinished
    exact official_wins_poll known.await (hwaiting hselecting) serves ready hfinished
  case racing =>
    intro wake context primary rest race official hracing pending ready serves
    have hconsistent := known.await
    rw [hracing] at hconsistent
    obtain ⟨⟨resolved, hresolved, hmetadata⟩, -, -⟩ := hconsistent
    rw [hpoll]
    exact racing_official_wins hracing pending serves.1
      (serves.2 resolved context.metadata hresolved hmetadata) ready
  case recorded =>
    intro route hroute
    rcases known.recorded with hnil | ⟨plan, context, index, candidate, hawait, hone, hrestricted⟩
    · rw [hnil] at hroute
      cases hroute
    rw [hone] at hroute
    have hconsistent := known.await
    rw [hawait] at hconsistent
    exact ⟨plan, context, index, candidate, hawait, routeSafe_of_delivers single hconsistent,
      List.mem_singleton.mp hroute, hrestricted⟩
  case memory =>
    intro wake hselecting entry hentry
    rw [hpoll] at hentry ⊢
    have hpolled := poll_polled wake (s.isCurrent call) known.await (hwaiting hselecting)
    rcases hpolled.memory entry hentry with hold | ⟨route, hrecorded, hhost, harea⟩
    · exact .inl hold
    · refine .inr ⟨route, ?_, hhost, harea⟩
      rw [hrecorded]
      exact List.mem_append_right _ (List.mem_singleton.mpr rfl)
  case current =>
    intro before changed events t outcome later hreturned
    have hrevision := known.revision
    have hstale : s.Stale call :=
      stale_of_before before (changed.imp_right fun h => by omega)
    have hend := (later.invariant (PlanningState.Stale call) stale_step hstale).outer
    rw [hreturned] at hend
    exact hend

def restrictedEpisode : ResolvedContent :=
  .season
    { season := { areas := ["香港"], title := "Season", seasonId := some 5, mediaId := none }
      selectedEpisodes := [⟨1, 2, 7, "Episode", none⟩] }

def resolverHost : ResolverCandidate :=
  ⟨"resolver.example", "https://resolver.example/", "Resolver", [.hk]⟩

def restrictedCall : PgcCall where
  input := .episode 7
  revision := 3
  candidates := .ok [resolverHost]
  permit := .ok ()
  official := .error (.accessRestricted "area limit")
  metadata := .ok restrictedEpisode
  probeCandidates := fun _ _ => .ok [resolverHost]
  proxy := fun _ _ _ => .ok (.playback [⟨1, 2, some 7, .pgcProxy⟩])
  display := fun _ => "area limit"
  normalizeHost := some

def allReady : Wake where
  permitReady := true
  officialReady := true
  metadataReady := true
  probesReady := true
  proxyReady := fun _ => true

def resolverRoute : RegionRoute := ⟨"resolver.example", .hk⟩

def restrictedContext : RouteContext where
  metadata := { identity := ⟨1, 2, 7⟩, seriesKeys := ["season:5"], areaHint := some .hk }
  targetArea := .hk
  hasAreaAffinity := true

theorem restrictedCall_single (resolved : ResolvedContent)
    (h : restrictedCall.metadata = .ok resolved) :
    (pgcRouteMetadata restrictedCall.input resolved).isSome = true := by
  cases h
  decide +kernel

def restrictedOutcome : Outcome :=
  .ok (.playback [⟨1, 2, some 7, .pgcProxy⟩], .proxy restrictedContext 0 resolverHost)

def restrictedSelecting : PlanningState :=
  { restrictedCall.start [] with outer := .selecting }

def restrictedDelivered : PlanningState :=
  restrictedSelecting.poll restrictedCall allReady

theorem restrictedDelivered_run : Run (Step restrictedCall) (restrictedCall.start [])
    [.checkCancellation, .checkRevision, .poll allReady] restrictedDelivered := by
  have hfst : Step restrictedCall (restrictedCall.start []) .checkCancellation
      { restrictedCall.start [] with outer := .checkingRevision } := rfl
  have hsnd : Step restrictedCall { restrictedCall.start [] with outer := .checkingRevision }
      .checkRevision restrictedSelecting := rfl
  have hthird : Step restrictedCall restrictedSelecting (.poll allReady) restrictedDelivered :=
    rfl
  exact Run.cons hfst (Run.cons hsnd (Run.single hthird))

theorem restrictedDelivered_recorded :
    restrictedDelivered.operation.recorded = [resolverRoute] := by
  decide +kernel

/-- The delivered plan is returned when nothing has changed since. -/
theorem planWithResolverRouting_safe_restricted :
    restrictedCall.ChoosesSafely
      { restrictedDelivered with
        outer := .returned restrictedOutcome } ∧
      restrictedDelivered.operation.recorded = [resolverRoute] := by
  have hcancellation : Step restrictedCall restrictedDelivered .checkCancellation
      { restrictedDelivered with
        outer := .uncancelled restrictedOutcome } := by
    rfl
  have hrevision : Step restrictedCall
      { restrictedDelivered with outer := .uncancelled restrictedOutcome } .checkRevision
      { restrictedDelivered with outer := .returned restrictedOutcome } := rfl
  have hrun := Run.snoc (Run.snoc restrictedDelivered_run hcancellation) hrevision
  exact ⟨planWithResolverRouting_safe restrictedCall_single hrun, restrictedDelivered_recorded⟩

/-- A cancellation between the operation's return and the checks after it: the call returns
an error, and the route stays recorded. -/
theorem route_recorded_without_plan :
    ¬ ∀ (call : PgcCall) (memory : RouteMemory) (events : List PlanningEvent)
        (s : PlanningState) (outcome : Outcome),
      (∀ resolved, call.metadata = .ok resolved →
        (pgcRouteMetadata call.input resolved).isSome = true) →
      Run (Step call) (call.start memory) events s → s.outer = .returned outcome →
      ∀ route ∈ s.operation.recorded, ∃ plan context index candidate,
        outcome = .ok (plan, .proxy context index candidate) ∧
          route = ⟨candidate.hostId, context.targetArea⟩ := by
  intro h
  have hcancel : Step restrictedCall restrictedDelivered .cancel
      { restrictedDelivered with cancelled := true } := rfl
  have hcheck : Step restrictedCall { restrictedDelivered with cancelled := true }
      .checkCancellation
      { restrictedDelivered with cancelled := true, outer := .returned resolverCancelled } := by
    rfl
  have hrun := Run.snoc (Run.snoc restrictedDelivered_run hcancel) hcheck
  obtain ⟨plan, context, index, candidate, hplan, -⟩ :=
    h restrictedCall [] _ _ resolverCancelled restrictedCall_single hrun rfl resolverRoute (by
      simp only [restrictedDelivered_recorded, List.mem_singleton])
  cases hplan

end NetPlayer.Resolver
