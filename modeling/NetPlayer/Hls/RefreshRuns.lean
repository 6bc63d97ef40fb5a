import NetPlayer.Hls.RefreshCooldown
import NetPlayer.Hls.RegistryRuns
import NetPlayer.Hls.SavedCandidates

/-!
# Concurrent refreshes of one session

What the calls give back and what they leave in the registry and in
`session.json`, over every interleaving: a refresh merges its plan into the
session that is registered at that moment.
-/

namespace NetPlayer.Hls

open Faulty Transition HlsMediaRefreshCoordinator List Option Finmap

section

variable {session expected current replacement merged : HlsPlaybackSession}
  {refreshedResourceId : Option String}

theorem bindings_of_same (h : sameHlsMediaRefreshBinding session current = true) :
    session.bindings = current.bindings := by
  simp only [sameHlsMediaRefreshBinding, beq_iff_eq] at h
  rw [bindings_eq, bindings_eq]
  have hvar := congrArg HlsPlaybackSession.variant h
  have halts := congrArg HlsPlaybackSession.alternateVariants h
  simp only [withoutRequests] at hvar halts
  simp only [HlsPlaybackSession.resourceVariants, map_cons, hvar, halts]

theorem id_of_same (h : sameHlsMediaRefreshBinding session current = true) :
    session.id = current.id := by
  simp only [sameHlsMediaRefreshBinding, beq_iff_eq] at h
  have hid := congrArg HlsPlaybackSession.id h
  exact hid

theorem same_trans (hfst : sameHlsMediaRefreshBinding session current = true)
    (hsnd : sameHlsMediaRefreshBinding current merged = true) :
    sameHlsMediaRefreshBinding session merged = true := by
  simp only [sameHlsMediaRefreshBinding, beq_iff_eq] at hfst hsnd ⊢
  exact hfst.trans hsnd

variable {position : Nat}

theorem resources_updateResources {update : Nat → HlsMediaResource → HlsMediaResource}
    {variants : List HlsVariant} :
    (updateResources update position variants).flatMap HlsVariant.resources =
      (variants.flatMap HlsVariant.resources).mapIdx fun index => update (position + index) := by
  induction variants generalizing position with
  | nil => rfl
  | cons variant rest ih =>
    rw [updateResources, flatMap_cons, flatMap_cons, mapIdx_append, ih]
    congr 1
    · cases haudio : variant.audio <;> simp [HlsVariant.resources, haudio]
    · congr 1
      funext index
      rw [Nat.add_right_comm, Nat.add_assoc position]

theorem clear_updateResources {update : Nat → HlsMediaResource → HlsMediaResource}
    (hbind : ∀ position resource, (update position resource).binding = resource.binding)
    {variants : List HlsVariant} :
    (updateResources update position variants).map clearRequestUrlsAndHeaders =
      variants.map clearRequestUrlsAndHeaders := by
  induction variants generalizing position with
  | nil => rfl
  | cons variant rest ih =>
    rw [updateResources, map_cons, map_cons, ih]
    congr 1
    obtain ⟨_, _, _, _, _, _, video, audio⟩ := variant
    have hvideo := hbind position video
    cases audio with
    | none =>
      simp only [HlsMediaResource.binding] at hvideo
      simp only [clearRequestUrlsAndHeaders, HlsVariant.mapResources, hvideo, map_none]
    | some audio =>
      have haudio := hbind (position + 1) audio
      simp only [HlsMediaResource.binding] at hvideo haudio
      simp only [clearRequestUrlsAndHeaders, HlsVariant.mapResources, hvideo, haudio,
        map_some]

theorem preserveAt_binding
    {expectedRequests currentRequests : List (String × BilibiliMediaRequest)}
    {resource : HlsMediaResource} :
    (preserveAt expectedRequests currentRequests refreshedResourceId position resource).binding =
      resource.binding := by
  unfold preserveAt
  split
  · split <;> rfl
  · rfl

theorem preserveConcurrent_resourceVariants :
    (preserveConcurrentMediaRequestUpdates expected current replacement
      refreshedResourceId).resourceVariants =
      updateResources (preserveAt (sessionResourceRequests expected)
        (sessionResourceRequests current) refreshedResourceId) 0 replacement.resourceVariants :=
  rfl

theorem preserveConcurrent_same : sameHlsMediaRefreshBinding replacement
    (preserveConcurrentMediaRequestUpdates expected current replacement refreshedResourceId) =
      true := by
  have hclr : (updateResources (preserveAt (sessionResourceRequests expected)
      (sessionResourceRequests current) refreshedResourceId) 0
        replacement.resourceVariants).map clearRequestUrlsAndHeaders =
      replacement.resourceVariants.map clearRequestUrlsAndHeaders :=
    clear_updateResources fun _ _ => preserveAt_binding
  rw [← preserveConcurrent_resourceVariants] at hclr
  obtain ⟨hvar, halts⟩ := cons_eq_cons.mp hclr
  simp only [sameHlsMediaRefreshBinding, beq_iff_eq]
  unfold withoutRequests
  rw [hvar, halts]
  rfl

/-- A request that changed since the caller's copy is the current one after the merge, unless
it is of the resource that the caller refreshes. -/
theorem preserveConcurrent_keeps (hs : sameHlsMediaRefreshBinding expected current = true)
    (hreplt : sameHlsMediaRefreshBinding current replacement = true)
    {old new : String × BilibiliMediaRequest}
    (hold : (sessionResourceRequests expected)[position]? = some old)
    (hn : (sessionResourceRequests current)[position]? = some new)
    (ho : refreshedResourceId ≠ some new.1)
    (hdiffer : requestUrlsOrHeadersDiffer old.2 new.2 = true) :
    (sessionResourceRequests (preserveConcurrentMediaRequestUpdates expected current replacement
      refreshedResourceId))[position]? = some new := by
  simp only [sessionResourceRequests, List.getElem?_map, map_eq_some_iff] at hold hn
  obtain ⟨oldResource, holdAt, rfl⟩ := hold
  obtain ⟨newResource, hnewAt, rfl⟩ := hn
  have hids : oldResource.binding = newResource.binding := by
    have hbinds := congrArg (·[position]?) (bindings_of_same hs)
    simp only [HlsPlaybackSession.bindings, HlsPlaybackSession.resources, List.getElem?_map,
      holdAt, hnewAt, map_some, some.injEq] at hbinds
    exact hbinds
  obtain ⟨planned, hplannedAt, hp⟩ : ∃ planned,
      (replacement.resourceVariants.flatMap HlsVariant.resources)[position]? = some planned ∧
        planned.binding = newResource.binding := by
    have hbinds := congrArg (·[position]?) (bindings_of_same hreplt)
    simp only [HlsPlaybackSession.bindings, HlsPlaybackSession.resources, List.getElem?_map,
      hnewAt, map_some] at hbinds
    exact map_eq_some_iff.mp hbinds.symm
  have hold : (sessionResourceRequests expected)[position]? =
      some (oldResource.id, oldResource.request) := by
    rw [sessionResourceRequests, List.getElem?_map, holdAt]
    rfl
  have hn : (sessionResourceRequests current)[position]? =
      some (newResource.id, newResource.request) := by
    rw [sessionResourceRequests, List.getElem?_map, hnewAt]
    rfl
  have hk : preserveAt (sessionResourceRequests expected) (sessionResourceRequests current)
      refreshedResourceId position planned = newResource := by
    have holdId : oldResource.id = newResource.id := (HlsMediaResource.mk.inj hids).1
    have hplannedId : planned.id = newResource.id := (HlsMediaResource.mk.inj hp).1
    simp only [preserveAt, hold, hn]
    rw [if_pos]
    · exact preserveResource_eq hp rfl
    · simp [holdId, hplannedId, ho, hdiffer]
  rw [sessionResourceRequests, List.getElem?_map, preserveConcurrent_resourceVariants,
    resources_updateResources, List.getElem?_mapIdx, hplannedAt]
  simp only [Nat.zero_add, map_some, hk]

end

section

variable {sessionId : String} {caller : RefreshCaller sessionId}
  {callers : Nat → RefreshCaller sessionId} {s t : RefreshSystem}

theorem currentRefreshSession_ok {failed : HlsPlaybackSession} {identity : BilibiliContentIdentity}
    {refreshable : Bool} {handle : Option HlsPlaybackSessionHandle}
    {current : HlsPlaybackSessionHandle}
    (h : currentRefreshSession failed identity refreshable handle = .ok current) :
    handle = some current ∧ sameHlsMediaRefreshBinding failed current.session = true := by
  unfold currentRefreshSession at h
  cases handle with
  | none => cases h
  | some found =>
    cases refreshable with
    | false => cases h
    | true =>
      simp only [Bool.not_true, Bool.false_eq_true, if_false] at h
      cases hident : found.session.acceptedIdentity with
      | none => simp [hident] at h
      | some currentIdentity =>
        simp only [hident] at h
        split at h
        · cases h
        split at h
        · cases h
        next hm =>
          cases h
          push Not at hm
          exact ⟨rfl, by simpa using hm.2⟩

theorem check_cases {refreshable : Bool} {handle : Option HlsPlaybackSessionHandle} :
    (∃ error, caller.check refreshable handle = .fails error) ∨
    ∃ current, handle = some current ∧
      sameHlsMediaRefreshBinding caller.failed current.session = true ∧
      (caller.check refreshable handle = .refreshed current.session ∨
        caller.check refreshable handle = .stale current ∧
          failedMediaRequestWasRefreshed caller.failed current.session caller.failedResource =
            false) := by
  cases hident : caller.identity with
  | none => exact .inl ⟨.unavailable, by simp [RefreshCaller.check, hident]⟩
  | some identity =>
    cases hcurr : currentRefreshSession caller.failed identity refreshable handle with
    | error error => exact .inl ⟨error, by simp [RefreshCaller.check, hident, hcurr]⟩
    | ok current =>
      obtain ⟨hhandle, hs⟩ := currentRefreshSession_ok hcurr
      right
      refine ⟨current, hhandle, hs, ?_⟩
      simp only [RefreshCaller.check, hident, hcurr]
      cases failedMediaRequestWasRefreshed caller.failed current.session caller.failedResource with
      | true => exact .inl rfl
      | false => exact .inr ⟨rfl, rfl⟩

def RefreshPhase.Bound (caller : RefreshCaller sessionId) : RefreshPhase → Prop
  | .merging _ _ handle _ =>
    sameHlsMediaRefreshBinding caller.failed handle.session = true ∧
      failedMediaRequestWasRefreshed caller.failed handle.session caller.failedResource = false
  | .ended (.ok session) => sameHlsMediaRefreshBinding caller.failed session = true
  | _ => True

theorem replacement_same {current replacement : HlsPlaybackSession} {plan : BilibiliPlaybackPlan}
    (h : caller.replacement current plan = some replacement) :
    sameHlsMediaRefreshBinding current replacement = true ∧
    ∃ planned, sameHlsMediaRefreshBinding current planned = true ∧
      replacement = preserveConcurrentMediaRequestUpdates caller.failed current planned
        caller.resourceId := by
  unfold RefreshCaller.replacement at h
  split at h
  · cases h
  next planned hp =>
    split at h
    · next hs =>
        cases h
        exact ⟨same_trans hs preserveConcurrent_same, planned, hs, rfl⟩
    · cases h

variable {c : HlsMediaRefreshCoordinator} {call : Nat} {phase : RefreshPhase}

theorem bound_update (h : ∀ other, (c.calls other).Bound (callers other))
    (hp : phase.Bound (callers call)) (other : Nat) :
    (if other = call then phase else c.calls other).Bound (callers other) := by
  split
  · next hc => exact hc ▸ hp
  · exact h other

theorem bound_leave (h : ∀ other, (c.calls other).Bound (callers other))
    (hp : phase.Bound (callers call)) (other : Nat) :
    ((c.leave call phase).calls other).Bound (callers other) := by
  rw [leave_calls]
  exact bound_update h hp other

theorem bound_compare {refreshable : Bool}
    {next : HlsPlaybackSessionHandle → RefreshPhase}
    (h : ∀ other, (s.coordinator.calls other).Bound (callers other))
    (hn : ∀ handle, sameHlsMediaRefreshBinding (callers call).failed handle.session = true →
      failedMediaRequestWasRefreshed (callers call).failed handle.session
        (callers call).failedResource = false → (next handle).Bound (callers call)) (other : Nat) :
    ((s.compare call (callers call) refreshable next).coordinator.calls other).Bound
      (callers other) := by
  show ((s.coordinator.afterCheck call _ next).calls other).Bound (callers other)
  rcases @check_cases sessionId (callers call) refreshable
      (scrubAndRead s.registry sessionId s.coordinator.now).2 with
    ⟨error, hfails⟩ | ⟨handle, -, hs, hrefd | ⟨hstale, hk⟩⟩
  · rw [hfails]
    exact bound_leave h (by exact trivial) other
  · rw [hrefd]
    exact bound_leave h (by exact hs) other
  · rw [hstale]
    exact bound_update h (by exact hn handle hs hk) other

theorem bound_step {action : RefreshAction} (hst : RefreshStep callers s action t)
    (h : ∀ call, (s.coordinator.calls call).Bound (callers call)) (other : Nat) :
    (t.coordinator.calls other).Bound (callers other) := by
  cases hst with
  | firstCheck | secondCheck => exact bound_compare h (by exact fun _ _ _ => trivial) other
  | takeEntry | makeEntry | lock | beginAttempt => exact bound_update h (by exact trivial) other
  | coolingDown | mismatch | unavailable | drop => exact bound_leave h (by exact trivial) other
  | thirdCheck => exact bound_compare h (by exact fun _ hs hk => ⟨hs, hk⟩) other
  | @replace call _ _ _ _ _ _ _ hp hacc =>
    have hbd := h call
    rw [hp] at hbd
    unfold RefreshSystem.replace
    split
    · exact bound_leave h (by exact same_trans hbd.1 (replacement_same hacc).1) other
    · exact bound_leave h (by exact trivial) other
    · exact bound_leave h (by exact trivial) other
  | @interrupted call error =>
    have hended : (RefreshPhase.ended (.error error)).Bound (callers call) := trivial
    unfold interrupt
    split
    · next id started _ =>
        exact @bound_leave _ _ (s.coordinator.clearAttempt call id _ started) call _ h hended other
    · exact bound_leave h hended other
  | registry | files | tick | removeEntry | evictEntry => exact h other

structure Replaces (caller : RefreshCaller sessionId) (call : Nat) (s t : RefreshSystem)
    (before after : HlsPlaybackSession) : Prop where
  ended : t.coordinator.calls call = .ended (.ok after)
  current : s.registry.sessions.lookup sessionId = some before
  registered : t.registry.sessions.lookup sessionId = some after
  stored : t.files.session = some (PersistedHlsSession.ofSession after)
  same : sameHlsMediaRefreshBinding before after = true
  stillFailed : ∀ failed ∈ caller.failedResource, ∀ resource,
    before.mediaResource failed.id = some resource →
      requestUrlsOrHeadersDiffer failed.request resource.request = false
  kept : ∀ (position : Nat) (old new : String × BilibiliMediaRequest),
    (sessionResourceRequests caller.failed)[position]? = some old →
    (sessionResourceRequests before)[position]? = some new → caller.resourceId ≠ some new.1 →
      requestUrlsOrHeadersDiffer old.2 new.2 = true →
        (sessionResourceRequests after)[position]? = some new

/-- Neither the registry nor `session.json` changes, but for a scrub that is due. -/
def LeavesAlone (sessionId : String) (s t : RefreshSystem) : Prop :=
  t.files = s.files ∧ (t.registry = s.registry ∨
    t.registry = (scrubAndRead s.registry sessionId s.coordinator.now).1)

theorem notRefreshed_stillFailed {before : HlsPlaybackSession} {failed resource : HlsMediaResource}
    (h : failedMediaRequestWasRefreshed caller.failed before caller.failedResource = false)
    (hfailed : failed ∈ caller.failedResource)
    (hrsc : before.mediaResource failed.id = some resource) :
    requestUrlsOrHeadersDiffer failed.request resource.request = false := by
  rw [Option.mem_def] at hfailed
  rw [hfailed] at h
  simpa [failedMediaRequestWasRefreshed, mediaResourceRequestChanged, hrsc] using h

theorem replace_step {handle : HlsPlaybackSessionHandle}
    {replacement : HlsPlaybackSession} {plan : BilibiliPlaybackPlan} {verdicts : List Verdict}
    {saved : Except SessionError Unit × SessionFiles}
    (hs : sameHlsMediaRefreshBinding caller.failed handle.session = true)
    (hk : failedMediaRequestWasRefreshed caller.failed handle.session caller.failedResource =
      false)
    (hacc : caller.replacement handle.session plan = some replacement)
    (hpers : (saveRefreshedSession handle.session replacement s.files verdicts).1 =
      match saved.1 with
      | .ok () => .returned ()
      | .error error => .raised error)
    (hwrit : (saveRefreshedSession handle.session replacement s.files verdicts).2.1 = saved.2) :
    Replaces caller call s (s.replace call handle replacement saved) handle.session replacement ∨
      LeavesAlone sessionId s (s.replace call handle replacement saved) := by
  have hsaved := @ends_saveRefreshedSession s.files handle.session replacement verdicts
  rw [hpers, hwrit] at hsaved
  obtain ⟨hreplt, planned, hp, hmerged⟩ := replacement_same hacc
  have hid : handle.session.id = sessionId := (id_of_same hs).symm.trans caller.same
  rcases replaceMediaRequestsIfCurrent_cases s.registry handle replacement saved.1 with
    ⟨hregistry, hres⟩ | ⟨-, hcurr, hok, hrepl⟩
  · right
    unfold RefreshSystem.replace
    split
    · next registry heq =>
        rw [heq] at hres
        exact absurd rfl hres
    · next registry heq =>
        rw [heq] at hregistry
        exact ⟨rfl, .inl hregistry⟩
    · next registry error heq =>
        rw [heq] at hregistry
        refine ⟨?_, .inl hregistry⟩
        cases hfst : saved.1 with
        | ok done =>
          rw [hfst] at heq
          unfold replaceMediaRequestsIfCurrent at heq
          split at heq <;> cases heq
        | error error =>
          rw [hfst] at hsaved
          exact hsaved
  · left
    rw [hok] at hsaved
    have hfiles : saved.2 = s.files.install replacement := hsaved.2
    have hreplace : s.replace call handle replacement saved =
        ⟨{ s.registry with sessions := s.registry.sessions.insert sessionId replacement },
          s.files.install replacement, s.coordinator.finish call (.ok replacement)⟩ := by
      unfold RefreshSystem.replace
      rw [hrepl, hfiles, hid]
    rw [hreplace]
    constructor
    · show (s.coordinator.leave call _).calls call = _
      rw [leave_calls, if_pos rfl]
    · exact hid ▸ hcurr.1
    · exact lookup_insert _
    · rfl
    · exact hreplt
    · intro failed hfailed resource hrsc
      exact notRefreshed_stillFailed hk hfailed hrsc
    · intro position old new hold hn ho hdiffer
      rw [hmerged]
      exact preserveConcurrent_keeps hs hp hold hn ho hdiffer

theorem call_step (hst : RefreshStep callers s (.call call) t)
    (h : ∀ call, (s.coordinator.calls call).Bound (callers call)) :
    (∃ before after, Replaces (callers call) call s t before after) ∨
      LeavesAlone sessionId s t := by
  cases hst with
  | replace hp hacc hpers hwrit =>
    have hbd := h call
    rw [hp] at hbd
    exact (replace_step hbd.1 hbd.2 hacc hpers hwrit).imp_left
      fun hrepls => ⟨_, _, hrepls⟩
  | firstCheck | secondCheck | thirdCheck => exact .inr ⟨rfl, .inr rfl⟩
  | takeEntry | makeEntry | lock | beginAttempt | coolingDown | drop | mismatch | unavailable
  | interrupted => exact .inr ⟨rfl, .inl rfl⟩

variable {other : Nat} {result : Except HlsMediaRefreshError HlsPlaybackSession}
  (hactive : ∀ result, c.calls call ≠ .ended result)

include hactive in
theorem ended_update (h : c.calls other = .ended result) :
    (if other = call then phase else c.calls other) = .ended result := by
  rw [if_neg]
  · exact h
  · rintro rfl
    exact hactive result h

include hactive in
theorem ended_leave (h : c.calls other = .ended result) :
    (c.leave call phase).calls other = .ended result := by
  rw [leave_calls]
  exact ended_update hactive h

include hactive in
theorem ended_afterCheck {check : RefreshCheck} {next : HlsPlaybackSessionHandle → RefreshPhase}
    (h : c.calls other = .ended result) :
    (c.afterCheck call check next).calls other = .ended result := by
  cases check with
  | fails error | refreshed session => exact ended_leave hactive h
  | stale handle => exact ended_update hactive h

theorem awaits_active (h : phase.awaits = true)
    (result : Except HlsMediaRefreshError HlsPlaybackSession) : phase ≠ .ended result := by
  rintro rfl
  cases h

theorem ended_step {action : RefreshAction} (hst : RefreshStep callers s action t)
    (h : s.coordinator.calls call = .ended result) : t.coordinator.calls call = .ended result := by
  cases hst with
  | firstCheck hp | secondCheck hp => exact ended_afterCheck (fun _ => by simp [hp]) h
  | takeEntry hp | makeEntry hp => exact ended_update (fun _ => by simp [hp]) h
  | lock hp | beginAttempt hp => exact ended_update (fun _ => by simp [hp]) h
  | coolingDown hp | mismatch hp => exact ended_leave (fun _ => by simp [hp]) h
  | thirdCheck hp => exact ended_afterCheck (fun _ => by simp [hp]) h
  | replace hp =>
    unfold RefreshSystem.replace
    split <;> exact ended_leave (fun _ => by simp [hp]) h
  | unavailable hawaits | drop hawaits => exact ended_leave (awaits_active hawaits) h
  | @interrupted acting error hawaits =>
    unfold interrupt
    split
    · next id started _ =>
        exact @ended_leave (s.coordinator.clearAttempt acting id _ started) acting _ _ _
          (awaits_active hawaits) h
    · exact ended_leave (awaits_active hawaits) h
  | registry | files | tick | removeEntry | evictEntry => exact h

/-- Over every interleaving: a call that succeeds returns a session with the bindings of its
caller's copy, a step of a call replaces the session in the registry and in `session.json` or
leaves both alone, no step of a call that does not succeed replaces it, and the plans of a
key keep their distance. -/
theorem media_refresh_runs {registry : HlsPlaybackRegistryInner} {files : SessionFiles}
    {now : Instant} {actions : List RefreshAction}
    (hrun : Run (RefreshStep callers) (.start registry files now) actions s) :
    (∀ call session, s.coordinator.calls call = .ended (.ok session) →
      sameHlsMediaRefreshBinding (callers call).failed session = true) ∧
    (∀ call t, RefreshStep callers s (.call call) t →
      (∃ before after, Replaces (callers call) call s t before after) ∨
        LeavesAlone sessionId s t) ∧
    (∀ call t later u, RefreshStep callers s (.call call) t → Run (RefreshStep callers) t later u →
      (∀ session, u.coordinator.calls call ≠ .ended (.ok session)) →
        LeavesAlone sessionId s t) ∧ s.coordinator.plans.Pairwise PlanStart.Spaced := by
  have hbound : ∀ call, (s.coordinator.calls call).Bound (callers call) :=
    hrun.invariant (fun s => ∀ call, (s.coordinator.calls call).Bound (callers call))
      (fun hstep h => bound_step hstep h) fun _ => trivial
  refine ⟨?_, fun call t hstep => call_step hstep hbound, ?_,
    (cooldownValid_run hrun).attempts.spaced⟩
  · intro call session hended
    have hsame := hbound call
    rw [hended] at hsame
    exact hsame
  · intro call t later u hstep hlater hfails
    rcases call_step hstep hbound with ⟨before, after, hreplaces⟩ | halone
    · have hended : u.coordinator.calls call = .ended (.ok after) :=
        hlater.invariant (fun u => u.coordinator.calls call = .ended (.ok after))
          (fun hstep h => ended_step hstep h) hreplaces.ended
      exact absurd hended (hfails after)
    · exact halone

end

def refreshable : HlsPlaybackSession := sampleSession "session" "https://cdn/a"

def refresher : RefreshCaller "session" := ⟨refreshable, none, rfl⟩

theorem refresher_compare {inner : HlsPlaybackRegistryInner} {files : SessionFiles}
    {c : HlsMediaRefreshCoordinator} {generation call : Nat}
    {next : HlsPlaybackSessionHandle → RefreshPhase} :
    RefreshSystem.compare ⟨registered inner refreshable none generation, files, c⟩ call refresher
        true next =
      ⟨registered inner refreshable none generation, files,
        c.setCall call (next ⟨refreshable, generation⟩)⟩ := by
  have hp : (registered inner refreshable none generation).pendingScrubs.lookup "session" =
      none := lookup_erase "session" inner.pendingScrubs
  have hs : (registered inner refreshable none generation).sessions.lookup "session" =
      some refreshable := lookup_insert inner.sessions
  have hgen : (registered inner refreshable none generation).generations.lookup "session" =
      some generation := lookup_insert inner.generations
  have hr : scrubAndRead (registered inner refreshable none generation) "session" c.now =
      (registered inner refreshable none generation, some ⟨refreshable, generation⟩) := by
    simp [scrubAndRead, scrubExpiredSession, hp, sessionHandle, hs, hgen]
  have hcheck : refresher.check true (some ⟨refreshable, generation⟩) =
      .stale ⟨refreshable, generation⟩ := rfl
  simp only [RefreshSystem.compare, hr, hcheck]
  rfl

def registeredOnce : HlsPlaybackRegistryInner :=
  registered .default refreshable none 1

def registeredTwice : HlsPlaybackRegistryInner :=
  registered (removeWithGenerationUpdate registeredOnce "session").1 refreshable none 2

def afterRemoval : HlsMediaRefreshCoordinator :=
  (((HlsMediaRefreshCoordinator.start 0).setCall 0 .checked).makeEntry 0).removeEntry

def oldPlan : HlsMediaRefreshCoordinator :=
  ((afterRemoval.lock 0 0).setCall 0 (.stale 0)).begin 0 0 none ⟨some 0, [(none, 0)]⟩

def newPlan : HlsMediaRefreshCoordinator :=
  ((((oldPlan.setCall 1 .checked).makeEntry 1).lock 1 1).setCall 1 (.stale 1)).begin 1 1 none
    ⟨some 1, [(none, 0)]⟩

theorem removal_run : Run (RefreshStep fun _ => refresher) (.start registeredOnce noFiles 0)
    [.call 0, .call 0, .environment, .environment, .environment]
    ⟨registeredTwice, noFiles, afterRemoval⟩ := by
  have hfst := @RefreshStep.firstCheck "session" (fun _ => refresher)
    (.start registeredOnce noFiles 0) 0 true rfl
  rw [RefreshSystem.start, registeredOnce, refresher_compare] at hfst
  have hrem := @RefreshStep.registry "session" (fun _ => refresher)
    ⟨registeredOnce, noFiles, ((HlsMediaRefreshCoordinator.start 0).setCall 0 .checked).makeEntry 0⟩
    (.remove "session") _ .remove (by simp)
  have hissued : insertWithGenerationUpdate (removeWithGenerationUpdate registeredOnce "session").1
      refreshable = some (registeredTwice, 2) := rfl
  have hreg := @RefreshStep.registry "session" (fun _ => refresher)
    ⟨(removeWithGenerationUpdate registeredOnce "session").1, noFiles, afterRemoval⟩
    (.register refreshable none 2) _ (.register hissued) (by simp)
  exact Run.cons hfst (Run.cons (.makeEntry rfl rfl) (Run.cons hrem
    (Run.cons .removeEntry (Run.single hreg))))

abbrev RegisteredStep (callers : Nat → RefreshCaller "session") :
    RefreshSystem → RefreshAction → RefreshSystem → Prop :=
  Guarded (RefreshStep callers) fun s _ => (s.registry.sessions.lookup "session").isSome = true

theorem registeredTwice_session (files : SessionFiles) (c : HlsMediaRefreshCoordinator) :
    ((RefreshSystem.mk registeredTwice files c).registry.sessions.lookup "session").isSome =
      true := by
  rw [registeredTwice, registered]
  exact congrArg Option.isSome (lookup_insert _)

theorem two_plans_run : Run (RegisteredStep fun _ => refresher)
    ⟨registeredTwice, noFiles, afterRemoval⟩
    [.call 0, .call 0, .call 0, .call 1, .call 1, .call 1, .call 1, .call 1]
    ⟨registeredTwice, noFiles, newPlan⟩ := by
  have hsnd := @RefreshStep.secondCheck "session" (fun _ => refresher)
    ⟨registeredTwice, noFiles, afterRemoval.lock 0 0⟩ 0 0 true rfl
  rw [registeredTwice, refresher_compare] at hsnd
  have hfst := @RefreshStep.firstCheck "session" (fun _ => refresher)
    ⟨registeredTwice, noFiles, oldPlan⟩ 1 true rfl
  rw [registeredTwice, refresher_compare] at hfst
  have hl := @RefreshStep.secondCheck "session" (fun _ => refresher)
    ⟨registeredTwice, noFiles, ((oldPlan.setCall 1 .checked).makeEntry 1).lock 1 1⟩ 1 1 true rfl
  rw [registeredTwice, refresher_compare] at hl
  have hreg := registeredTwice_session noFiles
  exact Run.cons ⟨.lock rfl rfl, hreg _⟩ (Run.cons ⟨hsnd, hreg _⟩
    (Run.cons ⟨.beginAttempt rfl rfl, hreg _⟩ (Run.cons ⟨hfst, hreg _⟩
      (Run.cons ⟨.makeEntry rfl rfl, hreg _⟩ (Run.cons ⟨.lock rfl rfl, hreg _⟩
        (Run.cons ⟨hl, hreg _⟩
          (Run.single ⟨.beginAttempt rfl rfl, hreg _⟩)))))))

/-- Both plans are there, in different times between removals. -/
theorem media_refresh_runs_two_plans :
    newPlan.plans.Pairwise PlanStart.Spaced ∧ newPlan.plans.length = 2 :=
  ⟨(media_refresh_runs (removal_run.append two_plans_run.of_guarded)).2.2.2, rfl⟩

def scrubDue : HlsPlaybackRegistryInner :=
  registered .default refreshable (some (refreshable, 0)) 1

/-- While the session stays registered, two plans of one key start within a cooldown; and a call
that fails at its first check has applied the scrub that was due. -/
theorem media_refresh_cooldown_broken :
    (¬ ∀ (callers : Nat → RefreshCaller "session") (registry : HlsPlaybackRegistryInner)
      (files : SessionFiles) (now : Instant) (past actions : List RefreshAction)
      (s t : RefreshSystem), Run (RefreshStep callers) (.start registry files now) past s →
      Run (RegisteredStep callers) s actions t →
        (t.coordinator.plans.drop s.coordinator.plans.length).Pairwise fun first later =>
          first.key = later.key → first.interrupted = false → first.CooledBy later.started) ∧
    ¬ ∀ (callers : Nat → RefreshCaller "session") (s t : RefreshSystem) (call : Nat)
      (error : HlsMediaRefreshError), RefreshStep callers s (.call call) t →
        t.coordinator.calls call = .ended (.error error) → t.registry = s.registry := by
  constructor
  · intro h
    have hspaced := h _ _ _ _ _ _ _ _ removal_run two_plans_run
    have hplans : newPlan.plans.drop afterRemoval.plans.length =
        [⟨0, 0, 0, none, 0, false⟩, ⟨1, 1, 1, none, 0, false⟩] := rfl
    rw [hplans, pairwise_pair] at hspaced
    have hcooled := hspaced rfl rfl
    exact absurd hcooled (by unfold PlanStart.CooledBy; decide)
  · intro h
    have hstep := @RefreshStep.firstCheck "session" (fun _ => refresher)
      (.start scrubDue noFiles 0) 0 false rfl
    have hkept := congrArg (fun inner => inner.pendingScrubs.lookup "session")
      (h _ _ _ _ _ hstep rfl)
    revert hkept
    decide +kernel

end NetPlayer.Hls
