import NetPlayer.Client.LoginPoller
import NetPlayer.Library.Transition

/-!
# Runs of the login

In every run at most one poller is not cancelled. What a poller writes belongs to the session it
polled, as long as no operation begins or ends while a poll is in flight, a login start finds no
poller with a session to poll, and a cancelled poller leaves its loop with no session pending.
-/

namespace NetPlayer.Client

open Transition Function Bool

namespace LoginModel

variable {Endpoint : Type} {env : Platform Endpoint} {m : LoginModel}

structure SameFence (m n : LoginModel) : Prop where
  sequence : n.operationSequence = m.operationSequence
  generation : n.pollingGeneration = m.pollingGeneration
  task : n.pollingTask = m.pollingTask
  starting : n.isStartingLogin = m.isStartingLogin

theorem applyCredentials_frame (credentials : BilibiliCredentialStatus)
    (usingReadiness : Bool) :
    SameFence m (m.applyCredentials env credentials usingReadiness) ∧
      (m.applyCredentials env credentials usingReadiness).activeSession = m.activeSession ∧
      (m.applyCredentials env credentials usingReadiness).serverAddressText =
        m.serverAddressText ∧
      (m.applyCredentials env credentials usingReadiness).status ≠ .sessionPending := by
  unfold applyCredentials setLoginRequired
  dsimp only
  repeat' split
  all_goals exact ⟨⟨rfl, rfl, rfl, rfl⟩, rfl, rfl, nofun⟩

theorem applySession_frame (session : BilibiliLoginSession) :
    SameFence m (m.applySession env session) ∧
      (m.applySession env session).activeSession = m.activeSession ∧
      (m.applySession env session).serverAddressText = m.serverAddressText := by
  unfold applySession
  repeat' split
  all_goals exact ⟨⟨rfl, rfl, rfl, rfl⟩, rfl, rfl⟩

end LoginModel

namespace LoginSystem

variable {Endpoint : Type} {env : Platform Endpoint}
  {s t : LoginSystem Endpoint} {generation sequence : Nat} {poller other : Poller Endpoint}

/-- A poller that is not cancelled is the one of `pollingTask`. -/
structure Coherent (s : LoginSystem Endpoint) : Prop where
  current : ∀ generation poller, s.pollers generation = some poller →
    poller.cancelled = false → s.model.pollingTask = some generation ∧
      generation = s.model.pollingGeneration

def Undisturbed (s : LoginSystem Endpoint) (poller : Poller Endpoint) : Prop :=
  poller.sequence = s.model.operationSequence ∧ poller.starting = s.model.isStartingLogin

/-- A poller goes on with its own refresh, with the session it has taken up, or, at the top of
its loop, with none. -/
def Engaged (env : Platform Endpoint) (s : LoginSystem Endpoint) (poller : Poller Endpoint) :
    Prop :=
  poller.phase = .refreshing ∨
    (s.Undisturbed poller ∧ s.model.activeSession.map (·.id) = some poller.session.id) ∨
    (poller.phase.isPolling = false ∧ s.model.status ≠ .sessionPending ∧
      (s.model.activeSession = none ∨ env.normalized s.model.serverAddressText = none))

def Held (env : Platform Endpoint) (s : LoginSystem Endpoint) : Prop :=
  ∀ generation poller, s.pollers generation = some poller → poller.cancelled = false →
    s.Engaged env poller

def NoPollInFlight (s : LoginSystem Endpoint) : Prop :=
  ∀ generation poller, s.pollers generation = some poller → poller.cancelled = false →
    poller.phase.isPolling = false

/-- At most a poller is left that waits for the refresh after its login. -/
def NoPoller (s : LoginSystem Endpoint) : Prop :=
  ∀ generation poller, s.pollers generation = some poller → poller.cancelled = false →
    poller.phase = .refreshing

/-- No poller finds a session at the top of its loop. -/
def Vacant (s : LoginSystem Endpoint) : Prop :=
  s.NoPoller ∨ s.NoPollInFlight ∧ s.model.activeSession = none

theorem NoPollInFlight.held (h : s.NoPollInFlight) (hst : s.model.status ≠ .sessionPending)
    (hidle : s.model.activeSession = none ∨ env.normalized s.model.serverAddressText = none) :
    s.Held env :=
  fun generation poller hpoller hcurr =>
    .inr (.inr ⟨h generation poller hpoller hcurr, hst, hidle⟩)

theorem NoPoller.held (h : s.NoPoller) : s.Held env :=
  fun generation poller hpoller hcurr => .inl (h generation poller hpoller hcurr)

theorem Held.polling {endpoint : Endpoint} (h : s.Held env)
    (hpoller : s.pollers generation = some poller) (hcurr : poller.cancelled = false)
    (hphase : poller.phase = .polling endpoint) :
    s.Undisturbed poller ∧ s.model.activeSession.map (·.id) = some poller.session.id := by
  rcases h generation poller hpoller hcurr with hrefr | hh | ⟨htop, -⟩
  · rw [hphase] at hrefr
    cases hrefr
  · exact hh
  · rw [hphase] at htop
    cases htop

theorem NoPoller.noPollInFlight (h : s.NoPoller) : s.NoPollInFlight := by
  intro generation poller hpoller hcurr
  rw [h generation poller hpoller hcurr]
  rfl

theorem Vacant.held (h : s.Vacant) (hst : s.model.status ≠ .sessionPending) :
    s.Held env := by
  rcases h with hn | ⟨hidle, hsess⟩
  · exact hn.held
  · exact hidle.held hst (.inl hsess)

theorem noPoller_of_cancelled
    (h : ∀ generation poller, s.pollers generation = some poller → poller.cancelled = true) :
    s.NoPoller := by
  intro generation poller hpoller hcurr
  rw [h generation poller hpoller] at hcurr
  cases hcurr

theorem initial_coherent : Coherent (initial : LoginSystem Endpoint) where
  current _ _ hpoller := by cases hpoller

theorem initial_noPoller : NoPoller (initial : LoginSystem Endpoint) := by
  intro _ _ hpoller
  cases hpoller

theorem setPoller_pollers {value : Option (Poller Endpoint)} {key : Nat} :
    (s.setPoller generation value).pollers key =
      if key = generation then value else s.pollers key := by
  exact update_apply _ _ _ _

theorem Coherent.keeps {m : LoginModel} (h : s.Coherent)
    (hgen : m.pollingGeneration = s.model.pollingGeneration)
    (ht : m.pollingTask = s.model.pollingTask) : Coherent { s with model := m } where
  current key p hp hc := by
    obtain ⟨hcurr, hkey⟩ := h.current key p hp hc
    exact ⟨ht.trans hcurr, hkey.trans hgen.symm⟩

theorem Coherent.sameFence {m : LoginModel} (h : s.Coherent)
    (hsame : LoginModel.SameFence s.model m) : Coherent { s with model := m } :=
  h.keeps hsame.generation hsame.task

theorem Held.sameFence {m : LoginModel} (h : s.Held env)
    (hsame : LoginModel.SameFence s.model m)
    (hsess : m.activeSession = s.model.activeSession)
    (haddress : env.normalized m.serverAddressText = env.normalized s.model.serverAddressText)
    (hst : m.status = .sessionPending → s.model.status = .sessionPending) :
    Held env { s with model := m } := by
  intro key p hp hc
  rcases h key p hp hc with hrefr | ⟨hundist, hh⟩ | ⟨htop, hidle, hn⟩
  · exact .inl hrefr
  · exact .inr (.inl ⟨⟨hundist.1.trans hsame.sequence.symm, hundist.2.trans hsame.starting.symm⟩,
      (congrArg _ hsess).trans hh⟩)
  · refine .inr (.inr ⟨htop, fun hpending => hidle (hst hpending), ?_⟩)
    exact hn.imp hsess.trans haddress.trans

theorem mem_stopPolling {key : Nat} {p : Poller Endpoint}
    (hp : s.stopPolling.pollers key = some p) :
    ∃ q, s.pollers key = some q ∧
      (s.model.pollingTask = some key → p.cancelled = true) ∧
      (s.model.pollingTask ≠ some key → p = q) := by
  replace hp : (if s.model.pollingTask = some key then
      (s.pollers key).map fun poller => { poller with cancelled := true }
    else s.pollers key) = some p := hp
  split at hp
  · rename_i ht
    obtain ⟨q, hq, rfl⟩ := Option.map_eq_some_iff.mp hp
    exact ⟨q, hq, fun _ => rfl, fun hne => absurd ht hne⟩
  · rename_i ht
    exact ⟨p, hp, fun heq => absurd heq ht, fun _ => rfl⟩

theorem Coherent.cancelled_of_stopPolling (h : s.Coherent) :
    ∀ key p, s.stopPolling.pollers key = some p → p.cancelled = true := by
  intro key p hp
  obtain ⟨q, hq, hcanc, hsame⟩ := mem_stopPolling hp
  by_cases ht : s.model.pollingTask = some key
  · exact hcanc ht
  cases hsame ht
  cases hc : p.cancelled with
  | true => rfl
  | false => exact absurd (h.current key p hq hc).1 ht

theorem Coherent.stopPolling (h : s.Coherent) : s.stopPolling.Coherent where
  current key p hp hc := by
    rw [h.cancelled_of_stopPolling key p hp] at hc
    cases hc

theorem Coherent.startPolling (h : s.Coherent) : s.startPolling.Coherent := by
  unfold LoginSystem.startPolling
  split
  · exact h
  split
  · rename_i session hsess hguard
    have hidle : s.model.pollingTask = none := by
      simp only [and_eq_true, Option.isNone_iff_eq_none] at hguard
      exact hguard.2
    -- Without a task no poller is left that is not cancelled.
    have hcanc : ∀ key p, s.pollers key = some p → p.cancelled = true := by
      intro key p hp
      cases hc : p.cancelled with
      | true => rfl
      | false =>
        rw [(h.current key p hp hc).1] at hidle
        cases hidle
    refine ⟨fun key p hp hc => ?_⟩
    rw [setPoller_pollers] at hp
    split at hp
    · rename_i hkey
      exact ⟨congrArg some hkey.symm, hkey⟩
    · rw [hcanc key p hp] at hc
      cases hc
  · exact h

theorem Held.startPolling (h : s.Held env) : s.startPolling.Held env := by
  unfold LoginSystem.startPolling
  split
  · exact h
  split
  · rename_i session hsess hguard
    intro key p hp hc
    rw [setPoller_pollers] at hp
    split at hp
    · cases hp
      refine .inr (.inl ⟨⟨rfl, rfl⟩, ?_⟩)
      show s.model.activeSession.map _ = _
      rw [hsess]
      rfl
    · exact h key p hp hc
  · exact h

theorem endPoller_eq (s : LoginSystem Endpoint) (generation : Nat) :
    ∃ task, s.endPoller generation =
        { s with model := { s.model with pollingTask := task } }.setPoller generation none ∧
      (generation ≠ s.model.pollingGeneration → task = s.model.pollingTask) := by
  unfold endPoller
  split
  · rename_i hcurr
    exact ⟨none, rfl, fun hne => absurd hcurr hne⟩
  · exact ⟨s.model.pollingTask, rfl, fun _ => rfl⟩

theorem Coherent.endPoller (h : s.Coherent) (generation : Nat) :
    (s.endPoller generation).Coherent := by
  obtain ⟨task, heq, ht⟩ := endPoller_eq s generation
  rw [heq]
  refine ⟨fun key p hp hc => ?_⟩
  rw [setPoller_pollers] at hp
  split at hp
  · cases hp
  · rename_i hkey
    obtain ⟨hcurr, hgen⟩ := h.current key p hp hc
    refine ⟨?_, hgen⟩
    show task = some key
    rw [ht (fun hequal => hkey (hgen.trans hequal.symm)), hcurr]

theorem held_endPoller (hleft : ∀ key p, key ≠ generation → s.pollers key = some p →
      p.cancelled = false → s.Engaged env p) : (s.endPoller generation).Held env := by
  obtain ⟨task, heq, -⟩ := endPoller_eq s generation
  rw [heq]
  intro key p hp hc
  rw [setPoller_pollers] at hp
  split at hp
  · cases hp
  · rename_i hkey
    exact hleft key p hkey hp hc

theorem Held.endPoller (h : s.Held env) (generation : Nat) : (s.endPoller generation).Held env :=
  held_endPoller fun key p _ hp hc => h key p hp hc

theorem Coherent.finishRefresh (h : s.Coherent) (caller : RefreshCaller) :
    (s.finishRefresh caller).Coherent := by
  cases caller with
  | activate =>
    unfold LoginSystem.finishRefresh
    dsimp only
    split
    · exact h.startPolling
    · exact h
  | refreshReadiness | startLogin => exact h
  | poller generation => exact h.endPoller generation

theorem Held.finishRefresh (h : s.Held env) (caller : RefreshCaller) :
    (s.finishRefresh caller).Held env := by
  cases caller with
  | activate =>
    unfold LoginSystem.finishRefresh
    dsimp only
    split
    · exact h.startPolling
    · exact h
  | refreshReadiness | startLogin => exact h
  | poller generation => exact h.endPoller generation

theorem Coherent.setRefresh (h : s.Coherent) (sequence : Nat)
    (refresh : Option (Refresh Endpoint)) : (s.setRefresh sequence refresh).Coherent :=
  { h with }

theorem Coherent.beginRefresh (h : s.Coherent) (caller : RefreshCaller) :
    (s.beginRefresh env caller).Coherent := by
  unfold LoginSystem.beginRefresh
  dsimp only
  split
  · apply Coherent.finishRefresh
    exact h.keeps rfl rfl
  · apply Coherent.setRefresh
    exact h.keeps rfl rfl

theorem NoPollInFlight.beginRefresh (h : s.NoPollInFlight) (caller : RefreshCaller) :
    (s.beginRefresh env caller).Held env := by
  unfold LoginSystem.beginRefresh
  dsimp only
  split
  · rename_i hn
    apply Held.finishRefresh
    exact NoPollInFlight.held h nofun (.inr hn)
  · exact NoPollInFlight.held h nofun (.inl rfl)

section

variable (h : s.Coherent) (hpoller : s.pollers generation = some poller)
include h hpoller

theorem Coherent.others_cancelled (huncanc : poller.cancelled = false) {otherGeneration : Nat}
    (hne : otherGeneration ≠ generation) (ho : s.pollers otherGeneration = some other) :
    other.cancelled = true := by
  cases hcanc : other.cancelled with
  | true => rfl
  | false =>
    have ht := (h.current otherGeneration other ho hcanc).1
    rw [(h.current generation poller hpoller huncanc).1] at ht
    cases ht
    exact absurd rfl hne

theorem Coherent.held_endPoller {m : LoginModel} (huncanc : poller.cancelled = false) :
    (({ s with model := m } : LoginSystem Endpoint).endPoller generation).Held env := by
  apply LoginSystem.held_endPoller
  intro key p hkey hp hc
  rw [h.others_cancelled hpoller huncanc hkey hp] at hc
  cases hc

theorem Coherent.held_setPoller {m : LoginModel} {p : Poller Endpoint}
    (huncanc : poller.cancelled = false)
    (hp : Engaged env ({ s with model := m } : LoginSystem Endpoint) p) :
    (({ s with model := m } : LoginSystem Endpoint).setPoller generation (some p)).Held env := by
  intro key q hq hc
  rw [setPoller_pollers] at hq
  split at hq
  · cases hq
    exact hp
  · rename_i hkey
    rw [h.others_cancelled hpoller huncanc hkey hq] at hc
    cases hc

theorem Coherent.setPoller {p : Poller Endpoint} (hcanc : p.cancelled = poller.cancelled) :
    (s.setPoller generation (some p)).Coherent where
  current key q hq hc := by
    rw [setPoller_pollers] at hq
    split at hq
    · rename_i hkey
      cases hq
      rw [hkey]
      exact h.current generation poller hpoller (hcanc.symm.trans hc)
    · exact h.current key q hq hc

end

/-- The invariant of a run; the sessions are held as long as the steps are careful. -/
structure Fenced (env : Platform Endpoint) (careful : Prop) (s : LoginSystem Endpoint) : Prop where
  coherent : s.Coherent
  held : careful → s.Held env

variable {careful : Prop}

theorem Coherent.invalidateSession (h : s.Coherent) :
    s.invalidateSession.Coherent ∧ s.invalidateSession.NoPoller := by
  have hcoh : Coherent { s with
      model := { s.model with
        operationSequence := s.model.operationSequence + 1
        isStartingLogin := false } } := h.keeps rfl rfl
  exact ⟨hcoh.stopPolling.sameFence ⟨rfl, rfl, rfl, rfl⟩,
    noPoller_of_cancelled hcoh.cancelled_of_stopPolling⟩

theorem Fenced.beginRefresh {caller : RefreshCaller} (h : s.Coherent)
    (hidle : careful → s.NoPollInFlight) : (s.beginRefresh env caller).Fenced env careful :=
  ⟨h.beginRefresh caller, fun hcareful => (hidle hcareful).beginRefresh caller⟩

variable (h : s.Fenced env careful)

include h

theorem Fenced.endRefresh {refresh : Refresh Endpoint} {m : LoginModel}
    (hsame : LoginModel.SameFence s.model m) (hsess : m.activeSession = s.model.activeSession)
    (haddress : m.serverAddressText = s.model.serverAddressText)
    (hst : m.status = .sessionPending → s.model.status = .sessionPending) :
    (s.endRefresh sequence refresh m).Fenced env careful := by
  constructor
  · exact ((h.coherent.sameFence hsame).setRefresh _ _).finishRefresh _
  · intro hcareful
    have hh := (h.held hcareful).sameFence hsame hsess (congrArg _ haddress) hst
    exact Held.finishRefresh (s := { s with model := m }.setRefresh sequence none) hh _

theorem Fenced.startPolling : s.startPolling.Fenced env careful :=
  ⟨h.coherent.startPolling, fun hcareful => (h.held hcareful).startPolling⟩

theorem Fenced.endPoller (generation : Nat) : (s.endPoller generation).Fenced env careful :=
  ⟨h.coherent.endPoller generation, fun hcareful => (h.held hcareful).endPoller generation⟩

theorem Fenced.dropStart : (s.setStart sequence none).Fenced env careful :=
  ⟨{ h.coherent with }, fun hcareful => h.held hcareful⟩

theorem Fenced.deactivate : s.deactivate.Fenced env careful := by
  have hcoh : Coherent { s with
      model := { s.model with
        active := false
        operationSequence := s.model.operationSequence + 1
        isStartingLogin := false } } := h.coherent.keeps rfl rfl
  exact ⟨hcoh.stopPolling,
    fun _ => (noPoller_of_cancelled hcoh.cancelled_of_stopPolling).held⟩

omit h

theorem loopTop_poll {late : Bool} {now : Int} {session : BilibiliLoginSession}
    {endpoint : Endpoint} (h : s.loopTop env poller late now = .poll session endpoint) :
    poller.cancelled = false ∧ s.model.activeSession = some session := by
  have hleave : s.leaveLoop ≠ .poll session endpoint := by
    unfold leaveLoop
    split <;> simp
  unfold loopTop at h
  split at h
  · rename_i hguard
    simp only [and_eq_true, not_eq_true'] at hguard
    split at h
    · rename_i active endpoint' hsess hendpoint
      split at h
      · cases h
        exact ⟨hguard.1.1, hsess⟩
      · cases h
    · exact absurd h hleave
  · exact absurd h hleave

include h in
theorem Fenced.pollFailed (hpoller : s.pollers generation = some poller) :
    (s.pollFailed generation poller).Fenced env careful := by
  unfold LoginSystem.pollFailed
  split
  · rename_i hguard
    simp only [and_eq_true, not_eq_true'] at hguard
    constructor
    · exact (h.coherent.sameFence (m := { { s.model with
          status := .failed }.clearPresentation with
        activeSession := none }) ⟨rfl, rfl, rfl, rfl⟩).endPoller generation
    · intro _
      exact h.coherent.held_endPoller hpoller hguard.2
  · exact h.endPoller generation

theorem endPoller_presented : (s.endPoller generation).model.presented = s.model.presented := by
  obtain ⟨task, heq, -⟩ := endPoller_eq s generation
  rw [heq]
  rfl

def OneCurrentPoller (s : LoginSystem Endpoint) : Prop :=
  ∀ generation poller, s.pollers generation = some poller → poller.cancelled = false →
    s.model.pollingTask = some generation ∧
      ∀ otherGeneration other, s.pollers otherGeneration = some other →
        other.cancelled = false → otherGeneration = generation

def PollerStepFenced (s : LoginSystem Endpoint) (generation : Nat) (t : LoginSystem Endpoint) :
    Prop :=
  t.model.presented ≠ s.model.presented →
    ∃ poller, s.pollers generation = some poller ∧ poller.cancelled = false ∧
      s.model.pollingTask = some generation ∧
      s.model.activeSession.map (·.id) = some poller.session.id ∧ s.Undisturbed poller

def PollerStepHarmless (s : LoginSystem Endpoint) (generation : Nat)
    (t : LoginSystem Endpoint) : Prop :=
  (s.model.activeSession = none → t.model.presented = s.model.presented) ∧
    ((∃ poller, s.pollers generation = some poller ∧ poller.cancelled = true) →
      t.model.presented = s.model.presented)

theorem Coherent.oneCurrentPoller (h : s.Coherent) : s.OneCurrentPoller := by
  intro generation poller hpoller hcurr
  have ht := (h.current generation poller hpoller hcurr).1
  refine ⟨ht, ?_⟩
  intro otherGeneration other ho hotherCurrent
  rw [(h.current otherGeneration other ho hotherCurrent).1] at ht
  cases ht
  rfl

theorem PollerStepFenced.harmless (h : PollerStepFenced s generation t) :
    PollerStepHarmless s generation t := by
  constructor
  · intro hclr
    by_contra hchg
    obtain ⟨poller, -, -, -, hsess, -⟩ := h hchg
    rw [hclr] at hsess
    cases hsess
  · rintro ⟨poller, hpoller, hcanc⟩
    by_contra hchg
    obtain ⟨current, hcurr, huncanc, -⟩ := h hchg
    rw [hpoller] at hcurr
    cases hcurr
    rw [hcanc] at huncanc
    cases huncanc

end LoginSystem

def LoginEvent.poller : LoginEvent → Option Nat
  | .pollerRuns generation _ _ => some generation
  | .pollAnswered generation _ => some generation
  | .pollFailed generation => some generation
  | .sleepCancelled generation => some generation
  | _ => none

def LoopTop.expires {Endpoint : Type} : LoopTop Endpoint → Bool
  | .sessionExpired => true
  | .timedOut => true
  | .poll _ _ => false
  | .stopped => false

namespace LoginSystem

variable {Endpoint : Type} [DecidableEq Endpoint] {env : Platform Endpoint}
  {s t : LoginSystem Endpoint} {generation sequence : Nat} {poller : Poller Endpoint}
  {event : LoginEvent}

def passes (env : Platform Endpoint) (s : LoginSystem Endpoint) (poller : Poller Endpoint) :
    LoginEvent → Bool
  | .pollerRuns _ late now => (s.loopTop env poller late now).expires
  | .pollAnswered _ updated =>
    match poller.phase with
    | .polling endpoint => s.acceptsPoll env poller endpoint updated
    | _ => false
  | .pollFailed _ => s.model.active && !poller.cancelled
  | _ => false

def changesAddress (env : Platform Endpoint) (s : LoginSystem Endpoint)
    (serverAddressText : String) : Prop :=
  env.normalized s.model.serverAddressText ≠ env.normalized serverAddressText ∨
    (env.normalized s.model.serverAddressText = none ∧
      s.model.serverAddressText ≠ serverAddressText)

def acceptsStart (env : Platform Endpoint) (s : LoginSystem Endpoint) (start : Start Endpoint)
    (session : BilibiliLoginSession) : Prop :=
  session.profileID = s.model.effectiveProfileID ∧
    LoginModel.sameMethod env session.method start.method.rawValue = true

/-- The condition of a run, on a step and the state before it. Operations that stop no poller
begin and end with no poll in flight, a login start finds no poller with a session to poll, and
a cancelled poller leaves its loop with no session pending. -/
def Careful (env : Platform Endpoint) (s : LoginSystem Endpoint) : LoginEvent → Prop
  | .activate serverAddressText now =>
    s.changesAddress env serverAddressText ∨ s.model.isStartingLogin = true ∨
      (∃ session, s.model.activeSession = some session ∧ s.model.status = .sessionPending ∧
        isUnexpired session now = true) ∨ s.NoPollInFlight
  | .refreshReadiness =>
    s.model.active = true → s.model.supportsCredentialReadiness = true → s.NoPollInFlight
  | .startLogin _ => s.model.canStartLoginSession env = true → s.Vacant
  | .startAnswered sequence session =>
    ∀ start, s.starts sequence = some start →
      s.model.isCurrent env sequence start.endpoint = true →
        s.NoPoller ∨ (¬ s.acceptsStart env start session ∧ s.Vacant)
  | .startFailed sequence =>
    ∀ start, s.starts sequence = some start →
      s.model.isCurrent env sequence start.endpoint = true → s.Vacant
  | .pollerRuns generation _ _ =>
    ∀ poller, s.pollers generation = some poller → poller.cancelled = true →
      s.model.active = true → s.model.status ≠ .sessionPending
  | _ => True

variable {careful : Prop} {refresh : Refresh Endpoint} (h : s.Fenced env careful)

include h

theorem Fenced.serverInfoAnswered {info : CacheServerSummary} :
    (s.serverInfoAnswered env sequence refresh info).Fenced env careful := by
  unfold LoginSystem.serverInfoAnswered
  split
  · split
    · exact h.endRefresh ⟨rfl, rfl, rfl, rfl⟩ rfl rfl nofun
    constructor
    · apply Coherent.setRefresh
      exact h.coherent.sameFence ⟨rfl, rfl, rfl, rfl⟩
    · intro hcareful
      exact (h.held hcareful).sameFence ⟨rfl, rfl, rfl, rfl⟩ rfl rfl id
  · exact h.endRefresh ⟨rfl, rfl, rfl, rfl⟩ rfl rfl id

theorem Fenced.credentialsAnswered {credentials : BilibiliCredentialStatus} :
    (s.credentialsAnswered env sequence refresh credentials).Fenced env careful := by
  unfold LoginSystem.credentialsAnswered
  split
  · obtain ⟨hsame, hsess, haddress, hst⟩ := @LoginModel.applyCredentials_frame _ env s.model
      credentials s.model.supportsCredentialReadiness
    exact h.endRefresh hsame hsess haddress fun hpending => absurd hpending hst
  · exact h.endRefresh ⟨rfl, rfl, rfl, rfl⟩ rfl rfl id

theorem Fenced.refreshThrew {unsupported : Bool} :
    (s.refreshThrew env sequence refresh unsupported).Fenced env careful := by
  unfold LoginSystem.refreshThrew
  split
  · refine h.endRefresh ⟨rfl, rfl, rfl, rfl⟩ rfl rfl fun hpending => ?_
    cases unsupported <;> cases hpending
  · exact h.endRefresh ⟨rfl, rfl, rfl, rfl⟩ rfl rfl id

theorem Fenced.activate {serverAddressText : String} {now : Int}
    (hcareful : careful → s.Careful env (.activate serverAddressText now)) :
    (s.activate env serverAddressText now).Fenced env careful := by
  unfold LoginSystem.activate
  dsimp only
  have hcoh : Coherent { s with
      model := { s.model with serverAddressText := serverAddressText, active := true } } :=
    h.coherent.sameFence ⟨rfl, rfl, rfl, rfl⟩
  split
  · obtain ⟨hinvalidated, hnone⟩ := hcoh.invalidateSession
    exact Fenced.beginRefresh hinvalidated fun _ => hnone.noPollInFlight
  · rename_i haddress
    have hn : Fenced env careful { s with
        model := { s.model with serverAddressText := serverAddressText, active := true } } := by
      refine ⟨hcoh, fun hholds => (h.held hholds).sameFence ⟨rfl, rfl, rfl, rfl⟩ rfl ?_ id⟩
      exact (of_not_not fun hne => haddress (.inl (Ne.symm hne)))
    split
    · exact hn
    · rename_i hstarting
      -- What is left of the condition, once the address stays and no start runs.
      have hidle : careful → (∃ session, s.model.activeSession = some session ∧
          s.model.status = .sessionPending ∧ isUnexpired session now = true) ∨
          s.NoPollInFlight := by
        intro hholds
        rcases hcareful hholds with hchanges | hruns | hr
        · exact absurd hchanges haddress
        · exact absurd hruns hstarting
        · exact hr
      split
      · rename_i hsess
        refine Fenced.beginRefresh hcoh fun hholds => (hidle hholds).resolve_left ?_
        rintro ⟨session, hs, -⟩
        rw [hsess] at hs
        cases hs
      · rename_i session hsess
        split
        · rename_i hst
          refine Fenced.beginRefresh hcoh fun hholds => (hidle hholds).resolve_left ?_
          rintro ⟨_, -, hpending, -⟩
          exact hst hpending
        split
        · exact hn.startPolling
        · rename_i hexpired
          refine Fenced.beginRefresh (hcoh.sameFence ⟨rfl, rfl, rfl, rfl⟩) fun hholds =>
            (hidle hholds).resolve_left ?_
          rintro ⟨_, hs, -, hunexpired⟩
          cases hsess.symm.trans hs
          exact hexpired hunexpired

theorem Fenced.refreshReadiness (hcareful : careful → s.Careful env .refreshReadiness) :
    (s.refreshReadiness env).Fenced env careful := by
  unfold LoginSystem.refreshReadiness
  split
  · rename_i hguard
    obtain ⟨hact, hsupports⟩ := and_eq_true_iff.mp hguard
    exact Fenced.beginRefresh h.coherent fun hholds => hcareful hholds hact hsupports
  · exact h

omit h in
omit [DecidableEq Endpoint] in
theorem canStartLoginSession_status {m : LoginModel} (h : m.canStartLoginSession env = true) :
    m.status ≠ .sessionPending := by
  intro hpending
  simp [LoginModel.canStartLoginSession, hpending] at h

theorem Fenced.startLogin {method : BilibiliLoginMethod}
    (hcareful : careful → s.Careful env (.startLogin method)) :
    (s.startLogin env method).Fenced env careful := by
  unfold LoginSystem.startLogin
  dsimp only
  generalize hcan : (if method = .webQR then s.model.canStartLogin env
    else s.model.canStartAccessKeyLogin env) = allowed
  split
  · exact h
  split
  · rename_i hallowed
    subst hallowed
    replace hcan : s.model.canStartLoginSession env = true := by
      split at hcan
      · exact (and_eq_true_iff.mp hcan).1
      · exact (and_eq_true_iff.mp (and_eq_true_iff.mp hcan).1).1
    refine ⟨{ h.coherent.keeps rfl rfl with }, fun hholds => ?_⟩
    have hst := canStartLoginSession_status hcan
    exact Vacant.held (hcareful hholds hcan) hst
  · exact h

omit h

variable {endpoint : Endpoint}

include h

theorem Fenced.startAnswered {start : Start Endpoint} {session : BilibiliLoginSession}
    (hstart : s.starts sequence = some start)
    (hcareful : careful → s.Careful env (.startAnswered sequence session)) :
    (s.startAnswered env sequence start session).Fenced env careful := by
  unfold LoginSystem.startAnswered
  dsimp only
  split
  · rename_i hcurr
    split
    · rename_i haccepts
      obtain ⟨hsame, -⟩ := @LoginModel.applySession_frame _ env
        { s.model with isStartingLogin := false, activeSession := some session } session
      have hcoh := h.coherent.keeps hsame.generation hsame.task
      have hn : careful → s.NoPoller := fun hholds =>
        (hcareful hholds start hstart hcurr).resolve_right fun hrefused => hrefused.1 haccepts
      split
      · exact Fenced.beginRefresh { hcoh with } fun hholds => (hn hholds).noPollInFlight
      · have hnext : Fenced env careful { s.setStart sequence none with
            model := { s.model with
              isStartingLogin := false
              activeSession := some session }.applySession env session } :=
          ⟨{ hcoh with }, fun hholds => NoPoller.held (hn hholds)⟩
        split
        · exact hnext.startPolling
        · exact hnext
    · refine ⟨{ h.coherent.keeps rfl rfl with }, fun hholds => ?_⟩
      rcases hcareful hholds start hstart hcurr with hn | ⟨-, hvacant⟩
      · exact NoPoller.held hn
      · exact Vacant.held hvacant nofun
  · exact h.dropStart

theorem Fenced.startFailed {start : Start Endpoint} (hstart : s.starts sequence = some start)
    (hcareful : careful → s.Careful env (.startFailed sequence)) :
    (s.startFailed env sequence start).Fenced env careful := by
  unfold LoginSystem.startFailed
  dsimp only
  split
  · rename_i hcurr
    exact ⟨{ h.coherent.keeps rfl rfl with }, fun hholds =>
      Vacant.held (hcareful hholds start hstart hcurr) nofun⟩
  · exact h.dropStart

omit h

omit [DecidableEq Endpoint] in
/-- A poller is let out of its loop by its session or by the deadline and a pending status. -/
theorem loopTop_expires {late : Bool} {now : Int}
    (h : (s.loopTop env poller late now).expires = true) :
    (poller.cancelled = false ∧ s.model.activeSession ≠ none ∧
      env.normalized s.model.serverAddressText ≠ none) ∨
    (s.model.active = true ∧ s.model.status = .sessionPending) := by
  have hleave : s.leaveLoop.expires = true →
      s.model.active = true ∧ s.model.status = .sessionPending := by
    intro hexpires
    unfold leaveLoop at hexpires
    split at hexpires
    · rename_i hguard
      exact ⟨(and_eq_true_iff.mp hguard).1, beq_iff_eq.mp (and_eq_true_iff.mp hguard).2⟩
    · cases hexpires
  unfold loopTop at h
  split at h
  · rename_i hguard
    simp only [and_eq_true, not_eq_true'] at hguard
    split at h
    · rename_i session endpoint hsess hendpoint
      exact .inl ⟨hguard.1.1, by simp [hsess], by simp [hendpoint]⟩
    · exact .inr (hleave h)
  · exact .inr (hleave h)

theorem not_cancelled_of_expires {late : Bool} {now : Int}
    (hpoller : s.pollers generation = some poller)
    (hcareful : s.Careful env (.pollerRuns generation late now))
    (h : (s.loopTop env poller late now).expires = true) : poller.cancelled = false := by
  rcases loopTop_expires h with ⟨huncanc, -⟩ | ⟨hact, hpending⟩
  · exact huncanc
  cases hcanc : poller.cancelled with
  | false => rfl
  | true => exact absurd hpending (hcareful poller hpoller hcanc hact)

include h

theorem Fenced.pollerRuns {late : Bool} {now : Int} (hpoller : s.pollers generation = some poller)
    (hcareful : careful → s.Careful env (.pollerRuns generation late now)) :
    (s.pollerRuns env generation poller late now).Fenced env careful := by
  have hexpire : (s.loopTop env poller late now).expires = true → Fenced env careful
      (({ s with model := s.model.expireSession } : LoginSystem Endpoint).endPoller
        generation) := by
    intro hexpires
    constructor
    · exact (h.coherent.sameFence (m := s.model.expireSession)
        ⟨rfl, rfl, rfl, rfl⟩).endPoller generation
    · intro hholds
      exact h.coherent.held_endPoller hpoller
        (not_cancelled_of_expires hpoller (hcareful hholds) hexpires)
  unfold LoginSystem.pollerRuns
  split
  · rename_i session endpoint htop
    obtain ⟨huncanc, hsess⟩ := loopTop_poll htop
    constructor
    · exact h.coherent.setPoller hpoller rfl
    · intro _
      apply h.coherent.held_setPoller (m := s.model) hpoller huncanc
      refine .inr (.inl ⟨⟨rfl, rfl⟩, ?_⟩)
      show s.model.activeSession.map _ = _
      rw [hsess]
      rfl
  · rename_i htop
    exact hexpire (by rw [htop]; rfl)
  · rename_i htop
    exact hexpire (by rw [htop]; rfl)
  · exact h.endPoller generation

omit h

variable {updated : BilibiliLoginSession}

theorem acceptsPoll_spec (h : s.acceptsPoll env poller endpoint updated = true) :
    poller.cancelled = false ∧ updated.id = poller.session.id := by
  unfold acceptsPoll at h
  simp only [and_eq_true, not_eq_true', beq_iff_eq] at h
  obtain ⟨⟨⟨⟨⟨-, huncanc⟩, -⟩, hid⟩, -⟩, -⟩ := h
  exact ⟨huncanc, hid⟩

include h in
theorem Fenced.pollAnswered (hpoller : s.pollers generation = some poller)
    (hphase : poller.phase = .polling endpoint) :
    (s.pollAnswered env generation poller endpoint updated).Fenced env careful := by
  unfold LoginSystem.pollAnswered
  split
  · rename_i haccepts
    obtain ⟨huncanc, hid⟩ := acceptsPoll_spec haccepts
    obtain ⟨hsame, hsess, -⟩ := @LoginModel.applySession_frame _ env
      { s.model with activeSession := some updated } updated
    dsimp only
    generalize LoginModel.applySession env
      { s.model with activeSession := some updated } updated = m at *
    have happlied := h.coherent.sameFence (m := m) { hsame with }
    split
    · split
      · refine Fenced.beginRefresh
          (happlied.setPoller (p := { poller with phase := .refreshing }) hpoller rfl) fun _ => ?_
        intro key p hp hc
        rw [setPoller_pollers] at hp
        split at hp
        · cases hp
          rfl
        · rename_i hkey
          rw [h.coherent.others_cancelled hpoller huncanc hkey hp] at hc
          cases hc
      constructor
      · exact (happlied.sameFence (m := { m with activeSession := none })
          ⟨rfl, rfl, rfl, rfl⟩).endPoller generation
      · exact fun _ => h.coherent.held_endPoller hpoller huncanc
    · refine ⟨happlied.setPoller hpoller rfl, fun hholds => ?_⟩
      apply h.coherent.held_setPoller hpoller huncanc
      have hundist := (h.held hholds).polling hpoller huncanc hphase
      refine .inr (.inl ⟨⟨hundist.1.1.trans hsame.sequence.symm,
        hundist.1.2.trans hsame.starting.symm⟩, ?_⟩)
      show m.activeSession.map _ = _
      rw [hsess]
      exact congrArg some hid
  · exact h.endPoller generation

include h in
theorem Fenced.step (hstep : LoginStep env s event t) (hcareful : careful → s.Careful env event) :
    t.Fenced env careful := by
  cases hstep with
  | activate => exact h.activate hcareful
  | deactivate => exact h.deactivate
  | refreshReadiness => exact h.refreshReadiness hcareful
  | startLogin => exact h.startLogin hcareful
  | serverInfoAnswered => exact h.serverInfoAnswered
  | credentialsAnswered => exact h.credentialsAnswered
  | refreshThrew => exact h.refreshThrew
  | startAnswered session hstart => exact h.startAnswered hstart hcareful
  | startFailed hstart => exact h.startFailed hstart hcareful
  | pollerRuns late now hpoller => exact h.pollerRuns hpoller hcareful
  | pollAnswered updated hpoller hphase => exact h.pollAnswered hpoller hphase
  | pollFailed hpoller => exact h.pollFailed hpoller
  | @sleepCancelled generation => exact h.endPoller generation

/-- What the guards of the code let through comes from the poller of the active session. -/
theorem Fenced.undisturbed_of_passes (h : s.Fenced env True) (hstep : LoginStep env s event t)
    (hcareful : s.Careful env event) (hev : event.poller = some generation)
    (hpoller : s.pollers generation = some poller)
    (hpasses : s.passes env poller event = true) :
    poller.cancelled = false ∧ s.Undisturbed poller ∧
      s.model.activeSession.map (·.id) = some poller.session.id := by
  cases hstep with
  | @pollerRuns _ found late now halive hphase =>
    cases hev
    cases hpoller.symm.trans halive
    have huncanc := not_cancelled_of_expires hpoller hcareful hpasses
    refine ⟨huncanc, ?_⟩
    rcases h.held trivial _ _ hpoller huncanc with hrefr | hh | ⟨-, hst, hn⟩
    · rw [hrefr] at hphase
      rcases hphase with hphase | hphase <;> cases hphase
    · exact hh
    · rcases loopTop_expires hpasses with ⟨-, hsess, haddress⟩ | ⟨-, hpending⟩
      · exact absurd hn (not_or.mpr ⟨hsess, haddress⟩)
      · exact absurd hpending hst
  | @pollAnswered _ found endpoint updated halive hphase =>
    cases hev
    cases hpoller.symm.trans halive
    unfold passes at hpasses
    simp only [hphase] at hpasses
    have huncanc := (acceptsPoll_spec hpasses).1
    exact ⟨huncanc, (h.held trivial).polling hpoller huncanc hphase⟩
  | @pollFailed _ found endpoint halive hphase =>
    cases hev
    cases hpoller.symm.trans halive
    have huncanc : poller.cancelled = false := by
      simpa using (and_eq_true_iff.mp hpasses).2
    exact ⟨huncanc, (h.held trivial).polling hpoller huncanc hphase⟩
  | sleepCancelled => cases hpasses
  | activate | deactivate | refreshReadiness | startLogin | serverInfoAnswered
  | credentialsAnswered | refreshThrew | startAnswered | startFailed => cases hev

theorem presented_of_not_passes (hstep : LoginStep env s event t)
    (hev : event.poller = some generation)
    (hpasses : ∀ poller, s.pollers generation = some poller →
      s.passes env poller event = false) : t.model.presented = s.model.presented := by
  cases hstep with
  | pollerRuns late now hpoller hphase =>
    cases hev
    replace hpasses : (s.loopTop env _ late now).expires = false := hpasses _ hpoller
    unfold LoginSystem.pollerRuns
    split
    · rfl
    · rename_i htop
      rw [htop] at hpasses
      cases hpasses
    · rename_i htop
      rw [htop] at hpasses
      cases hpasses
    · exact endPoller_presented
  | pollAnswered updated hpoller hphase =>
    cases hev
    have hrefu := hpasses _ hpoller
    unfold passes at hrefu
    simp only [hphase] at hrefu
    unfold LoginSystem.pollAnswered
    rw [hrefu]
    exact endPoller_presented
  | pollFailed hpoller hphase =>
    cases hev
    have hrefu := hpasses _ hpoller
    replace hrefu : (s.model.active && !Poller.cancelled _) = false := hrefu
    unfold LoginSystem.pollFailed
    rw [hrefu]
    exact endPoller_presented
  | sleepCancelled hpoller hphase hcanc =>
    cases hev
    exact endPoller_presented
  | activate | deactivate | refreshReadiness | startLogin | serverInfoAnswered
  | credentialsAnswered | refreshThrew | startAnswered | startFailed => cases hev

theorem Fenced.pollerStep (h : s.Fenced env True) (hstep : LoginStep env s event t)
    (hcareful : s.Careful env event) (hev : event.poller = some generation) :
    PollerStepFenced s generation t := by
  intro hchg
  by_contra hn
  apply hchg
  apply presented_of_not_passes hstep hev
  intro poller hpoller
  cases hpasses : s.passes env poller event with
  | false => rfl
  | true =>
    obtain ⟨hcurr, hundist, hsess⟩ :=
      h.undisturbed_of_passes hstep hcareful hev hpoller hpasses
    exact absurd ⟨poller, hpoller, hcurr,
      (h.coherent.current generation poller hpoller hcurr).1, hsess, hundist⟩ hn

theorem one_current_poller_of_run {events : List LoginEvent}
    (hrun : Run (LoginStep env) .initial events s) : s.OneCurrentPoller := by
  have hfenced : s.Fenced env False := by
    apply hrun.invariant (Fenced env False)
    · intro a b event hstep ha
      exact ha.step hstep False.elim
    · exact ⟨initial_coherent, False.elim⟩
  exact hfenced.coherent.oneCurrentPoller

theorem login_poller_fenced {events : List LoginEvent}
    (hrun : Run (Guarded (LoginStep env) (Careful env)) .initial events s) :
    s.OneCurrentPoller ∧
      ∀ event generation t, Guarded (LoginStep env) (Careful env) s event t →
        event.poller = some generation →
          PollerStepFenced s generation t ∧ PollerStepHarmless s generation t := by
  refine ⟨one_current_poller_of_run hrun.of_guarded, ?_⟩
  have hfenced : s.Fenced env True := by
    apply hrun.invariant (Fenced env True)
    · intro a b event hstep ha
      exact ha.step hstep.1 fun _ => hstep.2
    · exact ⟨initial_coherent, fun _ => initial_noPoller.held⟩
  intro event generation t hstep hevent
  have hpoller := hfenced.pollerStep hstep.1 hstep.2 hevent
  exact ⟨hpoller, hpoller.harmless⟩

def plainPlatform : Platform Unit where
  normalized address := if address = "" then none else some ()
  safeWebQRPayload uri := some uri
  safeServerLoginLink _ _ _ := none
  lowercased text := if text = "webQR" then "webqr" else text
  localizedCaseInsensitiveContains _ _ := false

def loginServer : CacheServerSummary := ⟨true, true, false, true, []⟩

/-- No Web cookie; the server asks for a login of the profile `p`. -/
def loginRequiredCredentials : BilibiliCredentialStatus :=
  ⟨"missing", true, false, false, false, "p", "p", .loginRequired, .missing⟩

def pendingSession : BilibiliLoginSession :=
  ⟨"a", "p", "webQR", "pending", "https://bilibili.com/a", none⟩

def polledOnce : LoginSystem Unit :=
  let refreshed := ((initial.activate plainPlatform "mac" 0).serverInfoAnswered plainPlatform 2
    ⟨.activate, (), .serverInfo⟩ loginServer).credentialsAnswered plainPlatform 2
    ⟨.activate, (), .credentials⟩ loginRequiredCredentials
  ((refreshed.startLogin plainPlatform .webQR).startAnswered plainPlatform 3 ⟨(), .webQR⟩
    pendingSession).pollerRuns plainPlatform 2 ⟨false, pendingSession, 3, false, .created⟩ false 0

theorem run_polledOnce : ∃ events,
    Run (Guarded (LoginStep plainPlatform) (Careful plainPlatform)) .initial events polledOnce := by
  have hactivated : Run (Guarded (LoginStep plainPlatform) (Careful plainPlatform)) .initial
      [.activate "mac" 0] _ :=
    Run.single ⟨.activate _ "mac" 0, .inl (.inl nofun)⟩
  have hinfo := hactivated.snoc
    ⟨@LoginStep.serverInfoAnswered _ _ _ _ 2 ⟨.activate, (), .serverInfo⟩ loginServer rfl rfl,
      trivial⟩
  have hcredentials := hinfo.snoc
    ⟨@LoginStep.credentialsAnswered _ _ _ _ 2 ⟨.activate, (), .credentials⟩
      loginRequiredCredentials rfl rfl, trivial⟩
  have hstarted := hcredentials.snoc ⟨.startLogin _ .webQR, fun _ => .inl nofun⟩
  have hans := hstarted.snoc
    ⟨@LoginStep.startAnswered _ _ _ _ 3 ⟨(), .webQR⟩ pendingSession rfl,
      fun _ _ _ => .inl nofun⟩
  refine ⟨_, hans.snoc
    ⟨@LoginStep.pollerRuns _ _ _ _ 2 ⟨false, pendingSession, 3, false, .created⟩ false 0 rfl
      (.inl rfl), fun poller hpoller hcanc => ?_⟩⟩
  cases hpoller
  cases hcanc

/-- The server renews the link of the session that is polled. -/
theorem login_poller_fenced_renewed : ∃ (events : List LoginEvent) (t : LoginSystem Unit),
    Run (Guarded (LoginStep plainPlatform) (Careful plainPlatform)) .initial events polledOnce ∧
      LoginStep plainPlatform polledOnce (.pollAnswered 2
        { pendingSession with verificationURI := "https://bilibili.com/b" }) t ∧
      t.model.presented ≠ polledOnce.model.presented ∧ polledOnce.OneCurrentPoller ∧
      PollerStepFenced polledOnce 2 t ∧ PollerStepHarmless polledOnce 2 t := by
  obtain ⟨events, hrun⟩ := run_polledOnce
  obtain ⟨hcurrent, hsteps⟩ := login_poller_fenced hrun
  have hstep : LoginStep plainPlatform polledOnce (.pollAnswered 2
      { pendingSession with verificationURI := "https://bilibili.com/b" }) _ :=
    @LoginStep.pollAnswered _ _ _ _ 2 ⟨false, pendingSession, 3, false, .polling ()⟩ () _ rfl rfl
  exact ⟨events, _, hrun, hstep, by decide, hcurrent, hsteps _ 2 _ ⟨hstep, trivial⟩ rfl⟩

/-- A refresh clears the session while a poll is in flight, and its answer brings it back. -/
theorem cleared_session_reappears :
    ∃ (events : List LoginEvent) (s t : LoginSystem Unit),
      Run (LoginStep plainPlatform) .initial events s ∧
      LoginStep plainPlatform s (.pollAnswered 2 pendingSession) t ∧
      s.model.status = .loginRequired ∧ s.model.activeSession = none ∧
      t.model.status = .sessionPending ∧ t.model.activeSession = some pendingSession ∧
      ¬ PollerStepFenced s 2 t := by
  obtain ⟨events, hrun⟩ := run_polledOnce
  have hrefreshing := hrun.of_guarded.snoc (.refreshReadiness polledOnce)
  have hinfo := hrefreshing.snoc
    (@LoginStep.serverInfoAnswered _ _ _ _ 4 ⟨.refreshReadiness, (), .serverInfo⟩ loginServer
      rfl rfl)
  have hcredentials := hinfo.snoc
    (@LoginStep.credentialsAnswered _ _ _ _ 4 ⟨.refreshReadiness, (), .credentials⟩
      loginRequiredCredentials rfl rfl)
  refine ⟨_, _, _, hcredentials,
    @LoginStep.pollAnswered _ _ _ _ 2 ⟨false, pendingSession, 3, false, .polling ()⟩ () _ rfl rfl,
    rfl, rfl, rfl, rfl, ?_⟩
  intro hfenced
  have hunchanged := hfenced.harmless.1 rfl
  cases congrArg Prod.fst hunchanged

end LoginSystem

end NetPlayer.Client
