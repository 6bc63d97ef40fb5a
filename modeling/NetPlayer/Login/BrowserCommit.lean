import NetPlayer.Login.TerminalSessions

/-!
# The commit of a browser login

Several requests may try to complete one browser session, each may be dropped at any time, and the
session may expire. At most one request at a time holds the session, and at most one ever claims
the commit.
-/

namespace NetPlayer.Login

open List Function SessionRecord Bool

open Function (update)
open LoginState
open Transition (Run Guarded)

/-- The request may still complete its session, or has to give it up. -/
def BrowserRequest.Holds (request : BrowserRequest) : Prop :=
  request.phase = .active ∨ request.stage = .dropping ∨ request.phase = .committing

structure BrowserRequest.WellFormed (request : BrowserRequest) : Prop where
  verifying : request.stage = .verifying → request.phase = .active ∧ request.worker = .absent
  dropping : request.stage = .dropping → request.phase = .cancelled
  waiting : request.phase = .active → request.stage = .verifying ∨ request.stage = .waiting
  writing : (request.worker = .writing ∨ ∃ saved, request.worker = .written saved) →
    request.phase = .committing
  committing : request.phase = .committing →
    request.worker = .writing ∨ ∃ saved, request.worker = .written saved

variable {request : BrowserRequest}

theorem BrowserRequest.WellFormed.not_verifying (wellFormed : request.WellFormed)
    (worker : request.worker = .queued) : request.stage ≠ .verifying := by
  intro h
  have ha := (wellFormed.verifying h).2
  rw [worker] at ha
  cases ha

theorem BrowserRequest.WellFormed.not_dropping (wellFormed : request.WellFormed)
    (phase : request.phase = .active) : request.stage ≠ .dropping := by
  intro h
  have hcanc := wellFormed.dropping h
  rw [phase] at hcanc
  cases hcanc

structure Held (w : LoginSystem) : Prop where
  wellFormed : ∀ number request, w.requests number = some request → request.WellFormed
  inserted : ∀ number request, w.requests number = some request →
    request.sessionId ∈ w.inserted
  record : ∀ number request, w.requests number = some request →
    ∀ record ∈ w.state.sessions, record.id = request.sessionId →
      record.profileId = request.profileId ∧ record.method = .accessKeyBrowser ∧
        (request.Holds → record.state = .pending → record.finishing = true) ∧
        (record.state = .pending → record.offers = true)
  unique : ∀ number request other rival, w.requests number = some request →
    w.requests other = some rival → request.Holds → rival.Holds →
      request.sessionId = rival.sessionId → number = other
  claimed : ∀ claim ∈ w.claims, ∃ request, w.requests claim.1 = some request ∧
    request.sessionId = claim.2 ∧ (request.phase = .committing ∨
      ∀ record ∈ w.state.sessions, record.id = claim.2 → record.state ≠ .pending)
  committing : ∀ number request, w.requests number = some request →
    request.phase = .committing → (number, request.sessionId) ∈ w.claims
  once : (w.claims.map Prod.snd).Nodup
  written : ∀ write ∈ w.writes, write ∈ w.claims ∧
    ∀ request, w.requests write.1 = some request → request.worker ≠ .writing
  writtenOnce : (w.writes.map Prod.snd).Nodup

section

variable {w : LoginSystem} {s : LoginState}

variable {sessionId : String}

theorem Keeps.gone (keeps : Keeps w s)
    (gone : ∀ record ∈ w.state.sessions, record.id = sessionId → record.state ≠ .pending) :
    ∀ next ∈ s.sessions, next.id = sessionId → next.state ≠ .pending := by
  intro next hnext hid hpending
  obtain ⟨record, hrecord, hsame, -, -, hlocked⟩ := keeps.locked next hnext
  exact gone record hrecord (hsame.trans hid) (hlocked hpending).1

variable {number : Nat} {next : BrowserRequest} {requests : Nat → Option BrowserRequest}

theorem update_cases {other : Nat} {rival : BrowserRequest}
    (h : update requests number (some next) other = some rival) :
    (other = number ∧ rival = next) ∨ (other ≠ number ∧ requests other = some rival) := by
  by_cases heq : other = number
  · subst heq
    rw [update_self, Option.some.injEq] at h
    exact .inl ⟨rfl, h.symm⟩
  · rw [update_of_ne heq] at h
    exact .inr ⟨heq, h⟩

variable {after : LoginSystem}

variable (held : Held w)

include held

theorem Held.keeps (keeps : Keeps w s)
    (sessions : after.state.sessions = s.sessions) (requests : after.requests = w.requests)
    (claims : after.claims = w.claims) (writes : after.writes = w.writes)
    (inserted : ∀ sessionId ∈ w.inserted, sessionId ∈ after.inserted) : Held after where
  wellFormed := by
    rw [requests]
    exact held.wellFormed
  inserted := by
    rw [requests]
    exact fun number request hsent => inserted _ (held.inserted number request hsent)
  record := by
    rw [requests, sessions]
    intro number request hsent next hnext hid
    obtain ⟨record, hrecord, hsame, hprof, hmethod, hlocked⟩ := keeps.locked next hnext
    obtain ⟨hprofileId, hbrowser, hfing, hoffers⟩ :=
      held.record number request hsent record hrecord (hsame.trans hid)
    refine ⟨hprof ▸ hprofileId, hmethod ▸ hbrowser, fun hholds hpending => ?_,
      fun hpending => ?_⟩
    · obtain ⟨hbefore, hkept, -⟩ := hlocked hpending
      exact hkept (hfing hholds hbefore)
    · obtain ⟨hbefore, -, hkept⟩ := hlocked hpending
      exact hkept (hoffers hbefore)
  unique := by
    rw [requests]
    exact held.unique
  claimed := by
    rw [claims, requests, sessions]
    intro claim hclaim
    obtain ⟨request, hsent, hs, hcases⟩ := held.claimed claim hclaim
    refine ⟨request, hsent, hs, hcases.imp_right fun hg next hnext hid hpending => ?_⟩
    obtain ⟨record, hrecord, hsame, -, -, hlocked⟩ := keeps.locked next hnext
    exact hg record hrecord (hsame.trans hid) (hlocked hpending).1
  committing := by
    rw [claims, requests]
    exact held.committing
  once := by
    rw [claims]
    exact held.once
  written := by
    rw [claims, requests, writes]
    exact held.written
  writtenOnce := by
    rw [writes]
    exact held.writtenOnce

theorem Held.of_same (state : after.state = w.state)
    (requests : after.requests = w.requests) (claims : after.claims = w.claims)
    (writes : after.writes = w.writes) (inserted : after.inserted = w.inserted) : Held after := by
  obtain ⟨_, _, _, _, _, _, _, _, _⟩ := w
  obtain ⟨_, _, _, _, _, _, _, _, _⟩ := after
  subst state requests claims writes inserted
  exact { held with }

omit held

structure Advances (w : LoginSystem) (s : LoginState) (number : Nat)
    (request next : BrowserRequest) : Prop where
  sent : w.requests number = some request
  sessionId : next.sessionId = request.sessionId
  profileId : next.profileId = request.profileId
  wellFormed : next.WellFormed
  holds : next.Holds → request.Holds
  claimed : (number, request.sessionId) ∈ w.claims → next.phase = .committing ∨
    ∀ record ∈ s.sessions, record.id = request.sessionId → record.state ≠ .pending
  committing : next.phase = .committing → request.phase = .committing
  worker : next.worker = .writing → request.worker = .writing

variable {request : BrowserRequest}

include held

theorem Held.advance (keeps : Keeps w s)
    (advances : Advances w s number request next) :
    Held ((w.setState s).setRequest number next) := by
  have hkept : Held (w.setState s) := held.keeps keeps rfl rfl rfl rfl fun _ h => h
  have hreqs : ∀ {other rival},
      ((w.setState s).setRequest number next).requests other = some rival →
        (other = number ∧ rival = next) ∨ (other ≠ number ∧ w.requests other = some rival) :=
    update_cases
  have hself : ((w.setState s).setRequest number next).requests number = some next :=
    update_self ..
  have hother : ∀ {other}, other ≠ number →
      ((w.setState s).setRequest number next).requests other = w.requests other :=
    fun hne => update_of_ne hne ..
  exact {
    wellFormed := by
      intro other rival h
      rcases hreqs h with ⟨rfl, rfl⟩ | ⟨-, hsent⟩
      · exact advances.wellFormed
      · exact held.wellFormed other rival hsent
    inserted := by
      intro other rival h
      rcases hreqs h with ⟨rfl, rfl⟩ | ⟨-, hsent⟩
      · rw [advances.sessionId]
        exact held.inserted other request advances.sent
      · exact held.inserted other rival hsent
    record := by
      intro other rival h record hrecord hid
      rcases hreqs h with ⟨rfl, rfl⟩ | ⟨-, hsent⟩
      · obtain ⟨hprof, hmethod, hfing, hoffers⟩ :=
          hkept.record other request advances.sent record hrecord (hid.trans advances.sessionId)
        exact ⟨hprof.trans advances.profileId.symm, hmethod,
          fun hholds => hfing (advances.holds hholds), hoffers⟩
      · exact hkept.record other rival hsent record hrecord hid
    unique := by
      intro first holder second rival hfirst hsecond hholds hrival hsame
      rcases hreqs hfirst with ⟨hone, rfl⟩ | ⟨-, hsent⟩ <;>
        rcases hreqs hsecond with ⟨htwo, rfl⟩ | ⟨-, hrivalSent⟩
      · exact hone.trans htwo.symm
      · rw [hone]
        exact held.unique _ request _ rival advances.sent hrivalSent (advances.holds hholds)
          hrival (advances.sessionId.symm.trans hsame)
      · rw [htwo]
        exact held.unique _ holder _ request hsent advances.sent hholds (advances.holds hrival)
          (hsame.trans advances.sessionId)
      · exact held.unique _ holder _ rival hsent hrivalSent hholds hrival hsame
    claimed := by
      intro claim hclaim
      obtain ⟨holder, hsent, hs, hcases⟩ := hkept.claimed claim hclaim
      by_cases heq : claim.1 = number
      · have hreq : holder = request := by
          change w.requests claim.1 = some holder at hsent
          rw [heq, advances.sent, Option.some.injEq] at hsent
          exact hsent.symm
        subst hreq
        refine ⟨next, heq ▸ hself, advances.sessionId.trans hs, ?_⟩
        rw [← hs]
        refine advances.claimed ?_
        rw [hs, ← heq]
        exact hclaim
      · exact ⟨holder, (hother heq).trans hsent, hs, hcases⟩
    committing := by
      intro other rival h hphase
      rcases hreqs h with ⟨rfl, rfl⟩ | ⟨-, hsent⟩
      · rw [advances.sessionId]
        exact held.committing other request advances.sent (advances.committing hphase)
      · exact held.committing other rival hsent hphase
    once := held.once
    written := by
      intro write hwrite
      obtain ⟨hclaim, hworker⟩ := held.written write hwrite
      refine ⟨hclaim, fun rival h => ?_⟩
      rcases hreqs h with ⟨heq, rfl⟩ | ⟨-, hsent⟩
      · exact fun hwriting => hworker request (heq ▸ advances.sent) (advances.worker hwriting)
      · exact hworker rival hsent
    writtenOnce := held.writtenOnce }

theorem Held.claim_gone (sent : w.requests number = some request)
    (phase : request.phase ≠ .committing) (claim : (number, request.sessionId) ∈ w.claims) :
    ∀ record ∈ w.state.sessions, record.id = request.sessionId → record.state ≠ .pending := by
  obtain ⟨holder, hsent, -, hcases⟩ := held.claimed _ claim
  rw [sent, Option.some.injEq] at hsent
  subst hsent
  exact hcases.resolve_left phase

omit held

variable {record : SessionRecord}

include held in
theorem Held.owner (coherent : Coherent w)
    (sent : w.requests number = some request) (hrecord : record ∈ w.state.sessions)
    (hid : record.id = request.sessionId) (hpending : record.state = .pending) :
    w.state.owner request.profileId = some request.sessionId := by
  obtain ⟨hprof, hmethod, -⟩ := held.record number request sent record hrecord hid
  have hlive : record.isLive = true := by
    by_contra hdead
    rw [not_eq_true] at hdead
    have hweb := coherent.revived record hrecord hdead hpending
    rw [hmethod] at hweb
    cases hweb
  have hheld := (coherent.live record hrecord hlive).2
  rw [hprof, hid] at hheld
  exact (lookup_eq_some_iff coherent.keys).mpr hheld

theorem session_of_mem (coherent : Coherent w) (hrecord : record ∈ w.state.sessions) :
    w.state.session record.id = some record := by
  cases hfound : w.state.session record.id with
  | none =>
    unfold LoginState.session at hfound
    rw [List.find?_eq_none] at hfound
    exact (hfound record hrecord (by simp)).elim
  | some other =>
    obtain ⟨hother, hid⟩ := session_some hfound
    rw [coherent.eq_of_id hother hrecord hid]

include held

theorem Held.completing (coherent : Coherent w)
    (sent : w.requests number = some request) (holds : request.Holds)
    (hrecord : record ∈ w.state.sessions) (hid : record.id = request.sessionId)
    (hpending : record.state = .pending) :
    w.state.owner request.profileId = some request.sessionId ∧
      w.state.session request.sessionId = some record ∧
      record.profileId = request.profileId ∧ record.method = .accessKeyBrowser ∧
        record.finishing = true := by
  obtain ⟨hprof, hmethod, hfing, -⟩ := held.record number request sent record hrecord hid
  exact ⟨held.owner coherent sent hrecord hid hpending, hid ▸ session_of_mem coherent hrecord,
    hprof, hmethod, hfing holds hpending⟩

theorem Held.complete_settles (coherent : Coherent w)
    (sent : w.requests number = some request) (holds : request.Holds) (saved : Bool) (now : Nat) :
    ∀ next ∈ (w.state.completeClaimedSession request.sessionId request.profileId saved
      now).1.sessions, next.id = request.sessionId → next.state ≠ .pending := by
  intro next hnext hid hpending
  have hkeeps := coherent.keeps_completeClaimedSession request.sessionId request.profileId saved now
  obtain ⟨record, hrecord, hsame, -, -, hlocked⟩ := hkeeps.locked next hnext
  have hbefore := (hlocked hpending).1
  obtain ⟨howner, hfound, hprof, -, hfing⟩ :=
    held.completing coherent sent holds hrecord (hsame.trans hid) hbefore
  unfold completeClaimedSession at hnext
  rw [if_pos ?_] at hnext
  · change next ∈ (w.state.modify _ _).sessions at hnext
    unfold LoginState.modify at hnext
    rw [mem_map] at hnext
    obtain ⟨other, hother, rfl⟩ := hnext
    split at hid
    · rename_i hchos
      rw [if_pos hchos] at hpending
      cases saved <;> cases hpending
    · rename_i hchos
      exact hchos (by simpa using hid)
  · rw [howner, hfound]
    simp [hprof, isPending_iff.mpr hbefore, hfing]

theorem Held.put (keeps : Keeps w s) (first : record.id ∉ w.inserted)
    (state : after.state = s.put record) (requests : after.requests = w.requests)
    (claims : after.claims = w.claims) (writes : after.writes = w.writes)
    (inserted : after.inserted = record.id :: w.inserted) : Held after := by
  have hkept : Held (w.setState s) := held.keeps keeps rfl rfl rfl rfl fun _ h => h
  have hcases : ∀ {next}, next ∈ after.state.sessions → next.id ∈ w.inserted →
      next ∈ s.sessions := by
    intro next hnext hid
    rw [state] at hnext
    rcases mem_cons.mp hnext with rfl | hnext
    · exact (first hid).elim
    · exact mem_of_mem_filter hnext
  exact {
    wellFormed := by
      rw [requests]
      exact held.wellFormed
    inserted := by
      rw [requests, inserted]
      exact fun number request hsent =>
        mem_cons_of_mem _ (held.inserted number request hsent)
    record := by
      rw [requests]
      intro number request hsent next hnext hid
      have hk := held.inserted number request hsent
      exact hkept.record number request hsent next (hcases hnext (hid ▸ hk)) hid
    unique := by
      rw [requests]
      exact held.unique
    claimed := by
      rw [claims, requests]
      intro claim hclaim
      obtain ⟨request, hsent, hs, hg⟩ := hkept.claimed claim hclaim
      refine ⟨request, hsent, hs, hg.imp_right fun hg next hnext hid => ?_⟩
      have hk := held.inserted _ request hsent
      rw [hs, ← hid] at hk
      exact hg next (hcases hnext hk) hid
    committing := by
      rw [claims, requests]
      exact held.committing
    once := by
      rw [claims]
      exact held.once
    written := by
      rw [claims, requests, writes]
      exact held.written
    writtenOnce := by
      rw [writes]
      exact held.writtenOnce }

omit held

theorem Held.change (unlocked : String → Prop) (held : Held w)
    (changed : ∀ next ∈ s.sessions, ∃ record ∈ w.state.sessions, record.id = next.id ∧
      record.profileId = next.profileId ∧ record.method = next.method ∧
      (record.method = .accessKeyBrowser → next.state = .pending → record.state = .pending) ∧
      (next.state = .pending → record.offers = true → next.offers = true) ∧
      (¬ unlocked next.id → next.state = .pending → record.finishing = true →
        next.finishing = true))
    (free : ∀ number request, w.requests number = some request →
      unlocked request.sessionId → ¬ request.Holds) : Held (w.setState s) where
  wellFormed := held.wellFormed
  inserted := held.inserted
  record := by
    intro number request hsent next hnext hid
    obtain ⟨record, hrecord, hsame, hprof, hmethod, hpending, hoffers, hkept⟩ :=
      changed next hnext
    obtain ⟨hprofileId, hbrowser, hfing, hoffered⟩ :=
      held.record number request hsent record hrecord (hsame.trans hid)
    refine ⟨hprof ▸ hprofileId, hmethod ▸ hbrowser, fun hholds hs => ?_,
      fun hs => hoffers hs (hoffered (hpending hbrowser hs))⟩
    have hother : ¬ unlocked next.id := fun h => free number request hsent (hid ▸ h) hholds
    exact hkept hother hs (hfing hholds (hpending hbrowser hs))
  unique := held.unique
  claimed := by
    intro claim hclaim
    obtain ⟨request, hsent, hsess, hg⟩ := held.claimed claim hclaim
    refine ⟨request, hsent, hsess, hg.imp_right fun hg next hnext hid hs => ?_⟩
    obtain ⟨record, hrecord, hsame, -, -, hpending, -⟩ := changed next hnext
    have hbrowser := (held.record _ request hsent record hrecord
      (hsame.trans (hid.trans hsess.symm))).2.1
    exact hg record hrecord (hsame.trans hid) (hpending hbrowser hs)
  committing := held.committing
  once := held.once
  written := held.written
  writtenOnce := held.writtenOnce

section

variable (held : Held w) (coherent : Coherent w)
include held coherent

theorem Held.confirming {poller : Poller}
    (polls : w.pollers sessionId = some poller) : Held (w.confirming sessionId poller) := by
  have hweb := (coherent.poller sessionId (by rw [polls]; rfl)).2.2
  have hheld : Held (w.setState (w.state.setState sessionId .pending
      "QR scanned; waiting for confirmation.")) := by
    refine held.change (fun _ => False) ?_ fun _ _ _ h => h.elim
    intro next hnext
    unfold LoginState.setState LoginState.modify at hnext
    rw [mem_map] at hnext
    obtain ⟨record, hrecord, rfl⟩ := hnext
    refine ⟨record, hrecord, ?_⟩
    split
    · rename_i hid
      refine ⟨rfl, rfl, rfl, fun hbrowser => ?_, fun _ => id, fun _ _ => id⟩
      rw [hweb record hrecord (by simpa using hid)] at hbrowser
      cases hbrowser
    · exact ⟨rfl, rfl, rfl, fun _ => id, fun _ => id, fun _ _ => id⟩
  exact hheld.of_same rfl rfl rfl rfl rfl

theorem Held.spawn
    (sent : w.requests number = some request) (stage : request.stage = .verifying) :
    Held (w.setRequest number { request with stage := .waiting, worker := .queued }) := by
  have hwell := held.wellFormed number request sent
  obtain ⟨hact, -⟩ := hwell.verifying stage
  refine held.advance (Keeps.refl coherent)
    { sent := sent, sessionId := rfl, profileId := rfl, wellFormed := ?_, holds := ?_,
      claimed := ?_, committing := id, worker := nofun }
  · exact { verifying := nofun
            dropping := nofun
            waiting := fun _ => .inr rfl
            writing := fun h => by simp at h
            committing := fun h => by simp [hact] at h }
  · exact fun _ => .inl hact
  · exact fun hclaim => .inr (held.claim_gone sent (by simp [hact]) hclaim)

theorem Held.drop
    (sent : w.requests number = some request) : Held (w.dropRequest number request) := by
  have hwell := held.wellFormed number request sent
  unfold LoginSystem.dropRequest
  split
  · rename_i hact
    refine held.advance (Keeps.refl coherent)
      { sent := sent, sessionId := rfl, profileId := rfl, wellFormed := ?_, holds := ?_,
        claimed := ?_, committing := nofun, worker := id }
    · refine { verifying := nofun, dropping := fun _ => rfl, waiting := nofun, writing := ?_,
               committing := nofun }
      intro hworker
      have hcomm := hwell.writing hworker
      rw [hact] at hcomm
      cases hcomm
    · exact fun _ => .inl hact
    · exact fun hclaim => .inr (held.claim_gone sent (by simp [hact]) hclaim)
  · rename_i hm
    refine held.advance (Keeps.refl coherent)
      { sent := sent, sessionId := rfl, profileId := rfl, wellFormed := ?_, holds := ?_,
        claimed := ?_, committing := id, worker := id }
    · exact { verifying := nofun
              dropping := nofun
              waiting := fun h => (hm h).elim
              writing := hwell.writing
              committing := hwell.committing }
    · rintro (h | h | h)
      · exact (hm h).elim
      · cases h
      · exact .inr (.inr h)
    · intro hclaim
      by_cases hcomm : request.phase = .committing
      · exact .inl hcomm
      · exact .inr (held.claim_gone sent hcomm hclaim)

theorem Held.fail (now : Nat)
    (sent : w.requests number = some request) (phase : request.phase ≠ .committing) :
    Held (w.failCompletion number request now) := by
  have hwell := held.wellFormed number request sent
  have hkeeps := coherent.keeps_completeClaimedSession request.sessionId request.profileId false now
  refine held.advance hkeeps
    { sent := sent, sessionId := rfl, profileId := rfl, wellFormed := ?_, holds := ?_,
      claimed := ?_, committing := nofun, worker := id }
  · exact { verifying := nofun, dropping := nofun, waiting := nofun,
            writing := fun h => (phase (hwell.writing h)).elim, committing := nofun }
  · rintro (h | h | h) <;> cases h
  · exact fun hclaim => .inr (hkeeps.gone (held.claim_gone sent phase hclaim))

theorem Held.finishWorker {saved : Bool} (panicked : Bool)
    (now : Nat) (sent : w.requests number = some request)
    (worker : request.worker = .written saved ∨ request.worker = .writing ∧ panicked = true) :
    Held (w.finishWorker number request saved panicked now) := by
  have hwell := held.wellFormed number request sent
  have hcomm : request.phase = .committing :=
    hwell.writing (worker.symm.imp (fun h => h.1) fun h => ⟨saved, h⟩)
  refine held.advance (coherent.keeps_completeClaimedSession request.sessionId
    request.profileId (saved && !panicked) now)
    { sent := sent, sessionId := rfl, profileId := rfl, wellFormed := ?_, holds := ?_,
      claimed := ?_, committing := nofun, worker := nofun }
  · refine { verifying := ?_, dropping := ?_, waiting := nofun, writing := ?_, committing := nofun }
    · intro h
      have hact := (hwell.verifying h).1
      rw [hcomm] at hact
      cases hact
    · intro h
      have hcanc := hwell.dropping h
      rw [hcomm] at hcanc
      cases hcanc
    · rintro (h | ⟨_, h⟩) <;> cases h
  · exact fun _ => .inr (.inr hcomm)
  · exact fun _ =>
      .inr (held.complete_settles coherent sent (.inr (.inr hcomm)) _ now)

theorem Held.resume {outcome : Option CommitOutcome}
    (now : Nat) (sent : w.requests number = some request)
    (worker : request.worker = .ended outcome) :
    Held (w.resumeCompletion number request outcome now) := by
  have hwell := held.wellFormed number request sent
  have hphase : request.phase ≠ .committing := by
    intro h
    rcases hwell.committing h with h | ⟨_, h⟩ <;> rw [worker] at h <;> cases h
  have hend : Held (w.setRequest number { request with phase := .finished, stage := .ended }) := by
    refine held.advance (Keeps.refl coherent)
      { sent := sent, sessionId := rfl, profileId := rfl, wellFormed := ?_, holds := ?_,
        claimed := fun hclaim => .inr (held.claim_gone sent hphase hclaim),
        committing := nofun, worker := id }
    · exact { verifying := nofun, dropping := nofun, waiting := nofun,
              writing := fun h => (hphase (hwell.writing h)).elim, committing := nofun }
    · rintro (h | h | h) <;> cases h
  unfold LoginSystem.resumeCompletion
  split
  · exact hend
  · exact hend
  · exact held.fail coherent now sent hphase
  · exact held.fail coherent now sent hphase

theorem Held.refuse
    (sent : w.requests number = some request) (worker : request.worker = .queued) :
    Held (w.setRequest number { request with worker := .ended (some .refused) }) := by
  have hwell := held.wellFormed number request sent
  have hphase : request.phase ≠ .committing := by
    intro h
    rcases hwell.committing h with h | ⟨_, h⟩ <;> rw [worker] at h <;> cases h
  refine held.advance (Keeps.refl coherent)
    { sent := sent, sessionId := rfl, profileId := rfl, wellFormed := ?_, holds := id,
      claimed := fun hclaim => .inr (held.claim_gone sent hphase hclaim), committing := id,
      worker := nofun }
  refine { verifying := fun h => (hwell.not_verifying worker h).elim, dropping := hwell.dropping,
           waiting := hwell.waiting, writing := ?_, committing := fun h => (hphase h).elim }
  rintro (h | ⟨_, h⟩) <;> cases h

end

include held

theorem Held.unclaimed (sent : w.requests number = some request)
    (phase : request.phase = .active)
    (completing : w.state.isCompleting request.sessionId request.profileId = true) :
    request.sessionId ∉ w.claims.map Prod.snd := by
  intro hm
  obtain ⟨claim, hclaim, hs⟩ := mem_map.mp hm
  obtain ⟨rival, hrival, hsame, hcases⟩ := held.claimed claim hclaim
  rcases hcases with hcomm | hg
  · have heq := held.unique _ rival _ request hrival sent (.inr (.inr hcomm))
      (.inl phase) (hsame.trans hs)
    rw [heq, sent, Option.some.injEq] at hrival
    rw [← hrival, phase] at hcomm
    cases hcomm
  · obtain ⟨record, hrecord, hid, -, hcond⟩ := owned_session completing
    simp only [and_eq_true] at hcond
    exact hg record hrecord (hid.trans hs.symm) (isPending_iff.mp hcond.1.2)

theorem Held.commit (sent : w.requests number = some request)
    (worker : request.worker = .queued) (phase : request.phase = .active)
    (completing : w.state.isCompleting request.sessionId request.profileId = true) :
    Held { w.setRequest number { request with phase := .committing, worker := .writing } with
      claims := (number, request.sessionId) :: w.claims } := by
  have hwell := held.wellFormed number request sent
  have hunclaimed := held.unclaimed sent phase completing
  have hreqs : ∀ {other rival}, update w.requests number (some { request with
      phase := .committing, worker := .writing }) other = some rival →
        (other = number ∧ rival = { request with phase := .committing, worker := .writing }) ∨
          (other ≠ number ∧ w.requests other = some rival) :=
    update_cases
  have hholds : request.Holds := .inl phase
  exact {
    wellFormed := by
      intro other rival h
      rcases hreqs h with ⟨rfl, rfl⟩ | ⟨-, hsent⟩
      · exact { verifying := fun h => (hwell.not_verifying worker h).elim
                dropping := fun h => (hwell.not_dropping phase h).elim
                waiting := nofun, writing := fun _ => rfl, committing := fun _ => .inl rfl }
      · exact held.wellFormed other rival hsent
    inserted := by
      intro other rival h
      rcases hreqs h with ⟨rfl, rfl⟩ | ⟨-, hsent⟩
      · exact held.inserted other request sent
      · exact held.inserted other rival hsent
    record := by
      intro other rival h record hrecord hid
      rcases hreqs h with ⟨rfl, rfl⟩ | ⟨-, hsent⟩
      · obtain ⟨hprof, hmethod, hfing, hoffers⟩ :=
          held.record other request sent record hrecord hid
        exact ⟨hprof, hmethod, fun _ => hfing hholds, hoffers⟩
      · exact held.record other rival hsent record hrecord hid
    unique := by
      intro first holder second rival hfirst hsecond hholder hrival hsame
      rcases hreqs hfirst with ⟨hone, rfl⟩ | ⟨-, hsent⟩ <;>
        rcases hreqs hsecond with ⟨htwo, rfl⟩ | ⟨-, hrivalSent⟩
      · exact hone.trans htwo.symm
      · rw [hone]
        exact held.unique _ request _ rival sent hrivalSent hholds hrival hsame
      · rw [htwo]
        exact held.unique _ holder _ request hsent sent hholder hholds hsame
      · exact held.unique _ holder _ rival hsent hrivalSent hholder hrival hsame
    claimed := by
      intro claim hclaim
      rcases mem_cons.mp hclaim with rfl | hclaim
      · exact ⟨_, update_self .., rfl, .inl rfl⟩
      obtain ⟨holder, hsent, hs, hcases⟩ := held.claimed claim hclaim
      have hne : claim.1 ≠ number := by
        intro heq
        rw [heq, sent, Option.some.injEq] at hsent
        rw [← hsent] at hs
        exact hunclaimed (mem_map.mpr ⟨claim, hclaim, hs.symm⟩)
      exact ⟨holder, (update_of_ne hne ..).trans hsent, hs, hcases⟩
    committing := by
      intro other rival h hphase
      rcases hreqs h with ⟨rfl, rfl⟩ | ⟨-, hsent⟩
      · exact mem_cons_self
      · exact mem_cons_of_mem _ (held.committing other rival hsent hphase)
    once := nodup_cons.mpr ⟨hunclaimed, held.once⟩
    written := by
      intro write hwrite
      obtain ⟨hclaim, hworker⟩ := held.written write hwrite
      refine ⟨mem_cons_of_mem _ hclaim, fun rival h => ?_⟩
      rcases hreqs h with ⟨heq, rfl⟩ | ⟨-, hsent⟩
      · obtain ⟨holder, hsent, hs, -⟩ := held.claimed write hclaim
        rw [heq, sent, Option.some.injEq] at hsent
        rw [← hsent] at hs
        exact (hunclaimed (mem_map.mpr ⟨write, hclaim, hs.symm⟩)).elim
      · exact hworker rival hsent
    writtenOnce := held.writtenOnce }

theorem Held.claim (coherent : Coherent w) (now : Nat)
    (sent : w.requests number = some request) (worker : request.worker = .queued) :
    Held (w.claimCommit number request now) := by
  have hwell := held.wellFormed number request sent
  have hrefu := held.refuse coherent sent worker
  have hkeeps := coherent.keeps_expireBrowserCompletion request.sessionId request.profileId now
  unfold LoginSystem.claimCommit
  split
  · exact hrefu
  rename_i hphase
  rw [not_ne_iff] at hphase
  simp only
  split
  · refine held.advance hkeeps
      { sent := sent, sessionId := rfl, profileId := rfl, wellFormed := ?_, holds := ?_,
        claimed := ?_, committing := nofun, worker := nofun }
    · refine { verifying := fun h => (hwell.not_verifying worker h).elim
               dropping := fun h => (hwell.not_dropping hphase h).elim
               waiting := nofun, writing := ?_, committing := nofun }
      rintro (h | ⟨_, h⟩) <;> cases h
    · rintro (h | h | h)
      · cases h
      · exact (hwell.not_dropping hphase h).elim
      · cases h
    · exact fun hclaim =>
        .inr (hkeeps.gone (held.claim_gone sent (by rw [hphase]; nofun) hclaim))
  · split
    · rename_i hcompleting
      exact held.commit sent worker hphase hcompleting
    · exact hrefu

theorem Held.write (coherent : Coherent w) (saved : Bool)
    (sent : w.requests number = some request) (worker : request.worker = .writing) :
    Held (w.writeCredentials number request saved) := by
  have hwell := held.wellFormed number request sent
  have hphase := hwell.writing (.inl worker)
  have hclaim := held.committing number request sent hphase
  have hmov : Held (w.setRequest number { request with worker := .written saved }) := by
    refine held.advance (Keeps.refl coherent)
      { sent := sent, sessionId := rfl, profileId := rfl, wellFormed := ?_, holds := id,
        claimed := fun _ => .inl hphase, committing := id, worker := nofun }
    refine { verifying := ?_, dropping := hwell.dropping, waiting := hwell.waiting,
             writing := fun _ => hphase, committing := fun _ => .inr ⟨saved, rfl⟩ }
    intro h
    have hact := (hwell.verifying h).1
    rw [hphase] at hact
    cases hact
  cases saved with
  | false => exact hmov
  | true =>
    refine { hmov with written := ?_, writtenOnce := ?_ }
    · intro write hwrite
      rcases mem_cons.mp hwrite with rfl | hwrite
      · refine ⟨hclaim, fun rival h => ?_⟩
        change update w.requests number _ number = some rival at h
        rw [update_self, Option.some.injEq] at h
        subst h
        exact nofun
      · exact hmov.written write hwrite
    · refine nodup_cons.mpr ⟨fun hm => ?_, held.writtenOnce⟩
      obtain ⟨write, hwrite, hs⟩ := mem_map.mp hm
      obtain ⟨hwrit, hworker⟩ := held.written write hwrite
      have heq : write = (number, request.sessionId) :=
        inj_on_of_nodup_map held.once hwrit hclaim hs
      subst heq
      exact hworker request sent worker

omit held

theorem begun {before s : LoginState} {call : LoginState.BrowserCall} {now : Nat}
    (h : before.beginBrowserCompletion call now = (s, some record)) :
    record ∈ (before.expireSessions now).sessions ∧ record.id = call.sessionId ∧
      record.method = .accessKeyBrowser ∧ record.state = .pending ∧ record.finishing = false ∧
      record.offers = true ∧ s = (before.expireSessions now).modify call.sessionId fun record =>
        { record with finishing := true } := by
  unfold beginBrowserCompletion at h
  simp only at h
  split at h
  · cases h
  rename_i found hfound
  obtain ⟨hm, hid⟩ := session_some hfound
  split at h
  · rename_i hcond
    cases h
    simp only [and_eq_true, decide_eq_true_eq, not_eq_true'] at hcond
    obtain ⟨⟨⟨⟨⟨⟨⟨⟨hmethod, hpending⟩, hfree⟩, -⟩, horigin⟩, hcapability⟩, -⟩, hpath⟩, hticket⟩ :=
      hcond
    refine ⟨hm, hid, hmethod, isPending_iff.mp hpending, hfree, ?_, rfl⟩
    unfold offers
    rw [beq_iff_eq.mp horigin, beq_iff_eq.mp hcapability, hpath, hticket]
    rfl
  · cases h

include held in
theorem Held.begin (coherent : Coherent w) (call : LoginState.BrowserCall)
    (now : Nat) (fresh : w.requests number = none) : Held (w.beginCompletion number call now) := by
  have hkeeps := coherent.keeps_beginBrowserCompletion call now
  have hexp := coherent.keeps_expireSessions now
  have hbefore : Held (w.setState (w.state.expireSessions now)) :=
    held.keeps hexp rfl rfl rfl rfl fun _ h => h
  unfold LoginSystem.beginCompletion
  split
  · rename_i s heq
    rw [heq] at hkeeps
    exact held.keeps hkeeps rfl rfl rfl rfl fun _ h => h
  · rename_i s record heq
    rw [heq] at hkeeps
    have hkept : Held (w.setState s) := held.keeps hkeeps rfl rfl rfl rfl fun _ h => h
    obtain ⟨hrecord, hid, hmethod, hpending, hfree, hoffers, rfl⟩ := begun heq
    have hunheld : ∀ other rival, w.requests other = some rival → rival.Holds →
        rival.sessionId ≠ call.sessionId := by
      intro other rival hsent hholds hsame
      have hfing := (hbefore.record other rival hsent record hrecord
        (hid.trans hsame.symm)).2.2.1 hholds hpending
      rw [hfree] at hfing
      cases hfing
    have hsent : ∀ {other rival}, update w.requests number _ other = some rival →
        (other = number ∧ rival = ⟨call.sessionId, record.profileId, .active, .verifying,
          .absent⟩) ∨ (other ≠ number ∧ w.requests other = some rival) :=
      update_cases
    exact {
      wellFormed := by
        intro other rival h
        rcases hsent h with ⟨rfl, rfl⟩ | ⟨-, hrival⟩
        · refine { verifying := fun _ => ⟨rfl, rfl⟩, dropping := nofun,
                   waiting := fun _ => .inl rfl, writing := ?_, committing := nofun }
          rintro (h | ⟨_, h⟩) <;> cases h
        · exact held.wellFormed other rival hrival
      inserted := by
        intro other rival h
        rcases hsent h with ⟨rfl, rfl⟩ | ⟨-, hrival⟩
        · exact hid ▸ hexp.coherent.insertedSession record hrecord
        · exact held.inserted other rival hrival
      record := by
        intro other rival h next hnext hnextId
        rcases hsent h with ⟨rfl, rfl⟩ | ⟨-, hrival⟩
        · change next ∈ (LoginState.modify _ _ _).sessions at hnext
          unfold LoginState.modify at hnext
          rw [mem_map] at hnext
          obtain ⟨found, hfound, rfl⟩ := hnext
          split at hnextId
          · rename_i hchos
            have hrecordEq := hexp.coherent.eq_of_id hfound hrecord
              ((beq_iff_eq.mp hchos).trans hid.symm)
            rw [if_pos hchos, hrecordEq]
            exact ⟨rfl, hmethod, fun _ _ => rfl, fun _ => hoffers⟩
          · rename_i hother
            exact (hother (by simpa using hnextId)).elim
        · exact hkept.record other rival hrival next hnext hnextId
      unique := by
        intro first holder second rival hfirst hsecond hholder hrival hsame
        rcases hsent hfirst with ⟨hone, rfl⟩ | ⟨-, hfirstSent⟩ <;>
          rcases hsent hsecond with ⟨htwo, rfl⟩ | ⟨-, hsecondSent⟩
        · exact hone.trans htwo.symm
        · exact (hunheld second rival hsecondSent hrival hsame.symm).elim
        · exact (hunheld first holder hfirstSent hholder hsame).elim
        · exact held.unique _ holder _ rival hfirstSent hsecondSent hholder hrival hsame
      claimed := by
        intro claim hclaim
        obtain ⟨holder, hholder, hcases⟩ := hkept.claimed claim hclaim
        have hne : claim.1 ≠ number := by
          rintro rfl
          rw [show w.requests claim.1 = some holder from hholder] at fresh
          cases fresh
        exact ⟨holder, (update_of_ne hne ..).trans hholder, hcases⟩
      committing := by
        intro other rival h hphase
        rcases hsent h with ⟨rfl, rfl⟩ | ⟨-, hrival⟩
        · cases hphase
        · exact held.committing other rival hrival hphase
      once := held.once
      written := by
        intro write hwrite
        obtain ⟨hclaim, hworker⟩ := held.written write hwrite
        refine ⟨hclaim, fun rival h => ?_⟩
        rcases hsent h with ⟨rfl, rfl⟩ | ⟨-, hrival⟩
        · exact nofun
        · exact hworker rival hrival
      writtenOnce := held.writtenOnce }

theorem mem_cancelBrowserCompletion {before : LoginState} {profileId : String} {now : Nat}
    {next : SessionRecord}
    (hnext : next ∈ (before.cancelBrowserCompletion sessionId profileId now).sessions) :
    ∃ middle ∈ (before.expireBrowserCompletion sessionId profileId now).1.sessions,
      middle.id = next.id ∧ middle.profileId = next.profileId ∧ middle.method = next.method ∧
        middle.state = next.state ∧ middle.offers = next.offers ∧
        (next.id ≠ sessionId → next = middle) := by
  unfold cancelBrowserCompletion at hnext
  simp only at hnext
  split at hnext
  · unfold LoginState.modify at hnext
    rw [mem_map] at hnext
    obtain ⟨middle, hmid, rfl⟩ := hnext
    refine ⟨middle, hmid, ?_⟩
    split
    · rename_i hchos
      exact ⟨rfl, rfl, rfl, rfl, rfl, fun h => (h (beq_iff_eq.mp hchos)).elim⟩
    · exact ⟨rfl, rfl, rfl, rfl, rfl, fun _ => rfl⟩
  · exact ⟨next, hnext, rfl, rfl, rfl, rfl, rfl, fun _ => rfl⟩

include held

theorem Held.cancel (coherent : Coherent w) (now : Nat)
    (sent : w.requests number = some request) (stage : request.stage = .dropping) :
    Held (w.cancelCompletion number request now) := by
  have hwell := held.wellFormed number request sent
  have hcanc := hwell.dropping stage
  have hphase : request.phase ≠ .committing := by
    rw [hcanc]
    nofun
  have hended : Held (w.setRequest number { request with stage := .ended }) := by
    refine held.advance (Keeps.refl coherent)
      { sent := sent, sessionId := rfl, profileId := rfl, wellFormed := ?_, holds := ?_,
        claimed := fun hclaim => .inr (held.claim_gone sent hphase hclaim),
        committing := id, worker := id }
    · exact { verifying := nofun, dropping := nofun
              waiting := fun h => by simp [hcanc] at h
              writing := hwell.writing, committing := hwell.committing }
    · rintro (h | h | h)
      · simp [hcanc] at h
      · cases h
      · exact (hphase h).elim
  have hexp := coherent.keeps_expireBrowserCompletion request.sessionId request.profileId now
  refine hended.change (fun sessionId => sessionId = request.sessionId) ?_ ?_
  · intro next hnext
    obtain ⟨middle, hm, hid, hprof, hmethod, hs, hoffers, hother⟩ :=
      mem_cancelBrowserCompletion hnext
    obtain ⟨record, hrecord, hsame, hsameProfile, hsameMethod, hlocked⟩ :=
      hexp.locked middle hm
    refine ⟨record, hrecord, hsame.trans hid, hsameProfile.trans hprof,
      hsameMethod.trans hmethod, fun _ hpending => (hlocked (hs.trans hpending)).1,
      fun hpending => ?_, fun hne hpending => ?_⟩
    · rw [← hoffers]
      exact (hlocked (hs.trans hpending)).2.2
    · rw [hother hne]
      exact (hlocked (hs.trans hpending)).2.1
  · intro other rival h hsame hholds
    rcases update_cases h with ⟨rfl, rfl⟩ | ⟨hne, hsent⟩
    · rcases hholds with h | h | h
      · simp [hcanc] at h
      · cases h
      · exact hphase h
    · exact hne (held.unique _ rival _ request hsent sent hholds (.inr (.inl stage)) hsame)

theorem Held.startReady (coherent : Coherent w)
    (start : LoginSystem.SessionStart) (method : LoginMethod) (message : String)
    (first : start.sessionId ∉ w.inserted) : Held (w.startReady start method message) := by
  have hkept := coherent.keeps_get start.now
  have hroom := hkept.trans (hkept.coherent.keeps_evictWhile
    (fun s : LoginState => decide (maxLoginSessions ≤ s.sessions.length))
    (w.state.get start.now).sessions.length)
  unfold LoginSystem.startReady insertTerminal
  simp only
  split
  · exact held.keeps hroom rfl rfl rfl rfl fun _ => mem_cons_of_mem _
  · exact held.put hroom first rfl rfl rfl rfl rfl

theorem Held.reserve (coherent : Coherent w) (profileId operationId : String)
    (now : Nat) : Held (w.reserve profileId operationId now) := by
  have hkept := coherent.keeps_get now
  have hroom := hkept.trans (hkept.coherent.keeps_evictWhile isFull
    (w.state.get now).sessions.length)
  unfold LoginSystem.reserve reserveProfile
  simp only
  split
  · exact held.keeps hkept rfl rfl rfl rfl fun _ h => h
  · split <;> exact held.keeps hroom rfl rfl rfl rfl fun _ h => h

omit held

variable {event : LoginEvent}

include held

theorem held_step (coherent : Coherent w) (step : LoginStep w event after) :
    Held after := by
  have hsame := Keeps.refl coherent
  have hkept : ∀ {after : LoginSystem} {s : LoginState}, Keeps w s →
      after.state.sessions = s.sessions → after.requests = w.requests →
        after.claims = w.claims → after.writes = w.writes → after.inserted = w.inserted →
          Held after :=
    fun keeps sessions requests claims writes inserted =>
      held.keeps keeps sessions requests claims writes fun _ h => inserted ▸ h
  cases step with
  | reserve now fresh => exact held.reserve coherent _ _ now
  | endOperation armed | pollWaiting polls stage | pollExpired polls stage
  | pollFailed polls stage | pollSucceeded polls stage => exact hkept hsame rfl rfl rfl rfl rfl
  | startWebQr start ticketKey armed first
  | startAccessKey start messageOrigin capability serverOrigin armed first =>
    exact held.put (coherent.keeps_expireSessions start.now) first rfl rfl rfl rfl rfl
  | startReady start method message armed first =>
    exact held.startReady coherent start method message first
  | get now => exact hkept (coherent.keeps_get now) rfl rfl rfl rfl rfl
  | timer now set => exact hkept (coherent.keeps_expireSession _ now) rfl rfl rfl rfl rfl
  | pollCheck now polls stage =>
    exact hkept (coherent.keeps_expireSessions now) rfl rfl rfl rfl rfl
  | confirming polls stage => exact held.confirming coherent polls
  | pollVerified accountId now polls stage =>
    exact hkept (coherent.keeps_claimWebCommit _ _ accountId now) rfl rfl rfl rfl rfl
  | pollSaved saved now polls stage =>
    exact hkept (coherent.keeps_completeClaimedSession _ _ saved now) rfl rfl rfl rfl rfl
  | pollFinish now polls stage =>
    exact hkept (coherent.keeps_finishWithoutStore _ _ (coherent.finishes _ _ _ polls stage) _
      now) rfl rfl rfl rfl rfl
  | pollAbort polls => exact hkept hsame rfl rfl rfl rfl rfl
  | begin call now fresh => exact held.begin coherent call now fresh
  | fail now sent stage =>
    have hact := ((held.wellFormed _ _ sent).verifying stage).1
    exact held.fail coherent now sent (by rw [hact]; nofun)
  | spawn sent stage => exact held.spawn coherent sent stage
  | drop sent stage => exact held.drop coherent sent
  | cancel now sent stage => exact held.cancel coherent now sent stage
  | claim now sent worker => exact held.claim coherent now sent worker
  | write saved sent worker => exact held.write coherent saved sent worker
  | finishWorker panicked now sent worker =>
    exact held.finishWorker coherent panicked now sent worker
  | resume now sent stage worker => exact held.resume coherent now sent worker

theorem Held.gone_step (coherent : Coherent w) (step : LoginStep w event after)
    (sent : w.requests number = some request)
    (gone : ∀ record ∈ w.state.sessions, record.id = request.sessionId → record.state ≠ .pending) :
    ∀ next ∈ after.state.sessions, next.id = request.sessionId → next.state ≠ .pending := by
  intro next hnext hid
  by_cases careful : Careful w event
  · have hmoves := moves_step coherent step careful
    rcases hmoves.sessions next hnext with ⟨record, hrecord, hsame⟩ | hn
    · have hterm := gone record hrecord (hsame.trans hid)
      rw [hmoves.steady next hnext record hrecord hsame hterm]
      exact hterm
    · exact (hn (hid ▸ held.inserted number request sent)).elim
  · -- The answer to a poll is about a QR session.
    cases step with
    | confirming polls stage =>
      rename_i sessionId poller
      have hweb := (coherent.poller sessionId (by rw [polls]; rfl)).2.2
      change next ∈ (w.state.setState _ _ _).sessions at hnext
      unfold LoginState.setState LoginState.modify at hnext
      rw [mem_map] at hnext
      obtain ⟨record, hrecord, rfl⟩ := hnext
      split at hid
      · rename_i hchos
        have hbrowser := (held.record number request sent record hrecord hid).2.1
        rw [hweb record hrecord (by simpa using hchos)] at hbrowser
        cases hbrowser
      · rename_i hother
        rw [if_neg hother]
        exact gone record hrecord hid
    | _ => exact (careful trivial).elim

omit held

structure Succeeds (request next : BrowserRequest) : Prop where
  sessionId : next.sessionId = request.sessionId
  profileId : next.profileId = request.profileId
  phase : next.phase = .active → request.phase = .active

theorem Succeeds.refl (request : BrowserRequest) : Succeeds request request := ⟨rfl, rfl, id⟩

theorem succeeds_update {other : Nat} {rival : BrowserRequest}
    (sent : requests number = some request) (moves : Succeeds request next)
    (hrival : requests other = some rival) :
    ∃ found, update requests number (some next) other = some found ∧ Succeeds rival found := by
  by_cases heq : other = number
  · subst heq
    rw [sent, Option.some.injEq] at hrival
    subst hrival
    exact ⟨next, update_self .., moves⟩
  · exact ⟨rival, (update_of_ne heq ..).trans hrival, Succeeds.refl rival⟩

theorem request_step (step : LoginStep w event after) (sent : w.requests number = some request) :
    ∃ next, after.requests number = some next ∧ Succeeds request next := by
  cases step with
  | begin call now fresh =>
    rename_i other
    have hne : number ≠ other := by
      rintro rfl
      rw [fresh] at sent
      cases sent
    unfold LoginSystem.beginCompletion
    split
    · exact ⟨request, sent, Succeeds.refl request⟩
    · exact ⟨request, (update_of_ne hne ..).trans sent, Succeeds.refl request⟩
  | fail now other stage => exact succeeds_update other ⟨rfl, rfl, nofun⟩ sent
  | spawn other stage | cancel now other stage => exact succeeds_update other ⟨rfl, rfl, id⟩ sent
  | drop other stage =>
    unfold LoginSystem.dropRequest
    split
    · exact succeeds_update other ⟨rfl, rfl, nofun⟩ sent
    · exact succeeds_update other ⟨rfl, rfl, id⟩ sent
  | claim now other worker =>
    unfold LoginSystem.claimCommit
    split
    · exact succeeds_update other ⟨rfl, rfl, id⟩ sent
    simp only
    split
    · exact succeeds_update other ⟨rfl, rfl, nofun⟩ sent
    · split
      · exact succeeds_update other ⟨rfl, rfl, nofun⟩ sent
      · exact succeeds_update other ⟨rfl, rfl, id⟩ sent
  | write saved other worker => exact succeeds_update other ⟨rfl, rfl, id⟩ sent
  | finishWorker panicked now other worker =>
    exact succeeds_update other ⟨rfl, rfl, nofun⟩ sent
  | resume now other stage worker =>
    unfold LoginSystem.resumeCompletion
    split <;> exact succeeds_update other ⟨rfl, rfl, nofun⟩ sent
  | startReady start method message armed first =>
    exact ⟨request, sent, Succeeds.refl request⟩
  | reserve now fresh => exact ⟨request, sent, Succeeds.refl request⟩
  | _ => exact ⟨request, sent, Succeeds.refl request⟩

theorem claim_step (step : LoginStep w event after) (sent : w.requests number = some request)
    (claims : number ∈ after.claims.map Prod.fst) :
    number ∈ w.claims.map Prod.fst ∨ request.phase = .active ∧
      w.state.isCompleting request.sessionId request.profileId = true := by
  cases step with
  | claim now other worker =>
    unfold LoginSystem.claimCommit at claims
    split at claims
    · exact .inl claims
    rename_i hphase
    simp only at claims
    split at claims
    · exact .inl claims
    split at claims
    · rename_i hcompleting
      rcases mem_cons.mp claims with heq | hm
      · change number = _ at heq
        subst heq
        rw [other, Option.some.injEq] at sent
        subst sent
        exact .inr ⟨not_ne_iff.mp hphase, hcompleting⟩
      · exact .inl hm
    · exact .inl claims
  | begin call now fresh =>
    unfold LoginSystem.beginCompletion at claims
    split at claims <;> exact .inl claims
  | resume now other stage worker =>
    unfold LoginSystem.resumeCompletion at claims
    split at claims <;> exact .inl claims
  | _ => exact .inl claims

include held in
theorem Held.cancelled (coherent : Coherent w)
    (sent : w.requests number = some request) (stage : request.stage = .dropping)
    (hrecord : record ∈ w.state.sessions) (hid : record.id = request.sessionId)
    (hpending : record.state = .pending) (now : Nat) :
    ∃ next ∈ (w.state.cancelBrowserCompletion request.sessionId request.profileId now).sessions,
      next.id = record.id ∧ (record.deadline ≤ now → next.state = .expired) ∧
        (now < record.deadline → next = { record with finishing := false }) := by
  obtain ⟨howner, hfound, hprof, hmethod, hfing⟩ :=
    held.completing coherent sent (.inr (.inl stage)) hrecord hid hpending
  have hmodified : ∀ change : SessionRecord → SessionRecord,
      change record ∈ (w.state.modify request.sessionId change).sessions := by
    intro change
    unfold LoginState.modify
    rw [mem_map]
    exact ⟨record, hrecord, by rw [if_pos (beq_iff_eq.mpr hid)]⟩
  have hcompleting : w.state.isCompleting request.sessionId request.profileId = true := by
    unfold isCompleting
    rw [howner, hfound]
    simp [hprof, hmethod, isPending_iff.mpr hpending, hfing]
  unfold cancelBrowserCompletion expireBrowserCompletion
  by_cases hdue : record.deadline ≤ now
  · rw [if_pos (by
      rw [howner, hfound]
      simp [hprof, hmethod, isPending_iff.mpr hpending, hfing, hdue])]
    refine ⟨{ record.expiredAt now with finishing := false }, ?_, rfl, fun _ => rfl,
      fun hearly => (not_le.mpr hearly hdue).elim⟩
    exact hmodified fun record => { record.expiredAt now with finishing := false }
  · rw [if_neg (by
      rw [howner, hfound]
      simp [hdue])]
    simp only [Bool.not_false, Bool.true_and, hcompleting, if_true]
    refine ⟨{ record with finishing := false }, ?_, rfl, fun hlate => (hdue hlate).elim,
      fun _ => rfl⟩
    exact hmodified fun record => { record with finishing := false }

end

def LoginSystem.Settled (w : LoginSystem) (sessionId : String) : Prop :=
  ∀ record ∈ w.state.sessions, record.id = sessionId → record.state ≠ .pending

theorem held_initial : Held LoginSystem.initial := by
  have hn : ∀ number request, LoginSystem.initial.requests number ≠ some request := nofun
  exact {
    wellFormed := fun number request h => (hn number request h).elim
    inserted := fun number request h => (hn number request h).elim
    record := fun number request h => (hn number request h).elim
    unique := fun number request _ _ h => (hn number request h).elim
    claimed := fun _ h => (not_mem_nil h).elim
    committing := fun number request h => (hn number request h).elim
    once := nodup_nil
    written := fun _ h => (not_mem_nil h).elim
    writtenOnce := nodup_nil }

theorem held_of_run {w : LoginSystem} {events : List LoginEvent}
    (run : Run LoginStep LoginSystem.initial events w) : Held w ∧ Coherent w :=
  run.invariant (fun w => Held w ∧ Coherent w)
    (fun step both => ⟨held_step both.1 both.2 step, coherent_step both.2 step⟩)
    ⟨held_initial, coherent_initial⟩

structure Barred (w : LoginSystem) (number : Nat) (sessionId : String) : Prop where
  held : Held w
  coherent : Coherent w
  unclaimed : number ∉ w.claims.map Prod.fst
  sent : ∃ request, w.requests number = some request ∧ request.sessionId = sessionId ∧
    (request.phase ≠ .active ∨
      ∀ record ∈ w.state.sessions, record.id = sessionId → record.state ≠ .pending)

theorem Barred.step {w after : LoginSystem} {event : LoginEvent} {number : Nat}
    {sessionId : String} (barred : Barred w number sessionId) (step : LoginStep w event after) :
    Barred after number sessionId := by
  obtain ⟨request, hsent, rfl, hcases⟩ := barred.sent
  obtain ⟨next, hnext, hsucceeds⟩ := request_step step hsent
  refine { held := held_step barred.held barred.coherent step
           coherent := coherent_step barred.coherent step
           unclaimed := fun hclaim => ?_
           sent := ⟨next, hnext, hsucceeds.sessionId, ?_⟩ }
  · rcases claim_step step hsent hclaim with hbefore | ⟨hact, hcompleting⟩
    · exact barred.unclaimed hbefore
    rcases hcases with hphase | hg
    · exact hphase hact
    · obtain ⟨record, hrecord, hid, -, hcond⟩ := owned_session hcompleting
      simp only [and_eq_true] at hcond
      exact hg record hrecord hid (isPending_iff.mp hcond.1.2)
  · refine hcases.imp (fun hphase hact => hphase (hsucceeds.phase hact)) fun hg => ?_
    exact barred.held.gone_step barred.coherent step hsent hg

def droppedStart : LoginSystem.SessionStart where
  profileId := "default"
  sessionId := "session-b"
  credentialPath := "credentials.json"
  expectedAccountId := some 7
  now := 0

def droppedCall : LoginState.BrowserCall where
  sessionId := "session-b"
  requestOrigin := "https://cache.example"
  capability := "capability"

def droppedReserved : LoginSystem := LoginSystem.initial.reserve "default" "session-b" 0

def droppedStarted : LoginSystem :=
  droppedReserved.startAccessKey droppedStart "https://login.example" "capability"
    "https://cache.example"

def droppedBegun : LoginSystem := droppedStarted.beginCompletion 0 droppedCall 1

def droppedRequest : BrowserRequest where
  sessionId := "session-b"
  profileId := "default"
  phase := .active
  stage := .verifying
  worker := .absent

def dropped : LoginSystem := droppedBegun.dropRequest 0 droppedRequest

theorem dropped_run :
    Run LoginStep LoginSystem.initial
      [.reserve "default" "session-b", .started "session-b", .begin 0, .drop 0] dropped := by
  have hreserved : Run LoginStep LoginSystem.initial [.reserve "default" "session-b"]
      droppedReserved :=
    Run.single (LoginStep.reserve 0 (by decide))
  have hs : LoginStep droppedReserved (.started "session-b") droppedStarted :=
    LoginStep.startAccessKey droppedStart _ _ _ (by decide) (by decide)
  have hbegun : LoginStep droppedStarted (.begin 0) droppedBegun :=
    LoginStep.begin droppedCall 1 rfl
  have hsent : droppedBegun.requests 0 = some droppedRequest := by decide
  have hdropped : LoginStep droppedBegun (.drop 0) dropped := LoginStep.drop hsent (.inl rfl)
  exact Run.snoc (Run.snoc (Run.snoc hreserved hs) hbegun) hdropped

/-- At most one live session for each profile, in every run. -/
theorem one_live_login_per_profile {w : LoginSystem} {events : List LoginEvent}
    (run : Run LoginStep LoginSystem.initial events w) :
    w.state.sessions.length ≤ maxLoginSessions ∧
    (w.state.sessions.map SessionRecord.id).Nodup ∧
    ∀ a ∈ w.state.sessions, ∀ b ∈ w.state.sessions, a.isLive = true → b.isLive = true →
      a.profileId = b.profileId → a = b := by
  have coherent := (held_of_run run).2
  refine ⟨?_, coherent.ids, fun a ha b hb hlive hlive' hprofile => ?_⟩
  · rw [← List.length_map SessionRecord.id, ← List.toFinset_card_of_nodup coherent.ids]
    exact (Finset.card_le_card Finset.subset_union_left).trans coherent.room
  · apply coherent.eq_of_id ha hb
    have hsame := List.inj_on_of_nodup_map coherent.keys (coherent.live a ha hlive).2
      (coherent.live b hb hlive').2 hprofile
    exact congrArg Prod.snd hsame

theorem one_live_login_per_profile_dropped :
    dropped.state.sessions.length ≤ maxLoginSessions :=
  (one_live_login_per_profile dropped_run).1

end NetPlayer.Login
