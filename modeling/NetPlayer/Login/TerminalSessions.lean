import NetPlayer.Login.SessionRuns

/-!
# Terminal sessions stay terminal

A poll may be answered after its session was settled. If none of these answers is that the code was
scanned, a settled session never changes, and the profiles are reserved exactly for the operations
under way and the pending sessions.
-/

namespace NetPlayer.Login

open List LoginState

open Function (update)
open Transition (Run Guarded)

def Careful (w : LoginSystem) : LoginEvent → Prop
  | .confirming sessionId =>
    ∀ record ∈ w.state.sessions, record.id = sessionId → record.state = .pending
  | _ => True

structure Moves (w after : LoginSystem) : Prop where
  sessions : ∀ next ∈ after.state.sessions,
    (∃ record ∈ w.state.sessions, record.id = next.id) ∨ next.id ∉ w.inserted
  steady : ∀ next ∈ after.state.sessions, ∀ record ∈ w.state.sessions, record.id = next.id →
    record.state ≠ .pending → next.state = record.state
  pending : ∀ next ∈ after.state.sessions, next.state = .pending → next.isLive = true ∨
    ∃ record ∈ w.state.sessions, record.state = .pending ∧ record.isLive = next.isLive
  inserted : ∀ sessionId ∈ w.inserted, sessionId ∈ after.inserted
  used : ∀ operationId ∈ w.used, operationId ∈ after.used
  active : ∀ entry ∈ after.state.activeProfiles,
    entry ∈ w.state.activeProfiles ∨ entry.2 ∉ w.used

section

variable {w : LoginSystem} {after : LoginSystem}

theorem Preserves.moves {s : LoginState} (keeps : Preserves w s) (state : after.state = s)
    (inserted : after.inserted = w.inserted) (used : after.used = w.used) : Moves w after where
  sessions := fun next hn => .inl (keeps.ids next (state ▸ hn))
  steady := fun next hn => keeps.steady next (state ▸ hn)
  pending := by
    intro next hn hp
    obtain ⟨record, hrec, -, hs, hl⟩ := keeps.pending next (state ▸ hn) hp
    exact .inr ⟨record, hrec, hs, hl⟩
  inserted := fun _ h => inserted ▸ h
  used := fun _ h => used ▸ h
  active := fun entry he => .inl (keeps.active entry (state ▸ he))

theorem Keeps.moves_put {s : LoginState} {record : SessionRecord} (keeps : Keeps w s)
    (coherent : Coherent w) (first : record.id ∉ w.inserted) (state : after.state = s.put record)
    (inserted : after.inserted = record.id :: w.inserted) (used : after.used = w.used)
    (new : record.state = .pending → record.isLive = true) : Moves w after := by
  have hg : ∀ other ∈ w.state.sessions, other.id ≠ record.id :=
    fun other ho heq => first (heq ▸ coherent.insertedSession other ho)
  have hc : ∀ next ∈ after.state.sessions, next = record ∨ next ∈ s.sessions := by
    intro next hn
    rw [state] at hn
    exact (mem_cons.mp hn).imp_right mem_of_mem_filter
  exact {
    sessions := by
      intro next hn
      rcases hc next hn with rfl | hk
      · exact .inr first
      · exact .inl (keeps.ids next hk)
    steady := by
      intro next hn other ho hid hterm
      rcases hc next hn with rfl | hk
      · exact (hg other ho hid).elim
      · exact keeps.steady next hk other ho hid hterm
    pending := by
      intro next hn hp
      rcases hc next hn with rfl | hk
      · exact .inl (new hp)
      · obtain ⟨other, ho, -, hs, hl⟩ := keeps.pending next hk hp
        exact .inr ⟨other, ho, hs, hl⟩
    inserted := fun _ h => inserted ▸ mem_cons_of_mem _ h
    used := fun _ h => used ▸ h
    active := by
      intro entry he
      rw [state] at he
      exact .inl (keeps.active entry he) }

variable (coherent : Coherent w)
include coherent

theorem moves_reserve {profileId operationId : String} (now : Nat)
    (fresh : operationId ∉ w.used) : Moves w (w.reserve profileId operationId now) := by
  have hk := coherent.keeps_get now
  have hroom := hk.trans (hk.coherent.keeps_evictWhile isFull
    (w.state.get now).sessions.length)
  have hused : ∀ id ∈ w.used, id ∈ operationId :: w.used := fun _ => mem_cons_of_mem _
  have hmoves : ∀ {s : LoginState}, Keeps w s → Moves w (w.setState s) :=
    fun keeps => keeps.moves rfl rfl rfl
  unfold LoginSystem.reserve reserveProfile
  simp only
  split
  · exact { hmoves hk with used := hused }
  split
  · exact { hmoves hroom with used := hused }
  refine { hmoves hroom with used := hused, active := ?_ }
  intro entry he
  rcases mem_cons.mp he with rfl | he
  · exact .inr fresh
  · exact .inl (hroom.active entry he)

theorem moves_endOperation (profileId operationId : String) :
    Moves w (w.endOperation profileId operationId) := by
  have hs : Moves w w := (Keeps.refl coherent).moves rfl rfl rfl
  refine { hs with active := fun entry he => .inl ?_ }
  exact (release_sublist _ _ _).subset he

theorem moves_confirming {sessionId : String} (poller : Poller)
    (careful : ∀ record ∈ w.state.sessions, record.id = sessionId → record.state = .pending) :
    Moves w (w.confirming sessionId poller) := by
  have hc : ∀ next ∈ (w.confirming sessionId poller).state.sessions,
      ∃ record ∈ w.state.sessions, record.id = next.id ∧ next.state = record.state ∧
        next.isLive = record.isLive := by
    intro next hn
    change next ∈ (w.state.setState _ _ _).sessions at hn
    unfold LoginState.setState LoginState.modify at hn
    rw [mem_map] at hn
    obtain ⟨record, hrec, rfl⟩ := hn
    refine ⟨record, hrec, ?_⟩
    split
    · rename_i hid
      exact ⟨rfl, (careful record hrec (by simpa using hid)).symm, rfl⟩
    · exact ⟨rfl, rfl, rfl⟩
  exact {
    sessions := by
      intro next hn
      obtain ⟨record, hrec, hid, -⟩ := hc next hn
      exact .inl ⟨record, hrec, hid⟩
    steady := by
      intro next hn record hrec hid _
      obtain ⟨other, ho, hsame, hs, -⟩ := hc next hn
      rw [hs, coherent.eq_of_id hrec ho (hid.trans hsame.symm)]
    pending := by
      intro next hn hp
      obtain ⟨record, hrec, -, hs, hl⟩ := hc next hn
      exact .inr ⟨record, hrec, hs ▸ hp, hl.symm⟩
    inserted := fun _ h => h
    used := fun _ h => h
    active := fun _ h => .inl h }

theorem moves_startReady (start : LoginSystem.SessionStart)
    (method : LoginMethod) (message : String) (first : start.sessionId ∉ w.inserted) :
    Moves w (w.startReady start method message) := by
  have hk := coherent.keeps_get start.now
  have hroom := hk.trans (hk.coherent.keeps_evictWhile
    (fun s : LoginState => decide (maxLoginSessions ≤ s.sessions.length))
    (w.state.get start.now).sessions.length)
  unfold LoginSystem.startReady insertTerminal
  simp only
  split
  · have hmoves : Moves w (w.setState _) := hroom.moves rfl rfl rfl
    exact { hmoves with inserted := fun _ => mem_cons_of_mem _ }
  · exact hroom.moves_put coherent first rfl rfl rfl nofun

theorem moves_claimCommit (number : Nat) (request : BrowserRequest)
    (now : Nat) : Moves w (w.claimCommit number request now) := by
  have hexp := coherent.keeps_expireBrowserCompletion request.sessionId request.profileId now
  unfold LoginSystem.claimCommit
  split
  · exact (Keeps.refl coherent).moves rfl rfl rfl
  simp only
  split
  · exact hexp.moves rfl rfl rfl
  · split <;> exact (Keeps.refl coherent).moves rfl rfl rfl

theorem moves_beginCompletion (number : Nat)
    (call : LoginState.BrowserCall) (now : Nat) : Moves w (w.beginCompletion number call now) := by
  have hbegun := coherent.keeps_beginBrowserCompletion call now
  unfold LoginSystem.beginCompletion
  split
  · rename_i heq
    rw [heq] at hbegun
    exact hbegun.moves rfl rfl rfl
  · rename_i heq
    rw [heq] at hbegun
    exact hbegun.moves rfl rfl rfl

theorem moves_failCompletion (number : Nat) (request : BrowserRequest)
    (now : Nat) : Moves w (w.failCompletion number request now) :=
  (coherent.keeps_completeClaimedSession request.sessionId request.profileId false now).moves
    rfl rfl rfl

theorem moves_resumeCompletion (number : Nat) (request : BrowserRequest)
    (outcome : Option CommitOutcome) (now : Nat) :
    Moves w (w.resumeCompletion number request outcome now) := by
  unfold LoginSystem.resumeCompletion
  split
  · exact (Keeps.refl coherent).moves rfl rfl rfl
  · exact (Keeps.refl coherent).moves rfl rfl rfl
  · exact moves_failCompletion coherent number request now
  · exact moves_failCompletion coherent number request now

theorem moves_step {event : LoginEvent} (step : LoginStep w event after)
    (careful : Careful w event) : Moves w after := by
  have hs := Keeps.refl coherent
  cases step with
  | reserve now fresh => exact moves_reserve coherent now fresh
  | endOperation armed => exact moves_endOperation coherent _ _
  | startWebQr start ticketKey armed first
  | startAccessKey start messageOrigin capability serverOrigin armed first =>
    exact (coherent.keeps_expireSessions start.now).moves_put coherent first rfl rfl rfl
      fun _ => rfl
  | startReady start method message armed first =>
    exact moves_startReady coherent start method message first
  | get now => exact (coherent.keeps_get now).moves rfl rfl rfl
  | timer now set => exact (coherent.keeps_expireSession _ now).moves rfl rfl rfl
  | pollCheck now polls stage => exact (coherent.keeps_expireSessions now).moves rfl rfl rfl
  | pollWaiting polls stage | pollExpired polls stage | pollFailed polls stage
  | pollSucceeded polls stage | pollAbort polls | spawn sent stage | drop sent stage
  | write saved sent worker => exact hs.moves rfl rfl rfl
  | confirming polls stage => exact moves_confirming coherent _ careful
  | pollVerified accountId now polls stage =>
    exact (coherent.keeps_claimWebCommit _ _ accountId now).moves rfl rfl rfl
  | pollSaved saved now polls stage =>
    exact (coherent.keeps_completeClaimedSession _ _ saved now).moves rfl rfl rfl
  | pollFinish now polls stage =>
    exact (coherent.keeps_finishWithoutStore _ _ (coherent.finishes _ _ _ polls stage) _
      now).moves rfl rfl rfl
  | begin call now fresh => exact moves_beginCompletion coherent _ call now
  | fail now sent stage => exact moves_failCompletion coherent _ _ now
  | cancel now sent stage =>
    exact (coherent.preserves_cancelBrowserCompletion _ _ now).moves rfl rfl rfl
  | claim now sent worker => exact moves_claimCommit coherent _ _ now
  | finishWorker panicked now sent worker =>
    exact (coherent.keeps_completeClaimedSession _ _ _ now).moves rfl rfl rfl
  | resume now sent stage worker => exact moves_resumeCompletion coherent _ _ _ now

end

structure Fenced (w : LoginSystem) : Prop where
  coherent : Coherent w
  live : ∀ record ∈ w.state.sessions, record.state = .pending → record.isLive = true

theorem fenced_step {w after : LoginSystem} {event : LoginEvent} (fenced : Fenced w)
    (step : Guarded LoginStep Careful w event after) : Fenced after where
  coherent := coherent_step fenced.coherent step.1
  live := by
    intro next hn hp
    rcases (moves_step fenced.coherent step.1 step.2).pending next hn hp with
      hl | ⟨record, hrec, hs, hl⟩
    · exact hl
    · rw [← hl]
      exact fenced.live record hrec hs

theorem fenced_of_run {w : LoginSystem} {events : List LoginEvent}
    (run : Run (Guarded LoginStep Careful) LoginSystem.initial events w) : Fenced w :=
  run.invariant Fenced (fun step fenced => fenced_step fenced step)
    { coherent := coherent_initial
      live := fun _ h => (not_mem_nil h).elim }

def LoginSystem.holders (w : LoginSystem) : List (String × String) :=
  w.operations ++ (w.state.sessions.filter SessionRecord.isPending).map fun record =>
    (record.profileId, record.id)

theorem Fenced.mem_holders {w : LoginSystem} (fenced : Fenced w) {entry : String × String} :
    entry ∈ w.state.activeProfiles ↔ entry ∈ w.holders := by
  unfold LoginSystem.holders
  rw [mem_append, mem_map]
  constructor
  · intro he
    refine (fenced.coherent.held entry he).imp_right ?_
    rintro ⟨record, hrec, hl, rfl⟩
    refine ⟨record, mem_filter.mpr ⟨hrec, ?_⟩, rfl⟩
    exact isPending_iff.mpr (fenced.coherent.live record hrec hl).1
  · rintro (hoper | ⟨record, hrec, rfl⟩)
    · exact (fenced.coherent.operation entry hoper).1
    · obtain ⟨hm, hp⟩ := mem_filter.mp hrec
      exact (fenced.coherent.live record hm
        (fenced.live record hm (isPending_iff.mp hp))).2

theorem Fenced.nodup_holders {w : LoginSystem} (fenced : Fenced w) :
    (w.holders.map Prod.fst).Nodup := by
  have hholders : w.holders.Nodup := by
    refine List.Nodup.append fenced.coherent.distinct ?_ ?_
    · refine List.Nodup.map_on ?_ ((fenced.coherent.ids.of_map _).filter _)
      intro record hrec other ho heq
      exact fenced.coherent.eq_of_id (mem_of_mem_filter hrec)
        (mem_of_mem_filter ho) (congrArg Prod.snd heq)
    · intro entry hoper hs
      obtain ⟨record, hrec, rfl⟩ := mem_map.mp hs
      obtain ⟨hm, hp⟩ := mem_filter.mp hrec
      exact ((fenced.coherent.operation _ hoper).2 record hm rfl).2
        (isPending_iff.mp hp)
  refine List.Nodup.map_on ?_ hholders
  intro entry he other ho heq
  exact inj_on_of_nodup_map fenced.coherent.keys (fenced.mem_holders.mpr he)
    (fenced.mem_holders.mpr ho) heq

/-- In a run in which every answer that the code was scanned finds its session pending: a terminal
session never shows another state; the profiles are reserved exactly for the starts and the
pending sessions, one for each profile; a reservation that was released is not held again; and the
sessions and starts are within the limit. -/
theorem login_sessions_terminal {w : LoginSystem} {events : List LoginEvent}
    (run : Run (Guarded LoginStep Careful) LoginSystem.initial events w) :
    (∀ {later last}, Run (Guarded LoginStep Careful) w later last →
      ∀ record ∈ w.state.sessions, record.state ≠ .pending →
        ∀ next ∈ last.state.sessions, next.id = record.id → next.state = record.state) ∧
    (∀ entry, entry ∈ w.state.activeProfiles ↔ entry ∈ w.holders) ∧
    (w.holders.map Prod.fst).Nodup ∧
    (∀ {later last}, Run (Guarded LoginStep Careful) w later last →
      ∀ profileId operationId, operationId ∈ w.used →
        (profileId, operationId) ∉ w.state.activeProfiles →
          (profileId, operationId) ∉ last.state.activeProfiles) ∧
    w.state.sessions.length + w.state.unmaterialized ≤ maxLoginSessions := by
  have fenced := fenced_of_run run
  refine ⟨?_, fun _ => fenced.mem_holders, fenced.nodup_holders, ?_, ?_⟩
  · intro later last rest record hrecord hterminal
    refine (rest.invariant (fun w => Fenced w ∧ record.id ∈ w.inserted ∧
      ∀ next ∈ w.state.sessions, next.id = record.id → next.state = record.state) ?_
      ⟨fenced, fenced.coherent.insertedSession record hrecord, ?_⟩).2.2
    · rintro before after event step ⟨hfenced, hinserted, hstate⟩
      have hmoves := moves_step hfenced.coherent step.1 step.2
      refine ⟨fenced_step hfenced step, hmoves.inserted _ hinserted, fun next hnext hid => ?_⟩
      rcases hmoves.sessions next hnext with ⟨other, hother, hsame⟩ | hnew
      · have hbefore := hstate other hother (hsame.trans hid)
        rw [hmoves.steady next hnext other hother hsame (hbefore ▸ hterminal), hbefore]
      · exact (hnew (hid ▸ hinserted)).elim
    · intro next hnext hid
      rw [fenced.coherent.eq_of_id hnext hrecord hid]
  · intro later last rest profileId operationId hused hreleased
    refine (rest.invariant (fun w => Fenced w ∧ operationId ∈ w.used ∧
      (profileId, operationId) ∉ w.state.activeProfiles) ?_ ⟨fenced, hused, hreleased⟩).2.2
    rintro before after event step ⟨hfenced, hdrawn, hfree⟩
    have hmoves := moves_step hfenced.coherent step.1 step.2
    refine ⟨fenced_step hfenced step, hmoves.used _ hdrawn, fun hheld => ?_⟩
    rcases hmoves.active _ hheld with hbefore | hnew
    · exact hfree hbefore
    · exact hnew hdrawn
  · rw [fenced.coherent.count]
    exact fenced.coherent.room

def lateStart : LoginSystem.SessionStart where
  profileId := "default"
  sessionId := "session-a"
  credentialPath := "credentials.json"
  expectedAccountId := none
  now := 0

def lateReserved : LoginSystem := LoginSystem.initial.reserve "default" "session-a" 0

def lateStarted : LoginSystem := lateReserved.startWebQr lateStart "key"

def latePolled : LoginSystem := lateStarted.pollCheck "session-a" ⟨"default", .checking⟩ 1

def lateExpired : LoginSystem := latePolled.setState (latePolled.state.get (sessionTtl + 1))

def lateConfirmed : LoginSystem := lateExpired.confirming "session-a" ⟨"default", .polling⟩

theorem lateExpired_run :
    Run (Guarded LoginStep Careful) LoginSystem.initial
      [.reserve "default" "session-a", .started "session-a", .pollCheck "session-a", .get]
      lateExpired := by
  have hreserved : Run (Guarded LoginStep Careful) LoginSystem.initial
      [.reserve "default" "session-a"] lateReserved :=
    Run.single ⟨LoginStep.reserve 0 (by decide), trivial⟩
  have hs : LoginStep lateReserved (.started "session-a") lateStarted :=
    LoginStep.startWebQr lateStart "key" (by decide) (by decide)
  have hpolled : LoginStep lateStarted (.pollCheck "session-a") latePolled :=
    LoginStep.pollCheck 1 (by decide) rfl
  exact Run.snoc (Run.snoc (Run.snoc hreserved ⟨hs, trivial⟩) ⟨hpolled, trivial⟩)
    ⟨LoginStep.get (sessionTtl + 1), trivial⟩

/-- An expired session has released its profile and is not counted as a holder. -/
theorem login_sessions_terminal_expired :
    (∀ entry, entry ∈ lateExpired.state.activeProfiles ↔ entry ∈ lateExpired.holders) ∧
      lateExpired.state.sessions.length + lateExpired.state.unmaterialized ≤ maxLoginSessions :=
  ⟨(login_sessions_terminal lateExpired_run).2.1,
    (login_sessions_terminal lateExpired_run).2.2.2.2⟩

/-- The answer to a poll sets an expired session to pending again, without a reservation. -/
theorem expired_session_pending_again :
    Run LoginStep LoginSystem.initial
        [.reserve "default" "session-a", .started "session-a", .pollCheck "session-a", .get]
        lateExpired ∧
      (lateExpired.state.session "session-a").map SessionRecord.state = some .expired ∧
      LoginStep lateExpired (.confirming "session-a") lateConfirmed ∧
      (lateConfirmed.state.session "session-a").map SessionRecord.state = some .pending ∧
      lateConfirmed.state.activeProfiles = [] := by
  refine ⟨lateExpired_run.of_guarded, by decide, ?_, by decide, by decide⟩
  exact LoginStep.confirming (by decide) rfl

end NetPlayer.Login
