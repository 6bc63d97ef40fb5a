import NetPlayer.Login.Coherence

/-!
# Runs of login sessions

Every step keeps the reservations coherent. A settled session keeps its state as long as no answer
of the provider that a QR code was scanned arrives after the session was settled.
-/

namespace NetPlayer.Login

open List Finset Function LoginSystem

open Function (update)
open LoginState
open Transition (Run Guarded)

structure Preserves (w : LoginSystem) (s : LoginState) : Prop where
  coherent : Coherent (w.setState s)
  ids : ∀ after ∈ s.sessions, ∃ record ∈ w.state.sessions, record.id = after.id
  steady : ∀ after ∈ s.sessions, ∀ record ∈ w.state.sessions, record.id = after.id →
    record.state ≠ .pending → after.state = record.state
  pending : ∀ after ∈ s.sessions, after.state = .pending →
    ∃ record ∈ w.state.sessions, record.id = after.id ∧ record.state = .pending ∧
      record.isLive = after.isLive
  active : ∀ entry ∈ s.activeProfiles, entry ∈ w.state.activeProfiles

/-- The session has all that a browser request is checked against. -/
def SessionRecord.offers (record : SessionRecord) : Bool :=
  record.serverOrigin.isSome && record.capability.isSome && record.credentialPath.isSome &&
    record.accessTicket.isSome

/-- The change also lets no browser session go that is being completed. -/
structure Keeps (w : LoginSystem) (s : LoginState) : Prop extends Preserves w s where
  locked : ∀ after ∈ s.sessions, ∃ record ∈ w.state.sessions, record.id = after.id ∧
    record.profileId = after.profileId ∧ record.method = after.method ∧
    (after.state = .pending → record.state = .pending ∧
      (record.finishing = true → after.finishing = true) ∧
        (record.offers = true → after.offers = true))

section

variable {w : LoginSystem} {s : LoginState}

theorem Keeps.refl (coherent : Coherent w) : Keeps w w.state where
  coherent := coherent
  ids := fun after h => ⟨after, h, rfl⟩
  steady := by
    intro after hafter record hrec hid _
    rw [coherent.eq_of_id hrec hafter hid]
  pending := fun after hafter hpend => ⟨after, hafter, rfl, hpend, rfl⟩
  active := fun _ h => h
  locked := fun after hafter => ⟨after, hafter, rfl, rfl, rfl, fun hpend => ⟨hpend, id, id⟩⟩

variable {middle after : LoginState}

theorem Preserves.trans (first : Preserves w middle)
    (second : Preserves (w.setState middle) after) : Preserves w after where
  coherent := second.coherent
  ids := by
    intro last hl
    obtain ⟨between, hbetween, hid⟩ := second.ids last hl
    obtain ⟨record, hrec, hsame⟩ := first.ids between hbetween
    exact ⟨record, hrec, hsame.trans hid⟩
  steady := by
    intro last hl record hrec hid hterm
    obtain ⟨between, hbetween, hsame⟩ := second.ids last hl
    have hstate := first.steady between hbetween record hrec (hid.trans hsame.symm) hterm
    rw [second.steady last hl between hbetween hsame (hstate ▸ hterm), hstate]
  pending := by
    intro last hl hpend
    obtain ⟨between, hbetween, hid, hstate, hlive⟩ := second.pending last hl hpend
    obtain ⟨record, hrec, hsame, hb, hsameLive⟩ := first.pending between hbetween hstate
    exact ⟨record, hrec, hsame.trans hid, hb, hsameLive.trans hlive⟩
  active := fun entry he => first.active entry (second.active entry he)

theorem Keeps.trans (first : Keeps w middle) (second : Keeps (w.setState middle) after) :
    Keeps w after where
  toPreserves := first.toPreserves.trans second.toPreserves
  locked := by
    intro last hl
    obtain ⟨between, hbetween, hid, hprof, hmethod, hpend⟩ := second.locked last hl
    obtain ⟨record, hrec, hsame, hsameProfile, hsameMethod, hb⟩ :=
      first.locked between hbetween
    refine ⟨record, hrec, hsame.trans hid, hsameProfile.trans hprof,
      hsameMethod.trans hmethod, fun h => ?_⟩
    obtain ⟨hmid, hlocked, hoffers⟩ := hpend h
    obtain ⟨hfst, hfirstLocked, hfirstOffers⟩ := hb hmid
    exact ⟨hfst, hlocked ∘ hfirstLocked, hoffers ∘ hfirstOffers⟩

theorem Coherent.keeps_settles {chosen : SessionRecord → Bool} (coherent : Coherent w)
    (settles : Settles w.state s chosen) : Keeps w s where
  coherent := coherent.settles settles
  ids := by
    intro after hafter
    obtain ⟨record, hrec, hid, -⟩ := settles.mem hafter
    exact ⟨record, hrec, hid.symm⟩
  steady := by
    intro after hafter record hrec hid hterm
    obtain ⟨other, hother, hsame, -, -, ⟨hchos, -⟩ | ⟨-, rfl⟩⟩ := settles.mem hafter
    · rw [coherent.eq_of_id hrec hother (hid.trans hsame)] at hterm
      exact (hterm (settles.pending other hother hchos)).elim
    · rw [coherent.eq_of_id hrec hother hid]
  pending := by
    intro after hafter hpend
    obtain ⟨record, hrec, -, -, -, ⟨-, -, hstate⟩ | ⟨-, rfl⟩⟩ := settles.mem hafter
    · exact (hstate hpend).elim
    · exact ⟨after, hrec, rfl, hpend, rfl⟩
  active := fun entry he => ((settles.active entry).mp he).1
  locked := by
    intro after hafter
    obtain ⟨record, hrec, hid, hprof, hmethod, ⟨-, -, hstate⟩ | ⟨-, rfl⟩⟩ :=
      settles.mem hafter
    · exact ⟨record, hrec, hid.symm, hprof.symm, hmethod.symm, fun h => (hstate h).elim⟩
    · exact ⟨after, hrec, rfl, rfl, rfl, fun h => ⟨h, id, id⟩⟩

theorem Coherent.keeps_forgets (coherent : Coherent w) (forgets : Forgets w.state s) :
    Keeps w s where
  coherent := coherent.forgets forgets
  ids := fun after hafter => ⟨after, forgets.sublist.subset hafter, rfl⟩
  steady := by
    intro after hafter record hrec hid _
    rw [coherent.eq_of_id hrec (forgets.sublist.subset hafter) hid]
  pending := fun after hafter hpend =>
    ⟨after, forgets.sublist.subset hafter, rfl, hpend, rfl⟩
  active := fun entry he => forgets.active ▸ he
  locked := fun after hafter =>
    ⟨after, forgets.sublist.subset hafter, rfl, rfl, rfl, fun h => ⟨h, id, id⟩⟩

variable {sessionId : String} {change : SessionRecord → SessionRecord} (coherent : Coherent w)
  (hchange : ∀ record, (change record).id = record.id ∧
    (change record).profileId = record.profileId ∧ (change record).method = record.method ∧
      (change record).isLive = record.isLive ∧ (change record).state = record.state)

include coherent hchange in
theorem Coherent.preserves_modify : Preserves w (w.state.modify sessionId change) := by
  have hfrom : ∀ after ∈ (w.state.modify sessionId change).sessions,
      ∃ record ∈ w.state.sessions, record.id = after.id ∧ after.state = record.state ∧
        after.isLive = record.isLive := by
    intro after hafter
    unfold LoginState.modify at hafter
    rw [List.mem_map] at hafter
    obtain ⟨record, hrec, rfl⟩ := hafter
    refine ⟨record, hrec, ?_⟩
    split
    · exact ⟨(hchange record).1.symm, (hchange record).2.2.2.2, (hchange record).2.2.2.1⟩
    · exact ⟨rfl, rfl, rfl⟩
  refine { coherent := coherent.modify hchange, ids := ?_, steady := ?_, pending := ?_,
           active := fun _ h => h }
  · intro after hafter
    obtain ⟨record, hrec, hid, -⟩ := hfrom after hafter
    exact ⟨record, hrec, hid⟩
  · intro after hafter record hrec hid _
    obtain ⟨other, hother, hsame, hstate, -⟩ := hfrom after hafter
    rw [hstate, coherent.eq_of_id hrec hother (hid.trans hsame.symm)]
  · intro after hafter hpend
    obtain ⟨record, hrec, hid, hstate, hlive⟩ := hfrom after hafter
    exact ⟨record, hrec, hid, hstate ▸ hpend, hlive.symm⟩

include coherent hchange in
theorem Coherent.keeps_modify
    (locks : ∀ record, (record.finishing = true → (change record).finishing = true) ∧
      (record.offers = true → (change record).offers = true)) :
    Keeps w (w.state.modify sessionId change) where
  toPreserves := coherent.preserves_modify hchange
  locked := by
    intro after hafter
    unfold LoginState.modify at hafter
    rw [List.mem_map] at hafter
    obtain ⟨record, hrec, rfl⟩ := hafter
    refine ⟨record, hrec, ?_⟩
    split
    · obtain ⟨hid, hprof, hmethod, -, hstate⟩ := hchange record
      exact ⟨hid.symm, hprof.symm, hmethod.symm, fun h => ⟨hstate ▸ h, locks record⟩⟩
    · exact ⟨rfl, rfl, rfl, fun h => ⟨h, id, id⟩⟩

theorem Coherent.keeps_expireSessions (coherent : Coherent w) (now : Nat) :
    Keeps w (w.state.expireSessions now) :=
  coherent.keeps_settles (settles_expireSessions coherent now)

theorem Coherent.keeps_get (coherent : Coherent w) (now : Nat) : Keeps w (w.state.get now) :=
  (coherent.keeps_expireSessions now).trans
    ((coherent.expireSessions now).keeps_forgets (forgets_prune _ now))

theorem Coherent.keeps_evictWhile (coherent : Coherent w) (full : LoginState → Bool)
    (turns : Nat) : Keeps w (LoginState.evictWhile full turns w.state) where
  coherent := Coherent.evictWhile full turns coherent
  ids := fun after hafter =>
    ⟨after, (evicts_evictWhile full turns w.state).sublist.subset hafter, rfl⟩
  steady := by
    intro after hafter record hrec hid _
    have hb := (evicts_evictWhile full turns w.state).sublist.subset hafter
    rw [coherent.eq_of_id hrec hb hid]
  pending := fun after hafter hpend =>
    ⟨after, (evicts_evictWhile full turns w.state).sublist.subset hafter, rfl, hpend, rfl⟩
  active := fun entry he => (evicts_evictWhile full turns w.state).active ▸ he
  locked := fun after hafter =>
    ⟨after, (evicts_evictWhile full turns w.state).sublist.subset hafter, rfl, rfl, rfl,
      fun h => ⟨h, id, id⟩⟩

variable {profileId : String}

theorem owned_session {condition : SessionRecord → Bool}
    (h : (decide (s.owner profileId = some sessionId) &&
      (s.session sessionId).any condition) = true) :
    ∃ record ∈ s.sessions, record.id = sessionId ∧
      s.owner profileId = some record.id ∧ condition record = true := by
  rw [Bool.and_eq_true, decide_eq_true_eq] at h
  obtain ⟨ho, hany⟩ := h
  cases hf : s.session sessionId with
  | none =>
    rw [hf] at hany
    cases hany
  | some record =>
    rw [hf] at hany
    obtain ⟨hm, hid⟩ := session_some hf
    exact ⟨record, hm, hid, hid ▸ ho, hany⟩

variable {record : SessionRecord}

theorem isPending_iff : record.isPending = true ↔ record.state = .pending := by
  exact beq_iff_eq

theorem Coherent.keeps_settleOwner (coherent : Coherent w)
    (owns : w.state.owner profileId = some record.id) (hrec : record ∈ w.state.sessions)
    (hpend : record.state = .pending)
    (hchange : ∀ record, (change record).id = record.id ∧
      (change record).profileId = record.profileId ∧ (change record).method = record.method ∧
        (change record).isLive = false ∧ (change record).state ≠ .pending) :
    Keeps w ((w.state.modify record.id change).releaseProfile profileId record.id) := by
  rw [← coherent.profile_of_owner owns hrec hpend]
  exact coherent.keeps_settles (coherent.settleOne hrec hpend hchange)

variable {state : LoginSessionState}

section

variable (coherent : Coherent w)
include coherent

theorem Coherent.keeps_finishWithoutStore (sessionId profileId : String)
    (terminal : state ≠ .pending) (message : String) (now : Nat) :
    Keeps w (w.state.finishWithoutStore sessionId profileId state message now) := by
  have hexp := coherent.keeps_expireSessions now
  refine hexp.trans ?_
  unfold finishWithoutStore
  simp only
  split
  · rename_i howned
    obtain ⟨record, hrec, rfl, ho, hcond⟩ := owned_session howned
    rw [Bool.and_eq_true, isPending_iff] at hcond
    exact hexp.coherent.keeps_settleOwner ho hrec hcond.1
      fun _ => ⟨rfl, rfl, rfl, rfl, terminal⟩
  · exact Keeps.refl hexp.coherent

theorem Coherent.keeps_expireSession (sessionId : String) (now : Nat) :
    Keeps w (w.state.expireSession sessionId now) := by
  have hexp := coherent.keeps_expireSessions now
  refine hexp.trans ?_
  unfold LoginState.expireSession
  simp only
  split
  · rename_i record hf
    obtain ⟨hrec, rfl⟩ := session_some hf
    split
    · rename_i hpend
      exact hexp.coherent.keeps_settles
        (hexp.coherent.settleOne hrec (isPending_iff.mp hpend)
          fun _ => ⟨rfl, rfl, rfl, rfl, nofun⟩)
    · exact Keeps.refl hexp.coherent
  · exact Keeps.refl hexp.coherent

theorem Coherent.keeps_claimWebCommit (sessionId profileId : String)
    (accountId now : Nat) :
    Keeps w (w.state.claimWebCommit sessionId profileId accountId now).1 := by
  unfold claimWebCommit
  split
  · exact coherent.keeps_modify (fun _ => ⟨rfl, rfl, rfl, rfl, rfl⟩) fun _ => ⟨fun _ => rfl, id⟩
  · exact Keeps.refl coherent

theorem Coherent.keeps_completeClaimedSession
    (sessionId profileId : String) (saved : Bool) (now : Nat) :
    Keeps w (w.state.completeClaimedSession sessionId profileId saved now).1 := by
  unfold completeClaimedSession
  split
  · rename_i howned
    obtain ⟨record, hrec, rfl, ho, hcond⟩ := owned_session howned
    simp only [Bool.and_eq_true, isPending_iff] at hcond
    refine coherent.keeps_settleOwner ho hrec hcond.1.2 fun _ => ?_
    cases saved <;> exact ⟨rfl, rfl, rfl, rfl, nofun⟩
  · exact Keeps.refl coherent

theorem Coherent.keeps_beginBrowserCompletion
    (call : LoginState.BrowserCall) (now : Nat) :
    Keeps w (w.state.beginBrowserCompletion call now).1 := by
  have hexp := coherent.keeps_expireSessions now
  refine hexp.trans ?_
  unfold beginBrowserCompletion
  simp only
  split
  · exact Keeps.refl hexp.coherent
  · split
    · exact hexp.coherent.keeps_modify (fun _ => ⟨rfl, rfl, rfl, rfl, rfl⟩) fun _ => ⟨fun _ => rfl, id⟩
    · exact Keeps.refl hexp.coherent

theorem Coherent.keeps_expireBrowserCompletion
    (sessionId profileId : String) (now : Nat) :
    Keeps w (w.state.expireBrowserCompletion sessionId profileId now).1 := by
  unfold expireBrowserCompletion
  split
  · rename_i howned
    obtain ⟨record, hrec, rfl, ho, hcond⟩ := owned_session howned
    simp only [Bool.and_eq_true, isPending_iff] at hcond
    exact coherent.keeps_settleOwner ho hrec hcond.1.1.2
      fun _ => ⟨rfl, rfl, rfl, rfl, nofun⟩
  · exact Keeps.refl coherent

theorem Coherent.preserves_cancelBrowserCompletion
    (sessionId profileId : String) (now : Nat) :
    Preserves w (w.state.cancelBrowserCompletion sessionId profileId now) := by
  have hexp := coherent.keeps_expireBrowserCompletion sessionId profileId now
  refine hexp.toPreserves.trans ?_
  unfold cancelBrowserCompletion
  simp only
  split
  · exact hexp.coherent.preserves_modify fun _ => ⟨rfl, rfl, rfl, rfl, rfl⟩
  · exact (Keeps.refl hexp.coherent).toPreserves

theorem Coherent.count :
    w.state.sessions.length + w.state.unmaterialized =
      ((w.state.sessions.map SessionRecord.id).toFinset ∪
        (w.state.activeProfiles.map Prod.snd).toFinset).card := by
  have hc : w.state.unmaterialized =
      (((w.state.activeProfiles.filter fun entry =>
        !(w.state.sessions.any fun record => record.id == entry.2)).map Prod.snd).toFinset).card := by
    rw [toFinset_card_of_nodup (coherent.holders.sublist (filter_sublist.map _)),
      length_map, unmaterialized, countP_eq_length_filter]
  have hsessions : w.state.sessions.length =
      ((w.state.sessions.map SessionRecord.id).toFinset).card := by
    rw [toFinset_card_of_nodup coherent.ids, length_map]
  rw [hc, hsessions, ← card_union_of_disjoint]
  · congr 1
    ext id
    simp only [mem_union, mem_toFinset, List.mem_map, List.mem_filter,
      Bool.not_eq_true', any_eq_false, beq_iff_eq]
    constructor
    · rintro (h | ⟨entry, ⟨he, -⟩, rfl⟩)
      · exact .inl h
      · exact .inr ⟨entry, he, rfl⟩
    · rintro (h | ⟨entry, he, rfl⟩)
      · exact .inl h
      · by_cases hs : ∃ record ∈ w.state.sessions, record.id = entry.2
        · exact .inl hs
        · refine .inr ⟨entry, ⟨he, fun record hrec hid => ?_⟩, rfl⟩
          exact hs ⟨record, hrec, hid⟩
  · rw [Finset.disjoint_left]
    intro id hid hother
    simp only [mem_toFinset, List.mem_map, List.mem_filter, Bool.not_eq_true',
      any_eq_false, beq_iff_eq] at hid hother
    obtain ⟨record, hrec, rfl⟩ := hid
    obtain ⟨entry, ⟨-, ha⟩, hid⟩ := hother
    exact ha record hrec hid.symm

theorem Coherent.used_of_held {entry : String × String}
    (h : entry ∈ w.state.activeProfiles) : entry.2 ∈ w.used := by
  rcases coherent.held entry h with hoper | ⟨record, hrec, -, rfl⟩
  · exact coherent.usedOperation entry hoper
  · exact coherent.usedInserted _ (coherent.insertedSession record hrec)

theorem Coherent.use (operationId : String) :
    Coherent { w with used := operationId :: w.used } :=
  { coherent with
    usedInserted := fun id h => List.mem_cons_of_mem _ (coherent.usedInserted id h)
    usedOperation := fun entry h => List.mem_cons_of_mem _ (coherent.usedOperation entry h)
    poller := fun sessionId hpolls =>
      ⟨List.mem_cons_of_mem _ (coherent.poller sessionId hpolls).1,
        (coherent.poller sessionId hpolls).2⟩ }

end

variable {operationId : String}

theorem Coherent.addOperation (coherent : Coherent w) (free : w.state.owner profileId = none)
    (fresh : operationId ∉ w.used) (room : w.state.isFull = false) :
    Coherent { w with
      state := { w.state with
        activeProfiles := (profileId, operationId) :: w.state.activeProfiles }
      operations := (profileId, operationId) :: w.operations
      used := operationId :: w.used } where
  ids := coherent.ids
  keys := by
    rw [List.map_cons, nodup_cons]
    refine ⟨fun hm => ?_, coherent.keys⟩
    obtain ⟨entry, he, hk⟩ := List.mem_map.mp hm
    have hl : w.state.owner entry.1 = some entry.2 :=
      (lookup_eq_some_iff coherent.keys).mpr he
    rw [hk, free] at hl
    cases hl
  holders := by
    rw [List.map_cons, nodup_cons]
    refine ⟨fun hm => ?_, coherent.holders⟩
    obtain ⟨entry, he, hid⟩ := List.mem_map.mp hm
    change entry.2 = operationId at hid
    exact fresh (hid ▸ coherent.used_of_held he)
  live := by
    intro record hrec hlive
    obtain ⟨hpend, hh⟩ := coherent.live record hrec hlive
    exact ⟨hpend, List.mem_cons_of_mem _ hh⟩
  held := by
    intro entry he
    rcases List.mem_cons.mp he with rfl | he
    · exact .inl List.mem_cons_self
    · exact (coherent.held entry he).imp_left (List.mem_cons_of_mem _)
  operation := by
    intro entry he
    rcases List.mem_cons.mp he with rfl | he
    · refine ⟨List.mem_cons_self, fun record hrec hid => ?_⟩
      have hused := coherent.usedInserted _ (coherent.insertedSession record hrec)
      rw [hid] at hused
      exact (fresh hused).elim
    · obtain ⟨hh, ha⟩ := coherent.operation entry he
      exact ⟨List.mem_cons_of_mem _ hh, ha⟩
  finishes := coherent.finishes
  distinct := by
    rw [nodup_cons]
    exact ⟨fun hm => fresh (coherent.usedOperation _ hm), coherent.distinct⟩
  insertedSession := coherent.insertedSession
  usedInserted := fun id h => List.mem_cons_of_mem _ (coherent.usedInserted id h)
  usedOperation := by
    intro entry he
    rcases List.mem_cons.mp he with rfl | he
    · exact List.mem_cons_self
    · exact List.mem_cons_of_mem _ (coherent.usedOperation entry he)
  room := by
    unfold isFull at room
    rw [decide_eq_false_iff_not, coherent.count] at room
    simp only [List.map_cons, toFinset_cons, union_insert]
    have hinsert := card_insert_le operationId
      ((w.state.sessions.map SessionRecord.id).toFinset ∪
        (w.state.activeProfiles.map Prod.snd).toFinset)
    omega
  revived := coherent.revived
  poller := by
    intro sessionId hpolls
    obtain ⟨hused, hopers, hmethod⟩ := coherent.poller sessionId hpolls
    refine ⟨List.mem_cons_of_mem _ hused, ?_, hmethod⟩
    intro entry he
    rcases List.mem_cons.mp he with rfl | he
    · intro heq
      have heq : operationId = sessionId := heq
      exact fresh (heq ▸ hused)
    · exact hopers entry he

theorem Coherent.endOperation (coherent : Coherent w)
    (armed : (profileId, operationId) ∈ w.operations) :
    Coherent (w.endOperation profileId operationId) := by
  have hm : ∀ entry, entry ∈ release w.state.activeProfiles profileId operationId ↔
      entry ∈ w.state.activeProfiles ∧ entry ≠ (profileId, operationId) :=
    fun _ => mem_release coherent.keys
  have hsub := release_sublist w.state.activeProfiles profileId operationId
  have hopers : ∀ entry, entry ∈ (w.endOperation profileId operationId).operations ↔
      entry ∈ w.operations ∧ entry ≠ (profileId, operationId) := by
    intro entry
    change entry ∈ w.operations.filter _ ↔ _
    rw [List.mem_filter, bne_iff_ne]
  exact {
    ids := coherent.ids
    keys := coherent.keys.sublist (hsub.map _)
    holders := coherent.holders.sublist (hsub.map _)
    live := by
      intro record hrec hlive
      obtain ⟨hpend, hh⟩ := coherent.live record hrec hlive
      refine ⟨hpend, (hm _).mpr ⟨hh, fun heq => ?_⟩⟩
      have hdead := ((coherent.operation _ armed).2 record hrec (congrArg Prod.snd heq)).1
      rw [hlive] at hdead
      cases hdead
    held := by
      intro entry he
      obtain ⟨hh, hne⟩ := (hm entry).mp he
      exact (coherent.held entry hh).imp_left fun h => (hopers entry).mpr ⟨h, hne⟩
    operation := by
      intro entry he
      obtain ⟨hoper, hne⟩ := (hopers entry).mp he
      obtain ⟨hh, ha⟩ := coherent.operation entry hoper
      exact ⟨(hm entry).mpr ⟨hh, hne⟩, ha⟩
    distinct := coherent.distinct.sublist filter_sublist
    finishes := coherent.finishes
    insertedSession := coherent.insertedSession
    usedInserted := coherent.usedInserted
    usedOperation := fun entry he =>
      coherent.usedOperation entry ((hopers entry).mp he).1
    room := coherent.room_of_subset (fun _ h => h) fun entry he => ((hm entry).mp he).1
    revived := coherent.revived
    poller := by
      intro sessionId hpolls
      obtain ⟨hused, ha, hmethod⟩ := coherent.poller sessionId hpolls
      exact ⟨hused, fun entry he => ha entry ((hopers entry).mp he).1, hmethod⟩ }

theorem put_sessions (absent : ∀ other ∈ s.sessions, other.id ≠ record.id) :
    (s.put record).sessions = record :: s.sessions := by
  unfold LoginState.put
  simp only [List.cons.injEq, true_and, List.filter_eq_self, bne_iff_ne]
  exact absent

/-- A new session of an operation stands before the ones there are. -/
structure Inserts (w : LoginSystem) (record : SessionRecord) : Prop where
  sessions : (w.state.put record).sessions = record :: w.state.sessions
  ids : ((w.state.put record).sessions.map SessionRecord.id).Nodup
  inserted : ∀ other ∈ (w.state.put record).sessions, other.id ∈ record.id :: w.inserted
  used : ∀ id ∈ record.id :: w.inserted, id ∈ w.used
  room : (((w.state.put record).sessions.map SessionRecord.id).toFinset ∪
    (w.state.activeProfiles.map Prod.snd).toFinset).card ≤ maxLoginSessions

section

variable (coherent : Coherent w)
include coherent

theorem Coherent.inserts
    (armed : (record.profileId, record.id) ∈ w.operations) (first : record.id ∉ w.inserted) :
    Inserts w record := by
  have ha : ∀ other ∈ w.state.sessions, other.id ≠ record.id :=
    fun other hother heq => first (heq ▸ coherent.insertedSession other hother)
  have hs := put_sessions ha
  refine ⟨hs, ?_, ?_, ?_, ?_⟩
  · rw [hs, List.map_cons, nodup_cons]
    refine ⟨fun hm => ?_, coherent.ids⟩
    obtain ⟨other, hother, hid⟩ := List.mem_map.mp hm
    exact ha other hother hid
  · intro other hother
    rw [hs] at hother
    rcases List.mem_cons.mp hother with rfl | hother
    · exact List.mem_cons_self
    · exact List.mem_cons_of_mem _ (coherent.insertedSession other hother)
  · intro id hid
    rcases List.mem_cons.mp hid with rfl | hid
    · exact coherent.usedOperation _ armed
    · exact coherent.usedInserted id hid
  · refine (card_le_card ?_).trans coherent.room
    intro id hid
    rw [hs, mem_union, mem_toFinset, List.map_cons, List.mem_cons] at hid
    rw [mem_union, mem_toFinset]
    rcases hid with (rfl | hid) | hid
    · have hh := (coherent.operation _ armed).1
      exact .inr (mem_toFinset.mpr (List.mem_map.mpr ⟨_, hh, rfl⟩))
    · exact .inl hid
    · exact .inr hid

theorem Coherent.insertLive (record : SessionRecord)
    (armed : (record.profileId, record.id) ∈ w.operations) (first : record.id ∉ w.inserted)
    (live : record.isLive = true) (pending : record.state = .pending) :
    Coherent ((w.insert record.id (w.state.put record)).withoutOperation record.profileId
      record.id) := by
  have hinserts := coherent.inserts armed first
  have hs := hinserts.sessions
  have hopers : ∀ entry,
      entry ∈ ((w.insert record.id (w.state.put record)).withoutOperation record.profileId
        record.id).operations ↔
      entry ∈ w.operations ∧ entry ≠ (record.profileId, record.id) := by
    intro entry
    change entry ∈ w.operations.filter _ ↔ _
    rw [List.mem_filter, bne_iff_ne]
  have hh := (coherent.operation _ armed).1
  exact {
    ids := hinserts.ids
    keys := coherent.keys
    holders := coherent.holders
    live := by
      intro other hother hlive
      change other ∈ (w.state.put record).sessions at hother
      rw [hs] at hother
      rcases List.mem_cons.mp hother with rfl | hother
      · exact ⟨pending, hh⟩
      · exact coherent.live other hother hlive
    held := by
      intro entry he
      rcases coherent.held entry he with hoper | ⟨other, hother, hlive, rfl⟩
      · by_cases heq : entry = (record.profileId, record.id)
        · refine .inr ⟨record, ?_, live, heq⟩
          change record ∈ (w.state.put record).sessions
          rw [hs]
          exact List.mem_cons_self
        · exact .inl ((hopers entry).mpr ⟨hoper, heq⟩)
      · refine .inr ⟨other, ?_, hlive, rfl⟩
        change other ∈ (w.state.put record).sessions
        rw [hs]
        exact List.mem_cons_of_mem _ hother
    operation := by
      intro entry he
      obtain ⟨hoper, hne⟩ := (hopers entry).mp he
      obtain ⟨hentryHeld, hg⟩ := coherent.operation entry hoper
      refine ⟨hentryHeld, fun other hother hid => ?_⟩
      change other ∈ (w.state.put record).sessions at hother
      rw [hs] at hother
      rcases List.mem_cons.mp hother with rfl | hother
      · exact (hne (inj_on_of_nodup_map coherent.holders hentryHeld hh hid.symm)).elim
      · exact hg other hother hid
    distinct := coherent.distinct.sublist filter_sublist
    finishes := coherent.finishes
    insertedSession := hinserts.inserted
    usedInserted := hinserts.used
    usedOperation := fun entry he =>
      coherent.usedOperation entry ((hopers entry).mp he).1
    room := hinserts.room
    revived := by
      intro other hother hdead
      change other ∈ (w.state.put record).sessions at hother
      rw [hs] at hother
      rcases List.mem_cons.mp hother with rfl | hother
      · rw [live] at hdead
        cases hdead
      · exact coherent.revived other hother hdead
    poller := by
      intro sessionId hpolls
      obtain ⟨hused, hfree, hmethod⟩ := coherent.poller sessionId hpolls
      refine ⟨hused, fun entry he => hfree entry ((hopers entry).mp he).1, ?_⟩
      intro other hother hid
      change other ∈ (w.state.put record).sessions at hother
      rw [hs] at hother
      rcases List.mem_cons.mp hother with rfl | hother
      · exact (hfree _ armed hid).elim
      · exact hmethod other hother hid }

theorem Coherent.insertReady (record : SessionRecord)
    (armed : (record.profileId, record.id) ∈ w.operations) (first : record.id ∉ w.inserted)
    (dead : record.isLive = false) (terminal : record.state ≠ .pending) :
    Coherent (w.insert record.id (w.state.put record)) := by
  have hinserts := coherent.inserts armed first
  have hs := hinserts.sessions
  have hh := (coherent.operation _ armed).1
  have hc : ∀ {other}, other ∈ (w.insert record.id (w.state.put record)).state.sessions →
      other = record ∨ other ∈ w.state.sessions := by
    intro other hother
    change other ∈ (w.state.put record).sessions at hother
    rw [hs] at hother
    exact List.mem_cons.mp hother
  exact {
    ids := hinserts.ids
    keys := coherent.keys
    holders := coherent.holders
    live := by
      intro other hother hlive
      rcases hc hother with rfl | hother
      · rw [dead] at hlive
        cases hlive
      · exact coherent.live other hother hlive
    held := by
      intro entry he
      refine (coherent.held entry he).imp_right ?_
      rintro ⟨other, hother, hlive, rfl⟩
      refine ⟨other, ?_, hlive, rfl⟩
      change other ∈ (w.state.put record).sessions
      rw [hs]
      exact List.mem_cons_of_mem _ hother
    operation := by
      intro entry he
      obtain ⟨hentryHeld, hg⟩ := coherent.operation entry he
      refine ⟨hentryHeld, fun other hother hid => ?_⟩
      rcases hc hother with rfl | hother
      · exact ⟨dead, terminal⟩
      · exact hg other hother hid
    distinct := coherent.distinct
    finishes := coherent.finishes
    insertedSession := hinserts.inserted
    usedInserted := hinserts.used
    usedOperation := coherent.usedOperation
    room := hinserts.room
    revived := by
      intro other hother hdead hpend
      rcases hc hother with rfl | hother
      · exact (terminal hpend).elim
      · exact coherent.revived other hother hdead hpend
    poller := by
      intro sessionId hpolls
      obtain ⟨hused, hfree, hmethod⟩ := coherent.poller sessionId hpolls
      refine ⟨hused, hfree, fun other hother hid => ?_⟩
      rcases hc hother with rfl | hother
      · exact (hfree _ armed hid).elim
      · exact hmethod other hother hid }

theorem Coherent.insertNone (used : sessionId ∈ w.used) :
    Coherent (w.insert sessionId w.state) :=
  { coherent with
    insertedSession := fun record hrec =>
      List.mem_cons_of_mem _ (coherent.insertedSession record hrec)
    usedInserted := by
      intro id hid
      rcases List.mem_cons.mp hid with rfl | hid
      · exact used
      · exact coherent.usedInserted id hid }

theorem Coherent.setPoller {poller : Option Poller}
    (polls : poller.isSome = true → (w.pollers sessionId).isSome = true)
    (finishes : ∀ next state, poller = some next → next.stage = .finishing state →
      state ≠ .pending) : Coherent (w.setPoller sessionId poller) :=
  { coherent with
    finishes := by
      intro other next state hpolls
      by_cases heq : other = sessionId
      · subst heq
        change update w.pollers other poller other = some next at hpolls
        rw [update_self] at hpolls
        exact finishes next state hpolls
      · change update w.pollers sessionId poller other = some next at hpolls
        rw [update_of_ne heq] at hpolls
        exact coherent.finishes other next state hpolls
    poller := by
      intro other hother
      by_cases heq : other = sessionId
      · subst heq
        change (update w.pollers other poller other).isSome = true at hother
        rw [update_self] at hother
        exact coherent.poller other (polls hother)
      · change (update w.pollers sessionId poller other).isSome = true at hother
        rw [update_of_ne heq] at hother
        exact coherent.poller other hother }

theorem Coherent.of_same {other : LoginSystem}
    (state : other.state = w.state) (operations : other.operations = w.operations)
    (pollers : other.pollers = w.pollers) (used : other.used = w.used)
    (inserted : other.inserted = w.inserted) : Coherent other := by
  obtain ⟨_, _, _, _, _, _, _, _, _⟩ := w
  obtain ⟨_, _, _, _, _, _, _, _, _⟩ := other
  subst state operations pollers used inserted
  exact { coherent with }

theorem Coherent.reserve (now : Nat) (fresh : operationId ∉ w.used) :
    Coherent (w.reserve profileId operationId now) := by
  have hk := coherent.get now
  have hroom := Coherent.evictWhile isFull (w.state.get now).sessions.length hk
  unfold LoginSystem.reserve reserveProfile
  simp only
  split
  · exact hk.use operationId
  rename_i hfree
  split
  · exact hroom.use operationId
  rename_i hopen
  refine hroom.addOperation ?_ fresh (Bool.eq_false_iff.mpr hopen)
  have hact := (evicts_evictWhile isFull (w.state.get now).sessions.length
    (w.state.get now)).active
  change List.lookup _ (LoginState.evictWhile _ _ _).activeProfiles = none
  rw [hact]
  exact Option.not_isSome_iff_eq_none.mp hfree

end

variable {poller : Poller}

theorem Coherent.confirming (coherent : Coherent w) (polls : w.pollers sessionId = some poller) :
    Coherent (w.confirming sessionId poller) := by
  obtain ⟨-, hfree, hmethod⟩ := coherent.poller sessionId (by rw [polls]; rfl)
  refine Coherent.setPoller ?_ (fun _ => by
    change (w.pollers sessionId).isSome = true
    rw [polls]
    rfl) (fun next state hn hstage => by
      cases hn
      cases hstage)
  refine coherent.touches ?_ ?_
  · refine { sessions := ⟨_, ?_, rfl⟩, active := rfl }
    intro record hrec
    split
    · rename_i hid
      exact ⟨rfl, rfl, rfl, rfl, .inr ⟨rfl, hmethod record hrec (by simpa using hid)⟩⟩
    · exact ⟨rfl, rfl, rfl, rfl, .inl rfl⟩
  · intro entry he after hafter hid
    unfold LoginState.setState LoginState.modify at hafter
    rw [List.mem_map] at hafter
    obtain ⟨record, hrec, rfl⟩ := hafter
    split at hid
    · rename_i hsame
      exact (hfree entry he (hid.symm.trans (by simpa using hsame))).elim
    · rename_i hother
      rw [if_neg hother]
      exact ((coherent.operation entry he).2 record hrec hid).2

variable {start : LoginSystem.SessionStart}

theorem Coherent.startWebQr (coherent : Coherent w) (ticketKey : String)
    (armed : (start.profileId, start.sessionId) ∈ w.operations)
    (first : start.sessionId ∉ w.inserted) : Coherent (w.startWebQr start ticketKey) := by
  have hexp := coherent.expireSessions start.now
  have hins := hexp.insertLive (webQrRecord start ticketKey) armed first
    rfl rfl
  have ha : ∀ other ∈ (w.state.expireSessions start.now).sessions,
      other.id ≠ start.sessionId :=
    fun other hother heq => first (heq ▸ hexp.insertedSession other hother)
  have hh := (coherent.operation _ armed).1
  refine { hins with poller := ?_, finishes := ?_ }
  · intro sessionId hpolls
    by_cases heq : sessionId = start.sessionId
    · subst heq
      refine ⟨coherent.usedOperation _ armed, fun entry he hid => ?_, ?_⟩
      · change entry ∈ w.operations.filter _ at he
        rw [List.mem_filter, bne_iff_ne] at he
        exact he.2 (inj_on_of_nodup_map coherent.holders
          (coherent.operation entry he.1).1 hh hid)
      · intro record hrec hid
        change record ∈ ((w.state.expireSessions start.now).put
          (webQrRecord start ticketKey)).sessions at hrec
        rw [put_sessions ha] at hrec
        rcases List.mem_cons.mp hrec with rfl | hrec
        · rfl
        · exact (ha record hrec hid).elim
    · refine hins.poller sessionId ?_
      change (update w.pollers start.sessionId _ sessionId).isSome = true at hpolls
      rw [update_of_ne heq] at hpolls
      exact hpolls
  · intro sessionId poller state hpolls hstage
    by_cases heq : sessionId = start.sessionId
    · subst heq
      change update w.pollers start.sessionId _ start.sessionId = some poller at hpolls
      rw [update_self, Option.some.injEq] at hpolls
      subst hpolls
      cases hstage
    · change update w.pollers start.sessionId _ sessionId = some poller at hpolls
      rw [update_of_ne heq] at hpolls
      exact coherent.finishes sessionId poller state hpolls hstage

theorem Coherent.startReady (coherent : Coherent w) (method : LoginMethod) (message : String)
    (armed : (start.profileId, start.sessionId) ∈ w.operations)
    (first : start.sessionId ∉ w.inserted) : Coherent (w.startReady start method message) := by
  have hroom := Coherent.evictWhile
    (fun s : LoginState => decide (maxLoginSessions ≤ s.sessions.length))
    (w.state.get start.now).sessions.length (coherent.get start.now)
  unfold LoginSystem.startReady insertTerminal
  simp only
  split
  · exact hroom.insertNone (coherent.usedOperation _ armed)
  · exact hroom.insertReady _ armed first rfl nofun

theorem Coherent.advance (coherent : Coherent w) {stage : PollStage}
    (polls : w.pollers sessionId = some poller) (finishes : stage ≠ .finishing .pending) :
    Coherent (w.setPoller sessionId (some { poller with stage := stage })) := by
  refine coherent.setPoller (fun _ => by rw [polls]; rfl) ?_
  intro next state hn hstage hpend
  cases hn
  rw [hpend] at hstage
  exact finishes hstage

theorem Coherent.endPoller (coherent : Coherent w) (sessionId : String) :
    Coherent (w.setPoller sessionId none) :=
  coherent.setPoller nofun nofun

theorem coherent_initial : Coherent LoginSystem.initial where
  ids := nodup_nil
  keys := nodup_nil
  holders := nodup_nil
  live := fun _ h => (not_mem_nil h).elim
  held := fun _ h => (not_mem_nil h).elim
  operation := fun _ h => (not_mem_nil h).elim
  distinct := nodup_nil
  insertedSession := fun _ h => (not_mem_nil h).elim
  usedInserted := fun _ h => (not_mem_nil h).elim
  usedOperation := fun _ h => (not_mem_nil h).elim
  room := by
    unfold LoginSystem.initial
    rw [map_nil, map_nil, toFinset_nil, empty_union, card_empty]
    exact Nat.zero_le _
  revived := fun _ h => (not_mem_nil h).elim
  poller := by
    intro sessionId h
    cases h
  finishes := by
    intro sessionId poller state h
    cases h

variable (coherent : Coherent w)
include coherent

theorem Coherent.pollCheck (now : Nat)
    (polls : w.pollers sessionId = some poller) : Coherent (w.pollCheck sessionId poller now) := by
  have hexp := coherent.expireSessions now
  unfold LoginSystem.pollCheck
  simp only
  split
  · exact hexp.advance polls nofun
  · exact hexp.endPoller sessionId

theorem Coherent.pollVerified (accountId now : Nat)
    (polls : w.pollers sessionId = some poller) :
    Coherent (w.pollVerified sessionId poller accountId now) := by
  have hclaim := (coherent.keeps_claimWebCommit sessionId poller.profileId accountId now).coherent
  unfold LoginSystem.pollVerified
  simp only
  split
  · exact hclaim.advance polls nofun
  · exact hclaim.advance polls (by simp)

theorem Coherent.pollSaved (saved : Bool) (now : Nat)
    (polls : w.pollers sessionId = some poller) :
    Coherent (w.pollSaved sessionId poller saved now) := by
  have hcompl := (coherent.keeps_completeClaimedSession sessionId poller.profileId saved
    now).coherent
  unfold LoginSystem.pollSaved
  simp only
  split
  · exact hcompl.advance polls (by simp)
  · exact hcompl.advance polls (by simp)

theorem Coherent.pollFinish (now : Nat)
    (polls : w.pollers sessionId = some poller) (stage : poller.stage = .finishing state) :
    Coherent (w.pollFinish sessionId poller state now) := by
  have hfin := (coherent.keeps_finishWithoutStore sessionId poller.profileId
    (coherent.finishes _ _ _ polls stage) (finishMessage state) now).coherent
  exact hfin.endPoller sessionId

theorem Coherent.beginCompletion (number : Nat)
    (call : LoginState.BrowserCall) (now : Nat) : Coherent (w.beginCompletion number call now) := by
  have hbegun := (coherent.keeps_beginBrowserCompletion call now).coherent
  unfold LoginSystem.beginCompletion
  split
  · rename_i heq
    rw [heq] at hbegun
    exact hbegun
  · rename_i heq
    rw [heq] at hbegun
    exact hbegun.of_same rfl rfl rfl rfl rfl

section

variable (number : Nat) (request : BrowserRequest)
include number request

theorem Coherent.failCompletion (now : Nat) : Coherent (w.failCompletion number request now) := by
  have hcompl := (coherent.keeps_completeClaimedSession request.sessionId request.profileId
    false now).coherent
  exact hcompl.of_same rfl rfl rfl rfl rfl

theorem Coherent.cancelCompletion (now : Nat) : Coherent (w.cancelCompletion number request now) := by
  have hcanc := (coherent.preserves_cancelBrowserCompletion request.sessionId
    request.profileId now).coherent
  exact hcanc.of_same rfl rfl rfl rfl rfl

theorem Coherent.claimCommit
    (now : Nat) : Coherent (w.claimCommit number request now) := by
  have hexp := (coherent.keeps_expireBrowserCompletion request.sessionId
    request.profileId now).coherent
  unfold LoginSystem.claimCommit
  split
  · exact coherent.of_same rfl rfl rfl rfl rfl
  simp only
  split
  · exact hexp.of_same rfl rfl rfl rfl rfl
  · split <;> exact coherent.of_same rfl rfl rfl rfl rfl

theorem Coherent.finishWorker
    (saved panicked : Bool) (now : Nat) :
    Coherent (w.finishWorker number request saved panicked now) := by
  have hcompl := (coherent.keeps_completeClaimedSession request.sessionId request.profileId
    (saved && !panicked) now).coherent
  exact hcompl.of_same rfl rfl rfl rfl rfl

theorem Coherent.resumeCompletion (outcome : Option CommitOutcome) (now : Nat) :
    Coherent (w.resumeCompletion number request outcome now) := by
  unfold LoginSystem.resumeCompletion
  split
  · exact coherent.of_same rfl rfl rfl rfl rfl
  · exact coherent.of_same rfl rfl rfl rfl rfl
  · exact coherent.failCompletion number request now
  · exact coherent.failCompletion number request now

end

theorem Coherent.startAccessKey
    (messageOrigin capability serverOrigin : String)
    (armed : (start.profileId, start.sessionId) ∈ w.operations)
    (first : start.sessionId ∉ w.inserted) :
    Coherent (w.startAccessKey start messageOrigin capability serverOrigin) := by
  have hins := (coherent.expireSessions start.now).insertLive
    (browserRecord start messageOrigin capability serverOrigin) armed first rfl rfl
  exact hins.of_same rfl rfl rfl rfl rfl

theorem coherent_step {after : LoginSystem} {event : LoginEvent}
    (step : LoginStep w event after) : Coherent after := by
  cases step with
  | reserve now fresh => exact coherent.reserve now fresh
  | endOperation armed => exact coherent.endOperation armed
  | startWebQr start ticketKey armed first => exact coherent.startWebQr ticketKey armed first
  | startAccessKey start messageOrigin capability serverOrigin armed first =>
    exact coherent.startAccessKey messageOrigin capability serverOrigin armed first
  | startReady start method message armed first =>
    exact coherent.startReady method message armed first
  | get now => exact coherent.get now
  | timer now set => exact (coherent.keeps_expireSession _ now).coherent
  | pollCheck now polls stage => exact coherent.pollCheck now polls
  | pollWaiting polls stage | pollSucceeded polls stage => exact coherent.advance polls nofun
  | confirming polls stage => exact coherent.confirming polls
  | pollExpired polls stage | pollFailed polls stage => exact coherent.advance polls (by simp)
  | pollVerified accountId now polls stage => exact coherent.pollVerified accountId now polls
  | pollSaved saved now polls stage => exact coherent.pollSaved saved now polls
  | pollFinish now polls stage => exact coherent.pollFinish now polls stage
  | pollAbort polls => exact coherent.endPoller _
  | begin call now fresh => exact coherent.beginCompletion _ call now
  | fail now sent stage => exact coherent.failCompletion _ _ now
  | spawn sent stage | drop sent stage => exact coherent.of_same rfl rfl rfl rfl rfl
  | cancel now sent stage => exact coherent.cancelCompletion _ _ now
  | claim now sent worker => exact coherent.claimCommit _ _ now
  | write saved sent worker => exact coherent.of_same rfl rfl rfl rfl rfl
  | finishWorker panicked now sent worker => exact coherent.finishWorker _ _ _ panicked now
  | resume now sent stage worker => exact coherent.resumeCompletion _ _ _ now

end

end NetPlayer.Login
