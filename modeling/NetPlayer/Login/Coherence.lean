import Mathlib.Data.Finset.Card
import NetPlayer.Login.System

/-!
# Reservations and live sessions

A session is live until it is settled. A profile is reserved exactly for the operations under way
and the live sessions, whatever runs when.
-/

namespace NetPlayer.Login

open List Option LoginState SessionRecord

open Function (update)

variable {active : List (String × String)} {sessionId : String}

theorem lookup_eq_some_iff {profileId : String} (keys : (active.map Prod.fst).Nodup) :
    active.lookup profileId = some sessionId ↔ (profileId, sessionId) ∈ active := by
  induction active with
  | nil => simp
  | cons entry rest ih =>
    obtain ⟨key, value⟩ := entry
    rw [map_cons, nodup_cons] at keys
    obtain ⟨hk, hr⟩ := keys
    by_cases heq : profileId = key
    · subst heq
      rw [lookup_cons_self, mem_cons, some.injEq, Prod.mk.injEq]
      refine ⟨fun h => .inl ⟨rfl, h.symm⟩, ?_⟩
      rintro (⟨-, h⟩ | h)
      · exact h.symm
      · exact (hk (List.mem_map.mpr ⟨_, h, rfl⟩)).elim
    · have hne : (profileId == key) = false := by simpa using heq
      rw [lookup_cons, hne, mem_cons, ih hr]
      simp [heq]

theorem release_sublist (active : List (String × String)) (profileId sessionId : String) :
    (release active profileId sessionId).Sublist active := by
  unfold release
  split
  · exact filter_sublist
  · exact List.Sublist.refl _

variable {entry : String × String}

theorem mem_release {profileId : String} (keys : (active.map Prod.fst).Nodup) :
    entry ∈ release active profileId sessionId ↔
      entry ∈ active ∧ entry ≠ (profileId, sessionId) := by
  unfold release
  split
  · rename_i hh
    rw [lookup_eq_some_iff keys] at hh
    rw [mem_filter, bne_iff_ne]
    refine and_congr_right fun hm => ⟨fun h heq => h (heq ▸ rfl), fun h heq => h ?_⟩
    exact inj_on_of_nodup_map keys hm hh heq
  · rename_i hh
    rw [lookup_eq_some_iff keys] at hh
    exact ⟨fun h => ⟨h, fun heq => hh (heq ▸ h)⟩, fun h => h.1⟩

theorem releaseAll_sublist (records : List SessionRecord) (active : List (String × String)) :
    (records.foldl (fun active record => release active record.profileId record.id)
      active).Sublist active := by
  induction records generalizing active with
  | nil => exact List.Sublist.refl _
  | cons record rest ih => exact (ih _).trans (release_sublist _ _ _)

theorem mem_releaseAll {records : List SessionRecord} (keys : (active.map Prod.fst).Nodup) :
    entry ∈ records.foldl (fun active record => release active record.profileId record.id)
        active ↔ entry ∈ active ∧ ∀ record ∈ records, entry ≠ (record.profileId, record.id) := by
  induction records generalizing active with
  | nil => simp
  | cons record rest ih =>
    have hsub := release_sublist active record.profileId record.id
    rw [foldl_cons, ih (keys.sublist (hsub.map _)), mem_release keys]
    simp [and_assoc]

structure Settles (before after : LoginState) (chosen : SessionRecord → Bool) : Prop where
  pending : ∀ record ∈ before.sessions, chosen record = true → record.state = .pending
  sessions : ∃ change : SessionRecord → SessionRecord,
    (∀ record, (change record).id = record.id ∧ (change record).profileId = record.profileId ∧
      (change record).method = record.method ∧ (change record).isLive = false ∧
        (change record).state ≠ .pending) ∧
    after.sessions = before.sessions.map fun record =>
      if chosen record then change record else record
  active : ∀ entry, entry ∈ after.activeProfiles ↔ entry ∈ before.activeProfiles ∧
    ∀ record ∈ before.sessions, chosen record = true → entry ≠ (record.profileId, record.id)
  sublist : after.activeProfiles.Sublist before.activeProfiles

structure Forgets (before after : LoginState) : Prop where
  sublist : after.sessions.Sublist before.sessions
  live : ∀ record ∈ before.sessions, record.isLive = true → record ∈ after.sessions
  active : after.activeProfiles = before.activeProfiles

structure Touches (before after : LoginState) : Prop where
  sessions : ∃ change : SessionRecord → SessionRecord,
    (∀ record ∈ before.sessions, (change record).id = record.id ∧
      (change record).profileId = record.profileId ∧ (change record).method = record.method ∧
      (change record).isLive = record.isLive ∧
      ((change record).state = record.state ∨
        (change record).state = .pending ∧ record.method = .webQr)) ∧
    after.sessions = before.sessions.map change
  active : after.activeProfiles = before.activeProfiles

structure Coherent (w : LoginSystem) : Prop where
  ids : (w.state.sessions.map SessionRecord.id).Nodup
  keys : (w.state.activeProfiles.map Prod.fst).Nodup
  holders : (w.state.activeProfiles.map Prod.snd).Nodup
  live : ∀ record ∈ w.state.sessions, record.isLive = true →
    record.state = .pending ∧ (record.profileId, record.id) ∈ w.state.activeProfiles
  held : ∀ entry ∈ w.state.activeProfiles, entry ∈ w.operations ∨
    ∃ record ∈ w.state.sessions, record.isLive = true ∧ entry = (record.profileId, record.id)
  operation : ∀ entry ∈ w.operations, entry ∈ w.state.activeProfiles ∧
    ∀ record ∈ w.state.sessions, record.id = entry.2 →
      record.isLive = false ∧ record.state ≠ .pending
  distinct : w.operations.Nodup
  insertedSession : ∀ record ∈ w.state.sessions, record.id ∈ w.inserted
  usedInserted : ∀ sessionId ∈ w.inserted, sessionId ∈ w.used
  usedOperation : ∀ entry ∈ w.operations, entry.2 ∈ w.used
  room : ((w.state.sessions.map SessionRecord.id).toFinset ∪
    (w.state.activeProfiles.map Prod.snd).toFinset).card ≤ maxLoginSessions
  revived : ∀ record ∈ w.state.sessions, record.isLive = false → record.state = .pending →
    record.method = .webQr
  poller : ∀ sessionId, (w.pollers sessionId).isSome = true → sessionId ∈ w.used ∧
    (∀ entry ∈ w.operations, entry.2 ≠ sessionId) ∧
    ∀ record ∈ w.state.sessions, record.id = sessionId → record.method = .webQr
  finishes : ∀ sessionId poller state, w.pollers sessionId = some poller →
    poller.stage = .finishing state → state ≠ .pending

section

variable {w : LoginSystem} {s : LoginState}

variable {record other after : SessionRecord}

theorem Coherent.eq_of_id (coherent : Coherent w)
    (hrec : record ∈ w.state.sessions) (ho : other ∈ w.state.sessions)
    (h : record.id = other.id) : record = other :=
  inj_on_of_nodup_map coherent.ids hrec ho h

/-- Changes that keep the ids of the sessions and take reservations away leave room. -/
theorem Coherent.room_of_subset (coherent : Coherent w)
    (sessions : ∀ id ∈ s.sessions.map SessionRecord.id,
      id ∈ w.state.sessions.map SessionRecord.id)
    (active : ∀ entry ∈ s.activeProfiles, entry ∈ w.state.activeProfiles) :
    ((s.sessions.map SessionRecord.id).toFinset ∪
      (s.activeProfiles.map Prod.snd).toFinset).card ≤ maxLoginSessions := by
  refine (Finset.card_le_card ?_).trans coherent.room
  apply Finset.union_subset_union
  · intro id hid
    rw [List.mem_toFinset] at hid ⊢
    exact sessions id hid
  · intro id hid
    rw [List.mem_toFinset, List.mem_map] at hid ⊢
    obtain ⟨entry, he, rfl⟩ := hid
    exact ⟨entry, active entry he, rfl⟩

variable {chosen : SessionRecord → Bool}

theorem Settles.ids (settles : Settles w.state s chosen) :
    s.sessions.map SessionRecord.id = w.state.sessions.map SessionRecord.id := by
  obtain ⟨change, hchange, hs⟩ := settles.sessions
  rw [hs, List.map_map]
  apply map_congr_left
  intro record _
  simp only [Function.comp]
  split
  · exact (hchange record).1
  · rfl

theorem Settles.mem (settles : Settles w.state s chosen) (h : after ∈ s.sessions) :
    ∃ record ∈ w.state.sessions, after.id = record.id ∧
      after.profileId = record.profileId ∧ after.method = record.method ∧
      (chosen record = true ∧ after.isLive = false ∧ after.state ≠ .pending ∨
        chosen record = false ∧ after = record) := by
  obtain ⟨change, hchange, hsess⟩ := settles.sessions
  rw [hsess, List.mem_map] at h
  obtain ⟨record, hrec, rfl⟩ := h
  refine ⟨record, hrec, ?_⟩
  cases hchos : chosen record with
  | true =>
    rw [if_pos rfl]
    obtain ⟨hid, hprof, hmeth, hl, hs⟩ := hchange record
    exact ⟨hid, hprof, hmeth, .inl ⟨rfl, hl, hs⟩⟩
  | false =>
    rw [if_neg (by simp)]
    exact ⟨rfl, rfl, rfl, .inr ⟨rfl, rfl⟩⟩

theorem Settles.keeps (settles : Settles w.state s chosen)
    (h : record ∈ w.state.sessions) (hchos : chosen record = false) : record ∈ s.sessions := by
  obtain ⟨change, -, hs⟩ := settles.sessions
  rw [hs, List.mem_map]
  exact ⟨record, h, by rw [hchos]; rfl⟩

theorem Coherent.settles (coherent : Coherent w) (settles : Settles w.state s chosen) :
    Coherent (w.setState s) where
  ids := settles.ids ▸ coherent.ids
  keys := coherent.keys.sublist (settles.sublist.map _)
  holders := coherent.holders.sublist (settles.sublist.map _)
  live := by
    intro after ha hl
    obtain ⟨record, hrec, -, -, -, ⟨-, hdead, -⟩ | ⟨hk, rfl⟩⟩ := settles.mem ha
    · rw [hl] at hdead
      cases hdead
    obtain ⟨hp, hh⟩ := coherent.live after hrec hl
    refine ⟨hp, (settles.active _).mpr ⟨hh, fun other ho hchos heq => ?_⟩⟩
    have hs := coherent.eq_of_id hrec ho (congrArg Prod.snd heq)
    rw [hs, hchos] at hk
    cases hk
  held := by
    intro entry he
    obtain ⟨hh, hk⟩ := (settles.active entry).mp he
    refine (coherent.held entry hh).imp_right ?_
    rintro ⟨record, hrec, hl, rfl⟩
    refine ⟨record, settles.keeps hrec ?_, hl, rfl⟩
    cases hchos : chosen record with
    | true => exact (hk record hrec hchos rfl).elim
    | false => rfl
  operation := by
    intro entry he
    obtain ⟨hh, habsent⟩ := coherent.operation entry he
    refine ⟨(settles.active entry).mpr ⟨hh, fun record hrec hchos heq => ?_⟩, ?_⟩
    · have hid : record.id = entry.2 := by rw [heq]
      exact (habsent record hrec hid).2 (settles.pending record hrec hchos)
    · intro after ha hid
      obtain ⟨record, hrec, hs, -, -, ⟨-, hdead, hst⟩ | ⟨-, rfl⟩⟩ := settles.mem ha
      · exact ⟨hdead, hst⟩
      · exact habsent after hrec hid
  distinct := coherent.distinct
  finishes := coherent.finishes
  insertedSession := by
    intro after ha
    obtain ⟨record, hrec, hs, -⟩ := settles.mem ha
    rw [hs]
    exact coherent.insertedSession record hrec
  usedInserted := coherent.usedInserted
  usedOperation := coherent.usedOperation
  room := coherent.room_of_subset (fun id hid => settles.ids ▸ hid)
    fun entry he => ((settles.active entry).mp he).1
  revived := by
    intro after ha hdead hp
    obtain ⟨record, hrec, -, -, -, ⟨-, -, hst⟩ | ⟨-, rfl⟩⟩ := settles.mem ha
    · exact (hst hp).elim
    · exact coherent.revived after hrec hdead hp
  poller := by
    intro sessionId hpolls
    obtain ⟨hused, hopers, hmeth⟩ := coherent.poller sessionId hpolls
    refine ⟨hused, hopers, fun after ha hid => ?_⟩
    obtain ⟨record, hrec, hs, -, hmethods, -⟩ := settles.mem ha
    rw [hmethods]
    exact hmeth record hrec (hs ▸ hid)

theorem Coherent.forgets (coherent : Coherent w) (forgets : Forgets w.state s) :
    Coherent (w.setState s) where
  ids := coherent.ids.sublist (forgets.sublist.map _)
  keys := by
    change (s.activeProfiles.map Prod.fst).Nodup
    rw [forgets.active]
    exact coherent.keys
  holders := by
    change (s.activeProfiles.map Prod.snd).Nodup
    rw [forgets.active]
    exact coherent.holders
  live := by
    intro record hrec hl
    change _ ∧ _ ∈ s.activeProfiles
    rw [forgets.active]
    exact coherent.live record (forgets.sublist.subset hrec) hl
  held := by
    intro entry he
    change entry ∈ s.activeProfiles at he
    rw [forgets.active] at he
    refine (coherent.held entry he).imp_right ?_
    rintro ⟨record, hrec, hl, rfl⟩
    exact ⟨record, forgets.live record hrec hl, hl, rfl⟩
  operation := by
    intro entry he
    obtain ⟨hh, ha⟩ := coherent.operation entry he
    refine ⟨?_, fun record hrec => ha record (forgets.sublist.subset hrec)⟩
    change entry ∈ s.activeProfiles
    rw [forgets.active]
    exact hh
  distinct := coherent.distinct
  finishes := coherent.finishes
  insertedSession := fun record hrec =>
    coherent.insertedSession record (forgets.sublist.subset hrec)
  usedInserted := coherent.usedInserted
  usedOperation := coherent.usedOperation
  room := coherent.room_of_subset
    (fun id hid => (forgets.sublist.map SessionRecord.id).subset hid)
    fun entry he => forgets.active ▸ he
  revived := fun record hrec => coherent.revived record (forgets.sublist.subset hrec)
  poller := by
    intro sessionId hpolls
    obtain ⟨hused, hopers, hmeth⟩ := coherent.poller sessionId hpolls
    exact ⟨hused, hopers, fun record hrec =>
      hmeth record (forgets.sublist.subset hrec)⟩

theorem Touches.ids (touches : Touches w.state s) :
    s.sessions.map SessionRecord.id = w.state.sessions.map SessionRecord.id := by
  obtain ⟨change, hchange, hs⟩ := touches.sessions
  rw [hs, List.map_map]
  exact map_congr_left fun record hrec => (hchange record hrec).1

theorem Touches.mem (touches : Touches w.state s) (h : after ∈ s.sessions) :
    ∃ record ∈ w.state.sessions, after.id = record.id ∧ after.profileId = record.profileId ∧
      after.method = record.method ∧ after.isLive = record.isLive ∧
      (after.state = record.state ∨ after.state = .pending ∧ record.method = .webQr) := by
  obtain ⟨change, hchange, hs⟩ := touches.sessions
  rw [hs, List.mem_map] at h
  obtain ⟨record, hrec, rfl⟩ := h
  exact ⟨record, hrec, hchange record hrec⟩

/-- `spared`: a session whose state may change is not that of an operation. -/
theorem Coherent.touches (coherent : Coherent w) (touches : Touches w.state s)
    (spared : ∀ entry ∈ w.operations, ∀ after ∈ s.sessions, after.id = entry.2 →
      after.state ≠ .pending) : Coherent (w.setState s) where
  ids := touches.ids ▸ coherent.ids
  keys := by
    change (s.activeProfiles.map Prod.fst).Nodup
    rw [touches.active]
    exact coherent.keys
  holders := by
    change (s.activeProfiles.map Prod.snd).Nodup
    rw [touches.active]
    exact coherent.holders
  live := by
    intro after ha hl
    obtain ⟨record, hrec, hid, hprof, -, hsame, hs⟩ := touches.mem ha
    obtain ⟨hp, hh⟩ := coherent.live record hrec (hsame ▸ hl)
    refine ⟨?_, ?_⟩
    · rcases hs with hs | ⟨hs, -⟩
      · rw [hs, hp]
      · exact hs
    · change _ ∈ s.activeProfiles
      rw [touches.active, hid, hprof]
      exact hh
  held := by
    intro entry he
    change entry ∈ s.activeProfiles at he
    rw [touches.active] at he
    refine (coherent.held entry he).imp_right ?_
    rintro ⟨record, hrec, hl, rfl⟩
    obtain ⟨change, hchange, hsess⟩ := touches.sessions
    obtain ⟨hid, hprof, -, hsame, -⟩ := hchange record hrec
    refine ⟨change record, ?_, hsame ▸ hl, ?_⟩
    · change change record ∈ s.sessions
      rw [hsess]
      exact List.mem_map_of_mem hrec
    · rw [hid, hprof]
  operation := by
    intro entry he
    obtain ⟨hh, habsent⟩ := coherent.operation entry he
    refine ⟨?_, fun after ha hid => ⟨?_, spared entry he after ha hid⟩⟩
    · change entry ∈ s.activeProfiles
      rw [touches.active]
      exact hh
    · obtain ⟨record, hrec, hsame, -, -, hl, -⟩ := touches.mem ha
      rw [hl]
      exact (habsent record hrec (hsame ▸ hid)).1
  distinct := coherent.distinct
  finishes := coherent.finishes
  insertedSession := by
    intro after ha
    obtain ⟨record, hrec, hid, -⟩ := touches.mem ha
    rw [hid]
    exact coherent.insertedSession record hrec
  usedInserted := coherent.usedInserted
  usedOperation := coherent.usedOperation
  room := coherent.room_of_subset (fun id hid => touches.ids ▸ hid)
    fun entry he => touches.active ▸ he
  revived := by
    intro after ha hdead hp
    obtain ⟨record, hrec, -, -, hmeth, hl, hs⟩ := touches.mem ha
    rw [hmeth]
    rcases hs with hs | ⟨-, hweb⟩
    · exact coherent.revived record hrec (hl ▸ hdead) (hs ▸ hp)
    · exact hweb
  poller := by
    intro sessionId hpolls
    obtain ⟨hused, hopers, hmeth⟩ := coherent.poller sessionId hpolls
    refine ⟨hused, hopers, fun after ha hid => ?_⟩
    obtain ⟨record, hrec, hsame, -, hmethods, -⟩ := touches.mem ha
    rw [hmethods]
    exact hmeth record hrec (hsame ▸ hid)

end

theorem session_some {s : LoginState} {record : SessionRecord}
    (h : s.session sessionId = some record) : record ∈ s.sessions ∧ record.id = sessionId := by
  exact ⟨mem_of_find?_eq_some h, by simpa using List.find?_some h⟩

section

variable {w : LoginSystem}

theorem settles_expireSessions (coherent : Coherent w) (now : Nat) :
    Settles w.state (w.state.expireSessions now) (LoginState.due now) where
  pending := by
    intro record _ hdue
    unfold LoginState.due isPending at hdue
    simp only [Bool.and_eq_true, beq_iff_eq] at hdue
    exact hdue.1.1
  sessions := ⟨fun record => record.expiredAt now,
    fun _ => ⟨rfl, rfl, rfl, rfl, nofun⟩, rfl⟩
  active := by
    intro entry
    unfold LoginState.expireSessions
    rw [mem_releaseAll coherent.keys]
    simp
  sublist := releaseAll_sublist _ _

theorem Coherent.expireSessions (coherent : Coherent w) (now : Nat) :
    Coherent (w.setState (w.state.expireSessions now)) :=
  coherent.settles (settles_expireSessions coherent now)

theorem forgets_prune (s : LoginState) (now : Nat) : Forgets s (s.pruneTerminalSessions now) where
  sublist := filter_sublist
  live := by
    intro record hrec hl
    unfold pruneTerminalSessions
    rw [mem_filter]
    refine ⟨hrec, ?_⟩
    unfold isLive at hl
    rw [isNone_iff_eq_none] at hl
    rw [hl, all_none, Bool.or_true]
  active := rfl

theorem Coherent.get (coherent : Coherent w) (now : Nat) :
    Coherent (w.setState (w.state.get now)) :=
  (coherent.expireSessions now).forgets (forgets_prune _ now)

variable {oldest record : SessionRecord}

theorem oldestTerminal_some {sessions : List SessionRecord}
    (h : oldestTerminal sessions = some oldest) :
    oldest ∈ sessions ∧ oldest.isLive = false := by
  induction sessions with
  | nil => cases h
  | cons record rest ih =>
    unfold oldestTerminal at h
    cases hcompl : record.completedAt with
    | none =>
      rw [hcompl] at h
      exact ⟨mem_cons_of_mem _ (ih h).1, (ih h).2⟩
    | some completedAt =>
      have hdead : record.isLive = false := by
        unfold isLive
        rw [hcompl]
        rfl
      rw [hcompl] at h
      cases hf : oldestTerminal rest with
      | none =>
        rw [hf] at h
        cases h
        exact ⟨mem_cons_self, hdead⟩
      | some other =>
        rw [hf] at h ih
        simp only at h
        split at h
        · cases h
          exact ⟨mem_cons_of_mem _ (ih rfl).1, (ih rfl).2⟩
        · cases h
          exact ⟨mem_cons_self, hdead⟩

theorem Coherent.evict {evicted : LoginState} (coherent : Coherent w)
    (h : w.state.evictOldestTerminalSession = some evicted) : Coherent (w.setState evicted) := by
  unfold evictOldestTerminalSession at h
  rw [map_eq_some_iff] at h
  obtain ⟨oldest, holdest, rfl⟩ := h
  obtain ⟨hm, hdead⟩ := oldestTerminal_some holdest
  refine coherent.forgets { sublist := filter_sublist, live := ?_, active := rfl }
  intro record hrec hl
  rw [mem_filter, bne_iff_ne]
  refine ⟨hrec, fun heq => ?_⟩
  rw [coherent.eq_of_id hrec hm heq, hdead] at hl
  cases hl

structure Evicts (before after : LoginState) : Prop where
  sublist : after.sessions.Sublist before.sessions
  active : after.activeProfiles = before.activeProfiles

theorem evicts_evictWhile (full : LoginState → Bool) (turns : Nat) (s : LoginState) :
    Evicts s (LoginState.evictWhile full turns s) := by
  induction turns generalizing s with
  | zero => exact ⟨List.Sublist.refl _, rfl⟩
  | succ turns ih =>
    unfold LoginState.evictWhile
    split
    · split
      · rename_i evicted hevict
        unfold evictOldestTerminalSession at hevict
        rw [map_eq_some_iff] at hevict
        obtain ⟨oldest, -, rfl⟩ := hevict
        exact ⟨(ih _).sublist.trans filter_sublist, (ih _).active⟩
      · exact ⟨List.Sublist.refl _, rfl⟩
    · exact ⟨List.Sublist.refl _, rfl⟩

theorem Coherent.evictWhile (full : LoginState → Bool) (turns : Nat) {s : LoginState}
    (coherent : Coherent (w.setState s)) :
    Coherent (w.setState (LoginState.evictWhile full turns s)) := by
  induction turns generalizing s with
  | zero => exact coherent
  | succ turns ih =>
    unfold LoginState.evictWhile
    split
    · split
      · rename_i evicted hevict
        exact ih (Coherent.evict (w := w.setState s) coherent hevict)
      · exact coherent
    · exact coherent

theorem Coherent.profile_of_owner (coherent : Coherent w) {profileId : String}
    (owns : w.state.owner profileId = some record.id)
    (hrec : record ∈ w.state.sessions) (hp : record.state = .pending) :
    record.profileId = profileId := by
  have hh : (profileId, record.id) ∈ w.state.activeProfiles :=
    (lookup_eq_some_iff coherent.keys).mp owns
  rcases coherent.held _ hh with hoper | ⟨other, ho, -, heq⟩
  · exact ((coherent.operation _ hoper).2 record hrec rfl).2 hp |>.elim
  · rw [Prod.mk.injEq] at heq
    rw [coherent.eq_of_id hrec ho heq.2, heq.1]

variable {change : SessionRecord → SessionRecord}

theorem Coherent.settleOne (coherent : Coherent w)
    (hrec : record ∈ w.state.sessions) (hp : record.state = .pending)
    (hchange : ∀ record, (change record).id = record.id ∧
      (change record).profileId = record.profileId ∧ (change record).method = record.method ∧
        (change record).isLive = false ∧ (change record).state ≠ .pending) :
    Settles w.state ((w.state.modify record.id change).releaseProfile record.profileId record.id)
      (fun other => other.id == record.id) where
  pending := by
    intro other ho hid
    rw [coherent.eq_of_id ho hrec (by simpa using hid)]
    exact hp
  sessions := ⟨change, hchange, rfl⟩
  active := by
    intro entry
    change entry ∈ release w.state.activeProfiles record.profileId record.id ↔ _
    rw [mem_release coherent.keys]
    refine and_congr_right fun _ => ⟨fun hne other ho hid => ?_, fun h => ?_⟩
    · rw [coherent.eq_of_id ho hrec (by simpa using hid)]
      exact hne
    · exact h record hrec (by simp)
  sublist := release_sublist _ _ _

theorem Coherent.modify (coherent : Coherent w)
    (hchange : ∀ record, (change record).id = record.id ∧
      (change record).profileId = record.profileId ∧ (change record).method = record.method ∧
        (change record).isLive = record.isLive ∧ (change record).state = record.state) :
    Coherent (w.setState (w.state.modify sessionId change)) := by
  have htouches : Touches w.state (w.state.modify sessionId change) := by
    refine { sessions := ⟨fun record => if record.id == sessionId then change record else record,
      ?_, rfl⟩, active := rfl }
    intro record _
    simp only
    split
    · obtain ⟨hid, hprof, hmeth, hl, hs⟩ := hchange record
      exact ⟨hid, hprof, hmeth, hl, .inl hs⟩
    · exact ⟨rfl, rfl, rfl, rfl, .inl rfl⟩
  refine coherent.touches htouches ?_
  intro entry he after ha hid
  unfold LoginState.modify at ha
  rw [List.mem_map] at ha
  obtain ⟨record, hrec, rfl⟩ := ha
  have habsent := (coherent.operation entry he).2 record hrec
  split at hid
  · rename_i hsame
    rw [if_pos hsame, (hchange record).2.2.2.2]
    exact (habsent ((hchange record).1 ▸ hid)).2
  · rename_i ho
    rw [if_neg ho]
    exact (habsent hid).2

end

end NetPlayer.Login
