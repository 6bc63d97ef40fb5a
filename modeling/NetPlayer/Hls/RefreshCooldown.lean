import NetPlayer.Hls.MediaRefresh

/-!
# The cooldown of a media refresh

The entries of a session see little of what the calls do: a call takes an entry,
locks it, begins an attempt, takes it back or leaves. That is enough to show that
the plans of one key keep their distance.
-/

namespace NetPlayer.Hls

open Transition List PlanStart

namespace HlsMediaRefreshCoordinator

variable {c : HlsMediaRefreshCoordinator} {call other id : Nat} {phase : RefreshPhase}
  {entry : HlsMediaRefreshEntry}

@[simp] theorem setCall_calls : (c.setCall call phase).calls other =
    if other = call then phase else c.calls other := rfl

@[simp] theorem setCall_entries : (c.setCall call phase).entries = c.entries := rfl

@[simp] theorem setEntry_entries : (c.setEntry id entry).entries other =
    if other = id then entry else c.entries other := rfl

@[simp] theorem setEntry_calls : (c.setEntry id entry).calls other = c.calls other := rfl

theorem release_holder : ((c.release call).entries id).holder =
    if (c.calls call).holds = some id then none else (c.entries id).holder := by
  unfold release
  cases hh : (c.calls call).holds with
  | none => simp
  | some held =>
    by_cases hs : id = held
    · subst hs
      simp
    · have ho : ¬ held = id := fun h => hs h.symm
      simp [hs, ho]

@[simp] theorem release_lastAttempts :
    ((c.release call).entries id).lastAttempts = (c.entries id).lastAttempts := by
  unfold release
  split
  · rw [setEntry_entries]
    split
    · next hs => rw [hs]
    · rfl
  · rfl

@[simp] theorem clearAttempt_entries {key : Option String} {started : Instant} :
    (c.clearAttempt call id key started).entries other =
      if other = id then (c.entries id).clearAttemptIfCurrent key started
      else c.entries other := rfl

theorem release_eq : c.release call = { c with entries := (c.release call).entries } := by
  unfold release
  split <;> rfl

end HlsMediaRefreshCoordinator

open HlsMediaRefreshCoordinator

namespace HlsMediaRefreshEntry

variable {entry after : HlsMediaRefreshEntry} {key other : Option String} {now last : Instant}

def KeysUnique (entry : HlsMediaRefreshEntry) : Prop :=
  (entry.lastAttempts.map Prod.fst).Nodup

theorem lastAttempt_iff (h : entry.KeysUnique) :
    entry.lastAttempt key = some last ↔ (key, last) ∈ entry.lastAttempts := by
  obtain ⟨holder, attempts⟩ := entry
  have hkeys : (attempts.map Prod.fst).Nodup := h
  show (attempts.find? (·.1 = key)).map Prod.snd = some last ↔ (key, last) ∈ attempts
  clear h
  induction attempts with
  | nil => simp
  | cons attempt rest ih =>
    rw [map_cons, nodup_cons] at hkeys
    by_cases hk : attempt.1 = key
    · have hr : (key, last) ∉ rest := by
        intro hm
        exact hkeys.1 (hk ▸ mem_map_of_mem hm)
      simp only [List.find?_cons, hk, decide_true, Option.map_some, Option.some.injEq,
        mem_cons, hr, or_false]
      constructor
      · rintro rfl
        rw [← hk]
      · intro h
        rw [← h]
    · have hne : (key, last) ≠ attempt := fun h => hk (by rw [← h])
      simp only [List.find?_cons, hk, decide_false, mem_cons, hne, false_or]
      exact ih hkeys.2

theorem coolingDown_iff : coolingDown now last = true ↔ now < last + hlsMediaRefreshCooldown := by
  have hpos : 0 < hlsMediaRefreshCooldown := by decide
  rw [coolingDown, decide_eq_true_iff]
  have hsub (now last : Nat) : now - last < hlsMediaRefreshCooldown ↔
      now < last + hlsMediaRefreshCooldown := by omega
  exact hsub now last

theorem beginAttempt_spec (h : entry.beginAttempt key now = some after) :
    after.holder = entry.holder ∧
    (∀ last, entry.lastAttempt key = some last → last + hlsMediaRefreshCooldown ≤ now) ∧
    after.lastAttempts = (entry.lastAttempts.filter fun attempt =>
      coolingDown now attempt.2).filter (·.1 ≠ key) ++ [(key, now)] := by
  simp only [beginAttempt] at h
  split at h
  · cases h
  next hcold =>
    split at h
    · cases h
    cases h
    refine ⟨rfl, ?_, rfl⟩
    intro last hl
    rw [hl, Option.any_some, coolingDown_iff] at hcold
    exact Nat.le_of_not_lt hcold

theorem keysUnique_beginAttempt (hbegun : entry.beginAttempt key now = some after)
    (h : entry.KeysUnique) : after.KeysUnique := by
  rw [KeysUnique, (beginAttempt_spec hbegun).2.2, map_append, nodup_append]
  refine ⟨?_, nodup_singleton _, ?_⟩
  · exact h.sublist ((filter_sublist.trans filter_sublist).map _)
  · intro kept hk other ho
    obtain ⟨attempt, hatt, rfl⟩ := mem_map.mp hk
    rw [mem_singleton.mp ho]
    simpa using of_mem_filter hatt

@[simp] theorem clearAttemptIfCurrent_holder :
    (entry.clearAttemptIfCurrent key last).holder = entry.holder := by
  unfold clearAttemptIfCurrent
  split <;> rfl

theorem mem_clearAttemptIfCurrent (hunique : entry.KeysUnique) {attempt : Option String × Instant}
    (hm : attempt ∈ entry.lastAttempts) (ho : attempt ≠ (key, last)) :
    attempt ∈ (entry.clearAttemptIfCurrent key last).lastAttempts := by
  unfold clearAttemptIfCurrent
  split
  · next hcurr =>
      apply mem_filter.mpr
      refine ⟨hm, ?_⟩
      rw [decide_eq_true_iff]
      rintro rfl
      rw [(lastAttempt_iff hunique).mpr hm] at hcurr
      exact ho (Prod.ext rfl (Option.some.inj hcurr))
  · exact hm

theorem keysUnique_clearAttemptIfCurrent (h : entry.KeysUnique) :
    (entry.clearAttemptIfCurrent key last).KeysUnique := by
  unfold clearAttemptIfCurrent
  split
  · exact h.sublist (filter_sublist.map _)
  · exact h

end HlsMediaRefreshEntry

open HlsMediaRefreshEntry

/-- The step as the entries see it; `keys` are the cooldown keys of the calls. -/
inductive CoordinatorEffect (keys : Nat → Option String) :
    HlsMediaRefreshCoordinator → HlsMediaRefreshCoordinator → Prop
  | unchanged {c : HlsMediaRefreshCoordinator} : CoordinatorEffect keys c c
  | advanced {c : HlsMediaRefreshCoordinator} {call : Nat} {phase : RefreshPhase}
      (entry : phase.entry = (c.calls call).entry) (holds : phase.holds = (c.calls call).holds)
      (attempt : phase.attempt = (c.calls call).attempt) :
      CoordinatorEffect keys c (c.setCall call phase)
  | left {c : HlsMediaRefreshCoordinator} {call : Nat} {phase : RefreshPhase}
      (gone : phase.entry = none) : CoordinatorEffect keys c (c.leave call phase)
  | taken {c : HlsMediaRefreshCoordinator} {call id : Nat} (phase : c.calls call = .checked)
      (found : c.entry = some id) : CoordinatorEffect keys c (c.setCall call (.waiting id))
  | made {c : HlsMediaRefreshCoordinator} {call : Nat} (phase : c.calls call = .checked)
      (missing : c.entry = none) : CoordinatorEffect keys c (c.makeEntry call)
  | locked {c : HlsMediaRefreshCoordinator} {call id : Nat} (phase : c.calls call = .waiting id)
      (free : (c.entries id).holder = none) : CoordinatorEffect keys c (c.lock call id)
  | begun {c : HlsMediaRefreshCoordinator} {call id : Nat} {entry : HlsMediaRefreshEntry}
      (phase : c.calls call = .stale id)
      (begun : (c.entries id).beginAttempt (keys call) c.now = some entry) :
      CoordinatorEffect keys c (c.begin call id (keys call) entry)
  | cleared {c : HlsMediaRefreshCoordinator} {call id : Nat} {started : Instant}
      {phase : RefreshPhase} (attempt : (c.calls call).attempt = some (id, started))
      (gone : phase.entry = none) :
      CoordinatorEffect keys c ((c.clearAttempt call id (keys call) started).leave call phase)
  | ticked {c : HlsMediaRefreshCoordinator} {later : Instant} (forward : c.now ≤ later) :
      CoordinatorEffect keys c { c with now := later }
  | removed {c : HlsMediaRefreshCoordinator} : CoordinatorEffect keys c c.removeEntry
  | evicted {c : HlsMediaRefreshCoordinator} {id : Nat} (found : c.entry = some id)
      (unreferenced : ∀ call, (c.calls call).entry ≠ some id)
      (idle : (c.entries id).isIdle c.now = true) : CoordinatorEffect keys c (c.evictEntry id)

section

variable {sessionId : String} {callers : Nat → RefreshCaller sessionId} {s t : RefreshSystem}
  {action : RefreshAction} {keys : Nat → Option String} {c d : HlsMediaRefreshCoordinator}
  {call : Nat}

variable {phase : RefreshPhase}

theorem afterCheck_effect {check : RefreshCheck} {next : HlsPlaybackSessionHandle → RefreshPhase}
    (hp : c.calls call = phase) (he : ∀ handle, (next handle).entry = phase.entry)
    (hh : ∀ handle, (next handle).holds = phase.holds)
    (hatt : ∀ handle, (next handle).attempt = phase.attempt) :
    CoordinatorEffect keys c (c.afterCheck call check next) := by
  subst hp
  cases check with
  | fails error | refreshed session => exact .left rfl
  | stale handle => exact .advanced (he handle) (hh handle) (hatt handle)

/-- What a step does to the coordinator, the registry and the files aside. -/
theorem coordinator_effect (h : RefreshStep callers s action t) :
    CoordinatorEffect (fun call => (callers call).resourceId) s.coordinator t.coordinator := by
  cases h with
  | firstCheck hp => exact afterCheck_effect hp (fun _ => rfl) (fun _ => rfl) fun _ => rfl
  | takeEntry hp hf => exact .taken hp hf
  | makeEntry hp hmissing => exact .made hp hmissing
  | lock hp hfree => exact .locked hp hfree
  | secondCheck hp => exact afterCheck_effect hp (fun _ => rfl) (fun _ => rfl) fun _ => rfl
  | beginAttempt hp hbegun => exact .begun hp hbegun
  | coolingDown | mismatch | unavailable | drop => exact .left rfl
  | thirdCheck hp => exact afterCheck_effect hp (fun _ => rfl) (fun _ => rfl) fun _ => rfl
  | replace =>
    unfold RefreshSystem.replace
    split <;> exact .left rfl
  | @interrupted call error =>
    unfold interrupt
    split
    · next hatt => exact .cleared hatt rfl
    · exact .left rfl
  | registry | files => exact .unchanged
  | tick hforward => exact .ticked hforward
  | removeEntry => exact .removed
  | evictEntry hf hunreferenced hidle => exact .evicted hf hunreferenced hidle

/-- A call holds an entry exactly if the entry says so, and the entries referred to have been
made. -/
structure LocksValid (c : HlsMediaRefreshCoordinator) : Prop where
  holder : ∀ call id, (c.calls call).holds = some id ↔ (c.entries id).holder = some call
  referred : ∀ call id, (c.calls call).entry = some id → id < c.nextEntry
  current : ∀ id, c.entry = some id → id < c.nextEntry

variable {id : Nat}

theorem entry_of_holds (h : phase.holds = some id) : phase.entry = some id := by
  cases phase <;> first | exact h | cases h

theorem holds_of_entry_none (h : phase.entry = none) : phase.holds = none := by
  cases phase <;> first | rfl | cases h

variable {started later : Instant}

theorem holds_of_attempt (h : phase.attempt = some (id, started)) : phase.holds = some id := by
  cases phase <;> cases h <;> rfl

theorem attempt_of_entry_none (h : phase.entry = none) : phase.attempt = none := by
  cases phase <;> first | rfl | cases h

variable {now : Instant}

theorem locksValid_start : LocksValid (.start now) := by
  constructor <;> simp [start, RefreshPhase.holds, RefreshPhase.entry, HlsMediaRefreshEntry.default]

theorem LocksValid.congr (h : LocksValid c)
    (he : ∀ call, (d.calls call).entry = (c.calls call).entry)
    (hh : ∀ call, (d.calls call).holds = (c.calls call).holds)
    (hholder : ∀ id, (d.entries id).holder = (c.entries id).holder)
    (hn : d.nextEntry = c.nextEntry) (hcurr : d.entry = c.entry) : LocksValid d := by
  constructor
  · intro call id
    rw [hh, hholder]
    exact h.holder call id
  · intro call id hrefs
    rw [he] at hrefs
    rw [hn]
    exact h.referred call id hrefs
  · intro id hid
    rw [hcurr] at hid
    rw [hn]
    exact h.current id hid

variable {other : Nat}

theorem leave_calls :
    (c.leave call phase).calls other = if other = call then phase else c.calls other := by
  rw [leave, release_eq]
  rfl

theorem locksValid_leave (hg : phase.entry = none) (h : LocksValid c) :
    LocksValid (c.leave call phase) := by
  have hn : (c.leave call phase).nextEntry = c.nextEntry := by rw [leave, release_eq]; rfl
  have he : (c.leave call phase).entry = c.entry := by rw [leave, release_eq]; rfl
  constructor
  · intro other id
    have hholder : ((c.leave call phase).entries id).holder =
        if (c.calls call).holds = some id then none else (c.entries id).holder := release_holder
    rw [leave_calls, hholder]
    by_cases hc : other = call
    · subst hc
      simp only [if_true, holds_of_entry_none hg]
      constructor
      · intro h
        cases h
      · intro hh
        split at hh
        · cases hh
        · next hfree => exact absurd ((h.holder other id).mpr hh) hfree
    · rw [if_neg hc]
      by_cases hheld : (c.calls call).holds = some id
      · rw [if_pos hheld]
        constructor
        · intro ho
          have hfst := (h.holder other id).mp ho
          rw [(h.holder call id).mp hheld] at hfst
          exact absurd (Option.some.inj hfst).symm hc
        · intro h
          cases h
      · rw [if_neg hheld]
        exact h.holder other id
  · intro other id hrefs
    rw [leave_calls] at hrefs
    rw [hn]
    split at hrefs
    · rw [hg] at hrefs
      cases hrefs
    · exact h.referred other id hrefs
  · intro id hid
    rw [he] at hid
    rw [hn]
    exact h.current id hid

theorem locksValid_make (hp : c.calls call = .checked) (h : LocksValid c) :
    LocksValid (c.makeEntry call) := by
  constructor
  · intro other id
    show (if other = call then RefreshPhase.waiting c.nextEntry
        else c.calls other).holds = some id ↔
      (if id = c.nextEntry then HlsMediaRefreshEntry.default else c.entries id).holder =
        some other
    have hold := h.holder other id
    by_cases hid : id = c.nextEntry
    · have hn : (c.calls other).holds ≠ some id := by
        intro hh
        have hlt := h.referred other id (entry_of_holds hh)
        omega
      rw [if_pos hid]
      constructor
      · intro hh
        split at hh
        · cases hh
        · exact absurd hh hn
      · intro hholder
        cases hholder
    · rw [if_neg hid]
      split
      · next hc =>
          rw [hc, hp] at hold
          rw [hc]
          exact hold
      · exact hold
  · intro other id hrefs
    have hnext : (c.makeEntry call).nextEntry = c.nextEntry + 1 := rfl
    rw [hnext]
    have hcalls : (c.makeEntry call).calls other =
        if other = call then .waiting c.nextEntry else c.calls other := rfl
    rw [hcalls] at hrefs
    split at hrefs
    · cases hrefs
      omega
    · have hlt := h.referred other id hrefs
      omega
  · intro id hid
    cases hid
    show c.nextEntry < c.nextEntry + 1
    omega

theorem locksValid_lock (hp : c.calls call = .waiting taken)
    (hfree : (c.entries taken).holder = none) (h : LocksValid c) :
    LocksValid (c.lock call taken) := by
  constructor
  · intro other id
    show (if other = call then RefreshPhase.locked taken else c.calls other).holds = some id ↔
      (if id = taken then { c.entries taken with holder := some call }
        else c.entries id).holder = some other
    have hold := h.holder other id
    by_cases hid : id = taken
    · subst hid
      rw [if_pos rfl]
      by_cases hc : other = call
      · simp [hc, RefreshPhase.holds, RefreshPhase.entry]
      · rw [if_neg hc, hold, hfree]
        have hne : ¬ call = other := fun h => hc h.symm
        simp [hne]
    · rw [if_neg hid]
      by_cases hc : other = call
      · rw [if_pos hc]
        rw [hc, hp] at hold
        rw [hc, ← hold]
        have hne : ¬ taken = id := fun h => hid h.symm
        simp [RefreshPhase.holds, RefreshPhase.entry, hne]
      · rw [if_neg hc]
        exact hold
  · intro other id hrefs
    have hcalls : (c.lock call taken).calls other =
        if other = call then .locked taken else c.calls other := rfl
    rw [hcalls] at hrefs
    split at hrefs
    · cases hrefs
      exact h.referred call taken (by rw [hp]; rfl)
    · exact h.referred other id hrefs
  · exact h.current

theorem locksValid_effect (heffect : CoordinatorEffect keys c d) (h : LocksValid c) :
    LocksValid d := by
  cases heffect with
  | unchanged => exact h
  | @advanced call phase he hh hatt =>
    have hcalls : ∀ other, ((c.setCall call phase).calls other).entry = (c.calls other).entry ∧
        ((c.setCall call phase).calls other).holds = (c.calls other).holds := by
      intro other
      rw [setCall_calls]
      split
      · next hc => exact hc ▸ ⟨he, hh⟩
      · exact ⟨rfl, rfl⟩
    exact h.congr (fun other => (hcalls other).1) (fun other => (hcalls other).2) (fun _ => rfl)
      rfl rfl
  | left hg => exact locksValid_leave hg h
  | @taken call taken hp hf =>
    constructor
    · intro other id
      rw [setCall_calls, setCall_entries]
      split
      · next hc =>
          have hn := h.holder call id
          rw [hp] at hn
          rw [hc]
          exact hn
      · exact h.holder other id
    · intro other id hrefs
      rw [setCall_calls] at hrefs
      split at hrefs
      · cases hrefs
        exact h.current _ hf
      · exact h.referred other id hrefs
    · exact h.current
  | made hp hmissing => exact locksValid_make hp h
  | locked hp hfree => exact locksValid_lock hp hfree h
  | @begun call taken entry hp hbegun =>
    have hcalls : ∀ other, (c.begin call taken (keys call) entry).calls other =
        if other = call then .planning taken c.now else c.calls other := fun _ => rfl
    have hes : ∀ id, (c.begin call taken (keys call) entry).entries id =
        if id = taken then entry else c.entries id := fun _ => rfl
    refine h.congr ?_ ?_ ?_ rfl rfl
    · intro other
      rw [hcalls]
      split
      · next hc =>
          rw [hc, hp]
          rfl
      · rfl
    · intro other
      rw [hcalls]
      split
      · next hc =>
          rw [hc, hp]
          rfl
      · rfl
    · intro id
      rw [hes]
      split
      · next hid =>
          rw [hid]
          exact (beginAttempt_spec hbegun).1
      · rfl
  | @cleared call taken started phase hatt hg =>
    apply locksValid_leave hg
    refine h.congr (fun _ => rfl) (fun _ => rfl) ?_ rfl rfl
    intro id
    rw [clearAttempt_entries]
    split
    · next hid => rw [hid, clearAttemptIfCurrent_holder]
    · rfl
  | ticked => exact ⟨h.holder, h.referred, h.current⟩
  | removed | evicted => exact ⟨h.holder, h.referred, fun _ hid => by cases hid⟩

/-- Of the entries made since one removal at most one is not evicted, and no call has an evicted
one. -/
structure EntriesValid (c : HlsMediaRefreshCoordinator) : Prop where
  current : ∀ id, c.entry = some id → c.madeAfter id = c.removals ∧ c.evicted id = false
  bounded : ∀ id, id < c.nextEntry → c.madeAfter id ≤ c.removals
  live : ∀ id, id < c.nextEntry → c.madeAfter id = c.removals → c.evicted id = false →
    c.entry = some id
  alone : ∀ id other, id < c.nextEntry → other < c.nextEntry →
    c.madeAfter id = c.madeAfter other → c.evicted id = false → c.evicted other = false → id = other
  unreferenced : ∀ call id, (c.calls call).entry = some id → c.evicted id = false

theorem entriesValid_start : EntriesValid (.start now) := by
  constructor <;> simp [start]

theorem EntriesValid.congr (h : EntriesValid c) (hn : d.nextEntry = c.nextEntry)
    (hcurr : d.entry = c.entry) (hrems : d.removals = c.removals)
    (hmade : d.madeAfter = c.madeAfter) (hevict : d.evicted = c.evicted)
    (hcalls : ∀ call id, (d.calls call).entry = some id → d.entry = some id ∨
      ∃ call, (c.calls call).entry = some id) : EntriesValid d := by
  constructor
  · intro id hid
    rw [hmade, hrems, hevict]
    exact h.current id (hcurr ▸ hid)
  · intro id hid
    rw [hmade, hrems]
    exact h.bounded id (hn ▸ hid)
  · intro id hid hmadeAfter hl
    rw [hmade, hrems] at hmadeAfter
    rw [hevict] at hl
    rw [hcurr]
    exact h.live id (hn ▸ hid) hmadeAfter hl
  · intro id other hid ho hs hl hotherLive
    rw [hmade] at hs
    rw [hevict] at hl hotherLive
    exact h.alone id other (hn ▸ hid) (hn ▸ ho) hs hl hotherLive
  · intro call id hrefs
    rw [hevict]
    rcases hcalls call id hrefs with hid | ⟨referring, href⟩
    · exact (h.current id (hcurr ▸ hid)).2
    · exact h.unreferenced referring id href

theorem leave_eq : c.leave call phase =
    { c with entries := (c.release call).entries, calls := (c.leave call phase).calls } := by
  rw [leave, release_eq]
  rfl

theorem setCall_refers (he : ∀ id, phase.entry = some id → (c.calls call).entry = some id)
    (hrefs : (if other = call then phase else c.calls other).entry = some id) :
    ∃ call, (c.calls call).entry = some id := by
  split at hrefs
  · exact ⟨call, he id hrefs⟩
  · exact ⟨other, hrefs⟩

theorem entriesValid_leave (hg : phase.entry = none) (h : EntriesValid c) :
    EntriesValid (c.leave call phase) := by
  rw [leave_eq]
  refine h.congr rfl rfl rfl rfl rfl fun other id hrefs => .inr ?_
  have hcalls : (c.leave call phase).calls other =
      if other = call then phase else c.calls other := leave_calls
  rw [hcalls] at hrefs
  exact setCall_refers (fun id hid => by rw [hg] at hid; cases hid) hrefs

theorem entriesValid_make (hmissing : c.entry = none) (h : EntriesValid c) :
    EntriesValid (c.makeEntry call) := by
  have hmade : ∀ id, (c.makeEntry call).madeAfter id =
      if id = c.nextEntry then c.removals else c.madeAfter id := fun _ => rfl
  have hevict : ∀ id, (c.makeEntry call).evicted id =
      if id = c.nextEntry then false else c.evicted id := fun _ => rfl
  have hn : (c.makeEntry call).nextEntry = c.nextEntry + 1 := rfl
  have hrems : (c.makeEntry call).removals = c.removals := rfl
  -- no live entry was made since the last removal
  have hdead : ∀ id, id < c.nextEntry → c.madeAfter id = c.removals →
      c.evicted id = true := by
    intro id hid hs
    by_contra hl
    rw [Bool.not_eq_true] at hl
    rw [h.live id hid hs hl] at hmissing
    cases hmissing
  constructor
  · intro id hid
    cases hid
    rw [hmade, hevict, if_pos rfl, if_pos rfl]
    exact ⟨rfl, rfl⟩
  · intro id hid
    rw [hmade, hrems]
    split
    · exact le_rfl
    · exact h.bounded id (by omega)
  · intro id hid hs hl
    rw [hmade, hrems] at hs
    rw [hevict] at hl
    split at hs
    · next hid => exact congrArg some hid.symm
    · next hold =>
        rw [if_neg hold, hdead id (by omega) hs] at hl
        cases hl
  · intro id other hid ho hs hl hotherLive
    rw [hmade, hmade] at hs
    rw [hevict] at hl hotherLive
    by_cases hidNew : id = c.nextEntry <;> by_cases hotherNew : other = c.nextEntry
    · rw [hidNew, hotherNew]
    · rw [if_pos hidNew, if_neg hotherNew] at hs
      rw [if_neg hotherNew, hdead other (by omega) hs.symm] at hotherLive
      cases hotherLive
    · rw [if_neg hidNew, if_pos hotherNew] at hs
      rw [if_neg hidNew, hdead id (by omega) hs] at hl
      cases hl
    · rw [if_neg hidNew, if_neg hotherNew] at hs
      rw [if_neg hidNew] at hl
      rw [if_neg hotherNew] at hotherLive
      exact h.alone id other (by omega) (by omega) hs hl hotherLive
  · intro other id hrefs
    have hcalls : (c.makeEntry call).calls other =
        if other = call then .waiting c.nextEntry else c.calls other := rfl
    rw [hcalls] at hrefs
    rw [hevict]
    split
    · rfl
    next hold =>
      split at hrefs
      · cases hrefs
        exact absurd rfl hold
      · exact h.unreferenced other id hrefs

theorem entriesValid_remove (h : EntriesValid c) : EntriesValid c.removeEntry := by
  have hrems : c.removeEntry.removals = c.removals + 1 := rfl
  constructor
  · intro id hid
    cases hid
  · intro id hid
    have hle := h.bounded id hid
    show c.madeAfter id ≤ c.removals + 1
    omega
  · intro id hid hs hl
    have hle := h.bounded id hid
    change c.madeAfter id = c.removals + 1 at hs
    omega
  · exact h.alone
  · exact h.unreferenced

theorem entriesValid_evict (hf : c.entry = some gone)
    (hunreferenced : ∀ call, (c.calls call).entry ≠ some gone) (h : EntriesValid c) :
    EntriesValid (c.evictEntry gone) := by
  have hevict : ∀ id, (c.evictEntry gone).evicted id =
      if id = gone then true else c.evicted id := fun _ => rfl
  constructor
  · intro id hid
    cases hid
  · exact h.bounded
  · intro id hid hs hl
    rw [hevict] at hl
    split at hl
    · cases hl
    next ho =>
      have hid := h.live id hid hs hl
      rw [hf] at hid
      exact absurd (Option.some.inj hid).symm ho
  · intro id other hid ho hs hl hotherLive
    rw [hevict] at hl hotherLive
    split at hl
    · cases hl
    · split at hotherLive
      · cases hotherLive
      · exact h.alone id other hid ho hs hl hotherLive
  · intro call id hrefs
    rw [hevict, if_neg]
    · exact h.unreferenced call id hrefs
    · rintro rfl
      exact hunreferenced call hrefs

theorem entriesValid_effect (heffect : CoordinatorEffect keys c d)
    (h : EntriesValid c) : EntriesValid d := by
  cases heffect with
  | unchanged => exact h
  | advanced he =>
    refine h.congr rfl rfl rfl rfl rfl fun other id hrefs => .inr ?_
    exact setCall_refers (fun id hid => he ▸ hid) hrefs
  | left hg => exact entriesValid_leave hg h
  | @taken call taken hp hf =>
    refine h.congr rfl rfl rfl rfl rfl fun other id hrefs => ?_
    rw [setCall_calls] at hrefs
    split at hrefs
    · cases hrefs
      exact .inl hf
    · exact .inr ⟨other, hrefs⟩
  | made hp hmissing => exact entriesValid_make hmissing h
  | @locked call taken hp hfree | @begun call taken entry hp hbegun =>
    refine h.congr rfl rfl rfl rfl rfl fun other id hrefs => .inr ?_
    exact setCall_refers (fun id hid => by rw [hp]; exact hid) hrefs
  | @cleared call taken started phase hatt hg =>
    apply entriesValid_leave hg
    exact h.congr rfl rfl rfl rfl rfl fun other id hrefs => .inr ⟨other, hrefs⟩
  | ticked => exact h.congr rfl rfl rfl rfl rfl fun other id hrefs => .inr ⟨other, hrefs⟩
  | removed => exact entriesValid_remove h
  | evicted hf hunreferenced hidle => exact entriesValid_evict hf hunreferenced h

def PlanStart.CooledBy (plan : PlanStart) (now : Instant) : Prop :=
  plan.started + hlsMediaRefreshCooldown ≤ now

theorem PlanStart.CooledBy.mono {plan : PlanStart} (hle : now ≤ later)
    (h : plan.CooledBy now) : plan.CooledBy later :=
  le_trans h hle

def PlanStart.Spaced (first later : PlanStart) : Prop :=
  first.removals = later.removals → first.key = later.key → first.interrupted = false →
    first.CooledBy later.started

/-- A plan that counts has cooled down, or its entry remembers an attempt of its key since. -/
structure AttemptsValid (keys : Nat → Option String) (c : HlsMediaRefreshCoordinator) : Prop where
  unique : ∀ id, (c.entries id).KeysUnique
  made : ∀ plan ∈ c.plans, plan.entry < c.nextEntry ∧ plan.removals = c.madeAfter plan.entry
  recorded : ∀ plan ∈ c.plans, plan.interrupted = false → plan.CooledBy c.now ∨
    ∃ last, (plan.key, last) ∈ (c.entries plan.entry).lastAttempts ∧ plan.started ≤ last
  attempted : ∀ call id started, (c.calls call).attempt = some (id, started) →
    ∀ plan ∈ c.plans, plan.entry = id → plan.key = keys call → plan.interrupted = false →
      plan.call = call ∨ plan.CooledBy c.now
  retired : ∀ plan ∈ c.plans, c.evicted plan.entry = true → plan.interrupted = false →
    plan.CooledBy c.now
  spaced : c.plans.Pairwise PlanStart.Spaced

theorem attemptsValid_start : AttemptsValid keys (.start now) := by
  constructor <;> simp [start, KeysUnique, HlsMediaRefreshEntry.default]

theorem AttemptsValid.congr (h : AttemptsValid keys c) (hplans : d.plans = c.plans)
    (hn : d.nextEntry = c.nextEntry) (hmade : d.madeAfter = c.madeAfter)
    (hevict : d.evicted = c.evicted) (hnow : c.now ≤ d.now)
    (hes : ∀ id, (d.entries id).lastAttempts = (c.entries id).lastAttempts)
    (hcalls : ∀ call attempt, (d.calls call).attempt = some attempt →
      (c.calls call).attempt = some attempt) : AttemptsValid keys d := by
  constructor
  · intro id
    rw [KeysUnique, hes]
    exact h.unique id
  · rw [hplans, hn, hmade]
    exact h.made
  · intro plan hp hk
    rw [hes]
    exact (h.recorded plan (hplans ▸ hp) hk).imp_left (.mono hnow)
  · intro call id started hatt plan hp hid hkey hk
    exact (h.attempted call id started (hcalls call _ hatt) plan (hplans ▸ hp) hid hkey
      hk).imp_right (.mono hnow)
  · intro plan hp hg hk
    exact (h.retired plan (hplans ▸ hp) (hevict ▸ hg) hk).mono hnow
  · rw [hplans]
    exact h.spaced

theorem setCall_attempt {attempt : Nat × Instant}
    (hp : ∀ attempt, phase.attempt = some attempt → (c.calls call).attempt = some attempt)
    (hatt : (if other = call then phase else c.calls other).attempt = some attempt) :
    (c.calls other).attempt = some attempt := by
  split at hatt
  · next hc => exact hc ▸ hp attempt hatt
  · exact hatt

theorem attemptsValid_leave (hg : phase.entry = none) (h : AttemptsValid keys c) :
    AttemptsValid keys (c.leave call phase) := by
  rw [leave_eq]
  refine h.congr rfl rfl rfl rfl le_rfl (fun _ => release_lastAttempts) ?_
  intro other attempt hatt
  have hcalls : (c.leave call phase).calls other =
      if other = call then phase else c.calls other := leave_calls
  rw [hcalls] at hatt
  refine setCall_attempt (fun attempt hp => ?_) hatt
  rw [attempt_of_entry_none hg] at hp
  cases hp

theorem attemptsValid_clear
    (hatt : (c.calls call).attempt = some (id, started)) (h : AttemptsValid keys c) :
    AttemptsValid keys (c.clearAttempt call id (keys call) started) := by
  have hplans : (c.clearAttempt call id (keys call) started).plans =
      c.plans.map (interruptCall call) := rfl
  -- a plan that is not marked is the plan of another call, unchanged
  have hkept : ∀ plan ∈ c.plans, (interruptCall call plan).interrupted = false →
      plan.call ≠ call ∧ interruptCall call plan = plan := by
    intro plan _ hp
    unfold interruptCall at hp ⊢
    split at hp
    · cases hp
    · next hc => exact ⟨hc, if_neg hc⟩
  have hfields : ∀ plan, (interruptCall call plan).entry = plan.entry ∧
      (interruptCall call plan).removals = plan.removals ∧
      (interruptCall call plan).key = plan.key ∧
      (interruptCall call plan).started = plan.started := by
    intro plan
    unfold interruptCall
    split <;> exact ⟨rfl, rfl, rfl, rfl⟩
  constructor
  · intro other
    rw [clearAttempt_entries]
    split
    · exact keysUnique_clearAttemptIfCurrent (h.unique id)
    · exact h.unique other
  · intro marked hmarked
    obtain ⟨plan, hp, rfl⟩ := mem_map.mp (hplans ▸ hmarked)
    rw [(hfields plan).1, (hfields plan).2.1]
    exact h.made plan hp
  · intro marked hmarked hkp
    obtain ⟨plan, hp, rfl⟩ := mem_map.mp (hplans ▸ hmarked)
    obtain ⟨ho, hs⟩ := hkept plan hp hkp
    rw [hs] at hkp ⊢
    rcases h.recorded plan hp hkp with hcooled | ⟨last, hl, hle⟩
    · exact .inl hcooled
    by_cases hid : plan.entry = id
    · by_cases hclr : (plan.key, last) = (keys call, started)
      · have hk : plan.key = keys call := congrArg Prod.fst hclr
        exact (h.attempted call id started hatt plan hp hid hk hkp).elim
          (fun hc => absurd hc ho) .inl
      · right
        refine ⟨last, ?_, hle⟩
        rw [clearAttempt_entries, if_pos hid]
        rw [hid] at hl
        exact mem_clearAttemptIfCurrent (h.unique id) hl hclr
    · right
      refine ⟨last, ?_, hle⟩
      rw [clearAttempt_entries, if_neg hid]
      exact hl
  · intro other otherId otherStarted ho marked hmarked hid hk hkp
    obtain ⟨plan, hp, rfl⟩ := mem_map.mp (hplans ▸ hmarked)
    obtain ⟨-, hs⟩ := hkept plan hp hkp
    rw [hs] at hid hk hkp ⊢
    exact h.attempted other otherId otherStarted ho plan hp hid hk hkp
  · intro marked hmarked hg hkp
    obtain ⟨plan, hp, rfl⟩ := mem_map.mp (hplans ▸ hmarked)
    obtain ⟨-, hs⟩ := hkept plan hp hkp
    rw [hs] at hg hkp ⊢
    exact h.retired plan hp hg hkp
  · rw [hplans, pairwise_map]
    refine h.spaced.imp_of_mem ?_
    intro first later hfst hlat hspaced hrems hk hkp
    obtain ⟨-, hs⟩ := hkept first hfst hkp
    rw [hs] at hrems hk hkp ⊢
    rw [(hfields later).2.1] at hrems
    rw [(hfields later).2.2.1] at hk
    rw [(hfields later).2.2.2]
    exact hspaced hrems hk hkp

/-- The plan that begins is a cooldown away from the last one of its key. -/
theorem attemptsValid_begin {entry : HlsMediaRefreshEntry} (hph : c.calls call = .stale id)
    (hbegun : (c.entries id).beginAttempt (keys call) c.now = some entry) (hlocks : LocksValid c)
    (hes : EntriesValid c) (h : AttemptsValid keys c) :
    AttemptsValid keys (c.begin call id (keys call) entry) := by
  obtain ⟨-, hcold, hattempts⟩ := beginAttempt_spec hbegun
  have hrefs : (c.calls call).entry = some id := by rw [hph]; rfl
  have hlive : c.evicted id = false := hes.unreferenced call id hrefs
  have hbd : id < c.nextEntry := hlocks.referred call id hrefs
  have hplans : (c.begin call id (keys call) entry).plans =
      c.plans ++ [⟨call, id, c.madeAfter id, keys call, c.now, false⟩] := rfl
  have hr : ∀ other, (c.begin call id (keys call) entry).entries other =
      if other = id then entry else c.entries other := fun _ => rfl
  have hcalls : ∀ other, (c.begin call id (keys call) entry).calls other =
      if other = call then .planning id c.now else c.calls other := fun _ => rfl
  have hsplit : ∀ plan ∈ (c.begin call id (keys call) entry).plans, plan ∈ c.plans ∨
      plan = ⟨call, id, c.madeAfter id, keys call, c.now, false⟩ := by
    intro plan hp
    simpa [hplans] using hp
  -- the earlier plans of the key on this entry are over
  have hover : ∀ plan ∈ c.plans, plan.entry = id → plan.key = keys call →
      plan.interrupted = false → plan.CooledBy c.now := by
    intro plan hp hid hk hkp
    rcases h.recorded plan hp hkp with hcooled | ⟨last, hl, hle⟩
    · exact hcooled
    · rw [hid, hk] at hl
      have hlastCold := hcold last ((lastAttempt_iff (h.unique id)).mpr hl)
      exact le_trans (Nat.add_le_add_right hle _) hlastCold
  constructor
  · intro other
    rw [hr]
    split
    · exact keysUnique_beginAttempt hbegun (h.unique id)
    · exact h.unique other
  · intro plan hp
    rcases hsplit plan hp with hold | rfl
    · exact h.made plan hold
    · exact ⟨hbd, rfl⟩
  · intro plan hp hkp
    rcases hsplit plan hp with hold | rfl
    · rcases h.recorded plan hold hkp with hcooled | ⟨last, hl, hle⟩
      · exact .inl hcooled
      rw [hr]
      split
      · next hid =>
          by_cases hk : plan.key = keys call
          · exact .inl (hover plan hold hid hk hkp)
          by_cases hcooling : coolingDown c.now last = true
          · right
            refine ⟨last, ?_, hle⟩
            rw [hid] at hl
            rw [hattempts]
            simp [hl, hcooling, hk]
          · left
            rw [coolingDown_iff] at hcooling
            exact le_trans (Nat.add_le_add_right hle _) (Nat.le_of_not_lt hcooling)
      · exact .inr ⟨last, hl, hle⟩
    · right
      refine ⟨c.now, ?_, le_rfl⟩
      rw [hr, if_pos rfl, hattempts]
      simp
  · intro other otherId started hatt plan hp hid hk hkp
    rw [hcalls] at hatt
    split at hatt
    · next hc =>
        cases hatt
        rcases hsplit plan hp with hold | rfl
        · exact .inr (hover plan hold hid (hc ▸ hk) hkp)
        · exact .inl hc.symm
    · next hc =>
        rcases hsplit plan hp with hold | rfl
        · exact h.attempted other otherId started hatt plan hold hid hk hkp
        -- the other call has no attempt on an entry that this call has locked
        have hh : (c.calls call).holds = some id := by rw [hph]; rfl
        have hotherHolds := holds_of_attempt hatt
        rw [← show id = otherId from hid, hlocks.holder, (hlocks.holder call id).mp hh]
          at hotherHolds
        exact absurd (Option.some.inj hotherHolds).symm hc
  · intro plan hp hg hkp
    rcases hsplit plan hp with hold | rfl
    · exact h.retired plan hold hg hkp
    · change c.evicted id = true at hg
      rw [hlive] at hg
      cases hg
  · rw [hplans, pairwise_append]
    refine ⟨h.spaced, pairwise_singleton _ _, ?_⟩
    intro plan hp new hn hrems hk hkp
    rw [mem_singleton] at hn
    subst hn
    by_cases hid : plan.entry = id
    · exact hover plan hp hid hk hkp
    obtain ⟨hplanBound, hmade⟩ := h.made plan hp
    apply h.retired plan hp _ hkp
    by_contra hplanLive
    rw [Bool.not_eq_true] at hplanLive
    have hs : c.madeAfter plan.entry = c.madeAfter id := hmade.symm.trans hrems
    exact hid (hes.alone plan.entry id hplanBound hbd hs hplanLive hlive)

theorem attemptsValid_effect (heffect : CoordinatorEffect keys c d) (hlocks : LocksValid c)
    (hes : EntriesValid c) (h : AttemptsValid keys c) : AttemptsValid keys d := by
  cases heffect with
  | unchanged => exact h
  | advanced _ _ hatt =>
    refine h.congr rfl rfl rfl rfl le_rfl (fun _ => rfl) fun other attempt ho => ?_
    exact setCall_attempt (fun _ hp => hatt ▸ hp) ho
  | left hg => exact attemptsValid_leave hg h
  | taken =>
    refine h.congr rfl rfl rfl rfl le_rfl (fun _ => rfl) fun other attempt ho => ?_
    exact setCall_attempt (fun _ hp => by cases hp) ho
  | @made call hp hmissing =>
    have hn : ∀ plan ∈ c.plans, plan.entry ≠ c.nextEntry := by
      intro plan hplan
      have hlt := (h.made plan hplan).1
      omega
    have hr : ∀ id, (c.makeEntry call).entries id =
        if id = c.nextEntry then .default else c.entries id := fun _ => rfl
    constructor
    · intro id
      rw [hr]
      split
      · exact nodup_nil
      · exact h.unique id
    · intro plan hplan
      obtain ⟨hlt, hmade⟩ := h.made plan hplan
      constructor
      · exact Nat.lt_succ_of_lt hlt
      · rw [hmade]
        exact (if_neg (hn plan hplan)).symm
    · intro plan hplan hk
      rw [hr, if_neg (hn plan hplan)]
      exact h.recorded plan hplan hk
    · intro other id started ho
      have hcalls := @setCall_attempt c call (.waiting c.nextEntry) other _
        (fun _ hp => by cases hp) ho
      exact h.attempted other id started hcalls
    · intro plan hplan hg
      change (if plan.entry = c.nextEntry then false else c.evicted plan.entry) = true at hg
      rw [if_neg (hn plan hplan)] at hg
      exact h.retired plan hplan hg
    · exact h.spaced
  | @locked call taken hp hfree =>
    refine h.congr rfl rfl rfl rfl le_rfl (fun id => ?_) fun other attempt ho => ?_
    · show (if id = taken then { c.entries taken with holder := some call }
        else c.entries id).lastAttempts = (c.entries id).lastAttempts
      split
      · next hid => rw [hid]
      · rfl
    · exact setCall_attempt (fun _ hp => by cases hp) ho
  | begun hp hbegun => exact attemptsValid_begin hp hbegun hlocks hes h
  | cleared hatt hg => exact attemptsValid_leave hg (attemptsValid_clear hatt h)
  | ticked hforward =>
    exact h.congr rfl rfl rfl rfl hforward (fun _ => rfl) fun _ _ hatt => hatt
  | removed => exact h.congr rfl rfl rfl rfl le_rfl (fun _ => rfl) fun _ _ ha => ha
  | @evicted gone hf hunreferenced hidle =>
    refine ⟨h.unique, h.made, h.recorded, h.attempted, ?_, h.spaced⟩
    intro plan hplan hg hk
    change (if plan.entry = gone then true else c.evicted plan.entry) = true at hg
    split at hg
    · next hid =>
        rcases h.recorded plan hplan hk with hcooled | ⟨last, hl, hle⟩
        · exact hcooled
        rw [hid] at hl
        have hcold := all_eq_true.mp hidle _ hl
        rw [Bool.not_eq_true', ← Bool.not_eq_true, coolingDown_iff] at hcold
        exact le_trans (Nat.add_le_add_right hle _) (Nat.le_of_not_lt hcold)
    · exact h.retired plan hplan hg hk

end

structure CooldownValid (keys : Nat → Option String) (c : HlsMediaRefreshCoordinator) : Prop where
  locks : LocksValid c
  entries : EntriesValid c
  attempts : AttemptsValid keys c

theorem cooldownValid_run {sessionId : String} {callers : Nat → RefreshCaller sessionId}
    {registry : HlsPlaybackRegistryInner} {files : SessionFiles} {now : Instant}
    {actions : List RefreshAction} {s : RefreshSystem}
    (hrun : Run (RefreshStep callers) (.start registry files now) actions s) :
    CooldownValid (fun call => (callers call).resourceId) s.coordinator := by
  refine hrun.invariant (fun s => CooldownValid _ s.coordinator) ?_
    ⟨locksValid_start, entriesValid_start, attemptsValid_start⟩
  intro s t action hst h
  have heffect := coordinator_effect hst
  exact ⟨locksValid_effect heffect h.locks, entriesValid_effect heffect h.entries,
    attemptsValid_effect heffect h.locks h.entries h.attempts⟩

end NetPlayer.Hls
