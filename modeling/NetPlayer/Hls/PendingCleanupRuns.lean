import NetPlayer.Hls.PendingCleanups

/-!
# Runs of the failed cleanups

The caps hold in every run. A session whose removal failed is retained, or a scan will still
come to it, as long as a cleanup attempts what its key retains and no scan meets such a session
while a task authorizes it.
-/

namespace NetPlayer.Hls

open PagedSnapshots Transition List Finset

namespace PendingHlsSessionCleanups

variable {p q : PendingHlsSessionCleanups} {cleanupKey other sessionId : String}
  {failedSessionIds : List String}

theorem mem_retainedSessionIds :
    sessionId ∈ p.retainedSessionIds ↔
      ∃ key ids, p.byCleanupKey.lookup key = some ids ∧ sessionId ∈ ids := by
  unfold retainedSessionIds
  rw [mem_flatten]
  constructor
  · rintro ⟨ids, hm, hid⟩
    obtain ⟨key, hl⟩ := mem_values.mp hm
    exact ⟨key, ids, hl, hid⟩
  · rintro ⟨key, ids, hl, hid⟩
    exact ⟨ids, mem_values.mpr ⟨key, hl⟩, hid⟩

structure Bounded (p : PendingHlsSessionCleanups) : Prop where
  count : p.retainedSessionIdCount = total List.length p.byCleanupKey
  count_le : p.retainedSessionIdCount ≤ maxPendingHlsCleanupSessionIds
  keys_le : p.byCleanupKey.entries.length ≤ maxPendingHlsCleanupKeys
  nodup : ∀ key ids, p.byCleanupKey.lookup key = some ids → ids.Nodup

theorem bounded_default : Bounded .default where
  count := rfl
  count_le := Nat.zero_le _
  keys_le := Nat.zero_le _
  nodup := by simp [PendingHlsSessionCleanups.default]

theorem forget_lookup : (p.forget cleanupKey).byCleanupKey.lookup other =
    if other = cleanupKey then none else p.byCleanupKey.lookup other := by
  unfold forget
  cases hprev : p.byCleanupKey.lookup cleanupKey with
  | none =>
    by_cases ho : other = cleanupKey
    · rw [if_pos ho, ho]
      exact hprev
    · rw [if_neg ho]
  | some previous => exact lookup_erase_ite

theorem Bounded.forget (h : p.Bounded) (cleanupKey : String) : (p.forget cleanupKey).Bounded := by
  have hl := @forget_lookup p cleanupKey
  unfold PendingHlsSessionCleanups.forget at hl ⊢
  cases hprev : p.byCleanupKey.lookup cleanupKey with
  | none => exact h
  | some previous =>
    rw [hprev] at hl
    have htot := @total_erase _ _ _ _ _ _ List.length hprev
    have hkeys := @total_erase _ _ _ _ _ _ (fun _ : List String => 1) hprev
    rw [total_one, total_one] at hkeys
    have hc := h.count
    have hcount_le := h.count_le
    have hkeys_le := h.keys_le
    constructor
    · show p.retainedSessionIdCount - previous.length =
        total List.length (p.byCleanupKey.erase cleanupKey)
      omega
    · show p.retainedSessionIdCount - previous.length ≤ _
      omega
    · show (p.byCleanupKey.erase cleanupKey).entries.length ≤ _
      omega
    · intro key ids hf
      rw [hl] at hf
      split at hf
      · cases hf
      · exact h.nodup key ids hf

/-- What `record` does: the key now holds a part of the failures, and if it is not all of them a
new scan is required. -/
structure Recorded (p q : PendingHlsSessionCleanups) (cleanupKey : String)
    (failedSessionIds : List String) : Prop where
  others : ∀ other, other ≠ cleanupKey →
    q.byCleanupKey.lookup other = p.byCleanupKey.lookup other
  covered : ∀ sessionId ∈ failedSessionIds, sessionId ∈ q.retainedSessionIds ∨
    (q.overflowScanRequired = true ∧ q.overflowScanDirty = true)
  scan : q.overflowScan = p.overflowScan
  required : p.overflowScanRequired = true → q.overflowScanRequired = true
  dirty : p.overflowScanDirty = true → q.overflowScanDirty = true

theorem forget_flags : (p.forget cleanupKey).overflowScan = p.overflowScan ∧
    (p.forget cleanupKey).overflowScanRequired = p.overflowScanRequired ∧
    (p.forget cleanupKey).overflowScanDirty = p.overflowScanDirty := by
  unfold forget
  split
  · exact ⟨rfl, rfl, rfl⟩
  · exact ⟨rfl, rfl, rfl⟩

theorem Bounded.retain (h : p.Bounded) (ha : cleanupKey ∉ p.byCleanupKey)
    (hnodup : failedSessionIds.Nodup) :
    (p.retain cleanupKey (failedSessionIds.take (p.retainedCount failedSessionIds))).Bounded := by
  unfold PendingHlsSessionCleanups.retain
  split
  · rename_i hs
    have hlen : (failedSessionIds.take (p.retainedCount failedSessionIds)).length ≤
        p.retainedCount failedSessionIds := length_take_le _ _
    have hc := h.count
    have hcount_le := h.count_le
    unfold PendingHlsSessionCleanups.retainedCount at hlen hs ⊢
    split at hlen
    · rename_i hkeys
      rw [if_pos hkeys] at hs ⊢
      have htot := @total_insert_of_notMem _ _ _ _ _
        (failedSessionIds.take (min failedSessionIds.length
          (maxPendingHlsCleanupSessionIds - p.retainedSessionIdCount))) List.length ha
      have hes := @total_insert_of_notMem _ _ _ _ _
        (failedSessionIds.take (min failedSessionIds.length
          (maxPendingHlsCleanupSessionIds - p.retainedSessionIdCount))) (fun _ => 1) ha
      rw [total_one, total_one] at hes
      constructor
      · show p.retainedSessionIdCount + _ = total List.length (p.byCleanupKey.insert cleanupKey _)
        rw [htot, ← hc, Nat.add_comm]
      · show p.retainedSessionIdCount + _ ≤ _
        omega
      · show (p.byCleanupKey.insert cleanupKey _).entries.length ≤ _
        omega
      · intro key ids hf
        replace hf : (p.byCleanupKey.insert cleanupKey _).lookup key = some ids := hf
        rw [lookup_insert_ite] at hf
        split at hf
        · cases hf
          exact hnodup.sublist (take_sublist _ _)
        · exact h.nodup key ids hf
    · rename_i hkeys
      rw [if_neg hkeys] at hs
      simp at hs
  · exact h

theorem Bounded.record (h : p.Bounded) (cleanupKey : String) (hnodup : failedSessionIds.Nodup) :
    (p.record cleanupKey failedSessionIds).Bounded := by
  have hforgotten := h.forget cleanupKey
  have ha : cleanupKey ∉ (p.forget cleanupKey).byCleanupKey := by
    apply AList.lookup_eq_none.mp
    rw [forget_lookup, if_pos rfl]
  have hretained := hforgotten.retain ha hnodup
  unfold PendingHlsSessionCleanups.record
  dsimp only
  split
  · exact hforgotten
  · split
    · exact ⟨hretained.count, hretained.count_le, hretained.keys_le, hretained.nodup⟩
    · exact hretained

variable {sessionIds : List String}

theorem retain_lookup_of_ne (ho : other ≠ cleanupKey) :
    (p.retain cleanupKey sessionIds).byCleanupKey.lookup other = p.byCleanupKey.lookup other := by
  unfold PendingHlsSessionCleanups.retain
  split
  · show (p.byCleanupKey.insert cleanupKey sessionIds).lookup other = _
    rw [lookup_insert_ite, if_neg ho]
  · rfl

theorem retain_flags :
    (p.retain cleanupKey sessionIds).overflowScan = p.overflowScan ∧
    (p.retain cleanupKey sessionIds).overflowScanRequired = p.overflowScanRequired ∧
    (p.retain cleanupKey sessionIds).overflowScanDirty = p.overflowScanDirty := by
  unfold PendingHlsSessionCleanups.retain
  split
  · exact ⟨rfl, rfl, rfl⟩
  · exact ⟨rfl, rfl, rfl⟩

theorem mem_retain (h : sessionId ∈ sessionIds) :
    sessionId ∈ (p.retain cleanupKey sessionIds).retainedSessionIds := by
  rw [mem_retainedSessionIds]
  refine ⟨cleanupKey, sessionIds, ?_, h⟩
  unfold PendingHlsSessionCleanups.retain
  rw [if_pos (length_pos_of_mem h)]
  exact AList.lookup_insert _

theorem recorded (p : PendingHlsSessionCleanups) (cleanupKey : String)
    (failedSessionIds : List String) :
    Recorded p (p.record cleanupKey failedSessionIds) cleanupKey failedSessionIds := by
  obtain ⟨hscan, hrequired, hdirty⟩ := @forget_flags p cleanupKey
  have hforgotten : ∀ other, other ≠ cleanupKey →
      (p.forget cleanupKey).byCleanupKey.lookup other = p.byCleanupKey.lookup other := by
    intro other ho
    rw [forget_lookup, if_neg ho]
  unfold PendingHlsSessionCleanups.record
  generalize p.forget cleanupKey = q at *
  dsimp only
  split
  · rename_i he
    refine ⟨hforgotten, ?_, hscan, fun hset => hrequired.trans hset, fun hset => hdirty.trans hset⟩
    rw [he]
    simp
  · obtain ⟨hscan', hrequired', hdirty'⟩ := @retain_flags q cleanupKey
      (failedSessionIds.take (q.retainedCount failedSessionIds))
    have hos : ∀ other, other ≠ cleanupKey →
        (q.retain cleanupKey (failedSessionIds.take
          (q.retainedCount failedSessionIds))).byCleanupKey.lookup other =
            p.byCleanupKey.lookup other := by
      intro other ho
      rw [retain_lookup_of_ne ho, hforgotten other ho]
    split
    · exact ⟨hos, fun _ _ => .inr ⟨rfl, rfl⟩, hscan'.trans hscan, fun _ => rfl, fun _ => rfl⟩
    rename_i hall
    refine ⟨hos, ?_, hscan'.trans hscan,
      fun hset => (hrequired'.trans hrequired).trans hset,
      fun hset => (hdirty'.trans hdirty).trans hset⟩
    intro sessionId hm
    apply Or.inl
    apply mem_retain
    rw [take_of_length_le (Nat.le_of_not_lt hall)]
    exact hm

end PendingHlsSessionCleanups

variable {removes : String → Bool}

theorem mem_collectFailures {visited sessionIds : List String} {sessionId : String} :
    sessionId ∈ collectFailures removes visited sessionIds ↔
      sessionId ∈ sessionIds ∧ sessionId ∉ visited ∧ removes sessionId = false := by
  induction sessionIds generalizing visited with
  | nil => simp [collectFailures]
  | cons first rest ih =>
    unfold collectFailures
    split
    · rename_i hvisited
      rw [ih, List.mem_cons]
      constructor
      · rintro ⟨hm, hr⟩
        exact ⟨.inr hm, hr⟩
      · rintro ⟨rfl | hm, hnot, hremoves⟩
        · exact absurd hvisited hnot
        · exact ⟨hm, hnot, hremoves⟩
    · rename_i hvisited
      split
      · rename_i hfst
        rw [ih, List.mem_cons, List.mem_cons, not_or]
        constructor
        · rintro ⟨hm, ⟨-, hnot⟩, hremoves⟩
          exact ⟨.inr hm, hnot, hremoves⟩
        · rintro ⟨hm, hnot, hremoves⟩
          have hne : sessionId ≠ first := by
            rintro rfl
            rw [hfst] at hremoves
            cases hremoves
          exact ⟨hm.resolve_left hne, ⟨hne, hnot⟩, hremoves⟩
      · rename_i hfst
        rw [List.mem_cons, ih, List.mem_cons, List.mem_cons, not_or]
        constructor
        · rintro (rfl | ⟨hm, ⟨-, hnot⟩, hremoves⟩)
          · exact ⟨.inl rfl, hvisited, by simpa using hfst⟩
          · exact ⟨.inr hm, hnot, hremoves⟩
        · rintro ⟨hm, hnot, hremoves⟩
          by_cases hne : sessionId = first
          · exact .inl hne
          · exact .inr ⟨hm.resolve_left hne, ⟨hne, hnot⟩, hremoves⟩

theorem collectFailures_nodup {visited sessionIds : List String} :
    (collectFailures removes visited sessionIds).Nodup := by
  induction sessionIds generalizing visited with
  | nil => exact nodup_nil
  | cons first rest ih =>
    unfold collectFailures
    split
    · exact ih
    split
    · exact ih
    rw [nodup_cons]
    refine ⟨?_, ih⟩
    intro hm
    exact (mem_collectFailures.mp hm).2.1 List.mem_cons_self

namespace CleanupState

open PendingHlsSessionCleanups

variable {s t : CleanupState} {sessionId : String}

def scanInProgress (s : CleanupState) : Option PendingHlsCleanupOverflowScan :=
  match s.batch with
  | some batch => some batch.scan
  | none => s.pending.overflowScan

def WillVisit (s : CleanupState) (sessionId : String) : Prop :=
  match s.scanInProgress with
  | none => s.pending.overflowScanRequired = true
  | some scan => .session sessionId ∈ scan.directories ∨ .unreadable ∈ scan.directories ∨
      scan.retryRequired = true ∨ s.pending.overflowScanDirty = true

structure Remembers (s : CleanupState) : Prop where
  directories : s.failed ⊆ s.directories
  remembered : ∀ sessionId ∈ s.failed,
    sessionId ∈ s.pending.retainedSessionIds ∨ s.WillVisit sessionId

def Careful (s : CleanupState) : CleanupEvent → Prop
  | .deleteLibraryItem _ _ _ => True
  | .removeTaskSession taskId sessionId _ =>
    ∀ previous, s.pending.byCleanupKey.lookup (taskSessionKey taskId sessionId) = some previous →
      previous ⊆ [sessionId]
  | .removeTaskSessionsAfterCancel taskId sessionIds _ =>
    ∀ previous, s.pending.byCleanupKey.lookup (taskKey taskId) = some previous →
      previous ⊆ sessionIds
  | .retryNext _ =>
    ∀ cleanupKey sessionIds, s.retrying.head? = some (cleanupKey, sessionIds) →
      ∀ previous, s.pending.byCleanupKey.lookup cleanupKey = some previous →
        previous ⊆ sessionIds
  | .scanEntry .authorized =>
    ∀ batch sessionId, s.batch = some batch →
      batch.scan.directories.head? = some (.session sessionId) →
        sessionId ∈ s.failed → sessionId ∈ s.pending.retainedSessionIds
  | .scanEntry _ => True
  | .beginRetry => True
  | .beginBatch _ => True
  | .endBatch => True
  | .sessionSaved _ => True
  | .sessionRemoved _ => True

theorem WillVisit.mono (h : s.WillVisit sessionId) (hscan : t.scanInProgress = s.scanInProgress)
    (hrequired : s.pending.overflowScanRequired = true → t.pending.overflowScanRequired = true)
    (hdirty : s.pending.overflowScanDirty = true → t.pending.overflowScanDirty = true) :
    t.WillVisit sessionId := by
  unfold WillVisit at *
  rw [hscan]
  split
  · rename_i hn
    rw [hn] at h
    exact hrequired h
  · rename_i scan hs
    rw [hs] at h
    exact h.imp_right (Or.imp_right (Or.imp_right hdirty))

theorem willVisit_of_flags (hrequired : s.pending.overflowScanRequired = true)
    (hdirty : s.pending.overflowScanDirty = true) : s.WillVisit sessionId := by
  unfold WillVisit
  split
  · exact hrequired
  · exact .inr (.inr (.inr hdirty))

theorem initial_remembers : initial.Remembers where
  directories := Finset.Subset.refl _
  remembered := by simp [initial]

theorem Remembers.track (h : s.Remembers) {cleanupKey : String} {sessionIds : List String}
    (removes : String → Bool)
    (hcovers : ∀ previous, s.pending.byCleanupKey.lookup cleanupKey = some previous →
      previous ⊆ sessionIds) : (s.track cleanupKey sessionIds removes).Remembers := by
  have hrecd := recorded s.pending cleanupKey (collectFailures removes [] sessionIds)
  have hrem : ∀ id, id ∈ (sessionIds.filter fun sessionId => removes sessionId).toFinset ↔
      id ∈ sessionIds ∧ removes id = true := by
    intro id
    rw [mem_toFinset, List.mem_filter]
  constructor
  · intro id hfailed
    show id ∈ s.directories \ _
    rw [mem_sdiff, hrem]
    rcases mem_union.mp hfailed with hold | hn
    · obtain ⟨hold, hnot⟩ := mem_sdiff.mp hold
      rw [hrem] at hnot
      exact ⟨h.directories hold, hnot⟩
    · obtain ⟨hn, hdirectory⟩ := mem_inter.mp hn
      rw [mem_toFinset, mem_collectFailures] at hn
      refine ⟨hdirectory, ?_⟩
      rintro ⟨-, hremoves⟩
      rw [hn.2.2] at hremoves
      cases hremoves
  · intro id hfailed
    have hnow : id ∈ collectFailures removes [] sessionIds →
        id ∈ (s.track cleanupKey sessionIds removes).pending.retainedSessionIds ∨
          (s.track cleanupKey sessionIds removes).WillVisit id := by
      intro hm
      rcases hrecd.covered id hm with hretained | ⟨hrequired, hdirty⟩
      · exact .inl hretained
      · exact .inr (willVisit_of_flags hrequired hdirty)
    rcases mem_union.mp hfailed with hold | hn
    · obtain ⟨hold, hnot⟩ := mem_sdiff.mp hold
      rcases h.remembered id hold with hretained | hvisit
      · obtain ⟨key, ids, hl, hid⟩ := mem_retainedSessionIds.mp hretained
        by_cases hk : key = cleanupKey
        · -- The key is recorded anew; the session was attempted again.
          rw [hk] at hl
          have hattempted := hcovers ids hl hid
          apply hnow
          rw [mem_collectFailures]
          refine ⟨hattempted, by simp, ?_⟩
          rw [hrem, not_and] at hnot
          simpa using hnot hattempted
        · apply Or.inl
          rw [mem_retainedSessionIds]
          exact ⟨key, ids, (hrecd.others key hk).trans hl, hid⟩
      · apply Or.inr
        apply hvisit.mono _ hrecd.required hrecd.dirty
        unfold scanInProgress
        show (match s.batch with
          | some batch => some batch.scan
          | none => (s.pending.record cleanupKey _).overflowScan) = _
        rw [hrecd.scan]
    · apply hnow
      rw [← mem_toFinset]
      exact (mem_inter.mp hn).1

theorem Remembers.dropDirectory (h : s.Remembers) (sessionId : String) :
    (s.dropDirectory sessionId).Remembers where
  directories := erase_subset_erase _ h.directories
  remembered := fun id hid => h.remembered id (Finset.mem_of_mem_erase hid)

variable {rest : List DirectoryEntry}

theorem WillVisit.next {batch next : RunningBatch} {entry : DirectoryEntry}
    (h : s.WillVisit sessionId) (hbatch : s.batch = some batch)
    (he : batch.scan.directories = entry :: rest) (ht : t.batch = some next)
    (hp : t.pending = s.pending) (hr : next.scan.directories = rest)
    (hretry : batch.scan.retryRequired = true → next.scan.retryRequired = true)
    (hskip : entry = .session sessionId ∨ entry = .unreadable → next.scan.retryRequired = true) :
    t.WillVisit sessionId := by
  unfold WillVisit scanInProgress at *
  rw [hbatch] at h
  rw [ht]
  dsimp only at h ⊢
  rw [he] at h
  rw [hr, hp]
  rcases h with hs | hunreadable | hfl | hdirty
  · rcases List.mem_cons.mp hs with heq | hm
    · exact .inr (.inr (.inl (hskip (.inl heq.symm))))
    · exact .inl hm
  · rcases List.mem_cons.mp hunreadable with heq | hm
    · exact .inr (.inr (.inl (hskip (.inr heq.symm))))
    · exact .inr (.inl hm)
  · exact .inr (.inr (.inl (hretry hfl)))
  · exact .inr (.inr (.inr hdirty))

theorem Remembers.scanEntry {batch : RunningBatch} {entry : DirectoryEntry} {outcome : ScanOutcome}
    (h : s.Remembers) (hbatch : s.batch = some batch)
    (he : batch.scan.directories = entry :: rest) (hcare : s.Careful (.scanEntry outcome)) :
    (s.scanEntry batch entry rest outcome).Remembers := by
  -- A retry covers every session, whatever was skipped.
  have hretries : ∀ budget, Remembers { s with batch := some ⟨⟨rest, true⟩, budget⟩ } := by
    intro budget
    refine ⟨h.directories, fun id hid => (h.remembered id hid).imp_right fun hvisit => ?_⟩
    exact hvisit.next hbatch he rfl rfl rfl (fun _ => rfl) fun _ => rfl
  have hn : (∀ id ∈ s.failed, entry = .session id ∨ entry = .unreadable →
      id ∈ s.pending.retainedSessionIds) → ∀ budget,
        Remembers { s with batch := some ⟨⟨rest, batch.scan.retryRequired⟩, budget⟩ } := by
    intro hskips budget
    refine ⟨h.directories, fun id hid => ?_⟩
    by_cases hskip : entry = .session id ∨ entry = .unreadable
    · exact .inl (hskips id hid hskip)
    · exact (h.remembered id hid).imp_right fun hvisit =>
        hvisit.next hbatch he rfl rfl rfl (fun hfl => hfl)
          fun he => absurd he hskip
  cases entry with
  | other => exact hn (fun id _ hskip => by simp at hskip) _
  | unreadable => exact hretries _
  | session found =>
    cases outcome with
    | authorized =>
      apply hn
      intro id hid hskip
      obtain rfl : found = id := by simpa using hskip
      exact hcare batch found hbatch (by rw [he]; rfl) hid
    | retryLater | persistenceLost | notGuarded | failed => exact hretries _
    | removed =>
      have hdropped := h.dropDirectory found
      refine ⟨hdropped.directories, fun id hid => ?_⟩
      have hne : id ≠ found := ne_of_mem_erase hid
      refine (hdropped.remembered id hid).imp_right fun hvisit => ?_
      exact hvisit.next hbatch he rfl rfl rfl (fun hfl => hfl)
        fun hskip => by simp [hne.symm] at hskip

theorem Remembers.beginBatch {listing : Option (List DirectoryEntry)}
    {pending : PendingHlsSessionCleanups} {scan : PendingHlsCleanupOverflowScan} {budget : Nat}
    (h : s.Remembers) (hbatch : s.batch = none)
    (hlist : ∀ directories, listing = some directories → Lists s.directories directories)
    (hscan : s.pending.takeOrStartOverflowScan listing = (pending, some scan)) :
    Remembers { s with pending := pending, batch := some ⟨scan, budget⟩ } := by
  unfold takeOrStartOverflowScan at hscan
  cases hstor : s.pending.overflowScan with
  | some stored =>
    rw [hstor] at hscan
    cases hscan
    refine ⟨h.directories, fun id hid => (h.remembered id hid).imp_right fun hvisit => ?_⟩
    unfold WillVisit scanInProgress at *
    rw [hbatch] at hvisit
    rw [hstor] at hvisit
    exact hvisit
  | none =>
    rw [hstor] at hscan
    dsimp only at hscan
    split at hscan
    · cases listing with
      | none => cases hscan
      | some directories =>
        cases hscan
        refine ⟨h.directories, fun id hid => .inr ?_⟩
        -- The listing shows every directory.
        rcases hlist directories rfl id (h.directories hid) with hs | hunreadable
        · exact .inl hs
        · exact .inr (.inl hunreadable)
    · cases hscan

theorem Remembers.step {event : CleanupEvent} (h : s.Remembers) (hst : CleanupStep s event t)
    (hcare : s.Careful event) : t.Remembers := by
  cases hst with
  | deleteLibraryItem libraryItemId sessionIds removes hp =>
    apply h.track
    intro previous hprev
    rw [hp previous hprev]
    exact List.Subset.refl _
  | removeTaskSession taskId sessionId removes
  | removeTaskSessionsAfterCancel taskId sessionIds removes => exact h.track removes hcare
  | beginRetry hretrying hbatch => exact ⟨h.directories, h.remembered⟩
  | @retryNext removes cleanupKey sessionIds rest hretrying =>
    have htracked := h.track removes (hcare cleanupKey sessionIds (by rw [hretrying]; rfl))
    exact ⟨htracked.directories, htracked.remembered⟩
  | beginBatch listing hbatch hlist hscan => exact h.beginBatch hbatch hlist hscan
  | scanEntry outcome hbatch hbudget he => exact h.scanEntry hbatch he hcare
  | @finishBatch batch hbatch hbudget hempty =>
    refine ⟨h.directories, fun id hid => (h.remembered id hid).imp_right fun hvisit => ?_⟩
    unfold WillVisit scanInProgress at hvisit
    rw [hbatch] at hvisit
    dsimp only at hvisit
    rw [hempty] at hvisit
    -- Nothing is left before the scan, so another one follows.
    show (batch.scan.retryRequired || s.pending.overflowScanDirty) = true
    simpa using hvisit
  | @putBack batch hbatch hbudget =>
    refine ⟨h.directories, fun id hid => (h.remembered id hid).imp_right fun hvisit => ?_⟩
    unfold WillVisit scanInProgress at hvisit
    rw [hbatch] at hvisit
    exact hvisit
  | sessionSaved sessionId =>
    exact ⟨h.directories.trans (Finset.subset_insert _ _), h.remembered⟩
  | sessionRemoved sessionId => exact h.dropDirectory sessionId

theorem bounded_step {event : CleanupEvent} (hst : CleanupStep s event t)
    (h : s.pending.Bounded) : t.pending.Bounded := by
  have htrack : ∀ cleanupKey sessionIds removes,
      (s.track cleanupKey sessionIds removes).pending.Bounded :=
    fun cleanupKey sessionIds removes => h.record cleanupKey collectFailures_nodup
  cases hst with
  | deleteLibraryItem | removeTaskSession | removeTaskSessionsAfterCancel => exact htrack _ _ _
  | beginRetry | sessionSaved | sessionRemoved => exact h
  | retryNext => exact htrack _ _ _
  | beginBatch listing hbatch hlist hscan =>
    unfold takeOrStartOverflowScan at hscan
    split at hscan
    · cases hscan
      exact ⟨h.count, h.count_le, h.keys_le, h.nodup⟩
    split at hscan
    · split at hscan
      · cases hscan
      · cases hscan
        exact ⟨h.count, h.count_le, h.keys_le, h.nodup⟩
    · cases hscan
  | @scanEntry outcome batch entry rest =>
    cases entry with
    | other | unreadable => exact h
    | session found =>
      cases outcome with
      | authorized | retryLater | persistenceLost | notGuarded | removed | failed => exact h
  | finishBatch | putBack => exact ⟨h.count, h.count_le, h.keys_le, h.nodup⟩

theorem bounded_of_run {events : List CleanupEvent} (hrun : Run CleanupStep .initial events s) :
    s.pending.Bounded :=
  hrun.invariant (fun s => s.pending.Bounded) (fun hst => bounded_step hst) bounded_default

/-- In every run of careful steps the caps hold and no failed cleanup is forgotten. -/
theorem failed_cleanups_remembered {events : List CleanupEvent}
    (hrun : Run (Guarded CleanupStep Careful) .initial events s) :
    s.pending.Bounded ∧ s.Remembers := by
  refine ⟨bounded_of_run hrun.of_guarded, ?_⟩
  apply hrun.invariant Remembers
  · intro a b event hstep ha
    exact ha.step hstep.1 hstep.2
  · exact initial_remembers

/-- A cancellation whose removal fails, and is repeated with the same session. -/
theorem failed_cleanups_remembered_repeated :
    ∃ s, Run (Guarded CleanupStep Careful) .initial
        [.sessionSaved "s", .removeTaskSessionsAfterCancel "t" ["s"] fun _ => false,
          .removeTaskSessionsAfterCancel "t" ["s"] fun _ => false] s ∧
      s.pending.Bounded ∧ s.Remembers := by
  have hsaved : Run (Guarded CleanupStep Careful) .initial [.sessionSaved "s"] _ :=
    Run.single ⟨.sessionSaved _ "s", trivial⟩
  have hfailed := hsaved.snoc
    ⟨.removeTaskSessionsAfterCancel _ "t" ["s"] fun _ => false, fun previous hprevious => by
      cases hprevious⟩
  have hrepeated := hfailed.snoc
    ⟨.removeTaskSessionsAfterCancel _ "t" ["s"] fun _ => false, fun previous hprevious => by
      cases hprevious
      exact List.Subset.refl _⟩
  exact ⟨_, hrepeated, failed_cleanups_remembered hrepeated⟩

/-- The task of a second cancellation has no sessions any more; the one whose removal failed is
forgotten. -/
theorem cancelled_cleanup_forgotten :
    ∃ s, Run CleanupStep .initial
        [.sessionSaved "s", .removeTaskSessionsAfterCancel "t" ["s"] fun _ => false,
          .removeTaskSessionsAfterCancel "t" [] fun _ => true] s ∧
      "s" ∈ s.failed ∧ "s" ∉ s.pending.retainedSessionIds ∧ ¬ s.WillVisit "s" := by
  have hsaved : Run CleanupStep .initial [.sessionSaved "s"] _ :=
    Run.single (.sessionSaved _ "s")
  have hfailed := hsaved.snoc (.removeTaskSessionsAfterCancel _ "t" ["s"] fun _ => false)
  have hforgotten := hfailed.snoc (.removeTaskSessionsAfterCancel _ "t" [] fun _ => true)
  refine ⟨_, hforgotten, by decide, by decide, ?_⟩
  intro hvisit
  cases hvisit

end CleanupState

end NetPlayer.Hls
