import NetPlayer.Eviction.Pass

/-!
# What a pass removes

A pass removes no protected session, takes the sessions of an entry together, and only after the
task that the entry belongs to has been removed; it counts each session out of the usage once, and
removes nothing once the usage is at its target.
-/

namespace NetPlayer.Eviction

open List CompletedTurn EvictionEvent

theorem nodup_sortedIds (ids : List String) : (sortedIds ids).Nodup := nodup_dedup _

theorem nodup_playbackHlsSessionIds (tasks : List Tasks.Task) (id : String) :
    (playbackHlsSessionIds tasks id).Nodup := by
  unfold playbackHlsSessionIds
  split
  · exact nodup_nil
  · cases tasks.find? fun task => task.id == id with
    | none => exact nodup_nil
    | some task => exact nodup_sortedIds _

theorem nodup_sessionIds (turn : CompletedTurn) (entry : HlsCacheCompletedEntry) :
    (turn.sessionIds entry).Nodup := by
  unfold CompletedTurn.sessionIds completedHlsDeleteSessionIds
  simp only
  split
  · exact nodup_singleton _
  cases completedPlaybackTaskForAnyHlsSession (turn.tasks 0) entry.sessionId with
  | none => exact nodup_nil
  | some task =>
    rw [Option.elim_some]
    split
    · exact nodup_playbackHlsSessionIds _ _
    · exact nodup_nil

variable {sessionIds : List String}

theorem of_not_isProtected {protectedIds : List String} {finalizing : String → Bool}
    (h : ¬ isProtected sessionIds protectedIds finalizing = true) :
    ∀ sessionId ∈ sessionIds, sessionId ∉ protectedIds ∧ finalizing sessionId = false := by
  unfold isProtected at h
  rw [any_eq_true] at h
  intro sessionId hmem
  have hfree : (protectedIds.contains sessionId || finalizing sessionId) = false :=
    Bool.eq_false_iff.mpr fun hprotected => h ⟨sessionId, hmem, hprotected⟩
  rw [Bool.or_eq_false_iff] at hfree
  exact ⟨by simpa using hfree.1, hfree.2⟩

theorem foldl_evicted {evicted : List String} (nodup : sessionIds.Nodup)
    (new : ∀ sessionId ∈ sessionIds, sessionId ∉ evicted) :
    sessionIds.foldl (fun evicted sessionId =>
      if evicted.contains sessionId then evicted else evicted ++ [sessionId]) evicted =
        evicted ++ sessionIds := by
  induction sessionIds generalizing evicted with
  | nil => simp
  | cons first rest ih =>
    obtain ⟨hfst, hr⟩ := nodup_cons.mp nodup
    have hnew : evicted.contains first = false := by
      simpa using new first mem_cons_self
    rw [foldl_cons, hnew, if_neg (by simp), ih hr]
    · simp
    · intro sessionId hmem hevicted
      rcases mem_append.mp hevicted with hold | hsingle
      · exact new sessionId (mem_cons_of_mem _ hmem) hold
      · exact hfst (mem_singleton.mp hsingle ▸ hmem)

theorem foldl_saturatingAdd (sizeOf : String → Nat) (sessionIds : List String) {total : Nat}
    (bounded : total ≤ u64Max) :
    sessionIds.foldl (fun total sessionId => saturatingAdd total (sizeOf sessionId)) total =
      min (total + (sessionIds.map sizeOf).sum) u64Max := by
  induction sessionIds generalizing total with
  | nil => simp [Nat.min_eq_left bounded]
  | cons first rest ih =>
    have hbdd : saturatingAdd total (sizeOf first) ≤ u64Max := Nat.min_le_right _ _
    rw [foldl_cons, ih hbdd, map_cons, sum_cons]
    unfold saturatingAdd
    omega

structure Counted (s : EvictionState) (started : Nat) (counted : List (String × Nat)) : Prop where
  sessionIds : s.evictedSessionIds = counted.map Prod.fst
  nodup : (counted.map Prod.fst).Nodup
  finished : s.finishedUsedBytes = started - (counted.map Prod.snd).sum
  evicted : s.evictedBytes = min (counted.map Prod.snd).sum u64Max

theorem Counted.evict {s : EvictionState} {started : Nat} {counted : List (String × Nat)}
    (holds : Counted s started counted) (bounded : started ≤ u64Max) {sizeOf : String → Nat}
    {bytes : Nat} (nodup : sessionIds.Nodup)
    (new : ∀ sessionId ∈ sessionIds, sessionId ∉ s.evictedSessionIds)
    (hbytes : bytes = min (sessionIds.map sizeOf).sum u64Max) :
    Counted (s.evicted sessionIds bytes) started
      (counted ++ sessionIds.map fun sessionId => (sessionId, sizeOf sessionId)) := by
  have hids : (sessionIds.map fun sessionId => (sessionId, sizeOf sessionId)).map Prod.fst =
      sessionIds := by
    rw [map_map]
    exact map_id _
  have hsizes : (sessionIds.map fun sessionId => (sessionId, sizeOf sessionId)).map Prod.snd =
      sessionIds.map sizeOf := by
    rw [map_map]
    rfl
  constructor
  · rw [map_append, hids, ← holds.sessionIds]
    exact foldl_evicted nodup new
  · rw [map_append, hids, ← holds.sessionIds]
    refine List.Nodup.append (holds.sessionIds ▸ holds.nodup) nodup ?_
    exact fun sessionId hold hnew => new sessionId hnew hold
  · rw [map_append, hsizes, sum_append]
    change s.finishedUsedBytes - bytes = _
    rw [holds.finished, hbytes]
    omega
  · rw [map_append, hsizes, sum_append]
    change saturatingAdd s.evictedBytes bytes = _
    unfold saturatingAdd
    rw [holds.evicted, hbytes]
    omega

structure SafeRemoval (plan : EvictionPlan) (events : List EvictionEvent)
    (entry : HlsCacheCompletedEntry) (turn : CompletedTurn) (sessionId : String)
    (removed : Bool) (used : Nat) : Prop where
  group : sessionId ∈ turn.sessionIds entry
  unprotected : sessionId ∉ plan.groupProtected
  notFinalizing : turn.finalizingRemoval sessionId = false
  exceeded : plan.targetUsedBytes < used
  whole : ∀ other ∈ turn.sessionIds entry,
    EvictionEvent.removeSession entry turn other (turn.removes other).isNone used ∈ events
  accepted : ∀ item, turn.cleanupItem entry = some item →
    [removeTask entry item true,
      EvictionEvent.removeSession entry turn sessionId removed used].Sublist events

structure SafeResources (plan : EvictionPlan) (entry : HlsCachePartialEntry)
    (turn : PartialTurn) (used : Nat) : Prop where
  unprotected : entry.sessionId ∉ plan.groupProtected
  notFinalizing : turn.finalizingRemoval = false
  exceeded : plan.targetUsedBytes < used

def Evicted (plan : EvictionPlan) (events : List EvictionEvent) (counted : String × Nat) : Prop :=
  (∃ entry turn used, EvictionEvent.removeSession entry turn counted.1 true used ∈ events ∧
    counted.2 = plan.sizeOf counted.1) ∨
  ∃ entry turn used, EvictionEvent.removeResources entry turn true used ∈ events ∧
    (entry.sessionId, entry.sizeBytes) = counted

structure Sound (plan : EvictionPlan) (started : Nat) (s : EvictionState) : Prop where
  session : ∀ entry turn sessionId removed used,
    .removeSession entry turn sessionId removed used ∈ s.events →
      SafeRemoval plan s.events entry turn sessionId removed used
  resources : ∀ entry turn removed used, .removeResources entry turn removed used ∈ s.events →
    SafeResources plan entry turn used
  counted : ∃ counted, Counted s started counted ∧ ∀ c ∈ counted, Evicted plan s.events c

structure Clean (events : List EvictionEvent) : Prop where
  session : ∀ entry turn sessionId removed used,
    EvictionEvent.removeSession entry turn sessionId removed used ∈ events → removed = true
  resources : ∀ entry turn removed used,
    EvictionEvent.removeResources entry turn removed used ∈ events → removed = true

def EvictionEvent.isRemoval : EvictionEvent → Bool
  | .removeSession .. | .removeResources .. => true
  | _ => false

section

variable {plan : EvictionPlan} {started : Nat} {s : EvictionState}

variable {events new : List EvictionEvent} {entry : HlsCacheCompletedEntry} {turn : CompletedTurn}

theorem SafeRemoval.mono {sessionId : String} {removed : Bool} {used : Nat}
    (safe : SafeRemoval plan events entry turn sessionId removed used) :
    SafeRemoval plan (events ++ new) entry turn sessionId removed used :=
  { safe with
    whole := fun other ho => mem_append_left _ (safe.whole other ho)
    accepted := fun item hitem =>
      (safe.accepted item hitem).trans (sublist_append_left _ _) }

theorem Evicted.mono {counted : String × Nat} (evicted : Evicted plan events counted) :
    Evicted plan (events ++ new) counted := by
  rcases evicted with ⟨entry, turn, used, hmem, hsize⟩ | ⟨entry, turn, used, hmem, heq⟩
  · exact .inl ⟨entry, turn, used, mem_append_left _ hmem, hsize⟩
  · exact .inr ⟨entry, turn, used, mem_append_left _ hmem, heq⟩

variable (sound : Sound plan started s)

include sound in
theorem Sound.append (session : ∀ entry turn sessionId removed used,
      .removeSession entry turn sessionId removed used ∈ new →
        SafeRemoval plan (s.events ++ new) entry turn sessionId removed used)
    (resources : ∀ entry turn removed used, .removeResources entry turn removed used ∈ new →
      SafeResources plan entry turn used) : Sound plan started (s.emit new) where
  session := by
    intro entry turn sessionId removed used hmem
    rcases mem_append.mp hmem with hold | hnew
    · exact (sound.session entry turn sessionId removed used hold).mono
    · exact session entry turn sessionId removed used hnew
  resources := by
    intro entry turn removed used hmem
    rcases mem_append.mp hmem with hold | hnew
    · exact sound.resources entry turn removed used hold
    · exact resources entry turn removed used hnew
  counted := by
    obtain ⟨counted, hcounted, hevicted⟩ := sound.counted
    exact ⟨counted, { hcounted with },
      fun c hc => (hevicted c hc).mono⟩

include sound in
theorem Sound.emit (harmless : ∀ event ∈ new, event.isRemoval = false) :
    Sound plan started (s.emit new) := by
  refine sound.append ?_ ?_
  · intro entry turn sessionId removed used hmem
    cases harmless _ hmem
  · intro entry turn removed used hmem
    cases harmless _ hmem

theorem Clean.append (clean : Clean events) (cleanNew : Clean new) : Clean (events ++ new) where
  session := fun entry turn sessionId removed used hmem =>
    (mem_append.mp hmem).elim (clean.session entry turn sessionId removed used)
      (cleanNew.session entry turn sessionId removed used)
  resources := fun entry turn removed used hmem =>
    (mem_append.mp hmem).elim (clean.resources entry turn removed used)
      (cleanNew.resources entry turn removed used)

theorem clean_of_harmless (harmless : ∀ event ∈ new, event.isRemoval = false) : Clean new where
  session := fun _ _ _ _ _ hmem => nomatch harmless _ hmem
  resources := fun _ _ _ _ hmem => nomatch harmless _ hmem

theorem harmless_failedTask (entry : HlsCacheCompletedEntry) (found : Evictability) :
    ∀ event ∈ failedTask entry found, event.isRemoval = false := by
  intro event hmem
  cases found <;> simp only [failedTask, not_mem_nil, mem_singleton] at hmem
  subst hmem
  rfl

theorem harmless_removeEvictedTask (turn : CompletedTurn) (entry : HlsCacheCompletedEntry) :
    ∀ event ∈ (turn.removeEvictedTask entry).1, event.isRemoval = false := by
  unfold removeEvictedTask
  intro event hmem
  split at hmem
  · exact (not_mem_nil hmem).elim
  · rw [mem_singleton.mp hmem]
    rfl

theorem removeEvictedTask_accepted {item : String × String}
    (h : turn.removeEvictedTask entry = (events, .ok true))
    (hitem : turn.cleanupItem entry = some item) :
    removeTask entry item true ∈ events := by
  unfold removeEvictedTask at h
  rw [hitem] at h
  simp only [Prod.mk.injEq] at h
  obtain ⟨rfl, hremoves⟩ := h
  rw [hremoves]
  exact mem_singleton.mpr rfl

include sound in
theorem Sound.removals (cleanup : List String)
    (exceeded : plan.targetUsedBytes < s.finishedUsedBytes)
    (free : ∀ sessionId ∈ turn.sessionIds entry, sessionId ∉ plan.groupProtected ∧
      turn.finalizingRemoval sessionId = false)
    (harmless : ∀ event ∈ events, event.isRemoval = false)
    (accepted : ∀ item, turn.cleanupItem entry = some item →
      removeTask entry item true ∈ events) :
    Sound plan started (s.emit (events ++ (turn.sessionIds entry).map (fun sessionId =>
      .removeSession entry turn sessionId (turn.removes sessionId).isNone s.finishedUsedBytes) ++
        [.recordCleanup entry.libraryItemId cleanup])) := by
  have hrems : ∀ sessionId ∈ turn.sessionIds entry,
      EvictionEvent.removeSession entry turn sessionId (turn.removes sessionId).isNone
        s.finishedUsedBytes ∈ (turn.sessionIds entry).map (fun sessionId =>
          EvictionEvent.removeSession entry turn sessionId (turn.removes sessionId).isNone
            s.finishedUsedBytes) :=
    fun sessionId hmem => mem_map.mpr ⟨sessionId, hmem, rfl⟩
  refine sound.append ?_ ?_
  · intro other otherTurn sessionId removed used hmem
    rcases mem_append.mp hmem with hmem | hrec
    · rcases mem_append.mp hmem with hevent | hremoval
      · cases harmless _ hevent
      obtain ⟨chosen, hchos, heq⟩ := mem_map.mp hremoval
      cases heq
      obtain ⟨hfree, hfinalizing⟩ := free sessionId hchos
      refine { group := hchos, unprotected := hfree, notFinalizing := hfinalizing,
               exceeded := exceeded, whole := ?_, accepted := ?_ }
      · intro member hmember
        exact mem_append_right _ (mem_append_left _
          (mem_append_right _ (hrems member hmember)))
      · intro item hitem
        refine List.Sublist.trans ?_ (sublist_append_right _ _)
        refine List.Sublist.trans ?_ (sublist_append_left _ _)
        exact List.Sublist.append (singleton_sublist.mpr (accepted item hitem))
          (singleton_sublist.mpr (hrems sessionId hchos))
    · cases mem_singleton.mp hrec
  · intro other otherTurn removed used hmem
    rcases mem_append.mp hmem with hmem | hrec
    · rcases mem_append.mp hmem with hevent | hremoval
      · cases harmless _ hevent
      · obtain ⟨chosen, -, heq⟩ := mem_map.mp hremoval
        cases heq
    · cases mem_singleton.mp hrec

include sound in
theorem Sound.evict {bytes : Nat} (sizeOf : String → Nat)
    (bounded : started ≤ u64Max) (nodup : sessionIds.Nodup)
    (new : ∀ sessionId ∈ sessionIds, sessionId ∉ s.evictedSessionIds)
    (hbytes : bytes = min (sessionIds.map sizeOf).sum u64Max)
    (evicted : ∀ sessionId ∈ sessionIds, Evicted plan s.events (sessionId, sizeOf sessionId)) :
    Sound plan started (s.evicted sessionIds bytes) where
  session := sound.session
  resources := sound.resources
  counted := by
    obtain ⟨counted, hcounted, hevicted⟩ := sound.counted
    refine ⟨_, hcounted.evict bounded nodup new hbytes, fun c hc => ?_⟩
    rcases mem_append.mp hc with hold | hnew
    · exact hevicted c hold
    · obtain ⟨sessionId, hmem, rfl⟩ := mem_map.mp hnew
      exact evicted sessionId hmem

structure Turned (plan : EvictionPlan) (started : Nat) (result : EvictionState × TurnEnd) :
    Prop where
  sound : Sound plan started result.1
  clean : (∀ error, result.2 ≠ .failed error) → Clean result.1.events

include sound in
theorem Turned.of_same (clean : Clean s.events) (outcome : TurnEnd) :
    Turned plan started (s, outcome) :=
  ⟨sound, fun _ => clean⟩

include sound in
theorem turned_evictGroup (clean : Clean s.events) (bounded : started ≤ u64Max)
    (exceeded : plan.targetUsedBytes < s.finishedUsedBytes)
    (new : ∀ sessionId ∈ turn.sessionIds entry, sessionId ∉ s.evictedSessionIds)
    (free : ∀ sessionId ∈ turn.sessionIds entry, sessionId ∉ plan.groupProtected ∧
      turn.finalizingRemoval sessionId = false) :
    Turned plan started (evictGroup plan s entry turn (turn.sessionIds entry)) := by
  unfold evictGroup
  split
  · exact Turned.of_same sound clean _
  · exact Turned.of_same sound clean _
  have htask := harmless_removeEvictedTask turn entry
  split
  · rename_i events error heq
    rw [heq] at htask
    exact Turned.of_same (sound.emit htask) (clean.append (clean_of_harmless htask)) _
  · rename_i events heq
    rw [heq] at htask
    exact Turned.of_same (sound.emit htask) (clean.append (clean_of_harmless htask)) _
  · rename_i events heq
    rw [heq] at htask
    have hrem := sound.removals
      ((turn.sessionIds entry).filter fun sessionId => (turn.removes sessionId).isSome) exceeded free
      htask fun item hitem => removeEvictedTask_accepted heq hitem
    split
    · rename_i error hfailed
      exact ⟨hrem, fun hended => (hended error rfl).elim⟩
    rename_i hnone
    rw [List.findSome?_eq_none_iff] at hnone
    have hclean : Clean ((turn.sessionIds entry).map fun sessionId =>
        EvictionEvent.removeSession entry turn sessionId (turn.removes sessionId).isNone
          s.finishedUsedBytes) := by
      constructor
      · intro other otherTurn sessionId removed used hmem
        obtain ⟨chosen, hchos, heq⟩ := mem_map.mp hmem
        cases heq
        rw [hnone sessionId hchos]
        rfl
      · intro other otherTurn removed used hmem
        obtain ⟨chosen, -, heq⟩ := mem_map.mp hmem
        cases heq
    refine ⟨hrem.evict plan.sizeOf bounded (nodup_sessionIds turn entry) new
      ((foldl_saturatingAdd plan.sizeOf _ (Nat.zero_le _)).trans (by rw [Nat.zero_add])) ?_,
      fun _ => clean.append (((clean_of_harmless htask).append hclean).append
        (clean_of_harmless fun event hmem => by rw [mem_singleton.mp hmem]; rfl))⟩
    intro sessionId hmem
    refine .inl ⟨entry, turn, s.finishedUsedBytes, ?_, rfl⟩
    refine mem_append_right _ (mem_append_left _ (mem_append_right _ ?_))
    exact mem_map.mpr ⟨sessionId, hmem, by rw [hnone sessionId hmem]; rfl⟩

theorem turned_evictCompletedEntry (covers : ∀ id ∈ plan.groupProtected, id ∈ plan.stableProtected)
    (sound : Sound plan started s) (clean : Clean s.events) (bounded : started ≤ u64Max)
    (exceeded : plan.targetUsedBytes < s.finishedUsedBytes)
    (candidate : HlsCacheCompletedEntry × CompletedTurn) :
    Turned plan started (evictCompletedEntry plan s candidate) := by
  obtain ⟨entry, turn⟩ := candidate
  have hfail := harmless_failedTask entry
  have hsame := fun outcome => Turned.of_same sound clean outcome
  have hsel := fun outcome => Turned.of_same (sound.emit (hfail
    (evictability turn.tasks turn.persistenceAvailable 5 entry)))
    (clean.append (clean_of_harmless (hfail _))) outcome
  unfold evictCompletedEntry
  simp only
  split
  · exact hsame _
  split
  · exact hsame _
  split
  · exact hsame _
  rename_i hnew
  split
  · exact hsame _
  split
  · exact hsel _
  split
  · exact hsel _
  split
  · exact hsel _
  split
  · exact hsel _
  split
  · exact hsel _
  rename_i hfree
  have hconf := (sound.emit (hfail
    (evictability turn.tasks turn.persistenceAvailable 5 entry))).emit (hfail
      (evictability turn.tasks turn.persistenceAvailableLocked 10 entry))
  have hclean : Clean ((s.emit (failedTask entry (evictability turn.tasks
      turn.persistenceAvailable 5 entry))).emit (failedTask entry (evictability turn.tasks
        turn.persistenceAvailableLocked 10 entry))).events :=
    (clean.append (clean_of_harmless (hfail _))).append (clean_of_harmless (hfail _))
  split
  · exact Turned.of_same hconf hclean _
  refine turned_evictGroup hconf hclean bounded exceeded ?_ ?_
  · intro sessionId hmem hevicted
    refine hnew (any_eq_true.mpr ⟨sessionId, hmem, ?_⟩)
    exact contains_iff_mem.mpr hevicted
  · intro sessionId hmem
    obtain ⟨hunprotected, hfinalizing⟩ := of_not_isProtected hfree sessionId hmem
    refine ⟨fun hprotected => hunprotected ?_, ?_⟩
    · unfold protectedFor
      split
      · exact hprotected
      · exact covers sessionId hprotected
    · exact Bool.eq_false_iff.mpr fun hremoval => by
        rw [turn.kept sessionId hremoval] at hfinalizing
        cases hfinalizing

include sound in
theorem turned_evictPartialEntry (clean : Clean s.events) (bounded : started ≤ u64Max)
    (exceeded : plan.targetUsedBytes < s.finishedUsedBytes)
    (candidate : HlsCachePartialEntry × PartialTurn) (sized : candidate.1.sizeBytes ≤ u64Max) :
    Turned plan started (evictPartialEntry plan s candidate) := by
  obtain ⟨entry, turn⟩ := candidate
  have hsame := fun outcome => Turned.of_same sound clean outcome
  unfold evictPartialEntry
  simp only
  split
  · exact hsame _
  rename_i hnew
  split
  · exact hsame _
  split
  · exact hsame _
  split
  · exact hsame _
  split
  · exact hsame _
  rename_i hfree
  rw [Bool.not_eq_true, Bool.or_eq_false_iff] at hfree
  split
  · exact hsame _
  · exact hsame _
  have hrem : Sound plan started (s.emit
      [.removeResources entry turn turn.removes.isNone s.finishedUsedBytes]) := by
    refine sound.append ?_ ?_
    · intro other otherTurn sessionId removed used hmem
      cases mem_singleton.mp hmem
    · intro other otherTurn removed used hmem
      cases mem_singleton.mp hmem
      refine { unprotected := by simpa using hfree.1, notFinalizing := ?_, exceeded := exceeded }
      exact Bool.eq_false_iff.mpr fun hremoval => by
        rw [turn.kept hremoval] at hfree
        cases hfree.2
  split
  · exact ⟨hrem, fun hended => (hended _ rfl).elim⟩
  rename_i hnone
  refine ⟨hrem.evict (fun _ => entry.sizeBytes) bounded (nodup_singleton _) ?_ ?_ ?_,
    fun _ => clean.append ?_⟩
  · intro sessionId hmem hevicted
    rw [mem_singleton.mp hmem] at hevicted
    exact hnew (contains_iff_mem.mpr hevicted)
  · simp [Nat.min_eq_left sized]
  · intro sessionId hmem
    rw [mem_singleton.mp hmem]
    refine .inr ⟨entry, turn, s.finishedUsedBytes, mem_append_right _ ?_, rfl⟩
    rw [hnone]
    exact mem_singleton.mpr rfl
  · constructor
    · intro other otherTurn sessionId removed used hmem
      cases mem_singleton.mp hmem
    · intro other otherTurn removed used hmem
      cases mem_singleton.mp hmem
      rw [hnone]
      rfl

theorem turned_evictEach {α : Type} {evict : EvictionState → α → EvictionState × TurnEnd}
    {candidates : List α}
    (turns : ∀ candidate ∈ candidates, ∀ s, Sound plan started s → Clean s.events →
      plan.targetUsedBytes < s.finishedUsedBytes → Turned plan started (evict s candidate))
    (sound : Sound plan started s) (clean : Clean s.events) :
    Turned plan started (evictEach plan.targetUsedBytes evict candidates s) := by
  induction candidates generalizing s with
  | nil => exact Turned.of_same sound clean _
  | cons candidate rest ih =>
    unfold evictEach
    split
    · exact Turned.of_same sound clean _
    rename_i hover
    have hturned := turns candidate mem_cons_self s sound clean (not_le.mp hover)
    split
    · rename_i after heq
      rw [heq] at hturned
      exact ih (fun other ho => turns other (mem_cons_of_mem _ ho)) hturned.sound
        (hturned.clean nofun)
    · rename_i after outcome _ heq
      rw [heq] at hturned
      exact hturned

end

theorem sound_start (plan : EvictionPlan) (store : StoreReads) :
    Sound plan store.usedBytes (QuotaPass.start store) where
  session := fun _ _ _ _ _ hmem => (not_mem_nil hmem).elim
  resources := fun _ _ _ _ hmem => (not_mem_nil hmem).elim
  counted := ⟨[], ⟨rfl, nodup_nil, rfl, rfl⟩, fun _ hc => (not_mem_nil hc).elim⟩

theorem clean_nil : Clean [] where
  session := fun _ _ _ _ _ hmem => (not_mem_nil hmem).elim
  resources := fun _ _ _ _ hmem => (not_mem_nil hmem).elim

theorem QuotaPass.turned_evict (pass : QuotaPass) (store : StoreReads) :
    Turned (pass.plan store) store.usedBytes (pass.evict store) := by
  have hcompl : Turned (pass.plan store) store.usedBytes
      (evictEach (pass.plan store).targetUsedBytes (evictCompletedEntry (pass.plan store))
        store.completed (start store)) := by
    refine turned_evictEach ?_ (sound_start _ store) clean_nil
    intro candidate _ s sound clean exceeded
    exact turned_evictCompletedEntry (fun _ => mem_append_left _) sound clean store.bounded
      exceeded candidate
  unfold QuotaPass.evict
  simp only
  split
  · rename_i s error heq
    rw [heq] at hcompl
    exact hcompl
  · rename_i s ended hgoes heq
    rw [heq] at hcompl
    have hsnd : Turned (pass.plan store) store.usedBytes
        (evictEach (pass.plan store).targetUsedBytes (evictPartialEntry (pass.plan store))
          store.partialEntries s) := by
      refine turned_evictEach ?_ hcompl.sound (hcompl.clean fun error => ?_)
      · intro candidate hcand s sound clean exceeded
        exact turned_evictPartialEntry sound clean store.bounded exceeded candidate
          (store.sized candidate hcand)
      · exact fun hfailed => hgoes error hfailed
    split
    · rename_i after hn
      rw [hn] at hsnd
      exact ⟨hsnd.sound, fun _ => hsnd.clean nofun⟩
    · rename_i after outcome _ hended
      rw [hended] at hsnd
      exact hsnd

theorem QuotaPass.enforce_cases (pass : QuotaPass) :
    (pass.enforce.1 = [] ∧ ∀ summary, pass.enforce.2 ≠ .ok (some summary)) ∨
      ∃ store, pass.store = .ok store ∧ pass.enforce.1 = (pass.evict store).1.events ∧
        (∀ result, pass.enforce.2 = .ok result → ∀ error, (pass.evict store).2 ≠ .failed error) ∧
        ∀ summary, pass.enforce.2 = .ok (some summary) →
          summary.startedUsedBytes = store.usedBytes ∧
          summary.finishedUsedBytes = (pass.evict store).1.finishedUsedBytes ∧
          summary.evictedBytes = (pass.evict store).1.evictedBytes ∧
          summary.evictedSessionIds = (pass.evict store).1.evictedSessionIds := by
  unfold QuotaPass.enforce
  split
  · exact .inl ⟨rfl, nofun⟩
  cases pass.store with
  | error error => exact .inl ⟨rfl, nofun⟩
  | ok store =>
    simp only
    split
    · exact .inl ⟨rfl, nofun⟩
    refine .inr ⟨store, rfl, ?_⟩
    rcases pass.evict store with ⟨s, ended⟩
    cases ended with
    | failed error => exact ⟨rfl, nofun, nofun⟩
    | next =>
      refine ⟨rfl, fun _ _ => nofun, fun summary hsum => ?_⟩
      cases hsum
      exact ⟨rfl, rfl, rfl, rfl⟩
    | cancelled =>
      simp only
      split
      · exact ⟨rfl, fun _ _ => nofun, nofun⟩
      · refine ⟨rfl, fun _ _ => nofun, fun summary hsum => ?_⟩
        cases hsum
        exact ⟨rfl, rfl, rfl, rfl⟩

/-- A pass removes no session that is protected, leased, pending for cleanup or being finalized;
it removes the sessions of a completed entry together, but for removals that fail, and after the
removal of what the tasks have of the entry was accepted; it removes something only while the
tracked usage is over the target; if it returns no error, no removal has failed, and each session
that it counts out of the usage is counted once, with its size. -/
theorem quota_pass_safe (pass : QuotaPass) :
    (∀ entry turn sessionId removed used,
      .removeSession entry turn sessionId removed used ∈ pass.enforce.1 →
        sessionId ∈ turn.sessionIds entry ∧
        sessionId ∉ pass.protectedSessionIds ∧ sessionId ∉ pass.recentlyUsedSessionIds ∧
        sessionId ∉ pass.pendingCleanupSessionIds ∧ turn.finalizingRemoval sessionId = false ∧
        pass.targetUsedBytes < used ∧
        (∀ other ∈ turn.sessionIds entry, .removeSession entry turn other
          (turn.removes other).isNone used ∈ pass.enforce.1) ∧
        ∀ item, turn.cleanupItem entry = some item →
          [.removeTask entry item true, .removeSession entry turn sessionId removed used].Sublist
            pass.enforce.1) ∧
    (∀ entry turn removed used, .removeResources entry turn removed used ∈ pass.enforce.1 →
      entry.sessionId ∉ pass.protectedSessionIds ∧
      entry.sessionId ∉ pass.recentlyUsedSessionIds ∧
      entry.sessionId ∉ pass.pendingCleanupSessionIds ∧ turn.finalizingRemoval = false ∧
      pass.targetUsedBytes < used) ∧
    (∀ result, pass.enforce.2 = .ok result → Clean pass.enforce.1) ∧
    (∀ summary, pass.enforce.2 = .ok (some summary) →
      ∃ (store : StoreReads) (counted : List (String × Nat)), pass.store = .ok store ∧
      summary.evictedSessionIds = counted.map Prod.fst ∧ summary.evictedSessionIds.Nodup ∧
      summary.finishedUsedBytes = store.usedBytes - (counted.map Prod.snd).sum ∧
      summary.evictedBytes = min (counted.map Prod.snd).sum u64Max ∧
      ∀ c ∈ counted, Evicted (pass.plan store) pass.enforce.1 c) := by
  rcases pass.enforce_cases with ⟨hnothing, hnone⟩ | ⟨store, hstore, hevents, hended, hsummary⟩
  · rw [hnothing]
    exact ⟨fun _ _ _ _ _ hmem => (not_mem_nil hmem).elim,
      fun _ _ _ _ hmem => (not_mem_nil hmem).elim, fun _ _ => clean_nil,
      fun summary hsummary => (hnone summary hsummary).elim⟩
  · have hturned := pass.turned_evict store
    rw [hevents]
    refine ⟨?_, ?_, ?_, ?_⟩
    · intro entry turn sessionId removed used hmem
      have hsafe := hturned.sound.session entry turn sessionId removed used hmem
      have hfree := hsafe.unprotected
      change sessionId ∉ _ ++ _ ++ _ at hfree
      simp only [mem_append, not_or] at hfree
      exact ⟨hsafe.group, hfree.1.1, hfree.1.2, hfree.2, hsafe.notFinalizing, hsafe.exceeded,
        hsafe.whole, hsafe.accepted⟩
    · intro entry turn removed used hmem
      have hsafe := hturned.sound.resources entry turn removed used hmem
      have hfree := hsafe.unprotected
      change entry.sessionId ∉ _ ++ _ ++ _ at hfree
      simp only [mem_append, not_or] at hfree
      exact ⟨hfree.1.1, hfree.1.2, hfree.2, hsafe.notFinalizing, hsafe.exceeded⟩
    · exact fun result hresult => hturned.clean (hended result hresult)
    · intro summary hresult
      obtain ⟨-, hfinished, hbytes, hids⟩ := hsummary summary hresult
      obtain ⟨counted, hcounted, hevicted⟩ := hturned.sound.counted
      exact ⟨store, counted, hstore, hids.trans hcounted.sessionIds,
        by rw [hids, hcounted.sessionIds]; exact hcounted.nodup,
        hfinished.trans hcounted.finished, hbytes.trans hcounted.evicted, hevicted⟩

def playableTask : Tasks.Task where
  id := "session-p"
  kind := .bilibiliProgressivePlayback
  state := .playable
  source := "BV1"
  title := "Film"
  progress := 1
  downloadedBytes := 0
  totalBytes := 0
  message := "Playable online."
  libraryItemId := ""
  createdAt := none
  updatedAt := none
  finishedAt := none
  playbackSource := none
  playbackSession := some ⟨"session-p", "variant"⟩
  resultItems := []
  outputSummary := none
  hlsCacheFillStatus := none

def quietTurn : PartialTurn where
  cancelled := false
  cancelledLocked := false
  finalizing := false
  finalizingLocked := false
  finalizingRemoval := false
  kept := id
  begins := .ok true
  removes := none

def overfullStore : StoreReads where
  completed := []
  partialEntries := [(⟨"session-p", 100⟩, quietTurn)]
  usedBytes := 100
  bounded := by decide
  sized := by
    intro candidate hmem
    rw [mem_singleton.mp hmem]
    decide

def overfullPass : QuotaPass where
  policy := ⟨100, 50, 10⟩
  protectedSessionIds := []
  projectedAddedBytes := 0
  cancelled := false
  pendingCleanupSessionIds := []
  store := .ok overfullStore
  playbackLeases := []
  now := 0
  tasks := [playableTask]

def seasonTask : Tasks.Task :=
  { playableTask with
    id := "session-a"
    state := .completed
    libraryItemId := "bilibili.hls.session-a"
    playbackSession := some ⟨"session-a", "variant"⟩
    resultItems := [⟨"session-b", "Part 2", .completed, "", "bilibili.hls.session-b", none,
      some ⟨"session-b", "variant"⟩, none⟩] }

def seasonTurn : CompletedTurn where
  cancelled := false
  cancelledSelected := false
  cancelledLocked := false
  tasks _ := [seasonTask]
  persistenceAvailable := true
  persistenceAvailableLocked := true
  finalizing _ := false
  finalizingSelected _ := false
  finalizingLocked sessionId := sessionId == "session-c"
  finalizingRemoval sessionId := sessionId == "session-c"
  kept _ := id
  begins _ := .ok true
  removesTask := .ok true
  removes _ := none

def seasonEntry : HlsCacheCompletedEntry := ⟨"session-a", "bilibili.hls.session-a", 60⟩

def seasonPass : QuotaPass :=
  { overfullPass with
    store := .ok { overfullStore with
      completed := [(seasonEntry, seasonTurn),
        (⟨"session-b", "bilibili.hls.session-b", 20⟩, seasonTurn)] }
    playbackLeases := [("session-p", 1)]
    tasks := [seasonTask] }

/-- Both sessions of a completed task go, after the task; the leased one stays. -/
theorem quota_pass_safe_group :
    seasonPass.enforce.1 =
      [.removeTask seasonEntry ("session-a", "bilibili.hls.session-a") true,
        .removeSession seasonEntry seasonTurn "session-a" true 100,
        .removeSession seasonEntry seasonTurn "session-b" true 100,
        .recordCleanup "bilibili.hls.session-a" []] ∧
      "session-b" ∉ seasonPass.recentlyUsedSessionIds ∧ Clean seasonPass.enforce.1 := by
  have hsafe := quota_pass_safe seasonPass
  have hremoved : .removeSession seasonEntry seasonTurn "session-b" true 100 ∈
      seasonPass.enforce.1 := .tail _ (.tail _ (.head _))
  exact ⟨rfl, (hsafe.1 _ _ _ _ _ hremoved).2.2.1, hsafe.2.2.1 _ rfl⟩

/-- The cached resources of a task's session go, and nothing is asked of the task. -/
theorem partial_entry_removed_without_task :
    overfullPass.tasks = [playableTask] ∧
      playableTask.playbackHlsSessionIds = ["session-p"] ∧
      overfullPass.enforce.1 = [.removeResources ⟨"session-p", 100⟩ quietTurn true 100] :=
  ⟨rfl, by decide, rfl⟩

end NetPlayer.Eviction
