import Mathlib.Data.List.TakeWhile
import NetPlayer.Library.Transition
import NetPlayer.Paging.ResolutionSelection

/-!
# Runs of the resolution store

The sessions, their order and the page cursors form one shelf of paged snapshots; the totals
are sums over it. Every operation keeps that, whatever it is asked, as long as no UUID is
drawn twice.
-/

namespace NetPlayer.Paging

open AList

open PagedSnapshots Transition Function BilibiliResolutionStore List BilibiliResolutionSessionSnapshot

def BilibiliResolutionSessionSnapshot.pages (snapshot : BilibiliResolutionSessionSnapshot) :
    Pages String :=
  ⟨snapshot.candidates.length, snapshot.pageTokensByOffset⟩

namespace BilibiliResolutionStore

def shelf (s : BilibiliResolutionStore) :
    Shelf String String BilibiliResolutionSessionSnapshot where
  live := s.sessionsById
  order := s.sessionOrder
  cursors token := (s.pageCursorsByToken token).map fun cursor => ⟨cursor.sessionId, cursor.offset⟩

/-- The maps agree, the totals are exact, and the limits hold. -/
structure Consistent (s : BilibiliResolutionStore) : Prop where
  coherent : s.shelf.Coherent BilibiliResolutionSessionSnapshot.pages
  cursorSnapshot : ∀ token cursor snapshot, s.pageCursorsByToken token = some cursor →
    s.sessionsById.lookup cursor.sessionId = some snapshot →
      cursor.snapshotId = snapshot.snapshotId
  sessions_le : s.sessionsById.entries.length ≤ maxBilibiliResolutionSessions
  totalCandidates : s.totalCandidates = total (·.candidates.length) s.sessionsById
  totalCandidates_le : s.totalCandidates ≤ maxBilibiliResolutionTotalCandidates
  totalBytes : s.totalBytes = total (·.estimatedBytes) s.sessionsById
  totalBytes_le : s.totalBytes ≤ maxBilibiliResolutionSnapshotBytes

/-- Sessions went and took their places and their cursors along; nothing else changed. -/
structure Shrinks (s t : BilibiliResolutionStore) : Prop where
  live : ∀ id snapshot, t.sessionsById.lookup id = some snapshot →
    s.sessionsById.lookup id = some snapshot
  cursors : ∀ token cursor, t.pageCursorsByToken token = some cursor →
    s.pageCursorsByToken token = some cursor
  order : t.sessionOrder = s.sessionOrder.filter (· ∈ t.sessionsById)

variable {s t u : BilibiliResolutionStore} {sessionId : String}
  {snapshot : BilibiliResolutionSessionSnapshot}

theorem consistent_default : Consistent .default where
  coherent := Shelf.coherent_empty
  cursorSnapshot := by simp [BilibiliResolutionStore.default]
  sessions_le := Nat.zero_le _
  totalCandidates := rfl
  totalCandidates_le := Nat.zero_le _
  totalBytes := rfl
  totalBytes_le := Nat.zero_le _

theorem Consistent.mem_order (h : s.Consistent) (id : String) :
    id ∈ s.sessionOrder ↔ id ∈ s.sessionsById :=
  h.coherent.mem_order id

theorem Consistent.shrinks_refl (h : s.Consistent) : Shrinks s s where
  live := fun _ _ h => h
  cursors := fun _ _ h => h
  order := by
    symm
    apply filter_eq_self.mpr
    intro id hm
    simpa using (h.mem_order id).mp hm

variable {id token : String}

theorem Shrinks.mem (h : Shrinks s t) (hm : id ∈ t.sessionsById) : id ∈ s.sessionsById := by
  obtain ⟨snapshot, hl⟩ := Option.isSome_iff_exists.mp (lookup_isSome.mpr hm)
  exact lookup_isSome.mp (by simp [h.live id snapshot hl])

theorem Shrinks.trans (first : Shrinks s t) (second : Shrinks t u) : Shrinks s u where
  live := fun id snapshot h => first.live id snapshot (second.live id snapshot h)
  cursors := fun token cursor h => first.cursors token cursor (second.cursors token cursor h)
  order := by
    rw [second.order, first.order, filter_filter]
    apply filter_congr
    intro id _
    by_cases hm : id ∈ u.sessionsById
    · simp [hm, second.mem hm]
    · simp [hm]

theorem removeSession_of_live (h : s.sessionsById.lookup sessionId = some snapshot) :
    s.removeSession sessionId =
      { sessionsById := s.sessionsById.erase sessionId
        sessionOrder := s.sessionOrder.filter fun candidate => candidate ≠ sessionId
        pageCursorsByToken := fun token =>
          (s.pageCursorsByToken token).filter fun cursor => cursor.sessionId ≠ sessionId
        totalCandidates := s.totalCandidates - snapshot.candidates.length
        totalBytes := s.totalBytes - snapshot.estimatedBytes } := by
  unfold removeSession
  rw [h]

theorem removeSession_of_absent (h : s.sessionsById.lookup sessionId = none) :
    s.removeSession sessionId = s := by
  unfold removeSession
  rw [h]

theorem removeSession_sessionsById :
    (s.removeSession sessionId).sessionsById = s.sessionsById.erase sessionId := by
  cases h : s.sessionsById.lookup sessionId with
  | none =>
    rw [removeSession_of_absent h]
    apply AList.ext
    exact (kerase_of_notMem_keys fun hm => lookup_eq_none.mp h hm).symm
  | some snapshot => rw [removeSession_of_live h]

theorem Consistent.removeSession (h : s.Consistent) (sessionId : String) :
    (s.removeSession sessionId).Consistent := by
  cases hl : s.sessionsById.lookup sessionId with
  | none =>
    rw [removeSession_of_absent hl]
    exact h
  | some snapshot =>
    rw [removeSession_of_live hl]
    have herase : ∀ weight : BilibiliResolutionSessionSnapshot → Nat,
        total weight s.sessionsById =
          weight snapshot + total weight (s.sessionsById.erase sessionId) :=
      fun _ => total_erase hl
    have hcands := herase (·.candidates.length)
    have hbytes := herase (·.estimatedBytes)
    have hc := herase fun _ => 1
    rw [total_one, total_one] at hc
    constructor
    · have hshelf := h.coherent.remove sessionId
      refine ⟨hshelf.nodup, hshelf.mem_order, ?_, ?_⟩
      · intro token cursor hcur
        apply hshelf.cursor token cursor
        rw [← hcur]
        show ((s.pageCursorsByToken token).map _).filter _ =
          ((s.pageCursorsByToken token).filter _).map _
        cases s.pageCursorsByToken token with
        | none => rfl
        | some found =>
          by_cases hid : found.sessionId = sessionId
          · simp [Option.filter, hid]
          · simp [Option.filter, hid]
      · intro key body offset token hbody ht
        obtain ⟨hcur, hin⟩ := hshelf.noted key body offset token hbody ht
        refine ⟨?_, hin⟩
        rw [← hcur]
        show ((s.pageCursorsByToken token).filter _).map _ =
          ((s.pageCursorsByToken token).map _).filter _
        cases s.pageCursorsByToken token with
        | none => rfl
        | some found =>
          by_cases hid : found.sessionId = sessionId
          · simp [Option.filter, hid]
          · simp [Option.filter, hid]
    · intro token cursor found hcur hf
      obtain ⟨hold, ho⟩ := Option.filter_eq_some_iff.mp hcur
      rw [lookup_erase_ite, if_neg (by simpa using ho)] at hf
      exact h.cursorSnapshot token cursor found hold hf
    · have := h.sessions_le
      show (s.sessionsById.erase sessionId).entries.length ≤ _
      omega
    · have := h.totalCandidates
      show s.totalCandidates - _ = total _ (s.sessionsById.erase sessionId)
      omega
    · exact (Nat.sub_le _ _).trans h.totalCandidates_le
    · have := h.totalBytes
      show s.totalBytes - _ = total _ (s.sessionsById.erase sessionId)
      omega
    · exact (Nat.sub_le _ _).trans h.totalBytes_le

theorem Consistent.removeSession_order (h : s.Consistent) (sessionId : String) :
    (s.removeSession sessionId).sessionOrder = s.sessionOrder.filter fun id => id ≠ sessionId := by
  cases hl : s.sessionsById.lookup sessionId with
  | none =>
    rw [removeSession_of_absent hl]
    symm
    apply filter_eq_self.mpr
    rintro id hm
    have hid : id ∈ s.sessionsById := (h.mem_order id).mp hm
    have hne : id ≠ sessionId := by
      rintro rfl
      exact lookup_eq_none.mp hl hid
    simpa using hne
  | some snapshot => rw [removeSession_of_live hl]

theorem Consistent.removeSession_shrinks (h : s.Consistent) (sessionId : String) :
    Shrinks s (s.removeSession sessionId) where
  live := by
    intro id snapshot hl
    rw [removeSession_sessionsById, lookup_erase_ite] at hl
    split at hl
    · cases hl
    · exact hl
  cursors := by
    intro token cursor hcur
    cases hl : s.sessionsById.lookup sessionId with
    | none =>
      rw [removeSession_of_absent hl] at hcur
      exact hcur
    | some snapshot =>
      rw [removeSession_of_live hl] at hcur
      exact (Option.filter_eq_some_iff.mp hcur).1
  order := by
    rw [h.removeSession_order, removeSession_sessionsById]
    apply filter_congr
    intro id hm
    simp [mem_erase, (h.mem_order id).mp hm]

theorem Consistent.removeAll (h : s.Consistent) (ids : List String) :
    (ids.foldl BilibiliResolutionStore.removeSession s).Consistent ∧
      Shrinks s (ids.foldl BilibiliResolutionStore.removeSession s) ∧
      ∀ id ∈ ids, id ∉ (ids.foldl BilibiliResolutionStore.removeSession s).sessionsById := by
  induction ids generalizing s with
  | nil => exact ⟨h, h.shrinks_refl, by simp⟩
  | cons id rest ih =>
    obtain ⟨hcons, hshrinks, hg⟩ := ih (h.removeSession id)
    refine ⟨hcons, (h.removeSession_shrinks id).trans hshrinks, ?_⟩
    intro other hm
    rcases mem_cons.mp hm with rfl | hr
    · intro hl
      have hb := hshrinks.mem hl
      rw [removeSession_sessionsById, mem_erase] at hb
      exact hb.1 rfl
    · exact hg other hr

theorem Consistent.prune (h : s.Consistent) (now : Nat) :
    (s.prune now).Consistent ∧ Shrinks s (s.prune now) :=
  ⟨(h.removeAll _).1, (h.removeAll _).2.1⟩

variable {now a b limit incomingCandidates incomingBytes offset pageSize : Nat}

theorem Consistent.prune_live (h : s.Consistent)
    (hl : (s.prune now).sessionsById.lookup sessionId = some snapshot) :
    now < snapshot.expiresAt := by
  by_contra hexp
  have hb := (h.prune now).2.live sessionId snapshot hl
  have hm : sessionId ∈ s.expired now := by
    refine mem_map.mpr ⟨⟨sessionId, snapshot⟩, mem_filter.mpr ⟨?_, ?_⟩, rfl⟩
    · exact mem_lookup_iff.mp hb
    · simpa using hexp
  have hmemb : sessionId ∈ (s.prune now).sessionsById :=
    lookup_isSome.mp (by simp [hl])
  exact (h.removeAll (s.expired now)).2.2 sessionId hm hmemb

theorem prune_eq_self
    (h : ∀ id snapshot, s.sessionsById.lookup id = some snapshot → now < snapshot.expiresAt) :
    s.expired now = [] ∧ s.prune now = s := by
  have hn : s.expired now = [] := by
    unfold expired
    rw [map_eq_nil_iff, filter_eq_nil_iff]
    rintro ⟨id, snapshot⟩ hm
    have := h id snapshot (mem_lookup_iff.mpr hm)
    simpa using this
  refine ⟨hn, ?_⟩
  unfold BilibiliResolutionStore.prune
  rw [hn]
  rfl

theorem saturatingAdd_le_iff (hlimit : limit < u64Max) :
    saturatingAdd a b ≤ limit ↔ a + b ≤ limit := by
  unfold saturatingAdd
  omega

theorem capacityExceeded_false : s.capacityExceeded incomingCandidates incomingBytes = false ↔
      s.sessionsById.entries.length < maxBilibiliResolutionSessions ∧
        s.totalCandidates + incomingCandidates ≤ maxBilibiliResolutionTotalCandidates ∧
        s.totalBytes + incomingBytes ≤ maxBilibiliResolutionSnapshotBytes := by
  have hcands : maxBilibiliResolutionTotalCandidates < u64Max := by decide
  have hbytes : maxBilibiliResolutionSnapshotBytes < u64Max := by decide
  simp only [capacityExceeded, Bool.or_eq_false_iff, decide_eq_false_iff_not, not_le, not_lt,
    saturatingAdd_le_iff hcands, saturatingAdd_le_iff hbytes, and_assoc]

theorem Consistent.empty_of_order (h : s.Consistent) (horder : s.sessionOrder = []) :
    s.sessionsById.entries = [] ∧ s.totalCandidates = 0 ∧ s.totalBytes = 0 := by
  have hes : s.sessionsById.entries = [] := by
    apply eq_nil_iff_forall_not_mem.mpr
    rintro ⟨id, snapshot⟩ hm
    have hl : id ∈ s.sessionsById :=
      lookup_isSome.mp (by rw [mem_lookup_iff.mpr hm]; rfl)
    have hid := (h.mem_order id).mpr hl
    rw [horder] at hid
    cases hid
  refine ⟨hes, ?_, ?_⟩
  · rw [h.totalCandidates]
    simp [total, values, hes]
  · rw [h.totalBytes]
    simp [total, values, hes]

theorem Consistent.makeRoom {incomingCandidates incomingBytes rounds : Nat} (h : s.Consistent)
    (hrounds : s.sessionOrder.length < rounds)
    (hcands : incomingCandidates ≤ maxBilibiliResolutionTotalCandidates)
    (hbytes : incomingBytes ≤ maxBilibiliResolutionSnapshotBytes) :
    ∃ t, makeRoom incomingCandidates incomingBytes rounds s = some (t, true) ∧ t.Consistent ∧
      Shrinks s t ∧ t.capacityExceeded incomingCandidates incomingBytes = false ∧
      ∃ evicted, t.sessionOrder = s.sessionOrder.drop evicted := by
  induction rounds generalizing s with
  | zero => omega
  | succ rounds ih =>
    unfold BilibiliResolutionStore.makeRoom
    cases hfull : s.capacityExceeded incomingCandidates incomingBytes with
    | false => exact ⟨s, rfl, h, h.shrinks_refl, hfull, 0, rfl⟩
    | true =>
      cases horder : s.sessionOrder with
      | nil =>
        obtain ⟨hes, hn, he⟩ := h.empty_of_order horder
        have hroom : s.capacityExceeded incomingCandidates incomingBytes = false := by
          rw [capacityExceeded_false, hes, hn, he]
          refine ⟨by decide, ?_, ?_⟩
          · omega
          · omega
        rw [hroom] at hfull
        cases hfull
      | cons oldest rest =>
        have hnodup := h.coherent.nodup
        have hrem : (s.removeSession oldest).sessionOrder = rest := by
          rw [h.removeSession_order, horder]
          have hshelf : (oldest :: rest).Nodup := by
            rw [← horder]
            exact hnodup
          have hnot := (nodup_cons.mp hshelf).1
          rw [filter_cons_of_neg (by simp)]
          apply filter_eq_self.mpr
          intro id hid
          have hne : id ≠ oldest := by
            rintro rfl
            exact hnot hid
          simpa using hne
        have hlen : (s.removeSession oldest).sessionOrder.length < rounds := by
          rw [hrem]
          rw [horder] at hrounds
          simp only [length_cons] at hrounds
          omega
        obtain ⟨t, hrun, hcons, hshrinks, hroom, evicted, hdrop⟩ :=
          ih (h.removeSession oldest) hlen
        refine ⟨t, hrun, hcons, (h.removeSession_shrinks oldest).trans hshrinks, hroom,
          evicted + 1, ?_⟩
        rw [hdrop, hrem]
        rfl

theorem Consistent.insertSession (h : s.Consistent) (hfr : sessionId ∉ s.sessionsById)
    (hn : ∀ offset, snapshot.pageTokensByOffset offset = none)
    (hroom : s.capacityExceeded snapshot.candidates.length snapshot.estimatedBytes = false) :
    (s.insertSession sessionId snapshot).Consistent := by
  obtain ⟨hs, hcands, hbytes⟩ := capacityExceeded_false.mp hroom
  have hcandidatesMax : maxBilibiliResolutionTotalCandidates < u64Max := by decide
  have hbytesMax : maxBilibiliResolutionSnapshotBytes < u64Max := by decide
  have hexactCandidates : saturatingAdd s.totalCandidates snapshot.candidates.length =
      s.totalCandidates + snapshot.candidates.length := by
    unfold saturatingAdd
    omega
  have hexactBytes : saturatingAdd s.totalBytes snapshot.estimatedBytes =
      s.totalBytes + snapshot.estimatedBytes := by
    unfold saturatingAdd
    omega
  constructor
  · exact h.coherent.push hfr hn
  · intro token cursor found hcur hf
    replace hf : (s.sessionsById.insert sessionId snapshot).lookup cursor.sessionId =
      some found := hf
    rw [lookup_insert_ite] at hf
    split at hf
    · rename_i ho
      have hshelf : s.shelf.cursors token = some ⟨cursor.sessionId, cursor.offset⟩ := by
        show (s.pageCursorsByToken token).map _ = _
        rw [show s.pageCursorsByToken token = some cursor from hcur]
        rfl
      obtain ⟨body, hl, _⟩ := h.coherent.cursor token _ hshelf
      rw [ho] at hl
      exact absurd (lookup_isSome.mp (by
        rw [show s.sessionsById.lookup sessionId = some body from hl]
        rfl)) hfr
    · exact h.cursorSnapshot token cursor found hcur hf
  · show (s.sessionsById.insert sessionId snapshot).entries.length ≤ _
    rw [entries_insert_of_notMem hfr]
    exact hs
  · show saturatingAdd _ _ = total _ (s.sessionsById.insert sessionId snapshot)
    rw [hexactCandidates, total_insert_of_notMem hfr, h.totalCandidates, Nat.add_comm]
  · show saturatingAdd _ _ ≤ _
    rw [hexactCandidates]
    exact hcands
  · show saturatingAdd _ _ = total _ (s.sessionsById.insert sessionId snapshot)
    rw [hexactBytes, total_insert_of_notMem hfr, h.totalBytes, Nat.add_comm]
  · show saturatingAdd _ _ ≤ _
    rw [hexactBytes]
    exact hbytes

theorem Consistent.issuePageToken (h : s.Consistent)
    (hl : s.sessionsById.lookup sessionId = some snapshot)
    (hfr : s.pageCursorsByToken token = none) (hpos : 0 < offset)
    (hin : offset < snapshot.candidates.length)
    (hn : snapshot.pageTokensByOffset offset = none) :
    (s.issuePageToken sessionId snapshot offset token).Consistent := by
  have hs : ∀ weight : BilibiliResolutionSessionSnapshot → Nat, ∀ body,
      weight body = weight snapshot →
        total weight (s.sessionsById.insert sessionId body) = total weight s.sessionsById := by
    intro weight body hweight
    rw [total_insert, hweight, ← total_erase hl]
  constructor
  · have htokens : ∀ other, (snapshot.withPageToken offset token).pages.tokens other =
        if other = offset then some token else snapshot.pages.tokens other := by
      intro other
      by_cases ho : other = offset
      · simp [BilibiliResolutionSessionSnapshot.pages,
          withPageToken, ho]
      · simp [BilibiliResolutionSessionSnapshot.pages,
          withPageToken, ho]
    have hshelf : (s.shelf.issue sessionId offset token
        (snapshot.withPageToken offset token)).Coherent BilibiliResolutionSessionSnapshot.pages :=
      h.coherent.issue hl (by simp [shelf, hfr]) hpos hin hn rfl htokens
    have hcursors : (s.issuePageToken sessionId snapshot offset token).shelf =
        s.shelf.issue sessionId offset token (snapshot.withPageToken offset token) := by
      unfold shelf Shelf.issue BilibiliResolutionStore.issuePageToken
      congr 1
      funext other
      by_cases ho : other = token
      · simp [ho]
      · simp [ho]
    rw [hcursors]
    exact hshelf
  · intro other cursor found hcur hf
    replace hcur : Function.update s.pageCursorsByToken token
      (some ⟨sessionId, snapshot.snapshotId, offset⟩) other = some cursor := hcur
    replace hf : (s.sessionsById.insert sessionId _).lookup cursor.sessionId =
      some found := hf
    rw [lookup_insert_ite] at hf
    by_cases ho : other = token
    · rw [ho, Function.update_self] at hcur
      cases hcur
      rw [if_pos rfl] at hf
      cases hf
      rfl
    · rw [Function.update_of_ne ho] at hcur
      split at hf
      · rename_i howner
        cases hf
        exact h.cursorSnapshot other cursor snapshot hcur (by rw [howner]; exact hl)
      · exact h.cursorSnapshot other cursor found hcur hf
  · have hc := hs (fun _ => 1) (snapshot.withPageToken offset token) rfl
    rw [total_one, total_one] at hc
    exact hc.trans_le h.sessions_le
  · exact h.totalCandidates.trans (hs (·.candidates.length) _ rfl).symm
  · exact h.totalCandidates_le
  · exact h.totalBytes.trans (hs (·.estimatedBytes) _ rfl).symm
  · exact h.totalBytes_le

structure SamePlaces (s t : BilibiliResolutionStore) (issued : String) : Prop where
  order : t.sessionOrder = s.sessionOrder
  mem : ∀ id, id ∈ t.sessionsById ↔ id ∈ s.sessionsById
  cursors : ∀ token cursor, t.pageCursorsByToken token = some cursor →
    s.pageCursorsByToken token = some cursor ∨ token = issued

theorem samePlaces_refl (s : BilibiliResolutionStore) (issued : String) : SamePlaces s s issued :=
  ⟨rfl, fun _ => Iff.rfl, fun _ _ h => .inl h⟩

theorem issuePageToken_samePlaces (hl : s.sessionsById.lookup sessionId = some snapshot) :
    SamePlaces s (s.issuePageToken sessionId snapshot offset token) token where
  order := rfl
  mem := by
    intro id
    have hmemb : sessionId ∈ s.sessionsById := lookup_isSome.mp (by simp [hl])
    show id ∈ s.sessionsById.insert sessionId _ ↔ _
    rw [mem_insert]
    constructor
    · rintro (rfl | hm)
      · exact hmemb
      · exact hm
    · exact .inr
  cursors := by
    intro other cursor hcur
    replace hcur : Function.update s.pageCursorsByToken token _ other = some cursor := hcur
    by_cases ho : other = token
    · exact .inr ho
    · rw [Function.update_of_ne ho] at hcur
      exact .inl hcur

theorem Consistent.pageAtOffset {offset pageSize : Nat} {uuid : Uuid} (h : s.Consistent)
    (hsize : 0 < pageSize) (hfr : s.pageCursorsByToken (pageTokenOf uuid) = none) :
    (s.pageAtOffset sessionId offset pageSize uuid).1.Consistent ∧
      SamePlaces s (s.pageAtOffset sessionId offset pageSize uuid).1 (pageTokenOf uuid) := by
  have hs := samePlaces_refl s (pageTokenOf uuid)
  unfold BilibiliResolutionStore.pageAtOffset
  cases hl : s.sessionsById.lookup sessionId with
  | none => exact ⟨h, hs⟩
  | some snapshot =>
    dsimp only
    split
    · exact ⟨h, hs⟩
    rename_i hoff
    split
    · rename_i hlast
      cases ht : snapshot.pageTokensByOffset
          (min (offset + pageSize) snapshot.candidates.length) with
      | some token => exact ⟨h, hs⟩
      | none =>
        refine ⟨h.issuePageToken hl hfr ?_ hlast ht, issuePageToken_samePlaces hl⟩
        omega
    · exact ⟨h, hs⟩

variable {value : Unit}

theorem validatePageSize_ok (h : validatePageSize pageSize = .ok value) : 0 < pageSize := by
  unfold validatePageSize demand at h
  split at h
  · omega
  · cases h

theorem Consistent.page {pageToken : Option String} {now pageSize : Nat} {uuid : Uuid}
    (h : s.Consistent) (hfr : s.pageCursorsByToken (pageTokenOf uuid) = none) :
    (s.page sessionId pageToken now pageSize uuid).1.Consistent ∧
      ∃ t, Shrinks s t ∧
        SamePlaces t (s.page sessionId pageToken now pageSize uuid).1 (pageTokenOf uuid) := by
  obtain ⟨hprun, hshrinks⟩ := h.prune now
  have hpruning : (s.prune now).Consistent ∧ ∃ t, Shrinks s t ∧
      SamePlaces t (s.prune now) (pageTokenOf uuid) :=
    ⟨hprun, s.prune now, hshrinks, samePlaces_refl _ _⟩
  unfold BilibiliResolutionStore.page
  cases hsize : validatePageSize pageSize with
  | error error => exact ⟨h, s, h.shrinks_refl, samePlaces_refl _ _⟩
  | ok _ =>
    cases hid : normalizedSessionId sessionId with
    | error error => exact hpruning
    | ok id =>
      dsimp only
      split
      · exact hpruning
      cases hoff : (s.prune now).pageOffset id pageToken with
      | error error => exact hpruning
      | ok offset =>
        have hn : (s.prune now).pageCursorsByToken (pageTokenOf uuid) = none := by
          cases hcur : (s.prune now).pageCursorsByToken (pageTokenOf uuid) with
          | none => rfl
          | some cursor =>
            rw [hshrinks.cursors _ _ hcur] at hfr
            cases hfr
        obtain ⟨hpage, hplaces⟩ :=
          hprun.pageAtOffset (validatePageSize_ok hsize) hn
        exact ⟨hpage, s.prune now, hshrinks, hplaces⟩

theorem ok_of_bind {ε α β : Type} {first : Except ε α} {next : α → Except ε β} {value : β}
    (h : first >>= next = .ok value) : ∃ found, first = .ok found ∧ next found = .ok value := by
  cases first with
  | error error => cases h
  | ok found => exact ⟨found, rfl, h⟩

theorem of_demand {condition : Prop} [Decidable condition] {error : Status}
    (h : demand condition error = .ok value) : condition := by
  unfold demand at h
  split at h
  · assumption
  · cases h

theorem length_tokenizeFrom (uuids : Nat → Uuid) (offset : Nat)
    (candidates : List BilibiliResolvedCandidate) :
    (tokenizeFrom uuids offset candidates).length = candidates.length := by
  induction candidates generalizing offset with
  | nil => rfl
  | cons candidate rest ih => simp [tokenizeFrom, ih]

theorem validateResolution_ok {resolution : BilibiliInputResolution}
    {options : Option BilibiliPlaybackOptions} {requestContext : Option BilibiliRequestContext}
    (h : validateResolution resolution options requestContext = .ok value) :
    resolution.candidates.length ≤ maxBilibiliResolutionCandidates ∧
      resolution.candidates ≠ [] ∧ validateCandidates [] resolution.candidates = .ok () := by
  obtain ⟨_, hc, h⟩ := ok_of_bind h
  obtain ⟨_, hne, h⟩ := ok_of_bind h
  iterate 6 obtain ⟨_, _, h⟩ := ok_of_bind h
  obtain ⟨_, hcands, _⟩ := ok_of_bind h
  exact ⟨of_demand hc, of_demand hne, hcands⟩

structure Admitted (request : CreateRequest) (snapshot : BilibiliResolutionSessionSnapshot) :
    Prop where
  pageSize : 0 < request.pageSize ∧ validatePageSize request.pageSize = .ok ()
  valid : validateResolution request.resolution request.options request.requestContext = .ok ()
  id : snapshot.view.id = sessionIdOf request.draws.session
  candidates : snapshot.candidates =
    tokenizeFrom request.draws.candidate 0 request.resolution.candidates
  offsets : snapshot.candidateOffsetsByToken = offsetsFrom (fun _ => none) 0 snapshot.candidates
  tokens : ∀ offset, snapshot.pageTokensByOffset offset = none
  expiresAt : snapshot.expiresAt = request.now + bilibiliResolutionSessionTtl
  bytes : snapshot.estimatedBytes ≤ maxBilibiliResolutionSnapshotBytes

variable {request : CreateRequest}

theorem snapshot_admitted {sizes : OwnedSizes}
    (h : request.snapshot sizes = .ok snapshot) : Admitted request snapshot := by
  obtain ⟨_, hpage, h⟩ := ok_of_bind h
  obtain ⟨_, hv, h⟩ := ok_of_bind h
  obtain ⟨_, _, h⟩ := ok_of_bind h
  dsimp only at h
  split at h
  · cases h
  obtain ⟨_, hbytes, h⟩ := ok_of_bind h
  cases h
  exact ⟨⟨validatePageSize_ok hpage, hpage⟩, hv, rfl, rfl, rfl, fun _ => rfl, rfl,
    of_demand hbytes⟩

theorem Admitted.candidates_le (h : Admitted request snapshot) :
    snapshot.candidates.length ≤ maxBilibiliResolutionTotalCandidates := by
  have hc := (validateResolution_ok h.valid).1
  rw [h.candidates, length_tokenizeFrom]
  exact hc.trans (by decide)

theorem ne_blank_of_mem {value : String} {c : Char} (hm : c ∈ value.toList)
    (hc : Hls.isWhitespace c = false) : Hls.trim value ≠ "" := by
  intro hblank
  have hnil : ((value.toList.dropWhile Hls.isWhitespace).reverse.dropWhile
      Hls.isWhitespace).reverse = [] := by
    have := congrArg String.toList hblank
    simpa [Hls.trim] using this
  rw [reverse_eq_nil_iff, dropWhile_eq_nil_iff] at hnil
  have hdropped : c ∈ value.toList.dropWhile Hls.isWhitespace := by
    have hsplit : value.toList.takeWhile Hls.isWhitespace ++
        value.toList.dropWhile Hls.isWhitespace = value.toList := takeWhile_append_dropWhile
    rw [← hsplit] at hm
    rcases mem_append.mp hm with htaken | hdropped
    · rw [mem_takeWhile_imp htaken] at hc
      cases hc
    · exact hdropped
  rw [hnil c (mem_reverse.mpr hdropped)] at hc
  cases hc

theorem normalizedSessionId_sessionIdOf (uuid : Uuid) :
    normalizedSessionId (sessionIdOf uuid) = .ok (sessionIdOf uuid) := by
  have hblank : Hls.trim (sessionIdOf uuid) ≠ "" := by
    have hm : 'b' ∈ (sessionIdOf uuid).toList := by
      unfold sessionIdOf
      rw [String.toList_append]
      exact mem_append_left _ (by decide)
    have hletter : Hls.isWhitespace 'b' = false := by rfl
    exact ne_blank_of_mem hm hletter
  have hlen : (sessionIdOf uuid).utf8ByteSize ≤ maxBilibiliResolutionTokenBytes := by
    unfold sessionIdOf
    rw [String.utf8ByteSize_append, uuid.length]
    decide
  unfold normalizedSessionId demand
  rw [if_pos hblank, if_pos hlen]
  rfl

theorem page_inserted (hadm : Admitted request snapshot)
    (hunexpired : ∀ id found, s.sessionsById.lookup id = some found →
      request.now < found.expiresAt) :
    ∃ view, (s.insertSession (sessionIdOf request.draws.session) snapshot).page
        (sessionIdOf request.draws.session) none request.now request.pageSize
        request.draws.page =
      (((s.insertSession (sessionIdOf request.draws.session) snapshot).pageAtOffset
        (sessionIdOf request.draws.session) 0 request.pageSize request.draws.page).1, .ok view) := by
  have hl : (s.insertSession (sessionIdOf request.draws.session) snapshot).sessionsById.lookup
      (sessionIdOf request.draws.session) = some snapshot := lookup_insert _
  have hall : ∀ id found,
      (s.insertSession (sessionIdOf request.draws.session) snapshot).sessionsById.lookup id =
        some found → request.now < found.expiresAt := by
    intro id found hf
    replace hf : (s.sessionsById.insert _ snapshot).lookup id = some found := hf
    rw [lookup_insert_ite] at hf
    split at hf
    · cases hf
      rw [hadm.expiresAt]
      exact Nat.lt_add_of_pos_right (by decide)
    · exact hunexpired id found hf
  have hprun := prune_eq_self hall
  have hpage : ∃ view, ((s.insertSession (sessionIdOf request.draws.session) snapshot).pageAtOffset
      (sessionIdOf request.draws.session) 0 request.pageSize request.draws.page).2 = .ok view := by
    unfold BilibiliResolutionStore.pageAtOffset
    rw [hl]
    dsimp only
    rw [if_neg (Nat.not_lt_zero _)]
    split
    · split
      · exact ⟨_, rfl⟩
      · exact ⟨_, rfl⟩
    · exact ⟨_, rfl⟩
  obtain ⟨view, hview⟩ := hpage
  refine ⟨view, ?_⟩
  unfold BilibiliResolutionStore.page
  rw [hadm.pageSize.2]
  rw [hprun.1, hprun.2, normalizedSessionId_sessionIdOf]
  dsimp only
  rw [if_neg (by simp)]
  show BilibiliResolutionStore.pageAtOffset _ _ 0 _ _ = _
  rw [← hview]

/-- What a call of `create_session` does to a consistent store, for draws that are new to it. -/
structure Created (s : BilibiliResolutionStore) (request : CreateRequest)
    (snapshot : BilibiliResolutionSessionSnapshot) (t : BilibiliResolutionStore) : Prop where
  evicted : ∃ u, Shrinks s u ∧
    (∃ count, u.sessionOrder = (s.prune request.now).sessionOrder.drop count) ∧
    SamePlaces (u.insertSession (sessionIdOf request.draws.session) snapshot) t
      (pageTokenOf request.draws.page)

theorem Consistent.createSession (h : s.Consistent) (sizes : OwnedSizes) {request : CreateRequest}
    (hid : sessionIdOf request.draws.session ∉ s.sessionsById)
    (ht : s.pageCursorsByToken (pageTokenOf request.draws.page) = none) :
    ∃ t reply, createSession sizes s request = some (t, reply) ∧ t.Consistent ∧
      match request.snapshot sizes with
      | .error error => reply = .error error ∧ t = s.prune request.now
      | .ok snapshot => (∃ view, reply = .ok view) ∧ Created s request snapshot t := by
  obtain ⟨hprun, hshrinks⟩ := h.prune request.now
  unfold BilibiliResolutionStore.createSession
  cases hsnap : request.snapshot sizes with
  | error error => exact ⟨_, _, rfl, hprun, rfl, rfl⟩
  | ok snapshot =>
    have hadm := snapshot_admitted hsnap
    obtain ⟨u, hroom, hu, hevict, hfit, hdrop⟩ :=
      hprun.makeRoom (Nat.lt_succ_self _) hadm.candidates_le hadm.bytes
    have hall := hshrinks.trans hevict
    have hfr : sessionIdOf request.draws.session ∉ u.sessionsById := fun hm =>
      hid (hall.mem hm)
    have hins := hu.insertSession hfr hadm.tokens hfit
    obtain ⟨view, hpage⟩ := page_inserted hadm fun id found hf =>
      h.prune_live (hevict.live id found hf)
    have hn : (u.insertSession (sessionIdOf request.draws.session)
        snapshot).pageCursorsByToken (pageTokenOf request.draws.page) = none := by
      show u.pageCursorsByToken _ = none
      cases hcur : u.pageCursorsByToken (pageTokenOf request.draws.page) with
      | none => rfl
      | some cursor =>
        rw [hall.cursors _ _ hcur] at ht
        cases ht
    obtain ⟨hcons, hplaces⟩ := @Consistent.pageAtOffset _
      (sessionIdOf request.draws.session) 0 _ _ hins hadm.pageSize.1 hn
    dsimp only
    rw [hroom, hadm.id]
    dsimp only
    rw [hpage]
    exact ⟨_, _, rfl, hcons, ⟨view, rfl⟩, u, hall, hdrop, hplaces⟩

end BilibiliResolutionStore

inductive ResolutionEvent
  | create (request : CreateRequest)
  | page (sessionId : String) (pageToken : Option String) (now pageSize : Nat) (uuid : Uuid)
  | select (sessionId : String) (selection : BilibiliResolutionSelection) (now : Nat)
  | prune (now : Nat)

inductive ResolutionStep (sizes : OwnedSizes) :
    BilibiliResolutionStore → ResolutionEvent → BilibiliResolutionStore → Prop
  | create {s t : BilibiliResolutionStore} {request reply}
      (h : s.createSession sizes request = some (t, reply)) :
      ResolutionStep sizes s (.create request) t
  | page (s : BilibiliResolutionStore) (sessionId pageToken now pageSize uuid) :
      ResolutionStep sizes s (.page sessionId pageToken now pageSize uuid)
        (s.page sessionId pageToken now pageSize uuid).1
  | select (s : BilibiliResolutionStore) (sessionId selection now) :
      ResolutionStep sizes s (.select sessionId selection now)
        (s.acceptSelection sessionId selection now).1
  | prune (s : BilibiliResolutionStore) (now) : ResolutionStep sizes s (.prune now) (s.prune now)

def ResolutionEvent.sessionIds : ResolutionEvent → List String
  | .create request => [sessionIdOf request.draws.session]
  | .page _ _ _ _ _ => []
  | .select _ _ _ => []
  | .prune _ => []

def ResolutionEvent.pageTokens : ResolutionEvent → List String
  | .create request => [pageTokenOf request.draws.page]
  | .page _ _ _ _ uuid => [pageTokenOf uuid]
  | .select _ _ _ => []
  | .prune _ => []

def createdIds (events : List ResolutionEvent) : List String :=
  events.flatMap ResolutionEvent.sessionIds

def issuedTokens (events : List ResolutionEvent) : List String :=
  events.flatMap ResolutionEvent.pageTokens

structure FreshDraws (events : List ResolutionEvent) : Prop where
  sessions : (createdIds events).Nodup
  tokens : (issuedTokens events).Nodup

theorem FreshDraws.past {past : List ResolutionEvent} {event : ResolutionEvent}
    (h : FreshDraws (past ++ [event])) : FreshDraws past where
  sessions := by
    have := h.sessions
    rw [createdIds, flatMap_append] at this
    exact (nodup_append.mp this).1
  tokens := by
    have := h.tokens
    rw [issuedTokens, flatMap_append] at this
    exact (nodup_append.mp this).1

theorem FreshDraws.id_fresh {past : List ResolutionEvent} {event : ResolutionEvent} {id : String}
    (h : FreshDraws (past ++ [event])) (hid : id ∈ event.sessionIds) : id ∉ createdIds past := by
  intro hm
  have := h.sessions
  rw [createdIds, flatMap_append] at this
  exact (nodup_append.mp this).2.2 id hm id (by simpa using hid) rfl

theorem FreshDraws.token_fresh {past : List ResolutionEvent} {event : ResolutionEvent}
    {token : String} (h : FreshDraws (past ++ [event])) (ht : token ∈ event.pageTokens) :
    token ∉ issuedTokens past := by
  intro hm
  have := h.tokens
  rw [issuedTokens, flatMap_append] at this
  exact (nodup_append.mp this).2.2 token hm token (by simpa using ht) rfl

structure StoreAfter (events : List ResolutionEvent) (s : BilibiliResolutionStore) : Prop where
  consistent : s.Consistent
  creationOrder : s.sessionOrder = (createdIds events).filter (· ∈ s.sessionsById)
  issued : ∀ token cursor, s.pageCursorsByToken token = some cursor → token ∈ issuedTokens events

section

variable {events past : List ResolutionEvent} {event : ResolutionEvent}
  {s t u : BilibiliResolutionStore}

theorem StoreAfter.live_created (h : StoreAfter events s) {id : String}
    (hl : id ∈ s.sessionsById) : id ∈ createdIds events := by
  have hm := (h.consistent.mem_order id).mpr hl
  rw [h.creationOrder] at hm
  exact (mem_filter.mp hm).1

theorem StoreAfter.token_free (h : StoreAfter events s) {token : String}
    (hfr : token ∉ issuedTokens events) : s.pageCursorsByToken token = none := by
  cases hcur : s.pageCursorsByToken token with
  | none => rfl
  | some cursor => exact absurd (h.issued token cursor hcur) hfr

theorem createdIds_snoc : createdIds (past ++ [event]) = createdIds past ++ event.sessionIds := by
  simp [createdIds]

theorem issuedTokens_snoc :
    issuedTokens (past ++ [event]) = issuedTokens past ++ event.pageTokens := by
  simp [issuedTokens]

theorem StoreAfter.shrink (h : StoreAfter past s) (hfr : FreshDraws (past ++ [event]))
    {issued : String} (hissued : issued ∈ event.pageTokens ∨ issued ∈ issuedTokens past ∨ t = u)
    (hshrinks : Shrinks s u) (hplaces : SamePlaces u t issued) (hcons : t.Consistent) :
    StoreAfter (past ++ [event]) t where
  consistent := hcons
  creationOrder := by
    rw [hplaces.order, hshrinks.order, h.creationOrder, filter_filter, createdIds_snoc,
      filter_append]
    have hn : event.sessionIds.filter (· ∈ t.sessionsById) = [] := by
      rw [filter_eq_nil_iff]
      intro id hid hm
      have hold : id ∈ s.sessionsById :=
        hshrinks.mem ((hplaces.mem id).mp (by simpa using hm))
      exact hfr.id_fresh hid (h.live_created hold)
    rw [hn, append_nil]
    apply filter_congr
    intro id _
    by_cases hm : id ∈ u.sessionsById
    · simp [hm, hshrinks.mem hm, hplaces.mem]
    · simp [hm, hplaces.mem]
  issued := by
    intro token cursor hcur
    rw [issuedTokens_snoc]
    rcases hplaces.cursors token cursor hcur with hold | rfl
    · exact mem_append_left _ (h.issued token cursor (hshrinks.cursors token cursor hold))
    rcases hissued with hnow | hb | rfl
    · exact mem_append_right _ hnow
    · exact mem_append_left _ hb
    · exact mem_append_left _ (h.issued token cursor (hshrinks.cursors token cursor hcur))

theorem StoreAfter.step {sizes : OwnedSizes} (h : StoreAfter past s)
    (hfr : FreshDraws (past ++ [event])) (hst : ResolutionStep sizes s event t) :
    StoreAfter (past ++ [event]) t := by
  cases hst with
  | @create _ request reply hcreate =>
    have hn : sessionIdOf request.draws.session ∉ createdIds past :=
      hfr.id_fresh (mem_singleton.mpr rfl)
    have hid : sessionIdOf request.draws.session ∉ s.sessionsById := fun hl =>
      hn (h.live_created hl)
    have ht : pageTokenOf request.draws.page ∉ issuedTokens past :=
      hfr.token_fresh (mem_singleton.mpr rfl)
    obtain ⟨t', reply', hrun, hcons, hc⟩ :=
      h.consistent.createSession sizes hid (h.token_free ht)
    rw [hcreate] at hrun
    cases hrun
    cases hsnap : request.snapshot sizes with
    | error error =>
      rw [hsnap] at hc
      obtain ⟨-, rfl⟩ := hc
      exact h.shrink hfr (.inr (.inr rfl)) (h.consistent.prune request.now).2
        (samePlaces_refl _ "") hcons
    | ok snapshot =>
      rw [hsnap] at hc
      obtain ⟨-, u, hshrinks, -, hplaces⟩ := hc
      constructor
      · exact hcons
      · rw [hplaces.order]
        show u.sessionOrder ++ [sessionIdOf request.draws.session] = _
        rw [hshrinks.order, h.creationOrder, filter_filter, createdIds_snoc,
          filter_append]
        have hm : ∀ id, id ∈ t.sessionsById ↔
            id = sessionIdOf request.draws.session ∨ id ∈ u.sessionsById := by
          intro id
          rw [hplaces.mem]
          exact mem_insert u.sessionsById
        congr 1
        · apply filter_congr
          intro id hcreated
          have hne : id ≠ sessionIdOf request.draws.session := by
            rintro rfl
            exact hn hcreated
          by_cases hl : id ∈ u.sessionsById
          · simp [hl, hm, hshrinks.mem hl]
          · simp [hl, hm, hne]
        · show _ = List.filter _ [sessionIdOf request.draws.session]
          rw [filter_cons_of_pos (by simp [hm])]
          rfl
      · intro token cursor hcur
        rw [issuedTokens_snoc]
        rcases hplaces.cursors token cursor hcur with hold | rfl
        · exact mem_append_left _ (h.issued token cursor (hshrinks.cursors token cursor hold))
        · exact mem_append_right _ (mem_singleton.mpr rfl)
  | page sessionId pageToken now pageSize uuid =>
    have ht : pageTokenOf uuid ∉ issuedTokens past :=
      hfr.token_fresh (mem_singleton.mpr rfl)
    obtain ⟨hcons, u, hshrinks, hplaces⟩ :=
      h.consistent.page (h.token_free ht)
    exact h.shrink hfr (.inl (mem_singleton.mpr rfl)) hshrinks hplaces hcons
  | select sessionId selection now | prune now =>
    obtain ⟨hcons, hshrinks⟩ := h.consistent.prune now
    exact h.shrink hfr (.inr (.inr rfl)) hshrinks (samePlaces_refl _ "") hcons

theorem storeAfter_of_run {sizes : OwnedSizes}
    (hrun : Run (ResolutionStep sizes) .default events s) (hfr : FreshDraws events) :
    StoreAfter events s := by
  apply hrun.invariant_history (fun past s => FreshDraws past → StoreAfter past s)
  · intro a b event past hst hpast hfr
    exact (hpast hfr.past).step hfr hst
  · intro _
    exact ⟨consistent_default, rfl, fun _ _ h => by cases h⟩
  · exact hfr

/-- In every run the store stays consistent and in the order of the creations. A further creation
returns; if its request passes the checks that do not depend on the store it succeeds, and the
sessions it evicts are the oldest ones. -/
theorem resolution_store_invariant {sizes : OwnedSizes}
    (hrun : Run (ResolutionStep sizes) .default events s) (hfresh : FreshDraws events) :
    s.Consistent ∧ s.sessionOrder = (createdIds events).filter (· ∈ s.sessionsById) ∧
      ∀ request, FreshDraws (events ++ [.create request]) →
        ∃ t reply, s.createSession sizes request = some (t, reply) ∧
          ∀ snapshot, request.snapshot sizes = .ok snapshot →
            (∃ view, reply = .ok view) ∧
            ∃ evicted, t.sessionOrder = (s.prune request.now).sessionOrder.drop evicted ++
              [sessionIdOf request.draws.session] := by
  have h := storeAfter_of_run hrun hfresh
  refine ⟨h.consistent, h.creationOrder, ?_⟩
  intro request hnext
  have hid : sessionIdOf request.draws.session ∉ s.sessionsById := fun hlive =>
    hnext.id_fresh (mem_singleton.mpr rfl) (h.live_created hlive)
  have htoken : pageTokenOf request.draws.page ∉ issuedTokens events :=
    hnext.token_fresh (mem_singleton.mpr rfl)
  obtain ⟨t, reply, hcreate, -, hcases⟩ :=
    h.consistent.createSession sizes hid (h.token_free htoken)
  refine ⟨t, reply, hcreate, ?_⟩
  intro snapshot hsnapshot
  rw [hsnapshot] at hcases
  obtain ⟨hreply, u, -, ⟨evicted, hdrop⟩, hplaces⟩ := hcases
  refine ⟨hreply, evicted, ?_⟩
  rw [hplaces.order, ← hdrop]
  rfl

end

def sampleCandidate : BilibiliResolvedCandidate :=
  ⟨"page-1", "First page", "", "video", "7", ⟨.videoPage, some 5, none, some 7, none⟩, 1, none, ""⟩

def sampleUuid : Uuid := ⟨"00000000000040008000000000000000", by decide⟩

def sampleRequest : CreateRequest :=
  { resolution := ⟨"https://example.invalid/1", "Title", "video", [sampleCandidate], "", false⟩
    options := none
    requestContext := none
    now := 0
    wallClockNow := 0
    pageSize := 50
    draws := ⟨sampleUuid, sampleUuid, fun _ => sampleUuid, sampleUuid⟩ }

def sampleSizes : OwnedSizes := ⟨400, 200, 32, 32, 80⟩

theorem resolution_store_invariant_created :
    ∃ s, Run (ResolutionStep sampleSizes) .default [.create sampleRequest] s ∧ s.Consistent ∧
      s.sessionOrder = [sessionIdOf sampleUuid].filter (· ∈ s.sessionsById) := by
  have hfresh : FreshDraws [.create sampleRequest] := ⟨by decide, by decide⟩
  obtain ⟨t, reply, hcreate, -⟩ :=
    @Consistent.createSession _ consistent_default sampleSizes sampleRequest
      (notMem_empty _) rfl
  have hrun : Run (ResolutionStep sampleSizes) .default [.create sampleRequest] t :=
    Run.single (.create hcreate)
  obtain ⟨hconsistent, horder, -⟩ := resolution_store_invariant hrun hfresh
  exact ⟨t, hrun, hconsistent, horder⟩

end NetPlayer.Paging
