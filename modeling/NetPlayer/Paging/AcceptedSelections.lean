import NetPlayer.Paging.ResolutionRuns

/-!
# Accepted selections

A session accepts the selection that it was asked for: the named candidates of its snapshot,
each once and in the specified order.
-/

namespace NetPlayer.Paging

open Transition PagedSnapshots BilibiliResolutionStore List

variable {snapshot : BilibiliResolutionSessionSnapshot} {s t : BilibiliResolutionStore}

def BilibiliResolutionSessionSnapshot.tokenAt (snapshot : BilibiliResolutionSessionSnapshot)
    (offset : Nat) : Option String :=
  snapshot.candidates[offset]?.map (·.token)

/-- The candidates are distinct, and the lookup map finds a token only where it stands. -/
structure Stored (snapshot : BilibiliResolutionSessionSnapshot) : Prop where
  nonempty : snapshot.candidates ≠ []
  distinct : (snapshot.candidates.map fun found => found.candidate.selectionId).Nodup
  offset : ∀ token offset, snapshot.candidateOffsetsByToken token = some offset →
    snapshot.tokenAt offset = some token

variable {offset start : Nat} {token : String}

theorem tokenAt_lt (h : snapshot.tokenAt offset = some token) :
    offset < snapshot.candidates.length := by
  obtain ⟨found, hfound, _⟩ := Option.map_eq_some_iff.mp h
  exact (List.getElem?_eq_some_iff.mp hfound).1

variable {seen tokens : List String}

theorem validateCandidates_distinct {value : Unit} {candidates : List BilibiliResolvedCandidate}
    (h : validateCandidates seen candidates = .ok value) :
    (candidates.map (·.selectionId)).Nodup ∧
      ∀ candidate ∈ candidates, candidate.selectionId ∉ seen := by
  induction candidates generalizing seen with
  | nil => simp
  | cons candidate rest ih =>
    unfold validateCandidates at h
    obtain ⟨_, _, h⟩ := ok_of_bind h
    obtain ⟨_, hfresh, h⟩ := ok_of_bind h
    obtain ⟨hr, hseen⟩ := ih h
    rw [map_cons, nodup_cons, forall_mem_cons]
    refine ⟨⟨fun hmem => ?_, hr⟩, of_demand hfresh, fun other hother => ?_⟩
    · obtain ⟨other, hother, hsame⟩ := mem_map.mp hmem
      exact hseen other hother (hsame ▸ mem_cons_self)
    · exact fun hmem => hseen other hother (mem_cons_of_mem _ hmem)

theorem tokenizeFrom_selectionIds (uuids : Nat → Uuid) (offset : Nat)
    (candidates : List BilibiliResolvedCandidate) :
    (tokenizeFrom uuids offset candidates).map (fun found => found.candidate.selectionId) =
      candidates.map (·.selectionId) := by
  induction candidates generalizing offset with
  | nil => rfl
  | cons candidate rest ih => simp [tokenizeFrom, ih]

theorem offsetsFrom_some {offsets : String → Option Nat}
    {candidates : List TokenizedBilibiliCandidate}
    (h : offsetsFrom offsets start candidates token = some offset) :
    offsets token = some offset ∨
      ∃ i, offset = start + i ∧ candidates[i]?.map (·.token) = some token := by
  induction candidates generalizing offsets start with
  | nil => exact .inl h
  | cons candidate rest ih =>
    rcases ih h with hb | ⟨i, rfl, hget⟩
    · by_cases htoken : token = candidate.token
      · rw [htoken, Function.update_self] at hb
        cases hb
        exact .inr ⟨0, rfl, by simp [htoken]⟩
      · rw [Function.update_of_ne htoken] at hb
        exact .inl hb
    · exact .inr ⟨i + 1, by omega, by simpa using hget⟩

theorem BilibiliResolutionStore.Admitted.stored {request : CreateRequest}
    (h : Admitted request snapshot) :
    Stored snapshot := by
  obtain ⟨_, hne, hvalid⟩ := validateResolution_ok h.valid
  constructor
  · rw [h.candidates, ← length_pos_iff, length_tokenizeFrom]
    exact length_pos_of_ne_nil hne
  · rw [h.candidates, tokenizeFrom_selectionIds]
    exact (validateCandidates_distinct hvalid).1
  · intro token offset hfound
    rw [h.offsets] at hfound
    rcases offsetsFrom_some hfound with hn | ⟨i, rfl, hget⟩
    · cases hn
    · rwa [Nat.zero_add]

def OnlyStored (s : BilibiliResolutionStore) : Prop :=
  ∀ id snapshot, s.sessionsById.lookup id = some snapshot → Stored snapshot

theorem OnlyStored.removeSession (h : OnlyStored s) (id : String) :
    OnlyStored (s.removeSession id) := by
  intro other snapshot hl
  rw [removeSession_sessionsById, lookup_erase_ite] at hl
  split at hl
  · cases hl
  · exact h other snapshot hl

theorem OnlyStored.prune (h : OnlyStored s) (now : Nat) : OnlyStored (s.prune now) := by
  unfold BilibiliResolutionStore.prune
  generalize s.expired now = ids
  induction ids generalizing s with
  | nil => exact h
  | cons id rest ih => exact ih (h.removeSession id)

theorem OnlyStored.makeRoom {candidates bytes rounds : Nat} {fits : Bool} (h : OnlyStored s)
    (hroom : BilibiliResolutionStore.makeRoom candidates bytes rounds s = some (t, fits)) :
    OnlyStored t := by
  induction rounds generalizing s with
  | zero => cases hroom
  | succ rounds ih =>
    unfold BilibiliResolutionStore.makeRoom at hroom
    split at hroom
    · split at hroom
      · cases hroom
        exact h
      · exact ih (h.removeSession _) hroom
    · cases hroom
      exact h

theorem OnlyStored.insert {id : String} (h : OnlyStored s) (hstor : Stored snapshot)
    (ht : t.sessionsById = s.sessionsById.insert id snapshot) : OnlyStored t := by
  intro other found hl
  rw [ht, lookup_insert_ite] at hl
  split at hl
  · cases hl
    exact hstor
  · exact h other found hl

theorem Stored.withPageToken (h : Stored snapshot) (offset : Nat) (token : String) :
    Stored (snapshot.withPageToken offset token) :=
  ⟨h.nonempty, h.distinct, h.offset⟩

theorem OnlyStored.page {id : String} {pageToken : Option String} {now pageSize : Nat}
    {uuid : Uuid} (h : OnlyStored s) : OnlyStored (s.page id pageToken now pageSize uuid).1 := by
  unfold BilibiliResolutionStore.page
  split
  · exact h
  dsimp only
  split
  · exact h.prune now
  split
  · exact h.prune now
  split
  · exact h.prune now
  unfold BilibiliResolutionStore.pageAtOffset
  split
  · exact h.prune now
  · rename_i snapshot hl
    have hstor := h.prune now _ snapshot hl
    split
    · exact h.prune now
    dsimp only
    split
    · split
      · exact h.prune now
      · exact (h.prune now).insert (hstor.withPageToken _ _) rfl
    · exact h.prune now

theorem OnlyStored.step {sizes : OwnedSizes} {event : ResolutionEvent}
    (hst : ResolutionStep sizes s event t) (h : OnlyStored s) : OnlyStored t := by
  cases hst with
  | @create _ request reply hcreate =>
    unfold BilibiliResolutionStore.createSession at hcreate
    dsimp only at hcreate
    cases hsnap : request.snapshot sizes with
    | error error =>
      rw [hsnap] at hcreate
      cases hcreate
      exact h.prune _
    | ok snapshot =>
      rw [hsnap] at hcreate
      dsimp only at hcreate
      split at hcreate
      · cases hcreate
      · cases hcreate
        exact (h.prune _).makeRoom ‹_›
      · obtain rfl := congrArg Prod.fst (Option.some.inj hcreate)
        exact (((h.prune _).makeRoom ‹_›).insert (snapshot_admitted hsnap).stored rfl).page
  | page => exact h.page
  | select sessionId selection now => exact h.prune now
  | prune now => exact h.prune now

def Asks (snapshot : BilibiliResolutionSessionSnapshot) (selection : BilibiliResolutionSelection)
    (offsets : List Nat) : Prop :=
  match BilibiliResolutionSelectionMode.tryFrom selection.mode with
  | some .single => selection.candidateTokens.length = 1 ∧
      offsets.map snapshot.tokenAt = selection.candidateTokens.map some
  | some .multiple => offsets.map snapshot.tokenAt = selection.candidateTokens.map some
  | some .range => ∃ first last, first ≤ last ∧
      snapshot.tokenAt first = some selection.rangeStartCandidateToken ∧
      snapshot.tokenAt last = some selection.rangeEndCandidateToken ∧
      offsets = List.range' first (last - first + 1)
  | some .all => offsets = List.range snapshot.candidates.length
  | _ => False

variable {selection : BilibiliResolutionSelection} {offsets : List Nat} (h : Stored snapshot)

include h in
theorem Stored.candidateOffset (hfound : candidateOffset snapshot token = .ok offset) :
    snapshot.tokenAt offset = some token := by
  unfold NetPlayer.Paging.candidateOffset at hfound
  split at hfound
  · cases hfound
    exact h.offset token offset ‹_›
  · cases hfound

include h in
theorem Stored.distinctOffsets {seen : List Nat}
    (hoffsets : distinctOffsets snapshot seen tokens = .ok offsets) :
    offsets.Nodup ∧ (∀ offset ∈ offsets, offset ∉ seen) ∧
      offsets.map snapshot.tokenAt = tokens.map some := by
  induction tokens generalizing seen offsets with
  | nil =>
    cases hoffsets
    simp
  | cons token rest ih =>
    unfold NetPlayer.Paging.distinctOffsets at hoffsets
    obtain ⟨offset, hoffset, hoffsets⟩ := ok_of_bind hoffsets
    obtain ⟨_, hfresh, hoffsets⟩ := ok_of_bind hoffsets
    obtain ⟨others, hothers, hoffsets⟩ := ok_of_bind hoffsets
    cases hoffsets
    obtain ⟨hnodup, hseen, htokens⟩ := ih hothers
    rw [nodup_cons, forall_mem_cons, map_cons, map_cons, h.candidateOffset hoffset, htokens]
    exact ⟨⟨fun hmem => hseen offset hmem mem_cons_self, hnodup⟩,
      ⟨of_demand hfresh, fun other hmem hold => hseen other hmem (mem_cons_of_mem _ hold)⟩, rfl⟩

theorem validated_mode {mode : BilibiliResolutionSelectionMode}
    (h : validateBilibiliResolutionSelection selection = .ok mode) :
    BilibiliResolutionSelectionMode.tryFrom selection.mode = some mode ∧
      (mode = .single → selection.candidateTokens.length = 1) ∧
      (mode = .multiple → selection.candidateTokens ≠ []) := by
  unfold validateBilibiliResolutionSelection at h
  iterate 4 obtain ⟨_, _, h⟩ := ok_of_bind h
  split at h
  · cases h
  · obtain ⟨_, _, h⟩ := ok_of_bind h
    obtain ⟨_, hone, h⟩ := ok_of_bind h
    cases h
    exact ⟨‹_›, fun _ => of_demand hone, nofun⟩
  · obtain ⟨_, _, h⟩ := ok_of_bind h
    obtain ⟨_, hs, h⟩ := ok_of_bind h
    obtain ⟨_, _, h⟩ := ok_of_bind h
    cases h
    exact ⟨‹_›, nofun, fun _ => of_demand hs⟩
  · obtain ⟨_, _, h⟩ := ok_of_bind h
    cases h
    exact ⟨‹_›, nofun, nofun⟩
  · obtain ⟨_, _, h⟩ := ok_of_bind h
    cases h
    exact ⟨‹_›, nofun, nofun⟩
  · cases h

structure Chosen (snapshot : BilibiliResolutionSessionSnapshot)
    (selection : BilibiliResolutionSelection) (offsets : List Nat) : Prop where
  asked : Asks snapshot selection offsets
  distinct : offsets.Nodup
  inside : ∀ offset ∈ offsets, offset < snapshot.candidates.length
  nonempty : 1 ≤ offsets.length
  bounded : offsets.length ≤ maxBilibiliResolutionTaskCandidates

theorem inside_of_tokens (h : offsets.map snapshot.tokenAt = tokens.map some) :
    ∀ offset ∈ offsets, offset < snapshot.candidates.length := by
  intro offset hmem
  have hfound : snapshot.tokenAt offset ∈ tokens.map some := h ▸ mem_map_of_mem hmem
  obtain ⟨token, _, htoken⟩ := mem_map.mp hfound
  exact tokenAt_lt htoken.symm

include h in
theorem Stored.selectedOffsets (hoffsets : selectedOffsets snapshot selection = .ok offsets) :
    Chosen snapshot selection offsets := by
  unfold NetPlayer.Paging.selectedOffsets at hoffsets
  obtain ⟨mode, hvalid, hoffsets⟩ := ok_of_bind hoffsets
  obtain ⟨hmode, hsingle, hmultiple⟩ := validated_mode hvalid
  cases mode with
  | single =>
    obtain ⟨offset, hoffset, hoffsets⟩ := ok_of_bind hoffsets
    cases hoffsets
    obtain ⟨token, htoken⟩ := length_eq_one_iff.mp (hsingle rfl)
    have hfound := h.candidateOffset hoffset
    rw [htoken] at hfound
    refine ⟨?_, nodup_singleton _, by simpa using tokenAt_lt hfound, le_rfl, by simp [maxBilibiliResolutionTaskCandidates]⟩
    simp [Asks, hmode, htoken, hfound]
  | multiple =>
    obtain ⟨_, hcount, hoffsets⟩ := ok_of_bind hoffsets
    obtain ⟨hnodup, _, htokens⟩ := h.distinctOffsets hoffsets
    have hlen : offsets.length = selection.candidateTokens.length := by
      simpa using congrArg List.length htokens
    refine ⟨by simpa [Asks, hmode] using htokens, hnodup, inside_of_tokens htokens, ?_, ?_⟩
    · rw [hlen]
      exact length_pos_of_ne_nil (hmultiple rfl)
    · rw [hlen]
      exact of_demand hcount
  | range =>
    obtain ⟨first, hfirst, hoffsets⟩ := ok_of_bind hoffsets
    obtain ⟨last, hlast, hoffsets⟩ := ok_of_bind hoffsets
    obtain ⟨_, horder, hoffsets⟩ := ok_of_bind hoffsets
    obtain ⟨_, hcount, hoffsets⟩ := ok_of_bind hoffsets
    cases hoffsets
    have horder := of_demand horder
    have hstart := h.candidateOffset hfirst
    have hstop := h.candidateOffset hlast
    refine ⟨?_, nodup_range', fun offset hmem => ?_, by simp, by simpa using of_demand hcount⟩
    · simp only [Asks, hmode]
      exact ⟨first, last, horder, hstart, hstop, rfl⟩
    · have := tokenAt_lt hstop
      rw [mem_range'_1] at hmem
      omega
  | all =>
    obtain ⟨_, hcount, hoffsets⟩ := ok_of_bind hoffsets
    cases hoffsets
    refine ⟨by simp [Asks, hmode], nodup_range, fun offset hmem => mem_range.mp hmem, ?_, ?_⟩
    · rw [length_range]
      exact length_pos_of_ne_nil h.nonempty
    · rw [length_range]
      exact of_demand hcount
  | unspecified => cases hoffsets

structure AcceptedFrom (snapshot : BilibiliResolutionSessionSnapshot)
    (selection : BilibiliResolutionSelection) (candidates : List BilibiliResolvedCandidate) :
    Prop where
  chosen : ∃ offsets, Chosen snapshot selection offsets ∧
    candidates.map some = offsets.map fun offset => snapshot.candidates[offset]?.map (·.candidate)
  distinct : candidates.Nodup

include h in
theorem Stored.acceptedFrom (hchosen : Chosen snapshot selection offsets) :
    AcceptedFrom snapshot selection (offsets.filterMap fun offset =>
      snapshot.candidates[offset]?.map (·.candidate)) := by
  constructor
  · refine ⟨offsets, hchosen, ?_⟩
    rw [map_filterMap_some_eq_filter_map_isSome, filter_eq_self]
    intro found hmem
    obtain ⟨offset, hoffset, rfl⟩ := mem_map.mp hmem
    simp [hchosen.inside offset hoffset]
  · refine hchosen.distinct.filterMap fun offset other candidate hfound hother => ?_
    obtain ⟨found, hget, rfl⟩ := Option.map_eq_some_iff.mp hfound
    obtain ⟨again, hgot, hsame⟩ := Option.map_eq_some_iff.mp hother
    refine (getElem?_inj ?_ h.distinct).mp (by simp [hget, hgot, hsame])
    simpa using (List.getElem?_eq_some_iff.mp hget).1

structure ReachedStore (sizes : OwnedSizes) where
  store : BilibiliResolutionStore
  events : List ResolutionEvent
  run : Run (ResolutionStep sizes) .default events store

/-- A call leaves the store pruned, that is unchanged when no session is expired, and the candidates
it accepts are the distinct ones that the selection asks for, from 1 to 100. -/
theorem accept_selection_exact {sizes : OwnedSizes} (reached : ReachedStore sizes)
    (sessionId : String) (selection : BilibiliResolutionSelection) (now : Nat) :
    (reached.store.acceptSelection sessionId selection now).1 = reached.store.prune now ∧
      (reached.store.expired now = [] → reached.store.prune now = reached.store) ∧
      ∀ accepted, (reached.store.acceptSelection sessionId selection now).2 = .ok accepted →
        ∃ snapshot, (reached.store.prune now).sessionsById.lookup sessionId = some snapshot ∧
          AcceptedFrom snapshot selection accepted.candidates := by
  have hstor : OnlyStored reached.store :=
    reached.run.invariant OnlyStored (fun hstep h => h.step hstep) (fun _ _ h => by cases h)
  refine ⟨rfl, fun hnone => ?_, fun accepted hacc => ?_⟩
  · unfold BilibiliResolutionStore.prune
    rw [hnone]
    rfl
  · obtain ⟨id, hid, hreply⟩ := ok_of_bind hacc
    have hsame : id = sessionId := by
      obtain ⟨_, _, hid⟩ := ok_of_bind hid
      obtain ⟨_, _, hid⟩ := ok_of_bind hid
      cases hid
      rfl
    obtain ⟨_, _, hreply⟩ := ok_of_bind hreply
    rw [hsame] at hreply
    split at hreply
    · cases hreply
    · rename_i snapshot hlive
      obtain ⟨offsets, hoffsets, hreply⟩ := ok_of_bind hreply
      cases hreply
      have hfound := hstor.prune now sessionId snapshot hlive
      exact ⟨snapshot, hlive, hfound.acceptedFrom (hfound.selectedOffsets hoffsets)⟩

/-- A request without a session id, when the only session has expired. -/
theorem refused_selection_prunes :
    ∃ reached : ReachedStore sampleSizes,
      (reached.store.acceptSelection "" ⟨1, [], "", ""⟩ bilibiliResolutionSessionTtl).2.isOk =
        false ∧
      (reached.store.acceptSelection "" ⟨1, [], "", ""⟩ bilibiliResolutionSessionTtl).1 ≠
        reached.store := by
  have hcounts : ((createSession sampleSizes .default sampleRequest).map fun made =>
      (made.1.totalCandidates,
        (made.1.prune bilibiliResolutionSessionTtl).totalCandidates)) = some (1, 0) := by
    decide +kernel
  obtain ⟨made, hmade, hcount⟩ := Option.map_eq_some_iff.mp hcounts
  obtain ⟨hone, hzero⟩ := Prod.mk.inj hcount
  refine ⟨⟨made.1, _, Run.single (.create hmade)⟩, rfl, fun hsame => ?_⟩
  have hcands := congrArg BilibiliResolutionStore.totalCandidates hsame
  exact absurd ((hzero.symm.trans hcands).trans hone) (by decide)

end NetPlayer.Paging
