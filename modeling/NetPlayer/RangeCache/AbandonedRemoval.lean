import NetPlayer.RangeCache.SessionExclusion

/-!
# Abandoned removals

`begin_session_removal` marks the session before it waits, and the guard that
would clear the mark exists only after the wait. Below, the run without the
removals of a session is again a run, so it says what admission would be had no
removal been requested. The two agree unless a removal was dropped while it
waited.
-/

namespace NetPlayer.RangeCache

open RangeState Finset

variable {quotaBytes : Nat} {r r' : Runtime} {label : Action} {labels : List Action}
  {st st' : RangeState}

def removalOf (sessionId : String) : Action → Bool
  | .tryBeginRemoval other | .requestRemoval other | .refuseRemoval other
  | .markRemoval other | .suspendRemoval other | .grantRemoval other => other = sessionId
  | .abandonRemoval future => future.sessionId = sessionId
  | .commitRemoval guard | .dropRemoval guard => guard.sessionId = sessionId
  | _ => false

@[simps] def RangeState.unmark (st : RangeState) (sessionId : String) : RangeState :=
  { st with removing := st.removing.erase sessionId }

def otherRemovals (sessionId : String) (removals : Multiset HlsSessionRemovalGuard) :
    Multiset HlsSessionRemovalGuard :=
  removals.filter fun guard => guard.sessionId ≠ sessionId

def otherFutures (sessionId : String) (futures : Multiset RemovalFuture) : Multiset RemovalFuture :=
  futures.filter fun future => future.sessionId ≠ sessionId

@[simp] theorem otherRemovals_cons_self (sessionId : String)
    (rest : Multiset HlsSessionRemovalGuard) :
    otherRemovals sessionId (⟨sessionId⟩ ::ₘ rest) = otherRemovals sessionId rest := by
  simp [otherRemovals]

@[simp] theorem otherFutures_cons_self (sessionId : String) (phase : RemovalPhase)
    (rest : Multiset RemovalFuture) :
    otherFutures sessionId (⟨sessionId, phase⟩ ::ₘ rest) = otherFutures sessionId rest := by
  simp [otherFutures]

variable {sessionId : String} {guard : HlsSessionRemovalGuard}

theorem otherRemovals_cons (hne : guard.sessionId ≠ sessionId)
    (rest : Multiset HlsSessionRemovalGuard) :
    otherRemovals sessionId (guard ::ₘ rest) = guard ::ₘ otherRemovals sessionId rest :=
  Multiset.filter_cons_of_pos rest hne

theorem otherFutures_cons {future : RemovalFuture} (hne : future.sessionId ≠ sessionId)
    (rest : Multiset RemovalFuture) :
    otherFutures sessionId (future ::ₘ rest) = future ::ₘ otherFutures sessionId rest :=
  Multiset.filter_cons_of_pos rest hne

def Runtime.withoutRemoval (r : Runtime) (sessionId : String) : Runtime :=
  { r with
    state := r.state.unmark sessionId
    removals := otherRemovals sessionId r.removals
    futures := otherFutures sessionId r.futures }

variable {other : String}

theorem RangeState.closed_unmark (h : st.closed other = false) :
    (st.unmark sessionId).closed other = false := by
  rw [closed_eq_false_iff] at h ⊢
  obtain ⟨hshut, hremoving, hret, hpubl⟩ := h
  exact ⟨hshut, fun hm => hremoving (mem_of_mem_erase hm), hret, hpubl⟩

variable {priority : HlsRangePriority}

theorem enter_unmark {activity : RangeActivity}
    (ok : enter st other priority = .ok (st', activity)) :
    enter (st.unmark sessionId) other priority = .ok (st'.unmark sessionId, activity) := by
  obtain ⟨hopen, rfl, rfl⟩ := enter_ok ok
  rw [enter, closed_unmark hopen]
  cases priority <;> rfl

theorem beginSessionPublication_unmark {mode : SessionPublicationMode}
    {guard : SessionPublicationGuard}
    (ok : beginSessionPublication st other mode = .ok (st', guard)) :
    beginSessionPublication (st.unmark sessionId) other mode =
      .ok (st'.unmark sessionId, guard) := by
  obtain ⟨rfl, hshut, hremoving, hret, hfr, ho⟩ := beginSessionPublication_ok ok
  have hopen : ((st.unmark sessionId).shuttingDown || other ∈ (st.unmark sessionId).removing ||
      other ∈ (st.unmark sessionId).retired) = false := by
    simp [hshut, hremoving, hret]
  unfold beginSessionPublication
  rw [if_neg (by rw [hopen]; decide)]
  cases mode with
  | fresh =>
    obtain ⟨hunused, hidle, rfl⟩ := hfr rfl
    have hfree : ¬ (other ∈ (st.unmark sessionId).published ∨
        (st.unmark sessionId).sessionActive other ≠ 0) := by
      rw [not_or, not_not]
      exact ⟨hunused, hidle⟩
    simp only [if_neg hfree]
    rfl
  | refresh | ownedCompletion | ownedRestoration =>
    obtain ⟨hpubl, rfl⟩ := ho (by decide)
    have hpubl : other ∉ (st.unmark sessionId).unpublished := hpubl
    simp only [if_neg hpubl]
    rfl

theorem markSessionRemoval_unmark (hne : other ≠ sessionId) (st : RangeState) :
    markSessionRemoval (st.unmark sessionId) other =
      (markSessionRemoval st other).map (·.unmark sessionId) := by
  unfold markSessionRemoval
  have hm : other ∈ (st.unmark sessionId).removing ↔ other ∈ st.removing := by simp [hne]
  by_cases hcl : (st.shuttingDown || decide (other ∈ st.removing)) = true
  · simp only [hm, RangeState.unmark_shuttingDown, if_pos hcl]
    rfl
  · simp only [hm, RangeState.unmark_shuttingDown, if_neg hcl]
    simp [Except.map, unmark, erase_insert_of_ne hne]

theorem tryBeginSessionRemoval_unmark (hne : other ≠ sessionId)
    (ok : tryBeginSessionRemoval st other = .ok (st', some guard)) :
    tryBeginSessionRemoval (st.unmark sessionId) other =
      .ok (st'.unmark sessionId, some guard) := by
  have hm : other ∈ (st.unmark sessionId).removing ↔ other ∈ st.removing := by simp [hne]
  have hact : (st.unmark sessionId).sessionActive other = st.sessionActive other := rfl
  unfold tryBeginSessionRemoval at ok ⊢
  simp only [hm, hact, RangeState.unmark_shuttingDown]
  split at ok
  · cases ok
  rename_i hopen
  split at ok
  · cases ok
  rename_i hidle
  cases ok
  rw [if_neg hopen, if_neg hidle]
  simp [unmark, erase_insert_of_ne hne]

theorem claimChunk_unmark {key : RangeChunkKey} {fresh : ChannelId} {flight : RangeFlight}
    (ok : claimChunk st key priority fresh = .ok (st', flight)) :
    claimChunk (st.unmark sessionId) key priority fresh = .ok (st'.unmark sessionId, flight) := by
  have hopen : (st.unmark sessionId).closed key.resource.sessionId = false :=
    closed_unmark (claimChunk_ok ok).1
  unfold claimChunk at ok ⊢
  rw [(claimChunk_ok ok).1] at ok
  simp only [hopen, Bool.false_eq_true, if_false, RangeState.unmark_flights] at ok ⊢
  split at ok <;> cases ok <;> rfl

theorem reserve_unmark {key : RangeResourceKey} {target current usage : Nat}
    {lease : RangeQuotaLease}
    (ok : reserve quotaBytes st key target current usage = .ok (st', lease)) :
    reserve quotaBytes (st.unmark sessionId) key target current usage =
      .ok (st'.unmark sessionId, lease) := by
  unfold reserve at ok
  split at ok
  · cases ok
  rename_i hopen
  have hopen : (st.unmark sessionId).closed key.sessionId = false :=
    closed_unmark (by simpa using hopen)
  unfold reserve
  rw [if_neg (by rw [hopen]; decide)]
  dsimp only at ok
  split at ok
  · cases ok
  · rename_i hquota
    cases ok
    exact if_neg hquota

theorem RangeState.unmark_finishActivity (st : RangeState) :
    (finishActivity st other priority).unmark sessionId =
      finishActivity (st.unmark sessionId) other priority := by
  unfold finishActivity
  split <;> rfl

theorem RangeState.unmark_commitPublication (st : RangeState) (guard : SessionPublicationGuard) :
    (guard.commit st).unmark sessionId = guard.commit (st.unmark sessionId) := by
  unfold SessionPublicationGuard.commit
  split <;> rfl

theorem RangeState.unmark_dropFlight (st : RangeState) (flight : RangeFlight) :
    (flight.drop st).unmark sessionId = flight.drop (st.unmark sessionId) := by
  unfold RangeFlight.drop finishFlight releaseForegroundInterest
  simp only [RangeState.unmark_flights]
  repeat' split
  all_goals rfl

theorem RangeState.unmark_noteFileLength (st : RangeState) (key : RangeResourceKey) (length : Nat) :
    (noteFileLength st key length).unmark sessionId =
      noteFileLength (st.unmark sessionId) key length := by
  unfold noteFileLength
  simp only [RangeState.unmark_reservations]
  split <;> rfl

theorem RangeState.unmark_dropLease (st : RangeState) (lease : RangeQuotaLease) :
    (lease.drop st).unmark sessionId = lease.drop (st.unmark sessionId) := by
  unfold RangeQuotaLease.drop finishReservation
  simp only [RangeState.unmark_reservations]
  repeat' split
  all_goals rfl

theorem Runtime.withoutRemoval_removal (hst : Step quotaBytes r label r')
    (hremv : removalOf sessionId label = true) (hcommit : label ≠ .commitRemoval ⟨sessionId⟩) :
    r'.withoutRemoval sessionId = r.withoutRemoval sessionId := by
  cases hst with
  | tryBeginRemoval ok =>
    obtain rfl : _ = sessionId := of_decide_eq_true hremv
    obtain ⟨rfl, _, _, rfl⟩ := tryBeginSessionRemoval_ok ok
    simp [withoutRemoval, unmark]
  | requestRemoval =>
    obtain rfl : _ = sessionId := of_decide_eq_true hremv
    simp [withoutRemoval]
  | refuseRemoval live | suspendRemoval _ live =>
    obtain rfl : _ = sessionId := of_decide_eq_true hremv
    simp [withoutRemoval, live]
  | @abandonRemoval future rest _ live =>
    obtain ⟨other, phase⟩ := future
    obtain rfl : other = sessionId := of_decide_eq_true hremv
    simp [withoutRemoval, live]
  | markRemoval live ok =>
    obtain rfl : _ = sessionId := of_decide_eq_true hremv
    obtain ⟨_, rfl⟩ := markSessionRemoval_ok ok
    simp [withoutRemoval, live, unmark]
  | grantRemoval _ live idle =>
    obtain rfl : _ = sessionId := of_decide_eq_true hremv
    obtain ⟨rfl, _⟩ := pollSessionRemoval_some idle
    simp [withoutRemoval, live]
  | commitRemoval =>
    obtain rfl : _ = sessionId := of_decide_eq_true hremv
    exact (hcommit rfl).elim
  | @dropRemoval guard rest live =>
    obtain ⟨other⟩ := guard
    obtain rfl : other = sessionId := of_decide_eq_true hremv
    simp [withoutRemoval, live, HlsSessionRemovalGuard.drop, unmark]
  | _ => cases hremv

theorem Runtime.withoutRemoval_other (hst : Step quotaBytes r label r')
    (ho : removalOf sessionId label = false) :
    Step quotaBytes (r.withoutRemoval sessionId) label (r'.withoutRemoval sessionId) := by
  cases hst with
  | enter ok => exact Step.enter (enter_unmark ok)
  | dropActivity live =>
    simp only [withoutRemoval, RangeActivity.drop, unmark_finishActivity]
    exact Step.dropActivity live
  | beginPublication ok => exact Step.beginPublication (beginSessionPublication_unmark ok)
  | commitPublication live =>
    simp only [withoutRemoval, unmark_commitPublication]
    exact Step.commitPublication live
  | dropPublication live =>
    simp only [withoutRemoval, SessionPublicationGuard.drop, unmark_finishActivity]
    exact Step.dropPublication live
  | @tryBeginRemoval other state guard ok =>
    have hne : other ≠ sessionId := of_decide_eq_false ho
    have ok' := tryBeginSessionRemoval_unmark hne ok
    obtain ⟨rfl, _⟩ := tryBeginSessionRemoval_ok ok
    rw [withoutRemoval, withoutRemoval, otherRemovals_cons hne]
    exact Step.tryBeginRemoval ok'
  | @requestRemoval other =>
    have hne : other ≠ sessionId := of_decide_eq_false ho
    rw [withoutRemoval, withoutRemoval, otherFutures_cons hne]
    exact Step.requestRemoval
  | @refuseRemoval other rest error live refused =>
    have hne : other ≠ sessionId := of_decide_eq_false ho
    rw [withoutRemoval, withoutRemoval, live, otherFutures_cons hne]
    refine @Step.refuseRemoval _ _ _ _ error rfl ?_
    rw [markSessionRemoval_unmark hne, refused]
    rfl
  | @markRemoval other rest state live ok =>
    have hne : other ≠ sessionId := of_decide_eq_false ho
    rw [withoutRemoval, withoutRemoval, live, otherFutures_cons hne, otherFutures_cons hne]
    refine Step.markRemoval rfl ?_
    rw [markSessionRemoval_unmark hne, ok]
    rfl
  | @suspendRemoval other rest phase polled live busy =>
    have hne : other ≠ sessionId := of_decide_eq_false ho
    rw [withoutRemoval, withoutRemoval, live, otherFutures_cons hne, otherFutures_cons hne]
    exact Step.suspendRemoval polled rfl busy
  | @grantRemoval other rest phase guard polled live idle =>
    have hne : other ≠ sessionId := of_decide_eq_false ho
    obtain ⟨hguard, _⟩ := pollSessionRemoval_some idle
    rw [withoutRemoval, withoutRemoval, live, otherFutures_cons hne,
      otherRemovals_cons (by rw [hguard]; exact hne)]
    exact Step.grantRemoval polled rfl idle
  | @abandonRemoval future rest suspended live =>
    have hne : future.sessionId ≠ sessionId := of_decide_eq_false ho
    rw [withoutRemoval, withoutRemoval, live, otherFutures_cons hne]
    exact Step.abandonRemoval suspended rfl
  | @commitRemoval guard rest live =>
    have hne : guard.sessionId ≠ sessionId := of_decide_eq_false ho
    rw [withoutRemoval, withoutRemoval, live, otherRemovals_cons hne]
    have hs : (guard.commit r.state).unmark sessionId =
        guard.commit (r.state.unmark sessionId) := by
      simp [HlsSessionRemovalGuard.commit, unmark, erase_right_comm]
    dsimp only
    rw [hs]
    exact Step.commitRemoval rfl
  | @dropRemoval guard rest live =>
    have hne : guard.sessionId ≠ sessionId := of_decide_eq_false ho
    rw [withoutRemoval, withoutRemoval, live, otherRemovals_cons hne]
    have hs : (guard.drop r.state).unmark sessionId =
        guard.drop (r.state.unmark sessionId) := by
      simp [HlsSessionRemovalGuard.drop, unmark, erase_right_comm]
    dsimp only
    rw [hs]
    exact Step.dropRemoval rfl
  | drain => exact Step.drain
  | claim ok => exact Step.claim (claimChunk_unmark ok)
  | dropFlight live =>
    simp only [withoutRemoval, unmark_dropFlight]
    exact Step.dropFlight live
  | reserve ok => exact Step.reserve (reserve_unmark ok)
  | noteFileLength =>
    simp only [withoutRemoval, unmark_noteFileLength]
    exact Step.noteFileLength
  | dropLease live =>
    simp only [withoutRemoval, unmark_dropLease]
    exact Step.dropLease live

theorem Reaches.withoutRemoval (run : Reaches quotaBytes labels r)
    (hcommit : Action.commitRemoval ⟨sessionId⟩ ∉ labels) :
    Reaches quotaBytes (labels.filter fun label => !removalOf sessionId label)
      (r.withoutRemoval sessionId) := by
  induction run with
  | nil => exact Transition.Run.nil _
  | @snoc mid last past label run hst ih =>
    rw [List.mem_append, List.mem_singleton, not_or] at hcommit
    rw [List.filter_append]
    cases hremv : removalOf sessionId label with
    | true =>
      rw [Runtime.withoutRemoval_removal hst hremv (Ne.symm hcommit.2)]
      simpa [hremv] using ih hcommit.1
    | false =>
      simpa [hremv] using
        Transition.Run.snoc (ih hcommit.1) (Runtime.withoutRemoval_other hst hremv)

def RangeState.AdmitsAlike (st st' : RangeState) (sessionId : String) : Prop :=
  (∀ priority, (enter st sessionId priority).map (·.2) = (enter st' sessionId priority).map (·.2)) ∧
    ∀ mode, (beginSessionPublication st sessionId mode).map (·.2) =
      (beginSessionPublication st' sessionId mode).map (·.2)

theorem RangeState.AdmitsAlike.refusesAll (alike : st.AdmitsAlike st' sessionId)
    (h : st.RefusesAll sessionId) : st'.RefusesAll sessionId := by
  constructor
  · intro priority
    have := alike.1 priority
    rw [h.1] at this
    cases hres : enter st' sessionId priority with
    | error error =>
      rw [hres] at this
      cases this
      rfl
    | ok =>
      rw [hres] at this
      cases this
  · intro mode
    have := alike.2 mode
    rw [h.2] at this
    cases hres : beginSessionPublication st' sessionId mode with
    | error error =>
      rw [hres] at this
      cases this
      rfl
    | ok =>
      rw [hres] at this
      cases this

def Runtime.Quiet (r : Runtime) (sessionId : String) : Prop :=
  r.Idle sessionId ∧ r.removalClaims sessionId = 0

instance (r : Runtime) (sessionId : String) : Decidable (r.Idle sessionId) :=
  inferInstanceAs (Decidable (_ ∧ _))

instance (labels : List Action) (sessionId : String) :
    Decidable (AbandonedWaiting labels sessionId) :=
  inferInstanceAs (Decidable (_ ∈ _))

theorem RangeState.RefusesAll.admitsAlike (h : st.RefusesAll sessionId)
    (h' : st'.RefusesAll sessionId) : st.AdmitsAlike st' sessionId := by
  constructor
  · intro priority
    rw [h.1, h'.1]
  · intro mode
    rw [h.2, h'.2]

theorem RangeState.refusesAll_of_shuttingDown (h : st.shuttingDown = true) :
    st.RefusesAll sessionId :=
  ⟨fun priority => enter_closed priority (by simp [closed, h]),
    fun mode => beginSessionPublication_closed mode (.inl h)⟩

theorem Runtime.Counted.sessionActive_eq_zero (h : r.Counted) (idle : r.Idle sessionId) :
    r.state.sessionActive sessionId = 0 := by
  rw [h.session, Multiset.countP_eq_zero.2 idle.1, Multiset.countP_eq_zero.2 idle.2]

/-- An idle session that carries no mark, is not retired and meets no shutdown is open
to an ordinary activity or, while it is unpublished, to a fresh publication. -/
theorem Runtime.PublicationSound.not_refusesAll (h : r.PublicationSound)
    (hidle : r.state.sessionActive sessionId = 0) (hshut : r.state.shuttingDown = false)
    (hret : sessionId ∉ r.state.retired) :
    ¬ (r.state.unmark sessionId).RefusesAll sessionId := by
  intro hrefu
  have hmark : sessionId ∉ (r.state.unmark sessionId).removing := by simp
  by_cases hpubl : sessionId ∈ r.state.unpublished
  · have hfree : ¬ (sessionId ∈ r.state.published ∨
        (r.state.unmark sessionId).sessionActive sessionId ≠ 0) := by
      rw [not_or, not_not]
      exact ⟨h.disjoint _ hpubl, hidle⟩
    have := hrefu.2 .fresh
    simp [beginSessionPublication, hshut, hret, hfree] at this
  · have hopen : (r.state.unmark sessionId).closed sessionId = false :=
      RangeState.closed_eq_false_iff.2 ⟨hshut, hmark, hret, hpubl⟩
    have := hrefu.1 .background
    simp [enter, hopen] at this

/-- Once nothing of a session is live, admission is what it would be without the
removals of the session exactly if none was dropped while it waited. -/
theorem abandoned_removal_leaves_no_trace_iff {sessionId : String}
    (run : Reaches quotaBytes labels r) (quiet : r.Quiet sessionId) :
    (Action.commitRemoval ⟨sessionId⟩ ∉ labels →
      Reaches quotaBytes (labels.filter fun label => !removalOf sessionId label)
        (r.withoutRemoval sessionId)) ∧
    (r.state.AdmitsAlike (r.withoutRemoval sessionId).state sessionId ↔
      ¬ AbandonedWaiting labels sessionId ∨ r.state.shuttingDown = true) := by
  refine ⟨Reaches.withoutRemoval run, ?_⟩
  have removal := Reaches.removalSound run
  have hidle := (Reaches.counted run).sessionActive_eq_zero quiet.1
  constructor
  · intro alike
    by_contra hcontra
    rw [not_or, not_not, Bool.not_eq_true] at hcontra
    obtain ⟨habandoned, hshut⟩ := hcontra
    have hmarked : r.state.RefusesAll sessionId :=
      refusesAll_of_mem (.inl ((removal.marked _).2 (.inr habandoned)))
    refine (Reaches.publicationSound run).not_refusesAll hidle hshut
      (removal.abandonedOpen _ habandoned) (alike.refusesAll hmarked)
  · rintro (hclean | hshut)
    · have hmark : sessionId ∉ r.state.removing := by
        intro hmem
        rcases (removal.marked _).1 hmem with hclaimed | habandoned
        · exact absurd quiet.2 hclaimed.ne'
        · exact hclean habandoned
      have hsame : (r.withoutRemoval sessionId).state = r.state := by
        simp [Runtime.withoutRemoval, unmark, erase_eq_of_notMem hmark]
      rw [hsame]
      exact ⟨fun _ => rfl, fun _ => rfl⟩
    · exact RangeState.RefusesAll.admitsAlike (refusesAll_of_shuttingDown hshut)
        (refusesAll_of_shuttingDown hshut)

def unpolledRemoval : List Action :=
  [.requestRemoval "s", .abandonRemoval ⟨"s", .created⟩, .enter "s" .foreground,
    .dropActivity ⟨"s", .foreground⟩]

theorem abandoned_removal_leaves_no_trace_unpolled :
    ∃ r ∈ Runtime.initial.performAll 0 unpolledRemoval,
      r.state.AdmitsAlike (r.withoutRemoval "s").state "s" :=
  ⟨_, rfl, (abandoned_removal_leaves_no_trace_iff
    (@Runtime.performAll_run 0 _ _ unpolledRemoval rfl) ⟨by decide, by decide⟩).2.2
      (.inl (by decide))⟩

def waitingRemoval : List Action :=
  [.enter "s" .background, .requestRemoval "s", .markRemoval "s", .suspendRemoval "s",
    .abandonRemoval ⟨"s", .waiting⟩, .dropActivity ⟨"s", .background⟩]

/-- It closes the session for good. -/
theorem abandoned_removal_leaves_a_trace :
    ¬ ∀ (quotaBytes : Nat) (labels : List Action) (r : Runtime) (future : RemovalFuture),
      Reaches quotaBytes labels r → Action.abandonRemoval future ∈ labels →
        r.Quiet future.sessionId →
          r.state.AdmitsAlike (r.withoutRemoval future.sessionId).state future.sessionId := by
  intro hclaim
  have halike := hclaim 0 waitingRemoval _ ⟨"s", .waiting⟩ (Runtime.performAll_run rfl)
    (by decide) ⟨by decide, by decide⟩
  have hrefused := halike.1 .foreground
  cases hrefused

end NetPlayer.RangeCache
