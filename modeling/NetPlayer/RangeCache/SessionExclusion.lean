import NetPlayer.RangeCache.CoordinatorRuns

/-!
# Activities, publications and removals exclude each other

Two invariants of the coordinator: every counter is the number of live handles
of its kind, and the admission sets say what the live guards say. The exclusion
of activity and removal, the finality of a committed removal and the fence
around a fresh publication are read off them.
-/

namespace NetPlayer.RangeCache

open RangeState RangeCache.Runtime Multiset List Finset RangeFlight RangeQuotaLease

variable {quotaBytes : Nat} {r r' : Runtime} {label : Action} {labels : List Action}

/-- Every counter is the number of live handles of its kind. -/
structure Runtime.Counted (r : Runtime) : Prop where
  active : r.state.active = r.activities.card + r.publications.card
  session : ∀ s, r.state.sessionActive s =
    r.activities.countP (fun a => a.sessionId = s) +
      r.publications.countP (fun g => g.sessionId = s)
  foreground : r.state.activeForeground =
    r.activities.countP (fun a => a.priority = .foreground)

theorem Runtime.initial_counted : Runtime.initial.Counted := by
  refine ⟨rfl, fun s => ?_, rfl⟩
  simp [Runtime.initial, RangeState.default, sessionActive]

theorem Runtime.Counted.frame (h : r.Counted)
    (hs : r.state.SameAdmission r'.state) (hacts : r'.activities = r.activities)
    (hpubls : r'.publications = r.publications) : r'.Counted := by
  obtain ⟨flights, reservations, next, hs⟩ := hs
  refine ⟨?_, fun s => ?_, ?_⟩
  · rw [hacts, hpubls, hs]
    exact h.active
  · rw [hacts, hpubls, hs]
    exact h.session s
  · rw [hacts, hs]
    exact h.foreground

theorem Runtime.Counted.addPublication (h : r.Counted)
    (guard : SessionPublicationGuard) (hacts : r'.activities = r.activities)
    (hpubls : r'.publications = guard ::ₘ r.publications)
    (hact : r'.state.active = r.state.active + 1)
    (hs : ∀ s, r'.state.sessionActive s =
      r.state.sessionActive s + if s = guard.sessionId then 1 else 0)
    (hfore : r'.state.activeForeground = r.state.activeForeground) : r'.Counted := by
  refine ⟨?_, fun s => ?_, ?_⟩
  · rw [hact, h.active, hacts, hpubls, Multiset.card_cons]
    omega
  · rw [hs, h.session, hacts, hpubls, Multiset.countP_cons]
    simp only [eq_comm (a := s)]
    omega
  · rw [hfore, h.foreground, hacts]

variable {guard : SessionPublicationGuard} {rest : Multiset SessionPublicationGuard}

theorem Runtime.Counted.removePublication (h : r.Counted)
    (live : r.publications = guard ::ₘ rest) (hacts : r'.activities = r.activities)
    (hpubls : r'.publications = rest)
    (hact : r'.state.active = r.state.active - 1)
    (hs : ∀ s, r'.state.sessionActive s =
      r.state.sessionActive s - if s = guard.sessionId then 1 else 0)
    (hfore : r'.state.activeForeground = r.state.activeForeground) : r'.Counted := by
  refine ⟨?_, fun s => ?_, ?_⟩
  · rw [hact, h.active, live, hacts, hpubls, Multiset.card_cons]
    omega
  · rw [hs, h.session, live, hacts, hpubls, Multiset.countP_cons]
    simp only [eq_comm (a := s)]
    omega
  · rw [hfore, h.foreground, hacts]

theorem Runtime.Counted.step (hst : Step quotaBytes r label r') (h : r.Counted) : r'.Counted := by
  cases hst with
  | enter ok =>
    obtain ⟨_, rfl, rfl⟩ := enter_ok ok
    refine ⟨?_, fun s => ?_, ?_⟩
    · simp only [RangeState.addActivity_active, RangeState.setForeground_active, h.active,
        Multiset.card_cons]
      omega
    · simp only [sessionActive_addActivity, sessionActive_setForeground,
        h.session, Multiset.countP_cons, eq_comm (a := s)]
      omega
    · simp only [RangeState.addActivity_activeForeground,
        RangeState.setForeground_activeForeground, h.foreground, Multiset.countP_cons]
  | @dropActivity activity rest live =>
    have hact := h.active
    have hfore := h.foreground
    rw [live] at hact hfore
    rw [Multiset.card_cons] at hact
    rw [Multiset.countP_cons] at hfore
    refine ⟨?_, fun s => ?_, ?_⟩
    · simp only [RangeActivity.drop, finishActivity]
      split <;> simp [hact]
    · have hs := h.session s
      rw [live, Multiset.countP_cons] at hs
      simp only [RangeActivity.drop, finishActivity]
      split <;>
        simp only [sessionActive_setForeground,
          sessionActive_removeActivity, hs, eq_comm (a := s)] <;>
        omega
    · simp only [RangeActivity.drop, finishActivity]
      split <;> simp_all
  | @beginPublication sessionId mode state guard ok =>
    obtain ⟨rfl, _, _, _, hfr, ho⟩ := beginSessionPublication_ok ok
    by_cases hmode : mode = .fresh
    · obtain ⟨_, _, rfl⟩ := hfr hmode
      exact h.addPublication ⟨sessionId, mode⟩ rfl rfl rfl
        (sessionActive_addActivity _ sessionId) rfl
    · obtain ⟨_, rfl⟩ := ho hmode
      exact h.addPublication ⟨sessionId, mode⟩ rfl rfl rfl
        (sessionActive_addActivity _ sessionId) rfl
  | @commitPublication guard rest live =>
    refine h.removePublication live rfl rfl ?_ (fun s => ?_) ?_
    · simp only [SessionPublicationGuard.commit]
      split <;> rfl
    · simp only [SessionPublicationGuard.commit, sessionActive_removeActivity]
      split <;> rfl
    · simp only [SessionPublicationGuard.commit]
      split <;> rfl
  | @dropPublication guard rest live =>
    exact h.removePublication live rfl rfl rfl (sessionActive_removeActivity _ guard.sessionId) rfl
  | tryBeginRemoval ok =>
    obtain ⟨_, _, _, rfl⟩ := tryBeginSessionRemoval_ok ok
    exact ⟨h.active, h.session, h.foreground⟩
  | markRemoval _ ok =>
    obtain ⟨_, rfl⟩ := markSessionRemoval_ok ok
    exact ⟨h.active, h.session, h.foreground⟩
  | requestRemoval | refuseRemoval | suspendRemoval | grantRemoval | abandonRemoval
  | commitRemoval | dropRemoval | drain =>
    exact ⟨h.active, h.session, h.foreground⟩
  | claim ok => exact h.frame (claimChunk_sameAdmission ok) rfl rfl
  | dropFlight => exact h.frame (drop_sameAdmission _ _) rfl rfl
  | reserve ok => exact h.frame (reserve_sameButLedger ok).sameAdmission rfl rfl
  | noteFileLength => exact h.frame (noteFileLength_sameButLedger _ _ _).sameAdmission rfl rfl
  | dropLease => exact h.frame (drop_sameButLedger _ _).sameAdmission rfl rfl

theorem Reaches.counted (run : Reaches quotaBytes labels r) : r.Counted :=
  Transition.Run.invariant Runtime.Counted run Runtime.Counted.step initial_counted

theorem Runtime.Counted.activity_pos (h : r.Counted) {activity : RangeActivity}
    (live : activity ∈ r.activities) : 0 < r.state.sessionActive activity.sessionId := by
  rw [h.session]
  have : 0 < r.activities.countP (fun a => a.sessionId = activity.sessionId) :=
    countP_pos.2 ⟨activity, live, rfl⟩
  omega

theorem Runtime.Counted.publication_pos (h : r.Counted)
    (live : guard ∈ r.publications) : 0 < r.state.sessionActive guard.sessionId := by
  rw [h.session]
  have : 0 < r.publications.countP (fun g => g.sessionId = guard.sessionId) :=
    countP_pos.2 ⟨guard, live, rfl⟩
  omega

theorem Runtime.Counted.two_publications (h : r.Counted)
    {other : SessionPublicationGuard} (live : r.publications = guard ::ₘ rest)
    (ho : other ∈ rest) (same : other.sessionId = guard.sessionId) :
    2 ≤ r.state.sessionActive guard.sessionId := by
  rw [h.session, live, Multiset.countP_cons]
  have : 0 < rest.countP (fun g => g.sessionId = guard.sessionId) :=
    countP_pos.2 ⟨other, ho, same⟩
  simp only [if_true]
  omega

def AbandonedWaiting (labels : List Action) (sessionId : String) : Prop :=
  Action.abandonRemoval ⟨sessionId, .waiting⟩ ∈ labels

variable {sessionId : String}

theorem abandonedWaiting_snoc :
    AbandonedWaiting (labels ++ [label]) sessionId ↔
      AbandonedWaiting labels sessionId ∨ .abandonRemoval ⟨sessionId, .waiting⟩ = label := by
  simp [AbandonedWaiting]

theorem abandonedWaiting_snoc_of_ne
    (habandon : ∀ s, label ≠ .abandonRemoval ⟨s, .waiting⟩) (sessionId : String) :
    AbandonedWaiting (labels ++ [label]) sessionId ↔ AbandonedWaiting labels sessionId := by
  rw [abandonedWaiting_snoc]
  exact or_iff_left (Ne.symm (habandon sessionId))

def Runtime.removalClaims (r : Runtime) (sessionId : String) : Nat :=
  r.removals.countP (fun g => g.sessionId = sessionId) +
    r.futures.countP (fun f => f.sessionId = sessionId ∧ f.phase ≠ .created)

/-- What the removal sets say after the steps `labels`. -/
structure Runtime.RemovalSound (labels : List Action) (r : Runtime) : Prop where
  marked : ∀ s, s ∈ r.state.removing ↔ 0 < r.removalClaims s ∨ AbandonedWaiting labels s
  single : ∀ s, r.removalClaims s ≤ 1
  abandonedAlone : ∀ s, AbandonedWaiting labels s → r.removalClaims s = 0
  removalIdle : ∀ g ∈ r.removals, r.state.sessionActive g.sessionId = 0
  retiredIdle : ∀ s ∈ r.state.retired, r.state.sessionActive s = 0
  waitingOpen : ∀ f ∈ r.futures, f.phase = .waiting → f.sessionId ∉ r.state.retired
  abandonedOpen : ∀ s, AbandonedWaiting labels s → s ∉ r.state.retired
  committed : ∀ g, Action.commitRemoval g ∈ labels → g.sessionId ∈ r.state.retired

theorem Runtime.removalClaims_pos {guard : HlsSessionRemovalGuard}
    (live : guard ∈ r.removals) : 0 < r.removalClaims guard.sessionId := by
  have : 0 < r.removals.countP (fun g => g.sessionId = guard.sessionId) :=
    countP_pos.2 ⟨guard, live, rfl⟩
  unfold removalClaims
  omega

theorem Runtime.RemovalSound.mem_removing
    (h : r.RemovalSound labels) {guard : HlsSessionRemovalGuard} (live : guard ∈ r.removals) :
    guard.sessionId ∈ r.state.removing :=
  (h.marked _).2 (.inl (removalClaims_pos live))

theorem Runtime.initial_removalSound : Runtime.initial.RemovalSound [] := by
  constructor <;>
    simp [Runtime.initial, RangeState.default, removalClaims, AbandonedWaiting]

variable {past : List Action}

section

variable (h : r.RemovalSound past)
include h

/-- A step that touches neither the removal sets nor the removals, and admits only
sessions without a mark, keeps the removal invariant. -/
theorem Runtime.RemovalSound.frame (hrems : r'.removals = r.removals)
    (hfutures : r'.futures = r.futures) (hremoving : r'.state.removing = r.state.removing)
    (hret : r'.state.retired = r.state.retired)
    (hact : ∀ s, s ∈ r.state.removing ∨ s ∈ r.state.retired →
      r'.state.sessionActive s ≤ r.state.sessionActive s)
    (hcommit : ∀ g, label ≠ .commitRemoval g)
    (habandon : ∀ s, label ≠ .abandonRemoval ⟨s, .waiting⟩) :
    r'.RemovalSound (past ++ [label]) := by
  have hclaims : ∀ s, r'.removalClaims s = r.removalClaims s := by
    intro s
    simp only [removalClaims, hrems, hfutures]
  have hpast : ∀ s, AbandonedWaiting (past ++ [label]) s ↔ AbandonedWaiting past s :=
    abandonedWaiting_snoc_of_ne habandon
  constructor
  · intro s
    rw [hremoving, hclaims, hpast]
    exact h.marked s
  · intro s
    rw [hclaims]
    exact h.single s
  · intro s hs
    rw [hclaims]
    exact h.abandonedAlone s ((hpast s).1 hs)
  · intro g hg
    rw [hrems] at hg
    have := hact _ (.inl (h.mem_removing hg))
    have := h.removalIdle g hg
    omega
  · intro s hs
    rw [hret] at hs
    have := hact s (.inr hs)
    have := h.retiredIdle s hs
    omega
  · intro f hf hp
    rw [hfutures] at hf
    rw [hret]
    exact h.waitingOpen f hf hp
  · intro s hs
    rw [hret]
    exact h.abandonedOpen s ((hpast s).1 hs)
  · intro g hg
    rw [hret]
    rw [mem_append, List.mem_singleton] at hg
    exact h.committed g (hg.resolve_right (Ne.symm (hcommit g)))

theorem Runtime.RemovalSound.mark
    (hfree : sessionId ∉ r.state.removing)
    (hst : r'.state = { r.state with removing := insert sessionId r.state.removing })
    (hclaims : ∀ s, r'.removalClaims s = r.removalClaims s + if s = sessionId then 1 else 0)
    (hrems : ∀ g ∈ r'.removals, g ∈ r.removals ∨ r.state.sessionActive g.sessionId = 0)
    (hfutures : ∀ f ∈ r'.futures, f.phase = .waiting → f ∈ r.futures)
    (hcommit : ∀ g, label ≠ .commitRemoval g)
    (habandon : ∀ s, label ≠ .abandonRemoval ⟨s, .waiting⟩) :
    r'.RemovalSound (past ++ [label]) := by
  have hpast : ∀ s, AbandonedWaiting (past ++ [label]) s ↔ AbandonedWaiting past s :=
    abandonedWaiting_snoc_of_ne habandon
  have hunclaimed : r.removalClaims sessionId = 0 ∧ ¬ AbandonedWaiting past sessionId := by
    have := mt (h.marked sessionId).2 hfree
    rw [not_or, Nat.not_lt, Nat.le_zero] at this
    exact this
  have hact : ∀ s, r'.state.sessionActive s = r.state.sessionActive s := by
    intro s
    rw [hst]
    rfl
  have hret : r'.state.retired = r.state.retired := by rw [hst]
  constructor
  · intro s
    rw [hst, hclaims, hpast]
    have := h.marked s
    by_cases hs : s = sessionId
    · simp [hs]
    · simp [hs, this]
  · intro s
    rw [hclaims]
    have := h.single s
    by_cases hs : s = sessionId
    · subst hs
      simp [hunclaimed.1]
    · simpa [hs] using this
  · intro s hs
    have hs := (hpast s).1 hs
    have hne : s ≠ sessionId := by
      rintro rfl
      exact hunclaimed.2 hs
    rw [hclaims, h.abandonedAlone s hs]
    simp [hne]
  · intro g hg
    rw [hact]
    rcases hrems g hg with hold | hidle
    · exact h.removalIdle g hold
    · exact hidle
  · intro s hs
    rw [hact]
    exact h.retiredIdle s (hret ▸ hs)
  · intro f hf hp
    rw [hret]
    exact h.waitingOpen f (hfutures f hf hp) hp
  · intro s hs
    rw [hret]
    exact h.abandonedOpen s ((hpast s).1 hs)
  · intro g hg
    rw [hret]
    rw [mem_append, List.mem_singleton] at hg
    exact h.committed g (hg.resolve_right (Ne.symm (hcommit g)))

theorem Runtime.RemovalSound.move (hst : r'.state = r.state)
    (hclaims : ∀ s, r'.removalClaims s = r.removalClaims s)
    (hrems : ∀ g ∈ r'.removals, g ∈ r.removals ∨ r.state.sessionActive g.sessionId = 0)
    (hfutures : ∀ f ∈ r'.futures, f.phase = .waiting →
      f ∈ r.futures ∨ r.state.sessionActive f.sessionId ≠ 0)
    (hcommit : ∀ g, label ≠ .commitRemoval g)
    (habandon : ∀ s, label ≠ .abandonRemoval ⟨s, .waiting⟩) :
    r'.RemovalSound (past ++ [label]) := by
  have hpast : ∀ s, AbandonedWaiting (past ++ [label]) s ↔ AbandonedWaiting past s :=
    abandonedWaiting_snoc_of_ne habandon
  constructor
  · intro s
    rw [hst, hclaims, hpast]
    exact h.marked s
  · intro s
    rw [hclaims]
    exact h.single s
  · intro s hs
    rw [hclaims]
    exact h.abandonedAlone s ((hpast s).1 hs)
  · intro g hg
    rw [hst]
    rcases hrems g hg with hold | hidle
    · exact h.removalIdle g hold
    · exact hidle
  · rw [hst]
    exact h.retiredIdle
  · intro f hf hp
    rw [hst]
    rcases hfutures f hf hp with hold | hbusy
    · exact h.waitingOpen f hold hp
    · exact fun hret => hbusy (h.retiredIdle _ hret)
  · intro s hs
    rw [hst]
    exact h.abandonedOpen s ((hpast s).1 hs)
  · intro g hg
    rw [hst]
    rw [mem_append, List.mem_singleton] at hg
    exact h.committed g (hg.resolve_right (Ne.symm (hcommit g)))

theorem Runtime.RemovalSound.abandon {rest : Multiset RemovalFuture}
    (live : r.futures = ⟨sessionId, .waiting⟩ ::ₘ rest) :
    Runtime.RemovalSound (past ++ [.abandonRemoval ⟨sessionId, .waiting⟩])
      { r with futures := rest } := by
  have hclaims : ∀ s, r.removalClaims s =
      removalClaims { r with futures := rest } s + if s = sessionId then 1 else 0 := by
    intro s
    simp [removalClaims, live, Multiset.countP_cons, eq_comm (a := s)]
    omega
  have hl : removalClaims { r with futures := rest } sessionId = 0 := by
    have := hclaims sessionId
    have := h.single sessionId
    simp_all
  have hpast : ∀ s, AbandonedWaiting (past ++ [.abandonRemoval ⟨sessionId, .waiting⟩]) s ↔
      AbandonedWaiting past s ∨ s = sessionId := by
    intro s
    simp [abandonedWaiting_snoc]
  have hopen : sessionId ∉ r.state.retired :=
    h.waitingOpen ⟨sessionId, .waiting⟩ (by simp [live]) rfl
  constructor
  · intro s
    rw [hpast]
    have := h.marked s
    have := hclaims s
    by_cases hs : s = sessionId
    · subst hs
      simp_all
    · simp_all
  · intro s
    have := hclaims s
    have := h.single s
    omega
  · intro s hs
    rcases (hpast s).1 hs with hs | rfl
    · have := hclaims s
      have := h.abandonedAlone s hs
      omega
    · exact hl
  · exact h.removalIdle
  · exact h.retiredIdle
  · intro f hf
    exact h.waitingOpen f (by simp [live, hf])
  · intro s hs
    rcases (hpast s).1 hs with hs | rfl
    · exact h.abandonedOpen s hs
    · exact hopen
  · intro g hg
    exact h.committed g (by simpa using hg)

theorem Runtime.RemovalSound.finish
    {guard : HlsSessionRemovalGuard} {rest : Multiset HlsSessionRemovalGuard}
    (live : r.removals = guard ::ₘ rest)
    (hrems : r'.removals = rest) (hfutures : r'.futures = r.futures)
    (hremoving : r'.state.removing = r.state.removing.erase guard.sessionId)
    (hact : ∀ s, r'.state.sessionActive s = r.state.sessionActive s)
    (hret : ∀ s, s ∈ r'.state.retired → s ∈ r.state.retired ∨ s = guard.sessionId)
    (hk : r.state.retired ⊆ r'.state.retired)
    (hcommit : ∀ g, label = .commitRemoval g → g.sessionId ∈ r'.state.retired)
    (habandon : ∀ s, label ≠ .abandonRemoval ⟨s, .waiting⟩) :
    r'.RemovalSound (past ++ [label]) := by
  have hpast : ∀ s, AbandonedWaiting (past ++ [label]) s ↔ AbandonedWaiting past s :=
    abandonedWaiting_snoc_of_ne habandon
  have hclaims : ∀ s, r.removalClaims s =
      r'.removalClaims s + if s = guard.sessionId then 1 else 0 := by
    intro s
    simp only [removalClaims, live, hrems, hfutures, Multiset.countP_cons, eq_comm (a := s)]
    omega
  have hpos : 0 < r.removalClaims guard.sessionId :=
    removalClaims_pos (by simp [live])
  have hnot : ¬ AbandonedWaiting past guard.sessionId := by
    intro habandoned
    have := h.abandonedAlone _ habandoned
    omega
  have hl : r'.removalClaims guard.sessionId = 0 := by
    have := hclaims guard.sessionId
    have := h.single guard.sessionId
    simp_all
  have hopen : ∀ f ∈ r.futures, f.phase = .waiting → f.sessionId ≠ guard.sessionId := by
    intro f hf hp hsame
    have : 0 < r'.futures.countP
        (fun f => f.sessionId = guard.sessionId ∧ f.phase ≠ .created) :=
      countP_pos.2 ⟨f, hfutures ▸ hf, hsame, by simp [hp]⟩
    unfold removalClaims at hl
    omega
  constructor
  · intro s
    rw [hremoving, hpast, mem_erase, h.marked]
    have := hclaims s
    by_cases hs : s = guard.sessionId
    · subst hs
      simp [hl, hnot]
    · simp_all
  · intro s
    have := hclaims s
    have := h.single s
    omega
  · intro s hs
    have := hclaims s
    have := h.abandonedAlone s ((hpast s).1 hs)
    omega
  · intro g hg
    rw [hact]
    exact h.removalIdle g (by rw [hrems] at hg; simp [live, hg])
  · intro s hs
    rw [hact]
    rcases hret s hs with hs | rfl
    · exact h.retiredIdle s hs
    · exact h.removalIdle guard (by simp [live])
  · intro f hf hp hm
    rw [hfutures] at hf
    rcases hret _ hm with hold | hsame
    · exact h.waitingOpen f hf hp hold
    · exact hopen f hf hp hsame
  · intro s hs hm
    have hs := (hpast s).1 hs
    rcases hret s hm with hold | rfl
    · exact h.abandonedOpen s hs hold
    · exact hnot hs
  · intro g hg
    rw [mem_append, List.mem_singleton] at hg
    rcases hg with hg | hg
    · exact hk (h.committed g hg)
    · exact hcommit g hg.symm

theorem Runtime.RemovalSound.sameAdmission (hs : r.state.SameAdmission r'.state)
    (hrems : r'.removals = r.removals) (hfutures : r'.futures = r.futures)
    (hcommit : ∀ g, label ≠ .commitRemoval g)
    (habandon : ∀ s, label ≠ .abandonRemoval ⟨s, .waiting⟩) :
    r'.RemovalSound (past ++ [label]) := by
  obtain ⟨flights, reservations, next, hs⟩ := hs
  refine h.frame hrems hfutures ?_ ?_ (fun s _ => ?_) hcommit habandon
  · rw [hs]
  · rw [hs]
  · rw [hs]
    exact le_rfl

end

theorem Runtime.RemovalSound.step (hst : Step quotaBytes r label r') (h : r.RemovalSound past) :
    r'.RemovalSound (past ++ [label]) := by
  cases hst with
  | @enter sessionId priority state activity ok =>
    obtain ⟨hopen, rfl, rfl⟩ := enter_ok ok
    obtain ⟨_, hremoving, hret, _⟩ := closed_eq_false_iff.1 hopen
    refine h.frame rfl rfl rfl rfl (fun s hs => ?_) (by simp) (by simp)
    have hne : s ≠ sessionId := by
      rintro rfl
      exact hs.elim hremoving hret
    simp [hne]
  | dropActivity | dropPublication =>
    refine h.frame rfl rfl ?_ ?_ (fun s _ => ?_) (by simp) (by simp)
    all_goals
      simp only [RangeActivity.drop, SessionPublicationGuard.drop, finishActivity]
      split <;> simp
  | @beginPublication sessionId mode state guard ok =>
    obtain ⟨rfl, _, hremoving, hret, hfr, ho⟩ := beginSessionPublication_ok ok
    have hne : ∀ s, s ∈ r.state.removing ∨ s ∈ r.state.retired → s ≠ sessionId := by
      rintro s hs rfl
      exact hs.elim hremoving hret
    by_cases hmode : mode = .fresh
    · obtain ⟨_, _, rfl⟩ := hfr hmode
      refine h.frame rfl rfl rfl rfl (fun s hs => ?_) (by simp) (by simp)
      simp only [sessionActive_addActivity, if_neg (hne s hs)]
      exact le_rfl
    · obtain ⟨_, rfl⟩ := ho hmode
      refine h.frame rfl rfl rfl rfl (fun s hs => ?_) (by simp) (by simp)
      simp [hne s hs]
  | commitPublication =>
    refine h.frame rfl rfl ?_ ?_ (fun s _ => ?_) (by simp) (by simp)
    · simp only [SessionPublicationGuard.commit]
      split <;> rfl
    · simp only [SessionPublicationGuard.commit]
      split <;> rfl
    · simp only [SessionPublicationGuard.commit, sessionActive_removeActivity]
      split <;> exact Nat.sub_le _ _
  | tryBeginRemoval ok =>
    obtain ⟨rfl, hfree, hidle, rfl⟩ := tryBeginSessionRemoval_ok ok
    refine h.mark hfree rfl (fun s => ?_) (fun g hg => ?_) (fun f hf _ => hf) (by simp) (by simp)
    · simp only [removalClaims, Multiset.countP_cons, eq_comm (a := s)]
      omega
    · rcases Multiset.mem_cons.1 hg with rfl | hg
      · exact .inr hidle
      · exact .inl hg
  | requestRemoval =>
    refine h.move rfl (fun s => ?_) (fun g hg => .inl hg) (fun f hf hp => ?_) (by simp)
      (by simp)
    · simp [removalClaims]
    · rcases Multiset.mem_cons.1 hf with rfl | hf
      · cases hp
      · exact .inl hf
  | refuseRemoval live =>
    refine h.move rfl (fun s => ?_) (fun g hg => .inl hg) (fun f hf _ => ?_) (by simp) (by simp)
    · simp [removalClaims, live]
    · exact .inl (by simp [live, hf])
  | markRemoval live ok =>
    obtain ⟨hfree, rfl⟩ := markSessionRemoval_ok ok
    refine h.mark hfree rfl (fun s => ?_) (fun g hg => .inl hg) (fun f hf hp => ?_)
      (by simp) (by simp)
    · simp [removalClaims, live, Multiset.countP_cons, eq_comm (a := s)]
      omega
    · rcases Multiset.mem_cons.1 hf with rfl | hf
      · cases hp
      · simp [live, hf]
  | suspendRemoval polled live busy =>
    refine h.move rfl (fun s => ?_) (fun g hg => .inl hg) (fun f hf _ => ?_) (by simp) (by simp)
    · simp [removalClaims, live, Multiset.countP_cons, polled]
    · rcases Multiset.mem_cons.1 hf with rfl | hf
      · exact .inr (pollSessionRemoval_none busy)
      · exact .inl (by simp [live, hf])
  | grantRemoval polled live idle =>
    obtain ⟨rfl, hidle⟩ := pollSessionRemoval_some idle
    refine h.move rfl (fun s => ?_) (fun g hg => ?_) (fun f hf _ => ?_) (by simp) (by simp)
    · simp [removalClaims, live, Multiset.countP_cons, polled]
      omega
    · rcases Multiset.mem_cons.1 hg with rfl | hg
      · exact .inr hidle
      · exact .inl hg
    · exact .inl (by simp [live, hf])
  | @abandonRemoval future rest suspended live =>
    obtain ⟨sessionId, phase⟩ := future
    cases phase with
    | polling => exact (suspended rfl).elim
    | waiting => exact h.abandon live
    | created =>
      refine h.move rfl (fun s => ?_) (fun g hg => .inl hg) (fun f hf _ => ?_) (by simp) (by simp)
      · simp [removalClaims, live]
      · exact .inl (by simp [live, hf])
  | commitRemoval live =>
    refine h.finish live rfl rfl rfl (fun _ => rfl) (fun s hs => ?_) ?_ (fun g hg => ?_) (by simp)
    · simpa [HlsSessionRemovalGuard.commit, or_comm] using hs
    · exact Finset.subset_insert _ _
    · cases hg
      simp [HlsSessionRemovalGuard.commit]
  | dropRemoval live =>
    exact h.finish live rfl rfl rfl (fun _ => rfl) (fun s hs => .inl hs)
      (fun _ hs => hs) (by simp) (by simp)
  | drain => exact h.frame rfl rfl rfl rfl (fun _ _ => le_rfl) (by simp) (by simp)
  | claim ok => exact h.sameAdmission (claimChunk_sameAdmission ok) rfl rfl (by simp) (by simp)
  | dropFlight =>
    exact h.sameAdmission (drop_sameAdmission _ _) rfl rfl (by simp) (by simp)
  | reserve ok => exact h.sameAdmission (reserve_sameButLedger ok).sameAdmission rfl rfl (by simp) (by simp)
  | noteFileLength =>
    exact h.sameAdmission (noteFileLength_sameButLedger _ _ _).sameAdmission rfl rfl (by simp) (by simp)
  | dropLease =>
    exact h.sameAdmission (drop_sameButLedger _ _).sameAdmission rfl rfl (by simp) (by simp)

theorem Reaches.removalSound (run : Reaches quotaBytes labels r) : r.RemovalSound labels :=
  Transition.Run.invariant_history Runtime.RemovalSound run Runtime.RemovalSound.step initial_removalSound

/-- What the publication sets say about the live handles. -/
structure Runtime.PublicationSound (r : Runtime) : Prop where
  fresh : ∀ g ∈ r.publications, g.mode = .fresh → g.sessionId ∈ r.state.unpublished
  onlyFresh : ∀ g ∈ r.publications, g.sessionId ∈ r.state.unpublished → g.mode = .fresh
  single : ∀ s ∈ r.state.unpublished, r.state.sessionActive s ≤ 1
  noActivity : ∀ a ∈ r.activities, a.sessionId ∉ r.state.unpublished
  disjoint : ∀ s ∈ r.state.unpublished, s ∉ r.state.published

theorem Runtime.initial_publicationSound : Runtime.initial.PublicationSound := by
  constructor <;> simp [Runtime.initial, RangeState.default]

section

variable (h : r.PublicationSound)
include h

theorem Runtime.PublicationSound.frame
    (hacts : ∀ a ∈ r'.activities, a ∈ r.activities ∨ a.sessionId ∉ r.state.unpublished)
    (hpubls : ∀ g ∈ r'.publications,
      g ∈ r.publications ∨ g.mode ≠ .fresh ∧ g.sessionId ∉ r.state.unpublished)
    (hu : r'.state.unpublished = r.state.unpublished)
    (hpubl : r'.state.published = r.state.published)
    (hact : ∀ s ∈ r.state.unpublished,
      r'.state.sessionActive s ≤ r.state.sessionActive s) : r'.PublicationSound := by
  constructor
  · intro g hg hmode
    rw [hu]
    rcases hpubls g hg with hold | ⟨ho, _⟩
    · exact h.fresh g hold hmode
    · exact (ho hmode).elim
  · intro g hg hm
    rw [hu] at hm
    rcases hpubls g hg with hold | ⟨_, hpubl⟩
    · exact h.onlyFresh g hold hm
    · exact (hpubl hm).elim
  · intro s hs
    rw [hu] at hs
    exact (hact s hs).trans (h.single s hs)
  · intro a ha
    rw [hu]
    rcases hacts a ha with hold | hpubl
    · exact h.noActivity a hold
    · exact hpubl
  · intro s hs
    rw [hu] at hs
    rw [hpubl]
    exact h.disjoint s hs

theorem Runtime.PublicationSound.beginFresh
    (counted : r.Counted) (hunused : sessionId ∉ r.state.published)
    (hidle : r.state.sessionActive sessionId = 0) :
    Runtime.PublicationSound
      { r with
        state := addActivity
          { r.state with unpublished := insert sessionId r.state.unpublished } sessionId
        publications := ⟨sessionId, .fresh⟩ ::ₘ r.publications } := by
  constructor
  · intro g hg hmode
    rcases Multiset.mem_cons.1 hg with rfl | hg
    · simp
    · simp [h.fresh g hg hmode]
  · intro g hg hm
    rcases Multiset.mem_cons.1 hg with rfl | hg
    · rfl
    have hpos := counted.publication_pos hg
    have hne : g.sessionId ≠ sessionId := by
      intro same
      rw [same, hidle] at hpos
      exact lt_irrefl _ hpos
    exact h.onlyFresh g hg (by simpa [hne] using hm)
  · intro s hs
    by_cases same : s = sessionId
    · subst same
      rw [sessionActive_addActivity, if_pos rfl]
      exact le_of_eq (congrArg (· + 1) hidle)
    · rw [sessionActive_addActivity, if_neg same]
      exact h.single s (by simpa [same] using hs)
  · intro a ha hm
    have hpos := counted.activity_pos ha
    have hne : a.sessionId ≠ sessionId := by
      intro same
      rw [same, hidle] at hpos
      exact lt_irrefl _ hpos
    exact h.noActivity a ha (by simpa [hne] using hm)
  · intro s hs
    by_cases same : s = sessionId
    · subst same
      exact hunused
    · exact h.disjoint s (by simpa [same] using hs)

theorem Runtime.PublicationSound.commitFresh
    (counted : r.Counted) (live : r.publications = ⟨sessionId, .fresh⟩ ::ₘ rest) :
    Runtime.PublicationSound
      { r with
        state := SessionPublicationGuard.commit r.state ⟨sessionId, .fresh⟩
        publications := rest } := by
  have hm : ∀ g ∈ rest, g ∈ r.publications := fun g hg => by simp [live, hg]
  have hu : sessionId ∈ r.state.unpublished :=
    h.fresh ⟨sessionId, .fresh⟩ (by simp [live]) rfl
  constructor
  · intro g hg hmode
    have hne : g.sessionId ≠ sessionId := by
      intro same
      have htwo := counted.two_publications live hg same
      have hone := h.single sessionId hu
      exact absurd (htwo.trans hone) (by decide)
    simpa [SessionPublicationGuard.commit, hne] using h.fresh g (hm g hg) hmode
  · intro g hg hopen
    refine h.onlyFresh g (hm g hg) ?_
    simp only [SessionPublicationGuard.commit, if_true, RangeState.removeActivity_unpublished,
      mem_erase] at hopen
    exact hopen.2
  · intro s hs
    simp only [SessionPublicationGuard.commit, if_true, RangeState.removeActivity_unpublished,
      mem_erase] at hs
    simp only [SessionPublicationGuard.commit, if_true, sessionActive_removeActivity]
    exact (Nat.sub_le _ _).trans (h.single s hs.2)
  · intro a ha hopen
    simp only [SessionPublicationGuard.commit, if_true, RangeState.removeActivity_unpublished,
      mem_erase] at hopen
    exact h.noActivity a ha hopen.2
  · intro s hs
    simp only [SessionPublicationGuard.commit, if_true, RangeState.removeActivity_unpublished,
      mem_erase] at hs
    simp only [SessionPublicationGuard.commit, if_true, RangeState.removeActivity_published,
      mem_insert, not_or]
    exact ⟨hs.1, h.disjoint s hs.2⟩

theorem Runtime.PublicationSound.commitOther
    (live : r.publications = guard ::ₘ rest) (hmode : guard.mode ≠ .fresh) :
    Runtime.PublicationSound
      { r with state := guard.commit r.state, publications := rest } := by
  have hm : ∀ g ∈ rest, g ∈ r.publications := fun g hg => by simp [live, hg]
  have hopen : guard.sessionId ∉ r.state.unpublished :=
    fun hfenced => hmode (h.onlyFresh guard (by simp [live]) hfenced)
  have hcommit : guard.commit r.state = removeActivity
      { r.state with published := insert guard.sessionId r.state.published }
      guard.sessionId := by
    simp [SessionPublicationGuard.commit, hmode]
  rw [hcommit]
  constructor
  · exact fun g hg => h.fresh g (hm g hg)
  · exact fun g hg => h.onlyFresh g (hm g hg)
  · intro s hs
    rw [sessionActive_removeActivity]
    exact (Nat.sub_le _ _).trans (h.single s hs)
  · exact h.noActivity
  · intro s hs
    have hs : s ∈ r.state.unpublished := hs
    have hne : s ≠ guard.sessionId := by
      rintro rfl
      exact hopen hs
    simp [hne, h.disjoint s hs]

theorem Runtime.PublicationSound.retire {guard : HlsSessionRemovalGuard}
    {rest : Multiset HlsSessionRemovalGuard} (counted : r.Counted)
    (hidle : r.state.sessionActive guard.sessionId = 0) :
    Runtime.PublicationSound { r with state := guard.commit r.state, removals := rest } := by
  constructor
  · intro g hg hmode
    have hne : g.sessionId ≠ guard.sessionId := by
      intro same
      have hpos := counted.publication_pos hg
      rw [same, hidle] at hpos
      exact lt_irrefl _ hpos
    simpa [HlsSessionRemovalGuard.commit, hne] using h.fresh g hg hmode
  · exact fun g hg hm => h.onlyFresh g hg (Finset.mem_of_mem_erase hm)
  · exact fun s hs => h.single s (Finset.mem_of_mem_erase hs)
  · exact fun a ha hm => h.noActivity a ha (Finset.mem_of_mem_erase hm)
  · exact fun s hs hm =>
      h.disjoint s (Finset.mem_of_mem_erase hs) (Finset.mem_of_mem_erase hm)

theorem Runtime.PublicationSound.sameAdmission
    (hs : r.state.SameAdmission r'.state) (hacts : r'.activities = r.activities)
    (hpubls : r'.publications = r.publications) : r'.PublicationSound := by
  obtain ⟨flights, reservations, next, hs⟩ := hs
  refine h.frame (fun a ha => .inl (hacts ▸ ha))
    (fun g hg => .inl (hpubls ▸ hg)) ?_ ?_ (fun s _ => ?_)
  · rw [hs]
  · rw [hs]
  · rw [hs]
    exact le_rfl

end

theorem Runtime.PublicationSound.step (hst : Step quotaBytes r label r') (counted : r.Counted)
    (removal : r.RemovalSound past) (h : r.PublicationSound) : r'.PublicationSound := by
  cases hst with
  | @enter sessionId priority state activity ok =>
    obtain ⟨hopen, rfl, rfl⟩ := enter_ok ok
    obtain ⟨_, _, _, hpubl⟩ := closed_eq_false_iff.1 hopen
    refine h.frame (fun a ha => ?_) (fun g hg => .inl hg) rfl rfl (fun s hs => ?_)
    · rcases Multiset.mem_cons.1 ha with rfl | ha
      · exact .inr hpubl
      · exact .inl ha
    · have hne : s ≠ sessionId := by
        rintro rfl
        exact hpubl hs
      simp [hne]
  | dropActivity live =>
    refine h.frame (fun a ha => .inl (by simp [live, ha])) (fun g hg => .inl hg) ?_ ?_
      (fun s _ => ?_)
    all_goals
      simp only [RangeActivity.drop, finishActivity]
      split <;> simp
  | @beginPublication sessionId mode state guard ok =>
    obtain ⟨rfl, _, _, _, hfr, ho⟩ := beginSessionPublication_ok ok
    by_cases hmode : mode = .fresh
    · obtain ⟨hunused, hidle, rfl⟩ := hfr hmode
      subst hmode
      exact h.beginFresh counted hunused hidle
    · obtain ⟨hopen, rfl⟩ := ho hmode
      refine h.frame (fun a ha => .inl ha) (fun g hg => ?_) rfl rfl (fun s hs => ?_)
      · rcases Multiset.mem_cons.1 hg with rfl | hg
        · exact .inr ⟨hmode, hopen⟩
        · exact .inl hg
      · have hne : s ≠ sessionId := by
          rintro rfl
          exact hopen hs
        simp [hne]
  | @commitPublication guard rest live =>
    by_cases hmode : guard.mode = .fresh
    · obtain ⟨sessionId, mode⟩ := guard
      cases hmode
      exact h.commitFresh counted live
    · exact h.commitOther live hmode
  | dropPublication live =>
    refine h.frame (fun a ha => .inl ha) (fun g hg => .inl (by simp [live, hg])) rfl rfl
      (fun s _ => ?_)
    simp [SessionPublicationGuard.drop, finishActivity]
  | tryBeginRemoval ok =>
    obtain ⟨_, _, _, rfl⟩ := tryBeginSessionRemoval_ok ok
    exact { h with }
  | markRemoval _ ok =>
    obtain ⟨_, rfl⟩ := markSessionRemoval_ok ok
    exact { h with }
  | commitRemoval live =>
    exact h.retire counted (removal.removalIdle _ (by simp [live]))
  | requestRemoval | refuseRemoval | suspendRemoval | grantRemoval | abandonRemoval
  | dropRemoval | drain =>
    exact { h with }
  | claim ok => exact h.sameAdmission (claimChunk_sameAdmission ok) rfl rfl
  | dropFlight => exact h.sameAdmission (drop_sameAdmission _ _) rfl rfl
  | reserve ok => exact h.sameAdmission (reserve_sameButLedger ok).sameAdmission rfl rfl
  | noteFileLength => exact h.sameAdmission (noteFileLength_sameButLedger _ _ _).sameAdmission rfl rfl
  | dropLease => exact h.sameAdmission (drop_sameButLedger _ _).sameAdmission rfl rfl

theorem Reaches.publicationSound (run : Reaches quotaBytes labels r) : r.PublicationSound := by
  induction run with
  | nil => exact initial_publicationSound
  | snoc run hst ih =>
    exact ih.step hst (Reaches.counted run) (Reaches.removalSound run)

def FreshPending (labels : List Action) (sessionId : String) : Prop :=
  ∃ front back, labels = front ++ .beginPublication sessionId .fresh :: back ∧
    Action.commitPublication ⟨sessionId, .fresh⟩ ∉ back

theorem freshPending_snoc (pending : FreshPending (labels ++ [label]) sessionId) :
    label = .beginPublication sessionId .fresh ∨
      FreshPending labels sessionId ∧ label ≠ .commitPublication ⟨sessionId, .fresh⟩ := by
  obtain ⟨front, back, hlabels, hback⟩ := pending
  rcases eq_nil_or_concat' back with rfl | ⟨init, last, rfl⟩
  · obtain ⟨_, hl⟩ := append_inj' hlabels rfl
    exact .inl (List.singleton_inj.1 hl)
  rw [← cons_append, ← append_assoc] at hlabels
  obtain ⟨hinit, hl⟩ := append_inj' hlabels rfl
  rw [mem_append, List.mem_singleton, not_or] at hback
  obtain rfl := List.singleton_inj.1 hl
  exact .inr ⟨⟨front, init, hinit, hback.1⟩, Ne.symm hback.2⟩

theorem Runtime.fence_step (hst : Step quotaBytes r label r')
    (hcommit : label ≠ .commitPublication ⟨sessionId, .fresh⟩)
    (h : sessionId ∈ r.state.unpublished ∨ sessionId ∈ r.state.retired) :
    sessionId ∈ r'.state.unpublished ∨ sessionId ∈ r'.state.retired := by
  have frame : r.state.SameAdmission r'.state →
      sessionId ∈ r'.state.unpublished ∨ sessionId ∈ r'.state.retired := by
    rintro ⟨_, _, _, hs⟩
    rw [hs]
    exact h
  cases hst with
  | enter ok =>
    obtain ⟨_, rfl, rfl⟩ := enter_ok ok
    exact h
  | dropActivity =>
    simp only [RangeActivity.drop, finishActivity]
    split <;> exact h
  | @beginPublication other mode state guard ok =>
    obtain ⟨rfl, _, _, _, hfr, ho⟩ := beginSessionPublication_ok ok
    by_cases hmode : mode = .fresh
    · obtain ⟨_, _, rfl⟩ := hfr hmode
      exact h.imp_left Finset.mem_insert_of_mem
    · obtain ⟨_, rfl⟩ := ho hmode
      exact h
  | @commitPublication guard rest live =>
    obtain ⟨other, mode⟩ := guard
    by_cases hmode : mode = .fresh
    · subst hmode
      have hne : sessionId ≠ other := by
        rintro rfl
        exact hcommit rfl
      simpa [SessionPublicationGuard.commit, hne] using h
    · simpa [SessionPublicationGuard.commit, hmode] using h
  | dropPublication | requestRemoval | refuseRemoval | suspendRemoval | grantRemoval
  | abandonRemoval | dropRemoval | drain => exact h
  | tryBeginRemoval ok =>
    obtain ⟨_, _, _, rfl⟩ := tryBeginSessionRemoval_ok ok
    exact h
  | markRemoval _ ok =>
    obtain ⟨_, rfl⟩ := markSessionRemoval_ok ok
    exact h
  | @commitRemoval guard rest live =>
    by_cases same : sessionId = guard.sessionId
    · exact .inr (by simp [HlsSessionRemovalGuard.commit, same])
    · simpa [HlsSessionRemovalGuard.commit, same] using h
  | claim ok => exact frame (claimChunk_sameAdmission ok)
  | dropFlight => exact frame (drop_sameAdmission _ _)
  | reserve ok => exact frame (reserve_sameButLedger ok).sameAdmission
  | noteFileLength => exact frame (noteFileLength_sameButLedger _ _ _).sameAdmission
  | dropLease => exact frame (drop_sameButLedger _ _).sameAdmission

theorem Reaches.fence (run : Reaches quotaBytes labels r)
    (pending : FreshPending labels sessionId) :
    sessionId ∈ r.state.unpublished ∨ sessionId ∈ r.state.retired := by
  let inv : List Action → Runtime → Prop := fun past r => FreshPending past sessionId →
    sessionId ∈ r.state.unpublished ∨ sessionId ∈ r.state.retired
  refine Transition.Run.invariant_history inv run (fun hst ih pending => ?_) (fun pending => ?_)
    pending
  · rcases freshPending_snoc pending with rfl | ⟨pending, hcommit⟩
    · cases hst with
      | beginPublication ok =>
        obtain ⟨rfl, _, _, _, hfr, _⟩ := beginSessionPublication_ok ok
        obtain ⟨_, _, rfl⟩ := hfr rfl
        exact .inl (Finset.mem_insert_self _ _)
    · exact fence_step hst hcommit (ih pending)
  · obtain ⟨front, back, hlabels, _⟩ := pending
    cases front <;> simp at hlabels

def Runtime.Idle (r : Runtime) (sessionId : String) : Prop :=
  (∀ a ∈ r.activities, a.sessionId ≠ sessionId) ∧
    ∀ g ∈ r.publications, g.sessionId ≠ sessionId

theorem Runtime.Counted.idle (h : r.Counted)
    (hidle : r.state.sessionActive sessionId = 0) : r.Idle sessionId := by
  constructor
  · rintro a ha rfl
    exact absurd hidle (h.activity_pos ha).ne'
  · rintro g hg rfl
    exact absurd hidle (h.publication_pos hg).ne'

/-- What the coordinator promises after the steps `labels`. -/
structure Runtime.Exclusive (labels : List Action) (r : Runtime) : Prop where
  counted : r.Counted
  /-- Dropping a live guard decrements counters that are positive. -/
  activityCounted : ∀ a ∈ r.activities,
    0 < r.state.active ∧ 0 < r.state.sessionActive a.sessionId ∧
      (a.priority = .foreground → 0 < r.state.activeForeground)
  publicationCounted : ∀ g ∈ r.publications,
    0 < r.state.active ∧ 0 < r.state.sessionActive g.sessionId
  removal : ∀ g ∈ r.removals, r.Idle g.sessionId ∧ r.state.RefusesAll g.sessionId
  retired : ∀ g, Action.commitRemoval g ∈ labels →
    r.Idle g.sessionId ∧ r.state.RefusesAll g.sessionId
  fresh : ∀ s, FreshPending labels s →
    (∀ a ∈ r.activities, a.sessionId ≠ s) ∧
      ∀ priority, enter r.state s priority = .error .sessionRemoving

theorem activity_removal_exclusion (run : Reaches quotaBytes labels r) : r.Exclusive labels := by
  have counted := Reaches.counted run
  have removal := Reaches.removalSound run
  have publication := Reaches.publicationSound run
  constructor
  · exact counted
  · intro a ha
    have hcard := card_pos_iff_exists_mem.2 ⟨a, ha⟩
    refine ⟨?_, counted.activity_pos ha, fun hforeground => ?_⟩
    · rw [counted.active]
      exact Nat.add_pos_left hcard _
    · rw [counted.foreground]
      exact countP_pos.2 ⟨a, ha, hforeground⟩
  · intro g hg
    refine ⟨?_, counted.publication_pos hg⟩
    rw [counted.active]
    exact Nat.add_pos_right _ (card_pos_iff_exists_mem.2 ⟨g, hg⟩)
  · intro g hg
    exact ⟨counted.idle (removal.removalIdle g hg),
      refusesAll_of_mem (.inl (removal.mem_removing hg))⟩
  · intro g hg
    have hretired := removal.committed g hg
    exact ⟨counted.idle (removal.retiredIdle _ hretired), refusesAll_of_mem (.inr hretired)⟩
  · intro s pending
    rcases Reaches.fence run pending with hfenced | hretired
    · refine ⟨?_, fun priority => enter_closed priority (by simp [RangeState.closed, hfenced])⟩
      rintro a ha rfl
      exact publication.noActivity a ha hfenced
    · exact ⟨(counted.idle (removal.retiredIdle s hretired)).1,
        fun priority => enter_closed priority (by simp [RangeState.closed, hretired])⟩

/-- A session published, removed and retired, with another one still being published. -/
theorem activity_removal_exclusion_retired :
    ∃ r ∈ Runtime.initial.performAll 0
        [.beginPublication "s" .fresh, .commitPublication ⟨"s", .fresh⟩, .tryBeginRemoval "s",
          .commitRemoval ⟨"s"⟩, .beginPublication "t" .fresh],
      r.publications = {⟨"t", .fresh⟩} ∧
      r.Exclusive
        [.beginPublication "s" .fresh, .commitPublication ⟨"s", .fresh⟩, .tryBeginRemoval "s",
          .commitRemoval ⟨"s"⟩, .beginPublication "t" .fresh] :=
  ⟨_, rfl, rfl, activity_removal_exclusion (@Runtime.performAll_run 0 _ _ _ rfl)⟩

end NetPlayer.RangeCache
