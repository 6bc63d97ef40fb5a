import NetPlayer.RangeCache.CoordinatorRuns

/-!
# The foreground interest of a flight

A flight counts the foreground handles attached to it. Finishing a flight looks
at its completion channel, but releasing interest looks at the key alone, so a
waiter that outlives its flight releases the interest of whichever flight holds
the key by then. The count is exact as long as no waiter does that.
-/

namespace NetPlayer.RangeCache

open Finmap Multiset NetPlayer.RangeCache.Runtime

variable {quotaBytes : Nat} {r r' : Runtime} {label : Action} {labels : List Action}

def LiveFlight.AttachedTo (live : LiveFlight) (key : RangeChunkKey) (completion : ChannelId) :
    Prop :=
  live.priority = .foreground ∧ live.handle.key = key ∧ live.handle.completion = completion

instance (live : LiveFlight) (key : RangeChunkKey) (completion : ChannelId) :
    Decidable (live.AttachedTo key completion) :=
  inferInstanceAs (Decidable (_ ∧ _))

def Runtime.foregroundHandles (r : Runtime) (key : RangeChunkKey) (completion : ChannelId) :
    Nat :=
  r.flights.countP fun live => live.AttachedTo key completion

def Runtime.InterestExact (r : Runtime) : Prop :=
  ∀ key flight, r.state.flights.lookup key = some flight →
    flight.foregroundInterest = r.foregroundHandles key flight.completion

def LiveFlight.DropsOwnInterest (live : LiveFlight) (st : RangeState) : Prop :=
  live.handle.owner = false → live.handle.foregroundInterest = true →
    ∀ flight ∈ st.flights.lookup live.handle.key,
      flight.completion = live.handle.completion ∨ flight.foregroundInterest = 0

instance (live : LiveFlight) (st : RangeState) : Decidable (live.DropsOwnInterest st) :=
  inferInstanceAs (Decidable (_ → _ → ∀ _ ∈ _, _))

def DropsOwnInterest (r : Runtime) : Action → Prop
  | .dropFlight live => live.DropsOwnInterest r.state
  | _ => True

variable {key : RangeChunkKey}

theorem RangeFlight.lookup_drop_of_ne (st : RangeState) (flight : RangeFlight)
    (hne : key ≠ flight.key) : (flight.drop st).flights.lookup key = st.flights.lookup key := by
  unfold RangeFlight.drop finishFlight releaseForegroundInterest
  repeat' split
  all_goals simp [lookup_insert_of_ne _ hne, lookup_erase_ne hne]

variable {flight : RangeFlight}

theorem RangeFlight.lookup_drop_owner {current : FlightState} (st : RangeState)
    (ho : flight.owner = true) :
    (flight.drop st).flights.lookup flight.key = some current ↔
      st.flights.lookup flight.key = some current ∧ current.completion ≠ flight.completion := by
  simp only [RangeFlight.drop, finishFlight, ho, if_true]
  cases hl : st.flights.lookup flight.key with
  | none => simp [hl]
  | some registered =>
    by_cases hs : registered.completion = flight.completion
    · simp only [hs, if_true, lookup_erase, Option.some.injEq]
      constructor
      · intro h
        cases h
      · rintro ⟨rfl, hne⟩
        exact (hne hs).elim
    · simp only [hs, if_false, hl, Option.some.injEq]
      constructor
      · rintro rfl
        exact ⟨rfl, hs⟩
      · exact fun h => h.1

theorem RangeFlight.lookup_drop_waiter (st : RangeState) (ho : flight.owner = false)
    (hinterest : flight.foregroundInterest = true) :
    (flight.drop st).flights.lookup flight.key =
      (st.flights.lookup flight.key).map fun current =>
        { current with foregroundInterest := current.foregroundInterest - 1 } := by
  simp only [RangeFlight.drop, releaseForegroundInterest, ho, hinterest, if_true,
    Bool.false_eq_true, if_false]
  cases hl : st.flights.lookup flight.key with
  | none => simp [hl]
  | some registered => simp

theorem RangeFlight.drop_background (st : RangeState) (ho : flight.owner = false)
    (hinterest : flight.foregroundInterest = false) : flight.drop st = st := by
  simp [RangeFlight.drop, ho, hinterest]

theorem Step.flights_cases (hst : Step quotaBytes r label r') :
    (∃ key priority state flight, label = .claim key priority ∧
      claimChunk r.state key priority r.nextChannel = .ok (state, flight) ∧
      r'.state = state ∧ r'.flights = ⟨flight, priority⟩ ::ₘ r.flights ∧
      r'.nextChannel = r.nextChannel + 1) ∨
    (∃ live, label = .dropFlight live ∧ r.flights = live ::ₘ r'.flights ∧
      r'.state = live.handle.drop r.state ∧ r'.nextChannel = r.nextChannel) ∨
    (∀ live, label ≠ .dropFlight live) ∧ r'.state.flights = r.state.flights ∧
      r'.flights = r.flights ∧ r'.nextChannel = r.nextChannel := by
  cases hst with
  | claim ok => exact .inl ⟨_, _, _, _, rfl, ok, rfl, rfl, rfl⟩
  | dropFlight live => exact .inr (.inl ⟨_, rfl, live, rfl, rfl⟩)
  | enter ok =>
    obtain ⟨_, _, rfl⟩ := enter_ok ok
    exact .inr (.inr ⟨by simp, rfl, rfl, rfl⟩)
  | @beginPublication sessionId mode state guard ok =>
    obtain ⟨_, _, _, _, hfr, ho⟩ := beginSessionPublication_ok ok
    refine .inr (.inr ⟨by simp, ?_, rfl, rfl⟩)
    by_cases hmode : mode = .fresh
    · rw [(hfr hmode).2.2]
      rfl
    · rw [(ho hmode).2]
      rfl
  | dropActivity | commitPublication | dropPublication =>
    refine .inr (.inr ⟨by simp, ?_, rfl, rfl⟩)
    simp only [RangeActivity.drop, SessionPublicationGuard.commit, SessionPublicationGuard.drop,
      finishActivity]
    split <;> rfl
  | tryBeginRemoval ok =>
    obtain ⟨_, _, _, rfl⟩ := tryBeginSessionRemoval_ok ok
    exact .inr (.inr ⟨by simp, rfl, rfl, rfl⟩)
  | markRemoval _ ok =>
    obtain ⟨_, rfl⟩ := markSessionRemoval_ok ok
    exact .inr (.inr ⟨by simp, rfl, rfl, rfl⟩)
  | reserve ok =>
    exact .inr (.inr ⟨by simp, (reserve_sameButLedger ok).flights, rfl, rfl⟩)
  | noteFileLength =>
    exact .inr (.inr ⟨by simp, (noteFileLength_sameButLedger _ _ _).flights, rfl, rfl⟩)
  | dropLease =>
    exact .inr (.inr ⟨by simp, (RangeQuotaLease.drop_sameButLedger _ _).flights, rfl, rfl⟩)
  | requestRemoval | refuseRemoval | suspendRemoval | grantRemoval | abandonRemoval
  | commitRemoval | dropRemoval | drain =>
    exact .inr (.inr ⟨by simp, rfl, rfl, rfl⟩)

structure Runtime.FlightsSound (r : Runtime) : Prop where
  handleChannel : ∀ live ∈ r.flights, live.handle.completion < r.nextChannel
  flightChannel : ∀ key flight, r.state.flights.lookup key = some flight →
    flight.completion < r.nextChannel
  interest : ∀ live ∈ r.flights, live.handle.foregroundInterest =
    (!live.handle.owner && decide (live.priority = .foreground))

theorem Runtime.initial_flightsSound : Runtime.initial.FlightsSound := by
  constructor <;> simp [Runtime.initial, RangeState.default]

variable {st : RangeState}

theorem RangeFlight.lookup_drop_some {current : FlightState}
    (h : (flight.drop st).flights.lookup key = some current) :
    ∃ old, st.flights.lookup key = some old ∧ old.completion = current.completion := by
  by_cases hk : key = flight.key
  · subst hk
    cases ho : flight.owner with
    | true => exact ⟨current, ((lookup_drop_owner st ho).1 h).1, rfl⟩
    | false =>
      cases hinterest : flight.foregroundInterest with
      | true =>
        rw [lookup_drop_waiter st ho hinterest, Option.map_eq_some_iff] at h
        obtain ⟨old, hold, rfl⟩ := h
        exact ⟨old, hold, rfl⟩
      | false =>
        rw [drop_background st ho hinterest] at h
        exact ⟨current, h, rfl⟩
  · rw [lookup_drop_of_ne st flight hk] at h
    exact ⟨current, h, rfl⟩

variable {priority : HlsRangePriority}

theorem claimChunk_lookup {st' : RangeState} {fresh : ChannelId}
    (ok : claimChunk st key priority fresh = .ok (st', flight)) :
    flight.key = key ∧
    flight.foregroundInterest = (!flight.owner && decide (priority = .foreground)) ∧
    (∀ other, other ≠ key → st'.flights.lookup other = st.flights.lookup other) ∧
    ((∃ current, st.flights.lookup key = some current ∧
        flight.completion = current.completion ∧
        st'.flights.lookup key = some { current with
          foregroundInterest :=
            current.foregroundInterest + if priority = .foreground then 1 else 0 }) ∨
      (flight.completion = fresh ∧
        st'.flights.lookup key = some ⟨fresh, if priority = .foreground then 1 else 0⟩)) := by
  rcases (claimChunk_ok ok).2 with ⟨current, hl, rfl, rfl⟩ | ⟨_, rfl, rfl⟩
  · refine ⟨rfl, by simp, fun other hne => lookup_insert_of_ne _ hne, .inl ?_⟩
    exact ⟨current, hl, rfl, lookup_insert _⟩
  · refine ⟨rfl, by simp, fun other hne => lookup_insert_of_ne _ hne, .inr ?_⟩
    exact ⟨rfl, lookup_insert _⟩

theorem Runtime.FlightsSound.step (hst : Step quotaBytes r label r') (h : r.FlightsSound) :
    r'.FlightsSound := by
  rcases hst.flights_cases with ⟨key, priority, state, flight, _, ok, hs, hflights, hn⟩ |
      ⟨live, _, hlive, hs, hn⟩ | ⟨_, hs, hflights, hn⟩
  · obtain ⟨hk, hinterest, hos, hown⟩ := claimChunk_lookup ok
    have hchannel : flight.completion < r.nextChannel + 1 := by
      rcases hown with ⟨current, hl, hsame, _⟩ | ⟨hfr, _⟩
      · rw [hsame]
        exact Nat.lt_succ_of_lt (h.flightChannel key current hl)
      · rw [hfr]
        exact Nat.lt_succ_self _
    constructor
    · intro live hlive
      rw [hflights] at hlive
      rw [hn]
      rcases mem_cons.1 hlive with rfl | hold
      · exact hchannel
      · exact Nat.lt_succ_of_lt (h.handleChannel live hold)
    · intro other registered hl
      rw [hs] at hl
      rw [hn]
      by_cases hsame : other = key
      · subst hsame
        rcases hown with ⟨current, hold, _, hnew⟩ | ⟨_, hnew⟩
        · rw [hnew] at hl
          cases hl
          exact Nat.lt_succ_of_lt (h.flightChannel other current hold)
        · rw [hnew] at hl
          cases hl
          exact Nat.lt_succ_self _
      · rw [hos other hsame] at hl
        exact Nat.lt_succ_of_lt (h.flightChannel other registered hl)
    · intro live hlive
      rw [hflights] at hlive
      rcases mem_cons.1 hlive with rfl | hold
      · exact hinterest
      · exact h.interest live hold
  · constructor
    · intro other ho
      rw [hn]
      exact h.handleChannel other (by simp [hlive, ho])
    · intro key flight hl
      rw [hs] at hl
      obtain ⟨old, hold, hsame⟩ := RangeFlight.lookup_drop_some hl
      rw [hn, ← hsame]
      exact h.flightChannel key old hold
    · intro other ho
      exact h.interest other (by simp [hlive, ho])
  · exact ⟨by rw [hflights, hn]; exact h.handleChannel,
      by rw [hs, hn]; exact h.flightChannel, by rw [hflights]; exact h.interest⟩

variable {live : LiveFlight}

theorem Runtime.foregroundHandles_cons {rest : Multiset LiveFlight}
    (hflights : r.flights = live ::ₘ rest) (key : RangeChunkKey) (completion : ChannelId) :
    r.foregroundHandles key completion =
      rest.countP (fun other => other.AttachedTo key completion) +
        if live.AttachedTo key completion then 1 else 0 := by
  rw [foregroundHandles, hflights, countP_cons]

theorem Runtime.InterestExact.claim {state : RangeState} (h : r.InterestExact)
    (sound : r.FlightsSound)
    (ok : claimChunk r.state key priority r.nextChannel = .ok (state, flight))
    (hst : r'.state = state) (hflights : r'.flights = ⟨flight, priority⟩ ::ₘ r.flights) :
    r'.InterestExact := by
  obtain ⟨hk, _, hos, hown⟩ := claimChunk_lookup ok
  intro other registered hl
  rw [hst] at hl
  rw [foregroundHandles_cons hflights]
  by_cases hs : other = key
  · subst hs
    rcases hown with ⟨current, hold, hchannel, hn⟩ | ⟨hchannel, hn⟩
    · rw [hn] at hl
      cases hl
      have hexact := h other current hold
      simp only [LiveFlight.AttachedTo, hk, hchannel, and_true]
      rw [hexact]
      rfl
    · rw [hn] at hl
      cases hl
      -- No handle was given out on the channel of a flight that is only now registered.
      have hnone : r.flights.countP (fun live => live.AttachedTo other r.nextChannel) = 0 := by
        refine countP_eq_zero.2 (fun live hlive hattached => ?_)
        exact Nat.ne_of_lt (sound.handleChannel live hlive) hattached.2.2
      rw [hnone]
      simp [LiveFlight.AttachedTo, hk, hchannel]
  · rw [hos other hs] at hl
    have hne : ¬ (LiveFlight.mk flight priority).AttachedTo other registered.completion := by
      rintro ⟨_, ho, _⟩
      exact hs (ho.symm.trans hk)
    rw [if_neg hne]
    exact h other registered hl

theorem Runtime.InterestExact.drop_iff (h : r.InterestExact) (sound : r.FlightsSound)
    (hlive : r.flights = live ::ₘ r'.flights) (hs : r'.state = live.handle.drop r.state) :
    r'.InterestExact ↔ live.DropsOwnInterest r.state := by
  have hc : ∀ key completion, r.foregroundHandles key completion =
      r'.foregroundHandles key completion + if live.AttachedTo key completion then 1 else 0 :=
    foregroundHandles_cons hlive
  have hinterest := sound.interest live (by simp [hlive])
  constructor
  · intro hexact ho hwaiter flight hl
    by_contra hlat
    rw [not_or] at hlat
    have hdropped := RangeFlight.lookup_drop_waiter r.state ho hwaiter
    rw [hl] at hdropped
    have ha := hexact _ _ (hs ▸ hdropped)
    have hb := h _ _ hl
    have hoth : ¬ live.AttachedTo live.handle.key flight.completion :=
      fun hattached => hlat.1 hattached.2.2.symm
    rw [hc, if_neg hoth] at hb
    have := hlat.2
    dsimp only at ha
    omega
  · intro hown key flight hl
    rw [hs] at hl
    by_cases hk : key = live.handle.key
    · subst hk
      cases ho : live.handle.owner with
      | true =>
        obtain ⟨hb, hne⟩ := (RangeFlight.lookup_drop_owner r.state ho).1 hl
        have hoth : ¬ live.AttachedTo live.handle.key flight.completion :=
          fun hattached => hne hattached.2.2.symm
        rw [h _ _ hb, hc, if_neg hoth, Nat.add_zero]
      | false =>
        cases hwaiter : live.handle.foregroundInterest with
        | true =>
          rw [RangeFlight.lookup_drop_waiter r.state ho hwaiter,
            Option.map_eq_some_iff] at hl
          obtain ⟨before, hb, rfl⟩ := hl
          have hfore : live.priority = .foreground := by
            simpa [ho, hwaiter] using hinterest
          have hexact := h _ _ hb
          rw [hc] at hexact
          rcases hown ho hwaiter before hb with hsame | hn
          · have hattached : live.AttachedTo live.handle.key before.completion :=
              ⟨hfore, rfl, hsame.symm⟩
            rw [if_pos hattached] at hexact
            dsimp only
            omega
          · dsimp only
            omega
        | false =>
          rw [RangeFlight.drop_background r.state ho hwaiter] at hl
          have hbackground : live.priority ≠ .foreground := by
            simpa [ho, hwaiter] using hinterest
          have hoth : ¬ live.AttachedTo live.handle.key flight.completion :=
            fun hattached => hbackground hattached.1
          rw [h _ _ hl, hc, if_neg hoth, Nat.add_zero]
    · rw [RangeFlight.lookup_drop_of_ne r.state live.handle hk] at hl
      have hoth : ¬ live.AttachedTo key flight.completion :=
        fun hattached => hk hattached.2.1.symm
      rw [h _ _ hl, hc, if_neg hoth, Nat.add_zero]

theorem Runtime.InterestExact.step (hst : Step quotaBytes r label r')
    (hown : DropsOwnInterest r label) (sound : r.FlightsSound) (h : r.InterestExact) :
    r'.InterestExact := by
  rcases hst.flights_cases with ⟨key, priority, state, flight, _, ok, hs, hflights, _⟩ |
      ⟨live, rfl, hlive, hs, _⟩ | ⟨_, hs, hflights, _⟩
  · exact h.claim sound ok hs hflights
  · exact (h.drop_iff sound hlive hs).2 hown
  intro key flight hl
  rw [hs] at hl
  rw [Runtime.foregroundHandles, hflights]
  exact h key flight hl

theorem LiveFlight.DropsOwnInterest.lookup_drop {flight : FlightState}
    (hown : live.DropsOwnInterest st) (hl : st.flights.lookup key = some flight)
    (hlat : flight.completion ≠ live.handle.completion) :
    (live.handle.drop st).flights.lookup key = some flight := by
  by_cases hk : key = live.handle.key
  · subst hk
    cases ho : live.handle.owner with
    | true => exact (RangeFlight.lookup_drop_owner st ho).2 ⟨hl, hlat⟩
    | false =>
      cases hwaiter : live.handle.foregroundInterest with
      | true =>
        have hn := (hown ho hwaiter flight hl).resolve_left hlat
        rw [RangeFlight.lookup_drop_waiter st ho hwaiter, hl]
        cases flight
        cases hn
        rfl
      | false =>
        rw [RangeFlight.drop_background st ho hwaiter]
        exact hl
  · rw [RangeFlight.lookup_drop_of_ne st live.handle hk]
    exact hl

abbrev ReachesOwn (quotaBytes : Nat) (labels : List Action) (r : Runtime) : Prop :=
  Transition.Run (Transition.Guarded (Step quotaBytes) DropsOwnInterest) Runtime.initial labels r

theorem ReachesOwn.sound (run : ReachesOwn quotaBytes labels r) :
    r.FlightsSound ∧ r.InterestExact := by
  let inv : Runtime → Prop := fun r => r.FlightsSound ∧ r.InterestExact
  refine Transition.Run.invariant inv run (fun hst h => ?_)
    ⟨initial_flightsSound, fun key flight hl => ?_⟩
  · exact ⟨h.1.step hst.1, h.2.step hst.1 hst.2 h.1⟩
  · simp [Runtime.initial, RangeState.default] at hl

/-- In those runs every count is exact and a handle of a finished flight changes no
later flight; the first drop that leaves them makes a count wrong. -/
theorem flight_interest_exact (run : ReachesOwn quotaBytes labels r) :
    r.InterestExact ∧
    ∀ live r', Step quotaBytes r (.dropFlight live) r' →
      (r'.InterestExact ↔ live.DropsOwnInterest r.state) ∧
      (live.DropsOwnInterest r.state → ∀ key flight,
        r.state.flights.lookup key = some flight →
          flight.completion ≠ live.handle.completion →
            r'.state.flights.lookup key = some flight) := by
  obtain ⟨sound, hexact⟩ := ReachesOwn.sound run
  refine ⟨hexact, fun live r' hstep => ?_⟩
  cases hstep with
  | dropFlight hlive =>
    exact ⟨hexact.drop_iff sound hlive rfl,
      fun hown key flight hlookup hlater => hown.lookup_drop hlookup hlater⟩

def chunkKey : RangeChunkKey := ⟨⟨"s", "r", "rep"⟩, 64, ⟨0, 64⟩⟩

def ownerOf (completion : ChannelId) : LiveFlight :=
  ⟨⟨chunkKey, completion, true, false⟩, .foreground⟩

def waiterOf (completion : ChannelId) : LiveFlight :=
  ⟨⟨chunkKey, completion, false, true⟩, .foreground⟩

theorem ReachesOwn.perform (run : ReachesOwn quotaBytes labels r) (action : Action)
    (hst : r.perform quotaBytes action = some r') (hown : DropsOwnInterest r action) :
    ReachesOwn quotaBytes (labels ++ [action]) r' :=
  Transition.Run.snoc run ⟨perform_step hst, hown⟩

/-- A waiter that goes before the next flight starts releases no interest of it. -/
theorem flight_interest_exact_early_waiter :
    ∃ r : Runtime, ReachesOwn 0
        [.claim chunkKey .foreground, .claim chunkKey .foreground, .dropFlight (ownerOf 0),
          .dropFlight (waiterOf 0), .claim chunkKey .foreground] r ∧ r.InterestExact := by
  have start : ReachesOwn 0 [] Runtime.initial := Transition.Run.nil _
  have claimed := (start.perform (.claim chunkKey .foreground) rfl trivial).perform
    (.claim chunkKey .foreground) rfl trivial
  have dropped := (claimed.perform (.dropFlight (ownerOf 0)) rfl
    (by unfold DropsOwnInterest; decide)).perform
    (.dropFlight (waiterOf 0)) rfl
    (by unfold DropsOwnInterest; decide)
  have run := dropped.perform (.claim chunkKey .foreground) rfl trivial
  exact ⟨_, run, (flight_interest_exact run).1⟩

/-- A waiter that outlives its flight takes the interest of the next one. -/
theorem flight_interest_not_exact :
    ¬ ∀ (quotaBytes : Nat) (labels : List Action) (r : Runtime),
      Reaches quotaBytes labels r → r.InterestExact := by
  intro hclaim
  have hexact := hclaim 0
    [.claim chunkKey .foreground, .claim chunkKey .foreground, .dropFlight (ownerOf 0),
      .claim chunkKey .foreground, .dropFlight (waiterOf 0)] _ (performAll_run rfl)
    chunkKey ⟨2, 0⟩ (by decide)
  revert hexact
  decide

end NetPlayer.RangeCache
