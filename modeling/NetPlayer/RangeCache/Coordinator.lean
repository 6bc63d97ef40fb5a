import Mathlib.Data.Finmap
import Mathlib.Data.Finset.Lattice.Fold
import Mathlib.Algebra.BigOperators.Group.Finset.Basic
import NetPlayer.RangeCache.Basic

/-!
# The range-cache coordinator

`HlsRangeCache` keeps its admission state in one mutex. Every function here is
one critical section of the source: it reads and replaces the whole `RangeState`
or refuses and leaves it alone. Hash maps are finite maps with the same lookups;
the completion channel of a flight is its identity, a number never used twice.
-/

namespace NetPlayer.RangeCache

abbrev ChannelId := Nat

structure FlightState where
  completion : ChannelId
  foregroundInterest : Nat
  deriving DecidableEq

structure RangeReservation where
  targetLength : Nat
  currentLength : Nat
  deriving DecidableEq

/-- `HashMap<u64, RangeReservation>` as a list of its entries. -/
abbrev Reservations := List (Nat × RangeReservation)

structure RangeState where
  active : Nat
  activeSessions : Finmap fun _ : String => Nat
  activeForeground : Nat
  removing : Finset String
  retired : Finset String
  unpublished : Finset String
  published : Finset String
  shuttingDown : Bool
  flights : Finmap fun _ : RangeChunkKey => FlightState
  reservations : Finmap fun _ : RangeResourceKey => Reservations
  nextReservation : Nat

def RangeState.default : RangeState where
  active := 0
  activeSessions := ∅
  activeForeground := 0
  removing := ∅
  retired := ∅
  unpublished := ∅
  published := ∅
  shuttingDown := false
  flights := ∅
  reservations := ∅
  nextReservation := 0

/-! ## Handles

A handle is what the caller holds; dropping it runs the matching `finish`
function below. -/

structure RangeActivity where
  sessionId : String
  priority : HlsRangePriority
  deriving DecidableEq

structure SessionPublicationGuard where
  sessionId : String
  mode : SessionPublicationMode
  deriving DecidableEq

structure HlsSessionRemovalGuard where
  sessionId : String
  deriving DecidableEq

structure RangeFlight where
  key : RangeChunkKey
  completion : ChannelId
  owner : Bool
  foregroundInterest : Bool
  deriving DecidableEq

structure RangeQuotaLease where
  key : RangeResourceKey
  id : Nat
  deriving DecidableEq

/-- `active_sessions.get(session).copied().unwrap_or_default()`. -/
def RangeState.sessionActive (st : RangeState) (sessionId : String) : Nat :=
  (st.activeSessions.lookup sessionId).getD 0

/-- The test that `enter`, `claim_chunk`, `check_priority_control` and `reserve`
open with. -/
def RangeState.closed (st : RangeState) (sessionId : String) : Bool :=
  st.shuttingDown || sessionId ∈ st.removing || sessionId ∈ st.retired ||
    sessionId ∈ st.unpublished

@[simps] def RangeState.addActivity (st : RangeState) (sessionId : String) : RangeState :=
  { st with
    active := st.active + 1
    activeSessions := st.activeSessions.insert sessionId (st.sessionActive sessionId + 1) }

/-- The part of `finish_activity` that `SessionPublicationGuard::commit` repeats. -/
@[simps] def RangeState.removeActivity (st : RangeState) (sessionId : String) : RangeState :=
  { st with
    active := st.active - 1
    activeSessions :=
      match st.activeSessions.lookup sessionId with
      | none => st.activeSessions
      | some count =>
        if count - 1 = 0 then st.activeSessions.erase sessionId
        else st.activeSessions.insert sessionId (count - 1) }

@[simp] theorem RangeState.sessionActive_addActivity (st : RangeState) (sessionId other : String) :
    (st.addActivity sessionId).sessionActive other =
      st.sessionActive other + if other = sessionId then 1 else 0 := by
  by_cases h : other = sessionId
  · subst h
    simp [addActivity, sessionActive]
  · simp [addActivity, sessionActive, Finmap.lookup_insert_of_ne _ h, h]

@[simp] theorem RangeState.sessionActive_removeActivity (st : RangeState)
    (sessionId other : String) :
    (st.removeActivity sessionId).sessionActive other =
      st.sessionActive other - if other = sessionId then 1 else 0 := by
  unfold removeActivity sessionActive
  cases hlook : st.activeSessions.lookup sessionId with
  | none =>
    by_cases h : other = sessionId
    · subst h
      simp [hlook]
    · simp [h]
  | some count =>
    by_cases h : other = sessionId
    · subst h
      by_cases hl : count - 1 = 0
      · simp [hlook, hl]
      · simp [hlook, hl]
    · by_cases hl : count - 1 = 0
      · simp [hl, h, Finmap.lookup_erase_ne h]
      · simp [hl, h, Finmap.lookup_insert_of_ne _ h]

@[simps] def RangeState.setForeground (st : RangeState) (count : Nat) : RangeState :=
  { st with activeForeground := count }

@[simp] theorem RangeState.sessionActive_setForeground (st : RangeState) (count : Nat)
    (sessionId : String) :
    (st.setForeground count).sessionActive sessionId = st.sessionActive sessionId := rfl

def enter (st : RangeState) (sessionId : String) (priority : HlsRangePriority) :
    Except HlsRangeError (RangeState × RangeActivity) :=
  if st.closed sessionId then
    .error .sessionRemoving
  else
    let st :=
      if priority = .foreground then st.setForeground (st.activeForeground + 1) else st
    .ok (st.addActivity sessionId, { sessionId, priority })

def finishActivity (st : RangeState) (sessionId : String) (priority : HlsRangePriority) :
    RangeState :=
  let st := st.removeActivity sessionId
  if priority = .foreground then st.setForeground (st.activeForeground - 1) else st

def beginSessionPublication (st : RangeState) (sessionId : String)
    (mode : SessionPublicationMode) : Except HlsRangeError (RangeState × SessionPublicationGuard) :=
  if st.shuttingDown || sessionId ∈ st.removing || sessionId ∈ st.retired then
    .error .sessionRemoving
  else
    match mode with
    | .fresh =>
      if sessionId ∈ st.published ∨ st.sessionActive sessionId ≠ 0 then
        .error .sessionRemoving
      else
        let st := { st with unpublished := insert sessionId st.unpublished }
        .ok (st.addActivity sessionId, { sessionId, mode })
    | .refresh | .ownedCompletion | .ownedRestoration =>
      if sessionId ∈ st.unpublished then
        .error .sessionRemoving
      else
        .ok (st.addActivity sessionId, { sessionId, mode })

def SessionPublicationGuard.commit (st : RangeState) (guard : SessionPublicationGuard) :
    RangeState :=
  let st :=
    if guard.mode = .fresh then
      { st with unpublished := st.unpublished.erase guard.sessionId }
    else st
  let st := { st with published := insert guard.sessionId st.published }
  st.removeActivity guard.sessionId

def SessionPublicationGuard.drop (st : RangeState) (guard : SessionPublicationGuard) : RangeState :=
  finishActivity st guard.sessionId .background

def RangeActivity.drop (st : RangeState) (activity : RangeActivity) : RangeState :=
  finishActivity st activity.sessionId activity.priority

/-! ### What admission can do

One lemma for each call: what it requires, and the state and handle it gives. -/

variable {st : RangeState} {sessionId : String}

theorem RangeState.closed_eq_false_iff :
    st.closed sessionId = false ↔
      st.shuttingDown = false ∧ sessionId ∉ st.removing ∧ sessionId ∉ st.retired ∧
        sessionId ∉ st.unpublished := by
  simp [closed, and_assoc]

variable {st' : RangeState} {priority : HlsRangePriority}

theorem enter_ok {activity : RangeActivity}
    (ok : enter st sessionId priority = .ok (st', activity)) :
    st.closed sessionId = false ∧ activity = ⟨sessionId, priority⟩ ∧
      st' = (st.setForeground
        (st.activeForeground + if priority = .foreground then 1 else 0)).addActivity sessionId := by
  unfold enter at ok
  cases hcl : st.closed sessionId with
  | true => simp [hcl] at ok
  | false =>
    simp only [hcl, Bool.false_eq_true, if_false, Except.ok.injEq, Prod.mk.injEq] at ok
    obtain ⟨rfl, rfl⟩ := ok
    refine ⟨rfl, rfl, ?_⟩
    cases priority <;> rfl

theorem enter_closed (priority : HlsRangePriority) (h : st.closed sessionId = true) :
    enter st sessionId priority = .error .sessionRemoving := by
  simp [enter, h]

theorem beginSessionPublication_ok {mode : SessionPublicationMode}
    {guard : SessionPublicationGuard}
    (ok : beginSessionPublication st sessionId mode = .ok (st', guard)) :
    guard = ⟨sessionId, mode⟩ ∧
      st.shuttingDown = false ∧ sessionId ∉ st.removing ∧ sessionId ∉ st.retired ∧
      (mode = .fresh → sessionId ∉ st.published ∧ st.sessionActive sessionId = 0 ∧
        st' = RangeState.addActivity
          { st with unpublished := insert sessionId st.unpublished } sessionId) ∧
      (mode ≠ .fresh → sessionId ∉ st.unpublished ∧ st' = st.addActivity sessionId) := by
  unfold beginSessionPublication at ok
  split at ok
  · cases ok
  rename_i hopen
  simp only [Bool.or_eq_true, decide_eq_true_eq, not_or, Bool.not_eq_true] at hopen
  obtain ⟨⟨hshut, hremoving⟩, hret⟩ := hopen
  cases mode with
  | fresh =>
    dsimp only at ok
    split at ok
    · cases ok
    rename_i hfree
    simp only [not_or, not_not] at hfree
    cases ok
    exact ⟨rfl, hshut, hremoving, hret, fun _ => ⟨hfree.1, hfree.2, rfl⟩, fun h => (h rfl).elim⟩
  | refresh | ownedCompletion | ownedRestoration =>
    dsimp only at ok
    split at ok
    · cases ok
    · rename_i hpubl
      cases ok
      exact ⟨rfl, hshut, hremoving, hret, fun h => (by cases h), fun _ => ⟨hpubl, rfl⟩⟩

theorem beginSessionPublication_closed (mode : SessionPublicationMode)
    (h : st.shuttingDown = true ∨ sessionId ∈ st.removing ∨ sessionId ∈ st.retired) :
    beginSessionPublication st sessionId mode = .error .sessionRemoving := by
  have hcl : (st.shuttingDown || sessionId ∈ st.removing || sessionId ∈ st.retired) = true := by
    simpa [or_assoc] using h
  simp [beginSessionPublication, hcl]

def RangeState.RefusesAll (st : RangeState) (sessionId : String) : Prop :=
  (∀ priority, enter st sessionId priority = .error .sessionRemoving) ∧
    ∀ mode, beginSessionPublication st sessionId mode = .error .sessionRemoving

theorem RangeState.refusesAll_of_mem (h : sessionId ∈ st.removing ∨ sessionId ∈ st.retired) :
    st.RefusesAll sessionId := by
  constructor
  · intro priority
    apply enter_closed
    rcases h with h | h <;> simp [closed, h]
  · intro mode
    exact beginSessionPublication_closed mode (.inr h)

def tryBeginSessionRemoval (st : RangeState) (sessionId : String) :
    Except HlsRangeError (RangeState × Option HlsSessionRemovalGuard) :=
  if st.shuttingDown || sessionId ∈ st.removing then
    .error .sessionRemoving
  else if st.sessionActive sessionId ≠ 0 then
    .ok (st, none)
  else
    .ok ({ st with removing := insert sessionId st.removing }, some { sessionId })

/-- The first critical section of `begin_session_removal`, run by the first poll
of its future. -/
def markSessionRemoval (st : RangeState) (sessionId : String) : Except HlsRangeError RangeState :=
  if st.shuttingDown || sessionId ∈ st.removing then
    .error .sessionRemoving
  else
    .ok { st with removing := insert sessionId st.removing }

/-- One turn of the loop of `begin_session_removal`: the guard, or `none` when
the future suspends until the next change. -/
def pollSessionRemoval (st : RangeState) (sessionId : String) : Option HlsSessionRemovalGuard :=
  if st.sessionActive sessionId = 0 then some { sessionId } else none

def HlsSessionRemovalGuard.commit (st : RangeState) (guard : HlsSessionRemovalGuard) : RangeState :=
  { st with
    removing := st.removing.erase guard.sessionId
    unpublished := st.unpublished.erase guard.sessionId
    published := st.published.erase guard.sessionId
    retired := insert guard.sessionId st.retired }

def HlsSessionRemovalGuard.drop (st : RangeState) (guard : HlsSessionRemovalGuard) : RangeState :=
  { st with removing := st.removing.erase guard.sessionId }

/-- The critical section of `drain`; the rest of it only waits. -/
def drain (st : RangeState) : RangeState :=
  { st with shuttingDown := true }

variable {guard : HlsSessionRemovalGuard}

theorem tryBeginSessionRemoval_ok (ok : tryBeginSessionRemoval st sessionId = .ok (st', some guard))
    :
    guard = ⟨sessionId⟩ ∧ sessionId ∉ st.removing ∧ st.sessionActive sessionId = 0 ∧
      st' = { st with removing := insert sessionId st.removing } := by
  unfold tryBeginSessionRemoval at ok
  split at ok
  · cases ok
  rename_i hopen
  split at ok
  · cases ok
  rename_i hidle
  simp only [Bool.or_eq_true, decide_eq_true_eq, not_or] at hopen
  simp only [not_not] at hidle
  cases ok
  exact ⟨rfl, hopen.2, hidle, rfl⟩

theorem markSessionRemoval_ok (ok : markSessionRemoval st sessionId = .ok st') :
    sessionId ∉ st.removing ∧ st' = { st with removing := insert sessionId st.removing } := by
  unfold markSessionRemoval at ok
  split at ok
  · cases ok
  rename_i hopen
  simp only [Bool.or_eq_true, decide_eq_true_eq, not_or] at hopen
  cases ok
  exact ⟨hopen.2, rfl⟩

theorem pollSessionRemoval_some (idle : pollSessionRemoval st sessionId = some guard) :
    guard = ⟨sessionId⟩ ∧ st.sessionActive sessionId = 0 := by
  unfold pollSessionRemoval at idle
  split at idle
  · rename_i h
    cases idle
    exact ⟨rfl, h⟩
  · cases idle

theorem pollSessionRemoval_none (busy : pollSessionRemoval st sessionId = none) :
    st.sessionActive sessionId ≠ 0 := by
  unfold pollSessionRemoval at busy
  split at busy
  · cases busy
  · assumption

def activeFlightCount (st : RangeState) (key : RangeResourceKey) : Nat :=
  (st.flights.keys.filter fun flight => flight.resource = key).card

def claimChunk (st : RangeState) (key : RangeChunkKey) (priority : HlsRangePriority)
    (fresh : ChannelId) : Except HlsRangeError (RangeState × RangeFlight) :=
  if st.closed key.resource.sessionId then
    .error .sessionRemoving
  else
    match st.flights.lookup key with
    | some flight =>
      let interest :=
        if priority = .foreground then flight.foregroundInterest + 1
        else flight.foregroundInterest
      .ok
        ({ st with flights := st.flights.insert key { flight with foregroundInterest := interest } },
          { key, completion := flight.completion, owner := false,
            foregroundInterest := priority = .foreground })
    | none =>
      let interest := if priority = .foreground then 1 else 0
      .ok
        ({ st with
            flights := st.flights.insert key { completion := fresh, foregroundInterest := interest } },
          { key, completion := fresh, owner := true, foregroundInterest := false })

def releaseForegroundInterest (st : RangeState) (key : RangeChunkKey) : RangeState :=
  match st.flights.lookup key with
  | none => st
  | some flight =>
    { st with
      flights := st.flights.insert key
        { flight with foregroundInterest := flight.foregroundInterest - 1 } }

def finishFlight (st : RangeState) (key : RangeChunkKey) (completion : ChannelId) : RangeState :=
  match st.flights.lookup key with
  | none => st
  | some current =>
    if current.completion = completion then { st with flights := st.flights.erase key } else st

def RangeFlight.drop (st : RangeState) (flight : RangeFlight) : RangeState :=
  if flight.owner then finishFlight st flight.key flight.completion
  else if flight.foregroundInterest then releaseForegroundInterest st flight.key
  else st

def RangeState.SameAdmission (st st' : RangeState) : Prop :=
  ∃ flights reservations nextReservation,
    st' = { st with
      flights := flights
      reservations := reservations
      nextReservation := nextReservation }

theorem claimChunk_ok {key : RangeChunkKey} {fresh : ChannelId} {flight : RangeFlight}
    (ok : claimChunk st key priority fresh = .ok (st', flight)) :
    st.closed key.resource.sessionId = false ∧
      ((∃ current, st.flights.lookup key = some current ∧
          flight = ⟨key, current.completion, false, priority = .foreground⟩ ∧
          st' = { st with flights := st.flights.insert key { current with
            foregroundInterest :=
              current.foregroundInterest + if priority = .foreground then 1 else 0 } }) ∨
        (st.flights.lookup key = none ∧ flight = ⟨key, fresh, true, false⟩ ∧
          st' = { st with
            flights := st.flights.insert key ⟨fresh, if priority = .foreground then 1 else 0⟩ })) := by
  unfold claimChunk at ok
  split at ok
  · cases ok
  rename_i hopen
  refine ⟨by simpa using hopen, ?_⟩
  split at ok
  · rename_i current hl
    cases ok
    refine .inl ⟨current, hl, rfl, ?_⟩
    cases priority <;> rfl
  · rename_i hl
    cases ok
    exact .inr ⟨hl, rfl, rfl⟩

theorem claimChunk_sameAdmission {key : RangeChunkKey} {fresh : ChannelId} {flight : RangeFlight}
    (ok : claimChunk st key priority fresh = .ok (st', flight)) : st.SameAdmission st' := by
  rcases (claimChunk_ok ok).2 with ⟨_, _, _, rfl⟩ | ⟨_, _, rfl⟩
  · exact ⟨_, _, _, rfl⟩
  · exact ⟨_, _, _, rfl⟩

theorem RangeFlight.drop_sameAdmission (st : RangeState) (flight : RangeFlight) :
    st.SameAdmission (flight.drop st) := by
  unfold RangeFlight.drop finishFlight releaseForegroundInterest
  repeat' split
  all_goals exact ⟨_, _, _, rfl⟩

/-- `values().map(f).max().unwrap_or_default()` over the reservations of one resource. -/
def Reservations.maxOf (reservations : Reservations) (f : RangeReservation → Nat) : Nat :=
  (reservations.map fun entry => f entry.2).foldr max 0

/-- `HashMap::insert`: an entry with the same id is replaced. -/
def Reservations.put (reservations : Reservations) (id : Nat) (reservation : RangeReservation) :
    Reservations :=
  (id, reservation) :: reservations.filter fun entry => entry.1 ≠ id

/-- The reservations of a resource, empty when it has none. -/
def RangeState.reservationsOf (st : RangeState) (key : RangeResourceKey) : Reservations :=
  (st.reservations.lookup key).getD []

/-- The bytes a leased resource may still grow by, as `reserve` for `key` sees it. -/
def RangeState.additional (st : RangeState) (key : RangeResourceKey) (currentFileLength : Nat)
    (resource : RangeResourceKey) : Nat :=
  let reservations := st.reservationsOf resource
  let observedLength := reservations.maxOf (·.currentLength)
  reservations.maxOf (·.targetLength) -
    (if resource = key then max currentFileLength observedLength else observedLength)

/-- `reserve`. Summing with `saturating_add` is the sum cut off at `u64::MAX`. -/
def reserve (quotaBytes : Nat) (st : RangeState) (key : RangeResourceKey)
    (targetLogicalLength currentFileLength managedUsageBytes : Nat) :
    Except HlsRangeError (RangeState × RangeQuotaLease) :=
  if st.closed key.sessionId then
    .error .sessionRemoving
  else
    let existingAdditional :=
      min (st.reservations.keys.sum (st.additional key currentFileLength)) u64Max
    let oldTarget := (st.reservationsOf key).maxOf (·.targetLength)
    let target := max targetLogicalLength oldTarget
    let previousCurrent := (st.reservationsOf key).maxOf (·.currentLength)
    let currentForKey := max currentFileLength previousCurrent
    let oldAdditional := oldTarget - currentForKey
    let newAdditional := target - currentForKey
    let projected :=
      saturatingAdd
        (saturatingAdd managedUsageBytes (existingAdditional - oldAdditional)) newAdditional
    if 0 < quotaBytes ∧ quotaBytes < projected then
      .error .quotaExceeded
    else
      let id := max (wrappingAdd st.nextReservation 1) 1
      let reservation := { targetLength := target, currentLength := currentForKey }
      .ok
        ({ st with
            nextReservation := id
            reservations :=
              st.reservations.insert key ((st.reservationsOf key).put id reservation) },
          { key, id })

def RangeState.SameButLedger (st st' : RangeState) : Prop :=
  ∃ reservations nextReservation,
    st' = { st with reservations := reservations, nextReservation := nextReservation }

theorem RangeState.SameButLedger.sameAdmission (h : st.SameButLedger st') :
    st.SameAdmission st' := by
  obtain ⟨reservations, next, rfl⟩ := h
  exact ⟨_, _, _, rfl⟩

theorem RangeState.SameButLedger.flights (h : st.SameButLedger st') : st'.flights = st.flights := by
  obtain ⟨reservations, next, rfl⟩ := h
  rfl

theorem reserve_sameButLedger {quotaBytes : Nat} {key : RangeResourceKey}
    {target current usage : Nat} {lease : RangeQuotaLease}
    (ok : reserve quotaBytes st key target current usage = .ok (st', lease)) :
    st.SameButLedger st' := by
  unfold reserve at ok
  split at ok
  · cases ok
  dsimp only at ok
  split at ok
  · cases ok
  · cases ok
    exact ⟨_, _, rfl⟩

def noteFileLength (st : RangeState) (key : RangeResourceKey) (fileLength : Nat) : RangeState :=
  match st.reservations.lookup key with
  | none => st
  | some reservations =>
    let noted := reservations.map fun entry =>
      (entry.1, { entry.2 with currentLength := max entry.2.currentLength fileLength })
    { st with reservations := st.reservations.insert key noted }

def finishReservation (st : RangeState) (key : RangeResourceKey) (id : Nat) : RangeState :=
  match st.reservations.lookup key with
  | none => st
  | some reservations =>
    let rest := reservations.filter fun entry => entry.1 ≠ id
    if rest.isEmpty then { st with reservations := st.reservations.erase key }
    else { st with reservations := st.reservations.insert key rest }

def RangeQuotaLease.drop (st : RangeState) (lease : RangeQuotaLease) : RangeState :=
  finishReservation st lease.key lease.id

theorem noteFileLength_sameButLedger (st : RangeState) (key : RangeResourceKey)
    (fileLength : Nat) : st.SameButLedger (noteFileLength st key fileLength) := by
  unfold noteFileLength
  split
  all_goals exact ⟨_, _, rfl⟩

theorem RangeQuotaLease.drop_sameButLedger (st : RangeState) (lease : RangeQuotaLease) :
    st.SameButLedger (lease.drop st) := by
  unfold RangeQuotaLease.drop finishReservation
  dsimp only
  repeat' split
  all_goals exact ⟨_, _, rfl⟩

end NetPlayer.RangeCache
