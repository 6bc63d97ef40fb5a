import Mathlib.Data.Multiset.Count
import NetPlayer.Library.Transition
import NetPlayer.RangeCache.Coordinator

/-!
# Runs of the coordinator

A `Runtime` is the coordinator's state together with every handle its callers
still hold. A step is one critical section, run by whichever caller is scheduled
next, so runs are all interleavings. A removal future is kept apart from the
guard it returns: it can be dropped before its first poll and whenever it is
suspended.
-/

namespace NetPlayer.RangeCache

/-- Where a `begin_session_removal` future stands: not polled yet, inside a poll,
or suspended at its await point. -/
inductive RemovalPhase
  | created
  | polling
  | waiting
  deriving DecidableEq

structure RemovalFuture where
  sessionId : String
  phase : RemovalPhase
  deriving DecidableEq

structure LiveFlight where
  handle : RangeFlight
  priority : HlsRangePriority
  deriving DecidableEq

structure Runtime where
  state : RangeState
  activities : Multiset RangeActivity
  publications : Multiset SessionPublicationGuard
  removals : Multiset HlsSessionRemovalGuard
  futures : Multiset RemovalFuture
  flights : Multiset LiveFlight
  leases : Multiset RangeQuotaLease
  nextChannel : ChannelId

def Runtime.initial : Runtime where
  state := RangeState.default
  activities := 0
  publications := 0
  removals := 0
  futures := 0
  flights := 0
  leases := 0
  nextChannel := 0

inductive Action
  | enter (sessionId : String) (priority : HlsRangePriority)
  | dropActivity (activity : RangeActivity)
  | beginPublication (sessionId : String) (mode : SessionPublicationMode)
  | commitPublication (guard : SessionPublicationGuard)
  | dropPublication (guard : SessionPublicationGuard)
  | tryBeginRemoval (sessionId : String)
  | requestRemoval (sessionId : String)
  | refuseRemoval (sessionId : String)
  | markRemoval (sessionId : String)
  | suspendRemoval (sessionId : String)
  | grantRemoval (sessionId : String)
  | abandonRemoval (future : RemovalFuture)
  | commitRemoval (guard : HlsSessionRemovalGuard)
  | dropRemoval (guard : HlsSessionRemovalGuard)
  | drain
  | claim (key : RangeChunkKey) (priority : HlsRangePriority)
  | dropFlight (flight : LiveFlight)
  | reserve (key : RangeResourceKey) (target current usage : Nat)
  | noteFileLength (key : RangeResourceKey) (length : Nat)
  | dropLease (lease : RangeQuotaLease)
  deriving DecidableEq

/-- One critical section. A refused call changes nothing and is not a step,
except for the removal future that it uses up. -/
inductive Step (quotaBytes : Nat) : Runtime → Action → Runtime → Prop
  | enter {r : Runtime} {sessionId priority state activity}
      (ok : enter r.state sessionId priority = .ok (state, activity)) :
      Step quotaBytes r (.enter sessionId priority)
        { r with state := state, activities := activity ::ₘ r.activities }
  | dropActivity {r : Runtime} {activity rest} (live : r.activities = activity ::ₘ rest) :
      Step quotaBytes r (.dropActivity activity)
        { r with state := activity.drop r.state, activities := rest }
  | beginPublication {r : Runtime} {sessionId mode state guard}
      (ok : beginSessionPublication r.state sessionId mode = .ok (state, guard)) :
      Step quotaBytes r (.beginPublication sessionId mode)
        { r with state := state, publications := guard ::ₘ r.publications }
  | commitPublication {r : Runtime} {guard rest} (live : r.publications = guard ::ₘ rest) :
      Step quotaBytes r (.commitPublication guard)
        { r with state := guard.commit r.state, publications := rest }
  | dropPublication {r : Runtime} {guard rest} (live : r.publications = guard ::ₘ rest) :
      Step quotaBytes r (.dropPublication guard)
        { r with state := guard.drop r.state, publications := rest }
  | tryBeginRemoval {r : Runtime} {sessionId state guard}
      (ok : tryBeginSessionRemoval r.state sessionId = .ok (state, some guard)) :
      Step quotaBytes r (.tryBeginRemoval sessionId)
        { r with state := state, removals := guard ::ₘ r.removals }
  | requestRemoval {r : Runtime} {sessionId} :
      Step quotaBytes r (.requestRemoval sessionId)
        { r with futures := ⟨sessionId, .created⟩ ::ₘ r.futures }
  | refuseRemoval {r : Runtime} {sessionId rest error}
      (live : r.futures = ⟨sessionId, .created⟩ ::ₘ rest)
      (refused : markSessionRemoval r.state sessionId = .error error) :
      Step quotaBytes r (.refuseRemoval sessionId) { r with futures := rest }
  | markRemoval {r : Runtime} {sessionId rest state}
      (live : r.futures = ⟨sessionId, .created⟩ ::ₘ rest)
      (ok : markSessionRemoval r.state sessionId = .ok state) :
      Step quotaBytes r (.markRemoval sessionId)
        { r with state := state, futures := ⟨sessionId, .polling⟩ ::ₘ rest }
  | suspendRemoval {r : Runtime} {sessionId rest phase} (polled : phase ≠ .created)
      (live : r.futures = ⟨sessionId, phase⟩ ::ₘ rest)
      (busy : pollSessionRemoval r.state sessionId = none) :
      Step quotaBytes r (.suspendRemoval sessionId)
        { r with futures := ⟨sessionId, .waiting⟩ ::ₘ rest }
  | grantRemoval {r : Runtime} {sessionId rest phase guard} (polled : phase ≠ .created)
      (live : r.futures = ⟨sessionId, phase⟩ ::ₘ rest)
      (idle : pollSessionRemoval r.state sessionId = some guard) :
      Step quotaBytes r (.grantRemoval sessionId)
        { r with futures := rest, removals := guard ::ₘ r.removals }
  | abandonRemoval {r : Runtime} {future rest} (suspended : future.phase ≠ .polling)
      (live : r.futures = future ::ₘ rest) :
      Step quotaBytes r (.abandonRemoval future) { r with futures := rest }
  | commitRemoval {r : Runtime} {guard rest} (live : r.removals = guard ::ₘ rest) :
      Step quotaBytes r (.commitRemoval guard)
        { r with state := guard.commit r.state, removals := rest }
  | dropRemoval {r : Runtime} {guard rest} (live : r.removals = guard ::ₘ rest) :
      Step quotaBytes r (.dropRemoval guard)
        { r with state := guard.drop r.state, removals := rest }
  | drain {r : Runtime} :
      Step quotaBytes r .drain { r with state := RangeCache.drain r.state }
  | claim {r : Runtime} {key priority state flight}
      (ok : claimChunk r.state key priority r.nextChannel = .ok (state, flight)) :
      Step quotaBytes r (.claim key priority)
        { r with
          state := state
          flights := ⟨flight, priority⟩ ::ₘ r.flights
          nextChannel := r.nextChannel + 1 }
  | dropFlight {r : Runtime} {flight rest} (live : r.flights = flight ::ₘ rest) :
      Step quotaBytes r (.dropFlight flight)
        { r with state := flight.handle.drop r.state, flights := rest }
  | reserve {r : Runtime} {key target current usage state lease}
      (ok : reserve quotaBytes r.state key target current usage = .ok (state, lease)) :
      Step quotaBytes r (.reserve key target current usage)
        { r with state := state, leases := lease ::ₘ r.leases }
  | noteFileLength {r : Runtime} {key length} :
      Step quotaBytes r (.noteFileLength key length)
        { r with state := RangeCache.noteFileLength r.state key length }
  | dropLease {r : Runtime} {lease rest} (live : r.leases = lease ::ₘ rest) :
      Step quotaBytes r (.dropLease lease)
        { r with state := lease.drop r.state, leases := rest }

abbrev Reaches (quotaBytes : Nat) (labels : List Action) (r : Runtime) : Prop :=
  Transition.Run (Step quotaBytes) Runtime.initial labels r

/-! ## Running a script

The steps of a script, one after the other; `none` when one of them is refused. -/

def takeHandle {Handle : Type} [DecidableEq Handle] (live : Multiset Handle) (handle : Handle) :
    Option (Multiset Handle) :=
  if handle ∈ live then some (live.erase handle) else none

theorem takeHandle_some {Handle : Type} [DecidableEq Handle] {live rest : Multiset Handle}
    {handle : Handle} (h : takeHandle live handle = some rest) : live = handle ::ₘ rest := by
  unfold takeHandle at h
  split at h
  · rename_i hm
    cases h
    exact (Multiset.cons_erase hm).symm
  · cases h

def takePolled (r : Runtime) (sessionId : String) : Option (Multiset RemovalFuture) :=
  (takeHandle r.futures ⟨sessionId, .polling⟩).or (takeHandle r.futures ⟨sessionId, .waiting⟩)

theorem takePolled_some {r : Runtime} {sessionId : String} {rest : Multiset RemovalFuture}
    (h : takePolled r sessionId = some rest) :
    ∃ phase, phase ≠ .created ∧ r.futures = ⟨sessionId, phase⟩ ::ₘ rest := by
  unfold takePolled at h
  cases hpolling : takeHandle r.futures ⟨sessionId, .polling⟩ with
  | some polled =>
    rw [hpolling] at h
    cases h
    exact ⟨.polling, by decide, takeHandle_some hpolling⟩
  | none =>
    rw [hpolling] at h
    exact ⟨.waiting, by decide, takeHandle_some h⟩

def Runtime.perform (quotaBytes : Nat) (r : Runtime) : Action → Option Runtime
  | .enter sessionId priority => do
      let (state, activity) ← (RangeCache.enter r.state sessionId priority).toOption
      some { r with state := state, activities := activity ::ₘ r.activities }
  | .dropActivity activity => do
      let rest ← takeHandle r.activities activity
      some { r with state := activity.drop r.state, activities := rest }
  | .beginPublication sessionId mode => do
      let (state, guard) ← (beginSessionPublication r.state sessionId mode).toOption
      some { r with state := state, publications := guard ::ₘ r.publications }
  | .commitPublication guard => do
      let rest ← takeHandle r.publications guard
      some { r with state := guard.commit r.state, publications := rest }
  | .dropPublication guard => do
      let rest ← takeHandle r.publications guard
      some { r with state := guard.drop r.state, publications := rest }
  | .tryBeginRemoval sessionId => do
      let (state, guard) ← (tryBeginSessionRemoval r.state sessionId).toOption
      let guard ← guard
      some { r with state := state, removals := guard ::ₘ r.removals }
  | .requestRemoval sessionId =>
    some { r with futures := ⟨sessionId, .created⟩ ::ₘ r.futures }
  | .refuseRemoval sessionId => do
      let rest ← takeHandle r.futures ⟨sessionId, .created⟩
      match markSessionRemoval r.state sessionId with
      | .error _ => some { r with futures := rest }
      | .ok _ => none
  | .markRemoval sessionId => do
      let rest ← takeHandle r.futures ⟨sessionId, .created⟩
      let state ← (markSessionRemoval r.state sessionId).toOption
      some { r with state := state, futures := ⟨sessionId, .polling⟩ ::ₘ rest }
  | .suspendRemoval sessionId => do
      let rest ← takePolled r sessionId
      match pollSessionRemoval r.state sessionId with
      | none => some { r with futures := ⟨sessionId, .waiting⟩ ::ₘ rest }
      | some _ => none
  | .grantRemoval sessionId => do
      let rest ← takePolled r sessionId
      let guard ← pollSessionRemoval r.state sessionId
      some { r with futures := rest, removals := guard ::ₘ r.removals }
  | .abandonRemoval future => do
      let rest ← takeHandle r.futures future
      if future.phase = .polling then none else some { r with futures := rest }
  | .commitRemoval guard => do
      let rest ← takeHandle r.removals guard
      some { r with state := guard.commit r.state, removals := rest }
  | .dropRemoval guard => do
      let rest ← takeHandle r.removals guard
      some { r with state := guard.drop r.state, removals := rest }
  | .drain => some { r with state := RangeCache.drain r.state }
  | .claim key priority => do
      let (state, flight) ← (claimChunk r.state key priority r.nextChannel).toOption
      some
        { r with
          state := state
          flights := ⟨flight, priority⟩ ::ₘ r.flights
          nextChannel := r.nextChannel + 1 }
  | .dropFlight flight => do
      let rest ← takeHandle r.flights flight
      some { r with state := flight.handle.drop r.state, flights := rest }
  | .reserve key target current usage => do
      let (state, lease) ← (RangeCache.reserve quotaBytes r.state key target current usage).toOption
      some { r with state := state, leases := lease ::ₘ r.leases }
  | .noteFileLength key length =>
    some { r with state := RangeCache.noteFileLength r.state key length }
  | .dropLease lease => do
      let rest ← takeHandle r.leases lease
      some { r with state := lease.drop r.state, leases := rest }

theorem toOption_eq_some {ε α : Type} {result : Except ε α} {value : α}
    (h : result.toOption = some value) : result = .ok value := by
  cases result with
  | error => cases h
  | ok =>
    cases h
    rfl

theorem Runtime.perform_step {quotaBytes : Nat} {r r' : Runtime} {action : Action}
    (h : r.perform quotaBytes action = some r') : Step quotaBytes r action r' := by
  cases action with
  | enter | beginPublication | claim | reserve =>
    obtain ⟨_, hok, h⟩ := Option.bind_eq_some_iff.1 h
    cases h
    constructor
    exact toOption_eq_some hok
  | dropActivity | commitPublication | dropPublication | commitRemoval | dropRemoval
  | dropFlight | dropLease =>
    obtain ⟨_, hl, h⟩ := Option.bind_eq_some_iff.1 h
    cases h
    constructor
    exact takeHandle_some hl
  | tryBeginRemoval =>
    obtain ⟨⟨_, _⟩, hok, h⟩ := Option.bind_eq_some_iff.1 h
    obtain ⟨_, hguard, h⟩ := Option.bind_eq_some_iff.1 h
    cases h
    cases hguard
    exact Step.tryBeginRemoval (toOption_eq_some hok)
  | requestRemoval | drain | noteFileLength =>
    cases h
    constructor
  | refuseRemoval =>
    obtain ⟨_, hl, h⟩ := Option.bind_eq_some_iff.1 h
    split at h
    · rename_i hrefu
      cases h
      exact Step.refuseRemoval (takeHandle_some hl) hrefu
    · cases h
  | markRemoval =>
    obtain ⟨_, hl, h⟩ := Option.bind_eq_some_iff.1 h
    obtain ⟨_, hok, h⟩ := Option.bind_eq_some_iff.1 h
    cases h
    exact Step.markRemoval (takeHandle_some hl) (toOption_eq_some hok)
  | suspendRemoval =>
    obtain ⟨_, hl, h⟩ := Option.bind_eq_some_iff.1 h
    obtain ⟨_, hpolled, hl⟩ := takePolled_some hl
    split at h
    · rename_i hbusy
      cases h
      exact Step.suspendRemoval hpolled hl hbusy
    · cases h
  | grantRemoval =>
    obtain ⟨_, hl, h⟩ := Option.bind_eq_some_iff.1 h
    obtain ⟨_, hidle, h⟩ := Option.bind_eq_some_iff.1 h
    obtain ⟨_, hpolled, hl⟩ := takePolled_some hl
    cases h
    exact Step.grantRemoval hpolled hl hidle
  | abandonRemoval =>
    obtain ⟨_, hl, h⟩ := Option.bind_eq_some_iff.1 h
    split at h
    · cases h
    · rename_i hsuspended
      cases h
      exact Step.abandonRemoval hsuspended (takeHandle_some hl)

def Runtime.performAll (quotaBytes : Nat) : Runtime → List Action → Option Runtime
  | r, [] => some r
  | r, action :: actions => do (← r.perform quotaBytes action).performAll quotaBytes actions

theorem Runtime.performAll_run {quotaBytes : Nat} {r r' : Runtime} {actions : List Action}
    (h : r.performAll quotaBytes actions = some r') :
    Transition.Run (Step quotaBytes) r actions r' := by
  induction actions generalizing r with
  | nil =>
    cases h
    exact Transition.Run.nil _
  | cons action actions ih =>
    obtain ⟨_, hst, h⟩ := Option.bind_eq_some_iff.1 h
    exact Transition.Run.cons (Runtime.perform_step hst) (ih h)

end NetPlayer.RangeCache
