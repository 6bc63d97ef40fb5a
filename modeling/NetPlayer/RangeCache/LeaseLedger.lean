import Mathlib.Algebra.BigOperators.Group.Finset.Piecewise
import NetPlayer.RangeCache.QuotaSafety

/-!
# The ledger and the live leases

The ledger records a reservation for every lease, under the resource and the id of the lease. As
long as no granted reservation takes the id of a lease that is still live, the ledger is the
record of the live leases, and what they may still add fits the quota when one is granted.
-/

namespace NetPlayer.RangeCache

open Transition RangeState List Finset Finmap Function Reservations

structure LeaseWorld where
  state : RangeState
  leases : List (RangeQuotaLease × RangeReservation)

namespace LeaseWorld

def initial : LeaseWorld := ⟨.default, []⟩

def held (w : LeaseWorld) (key : RangeResourceKey) : Reservations :=
  (w.leases.filter fun entry => entry.1.key = key).map fun entry => (entry.1.id, entry.2)

def maxTarget (w : LeaseWorld) (key : RangeResourceKey) : Nat :=
  (w.held key).maxOf (·.targetLength)

def maxCurrent (w : LeaseWorld) (key : RangeResourceKey) : Nat :=
  (w.held key).maxOf (·.currentLength)

def resources (w : LeaseWorld) : Finset RangeResourceKey :=
  (w.leases.map fun entry => entry.1.key).toFinset

def promised (w : LeaseWorld) : Nat :=
  w.resources.sum fun key => w.maxTarget key - w.maxCurrent key

def nextLease (w : LeaseWorld) (key : RangeResourceKey) : RangeQuotaLease :=
  ⟨key, max (wrappingAdd w.state.nextReservation 1) 1⟩

def note (w : LeaseWorld) (key : RangeResourceKey) (fileLength : Nat) : LeaseWorld where
  state := noteFileLength w.state key fileLength
  leases := w.leases.map fun entry =>
    if entry.1.key = key then
      (entry.1, { entry.2 with currentLength := max entry.2.currentLength fileLength })
    else entry

def drop (w : LeaseWorld) (lease : RangeQuotaLease) : LeaseWorld where
  state := lease.drop w.state
  leases := w.leases.eraseP fun entry => entry.1 = lease

def grant (w : LeaseWorld) (state : RangeState) (lease : RangeQuotaLease)
    (target current : Nat) : LeaseWorld where
  state := state
  leases := (lease, ⟨max target (w.maxTarget lease.key), max current (w.maxCurrent lease.key)⟩) ::
    w.leases

end LeaseWorld

inductive LeaseAction
  | reserve (key : RangeResourceKey) (target current usage : Nat)
  | refuse (key : RangeResourceKey) (target current usage : Nat)
  | note (key : RangeResourceKey) (fileLength : Nat)
  | drop (lease : RangeQuotaLease)
  | admission

def LeaseAction.lengths : LeaseAction → Nat
  | .reserve _ target current usage | .refuse _ target current usage => target + current + usage
  | .note _ fileLength => fileLength
  | .drop _ | .admission => 0

/-- The other critical sections, `admission`, leave the ledger and its counter alone. -/
inductive LeaseStep (quotaBytes : Nat) : LeaseWorld → LeaseAction → LeaseWorld → Prop
  | reserve {w : LeaseWorld} {key : RangeResourceKey} {target current usage : Nat}
      {state : RangeState} {lease : RangeQuotaLease}
      (granted : reserve quotaBytes w.state key target current usage = .ok (state, lease)) :
      LeaseStep quotaBytes w (.reserve key target current usage)
        (w.grant state lease target current)
  | refuse {w : LeaseWorld} {key : RangeResourceKey} {target current usage : Nat}
      {error : HlsRangeError}
      (refused : reserve quotaBytes w.state key target current usage = .error error) :
      LeaseStep quotaBytes w (.refuse key target current usage) w
  | note (w : LeaseWorld) (key : RangeResourceKey) (fileLength : Nat) :
      LeaseStep quotaBytes w (.note key fileLength) (w.note key fileLength)
  | drop {w : LeaseWorld} {lease : RangeQuotaLease} (live : lease ∈ w.leases.map Prod.fst) :
      LeaseStep quotaBytes w (.drop lease) (w.drop lease)
  | admission {w : LeaseWorld} {state : RangeState}
      (ledger : state.reservations = w.state.reservations)
      (counter : state.nextReservation = w.state.nextReservation) :
      LeaseStep quotaBytes w .admission { w with state := state }

/-- A granted reservation does not take the id of a lease that is still live. -/
def FreshLease (w : LeaseWorld) : LeaseAction → Prop
  | .reserve key _ _ _ => w.nextLease key ∉ w.leases.map Prod.fst
  | _ => True

structure LeaseWorld.Recorded (w : LeaseWorld) : Prop where
  ledger : ∀ key, w.state.reservationsOf key = w.held key
  unique : (w.leases.map Prod.fst).Nodup
  occupied : ∀ key ∈ w.state.reservations, w.state.reservationsOf key ≠ []

namespace LeaseWorld

variable {w : LeaseWorld}

theorem recorded_initial : initial.Recorded where
  ledger _ := by
    simp [initial, held, reservationsOf, RangeState.default]
  unique := nodup_nil
  occupied key hm := absurd hm (Finmap.notMem_empty)

theorem Recorded.largestTarget (h : w.Recorded) (key : RangeResourceKey) :
    w.state.largestTarget key = w.maxTarget key := by
  unfold RangeState.largestTarget maxTarget
  rw [h.ledger]

theorem Recorded.observedLength (h : w.Recorded) (key : RangeResourceKey) :
    w.state.observedLength key = w.maxCurrent key := by
  unfold RangeState.observedLength maxCurrent
  rw [h.ledger]

variable {key : RangeResourceKey}

theorem mem_resources : key ∈ w.resources ↔ w.held key ≠ [] := by
  unfold resources held
  simp only [mem_toFinset, List.mem_map, ne_eq, map_eq_nil_iff, filter_eq_nil_iff,
    decide_eq_true_eq, not_forall, not_not]
  constructor
  · rintro ⟨entry, hm, hk⟩
    exact ⟨entry, hm, hk⟩
  · rintro ⟨entry, hm, hk⟩
    exact ⟨entry, hm, hk⟩

theorem Recorded.keys (h : w.Recorded) : w.state.reservations.keys = w.resources := by
  ext key
  rw [mem_resources, ← h.ledger, Finmap.mem_keys]
  constructor
  · exact h.occupied key
  · intro hne
    by_contra hmissing
    apply hne
    unfold reservationsOf
    rw [lookup_eq_none.2 hmissing]
    rfl

theorem held_grant (state : RangeState) (lease : RangeQuotaLease) (target current : Nat)
    (key : RangeResourceKey) :
    (w.grant state lease target current).held key =
      if lease.key = key then
        (lease.id, ⟨max target (w.maxTarget lease.key), max current (w.maxCurrent lease.key)⟩) ::
          w.held key else w.held key := by
  unfold held grant
  by_cases hk : lease.key = key
  · simp [hk]
  · simp [hk]

theorem mem_held {entry : Nat × RangeReservation} :
    entry ∈ w.held key ↔ (⟨key, entry.1⟩, entry.2) ∈ w.leases := by
  unfold held
  simp only [List.mem_map, List.mem_filter, decide_eq_true_eq]
  constructor
  · rintro ⟨⟨lease, reservation⟩, ⟨hm, rfl⟩, rfl⟩
    exact hm
  · intro hm
    exact ⟨_, ⟨hm, rfl⟩, rfl⟩

variable {quotaBytes target current usage : Nat} {state : RangeState} {lease : RangeQuotaLease}

theorem Recorded.grant (h : w.Recorded)
    (granted : reserve quotaBytes w.state key target current usage = .ok (state, lease))
    (fresh : w.nextLease key ∉ w.leases.map Prod.fst) :
    (w.grant state lease target current).Recorded := by
  obtain ⟨-, rfl, hledger⟩ := reserve_ok granted
  have hkept : (w.held key).filter (fun entry =>
      entry.1 ≠ max (wrappingAdd w.state.nextReservation 1) 1) = w.held key := by
    rw [List.filter_eq_self]
    intro entry hm
    rw [decide_eq_true_eq]
    intro hid
    apply fresh
    rw [List.mem_map]
    refine ⟨_, mem_held.mp hm, ?_⟩
    rw [hid]
    rfl
  refine ⟨fun other => ?_, ?_, fun other hm => ?_⟩
  · show state.reservationsOf other = _
    rw [reservationsOf_of_insert hledger, held_grant, h.ledger, h.ledger,
      h.largestTarget, h.observedLength, Reservations.put, hkept]
    by_cases hk : other = key
    · subst hk
      simp
    · rw [if_neg hk, if_neg (Ne.symm hk)]
  · exact nodup_cons.mpr ⟨fresh, h.unique⟩
  · show state.reservationsOf other ≠ []
    rw [reservationsOf_of_insert hledger]
    split
    · exact cons_ne_nil _ _
    next hk =>
      apply h.occupied
      have hin : other ∈ state.reservations := hm
      rw [hledger, Finmap.mem_insert] at hin
      exact hin.resolve_left hk

theorem held_note (key : RangeResourceKey) (fileLength : Nat) (other : RangeResourceKey) :
    (w.note key fileLength).held other =
      if other = key then
        (w.held key).map fun entry =>
          (entry.1, { entry.2 with currentLength := max entry.2.currentLength fileLength })
      else w.held other := by
  unfold held note
  have hfilter : w.leases.filter ((fun entry => decide (entry.1.key = other)) ∘ fun entry =>
      if entry.1.key = key then
        (entry.1, { entry.2 with currentLength := max entry.2.currentLength fileLength })
      else entry) = w.leases.filter fun entry => decide (entry.1.key = other) := by
    apply List.filter_congr
    intro entry _
    simp only [comp_apply]
    split <;> rfl
  have he : ∀ entry ∈ w.leases.filter fun entry => decide (entry.1.key = other),
      entry.1.key = other := fun entry hm => by simpa using (List.mem_filter.mp hm).2
  rw [List.filter_map, List.map_map, hfilter]
  by_cases hk : other = key
  · subst hk
    rw [if_pos rfl, List.map_map]
    apply map_congr_left
    intro entry hm
    simp only [comp_apply, if_pos (he entry hm)]
  · rw [if_neg hk]
    apply map_congr_left
    intro entry hm
    simp only [comp_apply, he entry hm, if_neg hk]

theorem fst_note (key : RangeResourceKey) (fileLength : Nat) :
    (w.note key fileLength).leases.map Prod.fst = w.leases.map Prod.fst := by
  unfold note
  rw [List.map_map]
  apply map_congr_left
  intro entry _
  simp only [comp_apply]
  split <;> rfl

theorem Recorded.note (h : w.Recorded) (key : RangeResourceKey) (fileLength : Nat) :
    (w.note key fileLength).Recorded := by
  refine ⟨fun other => ?_, ?_, fun other hm => ?_⟩
  · rw [held_note, ← h.ledger, ← h.ledger]
    exact reservationsOf_noteFileLength w.state key fileLength other
  · rw [fst_note]
    exact h.unique
  · have hledger := reservationsOf_noteFileLength w.state key fileLength other
    have hold : other ∈ w.state.reservations :=
      (sameTargets_noteFileLength w.state key fileLength).1 other hm
    show (noteFileLength w.state key fileLength).reservationsOf other ≠ []
    rw [hledger]
    split
    · next hk =>
        subst hk
        rw [ne_eq, map_eq_nil_iff]
        exact h.occupied other hold
    · exact h.occupied other hold

theorem held_drop (unique : (w.leases.map Prod.fst).Nodup) (lease : RangeQuotaLease)
    (other : RangeResourceKey) :
    (w.drop lease).held other =
      if other = lease.key then (w.held lease.key).filter fun entry => entry.1 ≠ lease.id
      else w.held other := by
  have hleases : (w.drop lease).leases = w.leases.filter fun entry => entry.1 ≠ lease := by
    show w.leases.eraseP (fun entry => entry.1 = lease) = _
    generalize w.leases = leases at unique
    induction leases with
    | nil => rfl
    | cons entry rest ih =>
      rw [List.map_cons, nodup_cons] at unique
      by_cases he : entry.1 = lease
      · have hr : rest.filter (fun entry => decide (entry.1 ≠ lease)) = rest := by
          rw [List.filter_eq_self]
          intro other hm
          rw [decide_eq_true_eq]
          rintro rfl
          exact unique.1 (he ▸ List.mem_map_of_mem hm)
        rw [eraseP_cons_of_pos (by simpa using he),
          List.filter_cons_of_neg (by simpa using he), hr]
      · rw [eraseP_cons_of_neg (by simpa using he),
          List.filter_cons_of_pos (by simpa using he), ih unique.2]
  unfold held
  rw [hleases, List.filter_filter]
  by_cases hk : other = lease.key
  · subst hk
    rw [if_pos rfl, List.filter_map, List.filter_filter]
    congr 1
    apply List.filter_congr
    rintro ⟨⟨key, id⟩, reservation⟩ _
    obtain ⟨leaseKey, leaseId⟩ := lease
    by_cases hs : key = leaseKey
    · simp [hs]
    · simp [hs]
  · rw [if_neg hk]
    congr 1
    apply List.filter_congr
    rintro ⟨⟨key, id⟩, reservation⟩ _
    obtain ⟨leaseKey, leaseId⟩ := lease
    by_cases hs : key = other
    · subst hs
      simp [hk]
    · simp [hs]

theorem Recorded.drop (h : w.Recorded) (lease : RangeQuotaLease) : (w.drop lease).Recorded := by
  refine ⟨fun other => ?_, ?_, fun other hm => ?_⟩
  · rw [held_drop h.unique, ← h.ledger, ← h.ledger]
    exact reservationsOf_dropLease w.state lease other
  · exact h.unique.sublist (eraseP_sublist.map Prod.fst)
  · have hmemb : other ∈ (lease.drop w.state).reservations := hm
    show (lease.drop w.state).reservationsOf other ≠ []
    unfold RangeQuotaLease.drop finishReservation at hmemb ⊢
    cases hl : w.state.reservations.lookup lease.key with
    | none =>
      simp only [hl] at hmemb ⊢
      exact h.occupied other hmemb
    | some reservations =>
      simp only [hl] at hmemb ⊢
      by_cases hr : (reservations.filter fun entry => entry.1 ≠ lease.id).isEmpty = true
      · rw [if_pos hr] at hmemb ⊢
        rw [Finmap.mem_erase] at hmemb
        have hs : reservationsOf
            { w.state with reservations := w.state.reservations.erase lease.key } other =
              w.state.reservationsOf other := by
          unfold reservationsOf
          rw [lookup_erase_ne hmemb.1]
        rw [hs]
        exact h.occupied other hmemb.2
      · rw [if_neg hr] at hmemb ⊢
        rw [reservationsOf_of_insert rfl]
        split
        · rw [List.isEmpty_iff] at hr
          exact hr
        next hk =>
          apply h.occupied
          rw [Finmap.mem_insert] at hmemb
          exact hmemb.resolve_left hk

theorem Recorded.admission (h : w.Recorded) (ledger : state.reservations = w.state.reservations) :
    ({ w with state := state } : LeaseWorld).Recorded := by
  have hs : ∀ key, state.reservationsOf key = w.state.reservationsOf key := by
    intro key
    unfold reservationsOf
    rw [ledger]
  refine ⟨fun key => ?_, h.unique, fun key hm => ?_⟩
  · exact (hs key).trans (h.ledger key)
  · show state.reservationsOf key ≠ []
    rw [hs]
    have hin : key ∈ state.reservations := hm
    rw [ledger] at hin
    exact h.occupied key hin

variable {after : LeaseWorld}

theorem Recorded.step (h : w.Recorded) {action : LeaseAction}
    (hst : LeaseStep quotaBytes w action after) (fresh : FreshLease w action) :
    after.Recorded := by
  cases hst with
  | reserve granted => exact h.grant granted fresh
  | refuse refused => exact h
  | note key fileLength => exact h.note key fileLength
  | drop live => exact h.drop _
  | admission ledger counter => exact h.admission ledger

theorem maxTarget_of_not_mem (h : key ∉ w.resources) : w.maxTarget key = 0 := by
  rw [mem_resources, not_not] at h
  simp [maxTarget, h, maxOf]

theorem maxTarget_grant (state : RangeState) (lease : RangeQuotaLease) (target current : Nat)
    (key : RangeResourceKey) :
    (w.grant state lease target current).maxTarget key =
      if lease.key = key then max target (w.maxTarget key) else w.maxTarget key := by
  unfold maxTarget
  rw [held_grant]
  split
  · next hk =>
      subst hk
      rw [maxOf_cons]
      simp only [maxTarget]
      omega
  · rfl

theorem maxCurrent_grant (state : RangeState) (lease : RangeQuotaLease) (target current : Nat)
    (key : RangeResourceKey) :
    (w.grant state lease target current).maxCurrent key =
      if lease.key = key then max current (w.maxCurrent key) else w.maxCurrent key := by
  unfold maxCurrent
  rw [held_grant]
  split
  · next hk =>
      subst hk
      rw [maxOf_cons]
      simp only [maxCurrent]
      omega
  · rfl

theorem resources_grant (state : RangeState) (lease : RangeQuotaLease) (target current : Nat) :
    (w.grant state lease target current).resources = insert lease.key w.resources := by
  simp [resources, grant]

theorem Recorded.fits (h : w.Recorded) (configured : 0 < quotaBytes)
    (bounded : w.resources.sum w.maxTarget + target + usage < 2 ^ 64)
    (granted : reserve quotaBytes w.state key target current usage = .ok (state, lease)) :
    usage + (w.grant state lease target current).promised ≤ quotaBytes := by
  obtain ⟨hproj, rfl, -⟩ := reserve_ok granted
  have hproj := hproj configured
  have htargets : w.state.reservations.keys.sum (w.state.additional key current) ≤
      w.resources.sum w.maxTarget := by
    rw [h.keys]
    refine Finset.sum_le_sum fun resource _ => ?_
    rw [← h.largestTarget]
    exact Nat.sub_le _ _
  have hmax : (u64Max : Nat) = 2 ^ 64 - 1 := rfl
  have hexisting : w.state.reservations.keys.sum (w.state.additional key current) ≤ u64Max := by
    omega
  have hos : w.state.reservations.keys.sum (w.state.additional key current) -
        (w.state.largestTarget key - max current (w.state.observedLength key)) =
      ((insert key w.state.reservations.keys).erase key).sum fun resource =>
        w.state.largestTarget resource - w.state.observedLength resource :=
    sum_additional_sub (Finset.mem_insert_self key w.state.reservations.keys)
      (Finset.subset_insert key _)
  rw [Nat.min_eq_left hexisting, hos, h.largestTarget, h.observedLength, h.keys] at hproj
  -- The other resources promise the same before and after.
  have hs : (((insert key w.resources).erase key).sum fun resource =>
        w.state.largestTarget resource - w.state.observedLength resource) =
      ((insert key w.resources).erase key).sum fun resource =>
        w.maxTarget resource - w.maxCurrent resource :=
    sum_congr rfl fun resource _ => by rw [h.largestTarget, h.observedLength]
  rw [hs] at hproj
  have htot : w.maxTarget key + ((insert key w.resources).erase key).sum w.maxTarget =
      w.resources.sum w.maxTarget := by
    rw [add_sum_erase _ _ (Finset.mem_insert_self key w.resources)]
    exact sum_insert_of_eq_zero_if_notMem maxTarget_of_not_mem
  have hothersBound : (((insert key w.resources).erase key).sum fun resource =>
        w.maxTarget resource - w.maxCurrent resource) ≤
      ((insert key w.resources).erase key).sum w.maxTarget :=
    Finset.sum_le_sum fun _ _ => Nat.sub_le _ _
  unfold saturatingAdd at hproj
  have ha : (w.grant state ⟨key, max (wrappingAdd w.state.nextReservation 1) 1⟩ target
        current).promised =
      (max target (w.maxTarget key) - max current (w.maxCurrent key)) +
        ((insert key w.resources).erase key).sum fun resource =>
          w.maxTarget resource - w.maxCurrent resource := by
    unfold promised
    rw [resources_grant, ← add_sum_erase _ _ (Finset.mem_insert_self key w.resources),
      maxTarget_grant, maxCurrent_grant, if_pos rfl, if_pos rfl]
    congr 1
    refine sum_congr rfl fun resource hm => ?_
    have hne : key ≠ resource := Ne.symm (ne_of_mem_erase hm)
    rw [maxTarget_grant, maxCurrent_grant, if_neg hne, if_neg hne]
  rw [ha]
  omega

theorem sum_maxTarget_le (h : ∀ resource, after.maxTarget resource ≤
      w.maxTarget resource + if resource = key then target else 0) :
    after.resources.sum after.maxTarget ≤ w.resources.sum w.maxTarget + target := by
  calc after.resources.sum after.maxTarget
      ≤ (insert key (after.resources ∪ w.resources)).sum after.maxTarget :=
        sum_le_sum_of_subset
          ((subset_union_left).trans (Finset.subset_insert _ _))
    _ ≤ (insert key (after.resources ∪ w.resources)).sum fun resource =>
          w.maxTarget resource + if resource = key then target else 0 :=
        Finset.sum_le_sum fun resource _ => h resource
    _ = (insert key (after.resources ∪ w.resources)).sum w.maxTarget + target := by
        rw [sum_add_distrib, sum_ite_eq', if_pos (Finset.mem_insert_self _ _)]
    _ = w.resources.sum w.maxTarget + target := by
        congr 1
        refine (sum_subset ?_ fun resource _ hmissing => ?_).symm
        · exact (subset_union_right).trans (Finset.subset_insert _ _)
        · exact maxTarget_of_not_mem hmissing

theorem maxTarget_note (key : RangeResourceKey) (fileLength : Nat) (other : RangeResourceKey) :
    (w.note key fileLength).maxTarget other = w.maxTarget other := by
  unfold maxTarget
  rw [held_note]
  split
  · next hk =>
      subst hk
      unfold maxOf
      rw [List.map_map]
      rfl
  · rfl

theorem maxTarget_drop_le (unique : (w.leases.map Prod.fst).Nodup) (lease : RangeQuotaLease)
    (other : RangeResourceKey) : (w.drop lease).maxTarget other ≤ w.maxTarget other := by
  unfold maxTarget
  rw [held_drop unique]
  split
  · next hk =>
      subst hk
      exact maxOf_le fun entry hm =>
        le_maxOf _ (List.mem_filter.1 hm).1
  · exact le_rfl

theorem Recorded.sum_step (h : w.Recorded) {action : LeaseAction}
    (hst : LeaseStep quotaBytes w action after) :
    after.resources.sum after.maxTarget ≤ w.resources.sum w.maxTarget + action.lengths := by
  cases hst with
  | @reserve key target current usage state lease granted =>
    obtain ⟨-, rfl, -⟩ := reserve_ok granted
    have htargets : ∀ resource, (w.grant state ⟨key,
        max (wrappingAdd w.state.nextReservation 1) 1⟩ target current).maxTarget resource ≤
        w.maxTarget resource + if resource = key then target else 0 := by
      intro resource
      rw [maxTarget_grant]
      by_cases hk : key = resource
      · subst hk
        simp only [if_true]
        omega
      · rw [if_neg hk, if_neg (Ne.symm hk)]
        exact le_rfl
    refine (sum_maxTarget_le htargets).trans ?_
    simp only [LeaseAction.lengths]
    omega
  | refuse refused | admission ledger counter => exact Nat.le_add_right _ _
  | note key fileLength =>
    have htargets : ∀ resource, (w.note key fileLength).maxTarget resource ≤
        w.maxTarget resource + if resource = key then fileLength else 0 := by
      intro resource
      rw [maxTarget_note]
      exact Nat.le_add_right _ _
    exact sum_maxTarget_le htargets
  | @drop lease live =>
    have htargets : ∀ resource, (w.drop lease).maxTarget resource ≤
        w.maxTarget resource + if resource = lease.key then 0 else 0 :=
      fun resource =>
        (maxTarget_drop_le h.unique lease resource).trans (Nat.le_add_right _ _)
    exact sum_maxTarget_le htargets

theorem recorded_of_run {actions : List LeaseAction}
    (run : Run (Guarded (LeaseStep quotaBytes) FreshLease) initial actions w) :
    w.Recorded ∧ w.resources.sum w.maxTarget ≤ (actions.map LeaseAction.lengths).sum := by
  refine run.invariant_history
    (fun actions w => w.Recorded ∧
      w.resources.sum w.maxTarget ≤ (actions.map LeaseAction.lengths).sum) ?_ ?_
  · rintro a b action past ⟨hst, fresh⟩ ⟨hrecd, hsum⟩
    refine ⟨hrecd.step hst fresh, ?_⟩
    rw [map_append, sum_append]
    exact (hrecd.sum_step hst).trans (by simpa using hsum)
  · exact ⟨recorded_initial, le_rfl⟩

/-- In a run that hands over lengths below 2^64 in all, and no id of a lease that is still live
again: a granted reservation leaves no more promised than the quota has room for, a refused one
leaves the ledger alone, and without leases the ledger is empty. -/
theorem lease_accounting {quotaBytes : Nat} {actions : List LeaseAction}
    (configured : 0 < quotaBytes)
    (run : Run (Guarded (LeaseStep quotaBytes) FreshLease) initial actions w) :
    (∀ key target current usage after,
      LeaseStep quotaBytes w (.reserve key target current usage) after →
      ((actions ++ [LeaseAction.reserve key target current usage]).map
        LeaseAction.lengths).sum < 2 ^ 64 →
        usage + after.promised ≤ quotaBytes) ∧
    (∀ key target current usage after,
      LeaseStep quotaBytes w (.refuse key target current usage) after →
        after.state.reservations = w.state.reservations) ∧
    (w.leases = [] → w.state.reservations = ∅) := by
  obtain ⟨hrecorded, hsum⟩ := recorded_of_run run
  refine ⟨?_, ?_, ?_⟩
  · intro key target current usage after hstep hlengths
    rw [map_append, sum_append] at hlengths
    simp only [List.map_cons, map_nil, List.sum_cons, sum_nil,
      LeaseAction.lengths] at hlengths
    cases hstep with
    | reserve granted => exact hrecorded.fits configured (by omega) granted
  · intro key target current usage after hstep
    cases hstep with
    | refuse refused => rfl
  · intro hempty
    apply ext_lookup
    intro key
    rw [lookup_empty, lookup_eq_none]
    intro hmem
    apply hrecorded.occupied key hmem
    rw [hrecorded.ledger]
    simp [held, hempty]

def reservedState (st : RangeState) (key : RangeResourceKey) (target current : Nat) : RangeState :=
  { st with
    nextReservation := max (wrappingAdd st.nextReservation 1) 1
    reservations := st.reservations.insert key
      ((st.reservationsOf key).put (max (wrappingAdd st.nextReservation 1) 1)
        ⟨max target (st.largestTarget key), max current (st.observedLength key)⟩) }

theorem reserve_of_fits {st : RangeState} (hopen : st.closed key.sessionId = false)
    (hfits : usage + st.reservations.keys.sum (st.additional key current) + target ≤ quotaBytes) :
    reserve quotaBytes st key target current usage =
      .ok (reservedState st key target current,
        ⟨key, max (wrappingAdd st.nextReservation 1) 1⟩) := by
  have hown : st.largestTarget key - max current (st.observedLength key) ≤
      st.reservations.keys.sum (st.additional key current) := by
    have hadditional : st.additional key current key =
        st.largestTarget key - max current (st.observedLength key) := by
      simp [additional, RangeState.largestTarget, RangeState.observedLength]
    rw [← hadditional]
    by_cases hk : key ∈ st.reservations.keys
    · exact Finset.single_le_sum (fun _ _ => Nat.zero_le _) hk
    · rw [additional_eq_zero hk]
      exact Nat.zero_le _
  unfold RangeState.largestTarget RangeState.observedLength at hown
  unfold reserve
  rw [hopen, if_neg Bool.false_ne_true]
  rw [if_neg]
  · rfl
  · rw [not_and, Nat.not_lt]
    intro _
    unfold saturatingAdd
    omega

def counted (w : LeaseWorld) (count : Nat) : LeaseWorld :=
  { w with state := { w.state with nextReservation := count } }

section

variable (hopen : w.state.closed key.sessionId = false)
  (hnone : w.state.reservations.lookup key = none)
  (hfits : w.state.reservations.keys.sum (w.state.additional key 0) ≤ quotaBytes)
include hopen hnone hfits

/-- A lease that is dropped at once leaves the ledger as it was, and the counter one further. -/
theorem run_reserve_drop
    (hcounter : w.state.nextReservation + 1 < 2 ^ 64) :
    Run (LeaseStep quotaBytes) w [.reserve key 0 0 0, .drop (w.nextLease key)]
      (w.counted (w.state.nextReservation + 1)) := by
  have hgranted := reserve_of_fits hopen
    (show 0 + w.state.reservations.keys.sum (w.state.additional key 0) + 0 ≤ quotaBytes by omega)
  have hid : max (wrappingAdd w.state.nextReservation 1) 1 = w.state.nextReservation + 1 := by
    unfold wrappingAdd
    omega
  have hh : w.state.reservationsOf key = [] := by
    unfold reservationsOf
    rw [hnone]
    rfl
  have hfst := LeaseStep.reserve hgranted
  have hl : w.nextLease key ∈ (w.grant (reservedState w.state key 0 0) (w.nextLease key)
      0 0).leases.map Prod.fst := List.mem_cons_self
  have hsnd : LeaseStep quotaBytes _ _ _ := LeaseStep.drop hl
  have hs : (w.nextLease key).drop (reservedState w.state key 0 0) =
      (w.counted (w.state.nextReservation + 1)).state := by
    have herased : (w.state.reservations.insert key
        ((w.state.reservationsOf key).put (max (wrappingAdd w.state.nextReservation 1) 1)
          ⟨max 0 (w.state.largestTarget key), max 0 (w.state.observedLength key)⟩)).erase key =
        w.state.reservations := by
      apply ext_lookup
      intro other
      by_cases hk : other = key
      · subst hk
        rw [lookup_erase, hnone]
      · rw [lookup_erase_ne hk, lookup_insert_of_ne _ hk]
    unfold RangeQuotaLease.drop finishReservation reservedState nextLease counted
    simp only [lookup_insert, hh, Reservations.put, filter_nil] at herased ⊢
    rw [if_pos (by simp), herased, hid]
  have ha : (w.grant (reservedState w.state key 0 0) (w.nextLease key) 0 0).drop
      (w.nextLease key) = w.counted (w.state.nextReservation + 1) := by
    have hleases : ((w.grant (reservedState w.state key 0 0) (w.nextLease key) 0 0).drop
        (w.nextLease key)).leases = w.leases := by
      simp [drop, grant]
    rw [LeaseWorld.mk.injEq]
    exact ⟨hs, hleases⟩
  rw [← ha]
  exact Run.cons hfst (Run.single hsnd)

theorem run_spin (n : Nat)
    (hcounter : w.state.nextReservation + n < 2 ^ 64) :
    ∃ actions, Run (LeaseStep quotaBytes) w actions (w.counted (w.state.nextReservation + n)) ∧
      (actions.map LeaseAction.lengths).sum = 0 := by
  induction n with
  | zero => exact ⟨[], Run.nil _, rfl⟩
  | succ n ih =>
    obtain ⟨actions, hrun, hlens⟩ := ih (by omega)
    have hn : Run (LeaseStep quotaBytes) (w.counted (w.state.nextReservation + n)) _ _ :=
      run_reserve_drop hopen hnone hfits hcounter
    refine ⟨_, hrun.append hn, ?_⟩
    rw [map_append, sum_append, hlens]
    rfl

end

def firstResource : RangeResourceKey := ⟨"session", "first", "video"⟩
def secondResource : RangeResourceKey := ⟨"session", "second", "video"⟩

def leased : LeaseWorld :=
  initial.grant (reservedState .default firstResource 5 0) ⟨firstResource, 1⟩ 5 0

theorem run_leased : Run (Guarded (LeaseStep 10) FreshLease) initial
    [.reserve firstResource 5 0 0] leased := by
  have hgranted : reserve 10 RangeState.default firstResource 5 0 0 =
      .ok (reservedState .default firstResource 5 0, ⟨firstResource, 1⟩) :=
    reserve_of_fits rfl (by decide)
  exact Run.single ⟨LeaseStep.reserve hgranted, not_mem_nil⟩

theorem leased_lookup : leased.state.reservations.lookup secondResource = none := by
  decide

def leasedTwice : LeaseWorld :=
  (leased.counted (2 ^ 64 - 1)).grant
    (reservedState (leased.counted (2 ^ 64 - 1)).state firstResource 0 0) ⟨firstResource, 1⟩ 0 0

/-- One of the two is dropped, and the ledger forgets both. -/
def leasedForgotten : LeaseWorld :=
  leasedTwice.drop ⟨firstResource, 1⟩

theorem forgotten_reservations (key : RangeResourceKey) :
    leasedForgotten.state.reservationsOf key = [] := by
  show (RangeQuotaLease.drop leasedTwice.state ⟨firstResource, 1⟩).reservationsOf key = []
  rw [reservationsOf_dropLease]
  split
  · decide
  next hk =>
    have hagain : leasedTwice.state.reservationsOf key =
        if key = firstResource then _
        else (leased.counted (2 ^ 64 - 1)).state.reservationsOf key :=
      reservationsOf_of_insert rfl key
    have hfst : (leased.counted (2 ^ 64 - 1)).state.reservationsOf key =
        if key = firstResource then _ else RangeState.default.reservationsOf key :=
      reservationsOf_of_insert rfl key
    rw [hagain, if_neg hk, hfst, if_neg hk]
    simp [reservationsOf, RangeState.default]

/-- With the counter before zero again, the first lease is granted a second time, dropped once and
forgotten, so another one is granted that does not fit beside it. -/
theorem reused_lease_forgotten :
    ∃ (actions : List LeaseAction) (w after : LeaseWorld),
      Run (LeaseStep 10) initial actions w ∧
      ((actions ++ [LeaseAction.reserve secondResource 10 0 0]).map
        LeaseAction.lengths).sum < 2 ^ 64 ∧
      LeaseStep 10 w (.reserve secondResource 10 0 0) after ∧ 10 < 0 + after.promised := by
  have hsecond : leased.state.reservations.keys.sum
      (leased.state.additional secondResource 0) ≤ 10 := by
    decide +kernel
  obtain ⟨spun, hspun, hlengths⟩ :=
    run_spin rfl leased_lookup hsecond (2 ^ 64 - 2) (by decide)
  have hagain : LeaseStep 10 (leased.counted (2 ^ 64 - 1)) (.reserve firstResource 0 0 0)
      leasedTwice := by
    have hfits : 0 + leased.state.reservations.keys.sum
        (leased.state.additional firstResource 0) + 0 ≤ 10 := by
      decide +kernel
    exact LeaseStep.reserve (reserve_of_fits rfl hfits)
  have hdrop : LeaseStep 10 leasedTwice (.drop ⟨firstResource, 1⟩) leasedForgotten :=
    LeaseStep.drop (by decide)
  have hlast : LeaseStep 10 leasedForgotten (.reserve secondResource 10 0 0)
      (leasedForgotten.grant (reservedState leasedForgotten.state secondResource 10 0)
        (leasedForgotten.nextLease secondResource) 10 0) := by
    have hnothing : leasedForgotten.state.reservations.keys.sum
        (leasedForgotten.state.additional secondResource 0) = 0 := by
      refine Finset.sum_eq_zero fun resource _ => ?_
      simp [additional, forgotten_reservations, maxOf]
    exact LeaseStep.reserve (reserve_of_fits rfl (by rw [hnothing]))
  refine ⟨_, leasedForgotten, _,
    (((run_leased.of_guarded).append hspun).append (Run.single hagain)).append (Run.single hdrop),
    ?_, hlast, by decide⟩
  simp only [map_append, sum_append, hlengths]
  decide

def overlapped : LeaseWorld :=
  leased.grant (reservedState leased.state firstResource 8 0) ⟨firstResource, 2⟩ 8 0

/-- Of two leases on one resource the smaller one is dropped, once a length is noted for both. -/
def released : LeaseWorld := (overlapped.note firstResource 3).drop ⟨firstResource, 1⟩

theorem run_released : Run (Guarded (LeaseStep 20) FreshLease) initial
    [.reserve firstResource 5 0 0, .reserve firstResource 8 0 0, .note firstResource 3,
      .drop ⟨firstResource, 1⟩] released := by
  have hfst : LeaseStep 20 initial (.reserve firstResource 5 0 0) leased :=
    LeaseStep.reserve (reserve_of_fits rfl (by decide))
  have hsnd : LeaseStep 20 leased (.reserve firstResource 8 0 0) overlapped :=
    LeaseStep.reserve (reserve_of_fits rfl (by decide +kernel))
  have hfr : leased.nextLease firstResource ∉ leased.leases.map Prod.fst := by decide
  have hnote : LeaseStep 20 overlapped (.note firstResource 3) _ := LeaseStep.note _ _ _
  have hdrop : LeaseStep 20 (overlapped.note firstResource 3) (.drop ⟨firstResource, 1⟩)
      released :=
    LeaseStep.drop (by decide)
  exact (((Run.single ⟨hfst, not_mem_nil⟩).snoc ⟨hsnd, hfr⟩).snoc
    ⟨hnote, trivial⟩).snoc ⟨hdrop, trivial⟩

/-- The lease that is left and one on another resource fit beside the three bytes in use. -/
theorem lease_accounting_leased : ∃ after,
    LeaseStep 20 released (.reserve secondResource 10 0 3) after ∧ 3 + after.promised ≤ 20 ∧
      after.promised = 15 := by
  have hlast : LeaseStep 20 released (.reserve secondResource 10 0 3) _ :=
    LeaseStep.reserve (reserve_of_fits rfl (by decide +kernel))
  have haccounts := (lease_accounting (by decide : 0 < 20) run_released).1 secondResource 10 0 3
    _ hlast (by decide)
  exact ⟨_, hlast, haccounts, by decide +kernel⟩

end LeaseWorld

end NetPlayer.RangeCache
