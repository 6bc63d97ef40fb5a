import Mathlib.Algebra.Order.BigOperators.Group.Finset
import NetPlayer.RangeCache.QuotaFills

/-!
# When the quota holds

The demand of a resource is the larger of the size of its staged and final files
and the largest target reserved for it, beside its prewarmed prefix. As long as
every reservation is granted on measurements that hold of the disk, and every file
grows inside what was reserved for its resource, the demand of all resources stays
within the quota, and so do the bytes on disk.
-/

namespace NetPlayer.RangeCache

open RangeState Finset Finmap Function Reservations ResourceDisk Multiset

variable {cfg : QuotaConfig} {w w' : World} {label : FillAction} {labels : List FillAction}

theorem Reservations.maxOf_cons (entry : Nat × RangeReservation) (rest : Reservations)
    (f : RangeReservation → Nat) :
    Reservations.maxOf (entry :: rest) f = max (f entry.2) (Reservations.maxOf rest f) := rfl

variable {reservations : Reservations}

theorem Reservations.le_maxOf {entry : Nat × RangeReservation} (f : RangeReservation → Nat)
    (hm : entry ∈ reservations) : f entry.2 ≤ reservations.maxOf f := by
  induction reservations with
  | nil => cases hm
  | cons head rest ih =>
    rw [maxOf_cons]
    rcases List.mem_cons.1 hm with rfl | hm
    · exact Nat.le_max_left _ _
    · exact (ih hm).trans (Nat.le_max_right _ _)

variable {bound quotaBytes a b inode total : Nat}

theorem Reservations.maxOf_le {f : RangeReservation → Nat}
    (h : ∀ entry ∈ reservations, f entry.2 ≤ bound) : reservations.maxOf f ≤ bound := by
  induction reservations with
  | nil => exact Nat.zero_le _
  | cons head rest ih =>
    rw [maxOf_cons]
    exact Nat.max_le.2 ⟨h head (by simp), ih fun entry hm => h entry (by simp [hm])⟩

def RangeState.largestTarget (st : RangeState) (key : RangeResourceKey) : Nat :=
  (st.reservationsOf key).maxOf (·.targetLength)

def RangeState.observedLength (st : RangeState) (key : RangeResourceKey) : Nat :=
  (st.reservationsOf key).maxOf (·.currentLength)

variable {st st' : RangeState} {key : RangeResourceKey} {target current usage : Nat}
  {lease : RangeQuotaLease}

theorem reserve_ok (ok : reserve quotaBytes st key target current usage = .ok (st', lease)) :
    (0 < quotaBytes →
      saturatingAdd
        (saturatingAdd usage
          (min (st.reservations.keys.sum (st.additional key current)) u64Max -
            (st.largestTarget key - max current (st.observedLength key))))
        (max target (st.largestTarget key) - max current (st.observedLength key)) ≤ quotaBytes) ∧
    lease = ⟨key, max (wrappingAdd st.nextReservation 1) 1⟩ ∧
    st'.reservations = st.reservations.insert key
      ((st.reservationsOf key).put (max (wrappingAdd st.nextReservation 1) 1)
        ⟨max target (st.largestTarget key), max current (st.observedLength key)⟩) := by
  unfold reserve at ok
  split at ok
  · cases ok
  dsimp only at ok
  split at ok
  · cases ok
  rename_i hquota
  cases ok
  refine ⟨fun hpos => ?_, rfl, rfl⟩
  rw [not_and, Nat.not_lt] at hquota
  exact hquota hpos

theorem RangeState.reservationsOf_of_insert
    (h : st'.reservations = st.reservations.insert key reservations) (other : RangeResourceKey) :
    st'.reservationsOf other = if other = key then reservations else st.reservationsOf other := by
  unfold reservationsOf
  rw [h]
  by_cases hs : other = key
  · subst hs
    simp
  · simp [hs, lookup_insert_of_ne _ hs]

theorem reservationsOf_noteFileLength (st : RangeState) (key : RangeResourceKey) (length : Nat)
    (other : RangeResourceKey) :
    (noteFileLength st key length).reservationsOf other =
      if other = key then
        (st.reservationsOf key).map fun entry =>
          (entry.1, { entry.2 with currentLength := max entry.2.currentLength length })
      else st.reservationsOf other := by
  unfold noteFileLength
  cases hl : st.reservations.lookup key with
  | none =>
    by_cases hs : other = key
    · subst hs
      simp [RangeState.reservationsOf, hl]
    · simp [hs]
  | some reservations =>
    rw [reservationsOf_of_insert rfl]
    simp [RangeState.reservationsOf, hl]

theorem reservationsOf_dropLease (st : RangeState) (lease : RangeQuotaLease)
    (other : RangeResourceKey) :
    (lease.drop st).reservationsOf other =
      if other = lease.key then
        (st.reservationsOf lease.key).filter fun entry => entry.1 ≠ lease.id
      else st.reservationsOf other := by
  unfold RangeQuotaLease.drop finishReservation
  cases hl : st.reservations.lookup lease.key with
  | none =>
    by_cases hs : other = lease.key
    · subst hs
      simp [RangeState.reservationsOf, hl]
    · simp [hs]
  | some reservations =>
    dsimp only
    split
    · rename_i he
      by_cases hs : other = lease.key
      · subst hs
        simpa [RangeState.reservationsOf, hl] using (List.isEmpty_iff.1 he).symm
      · simp [RangeState.reservationsOf, hs, lookup_erase_ne hs]
    · rw [reservationsOf_of_insert rfl]
      simp [RangeState.reservationsOf, hl]

theorem largestTarget_reserve
    (ok : reserve quotaBytes st key target current usage = .ok (st', lease))
    (other : RangeResourceKey) :
    st'.largestTarget other =
      if other = key then max target (st.largestTarget key) else st.largestTarget other := by
  obtain ⟨_, _, hledger⟩ := reserve_ok ok
  unfold RangeState.largestTarget
  rw [reservationsOf_of_insert hledger]
  by_cases hs : other = key
  · simp only [hs, if_true]
    apply le_antisymm
    · refine maxOf_le (fun entry hm => ?_)
      rcases List.mem_cons.1 hm with rfl | hm
      · exact le_rfl
      · exact (le_maxOf _ (List.mem_filter.1 hm).1).trans (Nat.le_max_right _ _)
    · rw [Reservations.put, Reservations.maxOf_cons]
      exact Nat.le_max_left _ _
  · simp only [hs, if_false]

theorem largestTarget_dropLease_le (st : RangeState) (lease : RangeQuotaLease)
    (other : RangeResourceKey) : (lease.drop st).largestTarget other ≤ st.largestTarget other := by
  unfold RangeState.largestTarget
  rw [reservationsOf_dropLease]
  by_cases hs : other = lease.key
  · simp only [hs, if_true]
    exact maxOf_le fun entry hm =>
      le_maxOf _ (List.mem_filter.1 hm).1
  · simp [hs]

/-- The bytes on disk plus what the live leases may still add to them. -/
def World.demand (cfg : QuotaConfig) (w : World) : Nat :=
  cfg.resources.toFinset.sum fun key =>
    max (w.disk key).rangeManagedSize (w.state.largestTarget key) +
      (w.disk key).prewarmedLength.getD 0

theorem World.diskUsage_le_demand (cfg : QuotaConfig) (w : World) :
    w.diskUsage cfg ≤ w.demand cfg :=
  sum_le_sum fun _ _ => Nat.add_le_add_right (Nat.le_max_left _ _) _

theorem World.largestTarget_le_demand (w : World) (hsaved : key ∈ cfg.resources) :
    w.state.largestTarget key ≤ w.demand cfg :=
  ((Nat.le_max_right (w.disk key).rangeManagedSize _).trans (Nat.le_add_right _ _)).trans
    (single_le_sum
      (f := fun key => max (w.disk key).rangeManagedSize (w.state.largestTarget key) +
        (w.disk key).prewarmedLength.getD 0)
      (fun _ _ => Nat.zero_le _) (List.mem_toFinset.2 hsaved))

/-- The bytes on disk and the promises of the live leases, with one more for `key`,
are within the quota. -/
def World.Fits (cfg : QuotaConfig) (w : World) (key : RangeResourceKey) (target : Nat) : Prop :=
  (cfg.resources.toFinset.sum fun resource =>
    max (w.disk resource).rangeManagedSize
        (if resource = key then max target (w.state.largestTarget key)
        else w.state.largestTarget resource) +
      (w.disk resource).prewarmedLength.getD 0) ≤ cfg.quotaBytes

/-- What was measured holds of the disk: usage is not below the bytes on disk, and
neither the measured length nor a noted one is above the files of its resource. It
fails where metadata stood for staged files, and where the files changed since. -/
def World.MeasuredNow (cfg : QuotaConfig) (w : World) (key : RangeResourceKey)
    (usage current : Nat) : Prop :=
  w.diskUsage cfg ≤ usage ∧ current ≤ (w.disk key).rangeManagedSize ∧
    ∀ resource, w.state.observedLength resource ≤ (w.disk resource).rangeManagedSize

theorem RangeState.additional_eq_zero {resource : RangeResourceKey}
    (h : resource ∉ st.reservations.keys) : st.additional key current resource = 0 := by
  have hn : st.reservations.lookup resource = none :=
    lookup_eq_none.2 (mt mem_keys.2 h)
  simp [additional, reservationsOf, hn, Reservations.maxOf]

theorem RangeState.sum_additional_sub {saved : Finset RangeResourceKey} (hk : key ∈ saved)
    (hkeys : st.reservations.keys ⊆ saved) :
    st.reservations.keys.sum (st.additional key current) -
        (st.largestTarget key - max current (st.observedLength key)) =
      (saved.erase key).sum fun resource =>
        st.largestTarget resource - st.observedLength resource := by
  have hall : st.reservations.keys.sum (st.additional key current) =
      saved.sum (st.additional key current) :=
    sum_subset hkeys fun resource _ h => additional_eq_zero h
  have hown : st.additional key current key =
      st.largestTarget key - max current (st.observedLength key) := by
    simp [additional, largestTarget, observedLength]
  rw [hall, ← add_sum_erase saved _ hk, hown, Nat.add_sub_cancel_left]
  refine sum_congr rfl (fun resource hm => ?_)
  have hne : resource ≠ key := ne_of_mem_erase hm
  simp [additional, largestTarget, observedLength, hne]

theorem saturatingAdd_eq_of_lt (h : saturatingAdd a b < u64Max) : saturatingAdd a b = a + b := by
  unfold saturatingAdd at h ⊢
  omega

theorem World.fits_of_measuredNow {state : RangeState} (hconfigured : 0 < cfg.quotaBytes)
    (hbdd : cfg.quotaBytes < u64Max) (hdemand : w.demand cfg ≤ cfg.quotaBytes)
    (hsaved : key ∈ cfg.resources) (hledger : ∀ key ∈ w.state.reservations, key ∈ cfg.resources)
    (granted : reserve cfg.quotaBytes w.state key target current usage = .ok (state, lease))
    (fresh : w.MeasuredNow cfg key usage current) : w.Fits cfg key target := by
  obtain ⟨husage, hcurr, hobserved⟩ := fresh
  have hk : key ∈ cfg.resources.toFinset := List.mem_toFinset.2 hsaved
  have hkeys : w.state.reservations.keys ⊆ cfg.resources.toFinset := fun key hm =>
    List.mem_toFinset.2 (hledger key (mem_keys.1 hm))
  have hproj := (reserve_ok granted).1 hconfigured
  -- The promises are within the quota, so summing them does not saturate.
  have hexisting :
      w.state.reservations.keys.sum (w.state.additional key current) ≤ u64Max := by
    calc w.state.reservations.keys.sum (w.state.additional key current)
        ≤ w.state.reservations.keys.sum fun resource => w.state.largestTarget resource :=
          sum_le_sum fun _ _ => Nat.sub_le _ _
      _ ≤ cfg.resources.toFinset.sum fun resource => w.state.largestTarget resource :=
          sum_le_sum_of_subset hkeys
      _ ≤ w.demand cfg :=
          sum_le_sum fun _ _ => (Nat.le_max_right _ _).trans (Nat.le_add_right _ _)
      _ ≤ u64Max := hdemand.trans hbdd.le
  rw [Nat.min_eq_left hexisting, sum_additional_sub hk hkeys] at hproj
  have hsum := saturatingAdd_eq_of_lt (hproj.trans_lt hbdd)
  have hinner : saturatingAdd usage
      ((cfg.resources.toFinset.erase key).sum fun resource =>
        w.state.largestTarget resource - w.state.observedLength resource) < u64Max := by
    rw [hsum] at hproj
    omega
  rw [hsum, saturatingAdd_eq_of_lt hinner] at hproj
  -- Each resource demands at most its bytes on disk and its additional bytes.
  have hos : ((cfg.resources.toFinset.erase key).sum fun resource =>
        max (w.disk resource).rangeManagedSize
            (if resource = key then max target (w.state.largestTarget key)
            else w.state.largestTarget resource) +
          (w.disk resource).prewarmedLength.getD 0) ≤
      ((cfg.resources.toFinset.erase key).sum fun resource => (w.disk resource).diskSize) +
        ((cfg.resources.toFinset.erase key).sum fun resource =>
          w.state.largestTarget resource - w.state.observedLength resource) := by
    rw [← sum_add_distrib]
    refine sum_le_sum (fun resource hm => ?_)
    rw [if_neg (ne_of_mem_erase hm)]
    have := hobserved resource
    simp only [ResourceDisk.diskSize]
    omega
  have hown := hobserved key
  rw [World.diskUsage, ← add_sum_erase _ _ hk] at husage
  simp only [ResourceDisk.diskSize] at husage hos
  rw [World.Fits, ← add_sum_erase _ _ hk, if_pos rfl]
  omega

/-- What a step must respect for the quota to hold. A reservation is granted on
measurements that still hold, or fits anyway, and its id is not one in use; a file
grows inside the largest target of its resource, or is the only one of it to grow. -/
def RespectsQuota (cfg : QuotaConfig) (w : World) : FillAction → Prop
  | .reserve key kind usage current =>
    (w.MeasuredNow cfg key usage current ∨ w.Fits cfg key (kind.target current)) ∧
      ∀ fill ∈ w.fills,
        fill.lease ≠ some ⟨key, max (wrappingAdd w.state.nextReservation 1) 1⟩
  | .writeSpan key _ length =>
    ({ w.disk key with rangeData := max (w.disk key).rangeData length }).rangeManagedSize ≤
        max (w.disk key).rangeManagedSize (w.state.largestTarget key) ∨
      (w.disk key).fullGetTemp = none ∧ (w.disk key).final = none
  | .append key current inode total =>
    ((w.disk key).extendInode inode total).rangeManagedSize ≤
        max (w.disk key).rangeManagedSize (w.state.largestTarget key) ∨
      (w.disk key).fullGetTemp = some inode ∧ (w.disk key).final = none ∧
        (w.disk key).rangeData ≤ current
  | _ => True

def Fill.claimed (fill : Fill) : Nat :=
  match fill.phase with
  | .measuring _ _ _ => 0
  | .leased _ current _ => fill.kind.target current
  | .writing _ current _ _ => fill.kind.target current
  | .renamed _ _ => 0

def Fill.Backed (st : RangeState) (fill : Fill) : Prop :=
  ∀ lease, fill.lease = some lease →
    lease.key = fill.key ∧
      ∃ entry ∈ st.reservationsOf fill.key,
        entry.1 = lease.id ∧ fill.claimed ≤ entry.2.targetLength

structure World.Sound (cfg : QuotaConfig) (w : World) : Prop where
  demand : w.demand cfg ≤ cfg.quotaBytes
  leases : (w.fills.filterMap Fill.lease).Nodup
  saved : ∀ fill ∈ w.fills, fill.key ∈ cfg.resources
  ledgerSaved : ∀ key ∈ w.state.reservations, key ∈ cfg.resources
  backed : ∀ fill ∈ w.fills, fill.Backed w.state

def RangeState.SameTargets (st st' : RangeState) : Prop :=
  (∀ key ∈ st'.reservations, key ∈ st.reservations) ∧
    ∀ key, (st'.reservationsOf key).map (fun entry => (entry.1, entry.2.targetLength)) =
      (st.reservationsOf key).map fun entry => (entry.1, entry.2.targetLength)

theorem RangeState.sameTargets_of_eq (h : st'.reservations = st.reservations) :
    st.SameTargets st' := by
  unfold SameTargets reservationsOf
  rw [h]
  exact ⟨fun _ hm => hm, fun _ => rfl⟩

theorem RangeState.sameTargets_noteFileLength (st : RangeState) (key : RangeResourceKey)
    (length : Nat) : st.SameTargets (noteFileLength st key length) := by
  constructor
  · intro other hm
    unfold noteFileLength at hm
    cases hl : st.reservations.lookup key with
    | none => simpa [hl] using hm
    | some reservations =>
      simp only [hl, Finmap.mem_insert] at hm
      rcases hm with rfl | hm
      · exact mem_of_lookup_eq_some hl
      · exact hm
  · intro other
    rw [reservationsOf_noteFileLength]
    by_cases hs : other = key
    · simp [hs, comp_def]
    · simp [hs]

theorem Reservations.maxOf_targetLength (reservations : Reservations) :
    reservations.maxOf (·.targetLength) =
      ((reservations.map fun entry => (entry.1, entry.2.targetLength)).map (·.2)).foldr max 0 := by
  simp [maxOf, comp_def]

theorem RangeState.SameTargets.largestTarget (h : st.SameTargets st') (key : RangeResourceKey) :
    st'.largestTarget key = st.largestTarget key := by
  unfold RangeState.largestTarget
  rw [maxOf_targetLength, maxOf_targetLength, h.2]

theorem Fill.Backed.of_sameTargets {fill fill' : Fill} (h : fill.Backed st)
    (same : st.SameTargets st') (hk : fill'.key = fill.key) (hlease : fill'.lease = fill.lease)
    (hclaim : fill'.claimed ≤ fill.claimed) : fill'.Backed st' := by
  intro lease held
  obtain ⟨ho, entry, hm, hid, htarget⟩ := h lease (hlease ▸ held)
  rw [hk]
  refine ⟨ho, ?_⟩
  have hpair : (entry.1, entry.2.targetLength) ∈
      (st'.reservationsOf fill.key).map fun entry => (entry.1, entry.2.targetLength) := by
    rw [same.2]
    exact List.mem_map.2 ⟨entry, hm, rfl⟩
  obtain ⟨entry', hmem', hpair⟩ := List.mem_map.1 hpair
  obtain ⟨hid', htarget'⟩ := Prod.mk.inj hpair
  exact ⟨entry', hmem', hid'.trans hid, by omega⟩

/-- The files of one resource grow inside its demand, and its prefix stays. -/
def ResourceDisk.GrowsWithin (disk disk' : ResourceDisk) (bound : Nat) : Prop :=
  disk'.rangeManagedSize ≤ max disk.rangeManagedSize bound ∧
    disk'.prewarmedLength = disk.prewarmedLength

/-- A step that leaves the leases as they are and grows each resource inside its
demand keeps the invariant. -/
theorem World.Sound.frame (h : w.Sound cfg)
    (hfills : ∀ fill' ∈ w'.fills, ∃ fill ∈ w.fills, fill'.key = fill.key ∧
      fill'.lease = fill.lease ∧ fill'.claimed ≤ fill.claimed)
    (hleases : w'.fills.filterMap Fill.lease = w.fills.filterMap Fill.lease)
    (hledger : w.state.SameTargets w'.state)
    (hdisk : ∀ key, (w.disk key).GrowsWithin (w'.disk key) (w.state.largestTarget key)) :
    w'.Sound cfg := by
  constructor
  · refine (sum_le_sum fun key _ => ?_).trans h.demand
    rw [hledger.largestTarget, (hdisk key).2]
    exact Nat.add_le_add_right (Nat.max_le.2 ⟨(hdisk key).1, Nat.le_max_right _ _⟩) _
  · rw [hleases]
    exact h.leases
  · intro fill' hm
    obtain ⟨fill, hold, hk, _⟩ := hfills fill' hm
    rw [hk]
    exact h.saved fill hold
  · exact fun key hm => h.ledgerSaved key (hledger.1 key hm)
  · intro fill' hm
    obtain ⟨fill, hold, hk, hlease, hclaim⟩ := hfills fill' hm
    exact (h.backed fill hold).of_sameTargets hledger hk hlease hclaim

variable {rest : Multiset Fill}

/-- The frame rule for a step that moves one fill to its next phase. -/
theorem World.Sound.advance {fill fill' : Fill} (h : w.Sound cfg) (live : w.fills = fill ::ₘ rest)
    (hfills : w'.fills = fill' ::ₘ rest) (hk : fill'.key = fill.key)
    (hlease : fill'.lease = fill.lease) (hclaim : fill'.claimed ≤ fill.claimed)
    (hledger : w.state.SameTargets w'.state)
    (hdisk : ∀ key, (w.disk key).GrowsWithin (w'.disk key) (w.state.largestTarget key)) :
    w'.Sound cfg := by
  refine h.frame (fun other hm => ?_) ?_ hledger hdisk
  · rw [hfills] at hm
    rcases Multiset.mem_cons.1 hm with rfl | hm
    · exact ⟨fill, by simp [live], hk, hlease, hclaim⟩
    · exact ⟨other, by simp [live, hm], rfl, rfl, le_rfl⟩
  · rw [live, hfills]
    cases hh : fill.lease with
    | none =>
      rw [filterMap_cons_none _ _ hh,
        filterMap_cons_none _ _ (hlease.trans hh)]
    | some lease =>
      rw [filterMap_cons_some _ _ _ hh,
        filterMap_cons_some _ _ _ (hlease.trans hh)]

variable {disk : ResourceDisk}

theorem World.growsWithin_setDisk (w : World)
    (hdisk : (w.disk key).GrowsWithin disk (w.state.largestTarget key))
    (other : RangeResourceKey) :
    (w.disk other).GrowsWithin ((w.setDisk key disk).disk other)
      (w.state.largestTarget other) := by
  by_cases hs : other = key
  · subst hs
    simpa [setDisk] using hdisk
  · simp [setDisk, hs, GrowsWithin]

theorem World.Sound.claimed_le (h : w.Sound cfg) (fill : Fill) (live : fill ∈ w.fills)
    (held : fill.lease = some lease) :
    fill.claimed ≤ w.state.largestTarget fill.key ∧ fill.claimed ≤ cfg.quotaBytes := by
  obtain ⟨_, entry, hm, _, htarget⟩ := h.backed fill live lease held
  have hlargest : fill.claimed ≤ w.state.largestTarget fill.key :=
    htarget.trans (le_maxOf _ hm)
  exact ⟨hlargest, hlargest.trans ((w.largestTarget_le_demand (h.saved fill live)).trans h.demand)⟩

theorem ResourceDisk.fileLength_truncateInode_le (disk : ResourceDisk) (inode : Nat)
    (name : Option Nat) : (disk.truncateInode inode).fileLength name ≤ disk.fileLength name := by
  cases name with
  | none => exact le_rfl
  | some other =>
    by_cases hs : other = inode
    · simp [fileLength, truncateInode, hs]
    · simp [fileLength, truncateInode, hs]

theorem ResourceDisk.rangeManagedSize_truncateInode_le (disk : ResourceDisk) (inode : Nat) :
    (disk.truncateInode inode).rangeManagedSize ≤ disk.rangeManagedSize := by
  have htemp := disk.fileLength_truncateInode_le inode disk.fullGetTemp
  have hfinal := disk.fileLength_truncateInode_le inode disk.final
  simp only [rangeManagedSize]
  simp only [truncateInode] at htemp hfinal ⊢
  omega

theorem ResourceDisk.rangeManagedSize_openTemp_le (disk : ResourceDisk) :
    disk.openTemp.1.rangeManagedSize ≤ disk.rangeManagedSize := by
  unfold openTemp
  cases htemp : disk.fullGetTemp with
  | some inode => exact disk.rangeManagedSize_truncateInode_le inode
  | none =>
    have hfinal := disk.fileLength_truncateInode_le disk.nextInode disk.final
    simp only [rangeManagedSize, truncateInode, fileLength, htemp, Option.elim] at hfinal ⊢
    simp only [update_self]
    omega

theorem ResourceDisk.rangeManagedSize_extendInode_le
    (htemp : disk.fullGetTemp = some inode) (hfinal : disk.final = none)
    (hdata : disk.rangeData ≤ current) :
    (disk.extendInode inode total).rangeManagedSize ≤
      max disk.rangeManagedSize (current + total) := by
  simp only [rangeManagedSize, extendInode, fileLength, htemp, hfinal, Option.elim,
    update_self]
  omega

theorem World.Sound.start {kind : FillKind} {phase : FillPhase} (h : w.Sound cfg)
    (hsaved : key ∈ cfg.resources) (hn : (Fill.mk key kind phase).lease = none) :
    World.Sound cfg { w with fills := ⟨key, kind, phase⟩ ::ₘ w.fills } := by
  constructor
  · exact h.demand
  · rw [filterMap_cons_none _ _ hn]
    exact h.leases
  · intro fill hm
    rcases Multiset.mem_cons.1 hm with rfl | hm
    · exact hsaved
    · exact h.saved fill hm
  · exact h.ledgerSaved
  · intro fill hm
    rcases Multiset.mem_cons.1 hm with rfl | hm
    · intro lease held
      rw [hn] at held
      cases held
    · exact h.backed fill hm

theorem World.Sound.reserve {kind : FillKind}
    {state : RangeState} (h : w.Sound cfg)
    (live : w.fills = ⟨key, kind, .measuring [] usage current⟩ ::ₘ rest)
    (granted : RangeCache.reserve cfg.quotaBytes w.state key (kind.target current) current usage =
      .ok (state, lease)) (hfit : w.Fits cfg key (kind.target current))
    (hunused : ∀ fill ∈ w.fills,
      fill.lease ≠ some ⟨key, max (wrappingAdd w.state.nextReservation 1) 1⟩) :
    World.Sound cfg
      { w with state := state, fills := ⟨key, kind, .leased lease current none⟩ ::ₘ rest } := by
  obtain ⟨_, hlease, hledger⟩ := reserve_ok granted
  have hold : ∀ fill ∈ rest, fill ∈ w.fills := fun fill hm => by simp [live, hm]
  have hsaved : key ∈ cfg.resources := h.saved ⟨key, kind, .measuring [] usage current⟩
    (by simp [live])
  have hmeasuring : (Fill.mk key kind (.measuring [] usage current)).lease = none := rfl
  have hh : (Fill.mk key kind (.leased lease current none)).lease = some lease := rfl
  have hleases := h.leases
  rw [live, filterMap_cons_none _ _ hmeasuring] at hleases
  constructor
  · refine le_trans (sum_le_sum fun other _ => ?_) hfit
    rw [largestTarget_reserve granted]
  · rw [filterMap_cons_some _ _ _ hh, nodup_cons]
    refine ⟨fun hm => ?_, hleases⟩
    obtain ⟨fill, hfill, hs⟩ := (Multiset.mem_filterMap _ _).1 hm
    exact hunused fill (hold fill hfill) (hs.trans (congrArg some hlease))
  · intro fill hm
    rcases Multiset.mem_cons.1 hm with rfl | hm
    · exact hsaved
    · exact h.saved fill (hold fill hm)
  · intro other hm
    have hm : other ∈ state.reservations := hm
    rw [hledger, Finmap.mem_insert] at hm
    rcases hm with rfl | hm
    · exact hsaved
    · exact h.ledgerSaved other hm
  · intro fill hm
    rcases Multiset.mem_cons.1 hm with rfl | hm
    · intro granted held
      cases held
      refine ⟨by rw [hlease], ⟨lease.id, max (kind.target current) (w.state.largestTarget key),
        max current (w.state.observedLength key)⟩, ?_, rfl, Nat.le_max_left _ _⟩
      · rw [reservationsOf_of_insert hledger, if_pos rfl, hlease]
        exact List.mem_cons_self
    · intro other held
      obtain ⟨hk, entry, he, hid, htarget⟩ := h.backed fill (hold fill hm) other held
      refine ⟨hk, entry, ?_, hid, htarget⟩
      rw [reservationsOf_of_insert hledger]
      by_cases hs : fill.key = key
      · rw [if_pos hs]
        refine List.mem_cons_of_mem _ (List.mem_filter.2 ⟨hs ▸ he, ?_⟩)
        -- The entry of a live lease is not the one replaced: its id is in use.
        have hne : entry.1 ≠ max (wrappingAdd w.state.nextReservation 1) 1 := by
          intro hid'
          apply hunused fill (hold fill hm)
          rw [held, ← hid', hid, ← hs, ← hk]
        simpa using hne
      · rw [if_neg hs]
        exact he

theorem World.Sound.finish {fill : Fill} (h : w.Sound cfg) (live : w.fills = fill ::ₘ rest) :
    World.Sound cfg
      { w with
        state := fill.lease.elim w.state fun lease => lease.drop w.state
        fills := rest } := by
  have hold : ∀ other ∈ rest, other ∈ w.fills := fun other hm => by simp [live, hm]
  cases hh : fill.lease with
  | none =>
    have hleases := h.leases
    rw [live, filterMap_cons_none _ _ hh] at hleases
    exact ⟨h.demand, hleases, fun other hm => h.saved other (hold other hm), h.ledgerSaved,
      fun other hm => h.backed other (hold other hm)⟩
  | some lease =>
    have hleases := h.leases
    rw [live, filterMap_cons_some _ _ _ hh, nodup_cons] at hleases
    constructor
    · refine le_trans (sum_le_sum fun key _ => ?_) h.demand
      have := largestTarget_dropLease_le w.state lease key
      simp only [Option.elim]
      omega
    · exact hleases.2
    · exact fun other hm => h.saved other (hold other hm)
    · intro key hm
      refine h.ledgerSaved key ?_
      simp only [Option.elim, RangeQuotaLease.drop, finishReservation] at hm
      cases hl : w.state.reservations.lookup lease.key with
      | none => simpa [hl] using hm
      | some reservations =>
        simp only [hl] at hm
        split at hm
        · exact (Finmap.mem_erase.1 hm).2
        · rcases (Finmap.mem_insert.1 hm) with rfl | hm
          · exact mem_of_lookup_eq_some hl
          · exact hm
    · intro other hm held ho
      obtain ⟨hk, entry, he, hid, htarget⟩ := h.backed other (hold other hm) held ho
      refine ⟨hk, entry, ?_, hid, htarget⟩
      simp only [Option.elim]
      rw [reservationsOf_dropLease]
      by_cases hs : other.key = lease.key
      · rw [if_pos hs]
        refine List.mem_filter.2 ⟨hs ▸ he, ?_⟩
        have hne : entry.1 ≠ lease.id := by
          intro hid'
          apply hleases.1
          refine (Multiset.mem_filterMap _ _).2 ⟨other, hm, ?_⟩
          rw [ho]
          obtain ⟨heldKey, heldId⟩ := held
          obtain ⟨leaseKey, leaseId⟩ := lease
          simp_all
        simpa using hne
      · rw [if_neg hs]
        exact he

theorem World.Sound.step (hconfigured : 0 < cfg.quotaBytes) (hbdd : cfg.quotaBytes < u64Max)
    (hst : FillStep cfg w label w') (hrespects : RespectsQuota cfg w label)
    (h : w.Sound cfg) : w'.Sound cfg := by
  have hs : w.state.SameTargets w.state := sameTargets_of_eq rfl
  have hk : ∀ key, (w.disk key).GrowsWithin (w.disk key) (w.state.largestTarget key) :=
    fun _ => ⟨Nat.le_max_left _ _, rfl⟩
  cases hst with
  | start saved => exact h.start saved rfl
  | measureUsage live | measureCurrent live | observe live =>
    exact h.advance live rfl rfl rfl le_rfl hs hk
  | @reserve key kind usage current rest state lease live granted =>
    refine h.reserve live granted ?_ hrespects.2
    rcases hrespects.1 with fresh | hfit
    · exact World.fits_of_measuredNow hconfigured hbdd h.demand
        (h.saved ⟨key, kind, .measuring [] usage current⟩ (by simp [live])) h.ledgerSaved
        granted fresh
    · exact hfit
  | @writeSpan key stop lease current observed rest length live within =>
    refine h.advance live live rfl rfl le_rfl hs (w.growsWithin_setDisk ⟨?_, rfl⟩)
    rcases hrespects with hin | ⟨htemp, hfinal⟩
    · exact hin
    have hclaim := (h.claimed_le ⟨key, .span stop, .leased lease current observed⟩
      (by simp [live]) rfl).1
    simp only [ResourceDisk.rangeManagedSize, ResourceDisk.fileLength, htemp, hfinal, Option.elim]
    simp only [Fill.claimed, FillKind.target] at hclaim
    omega
  | noteSpan live | noteFullGet live =>
    exact h.advance live live rfl rfl le_rfl (sameTargets_noteFileLength _ _ _) hk
  | @openTemp key expected lease current observed rest live =>
    refine h.advance live rfl rfl rfl le_rfl hs (w.growsWithin_setDisk ⟨?_, ?_⟩)
    · exact (w.disk key).rangeManagedSize_openTemp_le.trans (Nat.le_max_left _ _)
    · unfold ResourceDisk.openTemp
      split <;> rfl
  | @append key expected lease current inode total total' rest live longer within =>
    refine h.advance live rfl rfl rfl le_rfl hs (w.growsWithin_setDisk ⟨?_, rfl⟩)
    rcases hrespects with hin | ⟨htemp, hfinal, hdata⟩
    · exact hin
    obtain ⟨hlargest, hquota⟩ := h.claimed_le
      ⟨key, .fullGet expected, .writing lease current inode total⟩
      (by simp [live]) rfl
    simp only [Fill.claimed, FillKind.target] at hlargest hquota
    have hexact := saturatingAdd_eq_of_lt (hquota.trans_lt hbdd)
    refine (rangeManagedSize_extendInode_le htemp hfinal hdata).trans ?_
    omega
  | @failCandidate key expected lease current inode total rest live =>
    refine h.advance live rfl rfl rfl le_rfl
      (sameTargets_noteFileLength _ _ _) (w.growsWithin_setDisk ⟨?_, rfl⟩)
    exact ((w.disk key).rangeManagedSize_truncateInode_le inode).trans (Nat.le_max_left _ _)
  | @rename key expected lease current inode temp rest live exists_temp no_final =>
    refine h.advance live rfl rfl rfl (Nat.zero_le _) hs (w.growsWithin_setDisk ⟨?_, rfl⟩)
    simp only [ResourceDisk.rangeManagedSize, ResourceDisk.fileLength, exists_temp, no_final,
      Option.elim]
    omega
  | recordMetadata live =>
    -- The metadata only changes what is measured.
    exact h.advance live live rfl rfl le_rfl hs
      (w.growsWithin_setDisk ⟨Nat.le_max_left _ _, rfl⟩)
  | removeRangeData live | removeTemp live =>
    refine h.advance live live rfl rfl le_rfl hs (w.growsWithin_setDisk ⟨?_, rfl⟩)
    simp only [ResourceDisk.rangeManagedSize, ResourceDisk.fileLength, Option.elim]
    omega
  | finish live => exact h.finish live
  | coordinator ledger counter =>
    exact h.frame (fun fill hm => ⟨fill, hm, rfl, rfl, le_rfl⟩) rfl
      (sameTargets_of_eq ledger) hk

structure World.Fresh (cfg : QuotaConfig) (w : World) : Prop where
  usage : w.diskUsage cfg ≤ cfg.quotaBytes
  ledger : w.state.reservations = ∅
  fills : w.fills = 0

theorem World.Fresh.sound (h : w.Fresh cfg) : w.Sound cfg := by
  have hn : ∀ key, w.state.largestTarget key = 0 := by
    intro key
    simp [RangeState.largestTarget, RangeState.reservationsOf, h.ledger, Reservations.maxOf]
  constructor
  · refine le_trans (sum_le_sum fun key _ => ?_) h.usage
    simp [hn, ResourceDisk.diskSize]
  · simp [h.fills]
  · simp [h.fills]
  · intro key hm
    rw [h.ledger] at hm
    exact (Finmap.notMem_empty hm).elim
  · simp [h.fills]

/-- The runs whose steps respect the quota keep the managed bytes within it. -/
theorem quota_safety (hconfigured : 0 < cfg.quotaBytes) (hbounded : cfg.quotaBytes < u64Max)
    (start : w.Fresh cfg)
    (run : Transition.Run (Transition.Guarded (FillStep cfg) (RespectsQuota cfg)) w labels w') :
    w'.diskUsage cfg ≤ cfg.quotaBytes := by
  have sound : w'.Sound cfg :=
    Transition.Run.invariant (World.Sound cfg) run
      (fun hstep h => h.step hconfigured hbounded hstep.1 hstep.2) start.sound
  exact (w'.diskUsage_le_demand cfg).trans sound.demand

def resourceA : RangeResourceKey := ⟨"s", "a", "rep"⟩

def resourceB : RangeResourceKey := ⟨"s", "b", "rep"⟩

def smallQuota : QuotaConfig := ⟨150, [resourceA, resourceB]⟩

def emptyWorld : World := ⟨RangeState.default, fun _ => ResourceDisk.empty, 0⟩

theorem emptyWorld_fresh : emptyWorld.Fresh smallQuota := ⟨by decide, rfl, rfl⟩

/-- A resource with a prewarmed prefix of 40 bytes. -/
def prewarmedWorld : World :=
  emptyWorld.setDisk resourceB { ResourceDisk.empty with prewarmedLength := some 40 }

theorem prewarmedWorld_fresh : prewarmedWorld.Fresh smallQuota := ⟨by decide, rfl, rfl⟩

/-- A fill beside the prefix: it measures 40 bytes, is granted 100 and writes them. -/
theorem quota_safety_one_fill :
    ∃ w : World, w.diskUsage smallQuota = 140 ∧
      w.diskUsage smallQuota ≤ smallQuota.quotaBytes := by
  have start : Transition.Run (Transition.Guarded (FillStep smallQuota) (RespectsQuota smallQuota))
      prewarmedWorld [] prewarmedWorld := Transition.Run.nil _
  have started := start.snoc ⟨@FillStep.start _ _ resourceB (.span 100) (by decide), trivial⟩
  have measuredA := started.snoc ⟨FillStep.measureUsage (by dsimp only; rfl), trivial⟩
  have measuredB := measuredA.snoc ⟨FillStep.measureUsage (by dsimp only; rfl), trivial⟩
  have measured := measuredB.snoc ⟨FillStep.measureCurrent (by dsimp only; rfl), trivial⟩
  have reserved := measured.snoc ⟨FillStep.reserve (by dsimp only) (by rfl),
    .inl ⟨by decide, by decide, fun _ => Nat.zero_le _⟩, by decide⟩
  have run := reserved.snoc
    ⟨@FillStep.writeSpan _ _ _ _ _ _ _ _ 100 (by dsimp only) (by decide), .inr ⟨rfl, rfl⟩⟩
  exact ⟨_, by decide, quota_safety (by decide) (by decide) prewarmedWorld_fresh run⟩

/-- A fill that reserves on the usage it measured before another fill ran. -/
theorem quota_exceeded :
    ¬ ∀ (cfg : QuotaConfig) (w w' : World) (labels : List FillAction),
      0 < cfg.quotaBytes → w.Fresh cfg → Transition.Run (FillStep cfg) w labels w' →
        w'.diskUsage cfg ≤ cfg.quotaBytes := by
  intro hclaim
  have start : Transition.Run (FillStep smallQuota) emptyWorld [] emptyWorld :=
    Transition.Run.nil _
  have startedA := start.snoc (@FillStep.start _ _ resourceA (.span 100) (by decide))
  have measuredA := ((startedA.snoc (FillStep.measureUsage (by dsimp only; rfl))).snoc
    (FillStep.measureUsage (by dsimp only; rfl))).snoc
    (FillStep.measureCurrent (by dsimp only; rfl))
  have startedB := measuredA.snoc (@FillStep.start _ _ resourceB (.span 100) (by decide))
  have measuredB := ((startedB.snoc (FillStep.measureUsage (by dsimp only; rfl))).snoc
    (FillStep.measureUsage (by dsimp only; rfl))).snoc
    (FillStep.measureCurrent (by dsimp only; rfl))
  have writtenB := (measuredB.snoc (FillStep.reserve (by dsimp only) (by rfl))).snoc
    (@FillStep.writeSpan _ _ _ _ _ _ _ _ 100 (by dsimp only) (by decide))
  have finishedB := writtenB.snoc (FillStep.finish (by dsimp only [World.setDisk]))
  have writtenA := (finishedB.snoc (FillStep.reserve (by dsimp only) (by rfl))).snoc
    (@FillStep.writeSpan _ _ _ _ _ _ _ _ 100 (by dsimp only) (by decide))
  have hkept := hclaim smallQuota _ _ _ (by decide) emptyWorld_fresh writtenA
  revert hkept
  decide

end NetPlayer.RangeCache
