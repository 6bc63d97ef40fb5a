import NetPlayer.Paging.ResolutionRuns
import NetPlayer.Paging.TaskResults

/-!
# Runs of the task result pages

A ledger records what was handed in, given out and drawn. Every operation keeps the store in
step with it: each lease that was handed in is with one live snapshot or was given back, once.
-/

namespace NetPlayer.Paging

open PagedSnapshots Transition Function List Finset Option BilibiliResolutionStore AList

structure Ledger where
  handed : List TaskOutputSnapshot
  released : List String
  ids : List String
  tokens : List String
  registrations : List String

def Ledger.empty : Ledger := ⟨[], [], [], [], []⟩

def Ledger.leases (l : Ledger) : List String := l.handed.map (·.resourceLeaseId)

def Ledger.release (l : Ledger) (leases : List String) : Ledger :=
  { l with released := l.released ++ leases }

/-- Nothing was forgotten that a live snapshot may stem from. -/
structure Ledger.Le (l m : Ledger) : Prop where
  handed : l.handed ⊆ m.handed
  ids : l.ids ⊆ m.ids
  tokens : l.tokens ⊆ m.tokens
  registrations : l.registrations ⊆ m.registrations

/-- Nothing is drawn or leased twice, and no drawn id is one of the registry's. -/
structure Ledger.Fresh (l : Ledger) : Prop where
  leases : l.leases.Nodup
  ids : l.ids.Nodup
  tokens : l.tokens.Nodup
  registrations : l.registrations.Nodup
  apart : ∀ id ∈ l.ids, ∀ handed ∈ l.handed, handed.snapshotId ≠ id

def Ledger.SameContents (l : Ledger) : Prop :=
  ∀ first ∈ l.handed, ∀ second ∈ l.handed, first.taskId = second.taskId →
    first.revision = second.revision → first.snapshotId = second.snapshotId →
      first.output = second.output ∧ first.encodedBytes = second.encodedBytes

theorem Ledger.Le.refl (l : Ledger) : l.Le l :=
  ⟨List.Subset.refl _, List.Subset.refl _, List.Subset.refl _, List.Subset.refl _⟩

theorem Ledger.Le.trans {l m n : Ledger} (first : l.Le m) (second : m.Le n) : l.Le n where
  handed := List.Subset.trans first.handed second.handed
  ids := List.Subset.trans first.ids second.ids
  tokens := List.Subset.trans first.tokens second.tokens
  registrations := List.Subset.trans first.registrations second.registrations

theorem Ledger.Fresh.release {l : Ledger} (h : l.Fresh) (leases : List String) :
    (l.release leases).Fresh :=
  { h with }

theorem Ledger.le_release (l : Ledger) (leases : List String) : l.Le (l.release leases) :=
  ⟨List.Subset.refl _, List.Subset.refl _, List.Subset.refl _, List.Subset.refl _⟩

@[simp] theorem Ledger.release_nil (l : Ledger) : l.release [] = l := by
  simp [Ledger.release]

@[simp] theorem Ledger.release_release (l : Ledger) (first second : List String) :
    (l.release first).release second = l.release (first ++ second) := by
  simp [Ledger.release]

def Ledger.register (l : Ledger) (registration : String) : Ledger :=
  { l with registrations := l.registrations ++ [registration] }

theorem Ledger.le_register (l : Ledger) (registration : String) : l.Le (l.register registration) :=
  ⟨List.Subset.refl _, List.Subset.refl _, List.Subset.refl _, subset_append_left _ _⟩

def Ledger.draw (l : Ledger) (token : String) : Ledger := { l with tokens := l.tokens ++ [token] }

theorem Ledger.le_draw (l : Ledger) (token : String) : l.Le (l.draw token) :=
  ⟨List.Subset.refl _, List.Subset.refl _, subset_append_left _ _, List.Subset.refl _⟩

def Ledger.hand (l : Ledger) (snapshot : TaskOutputSnapshot) (id : String) : Ledger :=
  { l with handed := l.handed ++ [snapshot], ids := l.ids ++ [id] }

theorem Ledger.le_hand (l : Ledger) (snapshot : TaskOutputSnapshot) (id : String) :
    l.Le (l.hand snapshot id) :=
  ⟨subset_append_left _ _, subset_append_left _ _, List.Subset.refl _,
    List.Subset.refl _⟩

def Ledger.call (l : Ledger) (snapshot : TaskOutputSnapshot)
    (draws : TaskResultPageStore.FirstPageDraws) : Ledger :=
  ((l.hand snapshot (taskResultPageIdOf draws.snapshot)).register
    (registrationIdOf draws.registration)).draw (taskResultTokenOf draws.token)

def TaskResultPageSnapshot.pages (snapshot : TaskResultPageSnapshot) : Pages String :=
  ⟨snapshot.output.results.length, snapshot.tokensByOffset⟩

structure StemsFrom (handed : TaskOutputSnapshot) (snapshot : TaskResultPageSnapshot) : Prop where
  taskId : snapshot.taskId = handed.taskId
  revision : snapshot.revision = handed.revision
  output : snapshot.output = handed.output
  encodedBytes : snapshot.encodedBytes = handed.encodedBytes

structure Kept (l : Ledger) (id : String) (snapshot : TaskResultPageSnapshot) : Prop where
  snapshotId : snapshot.snapshotId = id
  artifactCount : snapshot.artifactCount = resultArtifacts snapshot.output.results
  registrations : ∀ registration ∈ snapshot.pendingFirstPageRegistrations,
    registration ∈ l.registrations
  origin : ∃ handed ∈ l.handed, StemsFrom handed snapshot ∧
    (id = handed.snapshotId ∨ id ∈ l.ids)

theorem Kept.mono {l m : Ledger} {id : String} {snapshot : TaskResultPageSnapshot}
    (h : Kept l id snapshot) (hle : l.Le m) : Kept m id snapshot where
  snapshotId := h.snapshotId
  artifactCount := h.artifactCount
  registrations := fun registration hm => hle.registrations (h.registrations registration hm)
  origin := by
    obtain ⟨handed, hm, hstems, hid⟩ := h.origin
    exact ⟨handed, hle.handed hm, hstems, hid.imp_right fun hid => hle.ids hid⟩

namespace TaskResultPageStore

def shelf (s : TaskResultPageStore) : Shelf String String TaskResultPageSnapshot where
  live := s.snapshotsById
  order := s.snapshotOrder
  cursors token := (s.cursorsByToken token).map fun cursor => ⟨cursor.snapshotId, cursor.offset⟩

def leases (s : TaskResultPageStore) : List String :=
  (values s.snapshotsById).map (·.resourceLeaseId)

structure WithinLimits (s : TaskResultPageStore) : Prop where
  snapshots : s.snapshotsById.entries.length ≤ maxTaskResultPageSnapshots
  artifacts : total (·.artifactCount) s.snapshotsById ≤ maxTaskResultPageSnapshotArtifacts
  results : total (·.output.results.length) s.snapshotsById ≤ maxTaskResultPageSnapshotResults
  bytes : total (·.encodedBytes) s.snapshotsById ≤ maxTaskResultPageSnapshotBytes

/-- The store is in step with the ledger. `waiting` is a snapshot whose first registration is
still to come. -/
structure Tracked (l : Ledger) (waiting : Option String) (s : TaskResultPageStore) : Prop where
  coherent : s.shelf.Coherent TaskResultPageSnapshot.pages
  kept : ∀ id snapshot, s.snapshotsById.lookup id = some snapshot → Kept l id snapshot
  cursorTask : ∀ token cursor snapshot, s.cursorsByToken token = some cursor →
    s.snapshotsById.lookup cursor.snapshotId = some snapshot → cursor.taskId = snapshot.taskId
  cursorDrawn : ∀ token cursor, s.cursorsByToken token = some cursor → token ∈ l.tokens
  registered : ∀ id snapshot, s.snapshotsById.lookup id = some snapshot → waiting ≠ some id →
    snapshot.published = false → snapshot.pendingFirstPageRegistrations.Nonempty
  limits : s.WithinLimits
  leases : (s.leases ++ l.released).Perm l.leases

variable {s t u : TaskResultPageStore} {l m : Ledger} {waiting : Option String} {id : String}
  {snapshot old : TaskResultPageSnapshot}

theorem tracked_default : Tracked .empty none .default where
  coherent := Shelf.coherent_empty
  kept := by simp [TaskResultPageStore.default]
  cursorTask := by simp [TaskResultPageStore.default]
  cursorDrawn := by simp [TaskResultPageStore.default]
  registered := by simp [TaskResultPageStore.default]
  limits := ⟨by decide, by decide, by decide, by decide⟩
  leases := List.Perm.refl _

theorem erase_of_absent (h : s.snapshotsById.lookup id = none) :
    s.snapshotsById.erase id = s.snapshotsById := by
  have hk : id ∉ s.snapshotsById.keys := lookup_eq_none.mp h
  apply AList.ext
  exact kerase_of_notMem_keys hk

theorem removeSnapshot_leases (id : String) :
    (s.leases).Perm ((s.removeSnapshot id).1.leases ++ (s.removeSnapshot id).2.toList) := by
  unfold TaskResultPageStore.removeSnapshot TaskResultPageStore.leases
  cases hl : s.snapshotsById.lookup id with
  | none =>
    rw [erase_of_absent hl]
    simp
  | some snapshot =>
    have hvalues := (values_erase hl).map (·.resourceLeaseId)
    rw [List.map_cons] at hvalues
    exact hvalues.trans (perm_append_singleton _ _).symm

theorem total_erase_le {weight : TaskResultPageSnapshot → Nat} :
    total weight (s.snapshotsById.erase id) ≤ total weight s.snapshotsById := by
  cases hl : s.snapshotsById.lookup id with
  | none => rw [erase_of_absent hl]
  | some snapshot =>
    rw [total_erase hl]
    exact Nat.le_add_left _ _

theorem WithinLimits.erase (h : s.WithinLimits)
    (ht : t.snapshotsById = s.snapshotsById.erase id) : t.WithinLimits where
  snapshots := by
    rw [ht, ← total_one]
    exact total_erase_le.trans (total_one.trans_le h.snapshots)
  artifacts := by
    rw [ht]
    exact total_erase_le.trans h.artifacts
  results := by
    rw [ht]
    exact total_erase_le.trans h.results
  bytes := by
    rw [ht]
    exact total_erase_le.trans h.bytes

variable {other token taskId : String}

theorem removeSnapshot_lookup : (s.removeSnapshot id).1.snapshotsById.lookup other =
      if other = id then none else s.snapshotsById.lookup other :=
  lookup_erase_ite

theorem Tracked.removeSnapshot (h : Tracked l waiting s) (id : String) :
    Tracked (l.release (s.removeSnapshot id).2.toList) waiting (s.removeSnapshot id).1 := by
  have hold : ∀ {other found}, (s.removeSnapshot id).1.snapshotsById.lookup other = some found →
      s.snapshotsById.lookup other = some found := by
    intro other found hf
    rw [removeSnapshot_lookup] at hf
    split at hf
    · cases hf
    · exact hf
  have hcur : ∀ {token cursor}, (s.removeSnapshot id).1.cursorsByToken token = some cursor →
      s.cursorsByToken token = some cursor :=
    fun hf => (filter_eq_some_iff.mp hf).1
  constructor
  · have hshelf : (s.removeSnapshot id).1.shelf = s.shelf.remove id := by
      unfold TaskResultPageStore.removeSnapshot TaskResultPageStore.shelf Shelf.remove
      congr 1
      funext token
      dsimp only
      cases s.cursorsByToken token with
      | none => rfl
      | some cursor => simp only [Option.filter, map_some]; split <;> rfl
    rw [hshelf]
    exact h.coherent.remove id
  · exact fun other found hf => (h.kept other found (hold hf)).mono (l.le_release _)
  · exact fun token cursor found ht hf =>
      h.cursorTask token cursor found (hcur ht) (hold hf)
  · exact fun token cursor ht => h.cursorDrawn token cursor (hcur ht)
  · exact fun other found hf => h.registered other found (hold hf)
  · exact h.limits.erase rfl
  · have hleases := (@removeSnapshot_leases s id).append_right l.released
    have hswap : ((s.removeSnapshot id).1.leases ++
        (l.released ++ (s.removeSnapshot id).2.toList)).Perm
        ((s.removeSnapshot id).1.leases ++ (s.removeSnapshot id).2.toList ++ l.released) := by
      rw [append_assoc]
      exact perm_append_comm.append_left _
    exact hswap.trans (hleases.symm.trans h.leases)

theorem Tracked.removeSnapshots (h : Tracked l waiting s) (ids : List String) :
    Tracked (l.release (s.removeSnapshots ids).2) waiting (s.removeSnapshots ids).1 := by
  induction ids generalizing l s with
  | nil =>
    simp only [TaskResultPageStore.removeSnapshots, Ledger.release_nil]
    exact h
  | cons id rest ih =>
    have hr := ih (h.removeSnapshot id)
    rw [Ledger.release_release] at hr
    exact hr

theorem removeSnapshots_lookup {ids : List String} :
    (s.removeSnapshots ids).1.snapshotsById.lookup id =
      if id ∈ ids then none else s.snapshotsById.lookup id := by
  induction ids generalizing s with
  | nil => rfl
  | cons first rest ih =>
    show ((s.removeSnapshot first).1.removeSnapshots rest).1.snapshotsById.lookup id = _
    rw [ih, removeSnapshot_lookup]
    by_cases hr : id ∈ rest
    · rw [if_pos hr, if_pos (List.mem_cons_of_mem _ hr)]
    · by_cases hfst : id = first
      · simp [hfst]
      · simp [hr, hfst]

theorem mem_idsWhere {condition : TaskResultPageSnapshot → Bool} :
    id ∈ s.idsWhere condition ↔
      ∃ snapshot, s.snapshotsById.lookup id = some snapshot ∧ condition snapshot = true := by
  unfold TaskResultPageStore.idsWhere
  rw [List.mem_map]
  constructor
  · rintro ⟨⟨found, snapshot⟩, hm, rfl⟩
    obtain ⟨hm, hcond⟩ := List.mem_filter.mp hm
    exact ⟨snapshot, mem_lookup_iff.mpr hm, hcond⟩
  · rintro ⟨snapshot, hl, hcond⟩
    exact ⟨⟨id, snapshot⟩, List.mem_filter.mpr ⟨mem_lookup_iff.mp hl, hcond⟩, rfl⟩

theorem Tracked.prune (h : Tracked l waiting s) (now : Nat) :
    Tracked (l.release (s.prune now).2) waiting (s.prune now).1 :=
  h.removeSnapshots _

theorem prune_lookup {now : Nat} (hl : s.snapshotsById.lookup id = some snapshot)
    (hnow : now < snapshot.expiresAt) :
    (s.prune now).1.snapshotsById.lookup id = some snapshot := by
  have hk : id ∉ s.idsWhere fun snapshot => snapshot.expiresAt ≤ now := by
    intro hm
    obtain ⟨found, hf, hexp⟩ := mem_idsWhere.mp hm
    rw [hl] at hf
    cases hf
    rw [decide_eq_true_eq] at hexp
    omega
  rw [← hl]
  exact removeSnapshots_lookup.trans (if_neg hk)

/-- Nothing but the lease, the expiry and the publication of a snapshot changes. -/
structure SameOutput (old new : TaskResultPageSnapshot) : Prop where
  taskId : new.taskId = old.taskId
  output : new.output = old.output
  encodedBytes : new.encodedBytes = old.encodedBytes
  artifactCount : new.artifactCount = old.artifactCount
  tokens : new.tokensByOffset = old.tokensByOffset

variable {new : TaskResultPageSnapshot}

theorem update_lookup : (s.update id new).snapshotsById.lookup other =
      if other = id then some new else s.snapshotsById.lookup other :=
  lookup_insert_ite

theorem total_update {weight : TaskResultPageSnapshot → Nat}
    (hl : s.snapshotsById.lookup id = some old) (hweight : weight new = weight old) :
    total weight (s.update id new).snapshotsById = total weight s.snapshotsById := by
  show total weight (s.snapshotsById.insert id new) = _
  rw [total_insert, total_erase hl, hweight]

theorem WithinLimits.update (h : s.WithinLimits) (hl : s.snapshotsById.lookup id = some old)
    (hs : SameOutput old new) : (s.update id new).WithinLimits where
  snapshots := by
    have hc := @total_update s id old new (fun _ => 1) hl rfl
    rw [total_one, total_one] at hc
    rw [hc]
    exact h.snapshots
  artifacts := by
    rw [total_update hl hs.artifactCount]
    exact h.artifacts
  results := by
    rw [total_update hl (by rw [hs.output])]
    exact h.results
  bytes := by
    rw [total_update hl hs.encodedBytes]
    exact h.bytes

theorem update_leases (hl : s.snapshotsById.lookup id = some old) :
    (old.resourceLeaseId :: (s.update id new).leases).Perm (new.resourceLeaseId :: s.leases) := by
  have hvalues : (s.update id new).leases =
      new.resourceLeaseId :: (values (s.snapshotsById.erase id)).map (·.resourceLeaseId) := by
    show (values (s.snapshotsById.insert id new)).map _ = _
    rw [values_insert, List.map_cons]
  have hold := (values_erase hl).map (·.resourceLeaseId)
  rw [List.map_cons] at hold
  rw [hvalues]
  exact (List.Perm.swap _ _ _).trans (hold.symm.cons _)

variable {waiting' : Option String}

theorem Tracked.update (h : Tracked l waiting s) (hl : s.snapshotsById.lookup id = some old)
    (hle : l.Le m) (hs : SameOutput old new) (hk : Kept m id new)
    (hos : ∀ other, other ≠ id → waiting' ≠ some other → waiting ≠ some other)
    (hreg : waiting' ≠ some id → new.published = false →
      new.pendingFirstPageRegistrations.Nonempty)
    (hleases : ((s.update id new).leases ++ m.released).Perm m.leases) :
    Tracked m waiting' (s.update id new) := by
  constructor
  · have hpages : new.pages = old.pages := by
      simp only [TaskResultPageSnapshot.pages, hs.output, hs.tokens]
    exact h.coherent.replace hl hpages
  · intro other found hf
    rw [update_lookup] at hf
    split at hf
    · rename_i ho
      cases hf
      rw [ho]
      exact hk
    · exact (h.kept other found hf).mono hle
  · intro token cursor found ht hf
    rw [update_lookup] at hf
    split at hf
    · rename_i ho
      cases hf
      rw [hs.taskId]
      exact h.cursorTask token cursor old ht (ho ▸ hl)
    · exact h.cursorTask token cursor found ht hf
  · exact fun token cursor ht => hle.tokens (h.cursorDrawn token cursor ht)
  · intro other found hf hwait
    rw [update_lookup] at hf
    split at hf
    · rename_i ho
      cases hf
      rw [ho] at hwait
      exact hreg hwait
    · rename_i ho
      exact h.registered other found hf (hos other ho hwait)
  · exact h.limits.update hl hs
  · exact hleases

theorem Tracked.update_same (h : Tracked l waiting s) (hl : s.snapshotsById.lookup id = some old)
    (hle : l.Le m) (hhanded : m.handed = l.handed) (hreleased : m.released = l.released)
    (hs : SameOutput old new) (hlease : new.resourceLeaseId = old.resourceLeaseId)
    (hk : Kept m id new)
    (hos : ∀ other, other ≠ id → waiting' ≠ some other → waiting ≠ some other)
    (hreg : waiting' ≠ some id → new.published = false →
      new.pendingFirstPageRegistrations.Nonempty) : Tracked m waiting' (s.update id new) := by
  have hperm : (s.update id new).leases.Perm s.leases := by
    have hswap := @update_leases s id old new hl
    rw [hlease] at hswap
    exact hswap.cons_inv
  apply h.update hl hle hs hk hos hreg
  rw [hreleased]
  have hleases : m.leases = l.leases := by rw [Ledger.leases, hhanded]; rfl
  rw [hleases]
  exact (hperm.append_right _).trans h.leases

structure Continues (before after : TaskResultPageSnapshot) : Prop where
  taskId : after.taskId = before.taskId
  output : after.output = before.output
  published : after.published = before.published
  registrations : before.pendingFirstPageRegistrations ⊆ after.pendingFirstPageRegistrations

theorem Continues.refl (snapshot : TaskResultPageSnapshot) : Continues snapshot snapshot :=
  ⟨rfl, rfl, rfl, Finset.Subset.refl _⟩

theorem Continues.trans {before mid after : TaskResultPageSnapshot} (first : Continues before mid)
    (second : Continues mid after) : Continues before after where
  taskId := second.taskId.trans first.taskId
  output := second.output.trans first.output
  published := second.published.trans first.published
  registrations := first.registrations.trans second.registrations

theorem registerFirstPage_lookup {uuid : Uuid} {other : String} {found : TaskResultPageSnapshot}
    (hf : s.snapshotsById.lookup other = some found) :
    ∃ found', (s.registerFirstPage id uuid).1.snapshotsById.lookup other = some found' ∧
      Continues found found' := by
  unfold TaskResultPageStore.registerFirstPage
  cases hl : s.snapshotsById.lookup id with
  | none => exact ⟨found, hf, .refl found⟩
  | some snapshot =>
    dsimp only
    split
    · exact ⟨found, hf, .refl found⟩
    by_cases ho : other = id
    · rw [ho, hl] at hf
      cases hf
      rw [update_lookup, if_pos ho]
      exact ⟨_, rfl, rfl, rfl, rfl, Finset.subset_insert _ _⟩
    · exact ⟨found, by rw [update_lookup, if_neg ho]; exact hf, .refl found⟩

theorem Tracked.registerFirstPage (h : Tracked l waiting s) (uuid : Uuid)
    (hl : s.snapshotsById.lookup id = some snapshot)
    (hwait : waiting = none ∨ waiting = some id) :
    Tracked (l.register (registrationIdOf uuid)) none (s.registerFirstPage id uuid).1 := by
  have hos : ∀ other, other ≠ id → (none : Option String) ≠ some other →
      waiting ≠ some other := by
    intro other ho _ hs
    rcases hwait with rfl | rfl
    · cases hs
    · exact ho (some.inj hs).symm
  have hk := (h.kept id snapshot hl).mono (l.le_register (registrationIdOf uuid))
  unfold TaskResultPageStore.registerFirstPage
  rw [hl]
  dsimp only
  split
  · rename_i hpubl
    constructor
    · exact h.coherent
    · exact fun other found hf =>
        (h.kept other found hf).mono (l.le_register (registrationIdOf uuid))
    · exact h.cursorTask
    · exact h.cursorDrawn
    · intro other found hf _ hu
      by_cases ho : other = id
      · rw [ho, hl] at hf
        cases hf
        rw [hpubl] at hu
        cases hu
      · exact h.registered other found hf (hos other ho (by simp)) hu
    · exact h.limits
    · exact h.leases
  · refine h.update_same hl (l.le_register _) rfl rfl (by constructor <;> rfl) (by rfl) ?_
      hos ?_
    · refine ⟨hk.snapshotId, hk.artifactCount, ?_, ?_⟩
      · intro registration hm
        rcases mem_insert.mp hm with rfl | hold
        · exact mem_append_right _ (List.mem_singleton.mpr rfl)
        · exact hk.registrations registration hold
      · obtain ⟨handed, hm, hstems, hid⟩ := hk.origin
        exact ⟨handed, hm, { hstems with },
          hid⟩
    · exact fun _ _ => insert_nonempty _ _

theorem Tracked.publishFirstPage (h : Tracked l none s)
    (registration : TaskResultPageRegistration) :
    Tracked l none (s.publishFirstPage registration).1 := by
  unfold TaskResultPageStore.publishFirstPage
  cases hl : s.snapshotsById.lookup registration.snapshotId with
  | none => exact h
  | some snapshot =>
    dsimp only
    split
    · exact h
    split
    · have hk := h.kept _ snapshot hl
      refine h.update_same hl (Ledger.Le.refl l) rfl rfl (by constructor <;> rfl) (by rfl)
        ?_ (fun other _ hne => hne) ?_
      · refine ⟨hk.snapshotId, hk.artifactCount, by simp, ?_⟩
        obtain ⟨handed, hm, hstems, hid⟩ := hk.origin
        exact ⟨handed, hm, { hstems with }, hid⟩
      · intro _ hu
        cases hu
    · exact h

theorem Tracked.cancelFirstPage (h : Tracked l none s)
    (registration : TaskResultPageRegistration) :
    Tracked (l.release (s.cancelFirstPage registration).2.toList) none
      (s.cancelFirstPage registration).1 := by
  unfold TaskResultPageStore.cancelFirstPage
  cases hl : s.snapshotsById.lookup registration.snapshotId with
  | none => simpa using h
  | some snapshot =>
    dsimp only
    split
    · have hk := h.kept _ snapshot hl
      have hp : Kept l registration.snapshotId
          { snapshot with
            pendingFirstPageRegistrations :=
              snapshot.pendingFirstPageRegistrations.erase registration.registrationId } := by
        refine ⟨hk.snapshotId, hk.artifactCount, ?_, ?_⟩
        · exact fun other hm => hk.registrations other (Finset.mem_of_mem_erase hm)
        · obtain ⟨handed, hm, hstems, hid⟩ := hk.origin
          exact ⟨handed, hm, { hstems with }, hid⟩
      split
      · -- The last registration: the snapshot goes at once.
        rename_i he
        have hwaits : Tracked l (some registration.snapshotId) _ :=
          h.update_same hl (Ledger.Le.refl l) rfl rfl (by constructor <;> rfl) (by rfl) hp
            (fun other _ _ => by simp) (fun hne => absurd rfl hne)
        have hrem := hwaits.removeSnapshot registration.snapshotId
        refine ⟨hrem.coherent, hrem.kept, hrem.cursorTask, hrem.cursorDrawn, ?_,
          hrem.limits, hrem.leases⟩
        intro other found hf _
        apply hrem.registered other found hf
        intro ho
        cases ho
        rw [removeSnapshot_lookup, if_pos rfl] at hf
        cases hf
      · rename_i hmore
        rw [toList_none, Ledger.release_nil]
        exact h.update_same hl (Ledger.Le.refl l) rfl rfl (by constructor <;> rfl) (by rfl)
          hp (fun other _ hne => hne) (fun _ _ => nonempty_iff_ne_empty.mpr hmore)
    · simpa using h

theorem pageCount_pos {encodedBytes artifactCount count : Nat} {results : List Outputs.TaskResult}
    (h : pageCount true encodedBytes artifactCount results = .ok count) (hne : results ≠ []) :
    0 < count := by
  cases results with
  | nil => exact absurd rfl hne
  | cons result rest =>
    unfold pageCount at h
    dsimp only at h
    split at h
    · cases h
    split at h
    · simp_all
    split at h
    · cases h
    split at h
    · simp_all
    · obtain ⟨more, -, hc⟩ := ok_of_bind h
      cases hc
      exact Nat.succ_pos more

theorem Tracked.issueToken {offset : Nat} (h : Tracked l waiting s)
    (hl : s.snapshotsById.lookup id = some snapshot) (hfr : token ∉ l.tokens)
    (hpos : 0 < offset) (hin : offset < snapshot.output.results.length)
    (hn : snapshot.tokensByOffset offset = none) :
    Tracked (l.draw token) waiting (s.issueToken id snapshot offset token) := by
  have hid := (h.kept id snapshot hl).snapshotId
  -- The token apart, the snapshot is the same.
  have hnoted : ∀ other found,
      (s.issueToken id snapshot offset token).snapshotsById.lookup other = some found →
        ∃ before, s.snapshotsById.lookup other = some before ∧ found.taskId = before.taskId ∧
          found.published = before.published ∧
          found.pendingFirstPageRegistrations = before.pendingFirstPageRegistrations ∧
          (Kept l other before → Kept l other found) := by
    intro other found hf
    replace hf : (s.snapshotsById.insert id _).lookup other = some found := hf
    rw [lookup_insert_ite] at hf
    split at hf
    · rename_i ho
      cases hf
      refine ⟨snapshot, by rw [ho]; exact hl, rfl, rfl, rfl, ?_⟩
      rintro ⟨hown, harts, hregistrations, handed, hm, hstems, horigin⟩
      exact ⟨hown, harts, hregistrations, handed, hm,
        { hstems with }, horigin⟩
    · exact ⟨found, hf, rfl, rfl, rfl, fun hk => hk⟩
  have htot : ∀ weight : TaskResultPageSnapshot → Nat, ∀ body, weight body = weight snapshot →
      total weight (s.snapshotsById.insert id body) = total weight s.snapshotsById :=
    fun weight body hweight => total_update hl hweight
  constructor
  · have htokens : ∀ other, Function.update snapshot.tokensByOffset offset (some token) other =
        if other = offset then some token else snapshot.tokensByOffset other := by
      intro other
      by_cases ho : other = offset
      · simp [ho]
      · simp [ho]
    have hunused : s.shelf.cursors token = none := by
      cases hcur : s.cursorsByToken token with
      | none => simp [shelf, hcur]
      | some cursor => exact absurd (h.cursorDrawn token cursor hcur) hfr
    have hissued := @Shelf.Coherent.issue _ _ _ _ _ s.shelf id token
      { snapshot with
        tokensByOffset := Function.update snapshot.tokensByOffset offset (some token) }
      snapshot offset TaskResultPageSnapshot.pages h.coherent hl hunused hpos hin hn
      rfl htokens
    have hshelf : (s.issueToken id snapshot offset token).shelf = s.shelf.issue id offset token
        { snapshot with
          tokensByOffset := Function.update snapshot.tokensByOffset offset (some token) } := by
      unfold shelf Shelf.issue TaskResultPageStore.issueToken
      congr 1
      funext other
      by_cases ho : other = token
      · simp [ho, hid]
      · simp [ho]
    rw [hshelf]
    exact hissued
  · intro other found hf
    obtain ⟨before, hb, -, -, -, hk⟩ := hnoted other found hf
    exact (hk (h.kept other before hb)).mono (l.le_draw token)
  · intro other cursor found hcur hf
    obtain ⟨before, hb, ht, -⟩ := hnoted cursor.snapshotId found hf
    rw [ht]
    replace hcur : Function.update s.cursorsByToken token
      (some ⟨snapshot.snapshotId, snapshot.taskId, offset⟩) other = some cursor := hcur
    by_cases ho : other = token
    · rw [ho, Function.update_self] at hcur
      cases hcur
      rw [hid, hl] at hb
      cases hb
      rfl
    · rw [Function.update_of_ne ho] at hcur
      exact h.cursorTask other cursor before hcur hb
  · intro other cursor hcur
    replace hcur : Function.update s.cursorsByToken token
      (some ⟨snapshot.snapshotId, snapshot.taskId, offset⟩) other = some cursor := hcur
    by_cases ho : other = token
    · rw [ho]
      exact mem_append_right _ (List.mem_singleton.mpr rfl)
    · rw [Function.update_of_ne ho] at hcur
      exact mem_append_left _ (h.cursorDrawn other cursor hcur)
  · intro other found hf hwait hu
    obtain ⟨before, hb, -, hpubl, hp, -⟩ := hnoted other found hf
    rw [hp]
    exact h.registered other before hb hwait (hpubl ▸ hu)
  · constructor
    · have hc := htot (fun _ => 1)
        { snapshot with
          tokensByOffset := Function.update snapshot.tokensByOffset offset (some token) } rfl
      rw [total_one, total_one] at hc
      exact hc.trans_le h.limits.snapshots
    · exact (htot (·.artifactCount) _ rfl).trans_le h.limits.artifacts
    · exact (htot (·.output.results.length) _ rfl).trans_le h.limits.results
    · exact (htot (·.encodedBytes) _ rfl).trans_le h.limits.bytes
  · have hswap := @update_leases s id snapshot
      { snapshot with
        tokensByOffset := Function.update snapshot.tokensByOffset offset (some token) } hl
    exact ((hswap.cons_inv).append_right _).trans h.leases

theorem Tracked.mono (h : Tracked l waiting s) (hle : l.Le m) (hhanded : m.handed = l.handed)
    (hreleased : m.released = l.released) : Tracked m waiting s where
  coherent := h.coherent
  kept := fun other found hf => (h.kept other found hf).mono hle
  cursorTask := h.cursorTask
  cursorDrawn := fun other cursor hcur => hle.tokens (h.cursorDrawn other cursor hcur)
  registered := h.registered
  limits := h.limits
  leases := by
    rw [hreleased, Ledger.leases, hhanded]
    exact h.leases

variable {offset pageSize : Nat}

theorem page_store {uuid : Uuid} :
    (s.page id offset pageSize uuid).1 = s ∨
      ∃ snapshot last, s.snapshotsById.lookup id = some snapshot ∧ 0 < last ∧
        last < snapshot.output.results.length ∧ snapshot.tokensByOffset last = none ∧
        (s.page id offset pageSize uuid).1 =
          s.issueToken id snapshot last (taskResultTokenOf uuid) := by
  unfold TaskResultPageStore.page
  cases hlive : s.snapshotsById.lookup id with
  | none => exact .inl rfl
  | some snapshot =>
    dsimp only
    split
    · exact .inl rfl
    split
    · exact .inl rfl
    rename_i count hc
    split
    · rename_i hl
      split
      · exact .inl rfl
      rename_i ht
      refine .inr ⟨snapshot, _, rfl, ?_, hl, ht, rfl⟩
      -- On the first page there is at least one result.
      by_cases hoff : offset = 0
      · have hne : (snapshot.output.results.take
            (min (saturatingAdd offset (max pageSize 1))
              snapshot.output.results.length)).drop offset ≠ [] := by
          intro hnil
          have hlen := congrArg List.length hnil
          simp only [length_drop, length_take, length_nil] at hlen
          have hpos : 0 < saturatingAdd offset (max pageSize 1) := by
            unfold saturatingAdd u64Max
            omega
          omega
        have := pageCount_pos hc hne
        omega
      · omega
    · exact .inl rfl

theorem Tracked.page {uuid : Uuid} (h : Tracked l waiting s) (id : String)
    (hfr : taskResultTokenOf uuid ∉ l.tokens) :
    Tracked (l.draw (taskResultTokenOf uuid)) waiting (s.page id offset pageSize uuid).1 := by
  rcases @page_store s id offset pageSize uuid with hs | ⟨snapshot, last, hl, hpos,
    hin, hn, hissued⟩
  · rw [hs]
    exact h.mono (l.le_draw _) rfl rfl
  · rw [hissued]
    exact h.issueToken hl hfr hpos hin hn

theorem page_lookup {uuid : Uuid} {other : String} {found : TaskResultPageSnapshot}
    (hf : s.snapshotsById.lookup other = some found) :
    ∃ found', (s.page id offset pageSize uuid).1.snapshotsById.lookup other = some found' ∧
      Continues found found' := by
  rcases @page_store s id offset pageSize uuid with hs | ⟨snapshot, last, hl, -, -, -,
    hissued⟩
  · rw [hs]
    exact ⟨found, hf, .refl found⟩
  rw [hissued]
  show ∃ found', (s.snapshotsById.insert id _).lookup other = some found' ∧ _
  rw [lookup_insert_ite]
  split
  · rename_i ho
    rw [ho, hl] at hf
    cases hf
    exact ⟨_, rfl, rfl, rfl, rfl, Finset.Subset.refl _⟩
  · exact ⟨found, hf, .refl found⟩

theorem snapshotBudgetExceeded_false {artifactCount resultCount encodedBytes : Nat} :
    s.snapshotBudgetExceeded artifactCount resultCount encodedBytes = false ↔
      s.snapshotsById.entries.length < maxTaskResultPageSnapshots ∧
        total (·.artifactCount) s.snapshotsById + artifactCount ≤
          maxTaskResultPageSnapshotArtifacts ∧
        total (·.output.results.length) s.snapshotsById + resultCount ≤
          maxTaskResultPageSnapshotResults ∧
        total (·.encodedBytes) s.snapshotsById + encodedBytes ≤ maxTaskResultPageSnapshotBytes := by
  have harts : maxTaskResultPageSnapshotArtifacts < u64Max := by decide
  have hres : maxTaskResultPageSnapshotResults < u64Max := by decide
  have hbytes : maxTaskResultPageSnapshotBytes < u64Max := by decide
  simp only [snapshotBudgetExceeded, Bool.or_eq_false_iff, decide_eq_false_iff_not, not_le, not_lt,
    saturatingAdd_le_iff harts,
    saturatingAdd_le_iff hres,
    saturatingAdd_le_iff hbytes, and_assoc]

theorem oldestPublished_live (h : s.oldestPublished = some id) :
    id ∈ s.snapshotOrder ∧
      ∃ snapshot, s.snapshotsById.lookup id = some snapshot ∧ snapshot.published = true := by
  refine ⟨mem_of_find?_eq_some h, ?_⟩
  have hany := List.find?_some h
  cases hl : s.snapshotsById.lookup id with
  | none =>
    rw [hl] at hany
    cases hany
  | some snapshot =>
    rw [hl] at hany
    exact ⟨snapshot, rfl, hany⟩

/-- What the eviction loop leaves: the rounds suffice, unpublished snapshots stay, and there is
room if it says so. -/
structure MadeRoom (s : TaskResultPageStore) (l : Ledger) (waiting : Option String)
    (artifactCount resultCount encodedBytes : Nat)
    (outcome : TaskResultPageStore × List String × Bool) : Prop where
  tracked : Tracked (l.release outcome.2.1) waiting outcome.1
  room : outcome.2.2 = true →
    outcome.1.snapshotBudgetExceeded artifactCount resultCount encodedBytes = false
  subset : ∀ id snapshot, outcome.1.snapshotsById.lookup id = some snapshot →
    s.snapshotsById.lookup id = some snapshot
  unpublished : ∀ id snapshot, s.snapshotsById.lookup id = some snapshot →
    snapshot.published = false → outcome.1.snapshotsById.lookup id = some snapshot

variable {artifactCount resultCount encodedBytes rounds : Nat}

/-- The loop evicts published snapshots, until there is room or no other one is left. -/
theorem makeRoom_spec (hrounds : s.snapshotOrder.length < rounds) :
    ∃ ids room, makeRoom artifactCount resultCount encodedBytes rounds s =
        some ((s.removeSnapshots ids).1, (s.removeSnapshots ids).2, room) ∧
      (∀ id ∈ ids, ∃ snapshot, s.snapshotsById.lookup id = some snapshot ∧
        snapshot.published = true) ∧
      (s.removeSnapshots ids).1.snapshotBudgetExceeded artifactCount resultCount encodedBytes =
        !room ∧ (room = false → (s.removeSnapshots ids).1.oldestPublished = none) := by
  induction rounds generalizing s with
  | zero => omega
  | succ rounds ih =>
    unfold TaskResultPageStore.makeRoom
    split
    · rename_i hexceeded
      unfold TaskResultPageStore.evictOldestPublishedSnapshot
      cases holdest : s.oldestPublished with
      | none => exact ⟨[], false, rfl, nofun, hexceeded, fun _ => holdest⟩
      | some id =>
        obtain ⟨horder, snapshot, hl, hpubl⟩ := oldestPublished_live holdest
        have hshorter : (s.removeSnapshot id).1.snapshotOrder.length < s.snapshotOrder.length :=
          length_filter_lt_length_iff_exists.mpr ⟨id, horder, by simp⟩
        obtain ⟨ids, room, hrun, hevict, hroom⟩ := ih
          (lt_of_lt_of_le hshorter (Nat.lt_succ_iff.mp hrounds))
        have hlease : s.removeSnapshot id =
            ((s.removeSnapshot id).1, some snapshot.resourceLeaseId) := by
          unfold TaskResultPageStore.removeSnapshot
          rw [hl]
          rfl
        refine ⟨id :: ids, room, ?_, ?_, hroom⟩
        · dsimp only
          rw [hlease]
          dsimp only
          rw [hrun, map_some]
          simp only [TaskResultPageStore.removeSnapshots]
          rw [congrArg Prod.snd hlease]
          rfl
        · intro other ho
          rcases List.mem_cons.mp ho with rfl | hr
          · exact ⟨snapshot, hl, hpubl⟩
          obtain ⟨found, hf, hfoundPublished⟩ := hevict other hr
          rw [removeSnapshot_lookup] at hf
          split at hf
          · cases hf
          · exact ⟨found, hf, hfoundPublished⟩
    · rename_i hroom
      exact ⟨[], true, rfl, nofun, Bool.eq_false_iff.mpr hroom, nofun⟩

theorem Tracked.makeRoom (h : Tracked l waiting s) (hrounds : s.snapshotOrder.length < rounds) :
    ∃ outcome, makeRoom artifactCount resultCount encodedBytes rounds s = some outcome ∧
      MadeRoom s l waiting artifactCount resultCount encodedBytes outcome := by
  obtain ⟨ids, room, hrun, hevict, hroom, -⟩ := makeRoom_spec hrounds
  refine ⟨_, hrun, h.removeSnapshots ids, fun hmade => hroom.trans (congrArg _ hmade), ?_, ?_⟩
  · intro id snapshot hf
    rw [removeSnapshots_lookup] at hf
    split at hf
    · cases hf
    · exact hf
  · intro id snapshot hf hu
    rw [removeSnapshots_lookup, if_neg]
    · exact hf
    · intro hid
      obtain ⟨found, hl, hpubl⟩ := hevict id hid
      rw [hf] at hl
      cases hl
      rw [hu] at hpubl
      cases hpubl

variable {handed : TaskOutputSnapshot} {drawn : String}

theorem Tracked.insertNew (h : Tracked l none s) (ha : id ∉ s.snapshotsById)
    (hid : id = handed.snapshotId ∨ id = drawn)
    (hroom : s.snapshotBudgetExceeded (resultArtifacts handed.output.results)
      handed.output.results.length handed.encodedBytes = false) :
    Tracked (l.hand handed drawn) (some id) (s.insertNew id handed) := by
  obtain ⟨hsnapshots, harts, hres, hbytes⟩ := snapshotBudgetExceeded_false.mp hroom
  have hl : ∀ other, (s.insertNew id handed).snapshotsById.lookup other =
      if other = id then _ else s.snapshotsById.lookup other := fun other => lookup_insert_ite
  constructor
  · exact h.coherent.push ha fun _ => rfl
  · intro other found hf
    rw [hl] at hf
    split at hf
    · rename_i ho
      cases hf
      refine ⟨ho.symm, rfl, by simp, handed, mem_append_right _ (List.mem_singleton.mpr rfl),
        ⟨rfl, rfl, rfl, rfl⟩, ?_⟩
      rw [ho]
      rcases hid with hid | hid
      · exact .inl hid
      · exact .inr (mem_append_right _ (List.mem_singleton.mpr hid))
    · exact (h.kept other found hf).mono (l.le_hand handed drawn)
  · intro token cursor found hcur hf
    rw [hl] at hf
    split at hf
    · rename_i howner
      obtain ⟨body, hbody, -⟩ := h.coherent.cursor token ⟨cursor.snapshotId, cursor.offset⟩ (by
        show (s.cursorsByToken token).map _ = _
        rw [show s.cursorsByToken token = some cursor from hcur]
        rfl)
      have hlive : cursor.snapshotId ∈ s.snapshotsById :=
        lookup_isSome.mp (by
          rw [show s.snapshotsById.lookup cursor.snapshotId = some body from hbody]
          rfl)
      exact absurd (howner ▸ hlive) ha
    · exact h.cursorTask token cursor found hcur hf
  · exact h.cursorDrawn
  · intro other found hf hwait
    rw [hl, if_neg (fun ho => hwait (congrArg some ho.symm))] at hf
    exact h.registered other found hf (by simp)
  · have hpush : ∀ weight : TaskResultPageSnapshot → Nat, ∀ body,
        total weight (s.snapshotsById.insert id body) = weight body + total weight s.snapshotsById :=
      fun weight body => total_insert_of_notMem ha
    constructor
    · show (s.snapshotsById.insert id _).entries.length ≤ _
      rw [← total_one, hpush, total_one]
      omega
    · show total _ (s.snapshotsById.insert id _) ≤ _
      rw [hpush, Nat.add_comm]
      exact harts
    · show total _ (s.snapshotsById.insert id _) ≤ _
      rw [hpush, Nat.add_comm]
      exact hres
    · show total _ (s.snapshotsById.insert id _) ≤ _
      rw [hpush, Nat.add_comm]
      exact hbytes
  · show (((values (s.snapshotsById.insert id _)).map
      (fun snapshot : TaskResultPageSnapshot => snapshot.resourceLeaseId)) ++ l.released).Perm
        ((l.handed ++ [handed]).map (·.resourceLeaseId))
    rw [values_insert_of_notMem ha, List.map_cons, map_append]
    exact (h.leases.cons handed.resourceLeaseId).trans (perm_append_singleton _ _).symm

theorem Tracked.refuse (h : Tracked l waiting s) (handed : TaskOutputSnapshot) (drawn : String) :
    Tracked ((l.hand handed drawn).release [handed.resourceLeaseId]) waiting s where
  coherent := h.coherent
  kept := fun other found hf =>
    (h.kept other found hf).mono ((l.le_hand handed drawn).trans (Ledger.le_release _ _))
  cursorTask := h.cursorTask
  cursorDrawn := h.cursorDrawn
  registered := h.registered
  limits := h.limits
  leases := by
    show (s.leases ++ (l.released ++ [handed.resourceLeaseId])).Perm
      ((l.handed ++ [handed]).map (·.resourceLeaseId))
    rw [← append_assoc, map_append]
    exact h.leases.append_right _

theorem Tracked.renew (h : Tracked l none s) (drawn : String)
    (hl : s.snapshotsById.lookup handed.snapshotId = some old)
    (hbytes : handed.encodedBytes = old.encodedBytes) :
    Tracked ((l.hand handed drawn).release [old.resourceLeaseId]) none (s.renew old handed) := by
  have hk := h.kept _ old hl
  have hle := (l.le_hand handed drawn).trans
    ((l.hand handed drawn).le_release [old.resourceLeaseId])
  have hkept' := hk.mono hle
  have hupd : Tracked ((l.hand handed drawn).release [old.resourceLeaseId]) none
      (s.update handed.snapshotId
        { old with
          resourceLeaseId := handed.resourceLeaseId
          encodedBytes := handed.encodedBytes
          expiresAt := handed.resourceLeaseExpiresAt }) := by
    refine h.update hl hle ⟨rfl, rfl, hbytes, rfl, rfl⟩ ?_ (fun _ _ hne => hne) ?_ ?_
    · refine ⟨hkept'.snapshotId, hkept'.artifactCount, hkept'.registrations, ?_⟩
      obtain ⟨origin, hm, hstems, hid⟩ := hkept'.origin
      exact ⟨origin, hm, ⟨hstems.taskId, hstems.revision, hstems.output,
        hbytes.trans hstems.encodedBytes⟩, hid⟩
    · exact fun _ => h.registered _ old hl (by simp)
    · have hswap := @update_leases s handed.snapshotId old
        { old with
          resourceLeaseId := handed.resourceLeaseId
          encodedBytes := handed.encodedBytes
          expiresAt := handed.resourceLeaseExpiresAt } hl
      show (_ ++ (l.released ++ [old.resourceLeaseId])).Perm
        ((l.handed ++ [handed]).map (·.resourceLeaseId))
      rw [← append_assoc, map_append]
      have hmov := (perm_append_singleton old.resourceLeaseId _).trans
        (hswap.append_right l.released)
      exact hmov.trans ((h.leases.cons handed.resourceLeaseId).trans
        (perm_append_singleton _ _).symm)
  have hmemb : old.snapshotId ∈ (s.update handed.snapshotId
      { old with
        resourceLeaseId := handed.resourceLeaseId
        encodedBytes := handed.encodedBytes
        expiresAt := handed.resourceLeaseExpiresAt }).snapshotsById := by
    rw [hk.snapshotId]
    exact lookup_isSome.mp (by rw [update_lookup, if_pos rfl]; rfl)
  exact ⟨hupd.coherent.touch hmemb, hupd.kept, hupd.cursorTask,
    hupd.cursorDrawn, hupd.registered,
    ⟨hupd.limits.snapshots, hupd.limits.artifacts, hupd.limits.results,
      hupd.limits.bytes⟩, hupd.leases⟩

theorem matching_some (h : s.matching handed = some old) :
    s.snapshotsById.lookup handed.snapshotId = some old ∧ old.taskId = handed.taskId ∧
      old.revision = handed.revision := by
  obtain ⟨hl, hs⟩ := filter_eq_some_iff.mp h
  rw [decide_eq_true_eq] at hs
  exact ⟨hl, hs⟩

theorem Tracked.matching_bytes (h : Tracked l waiting s) (hmatching : s.matching handed = some old)
    (hfr : (l.hand handed drawn).Fresh) (hs : (l.hand handed drawn).SameContents) :
    handed.encodedBytes = old.encodedBytes := by
  obtain ⟨hl, ht, hrev⟩ := matching_some hmatching
  obtain ⟨origin, hm, hstems, hid⟩ := (h.kept _ old hl).origin
  have hhanded : handed ∈ (l.hand handed drawn).handed :=
    mem_append_right _ (List.mem_singleton.mpr rfl)
  rcases hid with hid | hid
  · have hcont := hs handed hhanded origin (mem_append_left _ hm)
      (ht.symm.trans hstems.taskId) (hrev.symm.trans hstems.revision) hid
    rw [hcont.2, hstems.encodedBytes]
  · exact absurd rfl (hfr.apart _ (mem_append_left _ hid) handed hhanded)

theorem Tracked.drawn_absent (h : Tracked l waiting s) (hfr : (l.hand handed drawn).Fresh) :
    drawn ∉ s.snapshotsById := by
  intro hm
  obtain ⟨snapshot, hl⟩ := isSome_iff_exists.mp (lookup_isSome.mpr hm)
  have hdrawn : drawn ∈ (l.hand handed drawn).ids :=
    mem_append_right _ (List.mem_singleton.mpr rfl)
  obtain ⟨origin, horigin, -, hid⟩ := (h.kept drawn snapshot hl).origin
  rcases hid with hid | hid
  · exact hfr.apart drawn hdrawn origin (mem_append_left _ horigin) hid.symm
  · have hids : (l.ids ++ [drawn]).Nodup := hfr.ids
    exact (nodup_append.mp hids).2.2 drawn hid drawn (List.mem_singleton.mpr rfl) rfl

structure Inserted (s : TaskResultPageStore) (l : Ledger) (now : Nat) (insertion : Insertion) :
    Prop where
  refused : ∀ error, insertion.inserted = .error error →
    Tracked (l.release insertion.released) none insertion.store
  kept : ∀ id isNew, insertion.inserted = .ok (id, isNew) →
    (∃ snapshot, insertion.store.snapshotsById.lookup id = some snapshot) ∧
      ∃ waiting, (waiting = none ∨ waiting = some id) ∧
        Tracked (l.release insertion.released) waiting insertion.store
  unpublished : ∀ id snapshot, s.snapshotsById.lookup id = some snapshot →
    snapshot.published = false → now < snapshot.expiresAt →
      ∃ found, insertion.store.snapshotsById.lookup id = some found ∧ Continues snapshot found

theorem Tracked.insert {now : Nat} {uuid : Uuid} (h : Tracked l none s)
    (hfr : (l.hand handed (taskResultPageIdOf uuid)).Fresh)
    (hs : (l.hand handed (taskResultPageIdOf uuid)).SameContents) :
    ∃ insertion, s.insert handed now uuid = some insertion ∧
      Inserted s (l.hand handed (taskResultPageIdOf uuid)) now insertion := by
  have hprun := h.prune now
  have hstays : ∀ id snapshot, s.snapshotsById.lookup id = some snapshot →
      now < snapshot.expiresAt → (s.prune now).1.snapshotsById.lookup id = some snapshot :=
    fun id snapshot hlive hnow => prune_lookup hlive hnow
  unfold TaskResultPageStore.insert
  generalize s.prune now = pruned at *
  obtain ⟨t, released⟩ := pruned
  dsimp only at hprun hstays ⊢
  cases hmatching : t.matching handed with
  | some existing =>
    obtain ⟨hlive, -, -⟩ := matching_some hmatching
    have hrenewed := hprun.renew (taskResultPageIdOf uuid) hlive
      (hprun.matching_bytes hmatching (hfr.release released) hs)
    have hl : ∀ other, (t.renew existing handed).snapshotsById.lookup other =
        if other = handed.snapshotId then _ else t.snapshotsById.lookup other :=
      fun other => lookup_insert_ite
    have hid := (hprun.kept _ existing hlive).snapshotId
    refine ⟨_, rfl, fun error herror => (by cases herror), ?_, ?_⟩
    · intro id isNew hins
      cases hins
      refine ⟨⟨_, by rw [hl, if_pos hid]⟩, none, .inl rfl, ?_⟩
      rw [← Ledger.release_release]
      exact hrenewed
    · intro id snapshot hf hu hnow
      have hb := hstays id snapshot hf hnow
      by_cases ho : id = handed.snapshotId
      · rw [ho, hlive] at hb
        cases hb
        rw [hl, if_pos ho]
        exact ⟨_, rfl, rfl, rfl, rfl, Finset.Subset.refl _⟩
      · exact ⟨snapshot, by rw [hl, if_neg ho]; exact hb, .refl snapshot⟩
  | none =>
    obtain ⟨⟨u, evicted, room⟩, hrun, hmade⟩ :=
      @Tracked.makeRoom t _ none (resultArtifacts handed.output.results)
        handed.output.results.length handed.encodedBytes (t.snapshotOrder.length + 1) hprun
        (Nat.lt_succ_self _)
    rw [hrun]
    have htracked := hmade.tracked
    rw [Ledger.release_release] at htracked
    cases room with
    | false =>
      refine ⟨_, rfl, ?_, fun id isNew hins => (by cases hins), ?_⟩
      · intro error _
        have hrefu := htracked.refuse handed (taskResultPageIdOf uuid)
        rw [← Ledger.release_release]
        exact hrefu
      · intro id snapshot hf hu hnow
        exact ⟨snapshot, hmade.unpublished id snapshot (hstays id snapshot hf hnow)
          hu, .refl snapshot⟩
    | true =>
      dsimp only
      generalize hk : (if handed.snapshotId ∈ u.snapshotsById then taskResultPageIdOf uuid
        else handed.snapshotId) = key
      have ha : key ∉ u.snapshotsById := by
        rw [← hk]
        split
        · exact htracked.drawn_absent (hfr.release (released ++ evicted))
        · assumption
      have hc : key = handed.snapshotId ∨ key = taskResultPageIdOf uuid := by
        rw [← hk]
        split
        · exact .inr rfl
        · exact .inl rfl
      have hn := htracked.insertNew ha hc (hmade.room rfl)
      have hl : ∀ other, (u.insertNew key handed).snapshotsById.lookup other =
          if other = key then _ else u.snapshotsById.lookup other :=
        fun other => lookup_insert_ite
      refine ⟨_, rfl, fun error herror => (by cases herror), ?_, ?_⟩
      · intro id isNew hins
        cases hins
        exact ⟨⟨_, by rw [hl, if_pos rfl]⟩, some key, .inr rfl, hn⟩
      · intro id snapshot hf hu hnow
        have hb :=
          hmade.unpublished id snapshot (hstays id snapshot hf hnow) hu
        have ho : id ≠ key := by
          rintro rfl
          exact ha (lookup_isSome.mp (by rw [hb]; rfl))
        exact ⟨snapshot, by rw [hl, if_neg ho]; exact hb, .refl snapshot⟩

theorem cancelFirstPage_lookup {registration : TaskResultPageRegistration}
    {found : TaskResultPageSnapshot} (hf : s.snapshotsById.lookup id = some found)
    (hmore : (found.pendingFirstPageRegistrations.erase registration.registrationId).Nonempty) :
    ∃ found', (s.cancelFirstPage registration).1.snapshotsById.lookup id = some found' ∧
      found'.taskId = found.taskId ∧ found'.output = found.output ∧
      found'.published = found.published := by
  unfold TaskResultPageStore.cancelFirstPage
  cases hl : s.snapshotsById.lookup registration.snapshotId with
  | none => exact ⟨found, hf, rfl, rfl, rfl⟩
  | some snapshot =>
    dsimp only
    split
    · by_cases ho : id = registration.snapshotId
      · rw [ho, hl] at hf
        cases hf
        rw [if_neg (nonempty_iff_ne_empty.mp hmore)]
        rw [update_lookup, if_pos ho]
        exact ⟨_, rfl, rfl, rfl, rfl⟩
      · split
        · rw [removeSnapshot_lookup, if_neg ho, update_lookup, if_neg ho]
          exact ⟨found, hf, rfl, rfl, rfl⟩
        · dsimp only
          rw [update_lookup, if_neg ho]
          exact ⟨found, hf, rfl, rfl, rfl⟩
    · exact ⟨found, hf, rfl, rfl, rfl⟩

theorem registerFirstPage_registration {uuid : Uuid} {registration : TaskResultPageRegistration}
    (h : (s.registerFirstPage id uuid).2 = some registration) :
    registration = ⟨id, registrationIdOf uuid⟩ := by
  unfold TaskResultPageStore.registerFirstPage at h
  cases hl : s.snapshotsById.lookup id with
  | none =>
    rw [hl] at h
    cases h
  | some snapshot =>
    rw [hl] at h
    dsimp only at h
    split at h
    · cases h
    · exact (some.inj h).symm

/-- A snapshot that waits for its publication, and whose time has not come, is still there. -/
def KeepsUnpublished (s t : TaskResultPageStore) (now : Nat) : Prop :=
  ∀ id snapshot, s.snapshotsById.lookup id = some snapshot → snapshot.published = false →
    now < snapshot.expiresAt → ∃ found, t.snapshotsById.lookup id = some found ∧
      found.taskId = snapshot.taskId ∧ found.output = snapshot.output ∧ found.published = false

theorem Tracked.firstPage {now pageSize : Nat} {draws : FirstPageDraws} (h : Tracked l none s)
    (hfr : (l.call handed draws).Fresh) (hs : (l.call handed draws).SameContents) :
    ∃ result, s.firstPage handed now pageSize draws = some result ∧
      Tracked ((l.call handed draws).release result.released) none result.store ∧
      KeepsUnpublished s result.store now := by
  have hinsertFresh : (l.hand handed (taskResultPageIdOf draws.snapshot)).Fresh :=
    ⟨hfr.leases, hfr.ids,
      (nodup_append.mp hfr.tokens).1, (nodup_append.mp hfr.registrations).1,
      hfr.apart⟩
  have htokenFresh : taskResultTokenOf draws.token ∉ l.tokens := fun hm =>
    (nodup_append.mp hfr.tokens).2.2 _ hm _ (List.mem_singleton.mpr rfl) rfl
  have hregistrationFresh : registrationIdOf draws.registration ∉ l.registrations := fun hm =>
    (nodup_append.mp hfr.registrations).2.2 _ hm _ (List.mem_singleton.mpr rfl) rfl
  obtain ⟨⟨t, inserted, released⟩, hinsert, hins⟩ :=
    @Tracked.insert s l handed now draws.snapshot h hinsertFresh hs
  unfold TaskResultPageStore.firstPage
  rw [hinsert]
  cases inserted with
  | error error =>
    refine ⟨_, rfl, ?_, ?_⟩
    · exact (hins.refused error rfl).mono
        ⟨List.Subset.refl _, List.Subset.refl _, subset_append_left _ _,
          subset_append_left _ _⟩ rfl rfl
    · intro id snapshot hf hu hnow
      obtain ⟨found, hfound', hcontn⟩ :=
        hins.unpublished id snapshot hf hu hnow
      exact ⟨found, hfound', hcontn.taskId, hcontn.output,
        hcontn.published.trans hu⟩
  | ok key =>
    obtain ⟨key, isNew⟩ := key
    obtain ⟨⟨live, hl⟩, waiting, hwait, htracked⟩ := hins.kept key isNew rfl
    have hreg := htracked.registerFirstPage draws.registration hl hwait
    have hpaged := @Tracked.page _ _ none 0 pageSize draws.token hreg key htokenFresh
    have hstays : ∀ id snapshot, s.snapshotsById.lookup id = some snapshot →
        snapshot.published = false → now < snapshot.expiresAt →
          ∃ found, ((t.registerFirstPage key draws.registration).1.page key 0 pageSize
            draws.token).1.snapshotsById.lookup id = some found ∧ Continues snapshot found := by
      intro id snapshot hf hu hnow
      obtain ⟨inserted, hinserted', hfst⟩ :=
        hins.unpublished id snapshot hf hu hnow
      obtain ⟨registered, hregistered', hsnd⟩ :=
        @registerFirstPage_lookup _ key draws.registration id inserted hinserted'
      obtain ⟨paged, hpaged', hthird⟩ :=
        @page_lookup _ key 0 pageSize draws.token id registered hregistered'
      exact ⟨paged, hpaged', hfst.trans (hsnd.trans hthird)⟩
    have hregn := @registerFirstPage_registration t key draws.registration
    dsimp only
    generalize t.registerFirstPage key draws.registration = registered at *
    obtain ⟨u, registration⟩ := registered
    generalize u.page key 0 pageSize draws.token = paged at *
    obtain ⟨v, page⟩ := paged
    have hkp : KeepsUnpublished s v now := by
      intro id snapshot hf hu hnow
      obtain ⟨found, hfound', hcontn⟩ := hstays id snapshot hf hu hnow
      exact ⟨found, hfound', hcontn.taskId, hcontn.output,
        hcontn.published.trans hu⟩
    cases page with
    | ok payload => exact ⟨_, rfl, hpaged, hkp⟩
    | error error =>
      cases registration with
      | none => exact ⟨_, rfl, hpaged, hkp⟩
      | some registration =>
        -- The page could not be given out, so its registration is cancelled.
        have hcanc := hpaged.cancelFirstPage registration
        refine ⟨_, rfl, ?_, ?_⟩
        · dsimp only
          rw [← Ledger.release_release]
          exact hcanc
        · intro id snapshot hf hu hnow
          obtain ⟨found, hfound', hcontn⟩ := hstays id snapshot hf hu hnow
          have hp := h.registered id snapshot hf (by simp) hu
          obtain ⟨other, ho⟩ := hp
          have hne : other ≠ registration.registrationId := by
            rw [hregn rfl]
            rintro rfl
            exact hregistrationFresh ((h.kept id snapshot hf).registrations _ ho)
          obtain ⟨kept, hk, ht, hout, hpubl⟩ :=
            @cancelFirstPage_lookup v id registration found hfound'
              ⟨other, mem_erase.mpr ⟨hne, hcontn.registrations ho⟩⟩
          exact ⟨kept, hk, ht.trans hcontn.taskId,
            hout.trans hcontn.output,
            hpubl.trans (hcontn.published.trans hu)⟩

theorem Tracked.continuationPage {now pageSize : Nat} {uuid : Uuid}
    (h : Tracked l none s) (hfr : taskResultTokenOf uuid ∉ l.tokens) :
    Tracked ((l.draw (taskResultTokenOf uuid)).release
        (s.continuationPage token taskId now pageSize uuid).2.2) none
      (s.continuationPage token taskId now pageSize uuid).1 := by
  have hprun := h.prune now
  unfold TaskResultPageStore.continuationPage
  generalize s.prune now = pruned at *
  obtain ⟨t, released⟩ := pruned
  dsimp only at hprun ⊢
  cases hresol : t.resolveToken token taskId with
  | error error => exact hprun.mono ((l.release released).le_draw _) rfl rfl
  | ok cursor =>
    obtain ⟨key, offset⟩ := cursor
    exact hprun.page key hfr

end TaskResultPageStore

inductive TaskResultEvent
  | firstPage (snapshot : TaskOutputSnapshot) (now pageSize : Nat)
      (draws : TaskResultPageStore.FirstPageDraws)
  | continuationPage (token taskId : String) (now pageSize : Nat) (uuid : Uuid)
  | publishFirstPage (registration : TaskResultPageRegistration)
  | cancelFirstPage (registration : TaskResultPageRegistration)
  | invalidateTasks (taskIds : Finset String)
  | invalidateLibraryItem (libraryItemId : String)
  | prune (now : Nat)

/-- One call; the label also says which leases it returns for release. -/
inductive TaskResultStep :
    TaskResultPageStore → TaskResultEvent × List String → TaskResultPageStore → Prop
  | firstPage {s : TaskResultPageStore} {snapshot now pageSize draws result}
      (h : s.firstPage snapshot now pageSize draws = some result) :
      TaskResultStep s (.firstPage snapshot now pageSize draws, result.released) result.store
  | continuationPage (s : TaskResultPageStore) (token taskId now pageSize uuid) :
      TaskResultStep s (.continuationPage token taskId now pageSize uuid,
          (s.continuationPage token taskId now pageSize uuid).2.2)
        (s.continuationPage token taskId now pageSize uuid).1
  | publishFirstPage (s : TaskResultPageStore) (registration) :
      TaskResultStep s (.publishFirstPage registration, []) (s.publishFirstPage registration).1
  | cancelFirstPage (s : TaskResultPageStore) (registration) :
      TaskResultStep s (.cancelFirstPage registration, (s.cancelFirstPage registration).2.toList)
        (s.cancelFirstPage registration).1
  | invalidateTasks (s : TaskResultPageStore) (taskIds) :
      TaskResultStep s (.invalidateTasks taskIds, (s.invalidateTasks taskIds).2)
        (s.invalidateTasks taskIds).1
  | invalidateLibraryItem (s : TaskResultPageStore) (libraryItemId) :
      TaskResultStep s (.invalidateLibraryItem libraryItemId,
        (s.invalidateLibraryItem libraryItemId).2) (s.invalidateLibraryItem libraryItemId).1
  | prune (s : TaskResultPageStore) (now) :
      TaskResultStep s (.prune now, (s.prune now).2) (s.prune now).1

def Ledger.event (l : Ledger) : TaskResultEvent → Ledger
  | .firstPage snapshot _ _ draws => l.call snapshot draws
  | .continuationPage _ _ _ _ uuid => l.draw (taskResultTokenOf uuid)
  | .publishFirstPage _ => l
  | .cancelFirstPage _ => l
  | .invalidateTasks _ => l
  | .invalidateLibraryItem _ => l
  | .prune _ => l

def ledgerOf (labels : List (TaskResultEvent × List String)) : Ledger :=
  labels.foldl (fun l label => (l.event label.1).release label.2) .empty

theorem ledgerOf_snoc (past : List (TaskResultEvent × List String))
    (label : TaskResultEvent × List String) :
    ledgerOf (past ++ [label]) = ((ledgerOf past).event label.1).release label.2 := by
  simp [ledgerOf]

theorem Ledger.Fresh.of_event {l : Ledger} {event : TaskResultEvent} (h : (l.event event).Fresh) :
    l.Fresh := by
  cases event with
  | firstPage snapshot now pageSize draws =>
    have hleases : (l.leases ++ [snapshot.resourceLeaseId]).Nodup := by
      have := h.leases
      simpa [Ledger.event, Ledger.call, Ledger.draw, Ledger.register, Ledger.hand,
        Ledger.leases] using this
    exact ⟨(nodup_append.mp hleases).1, (nodup_append.mp h.ids).1,
      (nodup_append.mp h.tokens).1, (nodup_append.mp h.registrations).1,
      fun id hid handed hm => h.apart id (mem_append_left _ hid) handed
        (mem_append_left _ hm)⟩
  | continuationPage token taskId now pageSize uuid =>
    exact ⟨h.leases, h.ids, (nodup_append.mp h.tokens).1, h.registrations, h.apart⟩
  | publishFirstPage registration | cancelFirstPage registration
  | invalidateLibraryItem libraryItemId | invalidateTasks taskIds | prune now => exact h

theorem Ledger.SameContents.of_event {l : Ledger} {event : TaskResultEvent}
    (h : (l.event event).SameContents) : l.SameContents := by
  have hsub : l.handed ⊆ (l.event event).handed := by
    cases event with
    | firstPage snapshot now pageSize draws => exact subset_append_left _ _
    | continuationPage token taskId now pageSize uuid | prune now
    | publishFirstPage registration | cancelFirstPage registration
    | invalidateLibraryItem libraryItemId | invalidateTasks taskIds => exact List.Subset.refl _
  exact fun first hfst second hsnd => h first (hsub hfst) second (hsub hsnd)

section

variable {labels past : List (TaskResultEvent × List String)}
  {label : TaskResultEvent × List String} {s t : TaskResultPageStore}

open TaskResultPageStore

theorem TaskResultPageStore.Tracked.step {l : Ledger} (h : Tracked l none s)
    (hst : TaskResultStep s label t)
    (hfr : (l.event label.1).Fresh) (hs : (l.event label.1).SameContents) :
    Tracked ((l.event label.1).release label.2) none t := by
  cases hst with
  | @firstPage snapshot now pageSize draws result hres =>
    obtain ⟨result', hresult', htracked, -⟩ :=
      @Tracked.firstPage s l snapshot now pageSize draws h hfr hs
    rw [hres] at hresult'
    cases hresult'
    exact htracked
  | continuationPage token taskId now pageSize uuid =>
    apply h.continuationPage
    intro hm
    exact (nodup_append.mp hfr.tokens).2.2 _ hm _ (List.mem_singleton.mpr rfl) rfl
  | publishFirstPage registration =>
    rw [Ledger.release_nil]
    exact h.publishFirstPage registration
  | cancelFirstPage registration => exact h.cancelFirstPage registration
  | invalidateTasks taskIds | invalidateLibraryItem libraryItemId => exact h.removeSnapshots _
  | prune now => exact h.prune now

theorem tracked_of_run (hrun : Run TaskResultStep .default labels s)
    (hfr : (ledgerOf labels).Fresh) (hs : (ledgerOf labels).SameContents) :
    Tracked (ledgerOf labels) none s := by
  apply hrun.invariant_history (fun past s => (ledgerOf past).Fresh →
    (ledgerOf past).SameContents → Tracked (ledgerOf past) none s)
  · intro a b label past hst hpast hfr hs
    rw [ledgerOf_snoc] at hfr hs ⊢
    have hev : ((ledgerOf past).event label.1).Fresh :=
      { hfr with }
    exact (hpast hev.of_event (Ledger.SameContents.of_event hs)).step hst hev hs
  · exact fun _ _ => tracked_default
  · exact hfr
  · exact hs

/-- In every run the store is in step with the ledger of the run: a lease that was handed in is
with one live snapshot or was returned for release, once. A further first page returns, and
keeps the snapshots that wait for their publication. -/
theorem task_result_store_invariant (hrun : Run TaskResultStep .default labels s)
    (hfresh : (ledgerOf labels).Fresh) (hsame : (ledgerOf labels).SameContents) :
    Tracked (ledgerOf labels) none s ∧
      (∀ lease ∈ (ledgerOf labels).leases,
        (s.leases.count lease = 1 ∧ lease ∉ (ledgerOf labels).released) ∨
          (lease ∉ s.leases ∧ (ledgerOf labels).released.count lease = 1)) ∧
      ∀ snapshot now pageSize draws, ((ledgerOf labels).call snapshot draws).Fresh →
        ((ledgerOf labels).call snapshot draws).SameContents →
          ∃ result, s.firstPage snapshot now pageSize draws = some result ∧
            KeepsUnpublished s result.store now := by
  have h := tracked_of_run hrun hfresh hsame
  refine ⟨h, ?_, ?_⟩
  · intro lease hlease
    have hcount := h.leases.count_eq lease
    rw [count_append, count_eq_one_of_mem hfresh.leases hlease] at hcount
    have hcases : (s.leases.count lease = 1 ∧ (ledgerOf labels).released.count lease = 0) ∨
        (s.leases.count lease = 0 ∧ (ledgerOf labels).released.count lease = 1) := by
      omega
    rcases hcases with ⟨hlive, hreleased⟩ | ⟨hlive, hreleased⟩
    · exact .inl ⟨hlive, count_eq_zero.mp hreleased⟩
    · exact .inr ⟨count_eq_zero.mp hlive, hreleased⟩
  · intro snapshot now pageSize draws hnext hcontents
    obtain ⟨result, hresult, -, hkeeps⟩ :=
      @Tracked.firstPage s _ snapshot now pageSize draws h hnext hcontents
    exact ⟨result, hresult, hkeeps⟩

end

def sampleOutput : TaskOutputSnapshot :=
  { taskId := "task-1"
    revision := 1
    snapshotId := "task-output-1"
    resourceLeaseId := "lease-1"
    resourceLeaseExpiresAt := 1000
    encodedBytes := 0
    output := ⟨1, "task-output-1", "", [], [], false⟩ }

def sampleFirstPageDraws : TaskResultPageStore.FirstPageDraws :=
  ⟨sampleUuid, sampleUuid, sampleUuid⟩

theorem task_result_store_invariant_sample :
    ∃ result, TaskResultPageStore.default.firstPage sampleOutput 0 50 sampleFirstPageDraws =
        some result ∧
      TaskResultPageStore.Tracked
        (ledgerOf [(.firstPage sampleOutput 0 50 sampleFirstPageDraws, result.released)]) none
        result.store := by
  have hcall : (Ledger.empty.call sampleOutput sampleFirstPageDraws).Fresh :=
    ⟨by decide, by decide, by decide, by decide, by
      intro id hid handed hmem
      cases List.mem_singleton.mp hid
      cases List.mem_singleton.mp hmem
      decide⟩
  have hcontents : (Ledger.empty.call sampleOutput sampleFirstPageDraws).SameContents := by
    intro first hfirst second hsecond _ _ _
    cases List.mem_singleton.mp hfirst
    cases List.mem_singleton.mp hsecond
    exact ⟨rfl, rfl⟩
  obtain ⟨result, hresult, -⟩ :=
    @TaskResultPageStore.Tracked.firstPage _ _ sampleOutput 0 50 sampleFirstPageDraws
      TaskResultPageStore.tracked_default hcall hcontents
  have hrun : Run TaskResultStep .default
      [(.firstPage sampleOutput 0 50 sampleFirstPageDraws, result.released)] result.store :=
    Run.single (.firstPage hresult)
  exact ⟨result, hresult, (task_result_store_invariant hrun (hcall.release _) hcontents).1⟩

end NetPlayer.Paging
