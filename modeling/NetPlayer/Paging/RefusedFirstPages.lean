import NetPlayer.Paging.TaskResultRuns
import Mathlib.Algebra.Order.BigOperators.Group.List

/-!
# First pages that are refused

A first page for which there is no room has evicted the published snapshots one by one before it
is refused. It costs nobody else exactly when no published snapshot was left to evict.
-/

namespace NetPlayer.Paging

open List AList

open Outputs (TaskOutputRecord)
open ProtoLength PagedSnapshots Transition

/-- The refusal of `insert`. -/
def capacityBusy : Status :=
  .resourceExhausted "Task result snapshot capacity is busy; retry the request shortly."

namespace TaskResultPageStore

def pinned (s : TaskResultPageStore) (now : Nat) : TaskResultPageStore :=
  (s.removeSnapshots (s.idsWhere fun snapshot =>
    decide (snapshot.expiresAt ≤ now) || snapshot.published)).1

/-- The output is not kept already, and what the loop cannot take leaves no room for it. -/
def Refuses (s : TaskResultPageStore) (snapshot : TaskOutputSnapshot) (now : Nat) : Prop :=
  (s.prune now).1.matching snapshot = none ∧
    (s.pinned now).snapshotBudgetExceeded (resultArtifacts snapshot.output.results)
      snapshot.output.results.length snapshot.encodedBytes = true

def KeepsUnexpired (s t : TaskResultPageStore) (now : Nat) : Prop :=
  ∀ id snapshot, s.snapshotsById.lookup id = some snapshot → now < snapshot.expiresAt →
    t.snapshotsById.lookup id = some snapshot ∧
      ∀ token cursor, s.cursorsByToken token = some cursor → cursor.snapshotId = id →
        t.cursorsByToken token = some cursor

def Ordered (s : TaskResultPageStore) : Prop := ∀ id ∈ s.snapshotsById, id ∈ s.snapshotOrder

variable {s t u : TaskResultPageStore} {id : String} {snapshot old : TaskResultPageSnapshot}
  {artifactCount resultCount encodedBytes rounds now : Nat} {ids : List String}

def Within (s t : TaskResultPageStore) : Prop :=
  ∀ id snapshot, s.snapshotsById.lookup id = some snapshot →
    t.snapshotsById.lookup id = some snapshot

theorem Within.total_le (h : s.Within t) (weight : TaskResultPageSnapshot → Nat) :
    total weight s.snapshotsById ≤ total weight t.snapshotsById := by
  have hsub : s.snapshotsById.entries ⊆ t.snapshotsById.entries := by
    rintro ⟨id, snapshot⟩ hm
    exact mem_lookup_iff.mp (h id snapshot (mem_lookup_iff.mpr hm))
  obtain ⟨front, hperm, hsublist⟩ :=
    subperm_of_subset s.snapshotsById.nodupKeys.nodup hsub
  have hsum := (hsublist.map fun entry => weight entry.2).sum_le_sum fun _ _ => Nat.zero_le _
  rw [(hperm.map fun entry => weight entry.2).sum_eq] at hsum
  simpa [total, values, Function.comp_def] using hsum

theorem Within.exceeded (h : s.Within t)
    (hs : s.snapshotBudgetExceeded artifactCount resultCount encodedBytes = true) :
    t.snapshotBudgetExceeded artifactCount resultCount encodedBytes = true := by
  by_contra ht
  rw [Bool.not_eq_true, snapshotBudgetExceeded_false] at ht
  have hlen := h.total_le fun _ => 1
  rw [total_one, total_one] at hlen
  have harts := h.total_le (·.artifactCount)
  have hres := h.total_le (·.output.results.length)
  have hbytes := h.total_le (·.encodedBytes)
  have hroom : s.snapshotBudgetExceeded artifactCount resultCount encodedBytes = false := by
    rw [snapshotBudgetExceeded_false]
    omega
  rw [hs] at hroom
  cases hroom

theorem pinned_lookup :
    (s.pinned now).snapshotsById.lookup id = some snapshot ↔
      s.snapshotsById.lookup id = some snapshot ∧ now < snapshot.expiresAt ∧
        snapshot.published = false := by
  unfold pinned
  rw [removeSnapshots_lookup]
  by_cases hm : id ∈ s.idsWhere fun snapshot =>
      decide (snapshot.expiresAt ≤ now) || snapshot.published
  · rw [if_pos hm]
    obtain ⟨found, hf, hg⟩ := mem_idsWhere.mp hm
    rw [hf]
    constructor
    · intro h
      cases h
    · rintro ⟨h, hnow, hpubl⟩
      cases h
      rw [Bool.or_eq_true, decide_eq_true_eq, hpubl] at hg
      rcases hg with hg | hg
      · omega
      · cases hg
  · rw [if_neg hm]
    constructor
    · intro hl
      have hstays : ¬ (decide (snapshot.expiresAt ≤ now) || snapshot.published) = true :=
        fun hg => hm (mem_idsWhere.mpr ⟨snapshot, hl, hg⟩)
      rw [Bool.or_eq_true, decide_eq_true_eq, not_or, not_le, Bool.not_eq_true] at hstays
      exact ⟨hl, hstays⟩
    · exact And.left

theorem removeSnapshots_cursor {token : String} {cursor : TaskResultPageCursor}
    (hcur : s.cursorsByToken token = some cursor) (hk : cursor.snapshotId ∉ ids) :
    (s.removeSnapshots ids).1.cursorsByToken token = some cursor := by
  induction ids generalizing s with
  | nil => exact hcur
  | cons first rest ih =>
    rw [mem_cons, not_or] at hk
    apply ih _ hk.2
    exact Option.filter_eq_some_iff.mpr ⟨hcur, by simpa using hk.1⟩

theorem prune_keeps : s.KeepsUnexpired (s.prune now).1 now := by
  intro id snapshot hl hnow
  refine ⟨prune_lookup hl hnow, ?_⟩
  rintro token cursor hcur rfl
  apply removeSnapshots_cursor hcur
  intro hm
  obtain ⟨found, hf, hexp⟩ := mem_idsWhere.mp hm
  rw [hl] at hf
  cases hf
  rw [decide_eq_true_eq] at hexp
  omega

theorem Ordered.removeSnapshot (h : s.Ordered) : (s.removeSnapshot id).1.Ordered := by
  intro other hm
  obtain ⟨hne, hl⟩ := mem_erase.mp hm
  exact mem_filter.mpr ⟨h other hl, by simpa using hne⟩

theorem Ordered.removeSnapshots (h : s.Ordered) : (s.removeSnapshots ids).1.Ordered := by
  induction ids generalizing s with
  | nil => exact h
  | cons first rest ih => exact ih h.removeSnapshot

theorem Ordered.update (h : s.Ordered) (hl : s.snapshotsById.lookup id = some old) :
    (s.update id snapshot).Ordered := by
  intro other hm
  rcases mem_insert _ |>.mp hm with rfl | ho
  · exact h other (lookup_isSome.mp (by rw [hl]; rfl))
  · exact h other ho

theorem Ordered.page {offset pageSize : Nat} {uuid : Uuid} (h : s.Ordered) :
    (s.page id offset pageSize uuid).1.Ordered := by
  rcases @page_store s id offset pageSize uuid with hs | ⟨snapshot, last, hl, -, -, -,
    hissued⟩
  · rw [hs]
    exact h
  · rw [hissued]
    exact h.update hl

theorem Ordered.registerFirstPage {uuid : Uuid} (h : s.Ordered) :
    (s.registerFirstPage id uuid).1.Ordered := by
  unfold TaskResultPageStore.registerFirstPage
  cases hl : s.snapshotsById.lookup id with
  | none => exact h
  | some snapshot =>
    dsimp only
    split
    · exact h
    · exact h.update hl

theorem Ordered.publishFirstPage {registration : TaskResultPageRegistration} (h : s.Ordered) :
    (s.publishFirstPage registration).1.Ordered := by
  unfold TaskResultPageStore.publishFirstPage
  cases hl : s.snapshotsById.lookup registration.snapshotId with
  | none => exact h
  | some snapshot =>
    dsimp only
    split
    · exact h
    · split
      · exact h.update hl
      · exact h

theorem Ordered.cancelFirstPage {registration : TaskResultPageRegistration} (h : s.Ordered) :
    (s.cancelFirstPage registration).1.Ordered := by
  unfold TaskResultPageStore.cancelFirstPage
  cases hl : s.snapshotsById.lookup registration.snapshotId with
  | none => exact h
  | some snapshot =>
    dsimp only
    split
    · split
      · exact (h.update hl).removeSnapshot
      · exact h.update hl
    · exact h

theorem Ordered.renew {handed : TaskOutputSnapshot} (h : s.Ordered)
    (hl : s.snapshotsById.lookup handed.snapshotId = some old) : (s.renew old handed).Ordered := by
  intro other hm
  have hb : other ∈ s.snapshotOrder := by
    rcases mem_insert _ |>.mp hm with rfl | ho
    · exact h _ (lookup_isSome.mp (by rw [hl]; rfl))
    · exact h other ho
  by_cases hs : other = old.snapshotId
  · exact mem_append_right _ (mem_singleton.mpr hs)
  · exact mem_append_left _ (mem_filter.mpr ⟨hb, by simpa using hs⟩)

theorem Ordered.insertNew {handed : TaskOutputSnapshot} (h : s.Ordered) :
    (s.insertNew id handed).Ordered := by
  intro other hm
  rcases mem_insert _ |>.mp hm with rfl | ho
  · exact mem_append_right _ (mem_singleton.mpr rfl)
  · exact mem_append_left _ (h other ho)

theorem Ordered.oldestPublished_none (h : s.Ordered) (hn : s.oldestPublished = none)
    (hl : s.snapshotsById.lookup id = some snapshot) : snapshot.published = false := by
  have horder := h id (lookup_isSome.mp (by rw [hl]; rfl))
  have hskip := List.find?_eq_none.mp hn id horder
  rw [hl] at hskip
  simpa using hskip

/-- What `insert` does with a store that is ordered: it returns, and it refuses exactly the
outputs for which nothing that it may evict makes room. -/
structure Decides (s : TaskResultPageStore) (handed : TaskOutputSnapshot) (now : Nat)
    (insertion : Insertion) : Prop where
  ordered : insertion.store.Ordered
  refused : s.Refuses handed now → insertion.inserted = .error capacityBusy ∧
    ∀ id snapshot, insertion.store.snapshotsById.lookup id = some snapshot →
      snapshot.published = false
  accepted : ¬ s.Refuses handed now → ∃ accepted, insertion.inserted = .ok accepted
  untouched : s.Refuses handed now → (∀ id snapshot, s.snapshotsById.lookup id = some snapshot →
    now < snapshot.expiresAt → snapshot.published = false) → insertion.store = (s.prune now).1

theorem prune_some (h : (s.prune now).1.snapshotsById.lookup id = some snapshot) :
    s.snapshotsById.lookup id = some snapshot ∧ now < snapshot.expiresAt := by
  unfold TaskResultPageStore.prune at h
  rw [removeSnapshots_lookup] at h
  split at h
  · cases h
  rename_i hstays
  refine ⟨h, ?_⟩
  by_contra hnow
  exact hstays (mem_idsWhere.mpr ⟨snapshot, h, decide_eq_true (not_lt.mp hnow)⟩)

theorem Ordered.insert {handed : TaskOutputSnapshot} {uuid : Uuid} (h : s.Ordered) :
    ∃ insertion, s.insert handed now uuid = some insertion ∧ Decides s handed now insertion := by
  have hprun : (s.prune now).1.Ordered := h.removeSnapshots
  have hs : ∀ id snapshot, (s.prune now).1.snapshotsById.lookup id = some snapshot →
      s.snapshotsById.lookup id = some snapshot ∧ now < snapshot.expiresAt :=
    fun id snapshot => prune_some
  have hlook : ∀ id snapshot, s.snapshotsById.lookup id = some snapshot →
      now < snapshot.expiresAt → (s.prune now).1.snapshotsById.lookup id = some snapshot :=
    fun id snapshot hl hnow => prune_lookup hl hnow
  unfold TaskResultPageStore.insert
  rw [show s.prune now = ((s.prune now).1, (s.prune now).2) from rfl]
  dsimp only
  cases hmatching : (s.prune now).1.matching handed with
  | some existing =>
    refine ⟨_, rfl, hprun.renew (matching_some hmatching).1, ?_, fun _ => ⟨_, rfl⟩, ?_⟩
    · rintro ⟨hn, -⟩
      rw [hmatching] at hn
      cases hn
    · rintro ⟨hn, -⟩
      rw [hmatching] at hn
      cases hn
  | none =>
    obtain ⟨ids, room, hrun, hevict, hexceeded, hpinned⟩ :=
      @makeRoom_spec (s.prune now).1 (resultArtifacts handed.output.results)
        handed.output.results.length handed.encodedBytes _ (Nat.lt_succ_self _)
    have hord : ((s.prune now).1.removeSnapshots ids).1.Ordered := hprun.removeSnapshots
    rw [hrun]
    cases room with
    | false =>
      -- What is left is neither expired nor published, so the pinned part has no room either.
      have hu : ∀ id snapshot, ((s.prune now).1.removeSnapshots ids).1.snapshotsById.lookup
          id = some snapshot → snapshot.published = false :=
        fun _ _ => hord.oldestPublished_none (hpinned rfl)
      have hwithin : ((s.prune now).1.removeSnapshots ids).1.Within (s.pinned now) := by
        intro id snapshot hl
        have hb := hl
        rw [removeSnapshots_lookup] at hb
        split at hb
        · cases hb
        · obtain ⟨hb, hnow⟩ := hs id snapshot hb
          exact pinned_lookup.mpr ⟨hb, hnow, hu id snapshot hl⟩
      refine ⟨_, rfl, hord, fun _ => ⟨rfl, hu⟩, ?_, ?_⟩
      · exact fun hroom => absurd ⟨hmatching, hwithin.exceeded hexceeded⟩ hroom
      · intro _ hall
        -- Every evicted snapshot was live in the pruned store, and published.
        cases ids with
        | nil => rfl
        | cons first rest =>
          obtain ⟨found, hf, hpubl⟩ := hevict first mem_cons_self
          obtain ⟨hb, hnow⟩ := hs first found hf
          rw [hall first found hb hnow] at hpubl
          cases hpubl
    | true =>
      have hwithin : (s.pinned now).Within ((s.prune now).1.removeSnapshots ids).1 := by
        intro id snapshot hl
        obtain ⟨hb, hnow, hu⟩ := pinned_lookup.mp hl
        have hstays := hlook id snapshot hb hnow
        rw [removeSnapshots_lookup, if_neg]
        · exact hstays
        · intro hid
          obtain ⟨found, hf, hpubl⟩ := hevict id hid
          rw [hstays] at hf
          cases hf
          rw [hu] at hpubl
          cases hpubl
      have hroom : ¬ (s.pinned now).snapshotBudgetExceeded
          (resultArtifacts handed.output.results) handed.output.results.length
          handed.encodedBytes = true := by
        intro hbusy
        have hbusy := hwithin.exceeded hbusy
        rw [hexceeded] at hbusy
        cases hbusy
      exact ⟨_, rfl, hord.insertNew, fun hrefuses => absurd hrefuses.2 hroom,
        fun _ => ⟨_, rfl⟩, fun hrefuses => absurd hrefuses.2 hroom⟩

theorem pageCount_ne_busy {first : Bool} {results : List Outputs.TaskResult} :
    pageCount first encodedBytes artifactCount results ≠ .error capacityBusy := by
  induction results generalizing first encodedBytes artifactCount with
  | nil => simp [pageCount]
  | cons result rest ih =>
    unfold pageCount
    dsimp only
    split
    · decide
    split
    · simp
    split
    · decide
    split
    · simp
    intro h
    cases hmore : pageCount false (saturatingAdd encodedBytes _) _ rest with
    | error error =>
      rw [hmore] at h
      cases h
      exact ih hmore
    | ok count =>
      rw [hmore] at h
      cases h

theorem page_ne_busy {offset pageSize : Nat} {uuid : Uuid} :
    (s.page id offset pageSize uuid).2 ≠ .error capacityBusy := by
  unfold TaskResultPageStore.page
  cases s.snapshotsById.lookup id with
  | none => exact fun h => by cases h
  | some snapshot =>
    dsimp only
    split
    · exact fun h => by cases h
    split
    · rename_i error herror
      intro h
      cases h
      exact pageCount_ne_busy herror
    · split
      · split <;> simp
      · simp

theorem Ordered.firstPage {handed : TaskOutputSnapshot} {pageSize : Nat} {draws : FirstPageDraws}
    (h : s.Ordered) :
    ∃ result, s.firstPage handed now pageSize draws = some result ∧ result.store.Ordered ∧
      ∃ insertion, Decides s handed now insertion ∧
        (s.Refuses handed now →
          result.store = insertion.store ∧ result.page = .error capacityBusy) ∧
        (¬ s.Refuses handed now → result.page ≠ .error capacityBusy) := by
  obtain ⟨⟨t, inserted, released⟩, hinsert, hdecides⟩ :=
    @Ordered.insert s now handed draws.snapshot h
  unfold TaskResultPageStore.firstPage
  rw [hinsert]
  cases inserted with
  | error error =>
    have hrefuses : s.Refuses handed now := by
      by_contra hroom
      obtain ⟨accepted, hacc⟩ := hdecides.accepted hroom
      cases hacc
    obtain ⟨herror, -⟩ := hdecides.refused hrefuses
    exact ⟨_, rfl, hdecides.ordered, _, hdecides, fun _ => ⟨rfl, by simpa using herror⟩,
      fun hroom => absurd hrefuses hroom⟩
  | ok accepted =>
    obtain ⟨id, isNew⟩ := accepted
    have hroom : ¬ s.Refuses handed now := by
      intro hrefuses
      obtain ⟨herror, -⟩ := hdecides.refused hrefuses
      cases herror
    have hreg : (t.registerFirstPage id draws.registration).1.Ordered :=
      hdecides.ordered.registerFirstPage
    dsimp only
    generalize t.registerFirstPage id draws.registration = registered at *
    obtain ⟨u, registration⟩ := registered
    have hpaged := @Ordered.page u id 0 pageSize draws.token hreg
    have hpage := @page_ne_busy u id 0 pageSize draws.token
    generalize u.page id 0 pageSize draws.token = paged at *
    obtain ⟨v, page⟩ := paged
    cases page with
    | ok page =>
      exact ⟨_, rfl, hpaged, _, hdecides, fun hrefuses => absurd hrefuses hroom, fun _ => hpage⟩
    | error error =>
      cases registration with
      | none =>
        exact ⟨_, rfl, hpaged, _, hdecides, fun hrefuses => absurd hrefuses hroom, fun _ => hpage⟩
      | some registration =>
        exact ⟨_, rfl, hpaged.cancelFirstPage, _, hdecides,
          fun hrefuses => absurd hrefuses hroom, fun _ => hpage⟩

theorem Ordered.step {label : TaskResultEvent × List String} (h : s.Ordered)
    (hst : TaskResultStep s label t) : t.Ordered := by
  cases hst with
  | @firstPage snapshot now pageSize draws result hres =>
    obtain ⟨result', hresult', hord, -⟩ := @Ordered.firstPage s now snapshot pageSize draws h
    rw [hres] at hresult'
    cases hresult'
    exact hord
  | continuationPage token taskId now pageSize uuid =>
    unfold TaskResultPageStore.continuationPage
    have hprun : (s.prune now).1.Ordered := h.removeSnapshots
    generalize s.prune now = pruned at *
    obtain ⟨u, released⟩ := pruned
    dsimp only at hprun ⊢
    cases u.resolveToken token taskId with
    | error error => exact hprun
    | ok cursor => exact hprun.page
  | publishFirstPage registration => exact h.publishFirstPage
  | cancelFirstPage registration => exact h.cancelFirstPage
  | invalidateTasks taskIds | invalidateLibraryItem libraryItemId => exact h.removeSnapshots
  | prune now => exact h.removeSnapshots

end TaskResultPageStore

open TaskResultPageStore

/-- In every store that a run reaches, a first page that is refused for lack of room leaves all
unexpired snapshots as they are, exactly if it is not refused or no unexpired snapshot is
published. -/
theorem refused_first_page_keeps_iff {labels : List (TaskResultEvent × List String)}
    {s : TaskResultPageStore} (hrun : Run TaskResultStep .default labels s)
    (snapshot : TaskOutputSnapshot) (now pageSize : Nat) (draws : FirstPageDraws) :
    (∀ result, s.firstPage snapshot now pageSize draws = some result →
        result.page = .error capacityBusy → s.KeepsUnexpired result.store now) ↔
      (s.Refuses snapshot now → ∀ id live, s.snapshotsById.lookup id = some live →
        now < live.expiresAt → live.published = false) := by
  have hordered : s.Ordered := by
    refine hrun.invariant Ordered (fun hstep h => h.step hstep) ?_
    intro id hid
    cases hid
  obtain ⟨result, hresult, -, insertion, hdecides, hrefused, haccepted⟩ :=
    @Ordered.firstPage s now snapshot pageSize draws hordered
  constructor
  · intro hkeeps hrefuses id live hlive hnow
    obtain ⟨hstore, hpage⟩ := hrefused hrefuses
    obtain ⟨hstays, -⟩ := hkeeps result hresult hpage id live hlive hnow
    rw [hstore] at hstays
    exact (hdecides.refused hrefuses).2 id live hstays
  · intro hunpublished result' hresult' hpage
    rw [hresult] at hresult'
    cases hresult'
    have hrefuses : s.Refuses snapshot now := by
      by_contra hroom
      exact haccepted hroom hpage
    rw [(hrefused hrefuses).1, hdecides.untouched hrefuses (hunpublished hrefuses)]
    exact prune_keeps

def sizedOutput (name : String) (encodedBytes : Nat) : TaskOutputSnapshot :=
  { sampleOutput with taskId := name, snapshotId := name, encodedBytes }

def otherUuid : Uuid := ⟨"00000000000040008000000000000003", by decide⟩

def lastUuid : Uuid := ⟨"00000000000040008000000000000002", by decide⟩

/-- Two outputs of 32 MiB that wait for their publication leave no room for a third one: it is
refused, and they stay. -/
theorem refused_first_page_keeps_iff_full :
    ∃ labels s result, Run TaskResultStep .default labels s ∧
      s.firstPage (sizedOutput "task-3" 2000) 0 1 sampleFirstPageDraws = some result ∧
      result.page = .error capacityBusy ∧ (s.snapshotsById.lookup "task-1").isSome = true ∧
      s.KeepsUnexpired result.store 0 := by
  have hrun : Run TaskResultStep .default _ _ :=
    Run.cons (@TaskResultStep.firstPage _ (sizedOutput "task-1" 33554432) 0 1
      sampleFirstPageDraws _ rfl) (Run.single (@TaskResultStep.firstPage _
        (sizedOutput "task-2" 33554432) 0 1 ⟨otherUuid, otherUuid, otherUuid⟩ _ rfl))
  have hiff := refused_first_page_keeps_iff hrun (sizedOutput "task-3" 2000) 0 1
    sampleFirstPageDraws
  refine ⟨_, _, _, hrun, rfl, rfl, rfl, hiff.mpr (fun _ id live hl _ => ?_) _ rfl rfl⟩
  have hm := AList.mem_lookup_iff.mp hl
  rcases List.mem_cons.mp hm with hlast | hm
  · cases hlast
    rfl
  · cases List.mem_singleton.mp hm
    rfl

/-- A published snapshot and two large ones that wait for their publication: a further first page
is refused, and the published snapshot is gone. -/
theorem refused_first_page_evicts :
    ∃ labels s result, Run TaskResultStep .default labels s ∧
      s.firstPage (sizedOutput "task-4" 2000) 0 1 sampleFirstPageDraws = some result ∧
      result.page = .error capacityBusy ∧ ¬ s.KeepsUnexpired result.store 0 := by
  refine ⟨_, _, _,
    Run.cons (@TaskResultStep.firstPage _ (sizedOutput "task-1" 1000) 0 1 sampleFirstPageDraws _ rfl)
      (Run.cons (.publishFirstPage _ ⟨"task-1", registrationIdOf sampleUuid⟩)
        (Run.cons (@TaskResultStep.firstPage _ (sizedOutput "task-2" 33554432) 0 1
          ⟨otherUuid, otherUuid, otherUuid⟩ _ rfl)
          (Run.single (@TaskResultStep.firstPage _ (sizedOutput "task-3" 33553432) 0 1
            ⟨lastUuid, lastUuid, lastUuid⟩ _ rfl)))),
    rfl, rfl, ?_⟩
  intro hkeeps
  have hgone := (hkeeps "task-1" _ rfl (by decide)).1
  cases hgone

end NetPlayer.Paging
