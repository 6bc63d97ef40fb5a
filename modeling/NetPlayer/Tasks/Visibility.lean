import NetPlayer.Tasks.Transitions

/-!
# What readers of the task registry see

Readers and watchers get visible tasks. With a store, a visible task is what an
installed save wrote, but for the progress that is published without a save, and a
live task that is not shown has a publication pending.
-/

namespace NetPlayer.Tasks

open List Option

open Function (update update_apply)
open Registry
open Transition (Run)

section

variable {Output : Type} {outputs : TaskOutputs Output} {config : Config Output}
  {moves : MoveSet} {inputs : SaveInput → Prop}

def Registry.Agree (registry : Registry Output) : Prop :=
  ∀ id, registry.hasPendingPublication id = false →
    registry.tasksById id = registry.visibleTasksById id

variable {before after : Registry Output}

theorem Touched.agree (touched : Touched outputs moves before after) (agree : before.Agree) :
    after.Agree := by
  intro id hpend
  obtain ⟨hbefore, hl⟩ := touched.staged id hpend
  rw [hl, touched.visible]
  exact agree id hbefore

theorem agree_of_live (agree : before.Agree) (tasks : after.tasksById = before.tasksById)
    (visible : after.visibleTasksById = before.visibleTasksById)
    (pending : after.pendingPublicationsById = before.pendingPublicationsById) : after.Agree := by
  intro id h
  rw [tasks, visible]
  apply agree id
  rw [← h]
  unfold hasPendingPublication
  rw [pending]

theorem tombstoned_of_live (tombstones : before.Tombstoned)
    (tasks : after.tasksById = before.tasksById)
    (pending : after.pendingPublicationsById = before.pendingPublicationsById) :
    after.Tombstoned := by
  intro entry hentry hnone
  rw [pending] at hentry
  rw [tasks] at hnone
  exact tombstones entry hentry hnone

theorem tombstoned_installCommitted (registry : Registry Output) (input : SaveInput)
    (pruned : List String) : (registry.installCommitted input pruned).Tombstoned := by
  intro entry hentry
  rw [(installCommitted_spec registry input pruned).2.2.1] at hentry
  cases hentry

variable {id : String} {task : Task} (consistent : before.Consistent outputs)

include consistent in
theorem tombstoned_volatile (live : before.tasksById id = some task)
    (tombstones : before.Tombstoned) (progress : BilibiliTaskProgress) (now : Timestamp) :
    ((before.setTask id (task.withProgress progress now)).publishVolatileLocked
      (task.withProgress progress now)).Tombstoned := by
  have hkey : task.id = id := consistent.live live
  have hid : (task.withProgress progress now).id = id := hkey
  have hgone : ∀ other, (before.setTask id (task.withProgress progress now)).tasksById other =
      none → other ≠ id ∧ before.tasksById other = none := by
    intro other hnone
    have hlook : update before.tasksById id (some (task.withProgress progress now)) other =
      none := hnone
    rw [update_apply] at hlook
    split at hlook
    · cases hlook
    · next hne => exact ⟨hne, hlook⟩
  unfold publishVolatileLocked
  split
  · intro entry hentry hnone
    obtain ⟨hne, hbefore⟩ := hgone entry.1 hnone
    cases mem_upsertTask hentry with
    | inl same => exact (hne ((congrArg Prod.fst same).trans hid)).elim
    | inr old => exact tombstones entry old hbefore
  · intro entry hentry hnone
    exact tombstones entry hentry (hgone entry.1 hnone).2

theorem agree_installCommitted (registry : Registry Output) (input : SaveInput)
    (pruned : List String) : (registry.installCommitted input pruned).Agree := by
  intro id _
  obtain ⟨htasks, hvis, -⟩ := installCommitted_spec registry input pruned
  rw [htasks, hvis]

theorem not_pending_of_staged {id other : String}
    (hid : task.id = id)
    (h : ((before.setTask id task).stagePublicationLocked task).hasPendingPublication other = false) :
    other ≠ id ∧ before.hasPendingPublication other = false := by
  have hnot : (task.id == other || before.hasPendingPublication other) = false := by
    simpa [hasPendingPublication, stagePublicationLocked, setTask] using h
  obtain ⟨ho, hbefore⟩ := Bool.or_eq_false_iff.mp hnot
  refine ⟨fun heq => ?_, hbefore⟩
  rw [heq, hid] at ho
  simp at ho

include consistent in
theorem agree_volatile (live : before.tasksById id = some task) (agree : before.Agree)
    (progress : BilibiliTaskProgress) (now : Timestamp) :
    ((before.setTask id (task.withProgress progress now)).publishVolatileLocked
      (task.withProgress progress now)).Agree := by
  have hkey : task.id = id := consistent.live live
  have hid : (task.withProgress progress now).id = id := hkey
  intro other hpend
  unfold publishVolatileLocked at hpend ⊢
  split at hpend
  · next hstaged =>
      rw [if_pos hstaged]
      obtain ⟨hne, hbefore⟩ := not_pending_of_staged hid hpend
      show update before.tasksById id _ other = before.visibleTasksById other
      rw [update_apply, if_neg hne]
      exact agree other hbefore
  · next hshown =>
      rw [if_neg hshown]
      show update before.tasksById id _ other = update before.visibleTasksById _ _ other
      rw [hid, update_apply, update_apply]
      split
      · rfl
      · exact agree other hpend

def Task.withoutProgress (task : Task) : Task :=
  { task with
    progress := 0, downloadedBytes := 0, totalBytes := 0, message := "", updatedAt := none }

/-- The task is, up to its progress, one of the start or a record of an installed save. -/
def Committed (base : String → Option Task) (installed : List InstalledSnapshot) (task : Task) :
    Prop :=
  ∃ record : Task, record.withoutProgress = task.withoutProgress ∧
    (base task.id = some record ∨ ∃ snapshot ∈ installed, snapshot.records task.id = some record)

/-- A watcher also gets what a save pruned with the change it commits, and tombstones. -/
def Exposed (base : String → Option Task) (installed : List InstalledSnapshot) (task : Task) :
    Prop :=
  Committed base installed task ∨
    (∃ snapshot ∈ installed, snapshot.pruned task.id = some task) ∨
    task.state = .failed ∧ ∃ snapshot ∈ installed, task ∈ snapshot.removed

variable {base : String → Option Task}

variable {installed : List InstalledSnapshot}

theorem Committed.mono (h : Committed base installed task) (more : List InstalledSnapshot) :
    Committed base (installed ++ more) task := by
  obtain ⟨record, hs, horigin⟩ := h
  refine ⟨record, hs, ?_⟩
  cases horigin with
  | inl atStart => exact .inl atStart
  | inr saved =>
    obtain ⟨snapshot, hm, hh⟩ := saved
    exact .inr ⟨snapshot, mem_append_left more hm, hh⟩

theorem Exposed.mono (h : Exposed base installed task) (more : List InstalledSnapshot) :
    Exposed base (installed ++ more) task := by
  rcases h with committed | ⟨snapshot, hm, hprun⟩ | ⟨hfailed, snapshot, hm, hrem⟩
  · exact .inl (committed.mono more)
  · exact .inr (.inl ⟨snapshot, mem_append_left more hm, hprun⟩)
  · exact .inr (.inr ⟨hfailed, snapshot, mem_append_left more hm, hrem⟩)

theorem Committed.withProgress (h : Committed base installed task)
    (progress : BilibiliTaskProgress) (now : Timestamp) :
    Committed base installed (task.withProgress progress now) :=
  h

/-- All that a subscription gives its reader. -/
def TaskWatcher.tasks (watcher : TaskWatcher) : List Task :=
  watcher.snapshots ++ watcher.received ++ watcher.buffer

variable {watcher : TaskWatcher}

theorem mem_tasks_send {sent : Task} (h : task ∈ (watcher.send sent).tasks) :
    task ∈ watcher.tasks ∨ task = sent := by
  unfold TaskWatcher.send at h
  split at h
  · split at h
    · simp only [TaskWatcher.tasks, mem_append, mem_singleton] at h ⊢
      tauto
    · exact .inl h
  · exact .inl h

theorem mem_tasks_foldl_send {events : List Task}
    (h : task ∈ (events.foldl TaskWatcher.send watcher).tasks) :
    task ∈ watcher.tasks ∨ task ∈ events := by
  induction events generalizing watcher with
  | nil => exact .inl h
  | cons event rest ih =>
    cases ih h with
    | inl before =>
      cases mem_tasks_send before with
      | inl old => exact .inl old
      | inr same => exact .inr (same ▸ mem_cons_self)
    | inr later => exact .inr (mem_cons_of_mem event later)

theorem mem_tasks_recv : task ∈ watcher.recv.2.tasks ↔ task ∈ watcher.tasks := by
  unfold TaskWatcher.recv
  cases hbuffer : watcher.buffer with
  | nil =>
    simp only
    split
    · exact Iff.rfl
    · split <;> exact Iff.rfl
  | cons event rest => simp [TaskWatcher.tasks, hbuffer]

variable {watchers : List TaskWatcher}

theorem mem_modify_tasks (change : TaskWatcher → TaskWatcher)
    (same : ∀ watcher task, task ∈ (change watcher).tasks → task ∈ watcher.tasks) {index : Nat}
    (hwatcher : watcher ∈ watchers.modify index change) (h : task ∈ watcher.tasks) :
    ∃ old ∈ watchers, task ∈ old.tasks := by
  induction watchers generalizing index with
  | nil => simp at hwatcher
  | cons first rest ih =>
    cases index with
    | zero =>
      rw [modify_zero_cons, mem_cons] at hwatcher
      cases hwatcher with
      | inl changed =>
        rw [changed] at h
        exact ⟨first, mem_cons_self, same first task h⟩
      | inr kept => exact ⟨watcher, mem_cons_of_mem first kept, h⟩
    | succ index =>
      rw [modify_succ_cons, mem_cons] at hwatcher
      cases hwatcher with
      | inl kept => exact ⟨first, mem_cons_self, kept ▸ h⟩
      | inr later =>
        obtain ⟨old, hold, hs⟩ := ih later
        exact ⟨old, mem_cons_of_mem first hold, hs⟩

def Registry.commitEvents (registry : Registry Output) (input : SaveInput)
    (pruned : List String) : List Task :=
  (((registry.applyPrunedTasks pruned).installVisibleLiveStateLocked
    ).refreshPendingPublicationsLocked).publications input.publicationIds

theorem installCommitted_watchers (registry : Registry Output) (input : SaveInput)
    (pruned : List String) :
    (registry.installCommitted input pruned).watchers = registry.watchers.map fun watcher =>
      (registry.commitEvents input pruned).foldl TaskWatcher.send watcher := by
  unfold installCommitted commitEvents
  rw [publishPendingLocked_eq]
  rfl

theorem mem_enumeratePublications {ids : List String} {pending : List (String × Task)}
    {entry : String × Task} (h : entry ∈ enumeratePublications ids pending) : entry ∈ pending := by
  simp only [enumeratePublications, mem_append, mem_flatMap, mem_filter] at h
  rcases h with ⟨id, -, hm, -⟩ | ⟨hm, -⟩
  · exact hm
  · exact hm

variable {registry : Registry Output}

theorem mem_commitEvents {input : SaveInput} {pruned : List String}
    (h : task ∈ registry.commitEvents input pruned) :
    ∃ entry ∈ registry.pendingPublicationsById,
      task = (registry.unpruned pruned entry.1).getD entry.2 := by
  obtain ⟨entry, hm, heq⟩ := List.mem_map.mp h
  obtain ⟨old, hold, hrefd⟩ := List.mem_map.mp (mem_enumeratePublications hm)
  refine ⟨old, hold, ?_⟩
  rw [← heq, ← hrefd]
  show (registry.unpruned pruned old.1).getD ((registry.unpruned pruned old.1).getD old.2) =
    (registry.unpruned pruned old.1).getD old.2
  cases registry.unpruned pruned old.1 <;> rfl

theorem pending_of_refreshed (refreshed : registry.refreshPendingPublicationsLocked = registry)
    {entry : String × Task} (h : entry ∈ registry.pendingPublicationsById)
    (live : registry.tasksById entry.1 = some task) : entry.2 = task := by
  have hmap := congrArg Registry.pendingPublicationsById refreshed
  have hs := map_eq_map_iff.mp (hmap.trans (List.map_id _).symm) entry h
  have hsnd := congrArg Prod.snd hs
  simp only [live, getD_some, id] at hsnd
  exact hsnd.symm

def Registry.contents (registry : Registry Output) (pruned : List String) : InstalledSnapshot where
  records := registry.unpruned pruned
  pruned id := if id ∈ pruned then registry.tasksById id else none
  removed := (registry.pendingPublicationsById.filter fun entry =>
    (registry.tasksById entry.1).isNone).map Prod.snd

structure Registry.Shown (base : String → Option Task) (registry : Registry Output) : Prop where
  agree : registry.Agree
  tombstones : registry.Tombstoned
  visible : ∀ {id task}, registry.visibleTasksById id = some task →
    Committed base registry.installed task
  sent : ∀ watcher ∈ registry.watchers, ∀ task ∈ watcher.tasks,
    Exposed base registry.installed task

theorem Registry.Shown.of_same (shown : before.Shown base) (agree : after.Agree)
    (tombstones : after.Tombstoned) (visible : after.visibleTasksById = before.visibleTasksById)
    (watchers : after.watchers = before.watchers)
    (installed : ∃ more, after.installed = before.installed ++ more) : after.Shown base := by
  obtain ⟨more, hinst⟩ := installed
  exact
    { agree := agree
      tombstones := tombstones
      visible := by
        intro id task h
        rw [visible] at h
        rw [hinst]
        exact (shown.visible h).mono more
      sent := by
        intro watcher hwatcher task ht
        rw [watchers] at hwatcher
        rw [hinst]
        exact (shown.sent watcher hwatcher task ht).mono more }

theorem Registry.Shown.of_quiet (shown : before.Shown base) (quiet : Quiet before after) :
    after.Shown base := by
  refine shown.of_same ?_ ?_ quiet.visible quiet.watchers
    ⟨[], by rw [quiet.installed, append_nil]⟩
  · exact agree_of_live shown.agree quiet.tasks quiet.visible quiet.pending
  · exact tombstoned_of_live shown.tombstones quiet.tasks quiet.pending

variable {current middle start : Registry Output}

theorem shown_installed (touched : Touched outputs moves before current)
    (refreshed : current.refreshPendingPublicationsLocked = current)
    (consistent : current.Consistent outputs) (shown : before.Shown base) (input : SaveInput)
    (pruned : List String) :
    ((current.recordInstalled pruned).installCommitted input pruned).Shown base := by
  obtain ⟨-, hvis, -, hinst, -, -⟩ :=
    installCommitted_spec (current.recordInstalled pruned) input pruned
  have hhistory : ((current.recordInstalled pruned).installCommitted input pruned).installed =
      before.installed ++ [current.contents pruned] := by
    rw [hinst, ← touched.installed]
    rfl
  have hn : current.contents pruned ∈ before.installed ++ [current.contents pruned] :=
    mem_append_right _ (mem_singleton_self _)
  rw [← hhistory] at hn
  have hlast : ∀ {id task}, current.unpruned pruned id = some task →
      Committed base ((current.recordInstalled pruned).installCommitted input pruned).installed
        task := by
    intro id task h
    have hrec := h
    unfold unpruned at h
    split at h
    · cases h
    have hid : task.id = id := consistent.live h
    refine ⟨task, rfl, .inr ⟨_, hn, ?_⟩⟩
    rw [hid]
    exact hrec
  refine ⟨agree_installCommitted _ _ _, tombstoned_installCommitted _ _ _, ?_, ?_⟩
  · intro id task h
    rw [hvis] at h
    exact hlast h
  · intro watcher hwatcher task ht
    rw [installCommitted_watchers] at hwatcher
    obtain ⟨old, hold, heq⟩ := List.mem_map.mp hwatcher
    rw [← heq] at ht
    cases mem_tasks_foldl_send ht with
    | inl earlier =>
      have hwatd : old ∈ before.watchers := touched.watchers ▸ hold
      rw [hhistory]
      exact (shown.sent old hwatd task earlier).mono _
    | inr event =>
      obtain ⟨entry, hentry, hev⟩ := mem_commitEvents event
      cases hk : (current.recordInstalled pruned).unpruned pruned entry.1 with
      | some kept =>
        rw [hk] at hev
        rw [hev]
        exact .inl (hlast hk)
      | none =>
        rw [hk, getD_none] at hev
        cases hl : current.tasksById entry.1 with
        | none =>
          -- The tombstone of a removed task.
          refine .inr (.inr ⟨?_, _, hn, ?_⟩)
          · rw [hev]
            exact touched.tombstones shown.tombstones entry hentry hl
          rw [hev]
          exact List.mem_map_of_mem (mem_filter.mpr ⟨hentry, by rw [hl]; rfl⟩)
        | some last =>
          -- The save pruned the task with the change it commits.
          have hs : entry.2 = last := pending_of_refreshed refreshed hentry hl
          have hid : last.id = entry.1 := consistent.live hl
          have hprun : entry.1 ∈ pruned := by
            by_contra hnot
            unfold unpruned at hk
            rw [if_neg hnot] at hk
            rw [show (current.recordInstalled pruned).tasksById = current.tasksById from rfl,
              hl] at hk
            cases hk
          refine .inr (.inl ⟨_, hn, ?_⟩)
          rw [hev, hs, hid]
          show (if entry.1 ∈ pruned then current.tasksById entry.1 else none) = some last
          rw [if_pos hprun, hl]

include consistent in
theorem shown_volatile (live : before.tasksById id = some task) (shown : before.Shown base)
    (progress : BilibiliTaskProgress) (now : Timestamp) :
    ((before.setTask id (task.withProgress progress now)).publishVolatileLocked
      (task.withProgress progress now)).Shown base := by
  have hagree := agree_volatile consistent live shown.agree progress now
  have htombstones := tombstoned_volatile consistent live shown.tombstones progress now
  have hkey : task.id = id := consistent.live live
  have hid : (task.withProgress progress now).id = id := hkey
  unfold publishVolatileLocked at hagree htombstones ⊢
  split
  · next hstaged =>
      rw [if_pos hstaged] at hagree htombstones
      exact shown.of_same hagree htombstones rfl rfl ⟨[], (append_nil _).symm⟩
  · next hpubl =>
      rw [if_neg hpubl] at hagree htombstones
      rw [hid] at hpubl
      simp only [Bool.or_eq_true, not_or, Bool.not_eq_true] at hpubl
      have hshown : before.visibleTasksById id = some task := by
        rw [← live]
        exact (shown.agree id hpubl.1).symm
      have hcommitted : Committed base before.installed (task.withProgress progress now) :=
        (shown.visible hshown).withProgress progress now
      refine ⟨hagree, htombstones, ?_, ?_⟩
      · intro other found h
        have hlook : update before.visibleTasksById (task.withProgress progress now).id
          (some (task.withProgress progress now)) other = some found := h
        rw [update_apply] at hlook
        split at hlook
        · cases hlook
          exact hcommitted
        · exact shown.visible hlook
      · intro watcher hwatcher sent hsent
        obtain ⟨old, hold, heq⟩ := List.mem_map.mp hwatcher
        rw [← heq] at hsent
        cases mem_tasks_send hsent with
        | inl earlier => exact shown.sent old hold sent earlier
        | inr same =>
          rw [same]
          exact .inl hcommitted

theorem Effect.shown (effect : Effect config inputs moves before after)
    (store : config.persistence = true) (consistent : before.Consistent config.outputs)
    (shown : before.Shown base) : after.Shown base := by
  have present : config.persistence ≠ false := by
    rw [store]
    exact nofun
  cases effect with
  | quiet quiet => exact shown.of_quiet quiet
  | kept touched _ =>
    exact shown.of_same (touched.agree shown.agree) (touched.tombstones shown.tombstones)
      touched.visible touched.watchers ⟨[], by rw [touched.installed, append_nil]⟩
  | installed touched refreshed _ input pruned =>
    exact shown_installed touched refreshed (touched.consistent consistent) shown input pruned
  | volatileInstalled _ absent | unstaged absent => exact (present absent).elim
  | restored restored _ =>
    refine shown.of_same ?_ ?_ restored.visible restored.watchers restored.installed
    · exact agree_of_live shown.agree restored.tasks restored.visible restored.pending
    · exact tombstoned_of_live shown.tombstones restored.tasks restored.pending
  | volatile live progress now => exact shown_volatile consistent live shown progress now

variable {operation : Operation}

theorem shown_watcherStep (moved : WatcherStep registry operation watchers)
    (shown : registry.Shown base) :
    ({ registry with watchers := watchers } : Registry Output).Shown base := by
  refine ⟨shown.agree, shown.tombstones, shown.visible, ?_⟩
  intro watcher hwatcher task ht
  cases moved with
  | subscribe taskIds watchedIds =>
    have hm : watcher ∈ registry.watchers ++ [_] := hwatcher
    rw [mem_append, mem_singleton] at hm
    cases hm with
    | inl old => exact shown.sent watcher old task ht
    | inr new =>
      rw [new] at ht
      simp only [TaskWatcher.tasks, watchedTasks, append_nil, mem_filter,
        mem_filterMap] at ht
      obtain ⟨⟨id, -, hvis⟩, -⟩ := ht
      exact .inl (shown.visible hvis)
  | receive index =>
    obtain ⟨old, hold, hs⟩ := mem_modify_tasks (fun watcher => watcher.recv.2)
      (fun _ _ => mem_tasks_recv.mp) hwatcher ht
    exact shown.sent old hold task hs
  | drop index =>
    obtain ⟨old, hold, hs⟩ := mem_modify_tasks
      (fun watcher => { watcher with registered := false }) (fun _ _ h => h) hwatcher ht
    exact shown.sent old hold task hs

theorem step_shown (store : config.persistence = true) (step : Step config before operation after)
    (consistent : before.Consistent config.outputs) (shown : before.Shown base) :
    after.Shown base := by
  apply step_invariant (fun registry => registry.Shown base) consistent step shown
  · intro moves first second kept effect h
    exact effect.shown store kept h
  · intro first second quiet h
    exact h.of_quiet quiet
  · intro first operation watchers moved h
    exact shown_watcherStep moved h

def Registry.Grows (before after : Registry Output) : Prop :=
  ∃ more, after.installed = before.installed ++ more ∧
    (more = [] → ∀ id, (after.visibleTasksById id).map Task.withoutProgress =
      (before.visibleTasksById id).map Task.withoutProgress)

theorem grows_of_same (installed : ∃ more, after.installed = before.installed ++ more)
    (visible : after.visibleTasksById = before.visibleTasksById) : before.Grows after := by
  obtain ⟨more, hinst⟩ := installed
  refine ⟨more, hinst, ?_⟩
  intro _ id
  rw [visible]

theorem Registry.Grows.trans (first : before.Grows middle)
    (second : middle.Grows after) : before.Grows after := by
  obtain ⟨front, hfront, hfst⟩ := first
  obtain ⟨back, hback, hsnd⟩ := second
  refine ⟨front ++ back, ?_, ?_⟩
  · rw [hback, hfront, append_assoc]
  · intro hnone id
    obtain ⟨hfrontNil, hbackNil⟩ := append_eq_nil_iff.mp hnone
    exact (hsnd hbackNil id).trans (hfst hfrontNil id)

include consistent in
theorem grows_volatile (live : before.tasksById id = some task) (agree : before.Agree)
    (progress : BilibiliTaskProgress) (now : Timestamp) :
    before.Grows ((before.setTask id (task.withProgress progress now)).publishVolatileLocked
      (task.withProgress progress now)) := by
  have hkey : task.id = id := consistent.live live
  have hid : (task.withProgress progress now).id = id := hkey
  unfold publishVolatileLocked
  split
  · exact grows_of_same ⟨[], (append_nil _).symm⟩ rfl
  next hpubl =>
    rw [hid] at hpubl
    simp only [Bool.or_eq_true, not_or, Bool.not_eq_true] at hpubl
    have hshown : before.visibleTasksById id = some task := by
      rw [← live]
      exact (agree id hpubl.1).symm
    refine ⟨[], (append_nil _).symm, ?_⟩
    intro _ other
    show (update before.visibleTasksById (task.withProgress progress now).id
      (some (task.withProgress progress now)) other).map _ = _
    rw [hid, update_apply]
    split
    · next heq =>
        rw [heq, hshown]
        rfl
    · rfl

theorem Effect.grows (effect : Effect config inputs moves before after)
    (store : config.persistence = true) (consistent : before.Consistent config.outputs)
    (agree : before.Agree) : before.Grows after := by
  have present : config.persistence ≠ false := by
    rw [store]
    exact nofun
  cases effect with
  | quiet quiet | kept quiet _ =>
    exact grows_of_same ⟨[], by rw [quiet.installed, append_nil]⟩ quiet.visible
  | @installed current touched _ _ input pruned =>
    obtain ⟨-, -, -, hinst, -, -⟩ :=
      installCommitted_spec (current.recordInstalled pruned) input pruned
    refine ⟨[current.contents pruned], ?_, nofun⟩
    rw [hinst, ← touched.installed]
    rfl
  | volatileInstalled _ absent | unstaged absent => exact (present absent).elim
  | restored restored _ => exact grows_of_same restored.installed restored.visible
  | volatile live progress now => exact grows_volatile consistent live agree progress now

theorem step_grows (store : config.persistence = true) (step : Step config before operation after)
    (consistent : before.Consistent config.outputs) (shown : before.Shown base) :
    before.Grows after := by
  rcases step_effect consistent step with hcreate | hoper | hwats
  · obtain ⟨-, id, -, heffect⟩ := hcreate
    exact heffect.grows store consistent shown.agree
  · obtain ⟨middle, last, hfst, hl, hq⟩ := hoper
    have hend : last.Grows after :=
      grows_of_same ⟨[], by rw [hq.installed, append_nil]⟩ hq.visible
    cases hfst with
    | inl same =>
      rw [same] at hl
      exact (hl.grows store consistent shown.agree).trans hend
    | inr recovered =>
      have hk := recovered.2.consistent consistent
      have hmid := recovered.2.shown store consistent shown
      have hs := recovered.2.grows store consistent shown.agree
      exact (hs.trans (hl.grows store hk hmid.agree)).trans hend
  · obtain ⟨watchers, -, rfl⟩ := hwats
    exact grows_of_same ⟨[], (append_nil _).symm⟩ rfl

theorem started_shown (started : start.Started config) : start.Shown start.visibleTasksById where
  agree id _ := by rw [started.visible]
  tombstones := by
    intro entry h
    rw [started.pending] at h
    cases h
  visible := by
    intro id task h
    have hid : task.id = id := started.consistent.visible h
    refine ⟨task, rfl, .inl ?_⟩
    rw [hid]
    exact h
  sent := by
    rw [started.watchers]
    intro watcher h
    cases h

/-- In every run of a registry with a store, a task without a pending publication is
shown as it is; readers only get committed tasks, watchers also pruned tasks and tombstones; and
a step that installs no save changes nothing of what readers see but its progress. -/
theorem committed_visibility {start reached : Registry Output} {operations : List Operation}
    (store : config.persistence = true) (started : start.Started config)
    (run : Run (Step config) start operations reached) :
    (∀ id, reached.hasPendingPublication id = false →
        reached.tasksById id = reached.visibleTasksById id) ∧
      (∀ id task, reached.visibleTasksById id = some task →
        task.id = id ∧ Committed start.visibleTasksById reached.installed task) ∧
      (∀ watcher ∈ reached.watchers,
        ∀ task ∈ watcher.snapshots ++ watcher.received ++ watcher.buffer,
          Exposed start.visibleTasksById reached.installed task) ∧
      ∀ operation next, Step config reached operation next →
        next.installed = reached.installed → ∀ id,
          (next.visibleTasksById id).map Task.withoutProgress =
            (reached.visibleTasksById id).map Task.withoutProgress := by
  obtain ⟨consistent, shown⟩ := run.invariant (fun registry : Registry Output =>
      registry.Consistent config.outputs ∧ registry.Shown start.visibleTasksById)
    (fun step h => ⟨step_consistent step h.1, step_shown store step h.1 h.2⟩)
    ⟨started.consistent, started_shown started⟩
  refine ⟨shown.agree, ?_, shown.sent, ?_⟩
  · intro id task h
    exact ⟨consistent.visible h, shown.visible h⟩
  · intro operation next step hsame id
    obtain ⟨more, hmore, hkept⟩ := step_grows store step consistent shown
    rw [hsame] at hmore
    exact hkept (append_right_eq_self.mp hmore.symm) id

end

/-- A registry that keeps no terminal task. -/
def forgetfulConfig : Config SingleResult where
  outputs := singleResultOutputs
  persistence := true
  retentionPolicy := ⟨none, some 0⟩

def forgottenDownloadId : String := "bilibili-a"

def emptyWatched : Registry SingleResult := emptyRegistry.subscribe [] []

def downloadQueued : Registry SingleResult :=
  (emptyWatched.createBilibiliTask forgetfulConfig (durableSave forgottenDownloadId) none "a"
    "BV1").1

def downloadForgotten : Registry SingleResult :=
  (downloadQueued.cancelTask forgetfulConfig (durableSave forgottenDownloadId)
    (durableSave forgottenDownloadId) forgottenDownloadId ⟨1000, 0⟩).1

theorem emptyWatched_step : Step forgetfulConfig emptyRegistry .subscribe emptyWatched :=
  Step.subscribe _ _ _ nodup_nil fun _ h => (h rfl).elim

theorem downloadQueued_step : Step forgetfulConfig emptyWatched .createTask downloadQueued :=
  Step.createBilibiliTask _ _ _ _ _ rfl fun _ h => (h rfl).elim

theorem downloadForgotten_step :
    Step forgetfulConfig downloadQueued (.cancelTask forgottenDownloadId) downloadForgotten := by
  have hwatd := step_consistent emptyWatched_step
    (emptyRegistry_started forgetfulConfig).consistent
  have hl : (downloadQueued.tasksById forgottenDownloadId).isSome = true := by
    decide +kernel
  have honly : downloadQueued.Only forgottenDownloadId :=
    only_created hwatd (fun _ => rfl) downloadQueued_step (isSome_iff_ne_none.mp hl)
  exact Step.cancelTask _ _ _ _ _ (durableSave_enumerates honly)

theorem downloadForgotten_run :
    Run (Step forgetfulConfig) emptyRegistry
      [.subscribe, .createTask, .cancelTask forgottenDownloadId] downloadForgotten :=
  Run.snoc (Run.snoc (Run.single emptyWatched_step) downloadQueued_step) downloadForgotten_step

/-- The cancelled download is gone, and its watcher got it from the save that pruned it. -/
theorem committed_visibility_download :
    downloadForgotten.visibleTasksById forgottenDownloadId = none ∧
      ∀ watcher ∈ downloadForgotten.watchers,
        ∀ task ∈ watcher.snapshots ++ watcher.received ++ watcher.buffer,
          Exposed emptyRegistry.visibleTasksById downloadForgotten.installed task := by
  have hgone : downloadForgotten.visibleTasksById forgottenDownloadId = none := by
    decide +kernel
  exact ⟨hgone, (committed_visibility rfl (emptyRegistry_started forgetfulConfig)
    downloadForgotten_run).2.2.1⟩

def forgottenEvent : Option Task :=
  (downloadForgotten.watchers.head?.map TaskWatcher.tasks).bind List.getLast?

/-- A watcher got a task that no installed save has written. -/
theorem pruned_task_is_sent :
    ¬ ∀ (operations : List Operation) (reached : Registry SingleResult),
      Run (Step forgetfulConfig) emptyRegistry operations reached →
      ∀ watcher ∈ reached.watchers,
        ∀ task ∈ watcher.snapshots ++ watcher.received ++ watcher.buffer,
          ∃ snapshot ∈ reached.installed, task ∈ snapshot.removed ∨
            ∃ record, snapshot.records task.id = some record ∧
              record.withoutProgress = task.withoutProgress := by
  intro h
  cases hwatchers : downloadForgotten.watchers with
  | nil =>
    have hone : downloadForgotten.watchers.length = 1 := by decide +kernel
    rw [hwatchers] at hone
    cases hone
  | cons watcher rest =>
    cases hevent : forgottenEvent with
    | none =>
      have hsome : forgottenEvent.isSome = true := by decide +kernel
      rw [hevent] at hsome
      cases hsome
    | some task =>
      have hmem : task ∈ watcher.tasks := by
        unfold forgottenEvent at hevent
        rw [hwatchers] at hevent
        exact mem_of_getLast? hevent
      have hwatcher : watcher ∈ downloadForgotten.watchers := by
        rw [hwatchers]
        exact mem_cons_self
      obtain ⟨snapshot, hsnapshot, hheld⟩ :=
        h _ _ downloadForgotten_run watcher hwatcher task hmem
      have hnone : downloadForgotten.installed.all (fun snapshot =>
          snapshot.removed.isEmpty && decide (∀ task ∈ forgottenEvent,
            (snapshot.records task.id).map Task.withoutProgress ≠
              some task.withoutProgress)) = true := by decide +kernel
      have hsnap := List.all_eq_true.mp hnone snapshot hsnapshot
      rw [Bool.and_eq_true, decide_eq_true_eq, List.isEmpty_iff] at hsnap
      cases hheld with
      | inl removed =>
        rw [hsnap.1] at removed
        cases removed
      | inr written =>
        obtain ⟨record, hrecord, hsame⟩ := written
        apply hsnap.2 task hevent
        rw [hrecord, map_some, hsame]

end NetPlayer.Tasks
