import NetPlayer.Tasks.Visibility

/-!
# What a watcher of the task registry learns

A subscription gives the visible tasks at its start and then events. The last that it
gives of a task is the visible task, until the watcher falls behind and is dropped.
-/

namespace NetPlayer.Tasks

open List Option Function Registry

open Function (update update_apply)
open Transition (Run)

def latest (events : List Task) (id : String) : Option Task :=
  events.foldl (fun last task => if task.id = id then some task else last) none

theorem latest_concat (events : List Task) (task : Task) (id : String) :
    latest (events ++ [task]) id = if task.id = id then some task else latest events id := by
  simp [latest, foldl_append]

section

variable {id : String} {back events front : List Task}

theorem latest_append_of_not_mem (front : List Task)
    (h : ∀ task ∈ back, task.id ≠ id) : latest (front ++ back) id = latest front id := by
  induction back generalizing front with
  | nil => rw [append_nil]
  | cons task rest ih =>
    rw [append_cons, ih _ fun other ho => h other (mem_cons_of_mem task ho)]
    rw [latest_concat, if_neg (h task mem_cons_self)]

theorem latest_append_of_mem (front : List Task) (h : ∃ task ∈ back, task.id = id) :
    ∃ task ∈ back, task.id = id ∧ latest (front ++ back) id = some task := by
  induction back generalizing front with
  | nil =>
    obtain ⟨task, hmem, -⟩ := h
    cases hmem
  | cons task rest ih =>
    rw [append_cons]
    by_cases hr : ∃ other ∈ rest, other.id = id
    · obtain ⟨other, hmem, hid, hlatest⟩ := ih (front ++ [task]) hr
      exact ⟨other, mem_cons_of_mem task hmem, hid, hlatest⟩
    have hn : ∀ other ∈ rest, other.id ≠ id := by
      intro other ho heq
      exact hr ⟨other, ho, heq⟩
    have ht : task.id = id := by
      obtain ⟨found, hmem, hid⟩ := h
      cases mem_cons.mp hmem with
      | inl same => rw [← same]; exact hid
      | inr later => exact (hn found later hid).elim
    refine ⟨task, mem_cons_self, ht, ?_⟩
    rw [latest_append_of_not_mem _ hn, latest_concat, if_pos ht]

theorem mem_of_latest {task : Task} (h : latest events id = some task) :
    task ∈ events ∧ task.id = id := by
  by_cases hmem : ∃ found ∈ events, found.id = id
  · obtain ⟨found, hf, hid, hlatest⟩ := latest_append_of_mem [] hmem
    rw [nil_append, h] at hlatest
    cases hlatest
    exact ⟨hf, hid⟩
  · have ha : ∀ found ∈ events, found.id ≠ id := fun found hf heq =>
      hmem ⟨found, hf, heq⟩
    have hn := latest_append_of_not_mem [] ha
    rw [nil_append, h] at hn
    cases hn

theorem latest_append_ne_none (back : List Task) (h : latest front id ≠ none) :
    latest (front ++ back) id ≠ none := by
  by_cases hmem : ∃ task ∈ back, task.id = id
  · obtain ⟨task, -, -, hlatest⟩ := latest_append_of_mem front hmem
    rw [hlatest]
    exact nofun
  · rw [latest_append_of_not_mem front fun task ht heq => hmem ⟨task, ht, heq⟩]
    exact h

end

section

variable {Output : Type} {outputs : TaskOutputs Output} {config : Config Output}
  {moves : MoveSet} {inputs : SaveInput → Prop}

def TaskWatcher.watches (watcher : TaskWatcher) (id : String) : Bool :=
  watcher.watchedIds.isEmpty || watcher.watchedIds.contains id

structure TaskWatcher.Extends (before after : TaskWatcher) : Prop where
  watchedIds : after.watchedIds = before.watchedIds
  snapshots : after.snapshots = before.snapshots
  received : before.received <+: after.received
  events : before.received ++ before.buffer <+: after.received ++ after.buffer

theorem TaskWatcher.Extends.refl (watcher : TaskWatcher) : watcher.Extends watcher :=
  ⟨rfl, rfl, prefix_refl _, prefix_refl _⟩

theorem TaskWatcher.Extends.trans {before middle after : TaskWatcher}
    (first : before.Extends middle) (second : middle.Extends after) : before.Extends after where
  watchedIds := second.watchedIds.trans first.watchedIds
  snapshots := second.snapshots.trans first.snapshots
  received := first.received.trans second.received
  events := first.events.trans second.events

variable {id : String}

theorem TaskWatcher.Extends.latest_ne_none {before after : TaskWatcher}
    (extended : before.Extends after) (h : latest before.tasks id ≠ none) :
    latest after.tasks id ≠ none := by
  obtain ⟨more, hmore⟩ := extended.events
  have htasks : after.tasks = before.tasks ++ more := by
    unfold TaskWatcher.tasks
    rw [extended.snapshots, append_assoc, append_assoc, ← hmore, append_assoc,
      append_assoc]
  rw [htasks]
  exact latest_append_ne_none more h

theorem extends_send (watcher : TaskWatcher) (task : Task) :
    watcher.Extends (watcher.send task) := by
  unfold TaskWatcher.send
  split
  · split
    · refine ⟨rfl, rfl, prefix_refl _, ?_⟩
      rw [← append_assoc]
      exact prefix_append _ _
    · exact ⟨rfl, rfl, prefix_refl _, prefix_refl _⟩
  · exact TaskWatcher.Extends.refl watcher

theorem extends_foldl_send (events : List Task) (watcher : TaskWatcher) :
    watcher.Extends (events.foldl TaskWatcher.send watcher) := by
  induction events generalizing watcher with
  | nil => exact TaskWatcher.Extends.refl watcher
  | cons event rest ih => exact (extends_send watcher event).trans (ih (watcher.send event))

theorem extends_recv (watcher : TaskWatcher) : watcher.Extends watcher.recv.2 := by
  unfold TaskWatcher.recv
  cases hbuffer : watcher.buffer with
  | nil =>
    simp only
    split
    · exact TaskWatcher.Extends.refl watcher
    · split <;> exact TaskWatcher.Extends.refl watcher
  | cons event rest =>
    refine ⟨rfl, rfl, prefix_append _ _, ?_⟩
    rw [hbuffer, append_assoc]
    exact prefix_refl _

theorem recv_fields (watcher : TaskWatcher) :
    watcher.recv.2.tasks = watcher.tasks ∧ watcher.recv.2.registered = watcher.registered ∧
      watcher.recv.2.lagged = watcher.lagged ∧ watcher.recv.2.watchedIds = watcher.watchedIds := by
  unfold TaskWatcher.recv
  cases hbuffer : watcher.buffer with
  | nil =>
    simp only
    split
    · exact ⟨rfl, rfl, rfl, rfl⟩
    · split <;> exact ⟨rfl, rfl, rfl, rfl⟩
  | cons event rest => exact ⟨by simp [TaskWatcher.tasks, hbuffer], rfl, rfl, rfl⟩

variable {watcher : TaskWatcher}

theorem foldl_send_unregistered (events : List Task) (h : watcher.registered = false) :
    events.foldl TaskWatcher.send watcher = watcher := by
  induction events with
  | nil => rfl
  | cons event rest ih =>
    have hkept : watcher.send event = watcher := by simp [TaskWatcher.send, h]
    rw [foldl_cons, hkept]
    exact ih

theorem foldl_send_registered (events : List Task) (watcher : TaskWatcher)
    (h : watcher.registered = true) :
    let sent := events.foldl TaskWatcher.send watcher
    (sent.registered = true ∧
        sent.tasks = watcher.tasks ++ events.filter fun event => watcher.watches event.id) ∨
      (sent.registered = false ∧ sent.lagged = true) := by
  induction events generalizing watcher with
  | nil => exact .inl ⟨h, by simp⟩
  | cons event rest ih =>
    rw [foldl_cons]
    by_cases hm : watcher.matches event = true
    · have hwatches : watcher.watches event.id = true := hm
      by_cases hroom : watcher.buffer.length < watcherEventBufferCapacity
      · have hsend : watcher.send event =
            { watcher with buffer := watcher.buffer ++ [event] } := by
          simp [TaskWatcher.send, h, hm, hroom]
        rw [hsend]
        cases ih { watcher with buffer := watcher.buffer ++ [event] } h with
        | inl delivered =>
          left
          refine ⟨delivered.1, ?_⟩
          rw [delivered.2]
          simp only [filter_cons, hwatches, if_true]
          simp [TaskWatcher.tasks, TaskWatcher.watches]
        | inr behind => exact .inr behind
      · have hsend : watcher.send event =
            { watcher with lagged := true, registered := false } := by
          simp [TaskWatcher.send, h, hm, hroom]
        rw [hsend, foldl_send_unregistered rest rfl]
        exact .inr ⟨rfl, rfl⟩
    · have hunwatched : ¬ watcher.watches event.id = true := hm
      have hsend : watcher.send event = watcher := by simp [TaskWatcher.send, hm]
      rw [hsend]
      simp only [filter_cons, if_neg hunwatched]
      exact ih watcher h

variable {registry : Registry Output}

theorem commitEvents_of_pending (input : SaveInput) (pruned : List String) {entry : String × Task}
    (h : entry ∈ registry.pendingPublicationsById) :
    (registry.unpruned pruned entry.1).getD entry.2 ∈ registry.commitEvents input pruned := by
  refine List.mem_map.mpr ⟨(entry.1, (registry.unpruned pruned entry.1).getD entry.2), ?_, ?_⟩
  · have hmem : (entry.1, (registry.unpruned pruned entry.1).getD entry.2) ∈
        (((registry.applyPrunedTasks pruned).installVisibleLiveStateLocked
          ).refreshPendingPublicationsLocked).pendingPublicationsById :=
      List.mem_map.mpr ⟨entry, h, rfl⟩
    simp only [enumeratePublications, mem_append, mem_flatMap, mem_filter]
    by_cases hnamed : entry.1 ∈ input.publicationIds
    · exact .inl ⟨entry.1, hnamed, hmem, by simp⟩
    · exact .inr ⟨hmem, by simpa using hnamed⟩
  · show (registry.unpruned pruned entry.1).getD
      ((registry.unpruned pruned entry.1).getD entry.2) =
        (registry.unpruned pruned entry.1).getD entry.2
    cases registry.unpruned pruned entry.1 <;> rfl

variable {pruned : List String} {task : Task}

theorem unpruned_some (h : registry.unpruned pruned id = some task) :
    id ∉ pruned ∧ registry.tasksById id = some task := by
  unfold unpruned at h
  split at h
  · cases h
  · next hnot => exact ⟨hnot, h⟩

theorem mem_pruned (h : registry.unpruned pruned id = none) (live : registry.tasksById id ≠ none) :
    id ∈ pruned := by
  by_contra hnot
  unfold unpruned at h
  rw [if_neg hnot] at h
  exact live h

variable {input : SaveInput} (consistent : registry.Consistent outputs)

include consistent in
theorem commitEvents_spec {event : Task} (h : event ∈ registry.commitEvents input pruned) :
    ∃ entry ∈ registry.pendingPublicationsById, entry.1 = event.id ∧
      event = (registry.unpruned pruned entry.1).getD entry.2 := by
  obtain ⟨entry, hentry, hevent⟩ := mem_commitEvents h
  refine ⟨entry, hentry, ?_, hevent⟩
  cases hkept : registry.unpruned pruned entry.1 with
  | none =>
    rw [hkept, getD_none] at hevent
    rw [hevent]
    exact (consistent.pending entry hentry).symm
  | some task =>
    rw [hkept, getD_some] at hevent
    rw [hevent]
    exact (consistent.live (unpruned_some hkept).2).symm

theorem hasPendingPublication_iff :
    registry.hasPendingPublication id = true ↔
      ∃ entry ∈ registry.pendingPublicationsById, entry.1 = id := by
  simp [hasPendingPublication]

structure TaskWatcher.Follows (visible : String → Option Task)
    (installed : List InstalledSnapshot) (watcher : TaskWatcher) : Prop where
  shown : ∀ {id task}, watcher.watches id = true → visible id = some task →
    latest watcher.tasks id = some task
  gone : ∀ {id task}, watcher.watches id = true → visible id = none →
    latest watcher.tasks id = some task →
      task.state = .failed ∨ ∃ snapshot ∈ installed, snapshot.pruned id ≠ none

variable {installed : List InstalledSnapshot} {visible : String → Option Task}

theorem TaskWatcher.Follows.mono (h : watcher.Follows visible installed)
    (more : List InstalledSnapshot) : watcher.Follows visible (installed ++ more) where
  shown := h.shown
  gone watches hn hlatest := by
    cases h.gone watches hn hlatest with
    | inl failed => exact .inl failed
    | inr pruned =>
      obtain ⟨snapshot, hmem, hprun⟩ := pruned
      exact .inr ⟨snapshot, mem_append_left more hmem, hprun⟩

/-- One event, sent to a watcher that keeps up. -/
theorem follows_sent {old : TaskWatcher} (registered : old.registered = true)
    (follows : old.Follows visible installed) (sent : old.send task = watcher)
    (still : watcher.registered = true) :
    watcher.Follows (update visible task.id (some task)) installed := by
  have hextends := extends_foldl_send [task] old
  have htasks : watcher.tasks = old.tasks ++ [task].filter fun event => old.watches event.id := by
    cases foldl_send_registered [task] old registered with
    | inl delivered =>
      rw [← sent]
      exact delivered.2
    | inr behind =>
      rw [foldl_cons, foldl_nil, sent, still] at behind
      cases behind.1
  rw [foldl_cons, foldl_nil, sent] at hextends
  have hwatches : ∀ other, watcher.watches other = old.watches other := by
    intro other
    unfold TaskWatcher.watches
    rw [hextends.watchedIds]
  have hlatest : ∀ other, old.watches other = true → latest watcher.tasks other =
      if task.id = other then some task else latest old.tasks other := by
    intro other hwatched
    rw [htasks]
    by_cases ht : old.watches task.id = true
    · rw [filter_singleton, ht]
      exact latest_concat old.tasks task other
    · have hne : task.id ≠ other := fun heq => ht (heq ▸ hwatched)
      rw [filter_singleton, Bool.eq_false_of_not_eq_true ht, if_neg hne]
      exact congrArg (latest · other) (append_nil _)
  constructor
  · intro other found hwatched hvisible
    rw [hwatches] at hwatched
    rw [hlatest other hwatched]
    rw [update_apply] at hvisible
    by_cases heq : other = task.id
    · rw [if_pos heq] at hvisible
      rw [if_pos heq.symm, hvisible]
    · rw [if_neg heq] at hvisible
      rw [if_neg (Ne.symm heq)]
      exact follows.shown hwatched hvisible
  · intro other found hwatched hgone hlast
    rw [hwatches] at hwatched
    rw [hlatest other hwatched] at hlast
    rw [update_apply] at hgone
    by_cases heq : other = task.id
    · rw [if_pos heq] at hgone
      cases hgone
    · rw [if_neg heq] at hgone
      rw [if_neg (Ne.symm heq)] at hlast
      exact follows.gone hwatched hgone hlast

include consistent in
theorem commitEvents_sends (input : SaveInput) (pruned : List String)
    (hwatched : watcher.watches id = true) (hpend : registry.hasPendingPublication id = true) :
    ∃ event ∈ (registry.commitEvents input pruned).filter (fun event =>
      watcher.watches event.id), event.id = id := by
  obtain ⟨entry, hentry, hkey⟩ := hasPendingPublication_iff.mp hpend
  have hevent := commitEvents_of_pending input pruned hentry
  have heventId : ((registry.unpruned pruned entry.1).getD entry.2).id = id := by
    cases hkept : registry.unpruned pruned entry.1 with
    | none =>
      rw [getD_none]
      exact (consistent.pending entry hentry).trans hkey
    | some task =>
      rw [getD_some]
      exact (consistent.live (unpruned_some hkept).2).trans hkey
  exact ⟨_, mem_filter.mpr ⟨hevent, by rw [heventId]; exact hwatched⟩, heventId⟩

include consistent in
theorem commitEvents_silent (watches : String → Bool)
    (hpend : registry.hasPendingPublication id = false) :
    ∀ event ∈ (registry.commitEvents input pruned).filter (fun event => watches event.id),
      event.id ≠ id := by
  intro event hevent heq
  obtain ⟨entry, hentry, hkey, -⟩ :=
    commitEvents_spec consistent (mem_of_mem_filter hevent)
  have htrue := hasPendingPublication_iff.mpr ⟨entry, hentry, hkey.trans heq⟩
  rw [hpend] at htrue
  cases htrue

/-- A registered watcher follows the visible tasks across a commit: what is published is what it
is sent. -/
theorem follows_commit {more : List InstalledSnapshot} (consistent : registry.Consistent outputs)
    (tombstones : registry.Tombstoned)
    (unchanged : ∀ id, registry.hasPendingPublication id = false →
      registry.tasksById id = registry.visibleTasksById id)
    (recorded : ∀ id ∈ pruned, registry.tasksById id ≠ none →
      ∃ snapshot ∈ registry.installed ++ more, snapshot.pruned id ≠ none)
    (registered : watcher.registered = true)
    (follows : watcher.Follows registry.visibleTasksById registry.installed)
    (still : ((registry.commitEvents input pruned).foldl TaskWatcher.send watcher).registered
      = true) :
    ((registry.commitEvents input pruned).foldl TaskWatcher.send watcher).Follows
      (registry.unpruned pruned) (registry.installed ++ more) := by
  have hextends := extends_foldl_send (registry.commitEvents input pruned) watcher
  have htasks : ((registry.commitEvents input pruned).foldl TaskWatcher.send watcher).tasks =
      watcher.tasks ++ (registry.commitEvents input pruned).filter fun event =>
        watcher.watches event.id := by
    cases foldl_send_registered (registry.commitEvents input pruned) watcher registered with
    | inl delivered => exact delivered.2
    | inr behind =>
      rw [still] at behind
      cases behind.1
  have hwatches : ∀ id, ((registry.commitEvents input pruned).foldl TaskWatcher.send watcher
      ).watches id = watcher.watches id := by
    intro id
    unfold TaskWatcher.watches
    rw [hextends.watchedIds]
  constructor
  · intro id task hwatched hvisible
    rw [hwatches] at hwatched
    rw [htasks]
    obtain ⟨-, hl⟩ := unpruned_some hvisible
    cases hpend : registry.hasPendingPublication id with
    | false =>
      rw [latest_append_of_not_mem _ (commitEvents_silent consistent watcher.watches hpend)]
      apply follows.shown hwatched
      rw [← unchanged id hpend]
      exact hl
    | true =>
      obtain ⟨event, hevent, hid, hlatest⟩ :=
        latest_append_of_mem watcher.tasks
          (commitEvents_sends consistent input pruned hwatched hpend)
      obtain ⟨entry, -, hkey, heq⟩ :=
        commitEvents_spec consistent (mem_of_mem_filter hevent)
      rw [hkey, hid, hvisible, getD_some] at heq
      rw [hlatest, heq]
  · intro id task hwatched hgone hlatest
    rw [hwatches] at hwatched
    rw [htasks] at hlatest
    cases hpend : registry.hasPendingPublication id with
    | false =>
      rw [latest_append_of_not_mem _
        (commitEvents_silent consistent watcher.watches hpend)] at hlatest
      cases hl : registry.tasksById id with
      | none =>
        have hbefore : registry.visibleTasksById id = none := by
          rw [← unchanged id hpend]
          exact hl
        cases follows.gone hwatched hbefore hlatest with
        | inl failed => exact .inl failed
        | inr old =>
          obtain ⟨snapshot, hmem, hprun⟩ := old
          exact .inr ⟨snapshot, mem_append_left more hmem, hprun⟩
      | some live =>
        have hpresent : registry.tasksById id ≠ none := by
          rw [hl]
          exact nofun
        exact .inr (recorded id (mem_pruned hgone hpresent) hpresent)
    | true =>
      obtain ⟨event, hevent, hid, hlast⟩ :=
        latest_append_of_mem watcher.tasks
          (commitEvents_sends consistent input pruned hwatched hpend)
      rw [hlatest] at hlast
      cases hlast
      obtain ⟨entry, hentry, hkey, heq⟩ :=
        commitEvents_spec consistent (mem_of_mem_filter hevent)
      have hentryId : entry.1 = id := hkey.trans hid
      rw [hentryId, hgone, getD_none] at heq
      cases hl : registry.tasksById id with
      | none =>
        left
        rw [heq]
        exact tombstones entry hentry (hentryId.symm ▸ hl)
      | some live =>
        have hpresent : registry.tasksById id ≠ none := by
          rw [hl]
          exact nofun
        exact .inr (recorded id (mem_pruned hgone hpresent) hpresent)

structure Registry.Watched (config : Config Output) (registry : Registry Output) : Prop where
  faithful : ∀ id, registry.hasPendingPublication id = false →
    registry.tasksById id = registry.visibleTasksById id ∨
      config.persistence = false ∧ registry.Stuck config.outputs id
  tombstones : registry.Tombstoned
  follows : ∀ watcher ∈ registry.watchers, watcher.registered = true →
    watcher.Follows registry.visibleTasksById registry.installed

variable {before after : Registry Output}

theorem Registry.Watched.of_same (watched : before.Watched config)
    (faithful : ∀ id, after.hasPendingPublication id = false →
      after.tasksById id = after.visibleTasksById id ∨
        config.persistence = false ∧ after.Stuck config.outputs id)
    (tombstones : after.Tombstoned) (visible : after.visibleTasksById = before.visibleTasksById)
    (watchers : after.watchers = before.watchers)
    (installed : ∃ more, after.installed = before.installed ++ more) : after.Watched config where
  faithful := faithful
  tombstones := tombstones
  follows := by
    obtain ⟨more, hinst⟩ := installed
    intro watcher hwat registered
    rw [watchers] at hwat
    rw [visible, hinst]
    exact (watched.follows watcher hwat registered).mono more

theorem watched_of_live (watched : before.Watched config)
    (tasks : after.tasksById = before.tasksById)
    (records : after.outputsByTaskId = before.outputsByTaskId)
    (visible : after.visibleTasksById = before.visibleTasksById)
    (pending : after.pendingPublicationsById = before.pendingPublicationsById)
    (watchers : after.watchers = before.watchers)
    (installed : ∃ more, after.installed = before.installed ++ more) : after.Watched config := by
  refine watched.of_same ?_ ?_ visible watchers installed
  · intro id h
    rw [tasks, visible]
    have hbefore : before.hasPendingPublication id = false := by
      rw [← h]
      unfold hasPendingPublication
      rw [pending]
    cases watched.faithful id hbefore with
    | inl shown => exact .inl shown
    | inr stuck =>
      exact .inr ⟨stuck.1, stuck_of_same (congrFun tasks id) (congrFun records id) stuck.2⟩
  · exact tombstoned_of_live watched.tombstones tasks pending

theorem watched_touched (watched : before.Watched config)
    (touched : Touched config.outputs moves before after) : after.Watched config := by
  refine watched.of_same ?_ (touched.tombstones watched.tombstones) touched.visible
    touched.watchers ⟨[], by rw [touched.installed, append_nil]⟩
  intro id h
  obtain ⟨hbefore, hl⟩ := touched.staged id h
  rw [hl, touched.visible]
  cases watched.faithful id hbefore with
  | inl shown => exact .inl shown
  | inr stuck => exact .inr ⟨stuck.1, touched.stuck id h stuck.2⟩

theorem watched_installCommitted
    (more : List InstalledSnapshot) (consistent : registry.Consistent config.outputs)
    (tombstones : registry.Tombstoned)
    (unchanged : ∀ id, registry.hasPendingPublication id = false →
      registry.tasksById id = registry.visibleTasksById id)
    (follows : ∀ watcher ∈ registry.watchers, watcher.registered = true →
      watcher.Follows registry.visibleTasksById registry.installed)
    (recorded : ∀ id ∈ pruned, registry.tasksById id ≠ none →
      ∃ snapshot ∈ registry.installed ++ more, snapshot.pruned id ≠ none) :
    ({ registry with installed := registry.installed ++ more } : Registry Output).installCommitted
      input pruned |>.Watched config := by
  obtain ⟨htasks, hvisible, -, hinst, -, -⟩ := installCommitted_spec
    ({ registry with installed := registry.installed ++ more } : Registry Output) input pruned
  refine ⟨?_, ?_, ?_⟩
  · intro id _
    left
    rw [htasks, hvisible]
  · exact tombstoned_installCommitted _ input pruned
  · intro watcher hwat registered
    rw [installCommitted_watchers] at hwat
    obtain ⟨old, hold, heq⟩ := List.mem_map.mp hwat
    rw [hvisible, hinst]
    have hold' : old ∈ registry.watchers := hold
    have hbefore : old.registered = true := by
      by_contra hgone
      rw [← heq, foldl_send_unregistered _ (Bool.eq_false_of_not_eq_true hgone)] at registered
      exact hgone registered
    rw [← heq] at registered ⊢
    exact follows_commit consistent tombstones unchanged recorded hbefore
      (follows old hold' hbefore) registered

theorem watched_volatile (consistent : before.Consistent config.outputs)
    (live : before.tasksById id = some task) (watched : before.Watched config)
    (progress : BilibiliTaskProgress) (now : Timestamp) :
    ((before.setTask id (task.withProgress progress now)).publishVolatileLocked
      (task.withProgress progress now)).Watched config := by
  have hkey : task.id = id := consistent.live live
  have hid : (task.withProgress progress now).id = id := hkey
  -- Another task is as it was.
  have hos : ∀ other, other ≠ id → before.hasPendingPublication other = false →
      (before.setTask id (task.withProgress progress now)).tasksById other =
          before.visibleTasksById other ∨ config.persistence = false ∧
        (before.setTask id (task.withProgress progress now)).Stuck config.outputs other := by
    intro other hne hpend
    have hsame : (before.setTask id (task.withProgress progress now)).tasksById other =
        before.tasksById other := by simp [setTask, hne]
    rw [hsame]
    cases watched.faithful other hpend with
    | inl shown => exact .inl shown
    | inr stuck => exact .inr ⟨stuck.1, stuck_of_same hsame rfl stuck.2⟩
  have htombs := tombstoned_volatile consistent live watched.tombstones progress now
  unfold publishVolatileLocked at htombs ⊢
  split
  · next hstaged =>
    rw [if_pos hstaged] at htombs
    refine watched.of_same ?_ htombs rfl rfl ⟨[], (append_nil _).symm⟩
    · intro other hpend
      obtain ⟨hne, hbefore⟩ := not_pending_of_staged hid hpend
      exact hos other hne hbefore
  · next hpubl =>
    rw [if_neg hpubl] at htombs
    refine ⟨?_, htombs, ?_⟩
    · intro other hpend
      show update before.tasksById id _ other = update before.visibleTasksById _ _ other ∨ _
      rw [hid]
      by_cases heq : other = id
      · left
        rw [heq, update_self, update_self]
      rw [update_of_ne heq, update_of_ne heq]
      have hbefore := hos other heq hpend
      have hsame : (before.setTask id (task.withProgress progress now)).tasksById other =
          before.tasksById other := by simp [setTask, heq]
      rw [hsame] at hbefore
      exact hbefore
    · intro watcher hwat registered
      obtain ⟨old, hold, heq⟩ := List.mem_map.mp hwat
      have hbefore : old.registered = true := by
        by_contra hgone
        have hkept := foldl_send_unregistered [task.withProgress progress now]
          (Bool.eq_false_of_not_eq_true hgone)
        rw [foldl_cons, foldl_nil] at hkept
        rw [← heq, hkept] at registered
        exact hgone registered
      have hfoll := watched.follows old hold hbefore
      exact follows_sent hbefore hfoll heq registered

/-- The step lemma: every effect of an operation keeps the registered watchers up to date. -/
theorem Effect.watched (effect : Effect config inputs moves before after)
    (enumerated : config.persistence = false → ∀ input, inputs input → input.Enumerates before)
    (consistent : before.Consistent config.outputs) (watched : before.Watched config) :
    after.Watched config := by
  cases effect with
  | quiet quiet =>
    exact watched_of_live watched quiet.tasks quiet.outputs quiet.visible quiet.pending
      quiet.watchers ⟨[], by rw [quiet.installed, append_nil]⟩
  | kept touched _ => exact watched_touched watched touched
  | @installed current touched _ store input pruned =>
    have hcurr := watched_touched watched touched
    refine watched_installCommitted [current.contents pruned]
      (touched.consistent consistent) hcurr.tombstones ?_ hcurr.follows ?_
    · intro id hpend
      cases hcurr.faithful id hpend with
      | inl shown => exact shown
      | inr stuck =>
        rw [store] at stuck
        cases stuck.1
    · intro id hid hl
      refine ⟨_, mem_append_right _ (mem_singleton_self _), ?_⟩
      show (if id ∈ pruned then current.tasksById id else none) ≠ none
      rw [if_pos hid]
      exact hl
  | @volatileInstalled current touched store _ input admitted unstuck =>
    have hcurr := watched_touched watched touched
    have hsame : ({ current with installed := current.installed ++ [] } : Registry Output) =
        current := by rw [append_nil]
    rw [← hsame]
    refine watched_installCommitted [] (touched.consistent consistent) hcurr.tombstones ?_
      hcurr.follows ?_
    · intro id hpend
      obtain ⟨hbefore, hl⟩ := touched.staged id hpend
      rw [hl, touched.visible]
      cases watched.faithful id hbefore with
      | inl shown => exact shown
      | inr stuck =>
        -- A stuck task would have been met by the reconciliation of the save.
        obtain ⟨task, error, ht, herror⟩ := stuck.2
        have hlisted : id ∈ input.taskIds := by
          apply enumerated store input admitted id
          rw [ht]
          exact nofun
        exact (unstuck id hlisted hpend ⟨task, error, ht, herror⟩).elim
    · intro id hid
      cases hid
  | restored restored _ =>
    exact watched_of_live watched restored.tasks restored.outputs restored.visible
      restored.pending restored.watchers restored.installed
  | volatile live progress now => exact watched_volatile consistent live watched progress now
  | unstaged store _ _ _ visible pending watchers installed live others =>
    refine watched.of_same ?_ ?_ visible watchers ⟨[], by rw [installed, append_nil]⟩
    · intro id h
      by_cases hstuck : after.Stuck config.outputs id
      · exact .inr ⟨store, hstuck⟩
      obtain ⟨hsame, hbefore⟩ := others id hstuck
      have hpend : before.hasPendingPublication id = false := by
        rw [← h]
        unfold hasPendingPublication
        rw [pending]
      left
      rw [hsame, visible]
      cases watched.faithful id hpend with
      | inl shown => exact shown
      | inr stuck => exact (hbefore stuck.2).elim
    · intro entry hentry hn
      rw [pending] at hentry
      exact watched.tombstones entry hentry (live entry.1 hn)

variable {index : Nat} {watchers : List TaskWatcher}

theorem mem_modify {change : TaskWatcher → TaskWatcher} (h : watcher ∈ watchers.modify index change)
    : watcher ∈ watchers ∨ ∃ old ∈ watchers, watcher = change old := by
  induction watchers generalizing index with
  | nil => simp at h
  | cons first rest ih =>
    cases index with
    | zero =>
      rw [modify_zero_cons, mem_cons] at h
      cases h with
      | inl changed => exact .inr ⟨first, mem_cons_self, changed⟩
      | inr kept => exact .inl (mem_cons_of_mem first kept)
    | succ index =>
      rw [modify_succ_cons, mem_cons] at h
      cases h with
      | inl same => exact .inl (same ▸ mem_cons_self)
      | inr later =>
        cases ih later with
        | inl kept => exact .inl (mem_cons_of_mem first kept)
        | inr changed =>
          obtain ⟨old, hold, heq⟩ := changed
          exact .inr ⟨old, mem_cons_of_mem first hold, heq⟩

include consistent in
theorem follows_snapshots {taskIds watchedIds : List String}
    (complete : ∀ id, registry.visibleTasksById id ≠ none → id ∈ taskIds)
    (ids : watcher.watchedIds = watchedIds)
    (tasks : watcher.tasks = registry.watchedTasks taskIds watchedIds) :
    watcher.Follows registry.visibleTasksById registry.installed := by
  have hmem : ∀ task, task ∈ watcher.tasks →
      registry.visibleTasksById task.id = some task := by
    intro task h
    rw [tasks] at h
    obtain ⟨id, -, hvisible⟩ := mem_filterMap.mp (mem_of_mem_filter h)
    have hid : task.id = id := consistent.visible hvisible
    rw [hid]
    exact hvisible
  constructor
  · intro id task hwatched hvisible
    have hid : task.id = id := consistent.visible hvisible
    have hlisted : task ∈ watcher.tasks := by
      rw [tasks]
      refine mem_filter.mpr ⟨mem_filterMap.mpr ⟨id, ?_, hvisible⟩, ?_⟩
      · apply complete
        rw [hvisible]
        exact nofun
      · rw [hid, ← ids]
        exact hwatched
    obtain ⟨last, hlast, hlastId, hlatest⟩ := latest_append_of_mem [] ⟨task, hlisted, hid⟩
    have hsame := hmem last hlast
    rw [hlastId, hvisible] at hsame
    cases hsame
    exact hlatest
  · intro id task _ hgone hlatest
    obtain ⟨hlisted, hid⟩ := mem_of_latest hlatest
    have hvisible := hmem task hlisted
    rw [hid, hgone] at hvisible
    cases hvisible

variable {operation : Operation}

theorem watched_watcherStep (moved : WatcherStep registry operation watchers)
    (consistent : registry.Consistent config.outputs) (watched : registry.Watched config) :
    ({ registry with watchers := watchers } : Registry Output).Watched config := by
  refine ⟨watched.faithful, watched.tombstones, ?_⟩
  intro watcher hwat registered
  cases moved with
  | subscribe taskIds watchedIds nodup complete =>
    have hmem : watcher ∈ registry.watchers ++ [_] := hwat
    rw [mem_append, mem_singleton] at hmem
    cases hmem with
    | inl old => exact watched.follows watcher old registered
    | inr new =>
      have htasks : watcher.tasks = registry.watchedTasks taskIds watchedIds := by
        rw [new]
        simp [TaskWatcher.tasks]
      have hfoll : watcher.Follows registry.visibleTasksById registry.installed :=
        follows_snapshots consistent complete (by rw [new]) htasks
      exact hfoll
  | receive index =>
    cases mem_modify hwat with
    | inl old => exact watched.follows watcher old registered
    | inr changed =>
      obtain ⟨old, hold, heq⟩ := changed
      obtain ⟨htasks, hregistered, -, hids⟩ := recv_fields old
      rw [heq] at registered ⊢
      rw [hregistered] at registered
      have hfoll := watched.follows old hold registered
      have hwatches : ∀ id, old.recv.2.watches id = old.watches id := by
        intro id
        unfold TaskWatcher.watches
        rw [hids]
      constructor
      · intro id task hwatched hvisible
        rw [hwatches] at hwatched
        rw [htasks]
        exact hfoll.shown hwatched hvisible
      · intro id task hwatched hgone hlatest
        rw [hwatches] at hwatched
        rw [htasks] at hlatest
        exact hfoll.gone hwatched hgone hlatest
  | drop index =>
    cases mem_modify hwat with
    | inl old => exact watched.follows watcher old registered
    | inr changed =>
      obtain ⟨old, -, heq⟩ := changed
      rw [heq] at registered
      cases registered

variable (step : Step config before operation after)

include step in
theorem step_watched (consistent : before.Consistent config.outputs)
    (watched : before.Watched config) : after.Watched config := by
  rcases step_effect consistent step with hcreate | hoper | hwats
  · obtain ⟨-, id, -, heffect⟩ := hcreate
    exact heffect.watched (fun _ _ h => h) consistent watched
  · obtain ⟨middle, last, hfirst, hlast, hquiet⟩ := hoper
    have hmid : last.Watched config := by
      cases hfirst with
      | inl same =>
        rw [same] at hlast
        exact hlast.watched (fun _ _ h => h) consistent watched
      | inr recovered =>
        have hkept := recovered.2.consistent consistent
        have hwatched := recovered.2.watched (fun _ _ h => h) consistent watched
        refine hlast.watched ?_ hkept hwatched
        intro absent
        rw [recovered.1] at absent
        cases absent
    exact watched_of_live hmid hquiet.tasks hquiet.outputs hquiet.visible hquiet.pending
      hquiet.watchers ⟨[], by rw [hquiet.installed, append_nil]⟩
  · obtain ⟨watchers, moved, rfl⟩ := hwats
    exact watched_watcherStep moved consistent watched

theorem Effect.events (effect : Effect config inputs moves before after) :
    ∃ events : List Task, after.watchers = before.watchers.map fun watcher =>
      events.foldl TaskWatcher.send watcher := by
  have same : ∀ watchers : List TaskWatcher,
      watchers = watchers.map fun watcher => [].foldl TaskWatcher.send watcher := by
    intro watchers
    simp
  cases effect with
  | quiet quiet | kept quiet _ | restored quiet _ => exact ⟨[], quiet.watchers.trans (same _)⟩
  | @installed current touched _ _ input pruned =>
    refine ⟨(current.recordInstalled pruned).commitEvents input pruned, ?_⟩
    rw [installCommitted_watchers, ← touched.watchers]
    rfl
  | @volatileInstalled current touched _ _ input =>
    refine ⟨current.commitEvents input [], ?_⟩
    rw [installCommitted_watchers, ← touched.watchers]
  | @volatile id task _ progress now =>
    unfold publishVolatileLocked
    split
    · exact ⟨[], same _⟩
    · exact ⟨[task.withProgress progress now], rfl⟩
  | unstaged _ _ _ _ _ _ watchers => exact ⟨[], watchers.trans (same _)⟩

include step in
theorem step_events (consistent : before.Consistent config.outputs) :
    (∃ events : List Task, after.watchers = before.watchers.map fun watcher =>
        events.foldl TaskWatcher.send watcher) ∨
      WatcherStep before operation after.watchers := by
  rcases step_effect consistent step with hcreate | hoper | hwats
  · obtain ⟨-, id, -, heffect⟩ := hcreate
    exact .inl heffect.events
  · left
    obtain ⟨middle, last, hfirst, hlast, hquiet⟩ := hoper
    obtain ⟨back, hback⟩ := hlast.events
    cases hfirst with
    | inl same =>
      rw [same] at hback
      exact ⟨back, hquiet.watchers.trans hback⟩
    | inr recovered =>
      obtain ⟨front, hfront⟩ := recovered.2.events
      refine ⟨front ++ back, ?_⟩
      rw [hquiet.watchers, hback, hfront, List.map_map]
      simp
  · obtain ⟨watchers, moved, rfl⟩ := hwats
    exact .inr moved

include step in
/-- A step only appends to what a watcher has been sent, or closes it. -/
theorem step_extends (consistent : before.Consistent config.outputs)
    (h : before.watchers[index]? = some watcher) :
    ∃ later, after.watchers[index]? = some later ∧ watcher.Extends later := by
  cases step_events step consistent with
  | inl sent =>
    obtain ⟨events, hevents⟩ := sent
    refine ⟨events.foldl TaskWatcher.send watcher, ?_, extends_foldl_send events watcher⟩
    rw [hevents, List.getElem?_map, h]
    rfl
  | inr moved =>
    generalize after.watchers = watchers at moved
    cases moved with
    | subscribe taskIds watchedIds =>
      refine ⟨watcher, ?_, TaskWatcher.Extends.refl watcher⟩
      exact (List.getElem?_append_left (List.getElem?_eq_some_iff.mp h).1).trans h
    | receive target =>
      have hmodified := List.getElem?_modify (fun watcher : TaskWatcher => watcher.recv.2) target
        before.watchers index
      rw [h, Option.map_eq_map, map_some] at hmodified
      refine ⟨_, hmodified, ?_⟩
      split
      · exact extends_recv watcher
      · exact TaskWatcher.Extends.refl watcher
    | drop target =>
      have hmodified := List.getElem?_modify (fun watcher : TaskWatcher =>
        { watcher with registered := false }) target before.watchers index
      rw [h, Option.map_eq_map, map_some] at hmodified
      refine ⟨_, hmodified, ?_⟩
      split
      · exact ⟨rfl, rfl, prefix_refl _, prefix_refl _⟩
      · exact TaskWatcher.Extends.refl watcher

def Registry.Kept (operations : List Operation) (registry : Registry Output) : Prop :=
  ∀ (index : Nat) (watcher : TaskWatcher), registry.watchers[index]? = some watcher →
    watcher.registered = true ∨ watcher.lagged = true ∨ .drop index ∈ operations

include step in
/-- A watcher stays registered unless it lagged or was dropped. -/
theorem step_kept {past : List Operation} (consistent : before.Consistent config.outputs)
    (kept : before.Kept past) : after.Kept (past ++ [operation]) := by
  have hold : ∀ (index : Nat) (old : TaskWatcher), before.watchers[index]? = some old →
      old.registered = true ∨ old.lagged = true ∨ .drop index ∈ past ++ [operation] := by
    intro index old h
    cases kept index old h with
    | inl registered => exact .inl registered
    | inr rest =>
      cases rest with
      | inl lagged => exact .inr (.inl lagged)
      | inr dropped => exact .inr (.inr (mem_append_left _ dropped))
  intro index watcher h
  cases step_events step consistent with
  | inl sent =>
    obtain ⟨events, hevents⟩ := sent
    rw [hevents, List.getElem?_map] at h
    obtain ⟨old, hbefore, heq⟩ := map_eq_some_iff.mp h
    cases hregistered : old.registered with
    | true =>
      rw [← heq]
      cases foldl_send_registered events old hregistered with
      | inl delivered => exact .inl delivered.1
      | inr behind => exact .inr (.inl behind.2)
    | false =>
      rw [foldl_send_unregistered events hregistered] at heq
      rw [← heq]
      exact hold index old hbefore
  | inr moved =>
    generalize after.watchers = watchers at moved h
    cases moved with
    | subscribe taskIds watchedIds =>
      have happended : (before.watchers ++ [_])[index]? = some watcher := h
      rw [List.getElem?_append] at happended
      split at happended
      · exact hold index watcher happended
      · obtain ⟨_, hnew⟩ := List.getElem?_eq_some_iff.mp happended
        left
        rw [← hnew, getElem_singleton]
    | receive target =>
      have hmodified := (List.getElem?_modify (fun watcher : TaskWatcher => watcher.recv.2)
        target before.watchers index).symm.trans h
      obtain ⟨old, hbefore, heq⟩ := map_eq_some_iff.mp hmodified
      have hkept := hold index old hbefore
      split at heq
      · obtain ⟨-, hregistered, hlagged, -⟩ := recv_fields old
        rw [← heq, hregistered, hlagged]
        exact hkept
      · rw [← heq]
        exact hkept
    | drop target =>
      have hmodified := (List.getElem?_modify (fun watcher : TaskWatcher =>
        { watcher with registered := false }) target before.watchers index).symm.trans h
      obtain ⟨old, hbefore, heq⟩ := map_eq_some_iff.mp hmodified
      split at heq
      · next same =>
          right; right
          rw [same]
          exact mem_append_right _ (mem_singleton_self _)
      · rw [← heq]
        exact hold index old hbefore

variable {start reached last : Registry Output}

theorem started_watched (started : start.Started config) : start.Watched config where
  faithful id _ := .inl (by rw [started.visible])
  tombstones := by
    intro entry h
    rw [started.pending] at h
    cases h
  follows := by
    intro watcher h
    rw [started.watchers] at h
    cases h

theorem run_watched {operations : List Operation}
    (started : start.Started config) (run : Run (Step config) start operations reached) :
    reached.Consistent config.outputs ∧ reached.Watched config ∧ reached.Kept operations := by
  apply run.invariant_history (fun past registry =>
    registry.Consistent config.outputs ∧ registry.Watched config ∧ registry.Kept past)
  · intro before after operation past step h
    exact ⟨step_consistent step h.1, step_watched step h.1 h.2.1, step_kept step h.1 h.2.2⟩
  · refine ⟨started.consistent, started_watched started, ?_⟩
    intro index watcher h
    rw [started.watchers] at h
    cases h

theorem run_extends {more : List Operation}
    (consistent : reached.Consistent config.outputs) (run : Run (Step config) reached more last)
    (h : reached.watchers[index]? = some watcher) :
    ∃ later, last.watchers[index]? = some later ∧ watcher.Extends later := by
  have hinv := run.invariant (fun registry : Registry Output =>
      registry.Consistent config.outputs ∧
        ∃ later, registry.watchers[index]? = some later ∧ watcher.Extends later)
    (fun step held => by
      obtain ⟨kept, later, hl, hextends⟩ := held
      obtain ⟨next, hn, hmore⟩ := step_extends step kept hl
      exact ⟨step_consistent step kept, next, hn, hextends.trans hmore⟩)
    ⟨consistent, watcher, h, TaskWatcher.Extends.refl watcher⟩
  exact hinv.2

/-- A subscription that its reader keeps either is registered, and its last of every
watched task is the visible one, or of a task that is gone a failed tombstone unless a
save has pruned it; or it has fallen behind and ends with the lagged error. Events are
received in the order they were sent, and of a task it has had it keeps a last. -/
theorem watcher_completeness {start reached : Registry Output} {operations : List Operation}
    (started : start.Started config) (run : Run (Step config) start operations reached) :
    (∀ (index : Nat) (watcher : TaskWatcher), reached.watchers[index]? = some watcher →
      .drop index ∈ operations ∨
      (watcher.registered = true ∧ ∀ id, watcher.watches id = true →
        (∀ task, reached.visibleTasksById id = some task →
          latest (watcher.snapshots ++ watcher.received ++ watcher.buffer) id = some task) ∧
        ∀ task, reached.visibleTasksById id = none →
          latest (watcher.snapshots ++ watcher.received ++ watcher.buffer) id = some task →
            task.state = .failed ∨ ∃ snapshot ∈ reached.installed, snapshot.pruned id ≠ none) ∨
      (watcher.registered = false ∧ watcher.lagged = true ∧
        (watcher.buffer = [] → watcher.recv.1 = .lagged))) ∧
      ∀ (more : List Operation) (last : Registry Output) (index : Nat) (watcher : TaskWatcher),
        Run (Step config) reached more last → reached.watchers[index]? = some watcher →
        ∃ later, last.watchers[index]? = some later ∧ later.snapshots = watcher.snapshots ∧
          watcher.received <+: later.received ∧
          watcher.received ++ watcher.buffer <+: later.received ++ later.buffer ∧
          ∀ id, latest (watcher.snapshots ++ watcher.received ++ watcher.buffer) id ≠ none →
            latest (later.snapshots ++ later.received ++ later.buffer) id ≠ none := by
  obtain ⟨consistent, watched, kept⟩ := run_watched started run
  constructor
  · intro index watcher h
    have hmem : watcher ∈ reached.watchers := mem_of_getElem? h
    cases hregistered : watcher.registered with
    | true =>
      right; left
      refine ⟨rfl, ?_⟩
      intro id hwatched
      have hfollows := watched.follows watcher hmem hregistered
      exact ⟨fun task hvisible => hfollows.shown hwatched hvisible,
        fun task hgone hlatest => hfollows.gone hwatched hgone hlatest⟩
    | false =>
      rcases kept index watcher h with registered | lagged | dropped
      · rw [hregistered] at registered
        cases registered
      · right; right
        refine ⟨rfl, lagged, ?_⟩
        intro hbuffer
        simp [TaskWatcher.recv, hbuffer, hregistered, lagged]
      · exact .inl dropped
  · intro more last index watcher rest h
    obtain ⟨later, hlater, hextends⟩ := run_extends consistent rest h
    exact ⟨later, hlater, hextends.snapshots, hextends.received, hextends.events,
      fun _ => hextends.latest_ne_none⟩

end

theorem watcher_completeness_download :
    ∃ watcher, downloadForgotten.watchers[0]? = some watcher ∧
      (.drop 0 ∈ ([.subscribe, .createTask, .cancelTask forgottenDownloadId] : List Operation) ∨
      (watcher.registered = true ∧ ∀ id, watcher.watches id = true →
        (∀ task, downloadForgotten.visibleTasksById id = some task →
          latest (watcher.snapshots ++ watcher.received ++ watcher.buffer) id = some task) ∧
        ∀ task, downloadForgotten.visibleTasksById id = none →
          latest (watcher.snapshots ++ watcher.received ++ watcher.buffer) id = some task →
            task.state = .failed ∨
              ∃ snapshot ∈ downloadForgotten.installed, snapshot.pruned id ≠ none) ∨
      (watcher.registered = false ∧ watcher.lagged = true ∧
        (watcher.buffer = [] → watcher.recv.1 = .lagged))) := by
  have hone : downloadForgotten.watchers.length = 1 := by decide +kernel
  cases hfirst : downloadForgotten.watchers[0]? with
  | none =>
    have hshort := List.getElem?_eq_none_iff.mp hfirst
    omega
  | some watcher =>
    exact ⟨watcher, rfl, (watcher_completeness (emptyRegistry_started forgetfulConfig)
      downloadForgotten_run).1 0 watcher hfirst⟩

end NetPlayer.Tasks
