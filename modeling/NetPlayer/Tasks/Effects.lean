import NetPlayer.Tasks.OutputOperations

/-!
# What an operation does to the registry

Every operation of the registry has one of a few effects: it changes nothing that
readers or saves look at, it changes staged tasks and its save is rejected, it
changes staged tasks and a save installs them, it restores the state it started
from, or it updates the progress of one task. The properties of runs are proved of
these effects, and each operation is shown to have one.
-/

namespace NetPlayer.Tasks

open List Function

open Function (update update_apply)
open Registry

abbrev TaskStatus : Type := TaskKind × TaskState

def Task.status (task : Task) : TaskStatus := (task.kind, task.state)

section

variable {Output : Type}

def Registry.status (registry : Registry Output) (id : String) : Option TaskStatus :=
  (registry.tasksById id).map Task.status

structure MoveSet where
  allowed : String → TaskKind → TaskState → TaskState → Prop
  creates : String → Prop

def MoveSet.none : MoveSet where
  allowed _ _ _ _ := False
  creates _ := False

def MoveSet.Permits (moves : MoveSet) (id : String) : Option TaskStatus → Option TaskStatus → Prop
  | _, .none => True
  | .none, some _ => moves.creates id
  | some before, some after =>
    after = before ∨ after.1 = before.1 ∧ moves.allowed id before.1 before.2 after.2

theorem MoveSet.Permits.refl (moves : MoveSet) (id : String) (status : Option TaskStatus) :
    moves.Permits id status status := by
  cases status with
  | none => trivial
  | some status => exact .inl rfl

variable {id : String}

theorem MoveSet.Permits.trans_none {moves : MoveSet} {before middle after : Option TaskStatus}
    (first : moves.Permits id before middle) (second : MoveSet.none.Permits id middle after) :
    moves.Permits id before after := by
  cases after with
  | none => cases before <;> trivial
  | some after =>
    cases middle with
    | none => exact second.elim
    | some middle =>
      cases second with
      | inl same => rw [same]; exact first
      | inr moved => exact moved.2.elim

structure Registry.Consistent (outputs : TaskOutputs Output) (registry : Registry Output) :
    Prop where
  live : ∀ {id task}, registry.tasksById id = some task → task.id = id
  visible : ∀ {id task}, registry.visibleTasksById id = some task → task.id = id
  pending : ∀ entry ∈ registry.pendingPublicationsById, entry.2.id = entry.1
  summarized : ∀ {id task output}, registry.tasksById id = some task →
    registry.outputsByTaskId id = some output → task.outputSummary = some (outputs.summary output)

def Registry.Stuck (outputs : TaskOutputs Output) (registry : Registry Output) (id : String) :
    Prop :=
  ∃ task error, registry.tasksById id = some task ∧ outputs.reconcileLegacyTask
    ((registry.outputsByTaskId id).getD (outputs.fromLegacyTask task)) task = .error error

variable {before after current changed : Registry Output}

theorem stuck_of_same {outputs : TaskOutputs Output}
    (tasks : after.tasksById id = before.tasksById id)
    (records : after.outputsByTaskId id = before.outputsByTaskId id) (h : before.Stuck outputs id) :
    after.Stuck outputs id := by
  obtain ⟨task, error, hl, herror⟩ := h
  exact ⟨task, error, tasks.trans hl, by rw [records]; exact herror⟩

variable (registry : Registry Output)

def Registry.Tombstoned : Prop :=
  ∀ entry ∈ registry.pendingPublicationsById, registry.tasksById entry.1 = none →
    entry.2.state = .failed

structure Touched (outputs : TaskOutputs Output) (moves : MoveSet)
    (before after : Registry Output) : Prop where
  visible : after.visibleTasksById = before.visibleTasksById
  watchers : after.watchers = before.watchers
  installed : after.installed = before.installed
  staged : ∀ id, after.hasPendingPublication id = false →
    before.hasPendingPublication id = false ∧ after.tasksById id = before.tasksById id
  stuck : ∀ id, after.hasPendingPublication id = false → before.Stuck outputs id →
    after.Stuck outputs id
  tombstones : before.Tombstoned → after.Tombstoned
  permitted : ∀ id, moves.Permits id (before.status id) (after.status id)
  consistent : before.Consistent outputs → after.Consistent outputs

variable {outputs : TaskOutputs Output} {moves : MoveSet}

theorem Touched.refl (before : Registry Output) : Touched outputs moves before before where
  visible := rfl
  watchers := rfl
  installed := rfl
  staged _ h := ⟨h, rfl⟩
  stuck _ _ h := h
  tombstones h := h
  permitted id := MoveSet.Permits.refl moves id _
  consistent h := h

theorem Touched.trans_none {before middle after : Registry Output}
    (first : Touched outputs moves before middle)
    (second : Touched outputs MoveSet.none middle after) : Touched outputs moves before after where
  visible := second.visible.trans first.visible
  watchers := second.watchers.trans first.watchers
  installed := second.installed.trans first.installed
  staged id h := by
    have step := second.staged id h
    have start := first.staged id step.1
    exact ⟨start.1, step.2.trans start.2⟩
  stuck id hp h :=
    second.stuck id hp (first.stuck id (second.staged id hp).1 h)
  tombstones h := second.tombstones (first.tombstones h)
  permitted id := (first.permitted id).trans_none (second.permitted id)
  consistent h := second.consistent (first.consistent h)

@[simp]
theorem any_upsertTask (tasks : List (String × Task)) (id other : String) (task : Task) :
    (upsertTask tasks id task).any (fun entry => entry.1 == other) =
      (id == other || tasks.any fun entry => entry.1 == other) := by
  simp only [upsertTask, any_cons, any_filter]
  by_cases h : id = other
  · simp [h]
  have same : ∀ entry : String × Task,
      ((entry.1 != id) && (entry.1 == other)) = (entry.1 == other) := by
    intro entry
    by_cases he : entry.1 = other
    · simp [he, Ne.symm h]
    · simp [he]
  simp [same]

variable {task updated : Task}

theorem mem_upsertTask {tasks : List (String × Task)} {entry : String × Task}
    (h : entry ∈ upsertTask tasks id task) : entry = (id, task) ∨ entry ∈ tasks := by
  simp only [upsertTask, mem_cons, mem_filter] at h
  cases h with
  | inl same => exact .inl same
  | inr kept => exact .inr kept.1

structure TouchedOne (outputs : TaskOutputs Output) (moves : MoveSet)
    (before after : Registry Output) (id : String) (updated : Task) : Prop where
  tasks : after.tasksById = update before.tasksById id (some updated)
  visible : after.visibleTasksById = before.visibleTasksById
  watchers : after.watchers = before.watchers
  installed : after.installed = before.installed
  pending : after.pendingPublicationsById = before.pendingPublicationsById
  named : updated.id = id
  permitted : moves.Permits id (before.status id) (some updated.status)
  others : ∀ other, other ≠ id → after.outputsByTaskId other = before.outputsByTaskId other
  summarized : ∀ output, after.outputsByTaskId id = some output →
    before.Consistent outputs → updated.outputSummary = some (outputs.summary output)

theorem TouchedOne.touched (h : TouchedOne outputs moves before after id updated) :
    Touched outputs moves before (after.stagePublicationLocked updated) where
  visible := h.visible
  watchers := h.watchers
  installed := h.installed
  staged other hp := by
    have hnot : (updated.id == other || before.pendingPublicationsById.any
        fun entry => entry.1 == other) = false := by
      simpa [hasPendingPublication, stagePublicationLocked, h.pending] using hp
    have hsplit := Bool.or_eq_false_iff.mp hnot
    have hne : other ≠ id := by
      intro heq
      rw [heq, h.named] at hsplit
      simp at hsplit
    refine ⟨hsplit.2, ?_⟩
    show after.tasksById other = before.tasksById other
    rw [h.tasks, update_apply, if_neg hne]
  stuck other hp hstuck := by
    have hne : other ≠ id := by
      intro heq
      simp [hasPendingPublication, stagePublicationLocked, h.named, heq] at hp
    have hl : (after.stagePublicationLocked updated).tasksById other =
        before.tasksById other := by
      show after.tasksById other = before.tasksById other
      rw [h.tasks, update_apply, if_neg hne]
    exact stuck_of_same hl (h.others other hne) hstuck
  tombstones hb := by
    intro entry he hn
    have hg : after.tasksById entry.1 = none := hn
    rw [h.tasks, update_apply] at hg
    split at hg
    · cases hg
    next hne =>
      cases mem_upsertTask he with
      | inl same =>
        rw [same] at hne
        exact (hne h.named).elim
      | inr old =>
        rw [h.pending] at old
        exact hb entry old hg
  permitted other := by
    by_cases heq : other = id
    · have hl : (after.stagePublicationLocked updated).status other = some updated.status := by
        simp [Registry.status, stagePublicationLocked, h.tasks, heq]
      rw [hl, heq]
      exact h.permitted
    · have hl : (after.stagePublicationLocked updated).status other = before.status other := by
        simp [Registry.status, stagePublicationLocked, h.tasks, heq]
      rw [hl]
      exact MoveSet.Permits.refl moves other _
  consistent consistent :=
    { live := by
        intro other task ht
        have hl : after.tasksById other = some task := ht
        rw [h.tasks, update_apply] at hl
        split at hl
        · next heq =>
            cases hl
            rw [heq]
            exact h.named
        · exact consistent.live hl
      visible := by
        intro other task ht
        have hvis : after.visibleTasksById other = some task := ht
        rw [h.visible] at hvis
        exact consistent.visible hvis
      pending := by
        intro entry he
        cases mem_upsertTask he with
        | inl same => rw [same]
        | inr old =>
          rw [h.pending] at old
          exact consistent.pending entry old
      summarized := by
        intro other task output ht ho
        have hl : after.tasksById other = some task := ht
        have hout : after.outputsByTaskId other = some output := ho
        rw [h.tasks, update_apply] at hl
        split at hl
        · next heq =>
            cases hl
            rw [heq] at hout
            exact h.summarized output hout consistent
        · next hne =>
            rw [h.others other hne] at hout
            exact consistent.summarized hl hout }

theorem touched_record {taskId : String} {record : Option Output}
    (sound : ¬ before.Stuck outputs taskId)
    (summarized : ∀ task output, before.tasksById taskId = some task → record = some output →
      task.outputSummary = some (outputs.summary output)) :
    Touched outputs MoveSet.none before
      { before with outputsByTaskId := update before.outputsByTaskId taskId record } where
  visible := rfl
  watchers := rfl
  installed := rfl
  staged id hp := ⟨hp, rfl⟩
  stuck := by
    intro id _ hstuck
    have hne : id ≠ taskId := by
      intro heq
      exact sound (heq ▸ hstuck)
    refine stuck_of_same ?_ ?_ hstuck
    · rfl
    · simp [hne]
  tombstones := fun h => h
  permitted id := MoveSet.Permits.refl _ id _
  consistent consistent :=
    { live := consistent.live
      visible := consistent.visible
      pending := consistent.pending
      summarized := by
        intro id task output ht ho
        have hout : update before.outputsByTaskId taskId record id = some output := ho
        rw [update_apply] at hout
        split at hout
        · next heq => exact summarized task output (heq ▸ ht) hout
        · exact consistent.summarized ht hout }

theorem touched_reconcileTaskOutput {taskId : String} (keyed : before.Consistent outputs)
    (h : before.reconcileTaskOutput outputs taskId = some after) :
    Touched outputs MoveSet.none before after ∧ after.available = before.available := by
  unfold reconcileTaskOutput at h
  cases hl : before.tasksById taskId with
  | none =>
    rw [hl] at h
    cases h
    refine ⟨touched_record ?_ ?_, rfl⟩
    · rintro ⟨task, error, ht, -⟩
      rw [hl] at ht
      cases ht
    · intro task output ht
      rw [hl] at ht
      cases ht
  | some task =>
    simp only [hl] at h
    split at h
    · cases h
    next changed hrecon =>
      cases h
      refine ⟨?_, rfl⟩
      have named : task.id = taskId := keyed.live hl
      subst named
      have sound : ¬ before.Stuck outputs task.id := by
        rintro ⟨found, error, hf, herror⟩
        rw [hl] at hf
        cases hf
        rw [hrecon] at herror
        cases herror
      generalize changed.getD
        ((before.outputsByTaskId task.id).getD (outputs.fromLegacyTask task)) = reconciled
      by_cases hs : task.outputSummary = some (outputs.summary reconciled)
      · -- The summary stays: only the record changes.
        have ht : { task with outputSummary := some (outputs.summary reconciled) } =
            task := by rw [← hs]
        have hk : update before.tasksById task.id (some task) = before.tasksById := by
          rw [← hl]
          exact update_eq_self task.id before.tasksById
        rw [ht, hk, if_pos hs]
        apply touched_record sound
        intro found output hf hout
        rw [hl] at hf
        cases hf
        cases hout
        exact hs
      · rw [if_neg hs]
        have one : TouchedOne outputs MoveSet.none before
            { before with
              outputsByTaskId := update before.outputsByTaskId task.id (some reconciled)
              tasksById := update before.tasksById task.id (some { task with
                outputSummary := some (outputs.summary reconciled) }) }
            task.id { task with outputSummary := some (outputs.summary reconciled) } :=
          { tasks := rfl, visible := rfl, watchers := rfl, installed := rfl
            pending := rfl
            named := rfl
            permitted := by
              simp only [Registry.status, hl, Option.map_some, Task.status]
              exact .inl rfl
            others := by
              intro other hne
              simp [hne]
            summarized := by
              intro output hout _
              have hrec : some reconciled = some output := by
                simpa using hout
              cases hrec
              rfl }
        exact one.touched

theorem reconcileTaskOutput_others {taskId id : String}
    (h : before.reconcileTaskOutput outputs taskId = some after) (hne : id ≠ taskId) :
    after.tasksById id = before.tasksById id ∧
      after.outputsByTaskId id = before.outputsByTaskId id := by
  unfold reconcileTaskOutput at h
  cases hl : before.tasksById taskId with
  | none =>
    rw [hl] at h
    cases h
    exact ⟨rfl, by simp [hne]⟩
  | some task =>
    simp only [hl] at h
    split at h
    · cases h
    · cases h
      exact ⟨by simp [hne], by simp [hne]⟩

theorem touched_reconcileAll (taskIds : List String) (before : Registry Output)
    (consistent : before.Consistent outputs) :
    Touched outputs MoveSet.none before (before.reconcileAllTaskOutputs outputs taskIds).1 := by
  induction taskIds generalizing before with
  | nil => exact Touched.refl before
  | cons taskId rest ih =>
    unfold reconcileAllTaskOutputs
    cases hst : before.reconcileTaskOutput outputs taskId with
    | none => exact Touched.refl before
    | some reconciled =>
      have first := (touched_reconcileTaskOutput consistent hst).1
      exact first.trans_none (ih reconciled (first.consistent consistent))

@[simp]
theorem hasPendingPublication_refresh (id : String) :
    registry.refreshPendingPublicationsLocked.hasPendingPublication id =
      registry.hasPendingPublication id := by
  simp [hasPendingPublication, refreshPendingPublicationsLocked, any_map, comp_def]

theorem touched_refresh (before : Registry Output) :
    Touched outputs MoveSet.none before before.refreshPendingPublicationsLocked where
  visible := rfl
  watchers := rfl
  installed := rfl
  staged id h := by
    rw [hasPendingPublication_refresh] at h
    exact ⟨h, rfl⟩
  stuck _ _ h := h
  tombstones hb := by
    intro entry he hn
    simp only [refreshPendingPublicationsLocked, mem_map] at he
    obtain ⟨old, hold, heq⟩ := he
    have hk : entry.1 = old.1 := by rw [← heq]
    have hg : before.tasksById old.1 = none := hk ▸ hn
    rw [← heq]
    rw [hg]
    exact hb old hold hg
  permitted id := MoveSet.Permits.refl _ id _
  consistent consistent :=
    { live := consistent.live
      visible := consistent.visible
      pending := by
        intro entry he
        simp only [refreshPendingPublicationsLocked, mem_map] at he
        obtain ⟨old, hold, heq⟩ := he
        rw [← heq]
        cases hl : before.tasksById old.1 with
        | none => exact consistent.pending old hold
        | some task => exact consistent.live hl
      summarized := consistent.summarized }

/-- The events that a commit sends, in order. -/
def Registry.publications (ids : List String) : List Task :=
  (enumeratePublications ids registry.pendingPublicationsById).map fun entry =>
    (registry.visibleTasksById entry.1).getD entry.2

theorem foldl_publishLocked (entries : List (String × Task)) (event : String × Task → Task)
    (registry : Registry Output) :
    entries.foldl (fun current entry => current.publishLocked (event entry)) registry =
      { registry with
        watchers := registry.watchers.map fun watcher =>
          (entries.map event).foldl TaskWatcher.send watcher } := by
  induction entries generalizing registry with
  | nil => simp
  | cons entry rest ih =>
    simp only [foldl_cons, map_cons]
    rw [ih]
    simp [publishLocked, map_map, comp_def]

theorem publishPendingLocked_eq (ids : List String) :
    registry.publishPendingLocked ids =
      { registry with
        pendingPublicationsById := []
        watchers := registry.watchers.map fun watcher =>
          (registry.publications ids).foldl TaskWatcher.send watcher } := by
  unfold publishPendingLocked Registry.publications
  rw [foldl_publishLocked]

/-- Nothing that a reader, a save or a later state check looks at has changed. -/
structure Quiet (before after : Registry Output) : Prop where
  tasks : after.tasksById = before.tasksById
  outputs : after.outputsByTaskId = before.outputsByTaskId
  visible : after.visibleTasksById = before.visibleTasksById
  pending : after.pendingPublicationsById = before.pendingPublicationsById
  watchers : after.watchers = before.watchers
  installed : after.installed = before.installed
  available : after.available = before.available

structure Restored (before after : Registry Output) : Prop where
  tasks : after.tasksById = before.tasksById
  outputs : after.outputsByTaskId = before.outputsByTaskId
  visible : after.visibleTasksById = before.visibleTasksById
  pending : after.pendingPublicationsById = before.pendingPublicationsById
  watchers : after.watchers = before.watchers
  installed : ∃ more, after.installed = before.installed ++ more

inductive Effect (config : Config Output) (inputs : SaveInput → Prop) (moves : MoveSet) :
    Registry Output → Registry Output → Prop
  | quiet {before after : Registry Output} (quiet : Quiet before after) :
      Effect config inputs moves before after
  | kept {before after : Registry Output} (touched : Touched config.outputs moves before after)
      (unavailable : after.available = false) : Effect config inputs moves before after
  | installed {before current : Registry Output}
      (touched : Touched config.outputs moves before current)
      (refreshed : current.refreshPendingPublicationsLocked = current)
      (store : config.persistence = true) (input : SaveInput) (pruned : List String) :
      Effect config inputs moves before
        ((current.recordInstalled pruned).installCommitted input pruned)
  | volatileInstalled {before current : Registry Output}
      (touched : Touched config.outputs moves before current)
      (store : config.persistence = false) (unavailable : current.available = false)
      (input : SaveInput) (admitted : inputs input)
      (unstuck : ∀ id ∈ input.taskIds, current.hasPendingPublication id = false →
        ¬ before.Stuck config.outputs id) :
      Effect config inputs moves before (current.installCommitted input [])
  | restored {before after : Registry Output} (restored : Restored before after)
      (unavailable : after.available = false) : Effect config inputs moves before after
  | volatile {before : Registry Output} {id : String} {task : Task}
      (live : before.tasksById id = some task) (progress : BilibiliTaskProgress)
      (now : Timestamp) :
      Effect config inputs moves before ((before.setTask id (task.withProgress progress now)
        ).publishVolatileLocked (task.withProgress progress now))
  | unstaged {before after : Registry Output} (store : config.persistence = false)
      (permitted : ∀ id, moves.Permits id (before.status id) (after.status id))
      (unavailable : after.available = before.available)
      (consistent : before.Consistent config.outputs → after.Consistent config.outputs)
      (visible : after.visibleTasksById = before.visibleTasksById)
      (pending : after.pendingPublicationsById = before.pendingPublicationsById)
      (watchers : after.watchers = before.watchers)
      (installed : after.installed = before.installed)
      (live : ∀ id, after.tasksById id = none → before.tasksById id = none)
      (others : ∀ id, ¬ after.Stuck config.outputs id →
        after.tasksById id = before.tasksById id ∧ ¬ before.Stuck config.outputs id) :
      Effect config inputs moves before after

theorem refresh_idempotent :
    registry.refreshPendingPublicationsLocked.refreshPendingPublicationsLocked =
      registry.refreshPendingPublicationsLocked := by
  simp only [refreshPendingPublicationsLocked, map_map]
  congr 1
  apply map_congr_left
  intro entry _
  simp only [comp_apply]
  cases registry.tasksById entry.1 <;> rfl

theorem Touched.withAvailable (available : Bool) (touched : Touched outputs moves before current) :
    Touched outputs moves before { current with available := available } where
  visible := touched.visible
  watchers := touched.watchers
  installed := touched.installed
  staged := touched.staged
  stuck := touched.stuck
  tombstones := touched.tombstones
  permitted := touched.permitted
  consistent consistent :=
    { live := (touched.consistent consistent).live
      visible := (touched.consistent consistent).visible
      pending := (touched.consistent consistent).pending
      summarized := (touched.consistent consistent).summarized }

theorem restored_capture (touched :
    Touched outputs moves before current) (more : List InstalledSnapshot) :
    Restored before ((RegistryMutationCheckpoint.capture before).restore
      { current with installed := current.installed ++ more }) where
  tasks := rfl
  outputs := rfl
  visible := touched.visible
  pending := rfl
  watchers := touched.watchers
  installed := ⟨more, by rw [← touched.installed]; rfl⟩

variable {config : Config Output} {inputs : SaveInput → Prop}

theorem touched_beforeOutcome (taskIds : List String)
    (available : Bool) (consistent : before.Consistent outputs)
    (touched : Touched outputs moves before changed) :
    Touched outputs moves before
      { (changed.reconcileAllTaskOutputs outputs taskIds).1.refreshPendingPublicationsLocked with
        available := available } := by
  have reconciled := touched_reconcileAll taskIds changed (touched.consistent consistent)
  have refreshed := (touched.trans_none reconciled).trans_none (touched_refresh _)
  exact refreshed.withAvailable available

theorem unstuck_of_reconcileAll {taskIds : List String} (consistent : before.Consistent outputs)
    (valid : (before.reconcileAllTaskOutputs outputs taskIds).2 = true) (h : id ∈ taskIds) :
    ¬ before.Stuck outputs id := by
  intro hstuck
  induction taskIds generalizing before with
  | nil => cases h
  | cons taskId rest ih =>
    unfold reconcileAllTaskOutputs at valid
    cases hst : before.reconcileTaskOutput outputs taskId with
    | none =>
      rw [hst] at valid
      cases valid
    | some reconciled =>
      rw [hst] at valid
      have hne : id ≠ taskId := by
        intro heq
        obtain ⟨task, error, hl, herror⟩ := hstuck
        rw [heq] at hl herror
        simp [reconcileTaskOutput, hl, herror] at hst
      have hs := reconcileTaskOutput_others hst hne
      cases mem_cons.mp h with
      | inl head => exact hne head
      | inr later =>
        exact ih (((touched_reconcileTaskOutput consistent hst).1).consistent consistent)
          valid later (stuck_of_same hs.1 hs.2 hstuck)

variable {input : SaveInput}

theorem store_of_commitOutcome {built durabilityRequired : Bool}
    (h : config.commitOutcome input built durabilityRequired = .durable ∨
      config.commitOutcome input built durabilityRequired = .installedButNotDurable) :
    config.persistence = true := by
  by_contra hn
  have hfalse : config.persistence = false := by simpa using hn
  unfold Config.commitOutcome at h
  rw [hfalse] at h
  cases built <;> cases durabilityRequired <;> simp at h

theorem no_store_of_commitOutcome {built durabilityRequired : Bool}
    (h : config.commitOutcome input built durabilityRequired = .volatile) :
    config.persistence = false := by
  by_contra hs
  have htrue : config.persistence = true := by simpa using hs
  unfold Config.commitOutcome at h
  rw [htrue] at h
  cases built with
  | false => simp at h
  | true => cases hsave : input.save <;> simp [hsave] at h

variable {rollback : Option (RegistryMutationCheckpoint Output)}
  {durabilityRequired requireDurableCommit : Bool}

theorem effect_persistAndPublishPending (admitted : config.persistence = false → inputs input)
    (consistent : before.Consistent config.outputs)
    (touched : Touched config.outputs moves before changed)
    (hrollback : rollback = none ∨ rollback = some (RegistryMutationCheckpoint.capture before)) :
    Effect config inputs moves before (changed.persistAndPublishPending config input durabilityRequired
      rollback requireDurableCommit).1 := by
  unfold persistAndPublishPending
  simp only
  generalize hbuilt : ((changed.reconcileAllTaskOutputs config.outputs input.taskIds).2 &&
    !(config.persistence && input.recordsRefused)) = built
  generalize houtc : config.commitOutcome input built durabilityRequired = outcome
  generalize hprun : (changed.reconcileAllTaskOutputs config.outputs input.taskIds
    ).1.refreshPendingPublicationsLocked.terminalTaskIdsToPrune config.retentionPolicy
      input.taskIds input.now = pruned
  have staged := touched_beforeOutcome input.taskIds
    (config.persistence && outcome.isDurable) consistent touched
  have hrefd := refresh_idempotent
    (changed.reconcileAllTaskOutputs config.outputs input.taskIds).1
  cases outcome with
  | durable =>
    exact Effect.installed staged (congrArg (fun registry : Registry Output =>
      { registry with available := config.persistence && true }) hrefd)
      (store_of_commitOutcome (.inl houtc)) input pruned
  | installedButNotDurable =>
    have hinst : Effect config inputs moves before
        (((({ (changed.reconcileAllTaskOutputs config.outputs input.taskIds
          ).1.refreshPendingPublicationsLocked with available := config.persistence && false }
            : Registry Output).recordInstalled pruned).installCommitted input pruned)) :=
      Effect.installed staged (congrArg (fun registry : Registry Output =>
        { registry with available := config.persistence && false }) hrefd)
        (store_of_commitOutcome (.inr houtc)) input pruned
    cases requireDurableCommit with
    | false => exact hinst
    | true =>
      cases hrollback with
      | inl hn => rw [hn]; exact hinst
      | inr hs =>
        rw [hs]
        exact Effect.restored (restored_capture staged _) (Bool.and_false _)
  | volatile =>
    have hfalse := no_store_of_commitOutcome houtc
    refine Effect.volatileInstalled staged hfalse (by simp [hfalse]) input (admitted hfalse) ?_
    intro id hid hp hstuck
    have hv : (changed.reconcileAllTaskOutputs config.outputs input.taskIds).2 = true := by
      by_contra hinvalid
      rw [← hbuilt] at houtc
      simp [Config.commitOutcome, hinvalid] at houtc
    have hrecon := touched_reconcileAll input.taskIds changed (touched.consistent consistent)
    have hrefd : (changed.reconcileAllTaskOutputs config.outputs input.taskIds
        ).1.hasPendingPublication id = false := by
      rw [← hasPendingPublication_refresh]
      exact hp
    have hchg := (hrecon.staged id hrefd).1
    exact unstuck_of_reconcileAll (touched.consistent consistent) hv hid
      (touched.stuck id hchg hstuck)
  | rejected retryability =>
    cases hrollback with
    | inl hn =>
      rw [hn]
      exact Effect.kept staged (Bool.and_false _)
    | inr hs =>
      rw [hs]
      have hr := restored_capture staged []
      simp only [append_nil] at hr
      exact Effect.restored hr (Bool.and_false _)

theorem available_of_durable {registry : Registry Output}
    (durable : (registry.persistAndPublishPending config input durabilityRequired rollback
      requireDurableCommit).2 = .durable) (store : config.persistence = true) :
    (registry.persistAndPublishPending config input durabilityRequired rollback
      requireDurableCommit).1.available = true := by
  unfold persistAndPublishPending at durable ⊢
  simp only at durable ⊢
  generalize config.commitOutcome input ((registry.reconcileAllTaskOutputs config.outputs
    input.taskIds).2 && !(config.persistence && input.recordsRefused)) durabilityRequired
      = outcome at durable ⊢
  cases outcome with
  | durable =>
    simp only [installCommitted, publishPendingLocked_eq]
    exact Bool.and_eq_true_iff.mpr ⟨store, rfl⟩
  | installedButNotDurable =>
    cases requireDurableCommit <;> cases rollback <;> cases durable
  | volatile | rejected retryability => cases durable

theorem effect_persistOne (admitted : config.persistence = false → inputs input)
    (consistent : before.Consistent config.outputs)
    (touched : TouchedOne config.outputs moves before changed id updated)
    (hrollback : rollback = none ∨ rollback = some (RegistryMutationCheckpoint.capture before)) :
    Effect config inputs moves before (changed.persistTasksAndPublish config input [updated]
      durabilityRequired rollback requireDurableCommit).1 :=
  effect_persistAndPublishPending admitted consistent touched.touched hrollback

theorem checkpointIfDurable_cases :
    registry.checkpointIfDurable config = none ∨
      registry.checkpointIfDurable config = some (RegistryMutationCheckpoint.capture registry) := by
  unfold checkpointIfDurable
  cases config.persistence
  · exact .inl rfl
  · exact .inr rfl

def Registry.unpruned (pruned : List String) (id : String) : Option Task :=
  if id ∈ pruned then none else registry.tasksById id

theorem installCommitted_spec (input : SaveInput) (pruned : List String) :
    let installed := registry.installCommitted input pruned
    installed.tasksById = registry.unpruned pruned ∧
      installed.visibleTasksById = registry.unpruned pruned ∧
      installed.pendingPublicationsById = [] ∧
      installed.installed = registry.installed ∧
      installed.available = registry.available ∧
      installed.outputsByTaskId =
        (fun id => if id ∈ pruned then none else registry.outputsByTaskId id) := by
  unfold installCommitted
  rw [publishPendingLocked_eq]
  exact ⟨rfl, rfl, rfl, rfl, rfl, rfl⟩

theorem publishVolatileLocked_tasks (task : Task) :
    (registry.publishVolatileLocked task).tasksById = registry.tasksById ∧
      (registry.publishVolatileLocked task).outputsByTaskId = registry.outputsByTaskId ∧
      (registry.publishVolatileLocked task).available = registry.available ∧
      (registry.publishVolatileLocked task).installed = registry.installed := by
  unfold publishVolatileLocked
  split <;> exact ⟨rfl, rfl, rfl, rfl⟩

theorem consistent_of_live
    (consistent : before.Consistent outputs) (tasks : after.tasksById = before.tasksById)
    (hout : after.outputsByTaskId = before.outputsByTaskId)
    (visible : after.visibleTasksById = before.visibleTasksById)
    (pending : after.pendingPublicationsById = before.pendingPublicationsById) :
    after.Consistent outputs where
  live h := consistent.live (tasks ▸ h)
  visible h := consistent.visible (visible ▸ h)
  pending := pending ▸ consistent.pending
  summarized h ho := consistent.summarized (tasks ▸ h) (hout ▸ ho)

theorem consistent_installCommitted {registry : Registry Output}
    (consistent : registry.Consistent outputs) (input : SaveInput) (pruned : List String) :
    (registry.installCommitted input pruned).Consistent outputs := by
  obtain ⟨htasks, hvis, hp, -, -, houtputs⟩ :=
    installCommitted_spec registry input pruned
  have hunpruned : ∀ {id task}, registry.unpruned pruned id = some task →
      id ∉ pruned ∧ registry.tasksById id = some task := by
    intro id task h
    unfold Registry.unpruned at h
    split at h
    · cases h
    · next hnot => exact ⟨hnot, h⟩
  exact
    { live := by
        intro id task h
        rw [htasks] at h
        exact consistent.live (hunpruned h).2
      visible := by
        intro id task h
        rw [hvis] at h
        exact consistent.live (hunpruned h).2
      pending := by
        rw [hp]
        intro entry he
        cases he
      summarized := by
        intro id task output h hout
        rw [htasks] at h
        rw [houtputs] at hout
        simp only [if_neg (hunpruned h).1] at hout
        exact consistent.summarized (hunpruned h).2 hout }

theorem consistent_volatile
    (consistent : before.Consistent outputs) (live : before.tasksById id = some task)
    (progress : BilibiliTaskProgress) (now : Timestamp) :
    ((before.setTask id (task.withProgress progress now)).publishVolatileLocked
      (task.withProgress progress now)).Consistent outputs := by
  have hid : task.id = id := consistent.live live
  have hset : (before.setTask id (task.withProgress progress now)).Consistent outputs :=
    { live := by
        intro other found h
        have hl : update before.tasksById id (some (task.withProgress progress now)) other
          = some found := h
        rw [update_apply] at hl
        split at hl
        · next heq =>
            cases hl
            rw [heq]
            exact hid
        · exact consistent.live hl
      visible := consistent.visible
      pending := consistent.pending
      summarized := by
        intro other found output h hout
        have hl : update before.tasksById id (some (task.withProgress progress now)) other
          = some found := h
        rw [update_apply] at hl
        split at hl
        · next heq =>
            cases hl
            have hsum : task.outputSummary = some (outputs.summary output) :=
              consistent.summarized live (heq ▸ hout)
            exact hsum
        · exact consistent.summarized hl hout }
  unfold publishVolatileLocked
  split
  · exact
      { live := hset.live
        visible := hset.visible
        pending := by
          intro entry he
          cases mem_upsertTask he with
          | inl same => rw [same]
          | inr old => exact hset.pending entry old
        summarized := hset.summarized }
  · exact
      { live := hset.live
        visible := by
          intro other found h
          have hl : update before.visibleTasksById (task.withProgress progress now).id
            (some (task.withProgress progress now)) other = some found := h
          rw [update_apply] at hl
          split at hl
          · next heq =>
              cases hl
              exact heq.symm
          · exact hset.visible hl
        pending := hset.pending
        summarized := hset.summarized }

theorem Effect.consistent (effect : Effect config inputs moves before after)
    (consistent : before.Consistent config.outputs) : after.Consistent config.outputs := by
  cases effect with
  | quiet quiet =>
    exact consistent_of_live consistent quiet.tasks quiet.outputs quiet.visible quiet.pending
  | kept touched _ => exact touched.consistent consistent
  | @installed current touched _ _ input pruned =>
    have hcurr := touched.consistent consistent
    have hrecd : (current.recordInstalled pruned).Consistent config.outputs :=
      consistent_of_live hcurr rfl rfl rfl rfl
    exact consistent_installCommitted hrecd input pruned
  | volatileInstalled touched _ _ input _ _ =>
    exact consistent_installCommitted (touched.consistent consistent) input []
  | restored restored _ =>
    exact consistent_of_live consistent restored.tasks restored.outputs restored.visible
      restored.pending
  | volatile live progress now => exact consistent_volatile consistent live progress now
  | unstaged _ _ _ kept _ _ _ _ _ _ => exact kept consistent

theorem permits_unpruned {pruned : List String}
    (h : moves.Permits id (before.status id) (current.status id)) :
    moves.Permits id (before.status id) ((current.unpruned pruned id).map Task.status) := by
  unfold Registry.unpruned
  split
  · cases before.status id <;> trivial
  · exact h

theorem Effect.permitted (effect : Effect config inputs moves before after)
    (id : String) : moves.Permits id (before.status id) (after.status id) := by
  cases effect with
  | quiet quiet | restored quiet _ =>
    have hs : after.status id = before.status id := by simp [Registry.status, quiet.tasks]
    rw [hs]
    exact MoveSet.Permits.refl moves id _
  | kept touched _ => exact touched.permitted id
  | @installed current touched _ _ input pruned =>
    have htasks := (installCommitted_spec (current.recordInstalled pruned) input pruned).1
    unfold Registry.status at *
    rw [htasks]
    exact permits_unpruned (touched.permitted id)
  | @volatileInstalled current touched _ _ input _ _ =>
    have htasks := (installCommitted_spec current input []).1
    unfold Registry.status at *
    rw [htasks]
    exact permits_unpruned (touched.permitted id)
  | @volatile other task live progress now =>
    have htasks := (publishVolatileLocked_tasks (before.setTask other
      (task.withProgress progress now)) (task.withProgress progress now)).1
    have hs : ((before.setTask other (task.withProgress progress now)).publishVolatileLocked
        (task.withProgress progress now)).status id = before.status id := by
      unfold Registry.status
      rw [htasks]
      simp only [setTask, update_apply]
      split
      · next heq => rw [heq, live]; rfl
      · rfl
    rw [hs]
    exact MoveSet.Permits.refl moves id _
  | unstaged _ permitted _ _ _ _ _ _ _ _ => exact permitted id

/-- An operation: it may first retry the pending save, and at the end it may change
the queue. -/
def Effects (config : Config Output) (inputs : SaveInput → Prop)
    (choose : Registry Output → MoveSet) (before after : Registry Output) : Prop :=
  ∃ middle last,
    (middle = before ∨
      config.persistence = true ∧ Effect config inputs MoveSet.none before middle) ∧
    Effect config inputs (choose middle) middle last ∧ Quiet last after

end

end NetPlayer.Tasks
