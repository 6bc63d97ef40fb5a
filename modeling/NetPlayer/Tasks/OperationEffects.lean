import NetPlayer.Tasks.Effects

/-!
# The effect of each operation

Each operation of the registry has one of the effects, with the state moves that its
own checks allow.
-/

namespace NetPlayer.Tasks

open List TaskState

open Function (update update_apply)
open Registry

section

variable {Output : Type} {outputs : TaskOutputs Output} {config : Config Output}
  {moves : MoveSet} {inputs : SaveInput → Prop}

/-- The live task `id` is replaced and nothing is staged yet. -/
structure ChangedTask (before changed : Registry Output) (id : String) (updated : Task) : Prop where
  tasks : changed.tasksById = update before.tasksById id (some updated)
  visible : changed.visibleTasksById = before.visibleTasksById
  watchers : changed.watchers = before.watchers
  installed : changed.installed = before.installed
  pending : changed.pendingPublicationsById = before.pendingPublicationsById

theorem changedTask_setTask (before : Registry Output) (id : String) (updated : Task) :
    ChangedTask before (before.setTask id updated) id updated :=
  ⟨rfl, rfl, rfl, rfl, rfl⟩

theorem changedTask_setOutput (before : Registry Output) (id : String) (output : Output)
    (updated : Task) :
    ChangedTask before ((before.setOutput id output).setTask id updated) id updated :=
  ⟨rfl, rfl, rfl, rfl, rfl⟩

variable {changed : Registry Output} {updated : Task}

theorem ChangedTask.dequeue {before : Registry Output} {id : String}
    (h : ChangedTask before changed id updated) (queued : String) :
    ChangedTask before (changed.dequeue queued) id updated :=
  { h with }

structure UpdatedTask (outputs : TaskOutputs Output) (moves : MoveSet)
    (before changed : Registry Output) (id : String) (task updated : Task) : Prop where
  step : ChangedTask before changed id updated
  live : before.tasksById id = some task
  named : updated.id = task.id
  kind : updated.kind = task.kind
  moved : updated.state = task.state ∨ moves.allowed id task.kind task.state updated.state
  output : changed.outputsByTaskId = before.outputsByTaskId ∧
      updated.outputSummary = task.outputSummary ∨
    ∃ output, changed.outputsByTaskId = update before.outputsByTaskId id (some output) ∧
      updated.outputSummary = some (outputs.summary output)

theorem UpdatedTask.touchedOne {before : Registry Output} {id : String} {task : Task}
    (h : UpdatedTask outputs moves before changed id task updated)
    (consistent : before.Consistent outputs) :
    TouchedOne outputs moves before changed id updated where
  tasks := h.step.tasks
  visible := h.step.visible
  watchers := h.step.watchers
  installed := h.step.installed
  pending := h.step.pending
  named := h.named.trans (consistent.live h.live)
  permitted := by
    have hst : before.status id = some task.status := by simp [Registry.status, h.live]
    rw [hst]
    cases h.moved with
    | inl same =>
      apply Or.inl
      simp [Task.status, h.kind, same]
    | inr moved => exact Or.inr ⟨h.kind, moved⟩
  others := by
    intro other hne
    cases h.output with
    | inl kept => rw [kept.1]
    | inr replaced =>
      obtain ⟨output, hout, -⟩ := replaced
      rw [hout, update_apply, if_neg hne]
  summarized := by
    intro output houtput _
    cases h.output with
    | inl kept =>
      rw [kept.1] at houtput
      rw [kept.2]
      exact consistent.summarized h.live houtput
    | inr replaced =>
      obtain ⟨replacement, hout, hsum⟩ := replaced
      rw [hout, update_apply, if_pos rfl] at houtput
      cases houtput
      exact hsum

theorem updatedTask_setTask {before : Registry Output} {id : String} {task : Task}
    (live : before.tasksById id = some task) (named : updated.id = task.id)
    (kind : updated.kind = task.kind)
    (moved : updated.state = task.state ∨ moves.allowed id task.kind task.state updated.state)
    (summary : updated.outputSummary = task.outputSummary) :
    UpdatedTask outputs moves before (before.setTask id updated) id task updated where
  step := changedTask_setTask before id updated
  live := live
  named := named
  kind := kind
  moved := moved
  output := .inl ⟨rfl, summary⟩

theorem updatedTask_setOutput {before : Registry Output} {id : String} {task : Task}
    {output : Output} (live : before.tasksById id = some task) (named : updated.id = task.id)
    (kind : updated.kind = task.kind)
    (moved : updated.state = task.state ∨ moves.allowed id task.kind task.state updated.state)
    (summary : updated.outputSummary = some (outputs.summary output)) :
    UpdatedTask outputs moves before ((before.setOutput id output).setTask id updated) id task
      updated where
  step := changedTask_setOutput before id output updated
  live := live
  named := named
  kind := kind
  moved := moved
  output := .inr ⟨output, rfl, summary⟩

theorem UpdatedTask.dequeue {before : Registry Output} {id queued : String} {task : Task}
    (h : UpdatedTask outputs moves before changed id task updated) :
    UpdatedTask outputs moves before (changed.dequeue queued) id task updated :=
  { h with step := h.step.dequeue queued, output := h.output }

theorem unstaged_consistent {before : Registry Output} {id : String} {task : Task}
    (consistent : before.Consistent outputs)
    (h : UpdatedTask outputs moves before changed id task updated) :
    changed.Consistent outputs := by
  have staged := (h.touchedOne consistent).touched.consistent consistent
  exact
    { live := staged.live
      visible := staged.visible
      pending := by
        rw [h.step.pending]
        exact consistent.pending
      summarized := staged.summarized }

theorem Quiet.refl (registry : Registry Output) : Quiet registry registry :=
  ⟨rfl, rfl, rfl, rfl, rfl, rfl, rfl⟩

theorem effect_refl (registry : Registry Output) : Effect config inputs moves registry registry :=
  Effect.quiet (Quiet.refl registry)

variable {input : SaveInput} {durabilityRequired requireDurableCommit : Bool}

theorem effect_updated {before : Registry Output} {id : String} {task : Task}
    {rollback : Option (RegistryMutationCheckpoint Output)}
    (admitted : config.persistence = false → inputs input)
    (consistent : before.Consistent config.outputs)
    (h : UpdatedTask config.outputs moves before changed id task updated)
    (hrollback : rollback = none ∨ rollback = some (RegistryMutationCheckpoint.capture before)) :
    Effect config inputs moves before (changed.persistTasksAndPublish config input [updated]
      durabilityRequired rollback requireDurableCommit).1 :=
  effect_persistOne admitted consistent (h.touchedOne consistent) hrollback

variable {choose : Registry Output → MoveSet}

theorem effects_direct {before after : Registry Output}
    (effect : Effect config inputs (choose before) before after) :
    Effects config inputs choose before after :=
  ⟨before, after, .inl rfl, effect, Quiet.refl after⟩

variable {recovery : SaveInput} {refusal : String}

theorem effects_afterRecovery {α : Type} {before : Registry Output}
    {accepts : PersistenceCommitOutcome → Bool} {operation : Registry Output → Reply Output α}
    (consistent : before.Consistent config.outputs)
    (h : ∀ middle : Registry Output, middle.Consistent config.outputs →
      ((∀ outcome, accepts outcome = true → outcome = .durable) →
        config.persistence = true → middle.available = true) →
      Effect config inputs (choose middle) middle (operation middle).1) :
    Effects config inputs choose before
      (before.afterRecovery config recovery accepts refusal operation).1 := by
  unfold afterRecovery
  split
  · next hmissing =>
      have hstore : config.persistence = true := (Bool.and_eq_true_iff.mp hmissing).1
      have saved : Effect config inputs MoveSet.none before
          (before.persistAndPublishPending config recovery true none false).1 :=
        effect_persistAndPublishPending
          (fun absent => by rw [hstore] at absent; cases absent) consistent (Touched.refl before)
          (.inl rfl)
      simp only
      split
      · next hacc =>
          have hready := h _ (saved.consistent consistent) fun durable store =>
            available_of_durable (durable _ hacc) store
          exact ⟨_, _, .inr ⟨hstore, saved⟩, hready, Quiet.refl _⟩
      · exact ⟨_, _, .inr ⟨hstore, saved⟩, effect_refl _, Quiet.refl _⟩
  · next hpresent =>
      apply effects_direct
      apply h before consistent
      intro _ store
      simpa [store] using hpresent

theorem touched_of_permanent_failure {before changed : Registry Output}
    (consistent : before.Consistent outputs) (houtputs : config.outputs = outputs)
    (touched : Touched outputs moves before changed)
    (failure : (changed.persistAndPublishPending config input durabilityRequired none
      requireDurableCommit).2.isPermanentFailure = true) :
    Touched outputs moves before (changed.persistAndPublishPending config input
        durabilityRequired none requireDurableCommit).1 ∧
      (changed.persistAndPublishPending config input durabilityRequired none
        requireDurableCommit).1.available = false := by
  subst houtputs
  unfold persistAndPublishPending at failure ⊢
  simp only at failure ⊢
  generalize config.commitOutcome input ((changed.reconcileAllTaskOutputs config.outputs
    input.taskIds).2 && !(config.persistence && input.recordsRefused)) durabilityRequired
      = outcome at failure ⊢
  cases outcome with
  | durable | volatile => cases failure
  | installedButNotDurable => cases requireDurableCommit <;> cases failure
  | rejected retryability =>
    exact ⟨touched_beforeOutcome input.taskIds _ consistent touched, Bool.and_false _⟩

section RestoredRecord

variable {before current : Registry Output} {id : String} {task : Task}

theorem restoreRecord_tasksById (named : task.id = id) (other : String) :
    ((TaskRecordMutationCheckpoint.capture before id task).restore current).tasksById other =
      if other = id then some task else current.tasksById other := by
  simp [TaskRecordMutationCheckpoint.restore, TaskRecordMutationCheckpoint.capture, named,
    update_apply]

theorem restoreRecord_outputsByTaskId (named : task.id = id) (other : String) :
    ((TaskRecordMutationCheckpoint.capture before id task).restore current).outputsByTaskId
        other =
      if other = id then before.outputsByTaskId id else current.outputsByTaskId other := by
  simp [TaskRecordMutationCheckpoint.restore, TaskRecordMutationCheckpoint.capture, named,
    update_apply]

theorem mem_restoreRecord {entry : String × Task} (named : task.id = id)
    (h : entry ∈ ((TaskRecordMutationCheckpoint.capture before id task).restore
      current).pendingPublicationsById) :
    (entry.1 = id ∧ entry ∈ before.pendingPublicationsById) ∨
      (entry.1 ≠ id ∧ entry ∈ current.pendingPublicationsById) := by
  simp only [TaskRecordMutationCheckpoint.restore, TaskRecordMutationCheckpoint.capture, named] at h
  split at h
  · next published hl =>
      obtain ⟨front, back, hlist, -⟩ := List.lookup_eq_some_iff.mp hl
      have hm : (id, published) ∈ before.pendingPublicationsById := by
        rw [hlist]
        simp
      simp only [upsertTask, mem_cons, mem_filter] at h
      cases h with
      | inl same => exact .inl ⟨congrArg Prod.fst same, same ▸ hm⟩
      | inr kept => exact .inr ⟨by simpa using kept.2, kept.1⟩
  · have kept := mem_filter.mp h
    exact .inr ⟨by simpa using kept.2, kept.1⟩

theorem unpending_restoreRecord (named : task.id = id) {other : String} (hne : other ≠ id)
    (h : ((TaskRecordMutationCheckpoint.capture before id task).restore
      current).hasPendingPublication other = false) :
    current.hasPendingPublication other = false := by
  simp only [hasPendingPublication, TaskRecordMutationCheckpoint.restore,
    TaskRecordMutationCheckpoint.capture, named] at h
  split at h
  · rw [any_upsertTask, Bool.or_eq_false_iff] at h
    exact h.2
  simp only [any_filter, any_eq_false] at h
  simp only [hasPendingPublication, any_eq_false]
  intro entry he hk
  have hkey' : entry.1 = other := by simpa using hk
  have := h entry he
  simp [hkey', hne] at this

theorem unpending_restoreRecord_self (named : task.id = id)
    (h : ((TaskRecordMutationCheckpoint.capture before id task).restore
      current).hasPendingPublication id = false) : before.hasPendingPublication id = false := by
  simp only [hasPendingPublication, TaskRecordMutationCheckpoint.restore,
    TaskRecordMutationCheckpoint.capture, named] at h
  split at h
  · simp [any_upsertTask] at h
  next hl =>
    have ha := lookup_eq_none_iff.mp hl
    simp only [hasPendingPublication, any_eq_false]
    intro entry he hk
    have hkey' : entry.1 = id := by simpa using hk
    have := ha entry he
    simp [hkey'] at this

theorem touched_restoreRecord (live : before.tasksById id = some task)
    (consistent : before.Consistent outputs) (touched : Touched outputs moves before current) :
    Touched outputs moves before
      ((TaskRecordMutationCheckpoint.capture before id task).restore current) where
  visible := touched.visible
  watchers := touched.watchers
  installed := touched.installed
  staged := by
    intro other hp
    have named : task.id = id := consistent.live live
    rw [restoreRecord_tasksById named]
    by_cases heq : other = id
    · rw [heq] at hp
      rw [if_pos heq, heq]
      exact ⟨unpending_restoreRecord_self named hp, live.symm⟩
    · rw [if_neg heq]
      exact touched.staged other (unpending_restoreRecord named heq hp)
  stuck := by
    intro other hp hstuck
    have named : task.id = id := consistent.live live
    by_cases heq : other = id
    · refine stuck_of_same ?_ ?_ hstuck
      · rw [restoreRecord_tasksById named, if_pos heq, heq, live]
      · rw [restoreRecord_outputsByTaskId named, if_pos heq, heq]
    · have hcurr := unpending_restoreRecord named heq hp
      refine stuck_of_same ?_ ?_ (touched.stuck other hcurr hstuck)
      · rw [restoreRecord_tasksById named, if_neg heq]
      · rw [restoreRecord_outputsByTaskId named, if_neg heq]
  tombstones := by
    intro hbefore entry he hnone
    have named : task.id = id := consistent.live live
    rw [restoreRecord_tasksById named] at hnone
    split at hnone
    · cases hnone
    next hne =>
      cases mem_restoreRecord named he with
      | inl own => exact (hne own.1).elim
      | inr old => exact touched.tombstones hbefore entry old.2 hnone
  permitted := by
    intro other
    have named : task.id = id := consistent.live live
    simp only [Registry.status, restoreRecord_tasksById named]
    by_cases heq : other = id
    · rw [if_pos heq, heq, live]
      exact MoveSet.Permits.refl moves id _
    · rw [if_neg heq]
      exact touched.permitted other
  consistent := by
    intro _
    have hcurr := touched.consistent consistent
    have named : task.id = id := consistent.live live
    exact
      { live := by
          intro other found h
          rw [restoreRecord_tasksById named] at h
          split at h
          · next heq =>
              cases h
              exact named.trans heq.symm
          · exact hcurr.live h
        visible := hcurr.visible
        pending := by
          intro entry he
          cases mem_restoreRecord named he with
          | inl own => exact consistent.pending entry own.2
          | inr old => exact hcurr.pending entry old.2
        summarized := by
          intro other found output h houtput
          rw [restoreRecord_tasksById named] at h
          rw [restoreRecord_outputsByTaskId named] at houtput
          split at h
          · next heq =>
              rw [if_pos heq] at houtput
              cases h
              exact consistent.summarized live houtput
          · next hne =>
              rw [if_neg hne] at houtput
              exact hcurr.summarized h houtput }

end RestoredRecord

def MoveSet.creating (id : String) : MoveSet where
  allowed _ _ _ _ := False
  creates other := other = id

/-- The moves of one task that `may` describes. -/
def MoveSet.ofTask (id : String) (may : TaskKind → TaskState → TaskState → Prop) : MoveSet where
  allowed other kind before after := other = id ∧ may kind before after
  creates _ := False

/-- The moves of any task that `may` describes. -/
def MoveSet.ofAny (may : TaskKind → TaskState → TaskState → Prop) : MoveSet where
  allowed _ kind before after := may kind before after
  creates _ := False

variable {registry : Registry Output}

variable (admitted : config.persistence = false → inputs input)
  (consistent : registry.Consistent config.outputs)

include admitted consistent in
theorem createTask_effect {activeTaskId : Option String} {task : Task} {candidates : List String}
    (fresh : registry.tasksById task.id = none) :
    Effect config inputs (MoveSet.creating task.id) registry
      (registry.createTask config input activeTaskId task candidates refusal).1 := by
  unfold createTask
  split
  · exact effect_refl registry
  have touched : TouchedOne config.outputs (MoveSet.creating task.id) registry
      (registry.insertTask config.outputs task candidates) task.id
      (task.withSummary (config.outputs.summary (config.outputs.fromLegacyTask task))) :=
    { tasks := rfl, visible := rfl, watchers := rfl, installed := rfl, pending := rfl
      named := rfl
      permitted := by
        have hnone : registry.status task.id = none := by simp [Registry.status, fresh]
        rw [hnone]
        rfl
      others := by
        intro other hne
        show update registry.outputsByTaskId task.id _ other = _
        rw [update_apply, if_neg hne]
      summarized := by
        intro output houtput _
        have hout : update registry.outputsByTaskId task.id
            (some (config.outputs.fromLegacyTask task)) task.id = some output := houtput
        rw [Function.update_self] at hout
        cases hout
        rfl }
  exact effect_persistOne admitted consistent touched (checkpointIfDurable_cases registry)

theorem claimFrom_some {tasksById : String → Option Task} {heldBack : String → Bool}
    {count : Nat} {queue rest : List String} {id : String} {task : Task}
    (h : claimFrom tasksById heldBack count queue = (some (id, task), rest)) :
    tasksById id = some task ∧ task.state = .queued := by
  induction count generalizing queue with
  | zero => simp [claimFrom] at h
  | succ count ih =>
    cases queue with
    | nil => simp [claimFrom] at h
    | cons taskId queue =>
      unfold claimFrom at h
      split at h
      · exact ih h
      split at h
      · next claimed hcl =>
          cases h
          have hfilter := Option.filter_eq_some_iff.mp hcl
          exact ⟨hfilter.1, by simpa using hfilter.2⟩
      · exact ih h

def claims (_ : TaskKind) (before after : TaskState) : Prop :=
  before = .queued ∧ after = .running

variable {now : Timestamp}

include admitted consistent in
theorem tryClaimNextBilibiliTask_effect {pendingOutputCleanup : String → Bool} :
    Effect config inputs (MoveSet.ofAny claims) registry
      (registry.tryClaimNextBilibiliTask config input pendingOutputCleanup now).1 := by
  unfold tryClaimNextBilibiliTask
  simp only
  split
  · exact Effect.quiet ⟨rfl, rfl, rfl, rfl, rfl, rfl, rfl⟩
  next id task queue hclaim =>
    obtain ⟨hlive, hqueued⟩ := claimFrom_some hclaim
    have updated : UpdatedTask config.outputs (MoveSet.ofAny claims) registry
        (({ registry with queuedTaskIds := queue } : Registry Output).setTask id
          { task with state := .running, message := runningMessage, updatedAt := some now })
        id task
        { task with state := .running, message := runningMessage, updatedAt := some now } :=
      { step := ⟨rfl, rfl, rfl, rfl, rfl⟩
        live := hlive, named := rfl, kind := rfl
        moved := .inr ⟨hqueued, rfl⟩
        output := .inl ⟨rfl, rfl⟩ }
    exact effect_updated admitted consistent updated (.inl rfl)

theorem updateProgress_effect {id : String} {admits : Task → Bool}
    {progress : BilibiliTaskProgress} :
    Effect config inputs MoveSet.none registry (registry.updateProgress id admits progress now).1 := by
  unfold updateProgress
  split
  · exact effect_refl registry
  · next task ht =>
      exact Effect.volatile (Option.filter_eq_some_iff.mp ht).1 progress now

/-- What a worker's completion does: the task was not terminal, and a requested
cancellation wins over `state`. -/
def completes (state : TaskState) (_ : TaskKind) (before after : TaskState) : Prop :=
  before.isTerminal = false ∧ after = before.orCancelled state

theorem completedWith_fields (task : Task) (state : TaskState) (message : String)
    (libraryItemId : Option String) (progress : Option Rat) (now : Timestamp) :
    let completed := task.completedWith state message libraryItemId progress now
    completed.id = task.id ∧ completed.kind = task.kind ∧
      completed.state = task.state.orCancelled state ∧
      completed.outputSummary = task.outputSummary := by
  simp only [Task.completedWith]
  split
  · exact ⟨rfl, rfl, rfl, rfl⟩
  · split
    · split <;> exact ⟨rfl, rfl, rfl, rfl⟩
    · exact ⟨rfl, rfl, rfl, rfl⟩

variable {message : String}

include admitted consistent in
theorem completeTask_effects {id : String} {state : TaskState} {libraryItemId : Option String}
    {progress : Option Rat} :
    Effects config inputs (fun _ => MoveSet.ofTask id (completes state)) registry
      (registry.completeTask config recovery input id state message libraryItemId progress now).1 := by
  apply effects_afterRecovery consistent
  intro middle hmid _
  cases hlive : middle.tasksById id with
  | none => exact effect_refl middle
  | some task =>
    simp only
    by_cases hterm : task.state.isTerminal = true
    · rw [if_pos hterm]
      exact effect_refl middle
    rw [if_neg hterm]
    obtain ⟨hid, hkind, hstate, hsum⟩ :=
      completedWith_fields task state message libraryItemId progress now
    have updated : UpdatedTask config.outputs (MoveSet.ofTask id (completes state)) middle
        (middle.setTask id (task.completedWith state message libraryItemId progress now)) id
        task (task.completedWith state message libraryItemId progress now) :=
      updatedTask_setTask hlive hid hkind
        (.inr ⟨rfl, by simpa using hterm, hstate⟩) hsum
    exact effect_updated admitted hmid updated.dequeue (.inl rfl)

include admitted consistent in
theorem persistOrRestoreRecord_effects {id : String} {task : Task}
    (h : UpdatedTask config.outputs moves registry (registry.setTask id updated) id task updated) :
    Effects config inputs (fun _ => moves) registry (registry.persistOrRestoreRecord config input
      (registry.setTask id updated) id task updated refusal).1 := by
  have touched := (h.touchedOne consistent).touched
  have effect : Effect config inputs moves registry ((registry.setTask id updated
      ).persistTasksAndPublish config input [updated] false none false).1 :=
    effect_updated admitted consistent h (.inl rfl)
  unfold persistOrRestoreRecord
  simp only
  split
  · next failure =>
      obtain ⟨hsaved, hunavailable⟩ :=
        touched_of_permanent_failure consistent rfl touched failure
      exact effects_direct
        (Effect.kept (touched_restoreRecord h.live consistent hsaved) hunavailable)
  · split
    · exact ⟨registry, _, .inl rfl, effect, ⟨rfl, rfl, rfl, rfl, rfl, rfl, rfl⟩⟩
    · exact effects_direct effect

theorem publishPlayback_effects {id : String}
    {state : TaskState} {publish cancel : Task → Task}
    (admitted : config.persistence = false → inputs input)
    (consistent : registry.Consistent config.outputs)
    (published : ∀ task, (publish task).id = task.id ∧ (publish task).kind = task.kind ∧
      (publish task).state = state ∧ (publish task).outputSummary = task.outputSummary)
    (cancelled : ∀ task, (cancel task).id = task.id ∧ (cancel task).kind = task.kind ∧
      (cancel task).state = .cancelled ∧ (cancel task).outputSummary = task.outputSummary) :
    Effects config inputs (fun _ => MoveSet.ofTask id (completes state)) registry
      (registry.publishPlayback config input id publish cancel).1 := by
  unfold publishPlayback
  cases hlive : registry.tasksById id with
  | none => exact effects_direct (effect_refl registry)
  | some task =>
    simp only
    split
    · exact effects_direct (effect_refl registry)
    split
    · exact effects_direct (effect_refl registry)
    next hterm =>
      have hact : task.state.isTerminal = false := by simpa using hterm
      apply persistOrRestoreRecord_effects admitted consistent
      by_cases hcancel : task.state = .cancelRequested
      · obtain ⟨hid, hkind, hstate, hsum⟩ := cancelled task
        rw [if_pos hcancel]
        apply updatedTask_setTask hlive hid hkind _ hsum
        refine .inr ⟨rfl, hact, ?_⟩
        rw [hstate, orCancelled, if_pos hcancel]
      · obtain ⟨hid, hkind, hstate, hsum⟩ := published task
        rw [if_neg hcancel]
        apply updatedTask_setTask hlive hid hkind _ hsum
        refine .inr ⟨rfl, hact, ?_⟩
        rw [hstate, orCancelled, if_neg hcancel]

variable {title : String} {playbackSession : BilibiliPlaybackSession}

include admitted consistent in
theorem completePlaybackPlanned_effects {id : String} :
    Effects config inputs (fun _ => MoveSet.ofTask id (completes .planned)) registry
      (registry.completePlaybackPlanned config input id title playbackSession now).1 := by
  apply publishPlayback_effects admitted consistent
  · intro task
    exact ⟨rfl, rfl, rfl, rfl⟩
  · intro task
    exact ⟨rfl, rfl, rfl, rfl⟩

variable {playbackSource : PlaybackSource}

include admitted consistent in
theorem completePlaybackPlayable_effects {id : String} :
    Effects config inputs (fun _ => MoveSet.ofTask id (completes .playable)) registry
      (registry.completePlaybackPlayable config input id title playbackSource playbackSession
        now).1 := by
  apply publishPlayback_effects admitted consistent
  · intro task
    exact ⟨rfl, rfl, rfl, rfl⟩
  · intro task
    exact ⟨rfl, rfl, rfl, rfl⟩

variable {resultItems : List BilibiliTaskResultItem}

include admitted consistent in
theorem completePlaybackResultsPlayable_effects {id : String} :
    Effects config inputs (fun _ => MoveSet.ofTask id (completes .playable)) registry
      (registry.completePlaybackResultsPlayable config input id title message playbackSource
        playbackSession resultItems now).1 := by
  apply publishPlayback_effects admitted consistent
  · intro task
    exact ⟨rfl, rfl, rfl, rfl⟩
  · intro task
    exact ⟨rfl, rfl, rfl, rfl⟩

include admitted consistent in
theorem updatePlaybackResults_effects {id : String} {title : Option String} {progress : Option Rat}
    :
    Effects config inputs (fun _ => MoveSet.none) registry
      (registry.updatePlaybackResults config input id title message progress resultItems now).1 := by
  unfold updatePlaybackResults
  cases hlive : registry.tasksById id with
  | none => exact effects_direct (effect_refl registry)
  | some task =>
    simp only
    split
    · exact effects_direct (effect_refl registry)
    split
    · exact effects_direct (effect_refl registry)
    · apply persistOrRestoreRecord_effects admitted consistent
      exact updatedTask_setTask hlive rfl rfl (.inl rfl) rfl

def caches (_ : TaskKind) (before after : TaskState) : Prop :=
  (before.isTerminal = false ∨ before = .completed) ∧ after = before.orCancelled .completed

theorem withCachedSession_fields (task : Task) (sessionId libraryItemId : String)
    (session : Option BilibiliPlaybackSession) (now : Timestamp) :
    let updated := task.withCachedSession sessionId libraryItemId session now
    updated.id = task.id ∧ updated.kind = task.kind ∧
      (updated.state = task.state ∨ updated.state = task.state.orCancelled .completed) ∧
      updated.outputSummary = task.outputSummary := by
  simp only [Task.withCachedSession]
  split
  · next hcancel =>
      refine ⟨rfl, rfl, .inr ?_, rfl⟩
      rw [orCancelled, if_pos hcancel]
      rfl
  · next hcancel =>
      split
      · refine ⟨rfl, rfl, .inr ?_, rfl⟩
        rw [orCancelled, if_neg hcancel]
        rfl
      · exact ⟨rfl, rfl, .inl rfl, rfl⟩

include admitted consistent in
theorem completePlaybackHlsSessionCachedInner_effects {taskId sessionId libraryItemId : String}
    {session : Option BilibiliPlaybackSession} :
    Effects config inputs (fun _ => MoveSet.ofTask taskId caches) registry
      (registry.completePlaybackHlsSessionCachedInner config recovery input taskId sessionId
        libraryItemId session now).1 := by
  apply effects_afterRecovery consistent
  intro middle hmid _
  cases hlive : middle.tasksById taskId with
  | none => exact effect_refl middle
  | some task =>
    simp only
    split
    · exact effect_refl middle
    split
    · exact effect_refl middle
    next hterm =>
      split
      · exact effect_refl middle
      split
      · exact effect_refl middle
      have hbefore : task.state.isTerminal = false ∨ task.state = .completed := by
        by_cases h : task.state.isTerminal = false
        · exact .inl h
        right
        simp only [h] at hterm
        by_contra hnot
        apply hterm
        simp [Task.completedHasPlayableResultSession, hnot]
      obtain ⟨hid, hkind, hstate, hsum⟩ :=
        withCachedSession_fields task sessionId libraryItemId session now
      have hmove : (task.withCachedSession sessionId libraryItemId session now).state =
          task.state ∨ (MoveSet.ofTask taskId caches).allowed taskId task.kind task.state
            (task.withCachedSession sessionId libraryItemId session now).state := by
        cases hstate with
        | inl same => exact .inl same
        | inr moved => exact .inr ⟨rfl, hbefore, moved⟩
      have updated : UpdatedTask config.outputs (MoveSet.ofTask taskId caches) middle
          (middle.setTask taskId
            (task.withCachedSession sessionId libraryItemId session now)) taskId task
          (task.withCachedSession sessionId libraryItemId session now) :=
        updatedTask_setTask hlive hid hkind hmove hsum
      split
      · exact effect_updated admitted hmid updated.dequeue (.inl rfl)
      · exact effect_updated admitted hmid updated (.inl rfl)

end

end NetPlayer.Tasks
