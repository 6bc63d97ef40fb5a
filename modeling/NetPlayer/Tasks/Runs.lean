import NetPlayer.Library.Transition
import NetPlayer.Tasks.CacheOperationEffects

/-!
# Runs of the task registry

The operations as one step relation. A step gives an operation any arguments, any
order of the maps it iterates and any answer of the store; a new task gets an id
that no live task has, and an enumeration of a map names a key once.
-/

namespace NetPlayer.Tasks

/-- The operations, with what a property of a step speaks about. -/
inductive Operation where
  | createTask
  | tryClaimNextBilibiliTask
  | updateProgress
  | completeTask
  | completePlayback
  | updatePlaybackResults
  | completePlaybackHlsSessionCached
  | cancelTask (id : String)
  | failPlaybackTaskAfterCacheRestore (id : String)
  | failCompletedPlaybackTaskAfterCacheRestore
  | failUnrestorablePlaybackSessionAfterCacheRestore
  | failUnrestorablePlaybackTasks
  | removeCompletedPlaybackTask
  | tombstoneLibraryItemBeforeDelete (libraryItemId : String) (now : Timestamp)
  | updateOutput
  | commitStagedDownloadTerminal
  | persistCurrentState
  | subscribe
  | receive
  | drop (index : Nat)
  deriving DecidableEq

section

variable {Output : Type}

def SaveInput.Enumerates (input : SaveInput) (registry : Registry Output) : Prop :=
  ∀ id, registry.tasksById id ≠ none → id ∈ input.taskIds

inductive Step (config : Config Output) : Registry Output → Operation → Registry Output → Prop
  | createBilibiliTask (registry input activeTaskId uuid source)
      (fresh : registry.tasksById ("bilibili-" ++ uuid) = none)
      (enumerated : input.Enumerates registry) :
      Step config registry .createTask
        (registry.createBilibiliTask config input activeTaskId uuid source).1
  | createBilibiliDownloadTaskV2 (registry input availableBefore activeTaskId uuid source title)
      (candidates) (fresh : registry.tasksById ("bilibili-" ++ uuid) = none)
      (enumerated : input.Enumerates registry) :
      Step config registry .createTask (registry.createBilibiliDownloadTaskV2 config input
        availableBefore activeTaskId uuid source title candidates).1
  | createBilibiliPlaybackTaskRecord (registry input activeTaskId uuid source title candidates)
      (fresh : registry.tasksById ("bilibili-playback-" ++ uuid) = none)
      (enumerated : input.Enumerates registry) :
      Step config registry .createTask (registry.createBilibiliPlaybackTaskRecord config input
        activeTaskId uuid source title candidates).1
  | tryClaimNextBilibiliTask (registry input pendingOutputCleanup now)
      (enumerated : input.Enumerates registry) :
      Step config registry .tryClaimNextBilibiliTask
        (registry.tryClaimNextBilibiliTask config input pendingOutputCleanup now).1
  | updateTaskProgress (registry id progress now) :
      Step config registry .updateProgress (registry.updateTaskProgress id progress now).1
  | updatePlaybackCacheProgress (registry id progress now) :
      Step config registry .updateProgress (registry.updatePlaybackCacheProgress id progress now).1
  | completeTask (registry recovery input id state message libraryItemId progress now)
      (terminal : state = .succeeded ∨ state = .failed ∨ state = .cancelled)
      (enumerated : input.Enumerates registry) :
      Step config registry .completeTask (registry.completeTask config recovery input id state
        message libraryItemId progress now).1
  | completePlaybackPlanned (registry input id title playbackSession now)
      (enumerated : input.Enumerates registry) :
      Step config registry .completePlayback
        (registry.completePlaybackPlanned config input id title playbackSession now).1
  | completePlaybackPlayable (registry input id title playbackSource playbackSession now)
      (enumerated : input.Enumerates registry) :
      Step config registry .completePlayback (registry.completePlaybackPlayable config input id
        title playbackSource playbackSession now).1
  | completePlaybackResultsPlayable (registry input id title message playbackSource)
      (playbackSession resultItems now)
      (enumerated : input.Enumerates registry) :
      Step config registry .completePlayback (registry.completePlaybackResultsPlayable config
        input id title message playbackSource playbackSession resultItems now).1
  | updatePlaybackResults (registry input id title message progress resultItems now)
      (enumerated : input.Enumerates registry) :
      Step config registry .updatePlaybackResults (registry.updatePlaybackResults config input id
        title message progress resultItems now).1
  | completePlaybackHlsSessionCached (registry recovery input taskId sessionId libraryItemId)
      (session now)
      (enumerated : input.Enumerates registry) :
      Step config registry .completePlaybackHlsSessionCached
        (registry.completePlaybackHlsSessionCachedInner config recovery input taskId sessionId
          libraryItemId session now).1
  | cancelTask (registry recovery input id now)
      (enumerated : input.Enumerates registry) :
      Step config registry (.cancelTask id) (registry.cancelTask config recovery input id now).1
  | failPlaybackTaskAfterCacheRestore (registry input id message now)
      (enumerated : input.Enumerates registry) :
      Step config registry (.failPlaybackTaskAfterCacheRestore id)
        (registry.failPlaybackTaskAfterCacheRestore config input id message now).1
  | failCompletedPlaybackTaskAfterCacheRestore (registry input taskIds sessionId message now)
      (enumerated : input.Enumerates registry) :
      Step config registry .failCompletedPlaybackTaskAfterCacheRestore
        (registry.failCompletedPlaybackTaskAfterCacheRestore config input taskIds sessionId
          message now).1
  | failUnrestorablePlaybackSessionAfterCacheRestore (registry recovery input taskIds)
      (sessionId message now)
      (enumerated : input.Enumerates registry) :
      Step config registry .failUnrestorablePlaybackSessionAfterCacheRestore
        (registry.failUnrestorablePlaybackSessionAfterCacheRestore config recovery input taskIds
          sessionId message now).1
  | failUnrestorablePlaybackTasks (registry input taskIds playable completed now)
      (enumerated : input.Enumerates registry) :
      Step config registry .failUnrestorablePlaybackTasks
        (registry.failUnrestorablePlaybackTasks config input taskIds playable completed now).1
  | removeCompletedPlaybackTask (registry input taskIds sessionId libraryItemId now)
      (enumerated : input.Enumerates registry) :
      Step config registry .removeCompletedPlaybackTask (registry.removeCompletedPlaybackTask
        config input taskIds sessionId libraryItemId now).1
  | tombstoneLibraryItemBeforeDelete (registry input taskIds libraryItemId now)
      (nodup : taskIds.Nodup)
      (enumerated : input.Enumerates registry) :
      Step config registry (.tombstoneLibraryItemBeforeDelete libraryItemId now)
        (registry.tombstoneLibraryItemBeforeDelete config input taskIds libraryItemId now).1
  | updateHlsCacheFillStatus (registry input taskId sessionId status verifiedCompletion now)
      (enumerated : input.Enumerates registry) :
      Step config registry .updateOutput (registry.updateHlsCacheFillStatusInner config input
        taskId sessionId status verifiedCompletion now).1
  | refreshHlsPlaybackSource (registry input taskIds sessionId playbackSource playbackSession)
      (enumerated : input.Enumerates registry) :
      Step config registry .updateOutput (registry.refreshHlsPlaybackSourceWithMetadata config
        input taskIds sessionId playbackSource playbackSession).1
  | commitStagedTaskOutput (registry input id replacement)
      (enumerated : input.Enumerates registry) :
      Step config registry .updateOutput
        (registry.commitStagedTaskOutput config input id replacement).1
  | commitStagedDownloadTerminal (registry input id terminalState libraryItemId message)
      (replacement now)
      (enumerated : input.Enumerates registry) :
      Step config registry .commitStagedDownloadTerminal (registry.commitStagedDownloadTerminal
        config input id terminalState libraryItemId message replacement now).1
  | retireExpiredTaskResources (registry input taskIds excluded now)
      (enumerated : input.Enumerates registry) :
      Step config registry .updateOutput
        (registry.retireExpiredTaskResourcesExcept config input taskIds excluded now).1
  | persistCurrentState (registry input durabilityRequired requireDurableCommit)
      (enumerated : input.Enumerates registry) :
      Step config registry .persistCurrentState
        (registry.persistCurrentState config input durabilityRequired requireDurableCommit).1
  | subscribe (registry taskIds watchedIds) (nodup : taskIds.Nodup)
      (complete : ∀ id, registry.visibleTasksById id ≠ none → id ∈ taskIds) :
      Step config registry .subscribe (registry.subscribe taskIds watchedIds)
  | receive (registry index) :
      Step config registry .receive
        (registry.modifyWatcher index fun watcher => watcher.recv.2)
  | drop (registry index) :
      Step config registry (.drop index)
        (registry.modifyWatcher index fun watcher => { watcher with registered := false })

inductive WatcherStep (registry : Registry Output) : Operation → List TaskWatcher → Prop
  | subscribe (taskIds watchedIds) (nodup : taskIds.Nodup)
      (complete : ∀ id, registry.visibleTasksById id ≠ none → id ∈ taskIds) :
      WatcherStep registry .subscribe (registry.subscribe taskIds watchedIds).watchers
  | receive (index) :
      WatcherStep registry .receive
        (registry.modifyWatcher index fun watcher => watcher.recv.2).watchers
  | drop (index) :
      WatcherStep registry (.drop index) (registry.modifyWatcher index fun watcher =>
        { watcher with registered := false }).watchers

structure Registry.Started (config : Config Output) (registry : Registry Output) : Prop where
  consistent : registry.Consistent config.outputs
  visible : registry.visibleTasksById = registry.tasksById
  pending : registry.pendingPublicationsById = []
  watchers : registry.watchers = []
  installed : registry.installed = []

variable {config : Config Output} {inputs : SaveInput → Prop}

def operationMoves (config : Config Output) (before : Registry Output) :
    Operation → Registry Output → MoveSet
  | .tryClaimNextBilibiliTask, _ => MoveSet.ofAny claims
  | .completeTask, _ => MoveSet.ofAny fun kind first second =>
    ∃ state, (state = .succeeded ∨ state = .failed ∨ state = .cancelled) ∧
      completes state kind first second
  | .completePlayback, _ => MoveSet.ofAny fun kind first second =>
    ∃ state, (state = .planned ∨ state = .playable) ∧ completes state kind first second
  | .completePlaybackHlsSessionCached, _ => MoveSet.ofAny caches
  | .cancelTask id, middle => MoveSet.cancelling config id middle
  | .failPlaybackTaskAfterCacheRestore id, _ =>
    MoveSet.ofTask id (failsFrom fun first => first.isTerminal = false)
  | .failCompletedPlaybackTaskAfterCacheRestore, _ =>
    MoveSet.ofAny (failsFrom fun first => first = .completed)
  | .failUnrestorablePlaybackSessionAfterCacheRestore, _ => MoveSet.ofAny (failsFrom Served)
  | .failUnrestorablePlaybackTasks, _ => MoveSet.ofAny (failsFrom Served)
  | .tombstoneLibraryItemBeforeDelete libraryItemId now, _ =>
    { allowed := fun id _ _ second => second = .failed ∧
        ∀ task, before.tasksById id = some task → ∃ record updated,
          before.markLibraryItemDeleted config.outputs id libraryItemId = .ok record ∧
          task.withLibraryDeletion libraryItemId (deletionOf config.outputs record) now =
            some updated ∧ updated.state = .failed
      creates := fun _ => False }
  | .commitStagedDownloadTerminal, _ => MoveSet.ofAny fun kind first second =>
    ∃ state, publishesTerminal state kind first second
  | _, _ => MoveSet.none

def MoveSet.Le (moves wider : MoveSet) : Prop :=
  (∀ id kind first second, moves.allowed id kind first second →
    wider.allowed id kind first second) ∧ ∀ id, moves.creates id → wider.creates id

variable {moves wider : MoveSet} {id : String}

theorem MoveSet.Permits.mono (le : moves.Le wider) {before after : Option TaskStatus}
    (h : moves.Permits id before after) : wider.Permits id before after := by
  cases after with
  | none => cases before <;> trivial
  | some after =>
    cases before with
    | none => exact le.2 id h
    | some before =>
      cases h with
      | inl same => exact .inl same
      | inr moved => exact .inr ⟨moved.1, le.1 _ _ _ _ moved.2⟩

variable {before after : Registry Output}

theorem Touched.mono {outputs : TaskOutputs Output} (le : moves.Le wider)
    (h : Touched outputs moves before after) : Touched outputs wider before after :=
  { h with permitted := fun id => (h.permitted id).mono le }

theorem Effect.mono (le : moves.Le wider) (h : Effect config inputs moves before after) :
    Effect config inputs wider before after := by
  cases h with
  | quiet quiet => exact Effect.quiet quiet
  | kept touched unavailable => exact Effect.kept (touched.mono le) unavailable
  | installed touched refreshed store input pruned =>
    exact Effect.installed (touched.mono le) refreshed store input pruned
  | volatileInstalled touched store unavailable input admitted unstuck =>
    exact Effect.volatileInstalled (touched.mono le) store unavailable input admitted unstuck
  | restored restored unavailable => exact Effect.restored restored unavailable
  | volatile live progress now => exact Effect.volatile live progress now
  | unstaged store permitted unavailable consistent visible pending watchers installed live
      others =>
      exact Effect.unstaged store (fun id => (permitted id).mono le) unavailable consistent visible
        pending watchers installed live others

theorem Effects.mono {choose wider : Registry Output → MoveSet}
    (le : ∀ middle, (choose middle).Le (wider middle))
    (h : Effects config inputs choose before after) : Effects config inputs wider before after := by
  obtain ⟨middle, last, first, effect, quiet⟩ := h
  exact ⟨middle, last, first, effect.mono (le middle), quiet⟩

theorem le_ofAny {may wider : TaskKind → TaskState → TaskState → Prop}
    (h : ∀ kind first second, may kind first second → wider kind first second) :
    (MoveSet.ofTask id may).Le (MoveSet.ofAny wider) :=
  ⟨fun _ kind first second allowed => h kind first second allowed.2, fun _ h => h⟩

theorem createTask_effects {input : SaveInput} {activeTaskId : Option String} {task : Task}
    {candidates : List String} {refusal : String}
    (admitted : config.persistence = false → inputs input)
    (consistent : before.Consistent config.outputs) (fresh : before.tasksById task.id = none) :
    ∃ id, before.tasksById id = none ∧ Effect config inputs (MoveSet.creating id) before
      (before.createTask config input activeTaskId task candidates refusal).1 :=
  ⟨task.id, fresh, createTask_effect admitted consistent fresh⟩

variable {operation : Operation}

theorem step_effect (consistent : before.Consistent config.outputs)
    (step : Step config before operation after) :
    (operation = .createTask ∧ ∃ id, before.tasksById id = none ∧
        Effect config (fun input => input.Enumerates before) (MoveSet.creating id) before after) ∨
      Effects config (fun input => input.Enumerates before)
        (operationMoves config before operation) before after ∨
      ∃ watchers, WatcherStep before operation watchers ∧
        after = { before with watchers := watchers } := by
  cases step with
  | createBilibiliTask input activeTaskId uuid source fresh enumerated =>
    left
    refine ⟨rfl, ?_⟩
    unfold Registry.createBilibiliTask
    split
    · exact ⟨_, fresh, effect_refl before⟩
    · exact createTask_effects (fun _ => enumerated) consistent fresh
  | createBilibiliDownloadTaskV2 input availableBefore activeTaskId uuid source title candidates
      fresh enumerated =>
      left
      refine ⟨rfl, ?_⟩
      unfold Registry.createBilibiliDownloadTaskV2
      split
      · exact ⟨_, fresh, effect_refl before⟩
      split
      · exact ⟨_, fresh, effect_refl before⟩
      · split
        · exact ⟨_, fresh, effect_refl before⟩
        · exact createTask_effects (fun _ => enumerated) consistent fresh
  | createBilibiliPlaybackTaskRecord input activeTaskId uuid source title candidates fresh
      enumerated =>
      left
      refine ⟨rfl, ?_⟩
      unfold Registry.createBilibiliPlaybackTaskRecord
      split
      · exact ⟨_, fresh, effect_refl before⟩
      · exact createTask_effects (fun _ => enumerated) consistent fresh
  | tryClaimNextBilibiliTask input pendingOutputCleanup now enumerated =>
    exact .inr (.inl (effects_direct
      (tryClaimNextBilibiliTask_effect (fun _ => enumerated) consistent)))
  | updateTaskProgress | updatePlaybackCacheProgress =>
    exact .inr (.inl (effects_direct updateProgress_effect))
  | completeTask recovery input id state message libraryItemId progress now terminal enumerated =>
    right; left
    exact (completeTask_effects (fun _ => enumerated) consistent).mono fun _ =>
      le_ofAny fun _ _ _ completed => ⟨state, terminal, completed⟩
  | completePlaybackPlanned input id title playbackSession now enumerated =>
    right; left
    exact (completePlaybackPlanned_effects (fun _ => enumerated) consistent).mono fun _ =>
      le_ofAny fun _ _ _ completed => ⟨.planned, .inl rfl, completed⟩
  | completePlaybackPlayable input id title playbackSource playbackSession now enumerated =>
    right; left
    exact (completePlaybackPlayable_effects (fun _ => enumerated) consistent).mono fun _ =>
      le_ofAny fun _ _ _ completed => ⟨.playable, .inr rfl, completed⟩
  | completePlaybackResultsPlayable input id title message playbackSource playbackSession
      resultItems now enumerated =>
      right; left
      exact (completePlaybackResultsPlayable_effects (fun _ => enumerated) consistent).mono fun _ =>
        le_ofAny fun _ _ _ completed => ⟨.playable, .inr rfl, completed⟩
  | updatePlaybackResults input id title message progress resultItems now enumerated =>
    exact .inr (.inl (updatePlaybackResults_effects (fun _ => enumerated) consistent))
  | completePlaybackHlsSessionCached recovery input taskId sessionId libraryItemId session now
      enumerated =>
      right; left
      exact (completePlaybackHlsSessionCachedInner_effects
        (fun _ => enumerated) consistent).mono fun _ =>
        le_ofAny fun _ _ _ cached => cached
  | cancelTask recovery input id now enumerated =>
    exact .inr (.inl (cancelTask_effects (fun _ => enumerated) consistent))
  | failPlaybackTaskAfterCacheRestore input id message now enumerated =>
    exact .inr (.inl
      (failPlaybackTaskAfterCacheRestore_effects (fun _ => enumerated) consistent))
  | failCompletedPlaybackTaskAfterCacheRestore input taskIds sessionId message now enumerated =>
    exact .inr (.inl
      (failCompletedPlaybackTaskAfterCacheRestore_effects (fun _ => enumerated) consistent))
  | failUnrestorablePlaybackSessionAfterCacheRestore recovery input taskIds sessionId message now
      enumerated =>
      exact .inr (.inl
        (failUnrestorablePlaybackSessionAfterCacheRestore_effects (fun _ => enumerated) consistent))
  | failUnrestorablePlaybackTasks input taskIds playable completed now enumerated =>
    exact .inr (.inl (failUnrestorablePlaybackTasks_effects (fun _ => enumerated) consistent))
  | removeCompletedPlaybackTask input taskIds sessionId libraryItemId now enumerated =>
    exact .inr (.inl (removeCompletedPlaybackTask_effects (fun _ => enumerated) consistent))
  | tombstoneLibraryItemBeforeDelete input taskIds libraryItemId now nodup enumerated =>
    right; left
    apply tombstoneLibraryItemBeforeDelete_effects (fun _ => enumerated) consistent _ nodup _
    · exact ⟨fun _ _ _ _ _ _ second => second, fun _ => not_false⟩
    · intro id _ task record updated hl hrec hupd
      cases (withLibraryDeletion_fields hupd).2.2.1 with
      | inl same => exact .inl same
      | inr failed =>
        refine .inr ⟨failed, ?_⟩
        intro found hf
        rw [hl] at hf
        cases hf
        exact ⟨record, updated, hrec, hupd, failed⟩
  | updateHlsCacheFillStatus input taskId sessionId status verifiedCompletion now enumerated =>
    exact .inr (.inl (updateHlsCacheFillStatusInner_effects (fun _ => enumerated) consistent))
  | refreshHlsPlaybackSource input taskIds sessionId playbackSource playbackSession enumerated =>
    exact .inr (.inl
      (refreshHlsPlaybackSourceWithMetadata_effects (fun _ => enumerated) consistent))
  | commitStagedTaskOutput input id replacement enumerated =>
    exact .inr (.inl (commitStagedTaskOutput_effects (fun _ => enumerated) consistent))
  | commitStagedDownloadTerminal input id terminalState libraryItemId message replacement now
      enumerated =>
      right; left
      exact (commitStagedDownloadTerminal_effects (fun _ => enumerated) consistent).mono fun _ =>
        le_ofAny fun _ _ _ published => ⟨terminalState, published⟩
  | retireExpiredTaskResources input taskIds excluded now enumerated =>
    exact .inr (.inl
      (retireExpiredTaskResourcesExcept_effects (fun _ => enumerated) consistent))
  | persistCurrentState input durabilityRequired requireDurableCommit enumerated =>
    exact .inr (.inl (persistCurrentState_effects (fun _ => enumerated) consistent))
  | subscribe taskIds watchedIds nodup complete =>
    exact .inr (.inr ⟨_, WatcherStep.subscribe taskIds watchedIds nodup complete, rfl⟩)
  | receive index => exact .inr (.inr ⟨_, WatcherStep.receive index, rfl⟩)
  | drop index => exact .inr (.inr ⟨_, WatcherStep.drop index, rfl⟩)

theorem step_invariant (inv : Registry Output → Prop) (consistent : before.Consistent config.outputs)
    (step : Step config before operation after) (start : inv before)
    (effect : ∀ {moves first second}, first.Consistent config.outputs →
      Effect config (fun input => input.Enumerates before) moves first second →
        inv first → inv second)
    (quiet : ∀ {first second}, Quiet first second → inv first → inv second)
    (watchers : ∀ {first operation watchers}, WatcherStep first operation watchers → inv first →
      inv { first with watchers := watchers }) :
    inv after := by
  rcases step_effect consistent step with hcreate | hoper | hwats
  · obtain ⟨-, id, -, hcreate⟩ := hcreate
    exact effect consistent hcreate start
  · obtain ⟨middle, last, hfst, hl, hq⟩ := hoper
    cases hfst with
    | inl same =>
      rw [same] at hl
      exact quiet hq (effect consistent hl start)
    | inr recovered =>
      have hmid := effect consistent recovered.2 start
      have hk := recovered.2.consistent consistent
      exact quiet hq (effect hk hl hmid)
  · obtain ⟨list, moved, rfl⟩ := hwats
    exact watchers moved start

theorem step_consistent (step : Step config before operation after)
    (consistent : before.Consistent config.outputs) : after.Consistent config.outputs :=
  step_invariant (fun registry => registry.Consistent config.outputs) consistent step
    consistent (fun _ effect h => effect.consistent h)
    (fun quiet h => consistent_of_live h quiet.tasks quiet.outputs quiet.visible quiet.pending)
    (fun _ h => consistent_of_live h rfl rfl rfl rfl)

theorem Effect.live_none (effect : Effect config inputs moves before after)
    (creates : ¬ moves.creates id) (h : before.tasksById id = none) :
    after.tasksById id = none := by
  have hperm := effect.permitted id
  unfold Registry.status at hperm
  rw [h] at hperm
  cases ha : after.tasksById id with
  | none => rfl
  | some task =>
    rw [ha] at hperm
    exact (creates hperm).elim

theorem step_creates (step : Step config before operation after)
    (consistent : before.Consistent config.outputs) :
    (∀ id, before.tasksById id = none → after.tasksById id = none) ∨
      operation = .createTask ∧ ∃ created, ∀ id, id ≠ created →
        before.tasksById id = none → after.tasksById id = none := by
  rcases step_effect consistent step with hcreate | hoper | hwats
  · obtain ⟨hop, created, -, heffect⟩ := hcreate
    exact .inr ⟨hop, created, fun id hne h => heffect.live_none hne h⟩
  · left
    intro id h
    obtain ⟨middle, last, hfst, hl, hq⟩ := hoper
    have hmid : middle.tasksById id = none := by
      cases hfst with
      | inl same => rw [same]; exact h
      | inr recovered => exact recovered.2.live_none not_false h
    rw [hq.tasks]
    refine hl.live_none ?_ hmid
    cases operation <;> exact not_false
  · left
    obtain ⟨watchers, -, rfl⟩ := hwats
    exact fun id h => h

def Registry.Only (registry : Registry Output) (id : String) : Prop :=
  ∀ other, registry.tasksById other ≠ none → other = id

theorem Registry.Only.step (only : before.Only id) (consistent : before.Consistent config.outputs)
    (step : Step config before operation after) (create : operation ≠ .createTask) :
    after.Only id := by
  intro other h
  cases step_creates step consistent with
  | inl kept => exact only other fun hn => h (kept other hn)
  | inr created => exact (create created.1).elim

theorem only_created (consistent : before.Consistent config.outputs)
    (empty : ∀ other, before.tasksById other = none) (step : Step config before .createTask after)
    (live : after.tasksById id ≠ none) : after.Only id := by
  intro other h
  cases step_creates step consistent with
  | inl kept => exact (h (kept other (empty other))).elim
  | inr created =>
    obtain ⟨-, new, hn⟩ := created
    have ho : other = new := by
      by_contra hne
      exact h (hn other hne (empty other))
    have hid : id = new := by
      by_contra hne
      exact live (hn id hne (empty id))
    rw [ho, hid]

end

end NetPlayer.Tasks
