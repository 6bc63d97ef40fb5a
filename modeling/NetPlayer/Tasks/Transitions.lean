import NetPlayer.Tasks.Runs

/-!
# The state machine of a task

Which moves between task states a run of the registry can make. The operations
check the state of the live task, each in its own way; two of them overlook that a
cancellation has been requested, and a cancellation looks at the visible task.
-/

namespace NetPlayer.Tasks

open List

open Transition (Run Guarded)

section

variable {Output : Type} {config : Config Output} {inputs : SaveInput → Prop}

def Registry.Synced (config : Config Output) (registry : Registry Output) : Prop :=
  config.persistence = true → registry.available = true →
    registry.pendingPublicationsById = [] ∧ registry.visibleTasksById = registry.tasksById

variable {before : Registry Output} {id : String} {now : Timestamp}

variable {task updated : Task}

theorem synced_volatile {progress : BilibiliTaskProgress}
    (consistent : before.Consistent config.outputs) (live : before.tasksById id = some task)
    (synced : before.Synced config) :
    ((before.setTask id (task.withProgress progress now)).publishVolatileLocked
      (task.withProgress progress now)).Synced config := by
  intro store available
  have hk : task.id = id := consistent.live live
  have hid : (task.withProgress progress now).id = id := hk
  have havail : before.available = true := by
    rwa [(publishVolatileLocked_tasks _ _).2.2.1] at available
  obtain ⟨hp, hvis⟩ := synced store havail
  have hsh : before.visibleTasksById id = some task := by rw [hvis, live]
  unfold Registry.publishVolatileLocked
  rw [hid]
  have hbranch : ((before.setTask id (task.withProgress progress now)).hasPendingPublication id ||
      ((before.setTask id (task.withProgress progress now)).visibleTasksById id).isNone)
        = false := by
    simp [Registry.hasPendingPublication, Registry.setTask, hp, hsh]
  rw [hbranch]
  refine ⟨hp, ?_⟩
  show Function.update before.visibleTasksById id _ = Function.update before.tasksById id _
  rw [hvis]

variable {after : Registry Output}

theorem Effect.synced {moves : MoveSet} (consistent : before.Consistent config.outputs)
    (effect : Effect config inputs moves before after) (synced : before.Synced config) :
    after.Synced config := by
  cases effect with
  | quiet quiet =>
    intro store available
    rw [quiet.pending, quiet.visible, quiet.tasks]
    exact synced store (quiet.available ▸ available)
  | kept _ unavailable | restored _ unavailable =>
    intro _ available
    rw [unavailable] at available
    cases available
  | @installed current touched refreshed store input pruned =>
    intro _ _
    obtain ⟨htasks, hvis, hp, -⟩ :=
      installCommitted_spec (current.recordInstalled pruned) input pruned
    exact ⟨hp, hvis.trans htasks.symm⟩
  | volatileInstalled _ store _ _ _ _ | unstaged store =>
    intro present
    rw [store] at present
    cases present
  | volatile live _ _ => exact synced_volatile consistent live synced

variable {operation : Operation}

theorem step_synced (step : Step config before operation after)
    (consistent : before.Consistent config.outputs) (synced : before.Synced config) :
    after.Synced config :=
  step_invariant (fun registry => registry.Synced config) consistent step synced
    (fun kept effect h => effect.synced kept h)
    (fun quiet h store available => by
      rw [quiet.pending, quiet.visible, quiet.tasks]
      exact h store (quiet.available ▸ available))
    (fun _ h => h)

variable {registry : Registry Output}

theorem started_synced (started : registry.Started config) : registry.Synced config :=
  fun _ _ => ⟨started.pending, started.visible⟩

def Operation.losesCache : Operation → Bool
  | .failPlaybackTaskAfterCacheRestore _ | .failCompletedPlaybackTaskAfterCacheRestore
  | .failUnrestorablePlaybackSessionAfterCacheRestore | .failUnrestorablePlaybackTasks
  | .removeCompletedPlaybackTask | .tombstoneLibraryItemBeforeDelete _ _ => true
  | _ => false

structure TaskMove (operation : Operation) (before after : TaskStatus) : Prop where
  kind : after.1 = before.1
  cancelRequested : before.2 = .cancelRequested →
    after.2 = .cancelRequested ∨ after.2 = .cancelled
  terminal : before.2.isTerminal = true → after.2.isTerminal = true
  unsuccessful : before.2 = .failed ∨ before.2 = .cancelled →
    after.2 ≠ .succeeded ∧ after.2 ≠ .completed
  completed : before.2 = .completed →
    after.2 = .completed ∨ after.2 = .failed ∧ operation.losesCache = true
  claimed : before = (.bilibiliDownload, .queued) → after.2 = .running →
    operation = .tryClaimNextBilibiliTask

theorem TaskMove.refl (operation : Operation) (status : TaskStatus) :
    TaskMove operation status status where
  kind := rfl
  cancelRequested h := .inl h
  terminal h := h
  unsuccessful h := by
    cases h with
    | inl failed | inr failed => rw [failed]; exact ⟨nofun, nofun⟩
  completed h := .inl h
  claimed queued running := by
    rw [queued] at running
    cases running

variable (item : BilibiliTaskResultItem)

def BilibiliTaskResultItem.refersTo (libraryItemId : String) : Bool :=
  item.libraryItemId = libraryItemId ||
    item.playbackSource.any fun source => source.itemId == libraryItemId

def Task.refersTo (task : Task) (deletion : Option LibraryDeletion) (libraryItemId : String) :
    Bool :=
  deletion.isSome || (task.libraryItemId = libraryItemId ||
    task.playbackSource.any fun source => source.itemId == libraryItemId) ||
    task.resultItems.any fun item => item.refersTo libraryItemId

def BilibiliTaskResultItem.outlives (deletion : Option LibraryDeletion) (libraryItemId : String)
    : Bool :=
  match deletion.bind fun deletion => deletion.results.lookup item.id with
  | some (state, _) => state == .succeeded || state == .completed
  | none => !item.refersTo libraryItemId && (item.state == .succeeded || item.state == .completed)

def Registry.SparesCancelled (outputs : TaskOutputs Output) (registry : Registry Output)
    (libraryItemId : String) : Prop :=
  ∀ id task record, registry.tasksById id = some task → task.state = .cancelRequested →
    registry.markLibraryItemDeleted outputs id libraryItemId = .ok record →
    task.refersTo (record.map Prod.snd) libraryItemId = true →
    ∃ item ∈ task.resultItems, item.outlives (record.map Prod.snd) libraryItemId = true

def Fits (config : Config Output) (registry : Registry Output) : Operation → Prop
  | .failPlaybackTaskAfterCacheRestore id =>
    ∀ task, registry.tasksById id = some task → task.state ≠ .cancelRequested
  | .tombstoneLibraryItemBeforeDelete libraryItemId _ =>
    registry.SparesCancelled config.outputs libraryItemId
  | .cancelTask id => config.persistence = true ∨
      ∀ task visible, registry.tasksById id = some task →
        registry.visibleTasksById id = some visible → visible.state.isTerminal = false →
        task.state.isTerminal = false
  | _ => True

variable {first second : TaskStatus}

theorem Effects.moves {choose : Registry Output → MoveSet}
    (creates : ∀ middle id, ¬ (choose middle).creates id)
    (effects : Effects config inputs choose before after) (hfst : before.status id = some first)
    (hsnd : after.status id = some second) :
    second = first ∨ second.1 = first.1 ∧ ∃ middle,
      (middle = before ∨ config.persistence = true ∧ Effect config inputs MoveSet.none before middle) ∧
      middle.status id = some first ∧ (choose middle).allowed id first.1 first.2 second.2 := by
  obtain ⟨middle, last, hrecov, heffect, hq⟩ := effects
  have hl : last.status id = some second := by
    unfold Registry.status at hsnd ⊢
    rwa [hq.tasks] at hsnd
  have hperm := heffect.permitted id
  have hmid : middle.status id = some first := by
    cases hrecov with
    | inl same => rw [same]; exact hfst
    | inr recovered =>
      have hk := recovered.2.permitted id
      rw [hfst] at hk
      cases hst : middle.status id with
      | none =>
        rw [hst, hl] at hperm
        exact (creates middle id hperm).elim
      | some kept =>
        rw [hst] at hk
        cases hk with
        | inl same => rw [same]
        | inr moved => exact moved.2.elim
  rw [hmid, hl] at hperm
  cases hperm with
  | inl same => exact .inl same
  | inr moved => exact .inr ⟨moved.1, middle, hrecov, hmid, moved.2⟩

theorem operationMoves_creates (config : Config Output) (before middle : Registry Output)
    (operation : Operation)
    (id : String) : ¬ (operationMoves config before operation middle).creates id := by
  cases operation <;> exact not_false

/-- A move that ends a task which is neither terminal nor waiting for its cancellation,
or that goes where the cancellation goes. -/
theorem taskMove_of_active {before after : TaskStatus} (kind : after.1 = before.1)
    (active : before.2.isTerminal = false)
    (cancels : before.2 = .cancelRequested → after.2 = .cancelRequested ∨ after.2 = .cancelled)
    (claimed : after.2 = .running → operation = .tryClaimNextBilibiliTask) :
    TaskMove operation before after where
  kind := kind
  cancelRequested := cancels
  terminal h := by
    rw [active] at h
    cases h
  unsuccessful h := by
    cases h with
    | inl failed | inr failed => rw [failed] at active; cases active
  completed h := by
    rw [h] at active
    cases active
  claimed _ running := claimed running

theorem taskMove_of_completes {before after : TaskStatus} {state : TaskState}
    (kind : after.1 = before.1) (h : completes state before.1 before.2 after.2)
    (running : state ≠ .running) : TaskMove operation before after := by
  apply taskMove_of_active kind h.1
  · intro requested
    right
    rw [h.2, TaskState.orCancelled, if_pos requested]
  · intro hr
    rw [h.2, TaskState.orCancelled] at hr
    split at hr
    · cases hr
    · exact (running hr).elim

theorem taskMove_of_failed {before after : TaskStatus} (kind : after.1 = before.1)
    (failed : after.2 = .failed) (requested : before.2 ≠ .cancelRequested)
    (loses : operation.losesCache = true) : TaskMove operation before after where
  kind := kind
  cancelRequested h := (requested h).elim
  terminal _ := by
    rw [failed]
    rfl
  unsuccessful _ := by
    rw [failed]
    exact ⟨nofun, nofun⟩
  completed _ := .inr ⟨failed, loses⟩
  claimed _ running := by
    rw [failed] at running
    cases running

theorem withLibraryDeletion_item (deletion : Option LibraryDeletion) (libraryItemId : String) :
    ((item.withLibraryDeletion deletion libraryItemId).2 = true →
        item.refersTo libraryItemId = true) ∧
      (item.outlives deletion libraryItemId = true →
        ((item.withLibraryDeletion deletion libraryItemId).1.state == .succeeded ||
          (item.withLibraryDeletion deletion libraryItemId).1.state == .completed) = true) := by
  unfold BilibiliTaskResultItem.withLibraryDeletion BilibiliTaskResultItem.outlives
  cases deletion.bind fun deletion => deletion.results.lookup item.id with
  | some entry => exact ⟨nofun, fun h => h⟩
  | none =>
    simp only
    split
    · next hrefs =>
        have hconcerned : item.refersTo libraryItemId = true := hrefs
        refine ⟨fun _ => hconcerned, ?_⟩
        intro h
        rw [hconcerned] at h
        cases h
    · exact ⟨nofun, fun h => (Bool.and_eq_true_iff.mp h).2⟩

theorem failed_by_deletion {libraryItemId : String}
    {deletion : Option (LibraryDeletion × TaskOutputSummary)}
    (h : task.withLibraryDeletion libraryItemId deletion now = some updated)
    (active : task.state ≠ .failed) (failed : updated.state = .failed) :
    task.refersTo (deletion.map Prod.fst) libraryItemId = true ∧
      ∀ item ∈ task.resultItems, item.outlives (deletion.map Prod.fst) libraryItemId = false := by
  unfold Task.withLibraryDeletion at h
  simp only at h
  generalize hclr : (if (decide (task.libraryItemId = libraryItemId) ||
    task.playbackSource.any fun source => source.itemId == libraryItemId) = true then
      { task.withoutPlayback with libraryItemId := "" } else task) = cleared at h
  have hs : cleared.state = task.state := by
    rw [← hclr]
    split <;> rfl
  split at h
  · next hconcerned =>
      constructor
      · unfold Task.refersTo
        simp only [Bool.or_eq_true, any_map, any_eq_true, Function.comp] at hconcerned ⊢
        rcases hconcerned with (hdeletion | htop) | ⟨item, hi, hchg⟩
        · exact .inl (.inl (by simpa using hdeletion))
        · exact .inl (.inr htop)
        · exact .inr ⟨item, hi, (withLibraryDeletion_item item _ _).1 hchg⟩
      · split at h
        · next hn =>
            intro item hi
            by_contra hk
            have hserved := (withLibraryDeletion_item item _ _).2 (Bool.of_not_eq_false hk)
            simp only [Bool.and_eq_true, Bool.not_eq_true'] at hn
            have hitems := hn.2
            have hlisted : ∀ (listed : Task),
                listed.resultItems = (task.resultItems.map fun item =>
                  item.withLibraryDeletion (deletion.map Prod.fst) libraryItemId).map Prod.fst →
                listed.hasSuccessfulMediaResult = true := by
              intro listed hres
              unfold Task.hasSuccessfulMediaResult
              rw [hres, if_neg (by simpa using ne_nil_of_mem hi)]
              rw [map_map, any_map, any_eq_true]
              exact ⟨item, hi, hserved⟩
            cases deletion with
            | none | some entry =>
              rw [hlisted _ rfl] at hitems
              cases hitems
        · cases h
          cases deletion with
          | none | some entry => exact (active (hs.symm.trans failed)).elim
  · cases h

theorem status_eq_some {status : TaskStatus} (h : registry.status id = some status) :
    ∃ task, registry.tasksById id = some task ∧ task.status = status :=
  Option.map_eq_some_iff.mp h

/-- With a durable save before it, or with live and visible tasks that agree on what is
terminal, a cancellation finds a task that is neither terminal nor cancelled already. -/
theorem taskMove_of_cancelling {before middle : Registry Output} {id other : String}
    (consistent : before.Consistent config.outputs)
    (synced : before.Synced config) (fits : Fits config before (.cancelTask id))
    (recovered : middle = before ∨
      config.persistence = true ∧ Effect config inputs MoveSet.none before middle)
    (hmid : middle.status other = some first) (kind : second.1 = first.1)
    (moved : (MoveSet.cancelling config id middle).allowed other first.1 first.2 second.2) :
    TaskMove (.cancelTask id) first second := by
  obtain ⟨hid, hready, visible, hvis, hact, hnot, hsnd⟩ := moved
  obtain ⟨task, ht, hst⟩ := status_eq_some hmid
  have hs : first.2 = task.state := by rw [← hst]; rfl
  rw [hid] at ht
  have hn : second.2 = .cancelRequested ∨ second.2 = .cancelled := by
    rw [hsnd]
    split
    · exact .inl rfl
    · exact .inr rfl
  have hl : task.state.isTerminal = false := by
    cases hstore : config.persistence with
    | true =>
      have hsynced : middle.Synced config := by
        cases recovered with
        | inl same => rw [same]; exact synced
        | inr effect => exact effect.2.synced consistent synced
      have hagree := (hsynced hstore (hready hstore)).2
      rw [hagree, ht] at hvis
      cases hvis
      exact hact
    | false =>
      have hsame : middle = before := by
        cases recovered with
        | inl same => exact same
        | inr effect =>
          rw [hstore] at effect
          cases effect.1
      cases fits with
      | inl durable =>
        rw [hstore] at durable
        cases durable
      | inr agree =>
        rw [hsame] at ht hvis
        exact agree task visible ht hvis hact
  apply taskMove_of_active kind (by rw [hs]; exact hl) (fun _ => hn)
  intro running
  cases hn with
  | inl requested | inr requested => rw [requested] at running; cases running

theorem taskMove_of_caches (kind : second.1 = first.1) (cached : caches first.1 first.2 second.2) :
    TaskMove operation first second := by
  cases cached.1 with
  | inl active => exact taskMove_of_completes kind ⟨active, cached.2⟩ nofun
  | inr completed =>
    have hsnd : second.2 = .completed := by
      rw [cached.2, completed]
      rfl
    have hs : second = first := Prod.ext kind (hsnd.trans completed.symm)
    rw [hs]
    exact TaskMove.refl operation first

theorem ne_cancelRequested_of_served {state : TaskState} (served : Served state) :
    state ≠ .cancelRequested := by
  intro requested
  rw [requested] at served
  cases served with
  | inl playable | inr playable => cases playable

theorem not_cancelRequested_of_deletion {libraryItemId : String}
    {record : Option (Output × LibraryDeletion)}
    (spares : before.SparesCancelled config.outputs libraryItemId)
    (live : before.tasksById id = some task)
    (hrec : before.markLibraryItemDeleted config.outputs id libraryItemId = .ok record)
    (hupd : task.withLibraryDeletion libraryItemId (deletionOf config.outputs record) now =
      some updated) (failed : updated.state = .failed) : task.state ≠ .cancelRequested := by
  intro requested
  obtain ⟨hrefs, hlost⟩ := failed_by_deletion hupd (by rw [requested]; exact nofun) failed
  have hdeletion : (deletionOf config.outputs record).map Prod.fst = record.map Prod.snd := by
    cases record <;> rfl
  rw [hdeletion] at hrefs hlost
  obtain ⟨item, hi, hk⟩ := spares id task record live requested hrec hrefs
  rw [hlost item hi] at hk
  cases hk

theorem operation_moves {before middle : Registry Output}
    (consistent : before.Consistent config.outputs)
    (synced : before.Synced config) (fits : Fits config before operation)
    (hfst : before.status id = some first)
    (recovered : middle = before ∨
      config.persistence = true ∧ Effect config inputs MoveSet.none before middle)
    (hmid : middle.status id = some first) (kind : second.1 = first.1)
    (moved : (operationMoves config before operation middle).allowed id first.1 first.2 second.2) :
    TaskMove operation first second := by
  obtain ⟨task, hl, hst⟩ := status_eq_some hfst
  have hs : first.2 = task.state := by rw [← hst]; rfl
  cases operation with
  | tryClaimNextBilibiliTask =>
    have hqueued : first.2 = .queued := moved.1
    apply taskMove_of_active kind
    · rw [hqueued]; rfl
    · intro requested
      rw [hqueued] at requested
      cases requested
    · intro _
      rfl
  | completeTask =>
    obtain ⟨state, hterm, hcompls⟩ := moved
    apply taskMove_of_completes kind hcompls
    intro running
    simp [running] at hterm
  | completePlayback =>
    obtain ⟨state, hready, hcompls⟩ := moved
    apply taskMove_of_completes kind hcompls
    intro running
    simp [running] at hready
  | completePlaybackHlsSessionCached => exact taskMove_of_caches kind moved
  | cancelTask target =>
    exact taskMove_of_cancelling consistent synced fits recovered hmid kind moved
  | failPlaybackTaskAfterCacheRestore target =>
    obtain ⟨hid, hact, hfailed⟩ := moved
    rw [hid] at hl
    apply taskMove_of_failed kind hfailed _ rfl
    rw [hs]
    exact fits task hl
  | failCompletedPlaybackTaskAfterCacheRestore =>
    have hcompl : first.2 = .completed := moved.1
    apply taskMove_of_failed kind moved.2 _ rfl
    rw [hcompl]
    exact nofun
  | failUnrestorablePlaybackSessionAfterCacheRestore | failUnrestorablePlaybackTasks =>
    apply taskMove_of_failed kind moved.2 _ rfl
    exact ne_cancelRequested_of_served moved.1
  | tombstoneLibraryItemBeforeDelete libraryItemId now =>
    obtain ⟨hfailed, hdeletion⟩ := moved
    obtain ⟨record, updated, hrec, hupd, hended⟩ := hdeletion task hl
    apply taskMove_of_failed kind hfailed _ rfl
    rw [hs]
    exact not_cancelRequested_of_deletion fits hl hrec hupd hended
  | commitStagedDownloadTerminal =>
    obtain ⟨state, hact, -, hterm, hn⟩ := moved
    apply taskMove_of_completes kind ⟨hact, hn⟩
    intro running
    simp [running] at hterm
  | createTask | updateProgress | updatePlaybackResults | updateOutput
  | removeCompletedPlaybackTask | persistCurrentState | subscribe | receive => exact moved.elim
  | drop index => exact moved.elim

theorem step_moves (step : Step config before operation after)
    (consistent : before.Consistent config.outputs) (synced : before.Synced config)
    (fits : Fits config before operation) (hfst : before.status id = some first)
    (hsnd : after.status id = some second) : TaskMove operation first second := by
  rcases step_effect consistent step with hcreate | hoper | hwats
  · obtain ⟨-, created, hfr, heffect⟩ := hcreate
    have hperm := heffect.permitted id
    rw [hfst, hsnd] at hperm
    cases hperm with
    | inl same => rw [same]; exact TaskMove.refl operation first
    | inr moved => exact moved.2.elim
  · have hcreates := fun middle id => operationMoves_creates config before middle operation id
    cases hoper.moves hcreates hfst hsnd with
    | inl same => rw [same]; exact TaskMove.refl operation first
    | inr moved =>
      obtain ⟨kind, middle, recovered, hmid, allowed⟩ := moved
      exact operation_moves consistent synced fits hfst recovered hmid kind allowed
  · obtain ⟨watchers, -, rfl⟩ := hwats
    have hs : before.status id = some second := hsnd
    rw [hfst] at hs
    cases hs
    exact TaskMove.refl operation first

variable {operations : List Operation}

theorem run_consistent {start reached : Registry Output} (started : start.Started config)
    (run : Run (Step config) start operations reached) :
    reached.Consistent config.outputs ∧ reached.Synced config := by
  apply run.invariant (fun registry : Registry Output =>
    registry.Consistent config.outputs ∧ registry.Synced config)
  · intro before after operation step h
    exact ⟨step_consistent step h.1, step_synced step h.1 h.2⟩
  · exact ⟨started.consistent, started_synced started⟩

/-- The steps of a run in which the task `id` stays in the registry. -/
def FitsWith (config : Config Output) (id : String) (registry : Registry Output)
    (operation : Operation) : Prop :=
  Fits config registry operation ∧ registry.status id ≠ none

theorem run_keeps_terminal {reached last : Registry Output}
    (consistent : reached.Consistent config.outputs) (synced : reached.Synced config)
    (run : Run (Guarded (Step config) (FitsWith config id)) reached operations last)
    (hfst : reached.status id = some first) (hsnd : last.status id = some second) :
    (first.2.isTerminal = true → second.2.isTerminal = true) ∧
      (first.2 = .failed ∨ first.2 = .cancelled → second.2 = .failed ∨ second.2 = .cancelled) := by
  induction run generalizing second with
  | nil =>
    rw [hfst] at hsnd
    cases hsnd
    exact ⟨fun h => h, fun h => h⟩
  | @snoc middle last operations operation front step ih =>
    cases hmid : middle.status id with
    | none => exact (step.2.2 hmid).elim
    | some status =>
      have hinv : middle.Consistent config.outputs ∧ middle.Synced config := by
        apply front.of_guarded.invariant (fun registry : Registry Output =>
          registry.Consistent config.outputs ∧ registry.Synced config)
        · intro before after operation step h
          exact ⟨step_consistent step h.1, step_synced step h.1 h.2⟩
        · exact ⟨consistent, synced⟩
      obtain ⟨hterm, hunsuccessful⟩ := ih hmid
      have move := step_moves step.1 hinv.1 hinv.2 step.2.1 hmid hsnd
      refine ⟨fun h => move.terminal (hterm h), ?_⟩
      intro h
      have hst := hunsuccessful h
      have hended : status.2.isTerminal = true := by
        cases hst with
        | inl failed | inr failed => rw [failed]; rfl
      have hn := move.terminal hended
      obtain ⟨hsucceeded, hcompl⟩ := move.unsuccessful hst
      generalize second.2 = state at *
      cases state with
      | failed => exact .inl rfl
      | cancelled => exact .inr rfl
      | succeeded => exact (hsucceeded rfl).elim
      | completed => exact (hcompl rfl).elim
      | unspecified | queued | running | cancelRequested | planned | preparing => cases hn
      | playable => cases hn

/-- In every run whose steps overlook no requested cancellation and no finished task,
each step follows the state machine, and so does the rest of the run. -/
theorem task_state_machine {start reached : Registry Output} {operations : List Operation}
    (started : start.Started config)
    (run : Run (Guarded (Step config) (Fits config)) start operations reached) :
    (∀ operation next, Step config reached operation next → Fits config reached operation →
      ∀ id first second, reached.status id = some first → next.status id = some second →
        TaskMove operation first second) ∧
      ∀ id more last first second,
        Run (Guarded (Step config) (FitsWith config id)) reached more last →
        reached.status id = some first → last.status id = some second →
          (first.2.isTerminal = true → second.2.isTerminal = true) ∧
            (first.2 = .failed ∨ first.2 = .cancelled →
              second.2 = .failed ∨ second.2 = .cancelled) := by
  obtain ⟨consistent, synced⟩ := run_consistent started run.of_guarded
  constructor
  · intro operation next step fits id first second hfirst hsecond
    exact step_moves step consistent synced fits hfirst hsecond
  · intro id more last first second rest hfirst hsecond
    exact run_keeps_terminal consistent synced rest hfirst hsecond

end

structure SingleResult where
  revision : Nat
  result : Task

def Task.asResult (task : Task) : Task :=
  { task with source := "", message := "", finishedAt := none, outputSummary := none }

def SingleResult.summary (output : SingleResult) : TaskOutputSummary :=
  let state := output.result.state
  let count := fun h : Bool => if h then 1 else 0
  { revision := output.revision
    resultCount := 1
    terminalResultCount := count state.isTerminal
    successfulResultCount := count (state == .succeeded || state == .completed)
    failedResultCount := count (state == .failed)
    cancelledResultCount := count (state == .cancelled)
    availableArtifactCount := 0
    primaryResultId := output.result.id }

def singleResultOutputs : TaskOutputs SingleResult where
  fromLegacyTask task := ⟨1, task.asResult⟩
  removedTaskTombstone task previous :=
    ⟨previous.elim 1 fun output => output.revision + 1, task.asResult⟩
  legacyManaged _ := true
  reconcileLegacyTask output task :=
    .ok (if output.result = task.asResult then none
      else some ⟨output.revision + 1, task.asResult⟩)
  summary := SingleResult.summary
  updateBilibiliCacheFillStatus _ _ _ := none
  retireExpiredResourcesExcept _ _ _ := none
  markPlaybackCacheDeleted output _ _ _ := .ok output
  markLibraryItemDeleted _ _ _ := .ok none

/-- A registry with a store that keeps every terminal task. -/
def singleResultConfig : Config SingleResult where
  outputs := singleResultOutputs
  persistence := true
  retentionPolicy := ⟨none, none⟩

def emptyRegistry : Registry SingleResult where
  available := true
  tasksById _ := none
  outputsByTaskId _ := none
  visibleTasksById _ := none
  pendingPublicationsById := []
  queuedTaskIds := []
  hasCandidates _ := false
  watchers := []
  installed := []

theorem emptyRegistry_started (config : Config SingleResult) : emptyRegistry.Started config where
  consistent :=
    { live := by
        intro id task h
        cases h
      visible := by
        intro id task h
        cases h
      pending := by
        intro entry h
        cases h
      summarized := by
        intro id task output h
        cases h }
  visible := rfl
  pending := rfl
  watchers := rfl
  installed := rfl

def durableSave (id : String) : SaveInput where
  taskIds := [id]
  publicationIds := [id]
  now := ⟨1000, 0⟩
  recordsRefused := false
  save := .durable

def cancelledPlaybackId : String := "bilibili-playback-a"

def playbackCreated : Registry SingleResult :=
  (emptyRegistry.createBilibiliPlaybackTaskRecord singleResultConfig
    (durableSave cancelledPlaybackId) none "a" "BV1" "A video" []).1

def playbackCancelRequested : Registry SingleResult :=
  (playbackCreated.cancelTask singleResultConfig (durableSave cancelledPlaybackId)
    (durableSave cancelledPlaybackId) cancelledPlaybackId ⟨1001, 0⟩).1

def playbackCancelled : Registry SingleResult :=
  (playbackCancelRequested.completePlaybackPlanned singleResultConfig
    (durableSave cancelledPlaybackId) cancelledPlaybackId "A video" ⟨"s", "v"⟩ ⟨1002, 0⟩).1

def playbackStillCancelled : Registry SingleResult :=
  (playbackCancelled.completeTask singleResultConfig (durableSave cancelledPlaybackId)
    (durableSave cancelledPlaybackId) cancelledPlaybackId .succeeded "Done." none none
    ⟨1003, 0⟩).1

def playbackFailed : Registry SingleResult :=
  (playbackCancelRequested.failPlaybackTaskAfterCacheRestore singleResultConfig
    (durableSave cancelledPlaybackId) cancelledPlaybackId "The cache is gone." ⟨1002, 0⟩).1

theorem durableSave_enumerates {registry : Registry SingleResult} {id : String}
    (only : registry.Only id) : (durableSave id).Enumerates registry := by
  intro other h
  rw [only other h]
  exact mem_singleton_self id

theorem playbackCreated_step : Step singleResultConfig emptyRegistry .createTask playbackCreated :=
  Step.createBilibiliPlaybackTaskRecord _ _ _ _ _ _ _ rfl fun _ h => (h rfl).elim

theorem playbackCreated_only :
    playbackCreated.Consistent singleResultOutputs ∧ playbackCreated.Only cancelledPlaybackId := by
  have hs := (emptyRegistry_started singleResultConfig).consistent
  have hl : (playbackCreated.tasksById cancelledPlaybackId).isSome = true := by
    decide +kernel
  refine ⟨step_consistent playbackCreated_step hs, ?_⟩
  apply only_created hs (fun _ => rfl) playbackCreated_step
  exact Option.isSome_iff_ne_none.mp hl

theorem playbackCancelRequested_step :
    Step singleResultConfig playbackCreated (.cancelTask cancelledPlaybackId)
      playbackCancelRequested :=
  Step.cancelTask _ _ _ _ _ (durableSave_enumerates playbackCreated_only.2)

theorem playbackCancelRequested_only :
    playbackCancelRequested.Consistent singleResultOutputs ∧
      playbackCancelRequested.Only cancelledPlaybackId :=
  ⟨step_consistent playbackCancelRequested_step playbackCreated_only.1,
    playbackCreated_only.2.step playbackCreated_only.1 playbackCancelRequested_step nofun⟩

theorem playbackCancelled_step :
    Step singleResultConfig playbackCancelRequested .completePlayback playbackCancelled :=
  Step.completePlaybackPlanned _ _ _ _ _ _ (durableSave_enumerates playbackCancelRequested_only.2)

theorem playbackCancelRequested_run :
    Run (Guarded (Step singleResultConfig) (Fits singleResultConfig)) emptyRegistry
      [.createTask, .cancelTask cancelledPlaybackId] playbackCancelRequested := by
  have hcreated : Run (Guarded (Step singleResultConfig) (Fits singleResultConfig)) emptyRegistry
      [.createTask] playbackCreated :=
    Run.single ⟨playbackCreated_step, trivial⟩
  exact Run.snoc hcreated ⟨playbackCancelRequested_step, .inl rfl⟩

theorem playbackCancelRequested_status :
    playbackCancelRequested.status cancelledPlaybackId =
      some (.bilibiliProgressivePlayback, .cancelRequested) := by
  decide +kernel

/-- A playback that is planned after its cancellation was requested is cancelled, and a
late download result does not change that. -/
theorem task_state_machine_playback :
    TaskMove .completePlayback (.bilibiliProgressivePlayback, .cancelRequested)
        (.bilibiliProgressivePlayback, .cancelled) ∧
      ∃ last, playbackStillCancelled.status cancelledPlaybackId = some last ∧
        (last.2 = .failed ∨ last.2 = .cancelled) := by
  have honly := playbackCancelRequested_only.2.step playbackCancelRequested_only.1
    playbackCancelled_step nofun
  have hended : playbackCancelled.status cancelledPlaybackId =
      some (.bilibiliProgressivePlayback, .cancelled) := by decide +kernel
  have hlate : playbackStillCancelled.status cancelledPlaybackId =
      some (.bilibiliProgressivePlayback, .cancelled) := by decide +kernel
  have hrun := Run.snoc playbackCancelRequested_run ⟨playbackCancelled_step, trivial⟩
  have hrest : Run (Guarded (Step singleResultConfig) (FitsWith singleResultConfig
      cancelledPlaybackId)) playbackCancelled [.completeTask] playbackStillCancelled :=
    Run.single ⟨Step.completeTask _ _ _ _ _ _ _ _ _ (.inl rfl)
      (durableSave_enumerates honly), trivial,
      by rw [hended]; exact nofun⟩
  constructor
  · exact (task_state_machine (emptyRegistry_started _) playbackCancelRequested_run).1 _ _
      playbackCancelled_step trivial _ _ _ playbackCancelRequested_status hended
  · have hkept := (task_state_machine (emptyRegistry_started _) hrun).2 _ _ _ _ _ hrest hended hlate
    exact ⟨_, hlate, hkept.2 (.inr rfl)⟩

/-- A playback whose cancellation was requested fails when its cache cannot be
restored, instead of being cancelled. -/
theorem cancelRequested_playback_fails :
    ¬ ∀ (operations : List Operation) (reached next : Registry SingleResult)
        (operation : Operation) (id : String) (first second : TaskStatus),
      Run (Step singleResultConfig) emptyRegistry operations reached →
      Step singleResultConfig reached operation next →
      reached.status id = some first → next.status id = some second →
      first.2 = .cancelRequested → second.2 = .cancelRequested ∨ second.2 = .cancelled := by
  intro h
  have hfailed : playbackFailed.status cancelledPlaybackId =
      some (.bilibiliProgressivePlayback, .failed) := by decide +kernel
  have hmoved := h _ _ _ _ _ _ _ playbackCancelRequested_run.of_guarded
    (Step.failPlaybackTaskAfterCacheRestore _ (durableSave cancelledPlaybackId)
      cancelledPlaybackId "The cache is gone." ⟨1002, 0⟩
      (durableSave_enumerates playbackCancelRequested_only.2)) playbackCancelRequested_status
    hfailed rfl
  cases hmoved with
  | inl requested | inr requested => cases requested

/-- In every run a live task carries the summary of its output record, whatever its saves come to. -/
theorem live_tasks_carry_their_summary {Output : Type} {config : Config Output}
    {start reached : Registry Output} {operations : List Operation} (started : start.Started config)
    (run : Run (Step config) start operations reached) {id : String} {task : Task} :
    (reached.tasksById id = some task → task.id = id ∧ ∀ output,
      reached.outputsByTaskId id = some output →
        task.outputSummary = some (config.outputs.summary output)) ∧
    (reached.visibleTasksById id = some task → task.id = id) := by
  have consistent := (run_consistent started run).1
  exact ⟨fun h => ⟨consistent.live h, fun _ houtput => consistent.summarized h houtput⟩,
    fun h => consistent.visible h⟩

theorem live_tasks_carry_their_summary_playback : ∃ task,
    playbackCancelRequested.tasksById cancelledPlaybackId = some task ∧
      task.id = cancelledPlaybackId :=
  ⟨_, rfl, ((live_tasks_carry_their_summary (emptyRegistry_started _)
    playbackCancelRequested_run.of_guarded).1 rfl).1⟩

end NetPlayer.Tasks
