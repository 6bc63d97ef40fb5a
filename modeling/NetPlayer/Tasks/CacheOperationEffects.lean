import NetPlayer.Tasks.OperationEffects

/-!
# The effects of cancellation, deletion and output commits

The remaining operations of the registry. The ones that loop over the live tasks
have the effect of their single changes together.
-/

namespace NetPlayer.Tasks

open List Option Registry

open Function (update update_apply)

section

variable {Output : Type} {outputs : TaskOutputs Output} {config : Config Output}
  {moves : MoveSet} {inputs : SaveInput → Prop}

def MoveSet.cancelling (config : Config Output) (id : String) (registry : Registry Output) :
    MoveSet where
  allowed other _ _ after := other = id ∧
    (config.persistence = true → registry.available = true) ∧
    ∃ visible, registry.visibleTasksById id = some visible ∧
      visible.state.isTerminal = false ∧ visible.state ≠ .cancelRequested ∧
      after = if visible.state = .running ∨ visible.state = .preparing then .cancelRequested
        else .cancelled
  creates _ := False

theorem cancelledNow_fields (task : Task) (now : Timestamp) :
    (task.cancelledNow now).id = task.id ∧ (task.cancelledNow now).kind = task.kind ∧
      (task.cancelledNow now).state = .cancelled ∧
      (task.cancelledNow now).outputSummary = task.outputSummary := by
  simp only [Task.cancelledNow]
  split <;> exact ⟨rfl, rfl, rfl, rfl⟩

variable {registry : Registry Output} {id : String} {task : Task} {now : Timestamp}

/-- A cancellation that its output refuses leaves the other tasks alone. -/
theorem others_of_refused {id other : String} {error : String}
    (failed : (if task.kind = .bilibiliProgressivePlayback then
      (registry.outputsByTaskId id).elim (.ok none) fun output =>
        cancelledOutput outputs output task (task.cancelledNow now)
      else .ok none : Except String (Option Output)) = .error error)
    (h : ¬ (registry.setTask id (task.cancelledNow now)).Stuck outputs other) :
    (registry.setTask id (task.cancelledNow now)).tasksById other = registry.tasksById other ∧
      ¬ registry.Stuck outputs other := by
  by_cases heq : other = id
  · exfalso
    apply h
    rw [heq]
    split at failed
    · cases houtput : registry.outputsByTaskId id with
      | none =>
        rw [houtput] at failed
        cases failed
      | some output =>
        rw [houtput] at failed
        have hrefu : cancelledOutput outputs output task (task.cancelledNow now) =
          .error error := failed
        refine ⟨task.cancelledNow now, error, by simp [setTask], ?_⟩
        show outputs.reconcileLegacyTask ((registry.outputsByTaskId id).getD _) _ = .error error
        rw [houtput]
        unfold cancelledOutput at hrefu
        split at hrefu
        · split at hrefu
          · unfold TaskOutputs.updateBilibiliCacheFillStatusForTask at hrefu
            split at hrefu
            · exact hrefu
            · cases hrefu
          · cases hrefu
        · cases hrefu
    · cases failed
  · have hsame : (registry.setTask id (task.cancelledNow now)).tasksById other =
        registry.tasksById other := by simp [setTask, heq]
    refine ⟨hsame, ?_⟩
    intro hstuck
    exact h (stuck_of_same hsame rfl hstuck)

variable {input : SaveInput} (admitted : config.persistence = false → inputs input)
  (consistent : registry.Consistent config.outputs)

include admitted consistent in
theorem cancelTask_effects {recovery : SaveInput} :
    Effects config inputs (MoveSet.cancelling config id) registry
      (registry.cancelTask config recovery input id now).1 := by
  apply effects_afterRecovery consistent
  intro middle hmid hready
  have hstore : config.persistence = true → middle.available = true :=
    hready fun outcome h => by simpa [PersistenceCommitOutcome.isDurable] using h
  cases hvis : middle.visibleTasksById id with
  | none => exact effect_refl middle
  | some visible =>
    simp only
    split
    · exact effect_refl middle
    next hactive =>
      simp only [Bool.or_eq_true, decide_eq_true_eq, not_or, Bool.not_eq_true] at hactive
      cases hlive : middle.tasksById id with
      | none => exact effect_refl middle
      | some task =>
        simp only
        split
        · next hrunning =>
            have hrun : visible.state = .running ∨ visible.state = .preparing := by
              simpa using hrunning
            have hmove : (MoveSet.cancelling config id middle).allowed id task.kind task.state
                .cancelRequested :=
              ⟨rfl, hstore, visible, hvis, hactive.1, hactive.2, (if_pos hrun).symm⟩
            exact effect_updated admitted hmid
              (updatedTask_setTask hlive rfl rfl (.inr hmove) rfl) (.inl rfl)
        · next hidle =>
            have hstop : ¬ (visible.state = .running ∨ visible.state = .preparing) := by
              simpa using hidle
            obtain ⟨hid, hkind, hstate, hsum⟩ := cancelledNow_fields task now
            have hmove : (MoveSet.cancelling config id middle).allowed id task.kind task.state
                (task.cancelledNow now).state := by
              refine ⟨rfl, hstore, visible, hvis, hactive.1, hactive.2, ?_⟩
              rw [hstate, if_neg hstop]
            have updated : UpdatedTask config.outputs (MoveSet.cancelling config id middle) middle
                (middle.setTask id (task.cancelledNow now)) id task (task.cancelledNow now) :=
              updatedTask_setTask hlive hid hkind (.inr hmove) hsum
            split
            · next error hfailed =>
                cases hkept : config.persistence with
                | true => exact effect_refl middle
                | false =>
                  have touched := (updated.touchedOne hmid).touched
                  refine Effect.unstaged hkept touched.permitted rfl (fun _ =>
                    unstaged_consistent hmid updated) rfl rfl rfl rfl ?_ ?_
                  · intro other hnone
                    have hlook : update middle.tasksById id
                      (some (task.cancelledNow now)) other = none := hnone
                    rw [update_apply] at hlook
                    split at hlook
                    · cases hlook
                    · exact hlook
                  · intro other hother
                    exact others_of_refused hfailed hother
            · next updatedOutput _ =>
                cases updatedOutput with
                | none =>
                  have repeated : UpdatedTask config.outputs (MoveSet.cancelling config id middle)
                      middle ((middle.setTask id (task.cancelledNow now)).setTask id
                        (task.cancelledNow now)) id task (task.cancelledNow now) :=
                    { updated with
                      step :=
                        { tasks := by simp [setTask]
                          visible := rfl, watchers := rfl, installed := rfl
                          pending := rfl } }
                  exact effect_updated admitted hmid repeated.dequeue
                    (checkpointIfDurable_cases middle)
                | some output =>
                  have replaced : UpdatedTask config.outputs (MoveSet.cancelling config id middle)
                      middle (((middle.setTask id (task.cancelledNow now)).setOutput id
                        output).setTask id { task.cancelledNow now with
                          outputSummary := some (config.outputs.summary output) }) id task
                      { task.cancelledNow now with
                        outputSummary := some (config.outputs.summary output) } :=
                    { step :=
                        { tasks := by simp [setTask, setOutput]
                          visible := rfl, watchers := rfl, installed := rfl
                          pending := rfl }
                      live := hlive, named := hid, kind := hkind
                      moved := .inr hmove
                      output := .inr ⟨output, rfl, rfl⟩ }
                  exact effect_updated admitted hmid replaced.dequeue
                    (checkpointIfDurable_cases middle)

/-- The end of a playback task whose cache cannot be restored, from a state that `from_`
describes. -/
def failsFrom (source : TaskState → Prop) (_ : TaskKind) (before after : TaskState) : Prop :=
  source before ∧ after = .failed

variable {message : String}

include admitted consistent in
theorem failPlaybackTaskAfterCacheRestore_effects :
    Effects config inputs (fun _ => MoveSet.ofTask id (failsFrom fun before =>
        before.isTerminal = false)) registry
      (registry.failPlaybackTaskAfterCacheRestore config input id message now).1 := by
  unfold failPlaybackTaskAfterCacheRestore
  cases hlive : registry.tasksById id with
  | none => exact effects_direct (effect_refl registry)
  | some task =>
    simp only
    split
    · exact effects_direct (effect_refl registry)
    split
    · exact effects_direct (effect_refl registry)
    next hterm =>
      have updated : UpdatedTask config.outputs (MoveSet.ofTask id (failsFrom fun before =>
          before.isTerminal = false)) registry
          (registry.setTask id (task.failedAfterCacheRestore message now)) id task
          (task.failedAfterCacheRestore message now) :=
        updatedTask_setTask hlive rfl rfl
          (.inr ⟨rfl, by simpa using hterm, rfl⟩) rfl
      exact effects_direct (effect_updated admitted consistent updated.dequeue (.inl rfl))

variable {taskIds : List String}

theorem findTask_some {selected : Task → Bool}
    (h : registry.findTask taskIds selected = some (id, task)) :
    registry.tasksById id = some task ∧ selected task = true := by
  obtain ⟨front, taskId, back, -, hmap, -⟩ := List.findSome?_eq_some_iff.mp h
  obtain ⟨found, hfound, heq⟩ := map_eq_some_iff.mp hmap
  cases heq
  exact filter_eq_some_iff.mp hfound

variable {sessionId : String}

include admitted consistent in
theorem failCompletedPlaybackTaskAfterCacheRestore_effects :
    Effects config inputs
      (fun _ => MoveSet.ofAny (failsFrom fun before => before = .completed)) registry
      (registry.failCompletedPlaybackTaskAfterCacheRestore config input taskIds sessionId message
        now).1 := by
  unfold failCompletedPlaybackTaskAfterCacheRestore
  split
  · exact effects_direct (effect_refl registry)
  next id task hfound =>
    obtain ⟨hlive, hsel⟩ := findTask_some hfound
    have hcompl : task.state = .completed := by
      simp only [Task.isCompletedForAnyHlsSession, Bool.and_eq_true, beq_iff_eq] at hsel
      exact hsel.1.2
    have updated : UpdatedTask config.outputs (MoveSet.ofAny (failsFrom fun before =>
        before = .completed)) registry
        (registry.setTask id (task.failedAfterCacheRestore message now)) id task
        (task.failedAfterCacheRestore message now) :=
      updatedTask_setTask hlive rfl rfl (.inr ⟨hcompl, rfl⟩) rfl
    exact effects_direct (effect_updated admitted consistent updated.dequeue (.inl rfl))

def Served (state : TaskState) : Prop := state = .playable ∨ state = .completed

include admitted consistent in
theorem failUnrestorablePlaybackSessionAfterCacheRestore_effects {recovery : SaveInput} :
    Effects config inputs (fun _ => MoveSet.ofAny (failsFrom Served)) registry
      (registry.failUnrestorablePlaybackSessionAfterCacheRestore config recovery input taskIds
        sessionId message now).1 := by
  apply effects_afterRecovery consistent
  intro middle hmid _
  split
  · exact effect_refl middle
  next id task hfound =>
    obtain ⟨hlive, hsel⟩ := findTask_some hfound
    have hserved : Served task.state := by
      simp only [Task.isServedBySession, Bool.and_eq_true, Bool.or_eq_true, beq_iff_eq]
        at hsel
      exact hsel.1.2
    simp only
    split
    · exact effect_refl middle
    generalize hupdate : (if task.usesHlsSessionAsPrimary sessionId = true then
        task.failedAfterCacheRestore message now else _) = updated
    have hfields : updated.id = task.id ∧ updated.kind = task.kind ∧
        (updated.state = task.state ∨ updated.state = .failed) ∧
        updated.outputSummary = task.outputSummary := by
      rw [← hupdate]
      split
      · exact ⟨rfl, rfl, .inr rfl, rfl⟩
      · exact ⟨rfl, rfl, .inl rfl, rfl⟩
    obtain ⟨hid, hkind, hstate, hsum⟩ := hfields
    have hmove : updated.state = task.state ∨ (MoveSet.ofAny (failsFrom Served)).allowed id
        task.kind task.state updated.state := by
      cases hstate with
      | inl same => exact .inl same
      | inr failed => exact .inr ⟨hserved, failed⟩
    have change : UpdatedTask config.outputs (MoveSet.ofAny (failsFrom Served)) middle
        (middle.setTask id updated) id task updated :=
      updatedTask_setTask hlive hid hkind hmove hsum
    split
    · exact effect_updated admitted hmid change.dequeue (checkpointIfDurable_cases middle)
    · exact effect_updated admitted hmid change (checkpointIfDurable_cases middle)

/-- Several live tasks have changed, all of them in `tasks`; nothing is staged yet. -/
structure Spread (outputs : TaskOutputs Output) (moves : MoveSet)
    (before changed : Registry Output) (tasks : List Task) : Prop where
  visible : changed.visibleTasksById = before.visibleTasksById
  watchers : changed.watchers = before.watchers
  installed : changed.installed = before.installed
  pending : changed.pendingPublicationsById = before.pendingPublicationsById
  available : changed.available = before.available
  live : ∀ id, changed.tasksById id = before.tasksById id ∨ ∃ task ∈ tasks, task.id = id
  kept : ∀ id, changed.tasksById id = none → before.tasksById id = none
  listed : ∀ task ∈ tasks, changed.tasksById task.id ≠ none
  records : ∀ id, changed.tasksById id ≠ none →
    changed.outputsByTaskId id = before.outputsByTaskId id ∨ ∃ task ∈ tasks, task.id = id
  permitted : ∀ id, moves.Permits id (before.status id) (changed.status id)
  consistent : before.Consistent outputs → changed.Consistent outputs

theorem Spread.refl (registry : Registry Output) : Spread outputs moves registry registry [] where
  visible := rfl
  watchers := rfl
  installed := rfl
  pending := rfl
  available := rfl
  live _ := .inl rfl
  kept _ h := h
  listed _ h := by cases h
  records _ _ := .inl rfl
  permitted id := MoveSet.Permits.refl moves id _
  consistent h := h

def MoveSet.Chained (moves : MoveSet) : Prop :=
  (∀ id kind first second third, moves.allowed id kind first second →
    moves.allowed id kind second third → moves.allowed id kind first third) ∧
  ∀ id, ¬ moves.creates id

theorem MoveSet.Permits.trans {before middle after : Option TaskStatus} (chained : moves.Chained)
    (first : moves.Permits id before middle) (second : moves.Permits id middle after) :
    moves.Permits id before after := by
  cases after with
  | none => cases before <;> trivial
  | some after =>
    cases middle with
    | none => exact (chained.2 id second).elim
    | some middle =>
      cases before with
      | none => exact (chained.2 id first).elim
      | some before =>
        cases first with
        | inl same => rw [← same]; exact second
        | inr moved =>
          cases second with
          | inl same => rw [same]; exact .inr moved
          | inr moved' =>
            apply Or.inr
            refine ⟨moved'.1.trans moved.1, ?_⟩
            have hsecond := moved'.2
            rw [moved.1] at hsecond
            exact chained.1 _ _ _ _ _ moved.2 hsecond

variable {before : Registry Output}

variable {front back tasks : List Task}

theorem Spread.trans {middle after : Registry Output}
    (chained : moves.Chained) (first : Spread outputs moves before middle front)
    (second : Spread outputs moves middle after back) :
    Spread outputs moves before after (front ++ back) where
  visible := second.visible.trans first.visible
  watchers := second.watchers.trans first.watchers
  installed := second.installed.trans first.installed
  pending := second.pending.trans first.pending
  available := second.available.trans first.available
  live id := by
    cases second.live id with
    | inl same =>
      cases first.live id with
      | inl same' => exact .inl (same.trans same')
      | inr found =>
        obtain ⟨task, hm, hid⟩ := found
        exact .inr ⟨task, mem_append_left back hm, hid⟩
    | inr found =>
      obtain ⟨task, hm, hid⟩ := found
      exact .inr ⟨task, mem_append_right front hm, hid⟩
  kept id h := first.kept id (second.kept id h)
  listed task h := by
    cases mem_append.mp h with
    | inl early => exact fun hnone => first.listed task early (second.kept task.id hnone)
    | inr late => exact second.listed task late
  records id h := by
    cases second.live id with
    | inl live =>
      have hmid : middle.tasksById id ≠ none := live ▸ h
      cases second.records id h with
      | inl same =>
        cases first.records id hmid with
        | inl same' => exact .inl (same.trans same')
        | inr found =>
          obtain ⟨task, hm, hid⟩ := found
          exact .inr ⟨task, mem_append_left back hm, hid⟩
      | inr found =>
        obtain ⟨task, hm, hid⟩ := found
        exact .inr ⟨task, mem_append_right front hm, hid⟩
    | inr found =>
      obtain ⟨task, hm, hid⟩ := found
      exact .inr ⟨task, mem_append_right front hm, hid⟩
  permitted id := (first.permitted id).trans chained (second.permitted id)
  consistent h := second.consistent (first.consistent h)

variable {changed : Registry Output} {updated : Task}

theorem UpdatedTask.spread (consistent : before.Consistent outputs)
    (available : changed.available = before.available)
    (h : UpdatedTask outputs moves before changed id task updated) :
    Spread outputs moves before changed [updated] where
  visible := h.step.visible
  watchers := h.step.watchers
  installed := h.step.installed
  pending := h.step.pending
  available := available
  live other := by
    by_cases heq : other = id
    · exact .inr ⟨updated, mem_singleton.mpr rfl,
        (h.named.trans (consistent.live h.live)).trans heq.symm⟩
    · apply Or.inl
      rw [h.step.tasks, update_apply, if_neg heq]
  kept other hnone := by
    rw [h.step.tasks, update_apply] at hnone
    split at hnone
    · cases hnone
    · exact hnone
  listed changedTask hm := by
    rw [mem_singleton.mp hm, h.step.tasks, h.named.trans (consistent.live h.live),
      Function.update_self]
    exact nofun
  records other _ := by
    by_cases heq : other = id
    · exact .inr ⟨updated, mem_singleton.mpr rfl,
        (h.named.trans (consistent.live h.live)).trans heq.symm⟩
    · exact .inl ((h.touchedOne consistent).others other heq)
  permitted := (h.touchedOne consistent).touched.permitted
  consistent _ := unstaged_consistent consistent h

theorem foldl_stage_spec (tasks : List Task) (registry : Registry Output) :
    let staged := tasks.foldl stagePublicationLocked registry
    staged.tasksById = registry.tasksById ∧ staged.outputsByTaskId = registry.outputsByTaskId ∧
      staged.visibleTasksById = registry.visibleTasksById ∧
      staged.watchers = registry.watchers ∧ staged.installed = registry.installed ∧
      (∀ id, staged.hasPendingPublication id =
        (tasks.any (fun task => task.id == id) || registry.hasPendingPublication id)) ∧
      ∀ entry ∈ staged.pendingPublicationsById,
        (entry.2 ∈ tasks ∧ entry.2.id = entry.1) ∨ entry ∈ registry.pendingPublicationsById := by
  induction tasks generalizing registry with
  | nil => exact ⟨rfl, rfl, rfl, rfl, rfl, fun _ => rfl, fun _ h => .inr h⟩
  | cons task rest ih =>
    obtain ⟨htasks, houtputs, hvis, hwats, hinst, hp, hes⟩ :=
      ih (registry.stagePublicationLocked task)
    refine ⟨htasks, houtputs, hvis, hwats, hinst, ?_, ?_⟩
    · intro id
      rw [foldl_cons, hp]
      simp only [hasPendingPublication, stagePublicationLocked,
        any_upsertTask, any_cons]
      cases task.id == id <;> cases rest.any (fun task => task.id == id) <;> rfl
    · intro entry he
      cases hes entry he with
      | inl named => exact .inl ⟨mem_cons_of_mem task named.1, named.2⟩
      | inr old =>
        cases mem_upsertTask old with
        | inl same => rw [same]; exact .inl ⟨mem_cons_self, rfl⟩
        | inr older => exact .inr older

/-- Staging the tasks of a spread touches no other task. -/
theorem Spread.touched (spread : Spread outputs moves before changed tasks) :
    Touched outputs moves before (tasks.foldl stagePublicationLocked changed) := by
  obtain ⟨htasks, houtputs, hvis, hwats, hinst, hp, hes⟩ :=
    foldl_stage_spec tasks changed
  exact
    { visible := hvis.trans spread.visible
      watchers := hwats.trans spread.watchers
      installed := hinst.trans spread.installed
      staged := by
        intro id hnone
        rw [hp, Bool.or_eq_false_iff] at hnone
        have hb : before.hasPendingPublication id = false := by
          have hsame := hnone.2
          unfold hasPendingPublication at hsame ⊢
          rwa [spread.pending] at hsame
        refine ⟨hb, ?_⟩
        rw [htasks]
        cases spread.live id with
        | inl same => exact same
        | inr found =>
          obtain ⟨task, hm, hid⟩ := found
          have hany := List.any_eq_false.mp hnone.1 task hm
          simp [hid] at hany
      stuck := by
        intro id hnone hstuck
        rw [hp, Bool.or_eq_false_iff] at hnone
        have hunlisted : ¬ ∃ task ∈ tasks, task.id = id := by
          intro found
          obtain ⟨task, hm, hid⟩ := found
          have hany := List.any_eq_false.mp hnone.1 task hm
          simp [hid] at hany
        have hsame := (spread.live id).resolve_right hunlisted
        obtain ⟨task, error, hlive, hrec⟩ := hstuck
        have hpresent : changed.tasksById id ≠ none := by
          rw [hsame, hlive]
          exact nofun
        have hrecords := (spread.records id hpresent).resolve_right hunlisted
        exact stuck_of_same ((congrFun htasks id).trans hsame)
          ((congrFun houtputs id).trans hrecords) ⟨task, error, hlive, hrec⟩
      tombstones := by
        intro hb entry he hnone
        rw [htasks] at hnone
        cases hes entry he with
        | inl named => exact (spread.listed entry.2 named.1 (named.2 ▸ hnone)).elim
        | inr old =>
          rw [spread.pending] at old
          exact hb entry old (spread.kept entry.1 hnone)
      permitted := by
        intro id
        have hst : (tasks.foldl stagePublicationLocked changed).status id =
            changed.status id := by
          unfold Registry.status
          rw [htasks]
        rw [hst]
        exact spread.permitted id
      consistent := by
        intro consistent
        have hchg := spread.consistent consistent
        exact
          { live := fun h => hchg.live (htasks ▸ h)
            visible := fun h => hchg.visible (hvis ▸ h)
            pending := by
              intro entry he
              cases hes entry he with
              | inl named => exact named.2
              | inr old => exact hchg.pending entry old
            summarized := fun h houtput =>
              hchg.summarized (htasks ▸ h) (houtputs ▸ houtput) } }

variable {durabilityRequired requireDurableCommit : Bool}

theorem effect_spread {rollback : Option (RegistryMutationCheckpoint Output)}
    (admitted : config.persistence = false → inputs input)
    (consistent : before.Consistent config.outputs)
    (spread : Spread config.outputs moves before changed tasks)
    (hrollback : rollback = none ∨ rollback = some (RegistryMutationCheckpoint.capture before)) :
    Effect config inputs moves before (changed.persistTasksAndPublish config input tasks
      durabilityRequired rollback requireDurableCommit).1 :=
  effect_persistAndPublishPending admitted consistent spread.touched hrollback

theorem changeTasks_spread {change : Task → Option Task} (chained : moves.Chained)
    (changes : ∀ id task updated, change task = some updated → updated.id = task.id ∧
      updated.kind = task.kind ∧ updated.outputSummary = task.outputSummary ∧
      (updated.state = task.state ∨ moves.allowed id task.kind task.state updated.state))
    (taskIds : List String) (registry : Registry Output)
    (consistent : registry.Consistent outputs) :
    Spread outputs moves registry (registry.changeTasks change taskIds).1
      (registry.changeTasks change taskIds).2 := by
  induction taskIds generalizing registry with
  | nil => exact Spread.refl registry
  | cons taskId rest ih =>
    unfold changeTasks
    split
    · exact ih registry consistent
    next updated hchange =>
      obtain ⟨task, hlive, hupd⟩ := bind_eq_some_iff.mp hchange
      obtain ⟨hid, hkind, hsum, hmove⟩ := changes taskId task updated hupd
      have step : UpdatedTask outputs moves registry (registry.setTask taskId updated) taskId
          task updated :=
        updatedTask_setTask hlive hid hkind hmove hsum
      have first := step.spread consistent (show (registry.setTask taskId updated).available =
        registry.available from rfl)
      exact first.trans chained (ih _ (first.consistent consistent))

theorem chained_ofAny {may : TaskKind → TaskState → TaskState → Prop}
    (h : ∀ kind first second third, may kind first second → may kind second third →
      may kind first third) : (MoveSet.ofAny may).Chained :=
  ⟨fun _ kind first second third => h kind first second third, fun _ => not_false⟩

theorem chained_none : MoveSet.none.Chained :=
  ⟨fun _ _ _ _ _ h => h.elim, fun _ => not_false⟩

theorem expireUnlessRestorable_fields {restorable changed : Bool}
    {items : List BilibiliTaskResultItem} (served : Served task.state)
    (h : task.expireUnlessRestorable restorable items changed now = some updated) :
    updated.id = task.id ∧ updated.kind = task.kind ∧
      updated.outputSummary = task.outputSummary ∧
      (updated.state = task.state ∨ failsFrom Served task.kind task.state updated.state) := by
  unfold Task.expireUnlessRestorable at h
  split at h
  · cases h
    exact ⟨rfl, rfl, rfl, .inr ⟨served, rfl⟩⟩
  split at h
  · cases h
    exact ⟨rfl, rfl, rfl, .inl rfl⟩
  · cases h

variable {playable completed : List String}

theorem afterRestart_fields (h : task.afterRestart playable completed now = some updated) :
    updated.id = task.id ∧ updated.kind = task.kind ∧
      updated.outputSummary = task.outputSummary ∧
      (updated.state = task.state ∨ failsFrom Served task.kind task.state updated.state) := by
  unfold Task.afterRestart at h
  simp only at h
  split at h
  · next hserved =>
      simp only [Bool.and_eq_true, Bool.or_eq_true, decide_eq_true_eq] at hserved
      exact expireUnlessRestorable_fields hserved.2 h
  · cases h

include admitted consistent in
theorem failUnrestorablePlaybackTasks_effects :
    Effects config inputs (fun _ => MoveSet.ofAny (failsFrom Served)) registry
      (registry.failUnrestorablePlaybackTasks config input taskIds playable completed now).1 := by
  have chained : (MoveSet.ofAny (failsFrom Served)).Chained := by
    apply chained_ofAny
    intro _ first second third hfirst hsecond
    exact ⟨hfirst.1, hsecond.2⟩
  have spread := changeTasks_spread chained
    (fun (_ : String) (task updated : Task)
      (h : task.afterRestart playable completed now = some updated) => afterRestart_fields h)
    taskIds registry consistent
  unfold failUnrestorablePlaybackTasks
  simp only
  split
  · exact effects_direct (effect_refl registry)
  · exact effects_direct (effect_spread admitted consistent spread (.inl rfl))

variable {libraryItemId : String}

include admitted consistent in
theorem deleteCachedResult_effect
    (live : registry.tasksById id = some task)
    (named : updated.id = task.id) (kind : updated.kind = task.kind)
    (state : updated.state = task.state) (summary : updated.outputSummary = task.outputSummary) :
    Effect config inputs moves registry
      (registry.deleteCachedResult config input id sessionId libraryItemId updated).1 := by
  unfold deleteCachedResult
  split
  · exact effect_refl registry
  next changed marked hmarked =>
    have change : UpdatedTask config.outputs moves registry changed id task marked := by
      unfold markOutputPlaybackCacheDeleted at hmarked
      split at hmarked
      · cases hmarked
        exact updatedTask_setTask live named kind (.inl state) summary
      split at hmarked
      · cases hmarked
      · cases hmarked
        exact updatedTask_setOutput live named kind (.inl state) rfl
    exact effect_updated admitted consistent change (checkpointIfDurable_cases registry)

theorem removeTask_touched {tombstone : Task} (named : tombstone.id = id)
    (failed : tombstone.state = .failed) :
    Touched outputs moves registry ((registry.removeTask id).stagePublicationLocked tombstone) where
  visible := rfl
  watchers := rfl
  installed := rfl
  staged other hp := by
    have hnot : (tombstone.id == other || registry.hasPendingPublication other) = false := by
      simpa [hasPendingPublication, stagePublicationLocked,
        removeTask] using hp
    obtain ⟨hother, hb⟩ := Bool.or_eq_false_iff.mp hnot
    have hne : other ≠ id := by
      intro heq
      rw [heq, named] at hother
      simp at hother
    exact ⟨hb, by simp [stagePublicationLocked, removeTask, hne]⟩
  stuck other hp hstuck := by
    have hne : other ≠ id := by
      intro heq
      simp [hasPendingPublication, stagePublicationLocked, named, heq]
        at hp
    refine stuck_of_same ?_ ?_ hstuck
    · simp [stagePublicationLocked, removeTask, hne]
    · simp [stagePublicationLocked, removeTask, hne]
  tombstones hb := by
    intro entry he hnone
    simp only [stagePublicationLocked, upsertTask, mem_cons, mem_filter,
      bne_iff_ne] at he
    cases he with
    | inl same =>
      rw [same]
      exact failed
    | inr old =>
      -- An earlier entry of the removed task has been replaced.
      have hne : entry.1 ≠ id := named ▸ old.2
      apply hb entry old.1
      simpa [stagePublicationLocked, removeTask, hne] using hnone
  permitted other := by
    by_cases heq : other = id
    · have hg : ((registry.removeTask id).stagePublicationLocked tombstone).status other =
          none := by
        simp [Registry.status, removeTask, stagePublicationLocked, heq]
      rw [hg]
      cases registry.status other <;> trivial
    · have hsame : ((registry.removeTask id).stagePublicationLocked tombstone).status other =
          registry.status other := by
        simp [Registry.status, removeTask, stagePublicationLocked, heq]
      rw [hsame]
      exact MoveSet.Permits.refl moves other _
  consistent consistent :=
    { live := by
        intro other task h
        have hlook : update registry.tasksById id none other = some task := h
        rw [update_apply] at hlook
        split at hlook
        · cases hlook
        · exact consistent.live hlook
      visible := consistent.visible
      pending := by
        intro entry he
        cases mem_upsertTask he with
        | inl same => rw [same]
        | inr old => exact consistent.pending entry old
      summarized := by
        intro other task output h houtput
        have hlook : update registry.tasksById id none other = some task := h
        have hout : update registry.outputsByTaskId id none other = some output := houtput
        rw [update_apply] at hlook hout
        split at hlook
        · cases hlook
        · next hne =>
            rw [if_neg hne] at hout
            exact consistent.summarized hlook hout }

include admitted consistent in
theorem removeCompletedPlaybackTask_effects :
    Effects config inputs (fun _ => MoveSet.none) registry
      (registry.removeCompletedPlaybackTask config input taskIds sessionId libraryItemId
        now).1 := by
  apply effects_direct
  unfold removeCompletedPlaybackTask
  split
  · split
    · next id task hfound =>
        simp only
        split
        · exact effect_refl registry
        · exact deleteCachedResult_effect admitted consistent (findTask_some hfound).1 rfl rfl rfl rfl
    · split
      · exact effect_refl registry
      · split <;> exact effect_refl registry
  · next id task hfound =>
      have hlive := (findTask_some hfound).1
      have hid : task.id = id := consistent.live hlive
      simp only
      split
      · exact effect_persistAndPublishPending admitted consistent
          (removeTask_touched (by exact hid) rfl) (checkpointIfDurable_cases registry)
      · split
        · exact deleteCachedResult_effect admitted consistent hlive rfl rfl rfl rfl
        · exact effect_refl registry

def deletes (_ : TaskKind) (_ after : TaskState) : Prop := after = .failed

theorem withLibraryDeletion_fields {deletion : Option (LibraryDeletion × TaskOutputSummary)}
    (h : task.withLibraryDeletion libraryItemId deletion now = some updated) :
    updated.id = task.id ∧ updated.kind = task.kind ∧
      (updated.state = task.state ∨ updated.state = .failed) ∧
      updated.outputSummary = (deletion.map Prod.snd).or task.outputSummary := by
  unfold Task.withLibraryDeletion at h
  simp only at h
  generalize hclr : (if (decide (task.libraryItemId = libraryItemId) ||
    task.playbackSource.any fun source => source.itemId == libraryItemId) = true then
      { task.withoutPlayback with libraryItemId := "" } else task) = cleared at h
  have hfields : cleared.id = task.id ∧ cleared.kind = task.kind ∧ cleared.state = task.state ∧
      cleared.outputSummary = task.outputSummary := by
    rw [← hclr]
    split <;> exact ⟨rfl, rfl, rfl, rfl⟩
  obtain ⟨hid, hkind, hstate, hsum⟩ := hfields
  split at h
  · split at h
    · cases h
      cases deletion with
      | none => exact ⟨hid, hkind, .inr rfl, hsum⟩
      | some entry => exact ⟨hid, hkind, .inr rfl, rfl⟩
    · cases h
      cases deletion with
      | none => exact ⟨hid, hkind, .inl hstate, hsum⟩
      | some entry => exact ⟨hid, hkind, .inl hstate, rfl⟩
  · cases h

theorem withLibraryDeletion_of_record (deletion : LibraryDeletion × TaskOutputSummary) :
    task.withLibraryDeletion libraryItemId (some deletion) now ≠ none := by
  have both : ∀ (choice : Prop) [Decidable choice] (first second : Task),
      (if choice then some first else some second) ≠ none := by
    intro choice _ first second
    split <;> simp
  unfold Task.withLibraryDeletion
  exact both _ _ _

def DeletionMoves (outputs : TaskOutputs Output) (moves : MoveSet) (registry : Registry Output)
    (libraryItemId : String) (now : Timestamp) (taskIds : List String) : Prop :=
  ∀ id ∈ taskIds, ∀ task record updated, registry.tasksById id = some task →
    registry.markLibraryItemDeleted outputs id libraryItemId = .ok record →
    task.withLibraryDeletion libraryItemId (deletionOf outputs record) now = some updated →
    updated.state = task.state ∨ moves.allowed id task.kind task.state updated.state

variable {taskId : String}

variable {rest excluded : List String}

theorem DeletionMoves.tail
    (h : DeletionMoves outputs moves registry libraryItemId now (taskId :: rest))
    (changed : Registry Output) (nodup : (taskId :: rest).Nodup)
    (tasks : ∀ id, id ≠ taskId → changed.tasksById id = registry.tasksById id)
    (records : ∀ id, id ≠ taskId → changed.outputsByTaskId id = registry.outputsByTaskId id) :
    DeletionMoves outputs moves changed libraryItemId now rest := by
  intro id hid task record updated hlive hrec hupd
  have hne : id ≠ taskId := by
    intro heq
    exact (nodup_cons.mp nodup).1 (heq ▸ hid)
  rw [tasks id hne] at hlive
  rw [Registry.markLibraryItemDeleted, records id hne] at hrec
  exact h id (mem_cons_of_mem taskId hid) task record updated hlive hrec hupd

theorem setOutput_spread (output : Output) (gone : registry.tasksById taskId = none) :
    Spread outputs moves registry (registry.setOutput taskId output) [] where
  visible := rfl
  watchers := rfl
  installed := rfl
  pending := rfl
  available := rfl
  live _ := .inl rfl
  kept _ h := h
  listed _ h := by cases h
  records id h := by
    have hne : id ≠ taskId := by
      intro heq
      rw [heq] at h
      exact h gone
    exact .inl (by simp [setOutput, hne])
  permitted id := MoveSet.Permits.refl moves id _
  consistent consistent :=
    { live := consistent.live, visible := consistent.visible, pending := consistent.pending
      summarized := by
        intro id task found htask hfound
        have hout : update registry.outputsByTaskId taskId (some output) id = some found := hfound
        rw [update_apply] at hout
        split at hout
        · next heq =>
            have hnone : registry.tasksById id = none := heq ▸ gone
            have hs : registry.tasksById id = some task := htask
            rw [hnone] at hs
            cases hs
        · exact consistent.summarized htask hout }

/-- The deletion of a library item, by induction on the tasks that have it. -/
theorem deleteLibraryItem_spread (chained : moves.Chained) (taskIds : List String)
    (registry changed : Registry Output) (tasks : List Task)
    (consistent : registry.Consistent outputs) (nodup : taskIds.Nodup)
    (may : DeletionMoves outputs moves registry libraryItemId now taskIds)
    (h : registry.deleteLibraryItem outputs libraryItemId now taskIds = .ok (changed, tasks)) :
    Spread outputs moves registry changed tasks := by
  induction taskIds generalizing registry changed tasks with
  | nil =>
    cases h
    exact Spread.refl registry
  | cons taskId rest ih =>
    have hrestNodup := (nodup_cons.mp nodup).2
    unfold deleteLibraryItem at h
    split at h
    · cases h
    next record hrec =>
      simp only at h
      split at h
      · next hkept =>
          cases record with
          | none =>
            have hmay := may.tail registry nodup (fun _ _ => rfl)
              (fun _ _ => rfl)
            exact ih registry changed tasks consistent hrestNodup hmay h
          | some entry =>
            -- A record changes only with its task, unless the task is not live.
            cases hlive : registry.tasksById taskId with
            | some task =>
              rw [hlive, bind_some] at hkept
              exact (withLibraryDeletion_of_record _ hkept).elim
            | none =>
              have marked : Spread outputs moves registry
                  (registry.setOutput taskId entry.1) [] := setOutput_spread entry.1 hlive
              have hmay := may.tail (registry.setOutput taskId entry.1) nodup
                (fun _ _ => rfl) (fun id hne => by simp [setOutput, hne])
              exact marked.trans chained
                (ih _ changed tasks (marked.consistent consistent) hrestNodup hmay h)
      · next updatedTask hchg =>
          obtain ⟨task, hlive, hdeletion⟩ := bind_eq_some_iff.mp hchg
          obtain ⟨hid, hkind, -, hsum⟩ := withLibraryDeletion_fields hdeletion
          have hmove := may taskId mem_cons_self task record updatedTask hlive hrec
            hdeletion
          generalize hmarked : (record.elim registry fun entry =>
            registry.setOutput taskId entry.1) = marked at h
          have step : UpdatedTask outputs moves registry (marked.setTask taskId updatedTask)
              taskId task updatedTask := by
            rw [← hmarked]
            cases record with
            | none => exact updatedTask_setTask hlive hid hkind hmove hsum
            | some entry => exact updatedTask_setOutput hlive hid hkind hmove hsum
          have havail : (marked.setTask taskId updatedTask).available =
              registry.available := by
            rw [← hmarked]
            cases record <;> rfl
          have first := step.spread consistent havail
          have hmay := may.tail (marked.setTask taskId updatedTask) nodup
            (fun id hne => by rw [step.step.tasks, update_apply, if_neg hne])
            (fun id hne => (step.touchedOne consistent).others id hne)
          cases hr : (marked.setTask taskId updatedTask).deleteLibraryItem outputs
              libraryItemId now rest with
          | error error =>
            rw [hr] at h
            cases h
          | ok result =>
            rw [hr] at h
            cases h
            exact first.trans chained (ih _ result.1 result.2
              (first.consistent consistent) hrestNodup hmay hr)

include admitted consistent in
theorem tombstoneLibraryItemBeforeDelete_effects (chained : moves.Chained)
    (nodup : taskIds.Nodup)
    (may : DeletionMoves config.outputs moves registry libraryItemId now taskIds) :
    Effects config inputs (fun _ => moves) registry
      (registry.tombstoneLibraryItemBeforeDelete config input taskIds libraryItemId now).1 := by
  apply effects_direct
  unfold tombstoneLibraryItemBeforeDelete
  split
  · exact effect_refl registry
  · next changed updatedTasks hdeleted =>
      exact effect_spread admitted consistent (deleteLibraryItem_spread chained taskIds registry changed
        updatedTasks consistent nodup may hdeleted) (checkpointIfDurable_cases registry)

variable {status : HlsCacheFillStatus}

include admitted consistent in
theorem recordFillStatus_effect {resultId : String} (live : registry.tasksById taskId = some task)
    (named : updated.id = task.id) (kind : updated.kind = task.kind)
    (state : updated.state = task.state) :
    Effect config inputs moves registry
      (registry.recordFillStatus config input taskId resultId updated status).1 := by
  unfold recordFillStatus
  split
  · exact effect_refl registry
  · exact effect_refl registry
  · exact effect_updated admitted consistent
      (updatedTask_setOutput live named kind (.inl state) rfl) (.inr rfl)

include admitted consistent in
theorem updateHlsCacheFillStatusInner_effects {verifiedCompletion : Bool} :
    Effects config inputs (fun _ => MoveSet.none) registry
      (registry.updateHlsCacheFillStatusInner config input taskId sessionId status
        verifiedCompletion now).1 := by
  apply effects_direct
  unfold updateHlsCacheFillStatusInner
  cases hlive : registry.tasksById taskId with
  | none => exact effect_refl registry
  | some task =>
    simp only
    split
    · exact effect_refl registry
    split
    · exact effect_refl registry
    split
    · exact effect_refl registry
    split
    · exact effect_refl registry
    · split
      · exact effect_refl registry
      · exact recordFillStatus_effect admitted consistent hlive rfl rfl rfl

theorem withRefreshedPrimary_fields (task : Task) (sessionId : String)
    (playbackSource : PlaybackSource) (playbackSession : Option BilibiliPlaybackSession) :
    let refreshed := task.withRefreshedPrimary sessionId playbackSource playbackSession
    refreshed.id = task.id ∧ refreshed.kind = task.kind ∧ refreshed.state = task.state ∧
      refreshed.outputSummary = task.outputSummary := by
  simp only [Task.withRefreshedPrimary]
  split <;> exact ⟨rfl, rfl, rfl, rfl⟩

include admitted consistent in
theorem refreshHlsPlaybackSourceWithMetadata_effects {playbackSource : PlaybackSource}
    {playbackSession : Option BilibiliPlaybackSession} :
    Effects config inputs (fun _ => MoveSet.none) registry
      (registry.refreshHlsPlaybackSourceWithMetadata config input taskIds sessionId
        playbackSource playbackSession).1 := by
  apply effects_direct
  unfold refreshHlsPlaybackSourceWithMetadata
  split
  · next task hlive =>
      split
      · exact effect_refl registry
      split
      · exact effect_refl registry
      obtain ⟨hid, hkind, hstate, hsum⟩ :=
        withRefreshedPrimary_fields task sessionId playbackSource playbackSession
      exact effect_updated admitted consistent
        (updatedTask_setTask hlive hid hkind (.inl hstate) hsum) (.inl rfl)
  · split
    · exact effect_refl registry
    next id task hfound =>
      have hlive := (findTask_some hfound).1
      split
      · exact effect_updated admitted consistent
          (updatedTask_setTask hlive rfl rfl (.inl rfl) rfl) (.inl rfl)
      · exact effect_updated admitted consistent
          (updatedTask_setTask hlive rfl rfl (.inl rfl) rfl) (.inl rfl)

include admitted consistent in
theorem commitStagedTaskOutput_effects {replacement : Except Status (Option Output)} :
    Effects config inputs (fun _ => MoveSet.none) registry
      (registry.commitStagedTaskOutput config input id replacement).1 := by
  apply effects_direct
  unfold commitStagedTaskOutput
  split
  · exact effect_refl registry
  · exact effect_refl registry
  next task replaced hlive =>
    split
    · exact effect_refl registry
    next output houtput =>
      split
      · exact effect_updated admitted consistent
          (updatedTask_setOutput hlive rfl rfl (.inl rfl) rfl) (.inr rfl)
      next hsame =>
        -- An equal record leaves the task as it is, its summary included.
        cases replaced with
        | some replacement => simp at hsame
        | none =>
          have hrec : registry.outputsByTaskId id = some output := houtput
          have hsum := consistent.summarized hlive hrec
          have htask : task.withSummary (config.outputs.summary output) = task := by
            rw [Task.withSummary, ← hsum]
          rw [htask]
          exact Effect.quiet
            { tasks := by
                show update registry.tasksById id (some task) = registry.tasksById
                rw [← hlive, Function.update_eq_self]
              outputs := by
                show update registry.outputsByTaskId id (some output) =
                  registry.outputsByTaskId
                rw [← hrec, Function.update_eq_self]
              visible := rfl, pending := rfl, watchers := rfl, installed := rfl
              available := rfl }

def publishesTerminal (state : TaskState) (_ : TaskKind) (before after : TaskState) : Prop :=
  before.isTerminal = false ∧ (before = .cancelRequested → state = .cancelled) ∧
    (state = .succeeded ∨ state = .failed ∨ state = .cancelled) ∧ after = before.orCancelled state

include admitted consistent in
theorem commitStagedDownloadTerminal_effects {terminalState : TaskState}
    {replacement : Except Status (Output × List (String × TaskState × String × String))} :
    Effects config inputs (fun _ => MoveSet.ofTask id (publishesTerminal terminalState)) registry
      (registry.commitStagedDownloadTerminal config input id terminalState libraryItemId message
        replacement now).1 := by
  apply effects_direct
  unfold commitStagedDownloadTerminal
  split
  · exact effect_refl registry
  next hterm =>
    simp only [Bool.not_eq_true', Bool.not_eq_false, Bool.or_eq_true, beq_iff_eq] at hterm
    cases hlive : registry.tasksById id with
    | none => exact effect_refl registry
    | some task =>
      simp only
      split
      · exact effect_refl registry
      split
      · exact effect_refl registry
      next hactive =>
        split
        · exact effect_refl registry
        next hcancel =>
          split
          · exact effect_refl registry
          next output results =>
            have hwins : task.state = .cancelRequested →
                terminalState = .cancelled := by
              intro hreq
              simpa [hreq] using hcancel
            have hmove : (MoveSet.ofTask id (publishesTerminal terminalState)).allowed
                id task.kind task.state (task.state.orCancelled terminalState) :=
              ⟨rfl, by simpa using hactive, hwins, or_assoc.mp hterm, rfl⟩
            exact effect_updated admitted consistent (UpdatedTask.dequeue
              (updatedTask_setOutput hlive rfl rfl (.inr hmove) rfl)) (.inr rfl)

theorem retireExpired_spread (taskIds : List String)
    (registry : Registry Output) (consistent : registry.Consistent outputs) :
    Spread outputs MoveSet.none registry
      (registry.retireExpired outputs excluded now taskIds).1
      (registry.retireExpired outputs excluded now taskIds).2 := by
  induction taskIds generalizing registry with
  | nil => exact Spread.refl registry
  | cons taskId rest ih =>
    unfold retireExpired
    split
    · exact ih registry consistent
    next output _ =>
      split
      · next hnone =>
          have retired : Spread outputs MoveSet.none registry
              (registry.setOutput taskId output) [] := setOutput_spread output hnone
          exact retired.trans chained_none (ih _ (retired.consistent consistent))
      · next task hlive =>
          have step : UpdatedTask outputs MoveSet.none registry
              ((registry.setOutput taskId output).setTask taskId { task with
                outputSummary := some (outputs.summary output), updatedAt := some now })
              taskId task { task with
                outputSummary := some (outputs.summary output), updatedAt := some now } :=
            updatedTask_setOutput hlive rfl rfl (.inl rfl) rfl
          have first := step.spread consistent
            (show ((registry.setOutput taskId output).setTask taskId _).available =
              registry.available from rfl)
          exact first.trans chained_none (ih _ (first.consistent consistent))

include admitted consistent

theorem retireExpiredTaskResourcesExcept_effects :
    Effects config inputs (fun _ => MoveSet.none) registry
      (registry.retireExpiredTaskResourcesExcept config input taskIds excluded now).1 := by
  apply effects_direct
  unfold retireExpiredTaskResourcesExcept
  split
  · exact effect_refl registry
  · exact effect_spread admitted consistent (retireExpired_spread taskIds registry consistent)
      (checkpointIfDurable_cases registry)

theorem persistCurrentState_effects :
    Effects config inputs (fun _ => MoveSet.none) registry
      (registry.persistCurrentState config input durabilityRequired requireDurableCommit).1 := by
  apply effects_direct
  apply effect_persistAndPublishPending admitted consistent (Touched.refl registry)
  cases requireDurableCommit
  · exact .inl rfl
  · exact checkpointIfDurable_cases registry

end

end NetPlayer.Tasks
