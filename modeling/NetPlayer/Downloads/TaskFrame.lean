import NetPlayer.Downloads.Publication

/-!
# What the registry keeps of one download

A property of the state and the output record of one download, and the operations of the
registry that keep it. A save reconciles output records and prunes tasks, so a property is
kept of a task that is still there, and has to be steady under what saves do to records.
-/

namespace NetPlayer.Downloads

open Tasks Registry
open Function (update)

variable {Output : Type}

abbrev RecordProperty (Output : Type) : Type := TaskState → Option Output → Prop

def Holds (property : RecordProperty Output) (id : String) (registry : Registry Output) : Prop :=
  ∀ task, registry.tasksById id = some task →
    task.kind = .bilibiliDownload ∧ property task.state (registry.outputsByTaskId id)

/-- Saves and the retirement of resources other than `excluded` keep the property. -/
structure Steady (outputs : TaskOutputs Output) (excluded : List String)
    (property : RecordProperty Output) : Prop where
  reconciled : ∀ {state record task changed}, property state record →
    outputs.reconcileLegacyTask (record.getD (outputs.fromLegacyTask task)) task = .ok changed →
    property state (some (changed.getD (record.getD (outputs.fromLegacyTask task))))
  retired : ∀ {state output now retired}, property state (some output) →
    outputs.retireExpiredResourcesExcept output now excluded = some retired →
    property state (some retired)

variable {property : RecordProperty Output} {outputs : TaskOutputs Output}
  {excluded : List String} {config : Config Output} {id : String}

variable {before : Registry Output} {after : Registry Output}

theorem holds_of_same (holds : Holds property id before)
    (tasks : after.tasksById id = before.tasksById id)
    (records : after.outputsByTaskId id = before.outputsByTaskId id) : Holds property id after := by
  intro task hl
  rw [records]
  exact holds task (tasks ▸ hl)

variable {registry : Registry Output}

theorem Holds.mono {weaker : RecordProperty Output} (holds : Holds property id registry)
    (h : ∀ state record, property state record → weaker state record) :
    Holds weaker id registry := by
  intro task hl
  obtain ⟨hkind, hprop⟩ := holds task hl
  exact ⟨hkind, h _ _ hprop⟩

theorem holds_reconcileTaskOutput {taskId : String} (steady : Steady outputs excluded property)
    (h : before.reconcileTaskOutput outputs taskId = some after) (holds : Holds property id before)
    : Holds property id after := by
  by_cases heq : id = taskId
  · subst heq
    unfold reconcileTaskOutput at h
    cases hl : before.tasksById id with
    | none =>
      rw [hl] at h
      cases h
      intro task ha
      rw [hl] at ha
      cases ha
    | some task =>
      obtain ⟨hkind, hprop⟩ := holds task hl
      simp only [hl] at h
      split at h
      · cases h
      rename_i changed hchg
      cases h
      intro after ha
      simp only [Function.update_self, Option.some.injEq] at ha
      subst ha
      refine ⟨hkind, ?_⟩
      simp only [Function.update_self]
      exact steady.reconciled hprop hchg
  · obtain ⟨htasks, hrecords⟩ := reconcileTaskOutput_others h heq
    exact holds_of_same holds htasks hrecords

theorem holds_reconcileAll (steady : Steady outputs excluded property) (taskIds : List String)
    (holds : Holds property id before) :
    Holds property id (before.reconcileAllTaskOutputs outputs taskIds).1 := by
  induction taskIds generalizing before with
  | nil => exact holds
  | cons taskId rest ih =>
    simp only [reconcileAllTaskOutputs]
    split
    · exact holds
    · rename_i reconciled hrecon
      exact ih (holds_reconcileTaskOutput steady hrecon holds)

theorem holds_installCommitted (input : SaveInput) (pruned : List String)
    (holds : Holds property id registry) :
    Holds property id (registry.installCommitted input pruned) := by
  obtain ⟨htasks, -, -, -, -, hrecords⟩ := installCommitted_spec registry input pruned
  intro task hl
  rw [htasks] at hl
  unfold unpruned at hl
  split at hl
  · cases hl
  rename_i hk
  rw [hrecords]
  simp only [if_neg hk]
  exact holds task hl

variable {input : SaveInput}

section

variable {start : Registry Output} {tasks : List Task}
  {durabilityRequired requireDurableCommit : Bool} {rollback : Option (RegistryMutationCheckpoint Output)}
  (steady : Steady config.outputs excluded property) (holds : Holds property id registry)
  (rollbacks : rollback = none ∨ rollback = some (RegistryMutationCheckpoint.capture start))
  (started : Holds property id start)

include steady holds rollbacks started

theorem holds_persistAndPublishPending :
    Holds property id (registry.persistAndPublishPending config input durabilityRequired rollback
      requireDurableCommit).1 := by
  have hrecon := holds_reconcileAll steady input.taskIds holds
  have hr : ∀ current : Registry Output,
      Holds property id ((RegistryMutationCheckpoint.capture start).restore current) :=
    fun current => holds_of_same started rfl rfl
  unfold persistAndPublishPending
  simp only
  split
  · exact holds_installCommitted input _ (holds_of_same hrecon rfl rfl)
  · split
    · rename_i checkpoint
      rcases rollbacks with hn | hs
      · cases hn
      · cases hs
        exact hr _
    · exact holds_installCommitted input _ (holds_of_same hrecon rfl rfl)
  · exact holds_installCommitted input _ (holds_of_same hrecon rfl rfl)
  · rcases rollbacks with rfl | rfl
    · exact holds_of_same hrecon rfl rfl
    · exact hr _

theorem holds_persistTasksAndPublish :
    Holds property id (registry.persistTasksAndPublish config input tasks durabilityRequired
      rollback requireDurableCommit).1 := by
  obtain ⟨htasks, hrecords, -⟩ := foldl_stage_spec tasks registry
  exact holds_persistAndPublishPending steady
    (holds_of_same holds (congrFun htasks id) (congrFun hrecords id)) rollbacks started

end

theorem persist_committed {tasks : List Task}
    {durabilityRequired : Bool} {rollback : Option (RegistryMutationCheckpoint Output)}
    (committed : (registry.persistTasksAndPublish config input tasks durabilityRequired rollback
      false).2.isCommitted = true) :
    registry.persistTasksAndPublish config input tasks durabilityRequired rollback false =
      registry.persistTasksAndPublish config input tasks durabilityRequired none false := by
  unfold persistTasksAndPublish persistAndPublishPending at committed ⊢
  simp only at committed ⊢
  split <;> rename_i houtc <;> rewrite [houtc] at committed
  · rfl
  · rfl
  · rfl
  · cases committed

theorem persist_rejected {registry start : Registry Output}
    {tasks : List Task} {durabilityRequired : Bool}
    (rejected : (registry.persistTasksAndPublish config input tasks durabilityRequired
      (some (RegistryMutationCheckpoint.capture start)) false).2.isCommitted = false) :
    (registry.persistTasksAndPublish config input tasks durabilityRequired
        (some (RegistryMutationCheckpoint.capture start)) false).1.tasksById = start.tasksById ∧
      (registry.persistTasksAndPublish config input tasks durabilityRequired
        (some (RegistryMutationCheckpoint.capture start)) false).1.outputsByTaskId =
          start.outputsByTaskId := by
  unfold persistTasksAndPublish persistAndPublishPending at rejected ⊢
  simp only at rejected ⊢
  split <;> rename_i houtc <;> rw [houtc] at rejected
  · cases rejected
  · cases rejected
  · cases rejected
  · exact ⟨rfl, rfl⟩

theorem persist_outcome (config : Config Output) (registry : Registry Output)
    (input : SaveInput) (tasks : List Task) (durabilityRequired : Bool)
    (rollback : Option (RegistryMutationCheckpoint Output)) :
    ∃ built, (registry.persistTasksAndPublish config input tasks durabilityRequired rollback
      false).2 = config.commitOutcome input built durabilityRequired := by
  refine ⟨((tasks.foldl stagePublicationLocked registry).reconcileAllTaskOutputs
    config.outputs input.taskIds).2 && !(config.persistence && input.recordsRefused), ?_⟩
  unfold persistTasksAndPublish persistAndPublishPending
  simp only
  generalize config.commitOutcome input _ durabilityRequired = outcome
  cases outcome <;> rfl

theorem store_of_committed {tasks : List Task}
    {rollback : Option (RegistryMutationCheckpoint Output)}
    (committed : (registry.persistTasksAndPublish config input tasks true rollback
      false).2.isCommitted = true) : config.persistence = true := by
  obtain ⟨built, houtc⟩ := persist_outcome config registry input tasks true rollback
  rw [houtc] at committed
  cases hstore : config.persistence with
  | true => rfl
  | false =>
    unfold Config.commitOutcome at committed
    rw [hstore] at committed
    cases built <;> cases committed

theorem holds_afterRecovery {α : Type} {after : RecordProperty Output} {recovery : SaveInput}
    {accepts : PersistenceCommitOutcome → Bool} {refusal : String}
    {operation : Registry Output → Reply Output α}
    (steady : Steady config.outputs excluded property) (holds : Holds property id registry)
    (weaker : ∀ state record, property state record → after state record)
    (h : ∀ middle : Registry Output, Holds property id middle →
      Holds after id (operation middle).1) :
    Holds after id (registry.afterRecovery config recovery accepts refusal operation).1 := by
  unfold afterRecovery
  split
  · have hrecov : Holds property id
        (registry.persistAndPublishPending config recovery true none false).1 :=
      holds_persistAndPublishPending steady holds (.inl rfl) holds
    simp only
    split
    · exact h _ hrecov
    · exact hrecov.mono weaker
  · exact h _ holds

theorem holds_setTask {task : Task} (kind : task.kind = .bilibiliDownload)
    (h : property task.state (registry.outputsByTaskId id)) :
    Holds property id (registry.setTask id task) := by
  intro other hl
  unfold setTask at hl
  simp only [Function.update_self, Option.some.injEq] at hl
  subst hl
  exact ⟨kind, h⟩

theorem holds_retireExpired (steady : Steady outputs excluded property) (now : Timestamp)
    (taskIds : List String) (holds : Holds property id registry) :
    Holds property id (registry.retireExpired outputs excluded now taskIds).1 := by
  induction taskIds generalizing registry with
  | nil => exact holds
  | cons taskId rest ih =>
    simp only [retireExpired]
    split
    · exact ih holds
    rename_i retired hret
    obtain ⟨output, hout, hretire⟩ := Option.bind_eq_some_iff.mp hret
    have hrec : ∀ task, registry.tasksById taskId = some task → id = taskId →
        task.kind = .bilibiliDownload ∧ property task.state (some retired) := by
      intro task hl heq
      subst heq
      obtain ⟨hkind, hprop⟩ := holds task hl
      rw [hout] at hprop
      exact ⟨hkind, steady.retired hprop hretire⟩
    have hset : Holds property id (registry.setOutput taskId retired) := by
      intro task hl
      by_cases heq : id = taskId
      · have hk := hrec task (heq ▸ hl) heq
        subst heq
        simpa [setOutput] using hk
      · have hs : Holds property id (registry.setOutput taskId retired) :=
          holds_of_same holds rfl (by simp [setOutput, heq])
        exact hs task hl
    split
    · exact ih hset
    rename_i task ht
    apply ih
    by_cases heq : id = taskId
    · obtain ⟨hkind, hprop⟩ := hrec task ht heq
      subst heq
      refine holds_setTask hkind ?_
      simpa [setOutput] using hprop
    · exact holds_of_same hset (by simp [setTask, heq]) rfl

theorem holds_retireExpiredTaskResourcesExcept {taskIds : List String} {now : Timestamp}
    (steady : Steady config.outputs excluded property) (holds : Holds property id registry) :
    Holds property id (registry.retireExpiredTaskResourcesExcept config input taskIds excluded
      now).1 := by
  unfold retireExpiredTaskResourcesExcept
  split
  · exact holds
  · exact holds_persistTasksAndPublish steady (holds_retireExpired steady now taskIds holds)
      (checkpointIfDurable_cases registry) holds

end NetPlayer.Downloads
