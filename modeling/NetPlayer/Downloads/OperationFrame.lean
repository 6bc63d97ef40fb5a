import NetPlayer.Downloads.TaskFrame

/-!
# The operations of a publication on its download

Before the output of a call is installed the download is active or has ended without
output. Once it is installed, none of the operations of the call changes the state or the
record.
-/

namespace NetPlayer.Downloads

open Tasks PersistenceCommitOutcome Registry
open Function (update)

variable {Output : Type} {config : Config Output}

/-- What the publication relies on in output records: a record made by `replace` owns the
staged resources and is no longer reconciled with its task, and neither reconciliation nor
retirement gives a record resources. -/
structure TerminalPublication.Lawful (config : Config Output)
    (publication : TerminalPublication Output) : Prop where
  replaced_resources : ∀ {previous output results},
    publication.replace previous = .ok (output, results) →
      publication.resourcesOf output = publication.resourceIds
  replaced_reconciled : ∀ {previous output results} (task : Task),
    publication.replace previous = .ok (output, results) →
      config.outputs.reconcileLegacyTask output task = .ok none
  replaced_retired : ∀ {previous output results} (now : Timestamp),
    publication.replace previous = .ok (output, results) →
      config.outputs.retireExpiredResourcesExcept output now publication.resourceIds = none
  legacy_resources : ∀ task, publication.resourcesOf (config.outputs.fromLegacyTask task) = []
  reconciled_resources : ∀ {output task changed},
    config.outputs.reconcileLegacyTask output task = .ok (some changed) →
      publication.resourcesOf changed = publication.resourcesOf output
  retired_resources : ∀ {output now retired},
    config.outputs.retireExpiredResourcesExcept output now publication.resourceIds =
      some retired → publication.resourcesOf retired ⊆ publication.resourcesOf output

namespace TerminalPublication

/-- The record owns none of the staged resources. -/
def Unowned (publication : TerminalPublication Output) (record : Option Output) : Prop :=
  ∀ output, record = some output →
    ∀ id ∈ publication.resourcesOf output, id ∉ publication.resourceIds

def endedWithout (publication : TerminalPublication Output) : RecordProperty Output :=
  fun state record => (state = .failed ∨ state = .cancelled) ∧ publication.Unowned record

def notPublished (publication : TerminalPublication Output) : RecordProperty Output :=
  fun state record =>
    (state = .running ∨ state = .cancelRequested ∨ state = .failed ∨ state = .cancelled) ∧
      publication.Unowned record

def publishedAs (publication : TerminalPublication Output) (state : TaskState) (output : Output)
    (bodies : String → Bool) : RecordProperty Output :=
  fun current record => current = state ∧ record = some output ∧
    ∀ id ∈ publication.resourceIds, bodies id = true

variable {publication : TerminalPublication Output} (lawful : publication.Lawful config)

include lawful

theorem Unowned.steady (states : TaskState → Prop) :
    Steady config.outputs publication.resourceIds
      (fun state record => states state ∧ publication.Unowned record) where
  reconciled {state record task changed} h hrecon := by
    refine ⟨h.1, ?_⟩
    have hb : ∀ id ∈ publication.resourcesOf
        (record.getD (config.outputs.fromLegacyTask task)), id ∉ publication.resourceIds := by
      cases record with
      | none =>
        intro id hid
        rw [Option.getD_none, lawful.legacy_resources] at hid
        cases hid
      | some output => exact h.2 output rfl
    intro output hout id hid
    cases hout
    cases changed with
    | none => exact hb id hid
    | some changed =>
      rw [Option.getD_some, lawful.reconciled_resources hrecon] at hid
      exact hb id hid
  retired {state output now retired} h hret := by
    refine ⟨h.1, fun other ho id hid => ?_⟩
    cases ho
    exact h.2 output rfl id (lawful.retired_resources hret hid)

theorem endedWithout_steady :
    Steady config.outputs publication.resourceIds publication.endedWithout :=
  Unowned.steady lawful _

theorem notPublished_steady :
    Steady config.outputs publication.resourceIds publication.notPublished :=
  Unowned.steady lawful _

omit lawful

variable {state : TaskState}

variable {previous record : Option Output}

include lawful in
theorem publishedAs_steady {output : Output}
    {results : List (String × TaskState × String × String)} (bodies : String → Bool)
    (replaced : publication.replace previous = .ok (output, results)) :
    Steady config.outputs publication.resourceIds
      (publication.publishedAs state output bodies) where
  reconciled {current record task changed} h hrecon := by
    obtain ⟨hstate, hrec, hbodies⟩ := h
    subst hrec
    rw [Option.getD_some, lawful.replaced_reconciled task replaced] at hrecon
    cases hrecon
    exact ⟨hstate, rfl, hbodies⟩
  retired {current other now retired} h hret := by
    obtain ⟨-, hrec, -⟩ := h
    cases hrec
    rw [lawful.replaced_retired now replaced] at hret
    cases hret

theorem endedWithout_notPublished
    (h : publication.endedWithout state record) : publication.notPublished state record :=
  ⟨.inr (.inr h.1), h.2⟩

theorem ended_of_terminal (h : publication.notPublished state record)
    (terminal : state.isTerminal = true) : publication.endedWithout state record := by
  obtain ⟨hstate, hunowned⟩ := h
  refine ⟨?_, hunowned⟩
  rcases hstate with rfl | rfl | hended
  · cases terminal
  · cases terminal
  · exact hended

end TerminalPublication

section

variable {publication : TerminalPublication Output} {property : RecordProperty Output}
  {registry : Registry Output} {id : String}

variable {recovery input : SaveInput} {message : String} {now : Timestamp}

theorem ended_afterRecovery {α : Type} {accepts : PersistenceCommitOutcome → Bool} {refusal : String}
    {operation : Registry Output → Reply Output α} (lawful : publication.Lawful config)
    (holds : Holds publication.notPublished id registry)
    (h : ∀ middle, Holds publication.notPublished id middle →
      Holds publication.endedWithout id (operation middle).1) :
    Holds publication.notPublished id
        (registry.afterRecovery config recovery accepts refusal operation).1 ∧
      ((∀ error, (registry.afterRecovery config recovery accepts refusal operation).2 =
          .error error → error.code ≠ .unavailable) →
        Holds publication.endedWithout id
          (registry.afterRecovery config recovery accepts refusal operation).1) := by
  unfold afterRecovery
  split
  · have hrecov : Holds publication.notPublished id
        (registry.persistAndPublishPending config recovery true none false).1 :=
      holds_persistAndPublishPending (TerminalPublication.notPublished_steady lawful) holds
        (.inl rfl) holds
    simp only
    split
    · have hended := h _ hrecov
      exact ⟨hended.mono fun _ _ => TerminalPublication.endedWithout_notPublished, fun _ => hended⟩
    · exact ⟨hrecov, fun hcode => absurd rfl (hcode _ rfl)⟩
  · have hended := h _ holds
    exact ⟨hended.mono fun _ _ => TerminalPublication.endedWithout_notPublished, fun _ => hended⟩

/-- The completion of a download that has no output ends it without one. An answer other
than that the registry is unavailable means that it has ended. -/
theorem completeTask_notPublished {state : TaskState} (lawful : publication.Lawful config)
    (ending : state = .failed ∨ state = .cancelled)
    (holds : Holds publication.notPublished id registry) :
    Holds publication.notPublished id
        (registry.completeTask config recovery input id state message none none now).1 ∧
      ((∀ error, (registry.completeTask config recovery input id state message none none now).2 =
          .error error → error.code ≠ .unavailable) →
        Holds publication.endedWithout id
          (registry.completeTask config recovery input id state message none none now).1) := by
  refine ended_afterRecovery lawful holds fun middle hmid => ?_
  cases hl : middle.tasksById id with
  | none =>
    intro task ht
    rw [hl] at ht
    cases ht
  | some task =>
    obtain ⟨hkind, hprop⟩ := hmid task hl
    simp only
    split
    · rename_i hterm
      intro other ho
      rw [hl] at ho
      cases ho
      exact ⟨hkind, TerminalPublication.ended_of_terminal hprop hterm⟩
    · obtain ⟨-, hk, hstate, -⟩ :=
        completedWith_fields task state message none none now
      have hset : Holds publication.endedWithout id
          ((middle.setTask id (task.completedWith state message none none now)).dequeue id) := by
        refine holds_of_same (holds_setTask (hk.trans hkind) ⟨?_, hprop.2⟩) rfl rfl
        rw [hstate, TaskState.orCancelled]
        split
        · exact .inr rfl
        · exact ending
      exact holds_persistTasksAndPublish (TerminalPublication.endedWithout_steady lawful) hset
        (.inl rfl) hset

theorem completeTask_terminal {state : TaskState} {excluded : List String}
    (steady : Steady config.outputs excluded property)
    (terminal : ∀ state record, property state record → state.isTerminal = true)
    (holds : Holds property id registry) :
    Holds property id
      (registry.completeTask config recovery input id state message none none now).1 := by
  refine holds_afterRecovery steady holds (fun _ _ h => h) fun middle hmid => ?_
  cases hl : middle.tasksById id with
  | none => exact hmid
  | some task =>
    simp only
    rw [if_pos (terminal _ _ (hmid task hl).2)]
    exact hmid

variable {replacement : Except Status (Output × List (String × TaskState × String × String))}
  {terminalState : TaskState}

theorem commit_notPublished {libraryItemId message : String}
    {bodies : String → Bool} {reply : Reply Output Task} (lawful : publication.Lawful config)
    (holds : Holds publication.notPublished id registry)
    (replaced : ∀ output results, replacement = .ok (output, results) →
      ∃ previous, publication.replace previous = .ok (output, results))
    (written : ∀ id ∈ publication.resourceIds, bodies id = true)
    (hreply : registry.commitStagedDownloadTerminal config input id terminalState libraryItemId
      message replacement now = reply) :
    (∀ error, reply.2 = .error error → Holds publication.notPublished id reply.1) ∧
    ∀ saved, reply.2 = .ok saved → ∃ task, registry.tasksById id = some task ∧
      (task.state.isTerminal = true ∧ reply.1 = registry ∨
        task.state.isTerminal = false ∧ config.persistence = true ∧
          (task.state.orCancelled terminalState).isTerminal = true ∧
          ∃ output results, replacement = .ok (output, results) ∧
            Holds (publication.publishedAs (task.state.orCancelled terminalState) output bodies)
              id reply.1) := by
  subst hreply
  unfold commitStagedDownloadTerminal
  split
  · exact ⟨fun _ _ => holds, fun _ h => by cases h⟩
  rename_i hstate
  cases hl : registry.tasksById id with
  | none => exact ⟨fun _ _ => holds, fun _ h => by cases h⟩
  | some task =>
    simp only
    split
    · exact ⟨fun _ _ => holds, fun _ h => by cases h⟩
    rename_i hkind
    split
    · rename_i hterm
      exact ⟨fun _ _ => holds, fun _ _ => ⟨task, rfl, .inl ⟨hterm, rfl⟩⟩⟩
    rename_i hact
    split
    · exact ⟨fun _ _ => holds, fun _ h => by cases h⟩
    split
    · exact ⟨fun _ _ => holds, fun _ h => by cases h⟩
    rename_i output results
    obtain ⟨previous, hrepl⟩ := replaced output results rfl
    have hends : (task.state.orCancelled terminalState).isTerminal = true := by
      unfold TaskState.orCancelled
      split
      · rfl
      · simp only [Bool.not_eq_true', Bool.not_eq_false, Bool.or_eq_true, beq_iff_eq] at hstate
        rcases hstate with (hstate | hstate) | hstate <;> rw [hstate] <;> rfl
    refine ⟨fun error herror => ?_, fun saved hsaved => ?_⟩
    · unfold savedReply at herror ⊢
      split at herror
      · cases herror
      rename_i hrejected
      have hr := persist_rejected (by simpa using hrejected)
      exact holds_of_same holds (congrFun hr.1 id) (congrFun hr.2 id)
    · unfold savedReply at hsaved ⊢
      split at hsaved
      · rename_i hcommitted
        refine ⟨task, rfl, .inr ⟨by simpa using hact,
          store_of_committed hcommitted, hends, output, results, rfl, ?_⟩⟩
        rw [persist_committed hcommitted]
        have hset : Holds (publication.publishedAs
            (task.state.orCancelled terminalState) output bodies) id
            ((registry.setOutput id output).setTask id
              (task.withTerminalOutput terminalState libraryItemId message results
                (config.outputs.summary output) now)) :=
          holds_setTask (not_not.mp hkind)
            ⟨rfl, by simp [setOutput], written⟩
        have hqueue : Holds (publication.publishedAs
            (task.state.orCancelled terminalState) output bodies) id
            (((registry.setOutput id output).setTask id
              (task.withTerminalOutput terminalState libraryItemId message results
                (config.outputs.summary output) now)).dequeue id) :=
          holds_of_same hset rfl rfl
        exact holds_persistTasksAndPublish
          (TerminalPublication.publishedAs_steady lawful bodies hrepl) hqueue
          (.inl rfl) hqueue
      · cases hsaved

theorem commit_terminal {libraryItemId : String}
    (terminal : ∀ state record, property state record → state.isTerminal = true)
    (holds : Holds property id registry) :
    (registry.commitStagedDownloadTerminal config input id terminalState libraryItemId message
      replacement now).1 = registry := by
  unfold commitStagedDownloadTerminal
  split
  · rfl
  cases hl : registry.tasksById id with
  | none => rfl
  | some task =>
    simp only
    split
    · rfl
    · rw [if_pos (terminal _ _ (holds task hl).2)]

theorem cancelTask_notPublished (lawful : publication.Lawful config)
    (holds : Holds publication.notPublished id registry) :
    Holds publication.notPublished id (registry.cancelTask config recovery input id now).1 := by
  have hsteady := TerminalPublication.notPublished_steady lawful
  refine holds_afterRecovery hsteady holds (fun _ _ h => h) fun middle hmid => ?_
  cases hvis : middle.visibleTasksById id with
  | none => exact hmid
  | some visible =>
    simp only
    split
    · exact hmid
    cases hl : middle.tasksById id with
    | none => exact hmid
    | some task =>
      obtain ⟨hkind, hprop⟩ := hmid task hl
      simp only
      split
      · have hset : Holds publication.notPublished id (middle.setTask id
            { task with
              state := .cancelRequested, message := cancelRequestedMessage
              updatedAt := some now }) :=
          holds_setTask hkind ⟨.inr (.inl rfl), hprop.2⟩
        exact holds_persistTasksAndPublish hsteady hset (.inl rfl) hset
      · have hdownload : task.kind ≠ .bilibiliProgressivePlayback := by
          rw [hkind]
          decide
        obtain ⟨-, hk, hstate, -⟩ := cancelledNow_fields task now
        have hset : Holds publication.notPublished id
            ((middle.setTask id (task.cancelledNow now)).setTask id
              (task.cancelledNow now)) :=
          holds_setTask (hk.trans hkind)
            ⟨.inr (.inr (.inr hstate)), hprop.2⟩
        rw [if_neg hdownload]
        exact holds_persistTasksAndPublish hsteady (holds_of_same hset rfl rfl)
          (checkpointIfDurable_cases middle) hmid

theorem cancelTask_terminal {excluded : List String} (store : config.persistence = true)
    (consistent : registry.Consistent config.outputs) (synced : registry.Synced config)
    (steady : Steady config.outputs excluded property)
    (terminal : ∀ state record, property state record → state.isTerminal = true)
    (holds : Holds property id registry) :
    Holds property id (registry.cancelTask config recovery input id now).1 := by
  have hinner : ∀ middle : Registry Output, Holds property id middle →
      middle.visibleTasksById = middle.tasksById → ∀ visible,
      middle.visibleTasksById id = some visible → visible.state.isTerminal = true := by
    intro middle hmid hsynced visible hvis
    rw [hsynced] at hvis
    exact terminal _ _ (hmid visible hvis).2
  unfold Registry.cancelTask afterRecovery
  split
  · have hrecov : Holds property id
        (registry.persistAndPublishPending config recovery true none false).1 :=
      holds_persistAndPublishPending steady holds (.inl rfl) holds
    simp only
    split
    · rename_i hdurable
      have havail : (registry.persistAndPublishPending config recovery true none
          false).1.available = true :=
        available_of_durable
          (by simpa [isDurable] using hdurable) store
      have heffect : Effect config (fun _ => True) MoveSet.none registry
          (registry.persistAndPublishPending config recovery true none false).1 :=
        effect_persistAndPublishPending (fun _ => True.intro) consistent (Touched.refl registry)
          (.inl rfl)
      have hsynced := (heffect.synced consistent synced store havail).2
      split
      · exact hrecov
      · rename_i visible hvis
        rw [if_pos (by simp [hinner _ hrecov hsynced visible hvis])]
        exact hrecov
    · exact hrecov
  · rename_i havail
    have hsynced := (synced store (by simpa [store] using havail)).2
    simp only
    split
    · exact holds
    · rename_i visible hvis
      rw [if_pos (by simp [hinner _ holds hsynced visible hvis])]
      exact holds

end

end NetPlayer.Downloads
