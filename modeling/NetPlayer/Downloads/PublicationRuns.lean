import NetPlayer.Downloads.OperationFrame

/-!
# Runs of a terminal publication

Whatever the attempts, the saves and a cancellation come to, an output that an attempt has
installed stays as it is for the rest of the call, with its state and its bodies. A call that
returns without having installed it has ended the download without it.
-/

namespace NetPlayer.Downloads

open Tasks TerminalPublication Option List
open Transition (Run)

variable {Output : Type} {config : Config Output} {publication : TerminalPublication Output}

theorem effects_keep {choose : Registry Output → MoveSet} {before after : Registry Output}
    (effects : Effects config (fun _ => True) choose before after)
    (consistent : before.Consistent config.outputs) (synced : before.Synced config) :
    after.Consistent config.outputs ∧ after.Synced config := by
  obtain ⟨middle, last, hrecov, heffect, hq⟩ := effects
  have hmid : middle.Consistent config.outputs ∧ middle.Synced config := by
    rcases hrecov with rfl | ⟨-, hsaved⟩
    · exact ⟨consistent, synced⟩
    · exact ⟨hsaved.consistent consistent, hsaved.synced consistent synced⟩
  have hl := heffect.synced hmid.1 hmid.2
  refine ⟨consistent_of_live (heffect.consistent hmid.1) hq.tasks hq.outputs
    hq.visible hq.pending, fun store available => ?_⟩
  rw [hq.pending, hq.visible, hq.tasks]
  exact hl store (hq.available ▸ available)

def Step (config : Config Output) (publication : TerminalPublication Output)
    (s : PublicationState Output) (event : PublicationEvent) (t : PublicationState Output) : Prop :=
  s.step config publication event = some t

namespace PublicationState

/-- A running download whose output record owns none of the resources of the publication. -/
structure Initial (config : Config Output) (publication : TerminalPublication Output)
    (s : PublicationState Output) : Prop where
  consistent : s.registry.Consistent config.outputs
  synced : s.registry.Synced config
  running : ∃ task, s.registry.tasksById publication.taskId = some task ∧
    task.kind = .bilibiliDownload ∧ task.state = .running
  unowned : publication.Unowned (s.registry.outputsByTaskId publication.taskId)
  phase : s.phase = .staging
  published : s.published = none

structure Grounded (config : Config Output) (publication : TerminalPublication Output)
    (s : PublicationState Output) : Prop where
  consistent : s.registry.Consistent config.outputs
  synced : s.registry.Synced config
  unpublished : s.published = none →
    Holds publication.notPublished publication.taskId s.registry
  published : ∀ state output, s.published = some (state, output) →
    state.isTerminal = true ∧ config.persistence = true ∧
      (∃ previous results, publication.replace previous = .ok (output, results)) ∧
      Holds (publication.publishedAs state output s.bodies) publication.taskId s.registry

structure Sound (config : Config Output) (publication : TerminalPublication Output)
    (s : PublicationState Output) : Prop where
  grounded : s.Grounded config publication
  written : ∀ remaining, s.phase = .writing remaining → s.published = none →
    ∀ id ∈ publication.resourceIds, id ∈ remaining ∨ s.bodies id = true
  completion : ∀ state, s.phase = .completing state ∨ s.phase = .recovering (some state) →
    state = .failed ∨ state = .cancelled
  finished : s.phase = .finished false → s.published = none →
    Holds publication.endedWithout publication.taskId s.registry

variable {s t : PublicationState Output}

theorem Initial.sound (initial : s.Initial config publication) : s.Sound config publication where
  grounded := by
    refine ⟨initial.consistent, initial.synced, fun _ => ?_, fun _ _ h => ?_⟩
    · obtain ⟨task, hlive, hkind, hr⟩ := initial.running
      intro other hother
      rw [hlive] at hother
      cases hother
      exact ⟨hkind, .inl hr, initial.unowned⟩
    · rw [initial.published] at h
      cases h
  written remaining h := by
    rw [initial.phase] at h
    cases h
  completion state h := by
    rw [initial.phase] at h
    rcases h with h | h <;> cases h
  finished h := by
    rw [initial.phase] at h
    cases h

variable {state : TaskState} {output : Output}

theorem terminal_of_published {current : TaskState} {record : Option Output}
    {bodies : String → Bool} (terminal : state.isTerminal = true)
    (h : publication.publishedAs state output bodies current record) :
    current.isTerminal = true := by
  rw [h.1]
  exact terminal

variable (grounded : s.Grounded config publication)

include grounded

theorem Grounded.operation {registry : Registry Output} {choose : Registry Output → MoveSet}
    (effects : Effects config (fun _ => True) choose s.registry registry)
    (unpublished : Holds publication.notPublished publication.taskId s.registry →
      Holds publication.notPublished publication.taskId registry)
    (published : ∀ {state output previous results}, state.isTerminal = true →
      config.persistence = true → publication.replace previous = .ok (output, results) →
      Holds (publication.publishedAs state output s.bodies) publication.taskId s.registry →
      Holds (publication.publishedAs state output s.bodies) publication.taskId registry) :
    ({ s with registry := registry } : PublicationState Output).Grounded config publication := by
  obtain ⟨hcons, hsynced⟩ := effects_keep effects grounded.consistent grounded.synced
  refine ⟨hcons, hsynced, fun h => unpublished (grounded.unpublished h), fun state output h => ?_⟩
  obtain ⟨hterm, hstore, ⟨previous, results, hreplaced⟩, hholds⟩ :=
    grounded.published state output h
  exact ⟨hterm, hstore, ⟨previous, results, hreplaced⟩,
    published hterm hstore hreplaced hholds⟩

section

variable (lawful : publication.Lawful config)
include lawful

theorem Grounded.retire (input : SaveInput)
    (taskIds : List String) (now : Timestamp) :
    ({ s with registry := (s.registry.retireExpiredTaskResourcesExcept config input taskIds
        publication.resourceIds now).1 } : PublicationState Output).Grounded config publication :=
  grounded.operation (retireExpiredTaskResourcesExcept_effects (fun _ => True.intro)
      grounded.consistent)
    (holds_retireExpiredTaskResourcesExcept (notPublished_steady lawful))
    fun _ _ hreplaced => holds_retireExpiredTaskResourcesExcept
      (publishedAs_steady lawful s.bodies hreplaced)

theorem Grounded.persist (input : SaveInput) :
    ({ s with registry := (s.registry.persistCurrentState config input true false).1 } :
      PublicationState Output).Grounded config publication := by
  refine grounded.operation (persistCurrentState_effects (fun _ => True.intro)
    grounded.consistent) (fun hholds => ?_) fun _ _ hreplaced hholds => ?_
  · exact holds_persistAndPublishPending (notPublished_steady lawful) hholds (.inl rfl) hholds
  · exact holds_persistAndPublishPending
      (publishedAs_steady lawful s.bodies hreplaced) hholds (.inl rfl) hholds

theorem Grounded.cancel (recovery input : SaveInput)
    (now : Timestamp) :
    ({ s with registry := (s.registry.cancelTask config recovery input publication.taskId
        now).1 } : PublicationState Output).Grounded config publication := by
  refine grounded.operation (cancelTask_effects (fun _ => True.intro) grounded.consistent)
    (fun hholds => cancelTask_notPublished lawful hholds)
    fun hterm hstore hreplaced hholds => ?_
  exact cancelTask_terminal hstore grounded.consistent grounded.synced
    (publishedAs_steady lawful s.bodies hreplaced)
    (fun _ _ => terminal_of_published hterm) hholds

theorem Grounded.complete
    (ending : state = .failed ∨ state = .cancelled) (message : String) (recovery input : SaveInput)
    (now : Timestamp) :
    ({ s with registry := (s.registry.completeTask config recovery input publication.taskId
        state message none none now).1 } : PublicationState Output).Grounded config
          publication := by
  refine grounded.operation (completeTask_effects (fun _ => True.intro) grounded.consistent)
    (fun hholds => (completeTask_notPublished lawful ending hholds).1)
    fun hterm _ hreplaced hholds => ?_
  exact completeTask_terminal (publishedAs_steady lawful s.bodies hreplaced)
    (fun _ _ => terminal_of_published hterm) hholds

theorem Grounded.rejectStaged (swept : String → Bool) :
    (s.rejectStaged publication swept).Grounded config publication := by
  refine ⟨grounded.consistent, grounded.synced, grounded.unpublished, fun state output h => ?_⟩
  obtain ⟨hterm, hstore, ⟨previous, results, hreplaced⟩, hholds⟩ :=
    grounded.published state output h
  refine ⟨hterm, hstore, ⟨previous, results, hreplaced⟩, fun task hlive => ?_⟩
  obtain ⟨hkind, hstate, hrecord, hbodies⟩ := hholds task hlive
  refine ⟨hkind, hstate, hrecord, fun id hid => ?_⟩
  have howned : id ∈ resourcesAt publication s.registry := by
    unfold resourcesAt
    rw [hrecord, map_some, getD_some, lawful.replaced_resources hreplaced]
    exact hid
  simp [PublicationState.rejectStaged, howned, hbodies id hid]

end

theorem Grounded.withPhase (phase : PublicationPhase) :
    ({ s with phase := phase } : PublicationState Output).Grounded config publication :=
  { grounded with }

omit grounded

theorem afterError_none (error : Status) :
    afterError none error = .recovering none ∨ afterError none error = .completing .failed ∨
      afterError none error = .completing .cancelled := by
  unfold afterError
  split
  · exact .inl rfl
  simp only
  split
  · exact .inr (.inr rfl)
  · exact .inr (.inl rfl)

include grounded

theorem Grounded.sound
    (phase : s.phase = .staging ∨ s.phase = .recovering none ∨ s.phase = .completing .failed ∨
      s.phase = .completing .cancelled) : s.Sound config publication where
  grounded := grounded
  written remaining h := by simp [h] at phase
  completion state h := by
    rcases h with h | h
    · simpa [h] using phase
    · simp [h] at phase
  finished h := by simp [h] at phase

theorem Grounded.fail (lawful : publication.Lawful config) (swept : String → Bool) (error : Status)
    : (s.fail publication swept error).Sound config publication :=
  ((grounded.rejectStaged lawful swept).withPhase _).sound
    (.inr (afterError_none error))

theorem Grounded.failed (error : Status) :
    ({ s with phase := afterError none error } : PublicationState Output).Sound config
      publication :=
  (grounded.withPhase _).sound (.inr (afterError_none error))

omit grounded

variable (lawful : publication.Lawful config)

include lawful in
theorem stage_sound (grounded : s.Grounded config publication) (input : StageInput) :
    (s.stage config publication input).Sound config publication := by
  unfold PublicationState.stage
  split
  · exact grounded.failed _
  split
  · exact grounded.failed _
  rename_i task hlive
  split
  · exact grounded.failed _
  have hret := grounded.retire lawful input.retire input.taskIds input.now
  split
  · exact hret.failed _
  refine ⟨hret.withPhase _, ?_, ?_, ?_⟩
  · intro remaining hphase hnone id hid
    cases hphase
    refine .inl (mem_filter.mpr ⟨hid, ?_⟩)
    have hunowned := (grounded.unpublished hnone task hlive).2.2
    unfold resourcesAt
    cases hrecord : s.registry.outputsByTaskId publication.taskId with
    | none => rfl
    | some output =>
      have hfresh : id ∉ publication.resourcesOf output := fun howned =>
        hunowned output hrecord id howned hid
      simpa using hfresh
  · intro state hphase
    rcases hphase with hphase | hphase <;> cases hphase
  · intro hphase
    cases hphase

variable (sound : s.Sound config publication)

include sound in
theorem write_sound {id : String} {rest : List String}
    (hphase : s.phase = .writing (id :: rest)) :
    ({ s with
        bodies := fun other => s.bodies other || other == id
        phase := .writing rest } : PublicationState Output).Sound config publication := by
  refine ⟨⟨sound.grounded.consistent, sound.grounded.synced, sound.grounded.unpublished, ?_⟩,
    ?_, ?_, ?_⟩
  · intro state output h
    obtain ⟨hterm, hstore, hreplaced, hholds⟩ := sound.grounded.published state output h
    refine ⟨hterm, hstore, hreplaced, hholds.mono fun current record hprop => ?_⟩
    obtain ⟨hstate, hrecord, hbodies⟩ := hprop
    exact ⟨hstate, hrecord, fun other hother => by simp [hbodies other hother]⟩
  · intro remaining hremaining hnone other hother
    cases hremaining
    rcases sound.written _ hphase hnone other hother with hleft | hwrit
    · rcases mem_cons.mp hleft with rfl | hrest
      · exact .inr (by simp)
      · exact .inl hrest
    · exact .inr (by simp [hwrit])
  · intro state h
    rcases h with h | h <;> cases h
  · intro h
    cases h

theorem afterSuccess_cases (config : Config Output) (registry : Registry Output)
    (completion : Option TaskState) :
    afterSuccess config registry completion = .finished false ∨
      afterSuccess config registry completion = .recovering completion := by
  unfold afterSuccess
  split
  · exact .inl rfl
  · exact .inr rfl

include grounded in
theorem Grounded.succeeded (phase : s.phase = .finished false ∨ s.phase = .recovering none)
    (ended : s.published = none → Holds publication.endedWithout publication.taskId s.registry) :
    s.Sound config publication where
  grounded := grounded
  written remaining h := by simp [h] at phase
  completion state h := by rcases h with h | h <;> simp [h] at phase
  finished _ hnone := ended hnone

include grounded in
theorem installedBy_published (h : s.published = some (state, output)) :
    s.installedBy publication = s.published := by
  obtain ⟨hterm, -, -, hholds⟩ := grounded.published state output h
  unfold installedBy
  split
  · rename_i task _ _ hlive _
    rw [if_pos (terminal_of_published hterm (hholds task hlive).2)]
  · rfl

theorem replacement_replaced {claims : Option Status}
    {results : List (String × TaskState × String × String)}
    (h : s.replacement publication claims = .ok (output, results)) :
    publication.replace (s.registry.outputsByTaskId publication.taskId) =
      .ok (output, results) := by
  unfold replacement at h
  split at h
  · cases h
  · exact h

include lawful

theorem commitStaged_sound (grounded : s.Grounded config publication)
    (written : s.published = none → ∀ id ∈ publication.resourceIds, s.bodies id = true)
    (input : CommitInput) (swept : String → Bool) :
    (s.commitStaged config publication input swept).Sound config publication := by
  have hkept : ∀ reply : Reply Output Task,
      reply = s.registry.commitStagedDownloadTerminal config input.save publication.taskId
        publication.terminalState publication.libraryItemId publication.message
        (s.replacement publication input.claims) input.now →
      reply.1.Consistent config.outputs ∧ reply.1.Synced config := by
    rintro reply rfl
    exact effects_keep (commitStagedDownloadTerminal_effects (fun _ => True.intro)
      grounded.consistent) grounded.consistent grounded.synced
  unfold commitStaged
  generalize hreply : s.registry.commitStagedDownloadTerminal config input.save
    publication.taskId publication.terminalState publication.libraryItemId publication.message
    (s.replacement publication input.claims) input.now = reply
  obtain ⟨hcons, hsynced⟩ := hkept reply hreply.symm
  simp only
  rcases eq_none_or_eq_some s.published with hpubl | ⟨⟨state, output⟩, hpubl⟩
  · have hholds := grounded.unpublished hpubl
    obtain ⟨herror, hok⟩ := commit_notPublished lawful hholds
      (fun output results h => ⟨_, replacement_replaced h⟩) (written hpubl) hreply
    split
    · rename_i saved hsaved
      obtain ⟨task, hlive, ⟨hterm, hs⟩ | hinst⟩ := hok saved hsaved
      · -- the download had ended: nothing is installed
        have hby : s.installedBy publication = none := by
          unfold installedBy
          rw [hlive]
          split
          · rename_i other _ _ hother _
            cases hother
            rw [if_pos hterm]
            exact hpubl
          · exact hpubl
        rw [hby, hs]
        have hended : Holds publication.endedWithout publication.taskId s.registry := by
          intro other hother
          obtain ⟨hkind, hprop⟩ := hholds other hother
          rw [hlive] at hother
          cases hother
          exact ⟨hkind, ended_of_terminal hprop hterm⟩
        refine Grounded.succeeded ?_ (afterSuccess_cases _ _ _) fun _ => hended
        exact ⟨grounded.consistent, grounded.synced, fun _ => hholds, fun _ _ h => by cases h⟩
      · obtain ⟨hact, hstore, hends, output, results, hreplt, ha⟩ := hinst
        have hreplaced := replacement_replaced hreplt
        have hby : s.installedBy publication =
            some (task.state.orCancelled publication.terminalState, output) := by
          unfold installedBy
          rw [hlive, hreplaced]
          simp only
          rw [if_neg (by simp [hact])]
        rw [hby]
        refine Grounded.succeeded ?_ (afterSuccess_cases _ _ _) fun h => by cases h
        refine ⟨hcons, hsynced, fun h => (by cases h), fun state installed h => ?_⟩
        cases h
        exact ⟨hends, hstore, ⟨_, results, hreplaced⟩, ha⟩
    · rename_i error hfailed
      refine Grounded.fail ⟨hcons, hsynced, fun _ => herror error hfailed,
        fun _ _ h => ?_⟩ lawful swept error
      exact absurd (h.symm.trans hpubl) nofun
  · obtain ⟨hterm, -, -, hholds⟩ := grounded.published state output hpubl
    have hs : reply.1 = s.registry := by
      rw [← hreply]
      exact commit_terminal (fun _ _ => terminal_of_published hterm) hholds
    rw [hs]
    split
    · rw [installedBy_published grounded hpubl]
      refine (grounded.withPhase _).succeeded (afterSuccess_cases _ _ _) fun hnone => ?_
      exact absurd (hnone.symm.trans hpubl) nofun
    · exact grounded.fail lawful swept _

include sound

theorem commit_sound (hphase : s.phase = .writing [])
    (input : CommitInput) (swept : String → Bool) :
    (s.commit config publication input swept).Sound config publication := by
  have hgrounded := sound.grounded
  unfold PublicationState.commit
  split
  · exact hgrounded.fail lawful swept _
  have hret := hgrounded.retire lawful input.retire input.taskIds input.now
  split
  · exact hret.fail lawful swept _
  · refine commitStaged_sound lawful hret (fun hnone id hid => ?_) input swept
    exact (sound.written [] hphase hnone id hid).resolve_left not_mem_nil

theorem recover_sound {completion : Option TaskState}
    (hphase : s.phase = .recovering completion) (input : SaveInput) :
    (s.recover config input completion).Sound config publication := by
  have hgrounded := (sound.grounded.persist lawful input)
  have hending : ∀ state, completion = some state → state = .failed ∨ state = .cancelled := by
    rintro state rfl
    exact sound.completion state (.inr hphase)
  have hs : ∀ phase : PublicationPhase,
      (phase = .staging ∨ phase = .recovering completion ∨ phase = .finished true ∨
        phase = .completing .failed ∨ ∃ state, completion = some state ∧ phase = .completing state) →
      ({ s with
          registry := (s.registry.persistCurrentState config input true false).1
          phase := phase } : PublicationState Output).Sound config publication := by
    intro phase hn
    refine ⟨hgrounded.withPhase phase, ?_, ?_, ?_⟩
    · intro remaining hwriting
      simp only at hwriting
      simp [hwriting] at hn
    · intro state hcompn
      rcases hcompn with hcompn | hcompn
      · subst hcompn
        rcases hn with h | h | h | h | ⟨other, hother, h⟩ <;> cases h
        · exact .inl rfl
        · exact hending _ hother
      · subst hcompn
        rcases hn with h | h | h | h | ⟨other, hother, h⟩ <;> cases h
        exact hending _ rfl
    · intro hfin
      simp only at hfin
      simp [hfin] at hn
  unfold recover
  simp only
  split
  · apply hs
    cases completion with
    | none => exact .inl rfl
    | some state => exact .inr (.inr (.inr (.inr ⟨state, rfl, rfl⟩)))
  · exact hs _ (.inr (.inl rfl))
  · exact hs _ (.inr (.inl rfl))
  · apply hs
    split
    · exact .inr (.inr (.inr (.inl rfl)))
    · exact .inr (.inr (.inl rfl))
  · apply hs
    split
    · exact .inr (.inr (.inr (.inl rfl)))
    · exact .inr (.inr (.inl rfl))

theorem complete_sound (hphase : s.phase = .completing state)
    (recovery input : SaveInput) (now : Timestamp) :
    (s.complete config publication state recovery input now).Sound config publication := by
  have hending := sound.completion state (.inl hphase)
  have hgrounded := sound.grounded.complete lawful hending (completionMessage state) recovery
    input now
  have hended : s.published = none →
      (∀ error, (s.registry.completeTask config recovery input publication.taskId state
        (completionMessage state) none none now).2 = .error error → error.code ≠ .unavailable) →
      Holds publication.endedWithout publication.taskId
        (s.registry.completeTask config recovery input publication.taskId state
          (completionMessage state) none none now).1 := fun hnone =>
    (completeTask_notPublished lawful hending (sound.grounded.unpublished hnone)).2
  have hn : ∀ phase : PublicationPhase,
      (phase = .recovering (some state) ∨ phase = .finished false) →
      (phase = .finished false →
        ∀ error, (s.registry.completeTask config recovery input publication.taskId state
          (completionMessage state) none none now).2 = .error error →
            error.code ≠ .unavailable) →
      ({ s with
          registry := (s.registry.completeTask config recovery input publication.taskId state
            (completionMessage state) none none now).1
          phase := phase } : PublicationState Output).Sound config publication := by
    intro phase hphase hcode
    refine ⟨hgrounded.withPhase phase, ?_, ?_, ?_⟩
    · intro remaining hwriting
      simp only at hwriting
      simp [hwriting] at hphase
    · intro other hother
      rcases hother with hother | hother <;> subst hother
      · simp at hphase
      · simp only [PublicationPhase.recovering.injEq, some.injEq, reduceCtorEq,
          or_false] at hphase
        rw [hphase]
        exact hending
    · intro hfin hnone
      exact hended hnone (hcode hfin)
  unfold PublicationState.complete
  simp only
  split
  · rename_i task hok
    refine hn _ (afterSuccess_cases _ _ _).symm fun _ error herror => ?_
    rw [hok] at herror
    cases herror
  · rename_i error hfailed
    unfold afterError
    split
    · exact hn _ (.inl rfl) fun h => by cases h
    rename_i hcode
    refine hn _ (.inr rfl) fun _ other hother => ?_
    rw [hfailed] at hother
    cases hother
    exact hcode

omit sound

omit lawful

variable {event : PublicationEvent}

include lawful in
theorem step_sound (step : Step config publication s event t) (sound : s.Sound config publication) :
    t.Sound config publication := by
  unfold Step at step
  cases event with
  | cancel recovery input now =>
    simp only [PublicationState.step] at step
    split at step <;> cases step
    rename_i hopen
    exact ⟨sound.grounded.cancel lawful recovery input now, sound.written, sound.completion,
      fun h => absurd h (hopen false)⟩
  | stage input =>
    simp only [PublicationState.step] at step
    split at step <;> cases step
    exact stage_sound lawful sound.grounded input
  | write answer swept =>
    simp only [PublicationState.step] at step
    split at step <;> cases step
    · exact sound.grounded.fail lawful swept _
    · rename_i hphase
      exact write_sound sound hphase
  | commit input swept =>
    simp only [PublicationState.step] at step
    split at step <;> cases step
    rename_i hphase
    exact commit_sound lawful sound hphase input swept
  | recover input =>
    simp only [PublicationState.step] at step
    split at step <;> cases step
    rename_i hphase
    exact recover_sound lawful sound hphase input
  | complete recovery input now =>
    simp only [PublicationState.step] at step
    split at step <;> cases step
    rename_i hphase
    exact complete_sound lawful sound hphase recovery input now

theorem published_step (step : Step config publication s event t)
    (lawful : publication.Lawful config) (sound : s.Sound config publication)
    (h : s.published = some (state, output)) : t.published = some (state, output) := by
  unfold Step at step
  cases event with
  | cancel recovery input now | recover input | complete recovery input now =>
    simp only [PublicationState.step] at step
    split at step <;> cases step
    exact h
  | stage input =>
    simp only [PublicationState.step] at step
    split at step <;> cases step
    unfold PublicationState.stage
    split
    · exact h
    split
    · exact h
    split
    · exact h
    · simp only
      split <;> exact h
  | write answer swept =>
    simp only [PublicationState.step] at step
    split at step <;> cases step <;> exact h
  | commit input swept =>
    simp only [PublicationState.step] at step
    split at step <;> cases step
    unfold PublicationState.commit
    split
    · exact h
    split
    · exact h
    have hret := sound.grounded.retire lawful input.retire input.taskIds input.now
    unfold commitStaged
    simp only
    split
    · exact (installedBy_published hret h).trans h
    · exact h

include lawful in
theorem sound_run {events : List PublicationEvent} (sound : s.Sound config publication)
    (run : Run (Step config publication) s events t) :
    t.Sound config publication ∧ ∀ state output, s.published = some (state, output) →
      t.published = some (state, output) := by
  induction run with
  | nil => exact ⟨sound, fun _ _ h => h⟩
  | snoc _ step ih =>
    obtain ⟨hsound, hkept⟩ := ih
    exact ⟨step_sound lawful step hsound,
      fun state output h => published_step step lawful hsound (hkept state output h)⟩

end PublicationState

/-- Once an attempt has installed the output with a terminal state, the rest of the call
leaves the state, the record and the bodies of its resources as they are, as long as the
registry keeps the task. A call that returns without having installed the output leaves the
task failed or cancelled, and its record owns none of the staged resources. -/
theorem completeV2TerminalTask_settles (lawful : publication.Lawful config)
    {start s : PublicationState Output} {events : List PublicationEvent}
    (initial : start.Initial config publication)
    (run : Run (Step config publication) start events s) :
    (∀ state output, s.published = some (state, output) → state.isTerminal = true ∧
      ∀ later t, Run (Step config publication) s later t →
        t.published = some (state, output) ∧
        ∀ task, t.registry.tasksById publication.taskId = some task → task.state = state ∧
          t.registry.outputsByTaskId publication.taskId = some output ∧
          ∀ id ∈ publication.resourcesOf output, t.bodies id = true) ∧
    (s.phase = .finished false → s.published = none →
      ∀ task, s.registry.tasksById publication.taskId = some task →
        (task.state = .failed ∨ task.state = .cancelled) ∧
          publication.Unowned (s.registry.outputsByTaskId publication.taskId)) := by
  have hsound := (PublicationState.sound_run lawful initial.sound run).1
  constructor
  · intro state output hpublished
    refine ⟨(hsound.grounded.published state output hpublished).1, fun later t hrun => ?_⟩
    obtain ⟨hlater, hkept⟩ := PublicationState.sound_run lawful hsound hrun
    have hsame := hkept state output hpublished
    refine ⟨hsame, fun task hlive => ?_⟩
    obtain ⟨-, -, ⟨previous, results, hreplaced⟩, hholds⟩ :=
      hlater.grounded.published state output hsame
    obtain ⟨-, hstate, hrecord, hbodies⟩ := hholds task hlive
    refine ⟨hstate, hrecord, fun id hid => hbodies id ?_⟩
    rwa [lawful.replaced_resources hreplaced] at hid
  · intro hfinished hnone task hlive
    exact (hsound.finished hfinished hnone task hlive).2

structure ResourceList where
  legacyManaged : Bool
  resourceIds : List String

/-- The operations on records of resources that do not expire. -/
def resourceListOutputs : TaskOutputs ResourceList where
  fromLegacyTask _ := ⟨true, []⟩
  removedTaskTombstone _ _ := ⟨false, []⟩
  legacyManaged := ResourceList.legacyManaged
  reconcileLegacyTask _ _ := .ok none
  summary output := ⟨1, 1, 1, 1, 0, 0, output.resourceIds.length, ""⟩
  updateBilibiliCacheFillStatus _ _ _ := none
  retireExpiredResourcesExcept _ _ _ := none
  markPlaybackCacheDeleted output _ _ _ := .ok output
  markLibraryItemDeleted _ _ _ := .ok none

/-- A registry with a store that keeps a terminal task for a day. -/
def oneDayConfig : Config ResourceList where
  outputs := resourceListOutputs
  persistence := true
  retentionPolicy := ⟨none, some (86400 * 1000000000)⟩

def resourcePublication : TerminalPublication ResourceList where
  taskId := "download"
  libraryItemId := ""
  message := "Bilibili download completed."
  terminalState := .succeeded
  resourceIds := ["resource"]
  resourcesOf := ResourceList.resourceIds
  replace _ := .ok (⟨false, ["resource"]⟩, [])

theorem resourcePublication_lawful : resourcePublication.Lawful oneDayConfig where
  replaced_resources h := by
    cases h
    rfl
  replaced_reconciled _ _ := rfl
  replaced_retired _ _ := rfl
  legacy_resources _ := rfl
  reconciled_resources h := by cases h
  retired_resources h := by cases h

def runningDownload : Task :=
  newTask "download" .bilibiliDownload .running "BV1" "A video" runningMessage ⟨1000, 0⟩ []

def runningRegistry : Registry ResourceList where
  available := true
  tasksById id := if id = "download" then some runningDownload else none
  outputsByTaskId _ := none
  visibleTasksById id := if id = "download" then some runningDownload else none
  pendingPublicationsById := []
  queuedTaskIds := []
  hasCandidates _ := false
  watchers := []
  installed := []

def runningStart : PublicationState ResourceList where
  registry := runningRegistry
  bodies _ := false
  phase := .staging
  published := none

theorem runningStart_initial : runningStart.Initial oneDayConfig resourcePublication where
  consistent := by
    have hid : ∀ {id task},
        (if id = "download" then some runningDownload else none) = some task → task.id = id := by
      intro id task h
      split at h
      · rename_i heq
        cases h
        exact heq.symm
      · cases h
    exact ⟨hid, hid, fun _ h => absurd h not_mem_nil, fun _ h => by cases h⟩
  synced _ _ := ⟨rfl, rfl⟩
  running := ⟨runningDownload, rfl, rfl, rfl⟩
  unowned _ h := by cases h
  phase := rfl
  published := rfl

theorem run_of_foldlM {events : List PublicationEvent} {s t : PublicationState Output}
    (h : events.foldlM (PublicationState.step config publication) s = some t) :
    Run (Step config publication) s events t := by
  induction events generalizing s with
  | nil =>
    cases h
    exact Run.nil _
  | cons event rest ih =>
    rw [foldlM_cons] at h
    obtain ⟨middle, hst, hrest⟩ := bind_eq_some_iff.mp h
    exact Run.cons hst (ih hrest)

def saveAt (seconds : Int) (save : SaveResult) : SaveInput :=
  ⟨["download"], ["download"], ⟨seconds, 0⟩, false, save⟩

def untroubledStage : PublicationEvent :=
  .stage ⟨none, none, saveAt 1000 .durable, ["download"], ⟨1000, 0⟩, none⟩

def commitAnswered (save : SaveResult) : PublicationEvent :=
  .commit ⟨none, saveAt 1000 .durable, ["download"], none, none, ⟨1000, 0⟩, saveAt 1000 save⟩
    fun _ => false

def retriedEvents : List PublicationEvent :=
  [untroubledStage, .write none fun _ => false, commitAnswered .installedButNotDurable,
    .recover (saveAt 1001 .durable), untroubledStage, commitAnswered .durable]

def retriedPublication : Option (PublicationState ResourceList) :=
  retriedEvents.foldlM (PublicationState.step oneDayConfig resourcePublication) runningStart

theorem completeV2TerminalTask_settles_retried : ∃ s,
    Run (Step oneDayConfig resourcePublication) runningStart retriedEvents s ∧
      s.phase = .finished false ∧
      ∃ state output, s.published = some (state, output) ∧ state.isTerminal = true := by
  cases hrun : retriedPublication with
  | none =>
    have hsome : retriedPublication.isSome = true := by decide +kernel
    rw [hrun] at hsome
    cases hsome
  | some s =>
    have hphase : retriedPublication.map PublicationState.phase = some (.finished false) := by
      decide +kernel
    have hpublished :
        (retriedPublication.bind PublicationState.published).isSome = true := by
      decide +kernel
    rw [hrun] at hphase hpublished
    have hsteps := run_of_foldlM hrun
    obtain ⟨⟨state, output⟩, hstate⟩ := isSome_iff_exists.mp hpublished
    exact ⟨s, hsteps, some.inj hphase, state, output, hstate,
      ((completeV2TerminalTask_settles resourcePublication_lawful runningStart_initial
        hsteps).1 state output hstate).1⟩

def prunedEvents : List PublicationEvent :=
  [untroubledStage, .write none fun _ => false, commitAnswered .installedButNotDurable,
    .recover (saveAt (1000 + 86400) .durable), untroubledStage,
    .complete (saveAt (1000 + 86400) .durable) (saveAt (1000 + 86400) .durable)
      ⟨1000 + 86400, 0⟩]

def prunedPublication : Option (PublicationState ResourceList) :=
  prunedEvents.foldlM (PublicationState.step oneDayConfig resourcePublication) runningStart

/-- The call returns, its output was installed, and the task is in no state at all. -/
theorem published_download_pruned : ∃ s,
    Run (Step oneDayConfig resourcePublication) runningStart prunedEvents s ∧
      s.phase = .finished false ∧ s.published.isSome = true ∧
      s.registry.tasksById resourcePublication.taskId = none := by
  cases hrun : prunedPublication with
  | none =>
    have hsome : prunedPublication.isSome = true := by decide +kernel
    rw [hrun] at hsome
    cases hsome
  | some s =>
    have hphase : prunedPublication.map PublicationState.phase = some (.finished false) := by
      decide +kernel
    have hpublished : (prunedPublication.bind PublicationState.published).isSome = true := by
      decide +kernel
    have hgone : prunedPublication.all (fun s =>
        (s.registry.tasksById resourcePublication.taskId).isNone) = true := by
      decide +kernel
    rw [hrun] at hphase hpublished hgone
    exact ⟨s, run_of_foldlM hrun, some.inj hphase, hpublished,
      isNone_iff_eq_none.mp hgone⟩

end NetPlayer.Downloads
