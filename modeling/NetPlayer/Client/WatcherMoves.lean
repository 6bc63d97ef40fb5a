import NetPlayer.Client.TaskWatch

/-!
# The moves of a watcher

A watcher displays a snapshot through the check of watched snapshots only, and only while
it is the current one. Beside a quiet server it may be behind no longer than until the
last event of its subscription.
-/

namespace NetPlayer.Client

open TaskViewModel

namespace Watcher

structure Moved (history : TaskHistory) (now : Nat) (view : TaskViewModel) (watcher : Watcher)
    (after : TaskViewModel) (watcher' : Watcher) : Prop where
  advances : view.Advances after
  displayed : after.currentTask = view.currentTask ∨ ∃ index ≤ now,
    after.currentTask = history.version index ∧
      canApplyWatchedSnapshot (history.version index) view.currentTask
  idle : watcher = .idle → watcher' = .idle
  probe : ∀ probe, watcher'.probe = some probe →
    watcher.probe = some probe ∨ probe.activityGeneration = view.taskWatchActivityGeneration

variable {history : TaskHistory} {now generation : Nat} {view after : TaskViewModel}
  {watcher watcher' : Watcher} {event : WatchEvent}

theorem probe_of_kept (kept : watcher'.probe = watcher.probe ∨ watcher'.probe = none)
    (probe : Probe) (h : watcher'.probe = some probe) : watcher.probe = some probe := by
  rcases kept with hs | hn
  · exact hs ▸ h
  · rw [hn] at h
    cases h

theorem Moved.same (started : watcher ≠ .idle)
    (probe : watcher'.probe = watcher.probe ∨ watcher'.probe = none) :
    Moved history now view watcher view watcher' where
  advances := .refl view
  displayed := .inl rfl
  idle h := absurd h started
  probe p hp := .inl (probe_of_kept probe p hp)

theorem ne_idle_of_phase {phase : WatchPhase} (h : watcher.phase = phase)
    (hp : phase ≠ .finished) : watcher ≠ .idle := by
  intro hidle
  rw [hidle] at h
  exact hp h.symm

theorem ne_idle_of_probe {probe : Probe} (h : watcher.probe = some probe) : watcher ≠ .idle := by
  intro hidle
  rw [hidle] at h
  cases h

theorem afterReconciliation_probe (update : TaskViewModel.WatchedTaskUpdate) :
    (watcher.afterReconciliation update).probe = watcher.probe ∨
      (watcher.afterReconciliation update).probe = none := by
  unfold afterReconciliation
  split
  · exact .inl rfl
  · split
    · exact .inl rfl
    · exact .inr rfl

variable {update : TaskViewModel.WatchedTaskUpdate}

variable {index expected activity later : Nat}

theorem moved_of_reconciled
    (h : view.applyReconciledTask (history.version index) history.taskID generation expected =
      some (update, after)) (hi : index ≤ now) (started : watcher ≠ .idle)
    (probe : watcher'.probe = watcher.probe ∨ watcher'.probe = none) :
    Moved history now view watcher after watcher' := by
  obtain ⟨-, hadvances, hdisplayed⟩ := applyReconciledTask_cases h
  refine ⟨hadvances, ?_, fun hidle => absurd hidle started,
    fun p hp => .inl (probe_of_kept probe p hp)⟩
  rcases hdisplayed with hs | ⟨ht, hcheck⟩
  · exact .inl (by rw [hs])
  · exact .inr ⟨index, hi, ht, hcheck⟩

theorem moved_of_watched
    (h : view.applyWatchedTask (history.version index) history.taskID generation =
      some (update, after)) (hi : index ≤ now) (started : watcher ≠ .idle)
    (probe : watcher'.probe = watcher.probe ∨ watcher'.probe = none) :
    Moved history now view watcher after watcher' := by
  obtain ⟨-, hadvances, hdisplayed⟩ := applyWatchedTask_cases h
  refine ⟨hadvances, ?_, fun hidle => absurd hidle started,
    fun p hp => .inl (probe_of_kept probe p hp)⟩
  rcases hdisplayed with ⟨hs, -⟩ | ⟨ht, hcheck, -⟩
  · exact .inl (by rw [hs])
  · exact .inr ⟨index, hi, ht, hcheck⟩

variable (h : Watcher.step history now view generation watcher event = some (after, watcher'))

include h

theorem step_moved :
    Moved history now view watcher after watcher' := by
  cases event with
  | request | openStream =>
    simp only [step] at h
    split at h
    · rename_i hp
      have hs := ne_idle_of_phase hp (by decide)
      split at h <;> cases h
      · exact Moved.same hs (.inl rfl)
      · exact Moved.same hs (.inr rfl)
    · cases h
  | response index =>
    simp only [step] at h
    split at h
    · rename_i expected requested hp
      have hs := ne_idle_of_phase hp (by simp)
      split at h
      · rename_i hi
        split at h <;> cases h
        · rename_i hrecon
          exact moved_of_reconciled hrecon hi.2 hs (afterReconciliation_probe _)
        · exact Moved.same hs (.inr rfl)
      · cases h
    · cases h
  | failure =>
    simp only [step] at h
    split at h
    · rename_i hp
      have hs := ne_idle_of_phase hp (by simp)
      split at h <;> cases h
      · exact Moved.same hs (.inl rfl)
      · exact Moved.same hs (.inr rfl)
    · cases h
  | giveUp =>
    cases h
    exact ⟨finishWatching_advances _ _ _,
      .inl (finishWatching_currentTask _ _ _), fun _ => rfl,
      fun _ hprobe => by cases hprobe⟩
  | deliver index =>
    simp only [step] at h
    split at h
    · rename_i position hp
      have hs := ne_idle_of_phase hp (by simp)
      split at h
      · rename_i hi
        split at h
        · rename_i hwatd
          split at h <;> cases h
          · exact moved_of_watched hwatd hi.2 hs (.inr rfl)
          · exact moved_of_watched hwatd hi.2 hs (.inl rfl)
        · cases h
          exact Moved.same hs (.inr rfl)
      · cases h
    · cases h
  | streamEnd =>
    simp only [step] at h
    split at h
    · rename_i hp
      have hs := ne_idle_of_phase hp (by decide)
      split at h <;> cases h <;> exact Moved.same hs (.inr rfl)
    · rename_i hp
      have hs := ne_idle_of_phase hp (by simp)
      split at h <;> cases h <;> exact Moved.same hs (.inr rfl)
    · cases h
  | probe =>
    simp only [step] at h
    have hprobe : ∀ expected,
        some (view, { watcher with
          probe := some ⟨expected, view.taskWatchActivityGeneration, now⟩ }) =
          some (after, watcher') → watcher ≠ .idle →
        Moved history now view watcher after watcher' := by
      intro expected heq hs
      cases heq
      refine ⟨.refl view, .inl rfl, fun hidle => absurd hidle hs, ?_⟩
      intro probe hn
      cases hn
      exact .inr rfl
    split at h
    · rename_i hp
      split at h
      · split at h
        · exact hprobe _ h (ne_idle_of_phase hp (by decide))
        · cases h
      · cases h
    · rename_i hp
      split at h
      · split at h
        · exact hprobe _ h (ne_idle_of_phase hp (by simp))
        · cases h
      · cases h
    · cases h
  | probeResponse index =>
    simp only [step] at h
    split at h
    · rename_i probe hprobe
      have hs := ne_idle_of_probe hprobe
      split at h
      · rename_i hi
        split at h
        · split at h <;> cases h
          · rename_i hrecon
            exact moved_of_reconciled hrecon hi.2 hs (.inr rfl)
          · exact Moved.same hs (.inr rfl)
        · cases h
          exact Moved.same hs (.inr rfl)
      · cases h
    · cases h

theorem step_other
    (other : generation ≠ view.taskWatchGeneration) : after.currentTask = view.currentTask := by
  cases event with
  | response index =>
    simp only [step] at h
    split at h
    · split at h
      · split at h <;> cases h
        · rename_i hrecon
          exact absurd (applyReconciledTask_cases hrecon).1 other
        · rfl
      · cases h
    · cases h
  | deliver index =>
    simp only [step] at h
    split at h
    · split at h
      · split at h
        · rename_i hwatd
          exact absurd (applyWatchedTask_cases hwatd).1 other
        · cases h
          rfl
      · cases h
    · cases h
  | probeResponse index =>
    simp only [step] at h
    split at h
    · split at h
      · split at h
        · split at h <;> cases h
          · rename_i hrecon
            exact absurd (applyReconciledTask_cases hrecon).1 other
          · rfl
        · cases h
          rfl
      · cases h
    · cases h
  | giveUp =>
    cases h
    exact finishWatching_currentTask _ _ _
  | request | failure | openStream | streamEnd | probe =>
    simp only [step] at h
    repeat' split at h
    all_goals cases h
    all_goals rfl

omit h

theorem deliver_applied (h : Watcher.step history now view generation watcher (.deliver index) =
      some (after, watcher'))
    (current : view.isTaskWatchCurrent history.taskID generation)
    (check : canApplyWatchedSnapshot (history.version index) view.currentTask) :
    after.currentTask = history.version index ∧
      view.taskWatchActivityGeneration < after.taskWatchActivityGeneration ∧
      (watcher' = .idle ∨ watcher' = { watcher with phase := .streaming index }) := by
  simp only [step] at h
  split at h
  · split at h
    · split at h
      · rename_i hwatd
        obtain ⟨-, -, ⟨-, hfails⟩ | ⟨ht, -, hactivity⟩⟩ :=
          applyWatchedTask_cases hwatd
        · exact absurd ⟨history.id_eq index, check⟩ hfails
        · split at h <;> cases h
          · exact ⟨ht, hactivity, .inl rfl⟩
          · exact ⟨ht, hactivity, .inr rfl⟩
      · rename_i hn
        simp only [applyWatchedTask, if_pos current] at hn
        split at hn <;> cases hn
    · cases h
  · cases h

/-- No call that is still under way can bring an older version than `now`, unless its fence
has fallen. -/
structure Quiet (now activity : Nat) (watcher : Watcher) : Prop where
  requesting : ∀ expected requested, watcher.phase = .requesting expected requested →
    requested = now
  streaming : ∀ position, watcher.phase = .streaming position → position = now
  probe : ∀ probe, watcher.probe = some probe →
    probe.requested = now ∨ probe.activityGeneration < activity

theorem quiet_idle (now activity : Nat) : Watcher.idle.Quiet now activity :=
  ⟨fun _ _ h => (by cases h), fun _ h => (by cases h), fun _ h => (by cases h)⟩

theorem Quiet.mono (quiet : watcher.Quiet now activity)
    (h : activity ≤ later) : watcher.Quiet now later :=
  ⟨quiet.requesting, quiet.streaming, fun probe hprobe =>
    (quiet.probe probe hprobe).imp_right fun hlt => Nat.lt_of_lt_of_le hlt h⟩

theorem Quiet.of_phase (quiet : watcher.Quiet now activity)
    (phase : watcher'.phase = .recovering ∨ watcher'.phase = .subscribing ∨
      watcher'.phase = .finished ∨ watcher'.phase = .streaming now)
    (probe : watcher'.probe = watcher.probe ∨ watcher'.probe = none) :
    watcher'.Quiet now activity where
  requesting expected requested h := by simp [h] at phase
  streaming position h := by simpa [h] using phase
  probe p hp := quiet.probe p (probe_of_kept probe p hp)

theorem Quiet.afterReconciliation (quiet : watcher.Quiet now activity)
    (update : TaskViewModel.WatchedTaskUpdate) :
    (watcher.afterReconciliation update).Quiet now activity := by
  refine quiet.of_phase ?_ (afterReconciliation_probe update)
  unfold Watcher.afterReconciliation
  split
  · exact .inl rfl
  · split
    · exact .inr (.inl rfl)
    · exact .inr (.inr (.inl rfl))

theorem displays_of_reconciled
    (h : view.applyReconciledTask (history.version now) history.taskID generation expected =
      some (update, after)) (displayed : view.currentTask = history.version now) :
    after.currentTask = view.currentTask := by
  obtain ⟨-, -, hs | ⟨ht, -⟩⟩ := applyReconciledTask_cases h
  · rw [hs]
  · exact ht.trans displayed.symm

theorem quiet_deliver (quiet : watcher.Quiet now view.taskWatchActivityGeneration)
    (displayed : view.currentTask = history.version now)
    (h : Watcher.step history now view generation watcher (.deliver index) = some (after, watcher')) :
    watcher'.Quiet now after.taskWatchActivityGeneration ∧
      after.currentTask = view.currentTask := by
  have hactivity := (step_moved h).advances.activity
  simp only [step] at h
  split at h
  · rename_i position hp
    split at h
    · rename_i hi
      have hnow : index = now := by
        have hposn := quiet.streaming _ hp
        omega
      subst hnow
      split at h
      · rename_i hwatd
        have hs : after.currentTask = view.currentTask ∧
            watcher' = .idle ∨ after.currentTask = view.currentTask ∧
            watcher' = { watcher with phase := .streaming index } := by
          obtain ⟨-, -, ⟨hview, -⟩ | ⟨ht, -⟩⟩ :=
            applyWatchedTask_cases hwatd
          · split at h <;> cases h
            · exact .inl ⟨by rw [hview], rfl⟩
            · exact .inr ⟨by rw [hview], rfl⟩
          · split at h <;> cases h
            · exact .inl ⟨ht.trans displayed.symm, rfl⟩
            · exact .inr ⟨ht.trans displayed.symm, rfl⟩
        rcases hs with ⟨ht, rfl⟩ | ⟨ht, rfl⟩
        · exact ⟨quiet_idle _ _, ht⟩
        · refine ⟨Quiet.mono ?_ hactivity, ht⟩
          exact quiet.of_phase (.inr (.inr (.inr rfl))) (.inl rfl)
      · cases h
        exact ⟨quiet_idle _ _, rfl⟩
    · cases h
  · cases h

theorem quiet_probeResponse (quiet : watcher.Quiet now view.taskWatchActivityGeneration)
    (displayed : view.currentTask = history.version now)
    (h : Watcher.step history now view generation watcher (.probeResponse index) = some (after, watcher')) :
    watcher'.Quiet now after.taskWatchActivityGeneration ∧
      after.currentTask = view.currentTask := by
  have hactivity := (step_moved h).advances.activity
  simp only [step] at h
  have hdropped : ({ watcher with probe := none } : Watcher).Quiet now
      view.taskWatchActivityGeneration :=
    ⟨quiet.requesting, quiet.streaming, fun _ hn => by cases hn⟩
  split at h
  · rename_i probe hprobe
    split at h
    · rename_i hi
      split at h
      · rename_i hcurr
        -- the fence of activity stands, so the probe was sent to the quiet server
        have hnow : index = now := by
          simp only [TaskViewModel.isCurrentTaskWatchReconciliation, Bool.and_eq_true,
            beq_iff_eq] at hcurr
          have hreq := quiet.probe probe hprobe
          omega
        subst hnow
        split at h <;> cases h
        · rename_i hrecon
          exact ⟨hdropped.mono hactivity, displays_of_reconciled hrecon displayed⟩
        · exact ⟨hdropped, rfl⟩
      · cases h
        exact ⟨hdropped, rfl⟩
    · cases h
  · cases h

theorem step_quiet (quiet : watcher.Quiet now view.taskWatchActivityGeneration)
    (displayed : view.currentTask = history.version now)
    (h : Watcher.step history now view generation watcher event = some (after, watcher')) :
    watcher'.Quiet now after.taskWatchActivityGeneration ∧
      after.currentTask = view.currentTask := by
  have hactivity := (step_moved h).advances.activity
  cases event with
  | request =>
    simp only [step] at h
    split at h
    · split at h <;> cases h
      · refine ⟨⟨?_, fun _ hp => (by cases hp), quiet.probe⟩, rfl⟩
        intro expected requested hp
        cases hp
        rfl
      · exact ⟨quiet_idle _ _, rfl⟩
    · cases h
  | response index =>
    simp only [step] at h
    split at h
    · rename_i expected requested hp
      split at h
      · rename_i hi
        have hnow : index = now := by
          have hreq := quiet.requesting _ _ hp
          omega
        subst hnow
        split at h <;> cases h
        · rename_i hrecon
          exact ⟨(quiet.afterReconciliation _).mono hactivity,
            displays_of_reconciled hrecon displayed⟩
        · exact ⟨quiet_idle _ _, rfl⟩
      · cases h
    · cases h
  | failure =>
    simp only [step] at h
    split at h
    · split at h <;> cases h
      · exact ⟨quiet.of_phase (.inl rfl) (.inl rfl), rfl⟩
      · exact ⟨quiet_idle _ _, rfl⟩
    · cases h
  | giveUp =>
    cases h
    exact ⟨quiet_idle _ _, finishWatching_currentTask _ _ _⟩
  | openStream =>
    simp only [step] at h
    split at h
    · split at h <;> cases h
      · exact ⟨quiet.of_phase (.inr (.inr (.inr rfl))) (.inl rfl), rfl⟩
      · exact ⟨quiet_idle _ _, rfl⟩
    · cases h
  | deliver index => exact quiet_deliver quiet displayed h
  | streamEnd =>
    simp only [step] at h
    split at h
    · split at h <;> cases h
      · exact ⟨quiet.of_phase (.inl rfl) (.inr rfl), rfl⟩
      · exact ⟨quiet_idle _ _, rfl⟩
    · split at h <;> cases h
      · exact ⟨quiet.of_phase (.inl rfl) (.inr rfl), rfl⟩
      · exact ⟨quiet_idle _ _, rfl⟩
    · cases h
  | probe =>
    simp only [step] at h
    have hprobe : ∀ expected,
        some (view, { watcher with
          probe := some ⟨expected, view.taskWatchActivityGeneration, now⟩ }) =
          some (after, watcher') →
        watcher'.Quiet now after.taskWatchActivityGeneration ∧
          after.currentTask = view.currentTask := by
      intro expected heq
      cases heq
      refine ⟨⟨quiet.requesting, quiet.streaming, ?_⟩, rfl⟩
      intro probe hnew
      cases hnew
      exact .inl rfl
    split at h
    · split at h
      · split at h
        · exact hprobe _ h
        · cases h
      · cases h
    · split at h
      · split at h
        · exact hprobe _ h
        · cases h
      · cases h
    · cases h
  | probeResponse index => exact quiet_probeResponse quiet displayed h

end Watcher

end NetPlayer.Client
