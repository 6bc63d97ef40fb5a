import NetPlayer.Client.WatcherMoves

/-!
# Runs of the task view

A step displays a later version of the task, or one that passed the check of watched
snapshots, or the answer to a cancellation. The last of these is the only one that can
take the view back, and only when it is older than what is displayed.
-/

namespace NetPlayer.Client

open Option Watcher

open Transition (Run Guarded)
open TaskViewModel

/-- `after` may be displayed once `before` was: a terminal task stays terminal, a
cancellation under way ends in a terminal task only, and the output revision is not lower. -/
structure CacheTask.Follows (after before : CacheTask) : Prop where
  terminal : before.isTerminalBilibiliTaskState → after.isTerminalBilibiliTaskState
  pending : before.isCancellationPendingBilibiliTaskState →
    after.isCancellationPendingBilibiliTaskState ∨ after.isTerminalBilibiliTaskState
  revision : ∀ r, before.outputRevision = some r →
    ∃ later, after.outputRevision = some later ∧ r ≤ later

namespace CacheTask

theorem Follows.refl (task : CacheTask) : task.Follows task :=
  ⟨fun h => h, .inl, fun r h => ⟨r, h, Nat.le_refl r⟩⟩

theorem Follows.trans {a b c : CacheTask} (second : c.Follows b) (first : b.Follows a) :
    c.Follows a where
  terminal h := second.terminal (first.terminal h)
  pending h := (first.pending h).elim second.pending fun hterm =>
    .inr (second.terminal hterm)
  revision r h := by
    obtain ⟨middle, hmid, hle⟩ := first.revision r h
    obtain ⟨later, hl, hle'⟩ := second.revision middle hmid
    exact ⟨later, hl, Nat.le_trans hle hle'⟩

theorem follows_of_canApply {task currentTask : CacheTask}
    (h : canApplyWatchedSnapshot task currentTask = true) : task.Follows currentTask := by
  unfold canApplyWatchedSnapshot at h
  split at h
  · cases h
  rename_i hterm
  split at h
  · cases h
  rename_i hpend
  refine ⟨by simpa using hterm, ?_, ?_⟩
  · intro hcurrent
    by_cases hafter : task.isCancellationPendingBilibiliTaskState
    · exact .inl hafter
    · simp only [hcurrent, hafter, Bool.not_false, Bool.and_true, Bool.true_and,
        Bool.not_eq_true', Bool.not_eq_false] at hpend
      exact .inr hpend
  · intro r hrev
    rw [hrev] at h
    cases hincoming : task.outputRevision with
    | none =>
      rw [hincoming] at h
      cases h
    | some incoming =>
      rw [hincoming] at h
      exact ⟨incoming, rfl, of_decide_eq_true h⟩

end CacheTask

def Step (history : TaskHistory) (s : TaskViewState) (event : TaskViewEvent)
    (t : TaskViewState) : Prop :=
  s.step history event = some t

namespace TaskViewState

def Displays (history : TaskHistory) (s : TaskViewState) (bound : Nat) : Prop :=
  ∃ index ≤ bound, s.view.currentTask = history.version index

structure Initial (history : TaskHistory) (s : TaskViewState) : Prop where
  displayed : s.Displays history s.now
  watchers : ∀ generation, s.watchers generation = .idle
  cancels : s.cancels = []

/-- A cancellation whose fence still stands was sent when the displayed task was already
there, so its answer is not older. -/
structure Consistent (history : TaskHistory) (s : TaskViewState) : Prop where
  displayed : s.Displays history s.now
  fresh : ∀ generation, s.view.taskWatchGeneration < generation → s.watchers generation = .idle
  probes : ∀ generation probe, (s.watchers generation).probe = some probe →
    probe.activityGeneration ≤ s.view.taskWatchActivityGeneration
  cancels : ∀ call ∈ s.cancels,
    call.cancellationGeneration ≤ s.view.taskSnapshotGeneration ∧
      (s.view.taskSnapshotGeneration = call.cancellationGeneration →
        s.Displays history call.requested)

variable {history : TaskHistory} {s t : TaskViewState}

theorem Initial.consistent (initial : s.Initial history) : s.Consistent history where
  displayed := initial.displayed
  fresh generation _ := initial.watchers generation
  probes generation probe h := by
    rw [initial.watchers generation] at h
    cases h
  cancels call h := by
    rw [initial.cancels] at h
    cases h

variable (consistent : s.Consistent history)

include consistent in
theorem Consistent.cancels_of_advances
    (advances : s.view.Advances t.view) (cancels : ∀ call ∈ t.cancels, call ∈ s.cancels) :
    ∀ call ∈ t.cancels,
      call.cancellationGeneration ≤ t.view.taskSnapshotGeneration ∧
        (t.view.taskSnapshotGeneration = call.cancellationGeneration →
          t.Displays history call.requested) := by
  intro call hcall
  obtain ⟨hle, hfence⟩ := consistent.cancels call (cancels call hcall)
  have hsnap := advances.snapshot
  refine ⟨Nat.le_trans hle hsnap, fun hsame => ?_⟩
  obtain ⟨index, hindex, htask⟩ := hfence (by omega)
  exact ⟨index, hindex, (advances.unchanged (by omega)).trans htask⟩

variable {view : TaskViewModel} {generation : Nat}

variable {watcher watcher' : Watcher}

include consistent in
theorem Consistent.withWatcher
    (moved : Watcher.Moved history s.now s.view (s.watchers generation) view watcher) :
    (s.withWatcher view generation watcher).Consistent history where
  displayed := by
    rcases moved.displayed with hsame | ⟨index, hindex, htask, -⟩
    · obtain ⟨index, hindex, htask⟩ := consistent.displayed
      exact ⟨index, hindex, hsame.trans htask⟩
    · exact ⟨index, hindex, htask⟩
  fresh other hother := by
    have hidle := consistent.fresh other (Nat.lt_of_le_of_lt moved.advances.watch hother)
    by_cases heq : other = generation
    · subst heq
      rw [withWatcher_self]
      exact moved.idle hidle
    · rw [withWatcher_of_ne _ _ _ heq]
      exact hidle
  probes other probe hprobe := by
    have hactivity := moved.advances.activity
    by_cases heq : other = generation
    · subst heq
      rw [withWatcher_self] at hprobe
      rcases moved.probe probe hprobe with hold | hnew
      · exact Nat.le_trans (consistent.probes other probe hold) hactivity
      · rw [hnew]
        exact hactivity
    · rw [withWatcher_of_ne _ _ _ heq] at hprobe
      exact Nat.le_trans (consistent.probes other probe hprobe) hactivity
  cancels := consistent.cancels_of_advances moved.advances fun _ h => h

@[simp] theorem startWatching_currentTask (reconcile : Bool) :
    (s.startWatching reconcile).view.currentTask = s.view.currentTask := by
  simp only [startWatching]
  split <;> rfl

theorem startWatching_advances (reconcile : Bool) :
    s.view.Advances (s.startWatching reconcile).view := by
  simp only [startWatching]
  split <;> exact .of_same rfl rfl rfl (Nat.le_succ _)

@[simp] theorem startWatching_now (reconcile : Bool) : (s.startWatching reconcile).now = s.now := by
  simp only [startWatching]
  split <;> rfl

@[simp] theorem startWatching_cancels (reconcile : Bool) :
    (s.startWatching reconcile).cancels = s.cancels := by
  simp only [startWatching]
  split <;> rfl

theorem startWatching_generation (reconcile : Bool) :
    (s.startWatching reconcile).view.taskWatchGeneration = s.view.taskWatchGeneration + 1 := by
  simp only [startWatching]
  split <;> rfl

theorem startWatching_watchers (reconcile : Bool) (generation : Nat) :
    (s.startWatching reconcile).watchers generation = s.watchers generation ∨
      generation = s.view.taskWatchGeneration + 1 ∧
        (s.startWatching reconcile).watchers generation =
          ⟨if reconcile then .recovering else .subscribing, none⟩ := by
  simp only [startWatching]
  split
  · by_cases heq : generation = s.view.taskWatchGeneration + 1
    · subst heq
      exact .inr ⟨rfl, withWatcher_self _ _ _ _⟩
    · exact .inl (withWatcher_of_ne _ _ _ heq)
  · exact .inl rfl

include consistent

theorem Consistent.startWatching (reconcile : Bool) :
    (s.startWatching reconcile).Consistent history where
  displayed := by
    obtain ⟨index, hindex, htask⟩ := consistent.displayed
    exact ⟨index, by simpa using hindex, by simpa using htask⟩
  fresh generation hl := by
    rw [startWatching_generation] at hl
    rcases startWatching_watchers (s := s) reconcile generation with hsame | ⟨heq, -⟩
    · rw [hsame]
      exact consistent.fresh generation (by omega)
    · omega
  probes generation probe hprobe := by
    rcases startWatching_watchers (s := s) reconcile generation with hsame | ⟨-, hnew⟩
    · rw [hsame] at hprobe
      exact Nat.le_trans (consistent.probes generation probe hprobe)
        (startWatching_advances reconcile).activity
    · rw [hnew] at hprobe
      cases hprobe
  cancels := consistent.cancels_of_advances (startWatching_advances reconcile) fun call h => by
    rwa [startWatching_cancels] at h

theorem Consistent.endCancel (call : CancelCall) (advances : s.view.Advances view)
    (displayed : view.currentTask = s.view.currentTask ∨
      ∃ index ≤ s.now, view.currentTask = history.version index) :
    ({ s with view := view, cancels := s.cancels.erase call } : TaskViewState).Consistent
      history where
  displayed := by
    rcases displayed with hsame | hver
    · obtain ⟨index, hindex, htask⟩ := consistent.displayed
      exact ⟨index, hindex, hsame.trans htask⟩
    · exact hver
  fresh generation hl :=
    consistent.fresh generation (Nat.lt_of_le_of_lt advances.watch hl)
  probes generation probe hprobe :=
    Nat.le_trans (consistent.probes generation probe hprobe) advances.activity
  cancels := consistent.cancels_of_advances advances fun _ h => List.mem_of_mem_erase h

omit consistent

variable {event : TaskViewEvent}

theorem consistent_step (step : Step history s event t) (consistent : s.Consistent history) :
    t.Consistent history := by
  unfold Step at step
  cases event with
  | serverUpdate =>
    cases step
    obtain ⟨index, hindex, htask⟩ := consistent.displayed
    exact ⟨⟨index, Nat.le_succ_of_le hindex, htask⟩, consistent.fresh, consistent.probes,
      consistent.cancels⟩
  | start reconcile =>
    cases step
    exact consistent.startWatching reconcile
  | watch generation event =>
    simp only [TaskViewState.step, map_eq_some_iff] at step
    obtain ⟨⟨view, watcher⟩, hmoved, rfl⟩ := step
    exact consistent.withWatcher (step_moved hmoved)
  | probeFailure generation =>
    simp only [TaskViewState.step] at step
    split at step
    · rename_i probe hprobe
      split at step <;> cases step
      · exact consistent.startWatching true
      · exact consistent.withWatcher
          (Watcher.Moved.same (ne_idle_of_probe hprobe) (.inr rfl))
    · cases step
  | cancel =>
    simp only [TaskViewState.step] at step
    split at step <;> cases step
    refine ⟨consistent.displayed, consistent.fresh, consistent.probes, ?_⟩
    intro call hcall
    rcases List.mem_cons.mp hcall with rfl | hold
    · exact ⟨Nat.le_refl _, fun _ => consistent.displayed⟩
    have hle := (consistent.cancels call hold).1
    refine ⟨Nat.le_succ_of_le hle, fun hsame => ?_⟩
    have hn : s.view.taskSnapshotGeneration + 1 = call.cancellationGeneration := hsame
    omega
  | cancelResponse call index =>
    simp only [TaskViewState.step] at step
    split at step <;> cases step
    rename_i hcall
    obtain ⟨hadvances, hdisplayed⟩ := finishCancel_cases s.view
      (history.version index) history.taskID call.cancellationGeneration
    refine consistent.endCancel call hadvances (hdisplayed.imp_right fun h => ?_)
    exact ⟨index, hcall.2.2, h.1⟩
  | cancelFailure call =>
    simp only [TaskViewState.step] at step
    split at step <;> cases step
    exact consistent.endCancel call (failCancel_advances _ _) (.inl (failCancel_currentTask _ _))

def Fenced (history : TaskHistory) (s : TaskViewState) : TaskViewEvent → Prop
  | .cancelResponse call index =>
    (history.version index).isTerminalBilibiliTaskState ∨
      (history.version index).isCancellationPendingBilibiliTaskState ∨
      (history.version index).isQueuedOrRunningBilibiliTaskState ∨
      s.view.taskSnapshotGeneration = call.cancellationGeneration ∨
      canApplyWatchedSnapshot (history.version index) s.view.currentTask
  | _ => True

theorem follows_of_moved {after : TaskViewModel} {now : Nat}
    (moved : Watcher.Moved history now view watcher after watcher') :
    after.currentTask.Follows view.currentTask := by
  rcases moved.displayed with hsame | ⟨index, -, htask, hcheck⟩
  · rw [hsame]
    exact .refl _
  · rw [htask]
    exact CacheTask.follows_of_canApply hcheck

include consistent in
theorem Consistent.follows_of_answer {call : CancelCall}
    {index : Nat} (hcall : call ∈ s.cancels) (hreq : call.requested ≤ index)
    (fenced : s.Fenced history (.cancelResponse call index))
    (terminal : s.view.currentTask.isTerminalBilibiliTaskState = false)
    (pending : s.view.currentTask.isCancellationPendingBilibiliTaskState →
      (history.version index).isTerminalBilibiliTaskState)
    (queued : (history.version index).isQueuedOrRunningBilibiliTaskState →
      s.view.taskSnapshotGeneration = call.cancellationGeneration) :
    (history.version index).Follows s.view.currentTask := by
  obtain ⟨displayed, -, htask⟩ := consistent.displayed
  have later : displayed ≤ index →
      (history.version index).Follows s.view.currentTask := by
    intro hle
    rw [htask]
    exact CacheTask.follows_of_canApply (history.canApply hle)
  have unchanged : s.view.taskSnapshotGeneration = call.cancellationGeneration →
      (history.version index).Follows s.view.currentTask := by
    intro hfence
    obtain ⟨early, hearly, hsame⟩ := (consistent.cancels call hcall).2 hfence
    rw [hsame]
    exact CacheTask.follows_of_canApply (history.canApply (Nat.le_trans hearly hreq))
  -- an older answer that is terminal or pending would have made the displayed task so
  have ofTerminal : (history.version index).isTerminalBilibiliTaskState →
      (history.version index).Follows s.view.currentTask := by
    intro hterm
    refine later (Nat.le_of_not_lt fun hlt => ?_)
    have hafter := history.terminal (Nat.le_of_lt hlt) hterm
    rw [← htask, terminal] at hafter
    cases hafter
  rcases fenced with hterm | hpend | hqueued | hfence | hcheck
  · exact ofTerminal hterm
  · by_cases hcurrent : s.view.currentTask.isCancellationPendingBilibiliTaskState
    · exact ofTerminal (pending hcurrent)
    refine later (Nat.le_of_not_lt fun hlt => ?_)
    rcases history.pending (Nat.le_of_lt hlt) hpend with hafter | hafter
    · exact hcurrent (htask ▸ hafter)
    · rw [← htask, terminal] at hafter
      cases hafter
  · exact unchanged (queued hqueued)
  · exact unchanged hfence
  · exact CacheTask.follows_of_canApply hcheck

theorem follows_step (step : Step history s event t) (consistent : s.Consistent history)
    (fenced : s.Fenced history event) : t.view.currentTask.Follows s.view.currentTask := by
  unfold Step at step
  cases event with
  | serverUpdate =>
    cases step
    exact .refl _
  | start reconcile =>
    cases step
    rw [startWatching_currentTask]
    exact .refl _
  | watch generation event =>
    simp only [TaskViewState.step, map_eq_some_iff] at step
    obtain ⟨⟨view, watcher⟩, hmoved, rfl⟩ := step
    exact follows_of_moved (step_moved hmoved)
  | probeFailure generation =>
    simp only [TaskViewState.step] at step
    split at step
    · split at step <;> cases step
      · rw [startWatching_currentTask]
        exact .refl _
      · exact .refl _
    · cases step
  | cancel =>
    simp only [TaskViewState.step] at step
    split at step <;> cases step
    exact .refl _
  | cancelResponse call index =>
    simp only [TaskViewState.step] at step
    split at step <;> cases step
    rename_i hcall
    obtain ⟨-, hsame | ⟨htask, hterm, hpend, hqueued⟩⟩ :=
      finishCancel_cases s.view (history.version index) history.taskID
        call.cancellationGeneration
    · rw [hsame]
      exact .refl _
    · rw [htask]
      exact consistent.follows_of_answer hcall.1 hcall.2.1 fenced hterm hpend hqueued
  | cancelFailure call =>
    simp only [TaskViewState.step] at step
    split at step <;> cases step
    rw [failCancel_currentTask]
    exact .refl _

variable {labels : List TaskViewEvent}

include consistent in
theorem follows_run
    (run : Run (Guarded (Step history) (Fenced history)) s labels t) :
    t.Consistent history ∧ t.view.currentTask.Follows s.view.currentTask := by
  induction run with
  | nil => exact ⟨consistent, .refl _⟩
  | snoc _ hstep ih =>
    obtain ⟨hconsistent, hfollows⟩ := ih
    exact ⟨consistent_step hstep.1 hconsistent,
      (follows_step hstep.1 hconsistent hstep.2).trans hfollows⟩

/-- What may still happen once the server is quiet: an answer to a cancellation that is
neither terminal nor pending is one that its fence turns away, or shows nothing new. -/
def Settling (history : TaskHistory) (s : TaskViewState) : TaskViewEvent → Prop
  | .serverUpdate => False
  | .cancelResponse call index =>
    (history.version index).isTerminalBilibiliTaskState ∨
      (history.version index).isCancellationPendingBilibiliTaskState ∨
      ((history.version index).isQueuedOrRunningBilibiliTaskState ∧
        s.view.taskSnapshotGeneration ≠ call.cancellationGeneration) ∨
      history.version index = s.view.currentTask
  | _ => True

structure Settled (history : TaskHistory) (s : TaskViewState) : Prop where
  displayed : s.view.currentTask = history.version s.now
  watchers : ∀ generation, s.view.taskWatchGeneration ≤ generation →
    (s.watchers generation).Quiet s.now s.view.taskWatchActivityGeneration

theorem Settled.withWatcher (settled : s.Settled history)
    (advances : s.view.Advances view) (displayed : view.currentTask = s.view.currentTask)
    (quiet : view.taskWatchGeneration ≤ generation →
      watcher.Quiet s.now view.taskWatchActivityGeneration) :
    (s.withWatcher view generation watcher).Settled history where
  displayed := displayed.trans settled.displayed
  watchers other hother := by
    by_cases heq : other = generation
    · subst heq
      rw [withWatcher_self]
      exact quiet hother
    · rw [withWatcher_of_ne _ _ _ heq]
      exact (settled.watchers other (Nat.le_trans advances.watch hother)).mono advances.activity

theorem Settled.startWatching (settled : s.Settled history) (reconcile : Bool) :
    (s.startWatching reconcile).Settled history where
  displayed := by
    rw [startWatching_currentTask, startWatching_now]
    exact settled.displayed
  watchers generation hl := by
    have hadvances := startWatching_advances (s := s) reconcile
    rw [startWatching_now]
    rcases startWatching_watchers (s := s) reconcile generation with hsame | ⟨-, hnew⟩
    · rw [hsame]
      exact (settled.watchers generation (Nat.le_trans hadvances.watch hl)).mono
        hadvances.activity
    · rw [hnew]
      refine (quiet_idle _ _).of_phase ?_ (.inr rfl)
      cases reconcile
      · exact .inr (.inl rfl)
      · exact .inl rfl

theorem Settled.of_view (settled : s.Settled history) (cancels : List CancelCall)
    (advances : s.view.Advances view) (displayed : view.currentTask = s.view.currentTask) :
    ({ s with view := view, cancels := cancels } : TaskViewState).Settled history where
  displayed := displayed.trans settled.displayed
  watchers generation hl :=
    (settled.watchers generation (Nat.le_trans advances.watch hl)).mono advances.activity

theorem Settled.finishCancel (settled : s.Settled history) {call : CancelCall} {index : Nat}
    (hindex : index ≤ s.now) (settling : s.Settling history (.cancelResponse call index)) :
    (s.view.finishCancel (history.version index) history.taskID
      call.cancellationGeneration).currentTask = s.view.currentTask := by
  obtain ⟨-, hsame | ⟨htask, hterm, hpend, hqueued⟩⟩ :=
    finishCancel_cases s.view (history.version index) history.taskID
      call.cancellationGeneration
  · exact hsame
  have ofTerminal : (history.version index).isTerminalBilibiliTaskState → False := by
    intro hanswer
    have hafter := history.terminal hindex hanswer
    rw [← settled.displayed, hterm] at hafter
    cases hafter
  rcases settling with hanswer | hanswer | ⟨hanswer, hfence⟩ | hanswer
  · exact (ofTerminal hanswer).elim
  · rcases history.pending hindex hanswer with hafter | hafter
    · rw [← settled.displayed] at hafter
      exact (ofTerminal (hpend hafter)).elim
    · rw [← settled.displayed, hterm] at hafter
      cases hafter
  · exact absurd (hqueued hanswer) hfence
  · exact htask.trans hanswer

theorem settled_step (step : Step history s event t) (settling : s.Settling history event)
    (settled : s.Settled history) : t.Settled history := by
  unfold Step at step
  cases event with
  | serverUpdate => exact settling.elim
  | start reconcile =>
    cases step
    exact settled.startWatching reconcile
  | watch generation event =>
    simp only [TaskViewState.step, map_eq_some_iff] at step
    obtain ⟨⟨view, watcher⟩, hmoved, rfl⟩ := step
    have hadvances := (step_moved hmoved).advances
    by_cases hl : s.view.taskWatchGeneration ≤ generation
    · obtain ⟨hq, hsame⟩ :=
        step_quiet (settled.watchers generation hl) settled.displayed hmoved
      exact settled.withWatcher hadvances hsame fun _ => hq
    · refine settled.withWatcher hadvances (step_other hmoved (by omega)) ?_
      intro hafter
      exact absurd (Nat.le_trans hadvances.watch hafter) hl
  | probeFailure generation =>
    simp only [TaskViewState.step] at step
    split at step
    · split at step <;> cases step
      · exact settled.startWatching true
      · refine settled.withWatcher (.refl _) rfl fun hl => ?_
        have hq := settled.watchers generation hl
        exact ⟨hq.requesting, hq.streaming, fun _ hn => by cases hn⟩
    · cases step
  | cancel =>
    simp only [TaskViewState.step] at step
    split at step <;> cases step
    exact ⟨settled.displayed, settled.watchers⟩
  | cancelResponse call index =>
    simp only [TaskViewState.step] at step
    split at step <;> cases step
    rename_i hcall
    exact settled.of_view _ (finishCancel_cases _ _ _ _).1 (settled.finishCancel hcall.2.2 settling)
  | cancelFailure call =>
    simp only [TaskViewState.step] at step
    split at step <;> cases step
    exact settled.of_view _ (failCancel_advances _ _) (failCancel_currentTask _ _)

include consistent in
theorem Consistent.settled_of_deliver
    (current : s.view.isTaskWatchCurrent history.taskID generation)
    (step : Step history s (.watch generation (.deliver s.now)) t) : t.Settled history := by
  unfold Step at step
  simp only [TaskViewState.step, map_eq_some_iff] at step
  obtain ⟨⟨view, watcher⟩, hmoved, rfl⟩ := step
  have hmove := step_moved hmoved
  obtain ⟨index, hindex, htask⟩ := consistent.displayed
  have hcheck : canApplyWatchedSnapshot (history.version s.now) s.view.currentTask := by
    rw [htask]
    exact history.canApply hindex
  obtain ⟨hdisplayed, hactivity, hwat⟩ := deliver_applied hmoved current hcheck
  refine ⟨hdisplayed, fun other hother => ?_⟩
  by_cases heq : other = generation
  · subst heq
    rw [withWatcher_self]
    rcases hwat with rfl | rfl
    · exact quiet_idle _ _
    refine ⟨fun _ _ h => (by cases h), fun _ h => ?_, fun probe hprobe => .inr ?_⟩
    · cases h
      rfl
    · exact Nat.lt_of_le_of_lt (consistent.probes other probe hprobe) hactivity
  · rw [withWatcher_of_ne _ _ _ heq, consistent.fresh other ?_]
    · exact quiet_idle _ _
    · have hgeneration : generation = s.view.taskWatchGeneration := by
        simp only [TaskViewModel.isTaskWatchCurrent, Bool.and_eq_true, beq_iff_eq] at current
        exact current.1.1
      have hwatch : s.view.taskWatchGeneration ≤ other := Nat.le_trans hmove.advances.watch hother
      omega

theorem settled_run (settled : s.Settled history)
    (run : Run (Guarded (Step history) (Settling history)) s labels t) : t.Settled history :=
  run.invariant (Settled history) (fun step settled => settled_step step.1 step.2 settled) settled

end TaskViewState

/-- In a run whose answers to cancellations are fenced the displayed task never goes back.
Once the last event of a quiet server has been applied, the server's task is displayed,
and it stays so. -/
theorem displayedTask_monotone (history : TaskHistory) {start s : TaskViewState}
    {labels : List TaskViewEvent} (initial : start.Initial history)
    (run : Run (Guarded (Step history) (TaskViewState.Fenced history)) start labels s) :
    (∀ later t, Run (Guarded (Step history) (TaskViewState.Fenced history)) s later t →
      t.view.currentTask.Follows s.view.currentTask) ∧
    ∀ generation applied settling t,
      s.view.isTaskWatchCurrent history.taskID generation →
      Step history s (.watch generation (.deliver s.now)) applied →
      Run (Guarded (Step history) (TaskViewState.Settling history)) applied settling t →
      t.view.currentTask = history.version t.now := by
  have hconsistent := (TaskViewState.follows_run initial.consistent run).1
  constructor
  · intro later t hrun
    exact (TaskViewState.follows_run hconsistent hrun).2
  · intro generation applied settling t hcurrent hstep hrun
    have hsettled := hconsistent.settled_of_deliver hcurrent hstep
    exact (TaskViewState.settled_run hsettled hrun).displayed

def republishedHistory : TaskHistory where
  taskID := "task"
  version
    | 0 => ⟨"task", "playable", [], some 1, ""⟩
    | _ + 1 => ⟨"task", "playable", [], some 2, ""⟩
  id_eq n := by cases n <;> rfl
  terminal {i j} _ := by
    cases i <;> cases j <;> exact id
  pending {i j} _ := by
    cases i <;> cases j <;> exact .inl
  revision {i j r} h hrevision := by
    cases i <;> cases j <;> cases hrevision
    · exact ⟨1, rfl, by decide⟩
    · exact ⟨2, rfl, by decide⟩
    · cases h
    · exact ⟨2, rfl, by decide⟩

def republishedStart : TaskViewState where
  view := ⟨republishedHistory.version 0, 1, 0, 0, false, false⟩
  now := 0
  watchers _ := .idle
  cancels := []

theorem republishedStart_initial : republishedStart.Initial republishedHistory :=
  ⟨⟨0, Nat.le_refl 0, rfl⟩, fun _ => rfl, rfl⟩

theorem displayedTask_monotone_republished : ∃ s applied,
    Run (Guarded (Step republishedHistory) (TaskViewState.Fenced republishedHistory))
      republishedStart [.start false, .watch 1 .openStream, .serverUpdate] s ∧
    Step republishedHistory s (.watch 1 (.deliver s.now)) applied ∧
    applied.view.currentTask = republishedHistory.version applied.now := by
  have hrun : ∃ s, Run (Guarded (Step republishedHistory)
      (TaskViewState.Fenced republishedHistory)) republishedStart
      [.start false, .watch 1 .openStream, .serverUpdate] s ∧
      s.view.isTaskWatchCurrent "task" 1 ∧
      ∃ applied, Step republishedHistory s (.watch 1 (.deliver s.now)) applied :=
    ⟨_, Run.cons ⟨rfl, True.intro⟩ (Run.cons ⟨rfl, True.intro⟩ (Run.single ⟨rfl, True.intro⟩)),
      rfl, _, rfl⟩
  obtain ⟨s, hrun, hcurrent, applied, hstep⟩ := hrun
  exact ⟨s, applied, hrun, hstep,
    (displayedTask_monotone republishedHistory republishedStart_initial hrun).2
      1 applied [] applied hcurrent hstep (Run.nil applied)⟩

/-- The answer to a cancellation shows the first version after the second was displayed: the
view goes back to the lower revision, and stays there while the server is quiet. -/
theorem cancelAnswer_displays_older : ∃ s applied t,
    Run (Step republishedHistory) republishedStart
      [.start false, .watch 1 .openStream, .cancel, .serverUpdate] s ∧
    s.view.isTaskWatchCurrent republishedHistory.taskID 1 ∧
    Step republishedHistory s (.watch 1 (.deliver s.now)) applied ∧
    Step republishedHistory applied (.cancelResponse ⟨2, 0⟩ 0) t ∧
    ¬ t.view.currentTask.Follows applied.view.currentTask ∧
    t.view.currentTask ≠ republishedHistory.version t.now := by
  refine ⟨_, _, _, Run.cons rfl (Run.cons rfl (Run.cons rfl (Run.single rfl))), rfl, rfl, rfl,
    ?_, ?_⟩
  · intro hfollows
    obtain ⟨later, hlater, hle⟩ := hfollows.revision 2 rfl
    cases hlater
    omega
  · decide

end NetPlayer.Client
