import Mathlib.Logic.Function.Basic
import NetPlayer.Client.TaskView
import NetPlayer.Library.Transition

/-!
# Watching one task of a server

The server runs through the versions of a task. Watchers read them from a subscription
and from unary requests, a cancellation brings one more snapshot, and every call carries
the fences it was started under. Any call may be slow, fail or outlive its watcher.
-/

namespace NetPlayer.Client

open Function (update)

structure TaskHistory where
  taskID : String
  version : Nat → CacheTask
  id_eq : ∀ n, (version n).id = taskID
  terminal : ∀ {i j}, i ≤ j → (version i).isTerminalBilibiliTaskState →
    (version j).isTerminalBilibiliTaskState
  pending : ∀ {i j}, i ≤ j → (version i).isCancellationPendingBilibiliTaskState →
    (version j).isCancellationPendingBilibiliTaskState ∨ (version j).isTerminalBilibiliTaskState
  revision : ∀ {i j r}, i ≤ j → (version i).outputRevision = some r →
    ∃ later, (version j).outputRevision = some later ∧ r ≤ later

theorem TaskHistory.canApply (history : TaskHistory) {i j : Nat} (h : i ≤ j) :
    canApplyWatchedSnapshot (history.version j) (history.version i) = true := by
  have hterm := history.terminal h
  have hp := history.pending h
  unfold canApplyWatchedSnapshot
  rw [if_neg (by simpa using hterm), if_neg ?_]
  · split
    · rfl
    rename_i r hrev
    obtain ⟨later, hl, hle⟩ := history.revision h hrev
    rw [hl]
    exact decide_eq_true hle
  · simp only [Bool.and_eq_true, Bool.not_eq_true', not_and, Bool.not_eq_false, and_imp]
    intro hb ha
    exact (hp hb).resolve_left (by simp [ha])

inductive WatchPhase
  | finished
  | recovering
  | requesting (expectedSnapshotGeneration requested : Nat)
  | subscribing
  | streaming (position : Nat)
deriving DecidableEq

/-- A reconciliation beside a quiet subscription. -/
structure Probe where
  snapshotGeneration : Nat
  activityGeneration : Nat
  requested : Nat
deriving DecidableEq

structure Watcher where
  phase : WatchPhase
  probe : Option Probe
deriving DecidableEq

def Watcher.idle : Watcher := ⟨.finished, none⟩

structure CancelCall where
  cancellationGeneration : Nat
  requested : Nat
deriving DecidableEq

/-- What a watcher does, and what happens to its calls. Which version a snapshot shows is
up to the server and the network. -/
inductive WatchEvent
  | request
  | response (index : Nat)
  | failure
  | giveUp
  | openStream
  | deliver (index : Nat)
  | streamEnd
  | probe
  | probeResponse (index : Nat)
deriving DecidableEq

/-- `start` is the subscription after a submission or a restore, or a retry. -/
inductive TaskViewEvent
  | serverUpdate
  | start (reconcileBeforeSubscribe : Bool)
  | watch (generation : Nat) (event : WatchEvent)
  | probeFailure (generation : Nat)
  | cancel
  | cancelResponse (call : CancelCall) (index : Nat)
  | cancelFailure (call : CancelCall)
deriving DecidableEq

/-- The view model, the version that the server is at, the watchers by their generation
and the cancellations under way. -/
structure TaskViewState where
  view : TaskViewModel
  now : Nat
  watchers : Nat → Watcher
  cancels : List CancelCall

/-- Where a watcher goes after a snapshot: a rejected one is asked for again. -/
def Watcher.afterReconciliation (watcher : Watcher) (update : TaskViewModel.WatchedTaskUpdate) :
    Watcher :=
  if !update.accepted then { watcher with phase := .recovering }
  else if update.shouldKeepWatching then { watcher with phase := .subscribing }
  else .idle

/-- The step of the watcher of `generation` while the server is at version `now`. -/
def Watcher.step (history : TaskHistory) (now : Nat) (view : TaskViewModel) (generation : Nat)
    (watcher : Watcher) : WatchEvent → Option (TaskViewModel × Watcher)
  | .request =>
    if watcher.phase = .recovering then
      match view.taskWatchSnapshotGeneration? history.taskID generation with
      | some expected => some (view, { watcher with phase := .requesting expected now })
      | none => some (view, .idle)
    else
      none
  | .response index =>
    match watcher.phase with
    | .requesting expected requested =>
      if requested ≤ index ∧ index ≤ now then
        match view.applyReconciledTask (history.version index) history.taskID generation
          expected with
        | some (update, view) => some (view, watcher.afterReconciliation update)
        | none => some (view, .idle)
      else
        none
    | _ => none
  | .failure =>
    match watcher.phase with
    | .requesting _ _ =>
      if view.isTaskWatchCurrent history.taskID generation then
        some (view, { watcher with phase := .recovering })
      else
        some (view, .idle)
    | _ => none
  | .giveUp => some (view.finishWatching history.taskID generation, .idle)
  | .openStream =>
    if watcher.phase = .subscribing then
      if view.isTaskWatchCurrent history.taskID generation then
        some (view, { watcher with phase := .streaming now })
      else
        some (view, .idle)
    else
      none
  | .deliver index =>
    match watcher.phase with
    | .streaming position =>
      if position ≤ index ∧ index ≤ now then
        match view.applyWatchedTask (history.version index) history.taskID generation with
        | some (update, view) =>
          if update.accepted && !update.shouldKeepWatching then some (view, .idle)
          else some (view, { watcher with phase := .streaming index })
        | none => some (view, .idle)
      else
        none
    | _ => none
  | .streamEnd =>
    match watcher.phase with
    | .subscribing | .streaming _ =>
      if view.taskWatchNeedsRecovery history.taskID generation then
        some (view, ⟨.recovering, none⟩)
      else
        some (view, .idle)
    | _ => none
  | .probe =>
    match watcher.phase with
    | .subscribing | .streaming _ =>
      if watcher.probe = none ∧ view.isCancelling = false then
        match view.taskWatchSnapshotGeneration? history.taskID generation with
        | some expected =>
          some (view, { watcher with
            probe := some ⟨expected, view.taskWatchActivityGeneration, now⟩ })
        | none => none
      else
        none
    | _ => none
  | .probeResponse index =>
    match watcher.probe with
    | some probe =>
      if probe.requested ≤ index ∧ index ≤ now then
        if view.isCurrentTaskWatchReconciliation history.taskID generation
            probe.snapshotGeneration probe.activityGeneration then
          match view.applyReconciledTask (history.version index) history.taskID generation
            probe.snapshotGeneration with
          | some (_, view) => some (view, { watcher with probe := none })
          | none => some (view, { watcher with probe := none })
        else
          some (view, { watcher with probe := none })
      else
        none
    | none => none

namespace TaskViewState

variable (s : TaskViewState) (view : TaskViewModel)

def withWatcher (generation : Nat) (watcher : Watcher) : TaskViewState :=
  { s with view := view, watchers := update s.watchers generation watcher }

theorem withWatcher_self (generation : Nat) (watcher : Watcher) :
    (s.withWatcher view generation watcher).watchers generation = watcher :=
  Function.update_self _ _ _

theorem withWatcher_of_ne {generation other : Nat} (watcher : Watcher) (h : other ≠ generation) :
    (s.withWatcher view generation watcher).watchers other = s.watchers other :=
  Function.update_of_ne h _ _

def startWatching (reconcileBeforeSubscribe : Bool) : TaskViewState :=
  let view := s.view.stopWatching
  if view.currentTask.shouldKeepWatchingBilibiliTask then
    s.withWatcher { view with isWatching := true } view.taskWatchGeneration
      ⟨if reconcileBeforeSubscribe then .recovering else .subscribing, none⟩
  else
    { s with view := view }

def step (history : TaskHistory) (s : TaskViewState) : TaskViewEvent → Option TaskViewState
  | .serverUpdate => some { s with now := s.now + 1 }
  | .start reconcileBeforeSubscribe => some (s.startWatching reconcileBeforeSubscribe)
  | .watch generation event =>
    (Watcher.step history s.now s.view generation (s.watchers generation) event).map
      fun moved => s.withWatcher moved.1 generation moved.2
  | .probeFailure generation =>
    match (s.watchers generation).probe with
    | some probe =>
      if s.view.isCurrentTaskWatchReconciliation history.taskID generation
          probe.snapshotGeneration probe.activityGeneration then
        some (s.startWatching true)
      else
        some (s.withWatcher s.view generation
          { s.watchers generation with probe := none })
    | none => none
  | .cancel =>
    if s.view.canCancel then
      some { s with
        view := s.view.beginCancel
        cancels := ⟨s.view.beginCancel.taskSnapshotGeneration, s.now⟩ :: s.cancels }
    else
      none
  | .cancelResponse call index =>
    if call ∈ s.cancels ∧ call.requested ≤ index ∧ index ≤ s.now then
      some { s with
        view := s.view.finishCancel (history.version index) history.taskID
          call.cancellationGeneration
        cancels := s.cancels.erase call }
    else
      none
  | .cancelFailure call =>
    if call ∈ s.cancels then
      some { s with
        view := s.view.failCancel history.taskID
        cancels := s.cancels.erase call }
    else
      none

end TaskViewState

end NetPlayer.Client
