import NetPlayer.Client.TaskFlags

/-!
# What backs the activity flags

Each raised flag of the task view model is backed by an operation in flight: one of the current
sequence for a submission and a cancellation, the owner of the saved task, the watcher of the
current generation. Every action keeps this, on the conditions under which it is taken.
-/

namespace NetPlayer.Client

open BilibiliTaskViewModel Function

namespace TaskSystem

inductive Flag
  | submitting
  | resolving
  | cancelling
  | restoring
  | watching
deriving DecidableEq

end TaskSystem

open TaskSystem (Flag)

def BilibiliTaskViewModel.flag {Endpoint : Type} (m : BilibiliTaskViewModel Endpoint) :
    Flag → Bool
  | .submitting => m.isSubmitting
  | .resolving => m.isResolving
  | .cancelling => m.isCancelling
  | .restoring => m.isRestoringTask
  | .watching => m.isWatching

def TaskSystem.InvalidatesIdle {Endpoint : Type} [DecidableEq Endpoint]
    (m : BilibiliTaskViewModel Endpoint) : Prop :=
  m.belongsToSavedTask = true → m.isIdle = true

namespace Operation

variable {Endpoint : Type}

def starts : Operation Endpoint → Option Nat
  | .submission sequence _ _ => some sequence
  | .reResolution sequence => some sequence
  | .creation sequence _ => some sequence
  | .restore _ _ sequence .serverInfo => some sequence
  | .restore _ _ sequence .task => some sequence
  | _ => none

def Admitted (m : BilibiliTaskViewModel Endpoint) : Operation Endpoint → Prop
  | .submission _ submittedMode _ =>
    m.currentTask = none ∧ submittedMode = m.submissionMode ∧ m.resolutionSession = none
  | .reResolution _ =>
    m.currentTask = none ∧ (m.resolutionSession ≠ none → m.isResolving = true)
  | .creation _ _ =>
    m.currentTask = none ∧ (m.resolutionSession ≠ none → m.isSubmitting = true)
  | _ => m.currentTask = none ∧ m.resolutionSession = none

def backs (m : BilibiliTaskViewModel Endpoint) : Flag → Operation Endpoint → Prop
  | .submitting, .submission sequence _ _ => sequence = m.operationSequence
  | .submitting, .creation sequence _ => sequence = m.operationSequence
  | .resolving, .submission sequence _ _ => sequence = m.operationSequence
  | .resolving, .reResolution sequence => sequence = m.operationSequence
  | .cancelling, .cancellation sequence targetTaskID _ =>
    sequence = m.operationSequence ∧ m.currentTaskID = some targetTaskID
  | .restoring, .restore _ generation _ _ =>
    m.savedRestoringOperationOwner = some (.taskRestore generation)
  | .restoring, .validation _ validationGeneration _ _ =>
    m.savedRestoringOperationOwner = some (.playbackValidation validationGeneration)
  | .watching, .watcher taskID sequence generation =>
    sequence = m.operationSequence ∧ generation = m.taskWatchGeneration ∧
      m.currentTaskID = some taskID
  | _, _ => False

end Operation

namespace TaskSystem

variable {Endpoint : Type} {s t : TaskSystem Endpoint}

def Backed (s : TaskSystem Endpoint) (flag : Flag) : Prop :=
  ∃ id operation, s.pending id = some operation ∧ operation.backs s.model flag

/-- At most one operation of the current sequence will display a task, and none is displayed
before it does. A submission whose mode was changed finds nothing to discard. -/
structure Starters (s : TaskSystem Endpoint) : Prop where
  bounded : ∀ id operation sequence, s.pending id = some operation →
    operation.starts = some sequence → sequence ≤ s.model.operationSequence
  unique : ∀ id other operation operation', s.pending id = some operation →
    s.pending other = some operation' → operation.starts = some s.model.operationSequence →
    operation'.starts = some s.model.operationSequence → id = other
  admitted : ∀ id operation, s.pending id = some operation →
    operation.starts = some s.model.operationSequence → operation.Admitted s.model
  stale : ∀ id sequence submittedMode endpoint,
    s.pending id = some (.submission sequence submittedMode endpoint) →
    submittedMode ≠ s.model.submissionMode → sequence + 1 = s.model.operationSequence →
    s.model.currentTask = none ∧ s.model.resolutionSession = none ∧
      ∀ other operation, s.pending other = some operation →
        operation.starts ≠ some s.model.operationSequence

structure Sound (s : TaskSystem Endpoint) : Prop where
  fresh : ∀ id, s.next ≤ id → s.pending id = none
  starters : Starters s
  backed : ∀ flag, s.model.flag flag = true → Backed s flag

def Grows (s t : TaskSystem Endpoint) : Prop :=
  ∀ id operation, t.pending id = some operation → operation.starts ≠ none →
    s.pending id = some operation

/-- Nothing but `id` ends. -/
def Remains (id : Nat) (s t : TaskSystem Endpoint) : Prop :=
  ∀ other operation, other ≠ id → s.pending other = some operation →
    t.pending other = some operation

/-- Nothing but `id` starts. -/
def GrowsBeside (id : Nat) (s t : TaskSystem Endpoint) : Prop :=
  ∀ other next, other ≠ id → t.pending other = some next → next.starts ≠ none →
    s.pending other = some next

/-- What `id` starts has the current sequence. -/
def Starting (id : Nat) (t : TaskSystem Endpoint) : Prop :=
  ∀ next, t.pending id = some next → next.starts ≠ none →
    next.starts = some t.model.operationSequence ∧ next.Admitted t.model

/-- Nothing but `id` is of the current sequence. -/
def Alone (id : Nat) (s : TaskSystem Endpoint) : Prop :=
  ∀ other next, other ≠ id → s.pending other = some next →
    next.starts ≠ some s.model.operationSequence

def ModeKept (id : Nat) (s : TaskSystem Endpoint) : Prop :=
  ∀ other q submittedMode endpoint, other ≠ id →
    s.pending other = some (.submission q submittedMode endpoint) →
    submittedMode ≠ s.model.submissionMode → q + 1 ≠ s.model.operationSequence

structure SameStart (m n : BilibiliTaskViewModel Endpoint) : Prop where
  sequence : n.operationSequence = m.operationSequence
  mode : n.submissionMode = m.submissionMode
  task : m.currentTask = none → n.currentTask = none
  session : n.resolutionSession = none ∨ n.resolutionSession = m.resolutionSession ∧
    n.isSubmitting = m.isSubmitting ∧ n.isResolving = m.isResolving

theorem Grows.refl (s : TaskSystem Endpoint) : Grows s s := fun _ _ h _ => h

theorem Grows.trans {u : TaskSystem Endpoint} (first : Grows s t) (second : Grows t u) :
    Grows s u :=
  fun id operation h hstarts => first id operation (second id operation h hstarts) hstarts

variable {id : Nat}

theorem Grows.update {entry : Option (Operation Endpoint)}
    (hp : t.pending = Function.update s.pending id entry)
    (hentry : ∀ operation, entry = some operation → operation.starts = none) : Grows s t := by
  intro other operation h hstarts
  rw [hp] at h
  by_cases hid : other = id
  · subst hid
    rw [update_self] at h
    exact absurd (hentry operation h) hstarts
  · rwa [update_of_ne hid] at h

variable {m n : BilibiliTaskViewModel Endpoint} {operation : Operation Endpoint}

theorem admitted_frame (h : operation.Admitted m) (same : SameStart m n) :
    operation.Admitted n := by
  obtain ⟨_, hmode, ht, hs⟩ := same
  unfold Operation.Admitted at h ⊢
  grind

theorem Starters.frame (h : Starters s) (grows : Grows s t) (same : SameStart s.model t.model) :
    Starters t := by
  have hstarts : ∀ {operation : Operation Endpoint} {sequence : Nat},
      operation.starts = some sequence → operation.starts ≠ none := by
    intro operation sequence hop
    simp [hop]
  constructor
  · intro id operation sequence hop hseq
    rw [same.sequence]
    exact h.bounded id operation sequence (grows id operation hop (hstarts hseq)) hseq
  · intro id other operation operation' hop hop' hseq hseq'
    have hold := grows id operation hop (hstarts hseq)
    have hold' := grows other operation' hop' (hstarts hseq')
    rw [same.sequence] at hseq hseq'
    exact h.unique id other operation operation' hold hold' hseq hseq'
  · intro id operation hop hseq
    have hold := grows id operation hop (hstarts hseq)
    rw [same.sequence] at hseq
    exact admitted_frame (h.admitted id operation hold hseq) same
  · intro id sequence submittedMode endpoint hop hmode hseq
    have hold := grows id _ hop (by simp [Operation.starts])
    rw [same.mode] at hmode
    rw [same.sequence] at hseq ⊢
    obtain ⟨ht, hs, hnone⟩ := h.stale id sequence submittedMode endpoint hold hmode hseq
    refine ⟨same.task ht, ?_, ?_⟩
    · rcases same.session with hn | ⟨hn, _⟩
      · exact hn
      · rw [hn, hs]
    · intro other operation ho hcurr
      exact hnone other operation (grows other operation ho (hstarts hcurr)) hcurr

/-- Nothing of the current sequence is in flight but `id`, which is answered or begins. -/
theorem Starters.settle (h : Starters s)
    (alone : Alone id s)
    (current : ModeKept id s)
    (grows : GrowsBeside id s t)
    (hid : Starting id t)
    (sequence : t.model.operationSequence = s.model.operationSequence)
    (mode : t.model.submissionMode = s.model.submissionMode) : Starters t := by
  have only : ∀ other next, t.pending other = some next →
      next.starts = some t.model.operationSequence → other = id := by
    intro other next hn hseq
    by_contra hne
    have hold := grows other next hne hn (by simp [hseq])
    rw [sequence] at hseq
    exact alone other next hne hold hseq
  constructor
  · intro other next q hn hq
    by_cases hne : other = id
    · subst hne
      obtain ⟨hseq, _⟩ := hid next hn (by simp [hq])
      rw [hq] at hseq
      exact Nat.le_of_eq (Option.some.inj hseq)
    · rw [sequence]
      exact h.bounded other next q (grows other next hne hn (by simp [hq])) hq
  · intro first second next next' hfst hsnd hseq hseq'
    rw [only first next hfst hseq, only second next' hsnd hseq']
  · intro other next hn hseq
    have ho := only other next hn hseq
    subst ho
    exact (hid next hn (by simp [hseq])).2
  · intro other q submittedMode endpoint hn hmode hq
    exfalso
    by_cases hne : other = id
    · subst hne
      obtain ⟨hseq, _⟩ := hid _ hn (by simp [Operation.starts])
      simp only [Operation.starts, Option.some.injEq] at hseq
      omega
    · have hold := grows other _ hne hn (by simp [Operation.starts])
      rw [mode] at hmode
      rw [sequence] at hq
      exact current other q submittedMode endpoint hne hold hmode hq

theorem Starters.alone (h : Starters s) (hop : s.pending id = some operation)
    (hcurr : operation.starts = some s.model.operationSequence) : Alone id s :=
  fun other next hne hn hseq => hne (h.unique other id next operation hn hop hseq hcurr)

theorem Starters.answer (h : Starters s)
    (hop : s.pending id = some operation)
    (hcurr : operation.starts = some s.model.operationSequence)
    (grows : GrowsBeside id s t)
    (hid : Starting id t)
    (sequence : t.model.operationSequence = s.model.operationSequence)
    (mode : t.model.submissionMode = s.model.submissionMode) : Starters t := by
  refine h.settle (h.alone hop hcurr) ?_ grows hid sequence mode
  intro other q submittedMode endpoint _ hn hmode hq
  exact (h.stale other q submittedMode endpoint hn hmode hq).2.2 id operation hop hcurr

theorem Starters.advance (h : Starters s) (id : Nat)
    (grows : GrowsBeside id s t)
    (hid : ∀ next, t.pending id = some next → next.starts ≠ none →
      s.pending id = some next ∨ next.starts = some t.model.operationSequence ∧
        next.Admitted t.model ∧ t.model.submissionMode = s.model.submissionMode)
    (sequence : t.model.operationSequence = s.model.operationSequence + 1)
    (mode : t.model.submissionMode = s.model.submissionMode ∨
      (∀ next, t.pending id = some next → next.starts ≠ none → s.pending id = some next) ∧
        t.model.resolutionSession = none ∧ t.model.currentTask = s.model.currentTask) :
    Starters t := by
  have alone : ∀ other next, t.pending other = some next →
      next.starts = some t.model.operationSequence →
      other = id ∧ next.Admitted t.model ∧
        t.model.submissionMode = s.model.submissionMode := by
    intro other next hn hseq
    have hold : s.pending other ≠ some next := by
      intro hold
      rw [sequence] at hseq
      have := h.bounded other next _ hold hseq
      omega
    by_cases hne : other = id
    · subst hne
      rcases hid next hn (by simp [hseq]) with hs | hnew
      · exact absurd hs hold
      · exact ⟨rfl, hnew.2⟩
    · exact absurd (grows other next hne hn (by simp [hseq])) hold
  have split : ∀ other next, t.pending other = some next → next.starts ≠ none →
      s.pending other = some next ∨ next.starts = some t.model.operationSequence := by
    intro other next hn hstarts
    by_cases hne : other = id
    · subst hne
      exact (hid next hn hstarts).imp_right And.left
    · exact .inl (grows other next hne hn hstarts)
  constructor
  · intro other next q hn hq
    rcases split other next hn (by simp [hq]) with hold | hseq
    · have := h.bounded other next q hold hq
      omega
    · rw [hq] at hseq
      exact Nat.le_of_eq (Option.some.inj hseq)
  · intro first second next next' hfst hsnd hseq hseq'
    rw [(alone first next hfst hseq).1, (alone second next' hsnd hseq').1]
  · intro other next hn hseq
    exact (alone other next hn hseq).2.1
  · intro other q submittedMode endpoint hn hmode hq
    have hold : s.pending other = some (.submission q submittedMode endpoint) := by
      rcases split other _ hn (by simp [Operation.starts]) with hold | hseq
      · exact hold
      · simp only [Operation.starts, Option.some.injEq] at hseq
        omega
    -- The submission was current, so the mode is what moved the sequence.
    have hcurr : q = s.model.operationSequence := by omega
    subst hcurr
    have hadm := h.admitted other _ hold (by simp [Operation.starts])
    obtain ⟨ht, hold', _⟩ := hadm
    rcases mode with hs | ⟨_, hsess, hk⟩
    · exact absurd (hold'.trans hs.symm) hmode
    · refine ⟨hk.trans ht, hsess, ?_⟩
      intro last next hl hseq
      exact absurd ((alone last next hl hseq).2.2.trans hold'.symm) (Ne.symm hmode)

variable {flag : Flag}

theorem Backed.frame (h : Backed s flag) (id : Nat) (remains : Remains id s t)
    (hid : ∀ operation, s.pending id = some operation →
      operation.backs s.model flag → t.pending id = some operation)
    (carries : ∀ operation : Operation Endpoint, operation.backs s.model flag →
      operation.backs t.model flag) : Backed t flag := by
  obtain ⟨other, operation, hop, hbk⟩ := h
  refine ⟨other, operation, ?_, carries operation hbk⟩
  by_cases hne : other = id
  · subst hne
    exact hid operation hop hbk
  · exact remains other operation hne hop

/-- Operations may be added, but none that starts; `id` alone may end. -/
structure Moves (id : Nat) (s t : TaskSystem Endpoint) : Prop where
  fresh : ∀ other, t.next ≤ other → t.pending other = none
  grows : Grows s t
  remains : Remains id s t

/-- The same, and nothing ends. -/
structure Extends (s t : TaskSystem Endpoint) : Prop where
  fresh : ∀ id, t.next ≤ id → t.pending id = none
  grows : Grows s t
  remains : ∀ id operation, s.pending id = some operation → t.pending id = some operation

theorem Extends.of_same (fresh : ∀ id, s.next ≤ id → s.pending id = none)
    (pending : t.pending = s.pending) (next : t.next = s.next) : Extends s t where
  fresh := by rwa [pending, next]
  grows := by
    intro id operation h _
    rwa [pending] at h
  remains := by
    intro id operation h
    rwa [pending]

theorem Extends.trans {u : TaskSystem Endpoint} (first : Extends s t) (second : Extends t u) :
    Extends s u where
  fresh := second.fresh
  grows := first.grows.trans second.grows
  remains := fun id operation h => second.remains id operation (first.remains id operation h)

theorem Extends.moves (h : Extends s t) (id : Nat) : Moves id s t :=
  ⟨h.fresh, h.grows, fun other operation _ hop => h.remains other operation hop⟩

theorem Extends.spawn (fresh : ∀ id, s.next ≤ id → s.pending id = none)
    (operation : Operation Endpoint) (hstarts : operation.starts = none) :
    Extends s (s.spawn operation) where
  fresh := by
    intro id hid
    have hid : s.next + 1 ≤ id := hid
    have hne : id ≠ s.next := by omega
    calc (s.spawn operation).pending id
        = s.pending id := update_of_ne hne _ _
      _ = none := fresh id (by omega)
  grows := by
    refine @Grows.update _ _ _ s.next (some operation) rfl ?_
    rintro next ⟨⟩
    exact hstarts
  remains := by
    intro id next h
    have hne : id ≠ s.next := by
      rintro rfl
      rw [fresh s.next (Nat.le_refl _)] at h
      cases h
    exact (update_of_ne hne _ _).trans h

theorem spawn_pending_next (operation : Operation Endpoint) :
    (s.spawn operation).pending s.next = some operation :=
  update_self ..

@[simp] theorem complete_pending (id : Nat) : (s.complete id).pending id = none :=
  update_self ..

@[simp] theorem setOperation_pending (id : Nat) (operation : Operation Endpoint) :
    (s.setOperation id operation).pending id = some operation :=
  update_self ..

theorem Extends.complete (h : Extends s t) (id : Nat) : Moves id s (t.complete id) where
  fresh := by
    intro other ho
    have hold := h.fresh other ho
    by_cases hne : other = id
    · rw [hne]
      exact complete_pending id
    · exact (update_of_ne hne _ _).trans hold
  grows := h.grows.trans (Grows.update rfl (by simp))
  remains := by
    intro other operation hne hop
    exact (update_of_ne hne _ _).trans (h.remains other operation hop)

theorem Extends.setOperation (h : Extends s t) (hid : id < t.next)
    (hstarts : operation.starts = none) : Moves id s (t.setOperation id operation) where
  fresh := by
    intro other ho
    have hold := h.fresh other ho
    have ho : t.next ≤ other := ho
    have hne : other ≠ id := by omega
    exact (update_of_ne hne _ _).trans hold
  grows := by
    refine h.grows.trans (Grows.update rfl ?_)
    rintro next ⟨⟩
    exact hstarts
  remains := by
    intro other next hne hop
    exact (update_of_ne hne _ _).trans (h.remains other next hop)

structure Carries (flag : Flag) (m n : BilibiliTaskViewModel Endpoint) : Prop where
  raised : n.flag flag = true → m.flag flag = true
  backs : ∀ operation : Operation Endpoint, n.flag flag = true →
    operation.backs m flag → operation.backs n flag

/-- What `applyTaskUpdate` does, with the validation that it may schedule. -/
structure Updated (task : CacheTask) (m n : BilibiliTaskViewModel Endpoint) : Prop where
  sequence : n.operationSequence = m.operationSequence
  mode : n.submissionMode = m.submissionMode
  session : n.resolutionSession = m.resolutionSession
  submitting : n.isSubmitting = m.isSubmitting
  resolving : n.isResolving = m.isResolving
  shows : n.currentTask = some task
  cancelling : n.isCancelling = true → m.isCancelling = true
  watching : n.isWatching = true → m.isWatching = true ∧
    n.taskWatchGeneration = m.taskWatchGeneration
  restoring : n.isRestoringTask = true → m.isRestoringTask = true ∧
    n.savedRestoringOperationOwner = m.savedRestoringOperationOwner
  stops : task.shouldKeepWatchingBilibiliTask = false → n.isWatching = false

theorem updated_model (m : BilibiliTaskViewModel Endpoint) (task : CacheTask) :
    Updated task m (m.applyTaskUpdate task) := by
  unfold BilibiliTaskViewModel.applyTaskUpdate
    invalidateSavedPlaybackValidation
    finishSavedRestoringOperation BilibiliTaskViewModel.stopWatching
  constructor <;> dsimp only <;> split_ifs <;> simp_all

variable {task : CacheTask}

theorem Updated.invalidated (h : Updated task m n) :
    Updated task m n.invalidateSavedPlaybackValidation := by
  unfold invalidateSavedPlaybackValidation
    finishSavedRestoringOperation
  obtain ⟨_, _, _, _, _, _, _, _, _, _⟩ := h
  constructor <;> dsimp only <;> split_ifs <;> simp_all

theorem applyTaskUpdate_spec [DecidableEq Endpoint]
    (fresh : ∀ id, s.next ≤ id → s.pending id = none)
    (task : CacheTask) (changed : Bool) :
    Extends s (s.applyTaskUpdate task changed) ∧
      Updated task s.model (s.applyTaskUpdate task changed).model := by
  have hs : Extends s (s.setModel (s.model.applyTaskUpdate task)) :=
    Extends.of_same fresh rfl rfl
  unfold applyTaskUpdate scheduleSavedPlaybackValidationIfNeeded
  split
  · exact ⟨hs, updated_model s.model task⟩
  split
  · refine ⟨?_, (updated_model s.model task).invalidated⟩
    have hset := Extends.of_same (s := s)
      (t := (s.setModel (s.model.applyTaskUpdate task)).setModel
        (s.model.applyTaskUpdate task).invalidateSavedPlaybackValidation) fresh rfl rfl
    exact hset.trans (Extends.spawn hset.fresh _ rfl)
  · exact ⟨hs, updated_model s.model task⟩

/-- `startWatching` moves nothing but the watch, and a raised flag has its watcher. -/
structure Watched (s t : TaskSystem Endpoint) : Prop where
  same : ∃ generation isWatching, t.model = { s.model with
    taskWatchGeneration := generation
    isWatching := isWatching }
  watching : t.model.isWatching = true → Backed t .watching

theorem startWatching_spec (fresh : ∀ id, s.next ≤ id → s.pending id = none)
    (taskID : String) (sequence : Nat) (hseq : sequence = s.model.operationSequence) :
    Extends s (s.startWatching taskID sequence) ∧ Watched s (s.startWatching taskID sequence) := by
  unfold startWatching
  dsimp only
  split
  next hkeep =>
    have hset := Extends.of_same (s := s)
      (t := s.setModel { s.model.stopWatching with isWatching := true }) fresh rfl rfl
    refine ⟨hset.trans (Extends.spawn hset.fresh _ rfl), ⟨⟨_, _, rfl⟩, fun _ => ?_⟩⟩
    refine ⟨s.next, _, spawn_pending_next _, ?_⟩
    exact ⟨hseq, rfl, hkeep.1⟩
  next => exact ⟨Extends.of_same fresh rfl rfl, ⟨⟨_, _, rfl⟩, fun h => nomatch h⟩⟩

theorem finishSavedRestoringOperation_eq (m : BilibiliTaskViewModel Endpoint)
    (owner : SavedRestoringOperationOwner) :
    m.finishSavedRestoringOperation owner = { m with
      savedRestoringOperationOwner :=
        if m.savedRestoringOperationOwner = some owner then none
        else m.savedRestoringOperationOwner
      isRestoringTask :=
        if m.savedRestoringOperationOwner = some owner then false else m.isRestoringTask } := by
  unfold finishSavedRestoringOperation
  split <;> rfl

theorem finishSavedRestoring_eq (m : BilibiliTaskViewModel Endpoint) :
    m.finishSavedRestoring = { m with
      savedRestoringOperationOwner := none
      isRestoringTask :=
        if m.savedRestoringOperationOwner = none then m.isRestoringTask else false } := by
  unfold finishSavedRestoring
  split
  next owner ho => simp [finishSavedRestoringOperation_eq, ho]
  next hn =>
    cases m
    simp_all

theorem invalidateSavedPlaybackValidation_eq (m : BilibiliTaskViewModel Endpoint) :
    m.invalidateSavedPlaybackValidation = { m with
      savedPlaybackValidationGeneration := m.savedPlaybackValidationGeneration + 1
      savedRestoringOperationOwner :=
        if m.savedRestoringOperationOwner =
            some (.playbackValidation m.savedPlaybackValidationGeneration) then none
        else m.savedRestoringOperationOwner
      isRestoringTask :=
        if m.savedRestoringOperationOwner =
            some (.playbackValidation m.savedPlaybackValidationGeneration) then false
        else m.isRestoringTask } :=
  finishSavedRestoringOperation_eq _ _

theorem Sound.carry (h : Sound s) (moves : Moves id s t)
    (carries : Carries flag s.model t.model)
    (hid : ∀ operation, t.model.flag flag = true → s.pending id = some operation →
      operation.backs s.model flag → t.pending id = some operation) :
    t.model.flag flag = true → Backed t flag := by
  intro hfl
  refine (h.backed flag (carries.raised hfl)).frame id moves.remains ?_ ?_
  · intro operation hop hbk
    exact hid operation hfl hop hbk
  · intro operation hbk
    exact carries.backs operation hfl hbk

theorem Sound.carryAll (h : Sound s) (step : Extends s t) (carries : Carries flag s.model t.model) :
    t.model.flag flag = true → Backed t flag :=
  h.carry (step.moves 0) carries fun operation _ hop _ => step.remains 0 operation hop

theorem Carries.restoring (h : n.isRestoringTask = true → m.isRestoringTask = true ∧
      n.savedRestoringOperationOwner = m.savedRestoringOperationOwner) :
    Carries .restoring m n where
  raised := fun hfl => (h hfl).1
  backs := by
    intro operation hfl hbk
    have ho := (h hfl).2
    cases operation <;> simp_all [Operation.backs]

theorem Carries.lowered (h : n.flag flag = false) : Carries flag m n where
  raised := fun hfl => by simp [h] at hfl
  backs := fun _ hfl => by simp [h] at hfl

theorem Updated.not_cancelling (h : Updated task m n) (low : m.isCancelling = false) :
    n.isCancelling = false := by
  by_contra hfl
  have hraised := h.cancelling (by simpa using hfl)
  simp [low] at hraised

theorem Updated.not_watching (h : Updated task m n) (low : m.isWatching = false) :
    n.isWatching = false := by
  by_contra hfl
  have hraised := (h.watching (by simpa using hfl)).1
  simp [low] at hraised

theorem Updated.carries (h : Updated task m n)
    (hs : ∀ taskID, m.currentTaskID = some taskID → taskID = task.id) (flag : Flag) :
    Carries flag m n := by
  have hshows : n.currentTaskID = some task.id := by
    simp [currentTaskID, h.shows]
  cases flag with
  | submitting =>
    refine ⟨fun hfl => h.submitting.symm.trans hfl, fun operation _ hbk => ?_⟩
    cases operation <;> simp_all [Operation.backs, h.sequence]
  | resolving =>
    refine ⟨fun hfl => h.resolving.symm.trans hfl, fun operation _ hbk => ?_⟩
    cases operation <;> simp_all [Operation.backs, h.sequence]
  | cancelling =>
    refine ⟨h.cancelling, fun operation _ hbk => ?_⟩
    cases operation <;> simp_all [Operation.backs, h.sequence]
  | restoring => exact Carries.restoring h.restoring
  | watching =>
    refine ⟨fun hfl => (h.watching hfl).1, fun operation hfl hbk => ?_⟩
    have hgen := (h.watching hfl).2
    cases operation <;> simp_all [Operation.backs, h.sequence]

theorem Sound.extend (h : Sound s) (step : Extends s t) (same : SameStart s.model t.model)
    (carries : ∀ flag, Carries flag s.model t.model) : Sound t :=
  ⟨step.fresh, h.starters.frame step.grows same, fun flag => h.carryAll step (carries flag)⟩

theorem Sound.finish (h : Sound s) (moves : Moves id s t)
    (same : SameStart s.model t.model) (carries : ∀ flag, Carries flag s.model t.model)
    (hid : ∀ flag operation, t.model.flag flag = true → s.pending id = some operation →
      operation.backs s.model flag → t.pending id = some operation) : Sound t :=
  ⟨moves.fresh, h.starters.frame moves.grows same,
    fun flag => h.carry moves (carries flag) (hid flag)⟩

theorem SameStart.refl (m : BilibiliTaskViewModel Endpoint) : SameStart m m :=
  ⟨rfl, rfl, id, .inr ⟨rfl, rfl, rfl⟩⟩

theorem Carries.refl (flag : Flag) (m : BilibiliTaskViewModel Endpoint) : Carries flag m m :=
  ⟨id, fun _ _ h => h⟩

theorem Sound.complete (h : Sound s)
    (hid : ∀ flag operation, s.model.flag flag = true → s.pending id = some operation →
      ¬ operation.backs s.model flag) : Sound (s.complete id) :=
  h.finish ((Extends.of_same h.fresh rfl rfl).complete id) (SameStart.refl _)
    (fun flag => Carries.refl flag _)
    fun flag operation hfl hop hbk => absurd hbk (hid flag operation hfl hop)

theorem Sound.undisplayed (h : Sound s) (ht : s.model.currentTask = none) :
    s.model.isCancelling = false ∧ s.model.isWatching = false := by
  have hn : s.model.currentTaskID = none := by
    simp [currentTaskID, ht]
  constructor
  · by_contra hfl
    obtain ⟨id, operation, _, hbk⟩ := h.backed .cancelling
      (by simpa [BilibiliTaskViewModel.flag] using hfl)
    cases operation <;> simp_all [Operation.backs]
  · by_contra hfl
    obtain ⟨id, operation, _, hbk⟩ := h.backed .watching
      (by simpa [BilibiliTaskViewModel.flag] using hfl)
    cases operation <;> simp_all [Operation.backs]

theorem Starters.idle (h : Starters s) (hs : s.model.resolutionSession ≠ none)
    (hsubmitting : s.model.isSubmitting = false) (hreslv : s.model.isResolving = false) :
    ∀ id operation, s.pending id = some operation →
      operation.starts ≠ some s.model.operationSequence := by
  intro id operation hop hcurr
  have hadm := h.admitted id operation hop hcurr
  cases operation <;> simp_all [Operation.Admitted, Operation.starts]

structure Restarted (m n : BilibiliTaskViewModel Endpoint) : Prop where
  mode : n.submissionMode = m.submissionMode
  cancelling : n.isCancelling = true → m.isCancelling = true
  watching : n.isWatching = false
  restoring : n.isRestoringTask = true → m.isRestoringTask = true ∧
    n.savedRestoringOperationOwner = m.savedRestoringOperationOwner

structure Creating (m n : BilibiliTaskViewModel Endpoint) : Prop extends Restarted m n where
  sequence : n.operationSequence = m.operationSequence
  task : n.currentTask = m.currentTask
  submitting : n.isSubmitting = true
  resolving : n.isResolving = false

theorem createTaskV2_spec (s : TaskSystem Endpoint) (id : Nat) (endpoint : Endpoint) :
    ∃ n, Creating s.model n ∧ s.createTaskV2 id endpoint s.model.operationSequence =
      (s.setModel n).setOperation id (.creation s.model.operationSequence endpoint) := by
  unfold createTaskV2
  rw [if_neg (by simp)]
  refine ⟨_, ?_, rfl⟩
  rw [invalidateSavedPlaybackValidation_eq]
  refine ⟨⟨rfl, fun hfl => hfl, rfl, ?_⟩, rfl, rfl, rfl, rfl⟩
  simp only [BilibiliTaskViewModel.stopWatching]
  split_ifs <;> simp_all

variable {endpoint : Endpoint}

theorem Sound.create (h : Sound s) (ht : s.model.currentTask = none)
    (alone : Alone id s)
    (current : ModeKept id s)
    (owns : ∀ operation, s.pending id = some operation →
      ¬ operation.backs s.model .restoring)
    (creating : Creating s.model n) (next : t.next = s.next ∨ t.next = s.next + 1)
    (hnext : id < t.next) (model : t.model = n)
    (pending : t.pending = Function.update s.pending id
      (some (.creation s.model.operationSequence endpoint))) : Sound t := by
  subst model
  have hn : t.pending id = some (.creation s.model.operationSequence endpoint) := by
    rw [pending, update_self]
  have hold : ∀ other, other ≠ id → t.pending other = s.pending other := by
    intro other hne
    rw [pending, update_of_ne hne]
  refine ⟨?_, ?_, ?_⟩
  · intro other ho
    rw [hold other (by omega)]
    exact h.fresh other (by omega)
  · refine h.starters.settle alone current ?_ ?_ creating.sequence creating.mode
    · intro other next hne hop _
      rwa [hold other hne] at hop
    · intro next hop _
      rw [hn, Option.some.injEq] at hop
      subst hop
      exact ⟨by rw [creating.sequence]; rfl, creating.task.trans ht,
        fun _ => creating.submitting⟩
  · intro flag hfl
    cases flag with
    | submitting => exact ⟨id, _, hn, creating.sequence.symm⟩
    | resolving => exact absurd hfl (by simp [BilibiliTaskViewModel.flag, creating.resolving])
    | cancelling =>
      have hlow := (h.undisplayed ht).1
      exact absurd (creating.cancelling hfl) (by simp [hlow])
    | restoring =>
      refine (h.backed .restoring (creating.restoring hfl).1).frame id ?_ ?_ ?_
      · intro other operation hne hop
        rwa [hold other hne]
      · intro operation hop hbk
        exact absurd hbk (owns operation hop)
      · intro operation hbk
        exact (Carries.restoring creating.restoring).backs operation hfl hbk
    | watching => exact absurd hfl (by simp [BilibiliTaskViewModel.flag, creating.watching])

theorem Sound.begin (h : Sound s) (mode : n.submissionMode = s.model.submissionMode)
    (sequence : n.operationSequence = s.model.operationSequence + 1)
    (hstarts : operation.starts = some n.operationSequence) (hadm : operation.Admitted n)
    (backed : ∀ flag, n.flag flag = true → operation.backs n flag ∨ Carries flag s.model n) :
    Sound ((s.setModel n).spawn operation) := by
  have hold : ∀ other, other ≠ s.next →
      ((s.setModel n).spawn operation).pending other = s.pending other :=
    fun other hne => update_of_ne hne _ _
  have hn : ((s.setModel n).spawn operation).pending s.next = some operation :=
    update_self ..
  refine ⟨?_, ?_, ?_⟩
  · intro other ho
    have ho : s.next + 1 ≤ other := ho
    rw [hold other (by omega)]
    exact h.fresh other (by omega)
  · refine h.starters.advance s.next ?_ ?_ sequence (.inl mode)
    · intro other next hne hop _
      rwa [hold other hne] at hop
    · intro next hop _
      rw [hn, Option.some.injEq] at hop
      subst hop
      exact .inr ⟨hstarts, hadm, mode⟩
  · intro flag hfl
    rcases backed flag hfl with hbk | carries
    · exact ⟨s.next, operation, hn, hbk⟩
    refine (h.backed flag (carries.raised hfl)).frame s.next ?_ ?_ ?_
    · intro other next hne hop
      rwa [hold other hne]
    · intro next hop _
      rw [h.fresh s.next (Nat.le_refl _)] at hop
      cases hop
    · exact fun next => carries.backs next hfl

theorem Sound.resolve (h : Sound s) (hcancg : s.model.isCancelling = false)
    (restarted : Restarted s.model n)
    (sequence : n.operationSequence = s.model.operationSequence + 1)
    (hstarts : operation.starts = some n.operationSequence) (hadm : operation.Admitted n)
    (submitting : n.isSubmitting = true → operation.backs n .submitting)
    (resolving : operation.backs n .resolving) : Sound ((s.setModel n).spawn operation) := by
  refine h.begin restarted.mode sequence hstarts hadm fun flag hfl => ?_
  cases flag with
  | submitting => exact .inl (submitting hfl)
  | resolving => exact .inl resolving
  | cancelling => exact absurd (restarted.cancelling hfl) (by simp [hcancg])
  | restoring => exact .inr (Carries.restoring restarted.restoring)
  | watching => exact absurd (restarted.watching.symm.trans hfl) (by simp)

theorem Sound.restoring_owner (h : Sound s) (hfl : s.model.isRestoringTask = true) :
    s.model.savedRestoringOperationOwner ≠ none := by
  obtain ⟨id, operation, _, hbk⟩ := h.backed .restoring hfl
  cases operation <;> simp_all [Operation.backs]

theorem isIdle_iff (m : BilibiliTaskViewModel Endpoint) : m.isIdle = true ↔
    m.isSubmitting = false ∧ m.isResolving = false ∧ m.isCancelling = false := by
  simp [BilibiliTaskViewModel.isIdle, and_assoc]

theorem Sound.submit (h : Sound s) (endpoint : Endpoint) (selected : Bool) :
    Sound (s.submit endpoint selected) := by
  unfold TaskSystem.submit
  split_ifs with hidle hsel hs
  · exact h
  · exact h
  · -- The task of the resolved selection is created under the sequence of the resolution.
    obtain ⟨hsubmitting, hreslv, _⟩ := (isIdle_iff _).mp (by simpa using hidle)
    have hn := h.starters.idle hs hsubmitting hreslv
    obtain ⟨n, creating, heq⟩ :=
      createTaskV2_spec { s with next := s.next + 1 } s.next endpoint
    rw [heq]
    refine h.create hsel.1 (fun other next _ => hn other next) ?_ ?_
      creating (.inr rfl) (Nat.lt_succ_self _) rfl rfl
    · intro other q submittedMode address _ hop hmode hq
      exact hs (h.starters.stale other q submittedMode address hop hmode hq).2.1
    · intro operation hop
      rw [h.fresh s.next (Nat.le_refl _)] at hop
      cases hop
  · obtain ⟨_, _, hcancg⟩ := (isIdle_iff _).mp (by simpa using hidle)
    have ho := h.restoring_owner
    rw [finishSavedRestoring_eq, invalidateSavedPlaybackValidation_eq]
    refine h.resolve hcancg ⟨rfl, id, rfl, ?_⟩ rfl rfl ⟨rfl, rfl, rfl⟩ (fun _ => rfl) rfl
    simp only [BilibiliTaskViewModel.stopWatching, clearResolutionSession]
    split_ifs <;> simp_all

theorem Sound.reResolve (h : Sound s) (endpoint : Endpoint) (matched : Bool) :
    Sound (s.reResolve endpoint matched) := by
  unfold TaskSystem.reResolve
  split_ifs with hresolve
  · exact h
  simp only [canReResolve, Bool.not_eq_false, Bool.and_eq_true,
    Option.isNone_iff_eq_none] at hresolve
  obtain ⟨⟨hidle, ht⟩, _⟩ := hresolve
  obtain ⟨_, _, hcancg⟩ := (isIdle_iff _).mp hidle
  exact h.resolve hcancg ⟨rfl, id, rfl, fun hfl => ⟨hfl, rfl⟩⟩ rfl rfl
    ⟨ht, fun _ => rfl⟩ (fun hfl => nomatch hfl) rfl

section

variable {id : Nat} {operation : Operation Endpoint} {u : TaskSystem Endpoint}
  (h : Sound s) (entry : Option (Operation Endpoint))
  (hop : s.pending id = some operation)
  (hcurr : operation.starts = some s.model.operationSequence) (step : Extends s t)
  (hentry : ∀ next, entry = some next → next.starts = none)
  (model : u.model = t.model) (next : u.next = t.next)
  (pending : u.pending = Function.update t.pending id entry)
  (sequence : t.model.operationSequence = s.model.operationSequence)
  (mode : t.model.submissionMode = s.model.submissionMode)

include h hop hcurr step hentry model next pending sequence mode

/-- The operation of the current sequence returns after `t`, or goes on to display nothing. -/
theorem Sound.answer
    (backed : ∀ flag, t.model.flag flag = true → Backed t flag)
    (ends : ∀ flag, t.model.flag flag = true → operation.backs t.model flag →
      ∃ next, entry = some next ∧ next.backs t.model flag) : Sound u := by
  have hid : u.pending id = entry := by rw [pending, update_self]
  have hold : ∀ other, other ≠ id → u.pending other = t.pending other := by
    intro other hne
    rw [pending, update_of_ne hne]
  have hbd : id < t.next := by
    by_contra hge
    have hn := step.fresh id (Nat.le_of_not_lt hge)
    rw [step.remains id operation hop] at hn
    cases hn
  refine ⟨?_, ?_, ?_⟩
  · intro other ho
    rw [next] at ho
    rw [hold other (by omega)]
    exact step.fresh other ho
  · refine h.starters.answer hop hcurr ?_ ?_ (by rw [model, sequence]) (by rw [model, mode])
    · intro other last hne hl hstarts
      rw [hold other hne] at hl
      exact step.grows other last hl hstarts
    · intro last hl hstarts
      rw [hid] at hl
      exact absurd (hentry last hl) hstarts
  · intro flag hfl
    rw [model] at hfl
    obtain ⟨other, last, hl, hbk⟩ := backed flag hfl
    by_cases hne : other = id
    · subst hne
      rw [step.remains other operation hop, Option.some.injEq] at hl
      subst hl
      obtain ⟨last, hl, hnew⟩ := ends flag hfl hbk
      exact ⟨other, last, hid.trans hl, by rwa [model]⟩
    · exact ⟨other, last, (hold other hne).trans hl, by rwa [model]⟩

/-- The operation of the current sequence returns after `t`, which may display a task. -/
theorem Sound.displays
    (submitting : t.model.isSubmitting = false) (resolving : t.model.isResolving = false)
    (cancelling : t.model.isCancelling = false)
    (watching : t.model.isWatching = true → Backed t .watching)
    (restoring : t.model.isRestoringTask = true → s.model.isRestoringTask = true ∧
      t.model.savedRestoringOperationOwner = s.model.savedRestoringOperationOwner)
    (owner : t.model.isRestoringTask = true → operation.backs t.model .restoring →
      ∃ next, entry = some next ∧ next.backs t.model .restoring) : Sound u := by
  refine h.answer entry hop hcurr step hentry model next pending sequence mode ?_ ?_
  · intro flag
    cases flag with
    | submitting => exact fun hfl => absurd (submitting.symm.trans hfl) (by simp)
    | resolving => exact fun hfl => absurd (resolving.symm.trans hfl) (by simp)
    | cancelling => exact fun hfl => absurd (cancelling.symm.trans hfl) (by simp)
    | restoring => exact h.carryAll step (Carries.restoring restoring)
    | watching => exact watching
  · intro flag hfl
    cases flag with
    | submitting => exact absurd (submitting.symm.trans hfl) (by simp)
    | resolving => exact absurd (resolving.symm.trans hfl) (by simp)
    | cancelling => exact absurd (cancelling.symm.trans hfl) (by simp)
    | restoring => exact owner hfl
    | watching => cases operation <;> simp_all [Operation.backs, Operation.starts]

end

theorem Sound.lowered (h : Sound s) (hop : s.pending id = some operation)
    (hcurr : operation.starts = some s.model.operationSequence)
    (hfl : flag = .submitting ∨ flag = .resolving) (hbk : ¬ operation.backs s.model flag) :
    s.model.flag flag = false := by
  by_contra hraised
  obtain ⟨other, next, hn, ho⟩ := h.backed flag (by simpa using hraised)
  have hseq : next.starts = some s.model.operationSequence := by
    rcases hfl with rfl | rfl <;> cases next <;> simp_all [Operation.backs, Operation.starts]
  have hs := h.starters.unique other id next operation hn hop hseq hcurr
  subst hs
  rw [hop, Option.some.injEq] at hn
  subst hn
  exact hbk ho

theorem Sound.discard (h : Sound s) (ht : s.model.currentTask = none) :
    Sound (s.setModel s.model.discardStaleResolveSubmission) := by
  obtain ⟨hcancg, hwatching⟩ := h.undisplayed ht
  refine h.extend (Extends.of_same h.fresh rfl rfl) ⟨rfl, rfl, fun _ => rfl, .inl rfl⟩ ?_
  intro flag
  cases flag with
  | submitting | resolving => exact Carries.lowered rfl
  | cancelling => exact Carries.lowered hcancg
  | restoring => exact Carries.restoring fun hfl => ⟨hfl, rfl⟩
  | watching => exact Carries.lowered hwatching

theorem Sound.completeSubmission (h : Sound s)
    (hop : s.pending id = some operation) (hstarts : operation.starts ≠ none)
    (ho : ¬ operation.backs s.model .restoring)
    (hlow : s.model.isSubmitting = false ∧ s.model.isResolving = false ∨
      operation.starts ≠ some s.model.operationSequence) : Sound (s.complete id) := by
  refine h.complete ?_
  intro flag next hfl hn hbk
  rw [hop, Option.some.injEq] at hn
  subst hn
  cases flag <;> cases operation <;>
    simp_all [Operation.backs, Operation.starts, BilibiliTaskViewModel.flag]

/-- The answer lowers the flags of a submission and the display stays empty. -/
theorem Sound.settled (h : Sound s) (hop : s.pending id = some operation)
    (hcurr : operation.starts = some s.model.operationSequence)
    (ho : ∀ m : BilibiliTaskViewModel Endpoint, ¬ operation.backs m .restoring)
    (ht : s.model.currentTask = none)
    (sequence : n.operationSequence = s.model.operationSequence)
    (mode : n.submissionMode = s.model.submissionMode) (submitting : n.isSubmitting = false)
    (resolving : n.isResolving = false) (cancelling : n.isCancelling = s.model.isCancelling)
    (watching : n.isWatching = s.model.isWatching)
    (restoring : n.isRestoringTask = s.model.isRestoringTask ∧
      n.savedRestoringOperationOwner = s.model.savedRestoringOperationOwner) :
    Sound ((s.setModel n).complete id) := by
  obtain ⟨hcancg, hwatching⟩ := h.undisplayed ht
  refine h.displays (t := s.setModel n) none hop hcurr
    (Extends.of_same h.fresh rfl rfl) (by simp) rfl rfl rfl sequence mode submitting resolving
    (cancelling.trans hcancg) ?_ ?_ fun _ hbk => absurd hbk (ho n)
  · intro hfl
    exact absurd ((watching.trans hwatching).symm.trans hfl) (by simp)
  · intro hfl
    exact ⟨restoring.1.symm.trans hfl, restoring.2⟩

variable {sequence : Nat}

theorem Sound.finishSubmission {submittedMode : BilibiliTaskSubmissionMode} (h : Sound s)
    (hop : s.pending id = some (.submission sequence submittedMode endpoint)) (matched : Bool)
    (resolution : Resolution) :
    Sound (s.finishSubmission id sequence submittedMode endpoint matched resolution) := by
  have hstarts : (Operation.submission sequence submittedMode endpoint).starts ≠ none := by
    simp [Operation.starts]
  have ho : ∀ m : BilibiliTaskViewModel Endpoint,
      ¬ (Operation.submission sequence submittedMode endpoint).backs m .restoring :=
    fun _ hbk => hbk
  have discarded : s.model.currentTask = none →
      Sound ((s.setModel s.model.discardStaleResolveSubmission).complete id) :=
    fun ht => (h.discard ht).completeSubmission hop hstarts (ho _) (.inl ⟨rfl, rfl⟩)
  unfold TaskSystem.finishSubmission
  split_ifs with hmode hn hseq hmatched
  · -- The mode alone has changed: there is nothing left to discard.
    exact discarded (h.starters.stale id _ _ _ hop (Ne.symm hmode) hn.symm).1
  · refine h.completeSubmission hop hstarts (ho _) (.inr ?_)
    intro hcurr
    exact hmode (h.starters.admitted id _ hop hcurr).2.1.symm
  · exact h.completeSubmission hop hstarts (ho _)
      (.inr fun hcurr => hseq (Option.some.inj hcurr))
  all_goals
    have hseq : sequence = s.model.operationSequence := by simpa using hseq
    subst hseq
    obtain ⟨ht, _, _⟩ := h.starters.admitted id _ hop rfl
  · exact discarded ht
  · split
    · exact discarded ht
    next sessionID serverID totalSize hasCandidate =>
      split_ifs with hcreates
      · obtain ⟨n, creating, heq⟩ := createTaskV2_spec (s.setModel { s.model with
          activeServerID := some serverID
          resolutionSession := some sessionID
          isResolving := false }) id endpoint
        have heq' := heq
        simp only [setModel] at heq' ⊢
        rw [heq']
        refine h.create ht (h.starters.alone hop rfl) ?_ ?_
          ⟨⟨creating.mode, creating.cancelling, creating.watching, creating.restoring⟩,
            creating.sequence, creating.task, creating.submitting, creating.resolving⟩
          (.inl rfl) ?_ rfl rfl
        · intro other q mode address _ hoth hne hq
          exact (h.starters.stale other q mode address hoth hne hq).2.2 id _ hop rfl
        · intro operation hn
          rw [hop, Option.some.injEq] at hn
          subst hn
          exact ho _
        · by_contra hge
          have hnone := h.fresh id (Nat.le_of_not_lt hge)
          rw [hop] at hnone
          cases hnone
      · exact h.settled hop rfl ho ht rfl rfl rfl rfl rfl rfl ⟨rfl, rfl⟩

theorem Sound.finishReResolution (h : Sound s)
    (hop : s.pending id = some (.reResolution sequence)) (matched : Bool)
    (resolution : Resolution) : Sound (s.finishReResolution id sequence matched resolution) := by
  have hstarts : (Operation.reResolution sequence : Operation Endpoint).starts ≠ none := by
    simp [Operation.starts]
  have ho : ∀ m : BilibiliTaskViewModel Endpoint,
      ¬ (Operation.reResolution sequence).backs m .restoring :=
    fun _ hbk => hbk
  unfold TaskSystem.finishReResolution
  split_ifs with hseq hmatched
  · exact h.completeSubmission hop hstarts (ho _)
      (.inr fun hcurr => hseq (Option.some.inj hcurr))
  all_goals
    have hseq : sequence = s.model.operationSequence := by simpa using hseq
    subst hseq
    obtain ⟨ht, _⟩ := h.starters.admitted id _ hop rfl
  · exact (h.discard ht).completeSubmission hop hstarts (ho _) (.inl ⟨rfl, rfl⟩)
  · have hsubmitting : s.model.isSubmitting = false :=
      h.lowered hop rfl (.inl rfl) (fun hbk => hbk)
    split
    · exact h.settled hop rfl ho ht rfl rfl rfl rfl rfl rfl ⟨rfl, rfl⟩
    · exact h.settled hop rfl ho ht rfl rfl hsubmitting rfl rfl rfl ⟨rfl, rfl⟩

theorem Sound.failCreation (h : Sound s) (hop : s.pending id = some (.creation sequence endpoint))
    (pageExpired : Bool) : Sound (s.failCreation id sequence pageExpired) := by
  have ho : ∀ m : BilibiliTaskViewModel Endpoint,
      ¬ (Operation.creation sequence endpoint).backs m .restoring :=
    fun _ hbk => hbk
  unfold TaskSystem.failCreation
  split_ifs with hseq
  · exact h.completeSubmission hop (by simp [Operation.starts]) (ho _)
      (.inr fun hcurr => hseq (Option.some.inj hcurr))
  all_goals
    have hseq : sequence = s.model.operationSequence := by simpa using hseq
    subst hseq
    obtain ⟨ht, _⟩ := h.starters.admitted id _ hop rfl
    have hreslv : s.model.isResolving = false :=
      h.lowered hop rfl (.inr rfl) (fun hbk => hbk)
  · exact h.settled hop rfl ho ht rfl rfl rfl rfl rfl rfl ⟨rfl, rfl⟩
  · exact h.settled hop rfl ho ht rfl rfl rfl hreslv rfl rfl ⟨rfl, rfl⟩

theorem Extends.fresh_setModel (h : Extends s t) (m : BilibiliTaskViewModel Endpoint) :
    Extends s (t.setModel m) :=
  h.trans (Extends.of_same h.fresh rfl rfl)

theorem Sound.finishCreation [DecidableEq Endpoint] (h : Sound s)
    (hop : s.pending id = some (.creation sequence endpoint)) (task : CacheTask)
    (identity : Option (ClientResumptionTaskIdentity Endpoint)) (changed : Bool) :
    Sound (s.finishCreation id sequence task identity changed) := by
  unfold TaskSystem.finishCreation
  by_cases hseq : sequence = s.model.operationSequence
  swap
  · rw [if_pos hseq]
    exact h.completeSubmission hop (by simp [Operation.starts]) (fun hbk => hbk)
      (.inr fun hcurr => hseq (Option.some.inj hcurr))
  subst hseq
  rw [if_neg (by simp)]
  obtain ⟨ht, _⟩ := h.starters.admitted id _ hop rfl
  obtain ⟨hcancg, hwatching⟩ := h.undisplayed ht
  have hreslv : s.model.isResolving = false :=
    h.lowered hop rfl (.inr rfl) (fun hbk => hbk)
  have hs : Extends s (s.setModel { s.model with
      savedTask := identity
      restoredTaskIdentity := none
      restoreAttemptIdentity := none }) := Extends.of_same h.fresh rfl rfl
  obtain ⟨hst, hupd⟩ := applyTaskUpdate_spec hs.fresh task changed
  generalize @TaskSystem.applyTaskUpdate Endpoint _ _ task changed = shown at hst hupd ⊢
  have hcreated := (hs.trans hst).fresh_setModel
    { shown.model with isSubmitting := false }
  have hlow : shown.model.isCancelling = false := hupd.not_cancelling hcancg
  split_ifs with hkeep
  · obtain ⟨hwatch, ⟨generation, isWatching, hmodel⟩, hwatd⟩ :=
      startWatching_spec hcreated.fresh task.id s.model.operationSequence
        hupd.sequence.symm
    refine h.displays none hop rfl (hcreated.trans hwatch) (by simp) rfl rfl rfl ?_ ?_ ?_ ?_ ?_
      hwatd ?_ ?_
    · rw [hmodel]
      exact hupd.sequence
    · rw [hmodel]
      exact hupd.mode
    · rw [hmodel]
      rfl
    · rw [hmodel]
      exact hupd.resolving.trans hreslv
    · rw [hmodel]
      exact hlow
    · rw [hmodel]
      exact hupd.restoring
    · exact fun _ hbk => hbk.elim
  · refine h.displays none hop rfl hcreated (by simp) rfl rfl rfl hupd.sequence
      hupd.mode rfl (hupd.resolving.trans hreslv) hlow ?_ hupd.restoring
      fun _ hbk => hbk.elim
    intro hfl
    exact absurd ((hupd.stops (by simpa using hkeep)).symm.trans hfl) (by simp)

theorem Carries.of_same (raised : n.flag flag = m.flag flag)
    (sequence : n.operationSequence = m.operationSequence)
    (task : n.currentTaskID = m.currentTaskID)
    (owner : n.savedRestoringOperationOwner = m.savedRestoringOperationOwner)
    (generation : n.taskWatchGeneration = m.taskWatchGeneration) : Carries flag m n where
  raised := fun hfl => raised.symm.trans hfl
  backs := by
    intro operation _ hbk
    cases flag <;> cases operation <;> simp_all [Operation.backs]

theorem Carries.of_kept (hne : flag ≠ .restoring) (raised : n.flag flag = m.flag flag)
    (sequence : n.operationSequence = m.operationSequence)
    (task : n.currentTaskID = m.currentTaskID)
    (generation : n.taskWatchGeneration = m.taskWatchGeneration) : Carries flag m n where
  raised := fun hfl => raised.symm.trans hfl
  backs := by
    intro operation _ hbk
    cases flag <;> cases operation <;> simp_all [Operation.backs]

theorem Sound.loadMoreResolvedCandidates (h : Sound s) : Sound s.loadMoreResolvedCandidates := by
  unfold TaskSystem.loadMoreResolvedCandidates
  split
  · exact h
  next sessionID hs =>
    have hset : Extends s (s.setModel { s.model with
        candidatePageSequence := s.model.candidatePageSequence + 1 }) :=
      Extends.of_same h.fresh rfl rfl
    exact h.extend (hset.trans (Extends.spawn hset.fresh _ rfl))
      ⟨rfl, rfl, fun ht => ht, .inr ⟨rfl, rfl, rfl⟩⟩
      fun flag => Carries.of_same (by cases flag <;> rfl) rfl rfl rfl rfl

theorem Sound.finishCandidatePage {operation pageSequence : Nat} {sessionID : String}
    (h : Sound s) (hop : s.pending id = some (.candidatePage sessionID operation pageSequence))
    (expired : Bool) :
    Sound (s.finishCandidatePage id sessionID operation pageSequence expired) := by
  have hends : ∀ {u : TaskSystem Endpoint}, Sound u →
      u.pending id = some (.candidatePage sessionID operation pageSequence) →
      Sound (u.complete id) := by
    intro u hu hp
    refine hu.complete ?_
    intro flag next _ hn hbk
    rw [hp, Option.some.injEq] at hn
    subst hn
    cases flag <;> exact hbk
  unfold TaskSystem.finishCandidatePage
  split_ifs with hcurr
  · refine hends (h.extend (t := s.setModel s.model.invalidateResolutionForExpiry)
      (Extends.of_same h.fresh rfl rfl) ⟨rfl, rfl, fun ht => ht, .inl rfl⟩ ?_) hop
    intro flag
    cases flag with
    | submitting | resolving => exact Carries.lowered rfl
    | _ => exact Carries.of_same rfl rfl rfl rfl rfl
  · exact hends h hop

theorem Sound.cancel (h : Sound s) : Sound s.cancel := by
  unfold TaskSystem.cancel
  split
  · exact h
  next task ht =>
    split_ifs with hcancel
    · have hset : Extends s (s.setModel { s.model with
          taskSnapshotGeneration := s.model.taskSnapshotGeneration + 1
          isCancelling := true }) := Extends.of_same h.fresh rfl rfl
      have step := hset.trans (Extends.spawn hset.fresh
        (.cancellation s.model.operationSequence task.id
          (s.model.taskSnapshotGeneration + 1)) rfl)
      refine ⟨step.fresh, h.starters.frame step.grows
        ⟨rfl, rfl, fun hn => hn, .inr ⟨rfl, rfl, rfl⟩⟩, ?_⟩
      intro flag hfl
      cases flag with
      | cancelling =>
        refine ⟨s.next, _, spawn_pending_next _, rfl, ?_⟩
        change s.model.currentTask.map CacheTask.id = some task.id
        rw [ht, Option.map_some]
      | _ => exact h.carryAll step (Carries.of_same rfl rfl rfl rfl rfl) hfl
    · exact h

theorem Sound.applyTaskUpdate [DecidableEq Endpoint] (h : Sound s) (task : CacheTask)
    (hsh : s.model.currentTaskID = some task.id) (changed : Bool) :
    Sound (s.applyTaskUpdate task changed) := by
  obtain ⟨step, hupd⟩ := applyTaskUpdate_spec h.fresh task changed
  refine h.extend step ⟨hupd.sequence, hupd.mode, ?_, ?_⟩ ?_
  · intro hn
    simp [currentTaskID, hn] at hsh
  · exact .inr ⟨hupd.session, hupd.submitting, hupd.resolving⟩
  · refine hupd.carries fun taskID htaskID => ?_
    rw [hsh, Option.some.injEq] at htaskID
    exact htaskID.symm

variable {targetTaskID : String}

theorem Sound.completeCancellation {id sequence cancellationGeneration : Nat} (h : Sound s)
    (hop : s.pending id = some (.cancellation sequence targetTaskID cancellationGeneration))
    (hlow : s.model.isCancelling = true → sequence = s.model.operationSequence →
      s.model.currentTaskID ≠ some targetTaskID) : Sound (s.complete id) := by
  refine h.complete ?_
  intro flag next hfl hn hbk
  rw [hop, Option.some.injEq] at hn
  subst hn
  cases flag with
  | cancelling => exact hlow hfl hbk.1 hbk.2
  | submitting | resolving | restoring | watching => exact hbk

variable {cancellationGeneration : Nat}

theorem Sound.notCancelling (h : Sound s)
    (hop : s.pending id = some (.cancellation sequence targetTaskID cancellationGeneration)) :
    Sound (s.notCancelling.complete id) := by
  have hlow : Sound s.notCancelling := by
    refine h.extend (Extends.of_same h.fresh rfl rfl)
      ⟨rfl, rfl, fun ht => ht, .inr ⟨rfl, rfl, rfl⟩⟩ ?_
    intro flag
    cases flag with
    | cancelling => exact Carries.lowered rfl
    | _ => exact Carries.of_same rfl rfl rfl rfl rfl
  exact hlow.completeCancellation hop fun hfl => nomatch hfl

theorem Sound.finishCancellation [DecidableEq Endpoint] (h : Sound s)
    (hop : s.pending id = some (.cancellation sequence targetTaskID cancellationGeneration))
    (answer : Option CacheTask) (changed : Bool) :
    Sound (s.finishCancellation id sequence targetTaskID cancellationGeneration answer
      changed) := by
  unfold TaskSystem.finishCancellation
  split
  next hn =>
    refine h.completeCancellation hop fun _ _ ht => ?_
    simp [currentTaskID, hn] at ht
  next currentTask ht =>
    have hsh : s.model.currentTaskID = some currentTask.id := by
      simp [currentTaskID, ht]
    have applied : ∀ task : CacheTask, task.id = currentTask.id →
        Sound ((s.applyTaskUpdate task changed).notCancelling.complete id) := by
      intro task hsame
      have hs := h.applyTaskUpdate task (by rw [hsh, hsame]) changed
      exact hs.notCancelling ((applyTaskUpdate_spec h.fresh task changed).1.remains id _ hop)
    split_ifs with hstale hterm
    · refine h.completeCancellation hop fun _ hseq htarget => ?_
      rw [hsh, Option.some.injEq] at htarget
      rcases hstale with hne | hne
      · exact hne hseq
      · exact hne htarget
    · exact applied currentTask rfl
    · have htarget : currentTask.id = targetTaskID := by simp_all
      cases answer with
      | none => exact h.notCancelling hop
      | some task =>
        dsimp only
        split_ifs with ho hp hqueued
        · exact h.notCancelling hop
        · exact applied currentTask rfl
        · exact h.notCancelling hop
        · exact applied task ((not_not.mp ho).trans htarget.symm)

variable {taskID : String}

theorem Sound.startWatching (h : Sound s) (hseq : sequence = s.model.operationSequence) :
    Sound (s.startWatching taskID sequence) := by
  obtain ⟨step, ⟨generation, isWatching, hmodel⟩, hwatd⟩ :=
    startWatching_spec h.fresh taskID sequence hseq
  refine ⟨step.fresh, h.starters.frame step.grows ?_, ?_⟩
  · rw [hmodel]
    exact ⟨rfl, rfl, fun ht => ht, .inr ⟨rfl, rfl, rfl⟩⟩
  · intro flag hfl
    have hbk : flag ≠ .watching →
        Carries flag s.model (s.startWatching taskID sequence).model := by
      intro hne
      rw [hmodel]
      constructor
      · intro hraised
        cases flag with
        | watching => exact absurd rfl hne
        | _ => exact hraised
      · intro operation _ hbk
        cases flag with
        | watching => exact absurd rfl hne
        | _ => cases operation <;> exact hbk
    by_cases hne : flag = .watching
    · subst hne
      exact hwatd hfl
    · exact h.carryAll step (hbk hne) hfl

theorem isTaskWatchCurrent_iff (m : BilibiliTaskViewModel Endpoint) (taskID : String)
    (sequence generation : Nat) : m.isTaskWatchCurrent taskID sequence generation = true ↔
      m.isWatching = true ∧
        (Operation.watcher taskID sequence generation : Operation Endpoint).backs m .watching := by
  simp [BilibiliTaskViewModel.isTaskWatchCurrent, Operation.backs, and_assoc, and_comm]

def Watches (s : TaskSystem Endpoint) (id : Nat) (taskID : String)
    (sequence generation : Nat) : Prop :=
  s.pending id = some (.watcher taskID sequence generation) ∨
    s.pending id = some (.reconciliation taskID sequence generation)

variable {generation : Nat}

theorem Watches.extends (h : Watches s id taskID sequence generation) (step : Extends s t) :
    Watches t id taskID sequence generation :=
  h.imp (step.remains id _) (step.remains id _)

theorem Sound.completeWatching (h : Sound s) (hop : Watches s id taskID sequence generation)
    (hstale : s.model.isTaskWatchCurrent taskID sequence generation = false) :
    Sound (s.complete id) := by
  refine h.complete ?_
  intro flag next hfl hn hbk
  rcases hop with hop | hop
  · rw [hop, Option.some.injEq] at hn
    subst hn
    cases flag with
    | watching =>
      have hcurr := (isTaskWatchCurrent_iff _ _ _ _).mpr ⟨hfl, hbk⟩
      exact absurd (hstale.symm.trans hcurr) (by simp)
    | _ => exact hbk
  · rw [hop, Option.some.injEq] at hn
    subst hn
    cases flag <;> exact hbk

theorem isTaskWatchCurrent_of_stopped (h : m.isWatching = false) (taskID : String)
    (sequence generation : Nat) : m.isTaskWatchCurrent taskID sequence generation = false := by
  simp [BilibiliTaskViewModel.isTaskWatchCurrent, h]

theorem accepts_id (h : m.accepts task taskID = true) : m.currentTaskID = some task.id := by
  unfold BilibiliTaskViewModel.accepts at h
  cases hsh : m.currentTask with
  | none => simp [hsh] at h
  | some currentTask =>
    simp only [hsh, Option.any_some, Bool.and_eq_true, beq_iff_eq] at h
    simp [currentTaskID, hsh, h.1, h.2.1]

section

variable (h : Sound s) (hop : Watches s id taskID sequence generation)
include h hop

theorem Sound.showWatched [DecidableEq Endpoint]
    (haccepts : s.model.accepts task taskID = true) (changed : Bool) :
    Sound (if task.shouldKeepWatchingBilibiliTask then s.applyTaskUpdate task changed
      else (s.applyTaskUpdate task changed).complete id) := by
  have hsh := h.applyTaskUpdate task (accepts_id haccepts) changed
  obtain ⟨step, hupd⟩ := applyTaskUpdate_spec h.fresh task changed
  split_ifs with hkeep
  · exact hsh
  · exact hsh.completeWatching (hop.extends step)
      (isTaskWatchCurrent_of_stopped (hupd.stops (by simpa using hkeep)) _ _ _)

theorem Sound.watchedTask [DecidableEq Endpoint] (task : CacheTask) (changed : Bool) :
    Sound (s.watchedTask id taskID sequence generation task changed) := by
  unfold TaskSystem.watchedTask
  by_cases hcurr : s.model.isTaskWatchCurrent taskID sequence generation = true
  · rw [if_pos hcurr]
    by_cases haccepts : s.model.accepts task taskID = true
    · rw [if_pos haccepts]
      have hact : Sound (s.setModel { s.model with
          taskWatchActivityGeneration := s.model.taskWatchActivityGeneration + 1 }) :=
        h.extend (Extends.of_same h.fresh rfl rfl)
          ⟨rfl, rfl, fun ht => ht, .inr ⟨rfl, rfl, rfl⟩⟩
          fun flag => Carries.of_same (by cases flag <;> rfl) rfl rfl rfl rfl
      exact hact.showWatched hop haccepts changed
    · rw [if_neg haccepts]
      exact h
  · rw [if_neg hcurr]
    exact h.completeWatching hop (by simpa using hcurr)

theorem Sound.reconciledTask [DecidableEq Endpoint] (expectedSnapshotGeneration : Nat)
    (task : CacheTask) (changed : Bool) :
    Sound (s.reconciledTask id taskID sequence generation expectedSnapshotGeneration task
      changed) := by
  unfold TaskSystem.reconciledTask
  by_cases hcurr : s.model.isTaskWatchCurrent taskID sequence generation = true
  · rw [if_pos hcurr]
    by_cases haccepts : s.model.taskSnapshotGeneration = expectedSnapshotGeneration ∧
        s.model.accepts task taskID = true
    · rw [if_pos haccepts]
      exact h.showWatched hop haccepts.2 changed
    · rw [if_neg haccepts]
      exact h
  · rw [if_neg hcurr]
    exact h.completeWatching hop (by simpa using hcurr)

theorem Sound.finishReconciliation [DecidableEq Endpoint]
    (expectedSnapshotGeneration expectedActivityGeneration : Nat) (task : CacheTask)
    (changed : Bool) :
    Sound (s.finishReconciliation id taskID sequence generation expectedSnapshotGeneration
      expectedActivityGeneration task changed) := by
  unfold TaskSystem.finishReconciliation
  split_ifs with hunchanged hcurr
  · exact h.reconciledTask hop expectedSnapshotGeneration task changed
  · exact h
  · exact h.completeWatching hop (by simpa using hcurr)

theorem Sound.checkWatcher
    (hk : s.model.isTaskWatchCurrent taskID sequence generation = true →
      s.model.keepsWatching = true) : Sound (s.checkWatcher id taskID sequence generation) := by
  unfold TaskSystem.checkWatcher
  split_ifs with hneeds
  · exact h
  refine h.completeWatching hop ?_
  by_contra hcurr
  have hcurr : s.model.isTaskWatchCurrent taskID sequence generation = true := by
    simpa using hcurr
  exact hneeds (by simp [BilibiliTaskViewModel.taskWatchNeedsRecovery, hcurr, hk hcurr])

theorem Sound.failWatcher :
    Sound (s.failWatcher id taskID sequence generation) := by
  unfold TaskSystem.failWatcher BilibiliTaskViewModel.finishWatching
  split_ifs with hcurr
  · have hstopped : Sound (s.setModel { s.model with isWatching := false }) := by
      refine h.extend (Extends.of_same h.fresh rfl rfl)
        ⟨rfl, rfl, fun ht => ht, .inr ⟨rfl, rfl, rfl⟩⟩ fun flag => ?_
      cases flag with
      | watching => exact Carries.lowered rfl
      | _ => exact Carries.of_same rfl rfl rfl rfl rfl
    exact hstopped.completeWatching hop (isTaskWatchCurrent_of_stopped rfl _ _ _)
  · exact h.completeWatching hop (by simpa using hcurr)

end

theorem Sound.startTaskWatchReconciliation (h : Sound s) (taskID : String)
    (sequence generation : Nat) :
    Sound (s.startTaskWatchReconciliation taskID sequence generation) := by
  unfold TaskSystem.startTaskWatchReconciliation
  split_ifs
  · exact h.extend (Extends.spawn h.fresh _ rfl) (SameStart.refl _) fun _ => Carries.refl _ _
  · exact h

theorem Sound.completeReconciliation (h : Sound s)
    (hop : s.pending id = some (.reconciliation taskID sequence generation)) :
    Sound (s.complete id) := by
  refine h.complete ?_
  intro flag next _ hn hbk
  rw [hop, Option.some.injEq] at hn
  subst hn
  cases flag <;> exact hbk

theorem Sound.failReconciliation (h : Sound s)
    (hop : s.pending id = some (.reconciliation taskID sequence generation))
    (expectedSnapshotGeneration expectedActivityGeneration : Nat) (givesUp : Bool) :
    Sound (s.failReconciliation id taskID sequence generation expectedSnapshotGeneration
      expectedActivityGeneration givesUp) := by
  unfold TaskSystem.failReconciliation
  split_ifs with hcurr hunchanged hgives
  · exact h.failWatcher (.inr hop)
  · have hseq := ((isTaskWatchCurrent_iff _ _ _ _).mp hcurr).2.1
    have step := (startWatching_spec h.fresh taskID sequence hseq).1
    exact (h.startWatching hseq).completeReconciliation (step.remains id _ hop)
  · exact h
  · exact h.completeReconciliation hop

theorem Sound.retryTaskUpdates (h : Sound s) (failed : Bool) :
    Sound (s.retryTaskUpdates failed) := by
  unfold TaskSystem.retryTaskUpdates
  split
  · exact h
  · split_ifs
    · exact h.startWatching rfl
    · exact h

theorem Sound.supersede (h : Sound s)
    (sequence : n.operationSequence = s.model.operationSequence + 1)
    (mode : n.submissionMode = s.model.submissionMode ∨
      n.resolutionSession = none ∧ n.currentTask = s.model.currentTask)
    (submitting : n.isSubmitting = false) (resolving : n.isResolving = false)
    (cancelling : n.isCancelling = false) (watching : n.isWatching = false)
    (restoring : n.isRestoringTask = true → s.model.isRestoringTask = true ∧
      n.savedRestoringOperationOwner = s.model.savedRestoringOperationOwner) :
    Sound (s.setModel n) := by
  have step : Extends s (s.setModel n) := Extends.of_same h.fresh rfl rfl
  refine ⟨step.fresh, ?_, fun flag => h.carryAll step ?_⟩
  · exact h.starters.advance 0 (fun _ _ _ hop _ => hop) (fun _ hop _ => .inl hop)
      sequence (mode.imp_right fun hmode => ⟨fun _ hop _ => hop, hmode⟩)
  · cases flag with
    | submitting => exact Carries.lowered submitting
    | resolving => exact Carries.lowered resolving
    | cancelling => exact Carries.lowered cancelling
    | restoring => exact Carries.restoring restoring
    | watching => exact Carries.lowered watching

theorem Sound.changeSubmissionMode {mode : BilibiliTaskSubmissionMode} (h : Sound s)
    (careful : s.model.submissionMode ≠ mode →
      s.model.isCancelling = false ∧ s.model.isWatching = false) :
    Sound (s.setModel (s.model.changeSubmissionMode mode)) := by
  unfold BilibiliTaskViewModel.changeSubmissionMode
  split_ifs with hmode
  · obtain ⟨hcancg, hwatching⟩ := careful hmode
    exact h.supersede rfl (.inr ⟨rfl, rfl⟩) rfl rfl hcancg hwatching
      fun hfl => ⟨hfl, rfl⟩
  · exact h

theorem Sound.clearTaskState (h : Sound s)
    (sequence : m.operationSequence = s.model.operationSequence)
    (mode : m.submissionMode = s.model.submissionMode) (forgetSavedRecord : Bool) :
    Sound (s.setModel (m.clearTaskState forgetSavedRecord)) := by
  unfold BilibiliTaskViewModel.clearTaskState
  rw [invalidateSavedPlaybackValidation_eq]
  exact h.supersede (congrArg (· + 1) sequence) (.inl mode) rfl rfl rfl rfl
    fun hfl => nomatch hfl

/-- What `invalidateSavedRestore` leaves when nothing displayed belongs to the saved task. -/
theorem invalidateSavedRestore_other [DecidableEq Endpoint]
    (m : BilibiliTaskViewModel Endpoint) (h : m.belongsToSavedTask = false) :
    ∃ generation isRestoring, m.invalidateSavedRestore = { m with
      restoreGeneration := m.restoreGeneration + 1
      savedPlaybackValidationGeneration := generation
      savedRestoringOperationOwner := none
      restoreAttemptIdentity := none
      isRestoringTask := isRestoring } ∧
      (m.savedRestoringOperationOwner ≠ none → isRestoring = false) ∧
      (m.isRestoringTask = false → isRestoring = false) := by
  unfold BilibiliTaskViewModel.invalidateSavedRestore
  dsimp only
  rw [h, if_neg (by simp), finishSavedRestoring_eq, invalidateSavedPlaybackValidation_eq]
  refine ⟨_, _, rfl, ?_, ?_⟩ <;> split_ifs <;> simp_all

theorem invalidateSavedRestore_own [DecidableEq Endpoint]
    (m : BilibiliTaskViewModel Endpoint) (h : m.belongsToSavedTask = true) :
    ∃ generation isRestoring, m.invalidateSavedRestore = { m.stopWatching with
      restoreGeneration := m.restoreGeneration + 1
      operationSequence := m.operationSequence + 1
      currentTask := none
      activeEndpoint := none
      activeServerID := none
      restoredTaskIdentity := none
      taskSnapshotGeneration := m.taskSnapshotGeneration + 1
      savedPlaybackValidationGeneration := generation
      savedRestoringOperationOwner := none
      restoreAttemptIdentity := none
      isRestoringTask := isRestoring } ∧
      (m.savedRestoringOperationOwner ≠ none → isRestoring = false) ∧
      (m.isRestoringTask = false → isRestoring = false) := by
  unfold BilibiliTaskViewModel.invalidateSavedRestore
  dsimp only
  rw [h, if_pos rfl, finishSavedRestoring_eq, invalidateSavedPlaybackValidation_eq]
  refine ⟨_, _, rfl, ?_, ?_⟩ <;> split_ifs <;> simp_all [BilibiliTaskViewModel.stopWatching]

theorem Sound.invalidateSavedRestore [DecidableEq Endpoint] (h : Sound s)
    (careful : InvalidatesIdle s.model) : Sound (s.setModel s.model.invalidateSavedRestore) := by
  have hlow : ∀ isRestoring, (s.model.savedRestoringOperationOwner ≠ none →
      isRestoring = false) → (s.model.isRestoringTask = false → isRestoring = false) →
      isRestoring = false := by
    intro isRestoring howned hdown
    by_cases hfl : s.model.isRestoringTask = true
    · exact howned (h.restoring_owner hfl)
    · exact hdown (by simpa using hfl)
  by_cases hbelongs : s.model.belongsToSavedTask = true
  · obtain ⟨generation, isRestoring, heq, howned, hdown⟩ :=
      invalidateSavedRestore_own s.model hbelongs
    obtain ⟨hsubmitting, hreslv, hcancg⟩ := (isIdle_iff _).mp (careful hbelongs)
    rw [heq, hlow isRestoring howned hdown]
    exact h.supersede rfl (.inl rfl) hsubmitting hreslv hcancg rfl
      fun hfl => nomatch hfl
  · obtain ⟨generation, isRestoring, heq, howned, hdown⟩ :=
      invalidateSavedRestore_other s.model (by simpa using hbelongs)
    rw [heq, hlow isRestoring howned hdown]
    refine h.extend (Extends.of_same h.fresh rfl rfl)
      ⟨rfl, rfl, fun ht => ht, .inr ⟨rfl, rfl, rfl⟩⟩ fun flag => ?_
    cases flag with
    | restoring => exact Carries.lowered rfl
    | _ => exact Carries.of_kept nofun rfl rfl rfl rfl

theorem Sound.clearTaskIfCachedLibraryItemDeleted (h : Sound s)
    (hasItem : BilibiliTaskResultItem → Bool) (topLevel inPage selected : Bool) :
    Sound (s.clearTaskIfCachedLibraryItemDeleted hasItem topLevel inPage selected) := by
  unfold TaskSystem.clearTaskIfCachedLibraryItemDeleted
  split
  · exact h
  next task ht =>
    by_cases hdeld : (topLevel || task.resultItems.any hasItem || inPage || selected) = true
    · rw [if_pos hdeld]
      generalize hk : (if selected then s.model.invalidateSavedPlaybackValidation
        else s.model) = kept
      obtain ⟨generation, owner, isRestoring, heq, hrestoring⟩ : ∃ generation owner isRestoring,
          kept = { s.model with
            savedPlaybackValidationGeneration := generation
            savedRestoringOperationOwner := owner
            isRestoringTask := isRestoring } ∧
          (isRestoring = true → s.model.isRestoringTask = true ∧
            owner = s.model.savedRestoringOperationOwner) := by
        subst hk
        cases selected with
        | false => exact ⟨_, _, _, rfl, fun hfl => ⟨hfl, rfl⟩⟩
        | true =>
          rw [if_pos rfl, invalidateSavedPlaybackValidation_eq]
          refine ⟨_, _, _, rfl, ?_⟩
          split_ifs <;> simp_all
      subst heq
      split_ifs with htop
      · exact Sound.clearTaskState h (by rfl) (by rfl) false
      have hsh : s.model.currentTaskID = some task.id := by
        simp [currentTaskID, ht]
      refine h.extend (Extends.of_same h.fresh rfl rfl) ⟨rfl, rfl, ?_, .inr ⟨rfl, rfl, rfl⟩⟩
        fun flag => ?_
      · intro hn
        rw [ht] at hn
        cases hn
      · cases flag with
        | restoring => exact Carries.restoring hrestoring
        | _ => exact Carries.of_kept nofun rfl rfl hsh.symm rfl
    · rw [if_neg hdeld]
      exact h

variable {identity : ClientResumptionTaskIdentity Endpoint}

theorem isSavedRestoreCurrent_spec [DecidableEq Endpoint]
    (h : m.isSavedRestoreCurrent identity generation sequence = true) :
    sequence = m.operationSequence ∧
      m.savedRestoringOperationOwner = some (.taskRestore generation) := by
  simp only [isSavedRestoreCurrent, Bool.and_eq_true, beq_iff_eq] at h
  exact ⟨h.1.1.1.1.2.symm, h.1.1.2⟩

variable (h : Sound s)
include h

theorem Sound.endOwned {owner : SavedRestoringOperationOwner}
    {attempt : Option (ClientResumptionTaskIdentity Endpoint)}
    (hop : s.pending id = some operation)
    (hbk : ∀ flag, operation.backs s.model flag →
      flag = .restoring ∧ s.model.savedRestoringOperationOwner = some owner) :
    Sound ((s.setModel { s.model.finishSavedRestoringOperation owner with
      restoreAttemptIdentity := attempt }).complete id) := by
  rw [finishSavedRestoringOperation_eq]
  have step : Extends s (s.setModel { s.model with
      savedRestoringOperationOwner :=
        if s.model.savedRestoringOperationOwner = some owner then none
        else s.model.savedRestoringOperationOwner
      isRestoringTask :=
        if s.model.savedRestoringOperationOwner = some owner then false
        else s.model.isRestoringTask
      restoreAttemptIdentity := attempt }) := Extends.of_same h.fresh rfl rfl
  refine h.finish (step.complete id) ⟨rfl, rfl, fun ht => ht, .inr ⟨rfl, rfl, rfl⟩⟩ ?_ ?_
  · intro flag
    cases flag with
    | restoring =>
      refine Carries.restoring ?_
      change (if s.model.savedRestoringOperationOwner = some owner then false
        else s.model.isRestoringTask) = true → s.model.isRestoringTask = true ∧
        (if s.model.savedRestoringOperationOwner = some owner then none
          else s.model.savedRestoringOperationOwner) = s.model.savedRestoringOperationOwner
      split_ifs <;> simp_all
    | _ => exact ⟨fun hfl => hfl, fun operation _ hbk => by
        cases operation <;> exact hbk⟩
  · intro flag next hfl hn hflags
    exfalso
    rw [hop, Option.some.injEq] at hn
    subst hn
    obtain ⟨rfl, ho⟩ := hbk flag hflags
    change (if s.model.savedRestoringOperationOwner = some owner then false
      else s.model.isRestoringTask) = true at hfl
    simp [ho] at hfl

theorem Sound.endRestore {phase : RestorePhase}
    (hop : s.pending id = some (.restore identity generation sequence phase)) :
    Sound (s.endRestore id generation) := by
  refine h.endOwned hop fun flag hbk => ?_
  cases flag with
  | restoring => exact ⟨rfl, hbk⟩
  | _ => exact hbk.elim

theorem Sound.restoreSavedTask [DecidableEq Endpoint]
    (requestedEndpoint : Option Endpoint) (force : Bool)
    (careful : invalidatesSavedRestore s.model requestedEndpoint = true →
      InvalidatesIdle s.model) : Sound (s.restoreSavedTask requestedEndpoint force) := by
  unfold TaskSystem.restoreSavedTask
  split
  next hn => exact h.invalidateSavedRestore (careful (by simp [invalidatesSavedRestore, hn]))
  next identity hs =>
    split_ifs with ho hrestoring hr hidle
    · exact h.invalidateSavedRestore (careful (by simp [invalidatesSavedRestore, hs, ho]))
    · exact h
    · exact h
    · exact h
    · dsimp only
      rw [invalidateSavedPlaybackValidation_eq]
      refine h.begin rfl rfl rfl ⟨rfl, rfl⟩ fun flag hfl => ?_
      cases flag with
      | submitting | resolving | cancelling | watching => cases hfl
      | restoring => exact .inl rfl

theorem Sound.restorePlayback [DecidableEq Endpoint]
    (hop : s.pending id = some (.restore identity generation sequence (.playback task)))
    (watches : Bool) : Sound (s.restorePlayback id identity generation sequence task watches) := by
  unfold TaskSystem.restorePlayback
  split_ifs with hcurr
  · have hseq := (isSavedRestoreCurrent_spec hcurr.1).1
    have step := (startWatching_spec h.fresh task.id sequence hseq).1
    exact (h.startWatching hseq).endRestore (step.remains id _ hop)
  · exact h.endRestore hop

theorem Sound.restoreServerInfo [DecidableEq Endpoint]
    (hop : s.pending id = some (.restore identity generation sequence .serverInfo))
    (serverID : String) : Sound (s.restoreServerInfo id identity generation sequence serverID) := by
  unfold TaskSystem.restoreServerInfo
  split_ifs with hcurr
  · obtain ⟨rfl, howner⟩ := isSavedRestoreCurrent_spec hcurr.1
    generalize hnew : (Operation.restore identity generation s.model.operationSequence .task :
      Operation Endpoint) = operation
    have hid : (s.setOperation id operation).pending id = some operation :=
      setOperation_pending id operation
    have hold : ∀ other, other ≠ id →
        (s.setOperation id operation).pending other = s.pending other :=
      fun other hne => update_of_ne hne _ _
    have hadm := h.starters.admitted id _ hop rfl
    refine ⟨?_, ?_, ?_⟩
    · intro other ho
      have hne : other ≠ id := by
        rintro rfl
        rw [h.fresh other ho] at hop
        cases hop
      rw [hold other hne]
      exact h.fresh other ho
    · refine h.starters.answer hop rfl ?_ ?_ rfl rfl
      · intro other next hne hn _
        rwa [hold other hne] at hn
      · intro next hn _
        rw [hid, Option.some.injEq] at hn
        subst hn hnew
        exact ⟨rfl, hadm⟩
    · intro flag hfl
      obtain ⟨other, next, hn, hbk⟩ := h.backed flag hfl
      by_cases hne : other = id
      · subst hne hnew
        rw [hop, Option.some.injEq] at hn
        subst hn
        refine ⟨other, _, hid, ?_⟩
        cases flag with
        | restoring => exact hbk
        | _ => exact hbk.elim
      · exact ⟨other, next, (hold other hne).trans hn, hbk⟩
  · exact h.endRestore hop

theorem Sound.restoreTask [DecidableEq Endpoint]
    (hop : s.pending id = some (.restore identity generation sequence .task)) (task : CacheTask)
    (isBilibili hasCheckpoint changed : Bool) :
    Sound (s.restoreTask id identity generation sequence task isBilibili hasCheckpoint
      changed) := by
  unfold TaskSystem.restoreTask
  by_cases hcurr : s.model.isSavedRestoreCurrent identity generation sequence = true ∧
      task.id = identity.taskID ∧ isBilibili = true
  swap
  · rw [if_neg hcurr]
    exact h.endRestore hop
  rw [if_pos hcurr]
  obtain ⟨rfl, howner⟩ := isSavedRestoreCurrent_spec hcurr.1
  obtain ⟨ht, _⟩ := h.starters.admitted id _ hop rfl
  obtain ⟨hcancg, hwatching⟩ := h.undisplayed ht
  have hsubmitting : s.model.isSubmitting = false :=
    h.lowered hop rfl (.inl rfl) (fun hbk => hbk)
  have hreslv : s.model.isResolving = false :=
    h.lowered hop rfl (.inr rfl) (fun hbk => hbk)
  have hs : Extends s (s.setModel { s.model with
      activeEndpoint := some identity.endpoint
      activeServerID := some identity.serverID
      restoredTaskIdentity := some identity }) := Extends.of_same h.fresh rfl rfl
  obtain ⟨hst, hupd⟩ := applyTaskUpdate_spec hs.fresh task changed
  generalize @TaskSystem.applyTaskUpdate Endpoint _ _ task changed = shown at hst hupd ⊢
  have hsh := hs.trans hst
  have hlow : shown.model.isCancelling = false := hupd.not_cancelling hcancg
  have hunwatched : shown.model.isWatching = false := hupd.not_watching hwatching
  -- The deferred end lowers the flag of whatever the restore has come to.
  have ended : ∀ {u : TaskSystem Endpoint} {watchGeneration isWatching}, Extends shown u →
      u.model = { shown.model with
        taskWatchGeneration := watchGeneration
        isWatching := isWatching } →
      (u.model.isWatching = true → Backed u .watching) →
      Sound (u.endRestore id generation) := by
    intro u watchGeneration isWatching hext hmodel hwatd
    unfold TaskSystem.endRestore
    rw [finishSavedRestoringOperation_eq]
    refine h.displays none hop rfl (hsh.trans (hext.fresh_setModel _)) (by simp)
      rfl rfl rfl ?_ ?_ ?_ ?_ ?_ ?_ ?_ ?_
    · exact (congrArg BilibiliTaskViewModel.operationSequence hmodel).trans hupd.sequence
    · exact (congrArg submissionMode hmodel).trans hupd.mode
    · exact (congrArg BilibiliTaskViewModel.isSubmitting hmodel).trans
        (hupd.submitting.trans hsubmitting)
    · exact (congrArg BilibiliTaskViewModel.isResolving hmodel).trans
        (hupd.resolving.trans hreslv)
    · exact (congrArg BilibiliTaskViewModel.isCancelling hmodel).trans hlow
    · intro hfl
      obtain ⟨other, next, hn, hbk⟩ := hwatd hfl
      refine ⟨other, next, hn, ?_⟩
      cases next <;> exact hbk
    · intro hfl
      change (if u.model.savedRestoringOperationOwner = some (.taskRestore generation) then false
        else u.model.isRestoringTask) = true at hfl
      change _ ∧ (if u.model.savedRestoringOperationOwner = some (.taskRestore generation) then
        none else u.model.savedRestoringOperationOwner) = _
      split_ifs at hfl ⊢ with ho
      rw [hmodel] at hfl ⊢
      exact hupd.restoring hfl
    · intro hfl hbk
      change (if u.model.savedRestoringOperationOwner = some (.taskRestore generation) then none
        else u.model.savedRestoringOperationOwner) = some (.taskRestore generation) at hbk
      split_ifs at hbk with ho
      exact absurd hbk ho
  split_ifs with hckpt hkeep
  · refine h.displays (some (.restore identity generation s.model.operationSequence
      (.playback task))) hop rfl hsh ?_ rfl rfl rfl hupd.sequence hupd.mode
      (hupd.submitting.trans hsubmitting) (hupd.resolving.trans hreslv) hlow ?_
      hupd.restoring ?_
    · rintro next ⟨⟩
      rfl
    · exact fun hfl => absurd (hunwatched.symm.trans hfl) (by simp)
    · exact fun _ hbk => ⟨_, rfl, hbk⟩
  · obtain ⟨hwatch, ⟨watchGeneration, isWatching, hmodel⟩, hwatd⟩ :=
      startWatching_spec hsh.fresh task.id s.model.operationSequence hupd.sequence.symm
    exact ended hwatch hmodel hwatd
  · exact ended (u := shown) (Extends.of_same hsh.fresh rfl rfl) rfl
      fun hfl => absurd (hunwatched.symm.trans hfl) (by simp)

theorem Sound.runSavedPlaybackPreparation [DecidableEq Endpoint]
    (hid : id < s.next) (hop : ∀ operation, s.pending id = some operation →
      ∀ (m : BilibiliTaskViewModel Endpoint) flag, ¬ operation.backs m flag)
    (identity : ClientResumptionTaskIdentity Endpoint) (validationGeneration : Nat)
    (observed : Bool) :
    Sound (s.runSavedPlaybackPreparation id identity validationGeneration observed) := by
  unfold TaskSystem.runSavedPlaybackPreparation
  split_ifs
  · have hset : Extends s (s.setModel (s.model.beginSavedRestoringOperation
        (.playbackValidation validationGeneration))) := Extends.of_same h.fresh rfl rfl
    have moves : Moves id s ((s.setModel (s.model.beginSavedRestoringOperation
        (.playbackValidation validationGeneration))).setOperation id
        (.validation identity validationGeneration s.model.restoreGeneration
          s.model.operationSequence)) := hset.setOperation hid rfl
    refine ⟨moves.fresh, h.starters.frame moves.grows
      ⟨rfl, rfl, fun ht => ht, .inr ⟨rfl, rfl, rfl⟩⟩, fun flag => ?_⟩
    cases flag with
    | restoring =>
      intro _
      exact ⟨id, _, setOperation_pending _ _, rfl⟩
    | _ =>
      exact h.carry moves (Carries.of_kept nofun rfl rfl rfl rfl)
        fun next _ hn hbk => absurd hbk (hop next hn _ _)
  · exact h.complete fun flag next _ hn => hop next hn _ flag

theorem Sound.prepareSavedPlayback [DecidableEq Endpoint]
    (requestedEndpoint : Option Endpoint) (onActivation hasCheckpoint observed : Bool)
    (careful : invalidatesSavedRestore s.model requestedEndpoint = true → onActivation = false →
      hasCheckpoint = true → s.model.savedTask.isSome = true → InvalidatesIdle s.model) :
    Sound (s.prepareSavedPlayback requestedEndpoint onActivation hasCheckpoint observed) := by
  unfold TaskSystem.prepareSavedPlayback
  split
  · exact h
  next identity hs =>
    split_ifs with hn ho hact hready
    · exact h
    · exact h
    · exact h.invalidateSavedRestore (careful (by simp [invalidatesSavedRestore, hs, ho])
        (by simpa using hact) (by simpa using hn) (by simp [hs]))
    · have hset : Extends s { s.setModel s.model.invalidateSavedPlaybackValidation with
          next := s.next + 1 } :=
        { fresh := fun id hid => h.fresh id (Nat.le_of_succ_le hid)
          grows := Grows.refl s
          remains := fun _ _ hop => hop }
      have hlow : s.model.isRestoringTask = false := hready.2.1
      have hbase : Sound { s.setModel s.model.invalidateSavedPlaybackValidation with
          next := s.next + 1 } := by
        rw [invalidateSavedPlaybackValidation_eq] at hset ⊢
        refine h.extend hset ⟨rfl, rfl, fun ht => ht, .inr ⟨rfl, rfl, rfl⟩⟩ fun flag => ?_
        cases flag with
        | restoring =>
          refine Carries.restoring fun hfl => ?_
          change (if _ then false else s.model.isRestoringTask) = true at hfl
          split_ifs at hfl
          exact absurd (hlow.symm.trans hfl) (by simp)
        | _ => exact Carries.of_kept nofun rfl rfl rfl rfl
      refine hbase.runSavedPlaybackPreparation (Nat.lt_succ_self _) ?_ identity _ observed
      intro operation hop
      have hop : s.pending s.next = some operation := hop
      rw [h.fresh s.next (Nat.le_refl _)] at hop
      cases hop
    · exact h

theorem Sound.finishValidation [DecidableEq Endpoint]
    {id validationGeneration restoreGeneration operation : Nat}
    (hop : s.pending id =
      some (.validation identity validationGeneration restoreGeneration operation))
    (serverIdentityChanged : Bool)
    (careful : serverIdentityChanged = true →
      s.model.isSavedPlaybackPreparationOperationCurrent identity validationGeneration
        restoreGeneration operation = true → InvalidatesIdle s.model) :
    Sound (s.finishValidation id identity validationGeneration restoreGeneration operation
      serverIdentityChanged) := by
  have ended : ∀ {m : BilibiliTaskViewModel Endpoint}, Sound (s.setModel m) →
      Sound ((s.setModel (m.finishSavedRestoringOperation
        (.playbackValidation validationGeneration))).complete id) := by
    intro m hm
    refine Sound.endOwned hm hop (fun flag hbk => ?_)
    cases flag with
    | restoring => exact ⟨rfl, hbk⟩
    | _ => exact hbk.elim
  unfold TaskSystem.finishValidation
  split_ifs with hchg
  · exact ended (h.invalidateSavedRestore (careful hchg.1 hchg.2))
  · exact ended h

end TaskSystem

end NetPlayer.Client
