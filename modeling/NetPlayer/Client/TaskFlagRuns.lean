import NetPlayer.Client.TaskFlagBackers
import NetPlayer.Library.Transition

/-!
# Runs of the task view model

A raised flag is backed by an operation in flight whose answer lowers it, as long as the
submission mode, the saved task and the displayed results are not changed behind an operation
that does not notice.
-/

namespace NetPlayer.Client

open Transition BilibiliTaskViewModel

namespace TaskSystem

variable {Endpoint : Type} [DecidableEq Endpoint]

/-- What a step is to the conditions on a run: an action, or a move of the operation `id`. -/
inductive Label (Endpoint : Type)
  | act
  | changeSubmissionMode (mode : BilibiliTaskSubmissionMode)
  | restoreSavedTask (requestedEndpoint : Option Endpoint)
  | prepareSavedPlayback (requestedEndpoint : Option Endpoint) (onActivation hasCheckpoint : Bool)
  | answered (id : Nat)
  | serverIdentityChanged (id : Nat)
  | checked (id : Nat)

def Label.operation : Label Endpoint → Option Nat
  | .answered id => some id
  | .serverIdentityChanged id => some id
  | .checked id => some id
  | _ => none

inductive Step : TaskSystem Endpoint → Label Endpoint → TaskSystem Endpoint → Prop
  | submit (s : TaskSystem Endpoint) (endpoint : Endpoint) (selected : Bool) :
      Step s .act (s.submit endpoint selected)
  | reResolve (s : TaskSystem Endpoint) (endpoint : Endpoint) (resolvedInputMatchesSource : Bool) :
      Step s .act (s.reResolve endpoint resolvedInputMatchesSource)
  | loadMoreResolvedCandidates (s : TaskSystem Endpoint) :
      Step s .act s.loadMoreResolvedCandidates
  | cancel (s : TaskSystem Endpoint) : Step s .act s.cancel
  | changeSubmissionMode (s : TaskSystem Endpoint) (mode : BilibiliTaskSubmissionMode) :
      Step s (.changeSubmissionMode mode) (s.setModel (s.model.changeSubmissionMode mode))
  | restoreSavedTask (s : TaskSystem Endpoint) (requestedEndpoint : Option Endpoint)
      (force : Bool) :
      Step s (.restoreSavedTask requestedEndpoint) (s.restoreSavedTask requestedEndpoint force)
  | prepareSavedPlayback (s : TaskSystem Endpoint) (requestedEndpoint : Option Endpoint)
      (onActivation hasCheckpoint observed : Bool) :
      Step s (.prepareSavedPlayback requestedEndpoint onActivation hasCheckpoint)
        (s.prepareSavedPlayback requestedEndpoint onActivation hasCheckpoint observed)
  | clearTask (s : TaskSystem Endpoint) : Step s .act (s.setModel (s.model.clearTaskState true))
  | deleteLibraryItem (s : TaskSystem Endpoint) (hasItem : BilibiliTaskResultItem → Bool)
      (topLevel inPage selected : Bool) :
      Step s .act (s.clearTaskIfCachedLibraryItemDeleted hasItem topLevel inPage selected)
  | retryTaskUpdates (s : TaskSystem Endpoint) (failed : Bool) :
      Step s .act (s.retryTaskUpdates failed)
  | submission {s : TaskSystem Endpoint} {id sequence : Nat}
      {submittedMode : BilibiliTaskSubmissionMode} {endpoint : Endpoint}
      (h : s.pending id = some (.submission sequence submittedMode endpoint))
      (currentSubmissionMatches : Bool) (resolution : Resolution) :
      Step s (.answered id)
        (s.finishSubmission id sequence submittedMode endpoint currentSubmissionMatches resolution)
  | reResolution {s : TaskSystem Endpoint} {id sequence : Nat}
      (h : s.pending id = some (.reResolution sequence)) (currentSubmissionMatches : Bool)
      (resolution : Resolution) :
      Step s (.answered id)
        (s.finishReResolution id sequence currentSubmissionMatches resolution)
  | created {s : TaskSystem Endpoint} {id sequence : Nat} {endpoint : Endpoint}
      (h : s.pending id = some (.creation sequence endpoint)) (task : CacheTask)
      (identity : Option (ClientResumptionTaskIdentity Endpoint)) (changed : Bool) :
      Step s (.answered id) (s.finishCreation id sequence task identity changed)
  | notCreated {s : TaskSystem Endpoint} {id sequence : Nat} {endpoint : Endpoint}
      (h : s.pending id = some (.creation sequence endpoint)) (pageExpired : Bool) :
      Step s (.answered id) (s.failCreation id sequence pageExpired)
  | candidatePage {s : TaskSystem Endpoint} {id operation pageSequence : Nat}
      {sessionID : String}
      (h : s.pending id = some (.candidatePage sessionID operation pageSequence))
      (expired : Bool) :
      Step s (.answered id) (s.finishCandidatePage id sessionID operation pageSequence expired)
  | cancellation {s : TaskSystem Endpoint} {id sequence cancellationGeneration : Nat}
      {targetTaskID : String}
      (h : s.pending id = some (.cancellation sequence targetTaskID cancellationGeneration))
      (answer : Option CacheTask) (changed : Bool) :
      Step s (.answered id)
        (s.finishCancellation id sequence targetTaskID cancellationGeneration answer changed)
  | endRestore {s : TaskSystem Endpoint} {id generation sequence : Nat}
      {identity : ClientResumptionTaskIdentity Endpoint} {phase : RestorePhase}
      (h : s.pending id = some (.restore identity generation sequence phase)) :
      Step s (.answered id) (s.endRestore id generation)
  | restoreServerInfo {s : TaskSystem Endpoint} {id generation sequence : Nat}
      {identity : ClientResumptionTaskIdentity Endpoint}
      (h : s.pending id = some (.restore identity generation sequence .serverInfo))
      (serverID : String) :
      Step s (.answered id) (s.restoreServerInfo id identity generation sequence serverID)
  | restoreTask {s : TaskSystem Endpoint} {id generation sequence : Nat}
      {identity : ClientResumptionTaskIdentity Endpoint}
      (h : s.pending id = some (.restore identity generation sequence .task))
      (task : CacheTask) (isBilibili hasCheckpoint changed : Bool) :
      Step s (.answered id)
        (s.restoreTask id identity generation sequence task isBilibili hasCheckpoint changed)
  | restorePlayback {s : TaskSystem Endpoint} {id generation sequence : Nat}
      {identity : ClientResumptionTaskIdentity Endpoint} {task : CacheTask}
      (h : s.pending id = some (.restore identity generation sequence (.playback task)))
      (watches : Bool) :
      Step s (.answered id) (s.restorePlayback id identity generation sequence task watches)
  | startValidation {s : TaskSystem Endpoint} {id generation : Nat}
      {identity : ClientResumptionTaskIdentity Endpoint}
      (h : s.pending id = some (.scheduledValidation identity generation)) (observed : Bool) :
      Step s (.answered id) (s.runSavedPlaybackPreparation id identity generation observed)
  | validation {s : TaskSystem Endpoint}
      {id validationGeneration restoreGeneration operation : Nat}
      {identity : ClientResumptionTaskIdentity Endpoint}
      (h : s.pending id =
        some (.validation identity validationGeneration restoreGeneration operation)) :
      Step s (.answered id) (s.finishValidation id identity validationGeneration
        restoreGeneration operation false)
  | serverIdentityChanged {s : TaskSystem Endpoint}
      {id validationGeneration restoreGeneration operation : Nat}
      {identity : ClientResumptionTaskIdentity Endpoint}
      (h : s.pending id =
        some (.validation identity validationGeneration restoreGeneration operation)) :
      Step s (.serverIdentityChanged id) (s.finishValidation id identity validationGeneration
        restoreGeneration operation true)
  | watchedTask {s : TaskSystem Endpoint} {id sequence generation : Nat} {taskID : String}
      (h : s.pending id = some (.watcher taskID sequence generation)) (task : CacheTask)
      (changed : Bool) :
      Step s (.answered id) (s.watchedTask id taskID sequence generation task changed)
  | reconciledTask {s : TaskSystem Endpoint} {id sequence generation : Nat} {taskID : String}
      (h : s.pending id = some (.watcher taskID sequence generation)) (task : CacheTask)
      (expectedSnapshotGeneration : Nat) (changed : Bool) :
      Step s (.answered id) (s.reconciledTask id taskID sequence generation
        expectedSnapshotGeneration task changed)
  | checkWatcher {s : TaskSystem Endpoint} {id sequence generation : Nat} {taskID : String}
      (h : s.pending id = some (.watcher taskID sequence generation)) :
      Step s (.checked id) (s.checkWatcher id taskID sequence generation)
  | failWatcher {s : TaskSystem Endpoint} {id sequence generation : Nat} {taskID : String}
      (h : s.pending id = some (.watcher taskID sequence generation)) :
      Step s (.answered id) (s.failWatcher id taskID sequence generation)
  | startReconciliation {s : TaskSystem Endpoint} {id sequence generation : Nat}
      {taskID : String} (h : s.pending id = some (.watcher taskID sequence generation)) :
      Step s (.answered id) (s.startTaskWatchReconciliation taskID sequence generation)
  | reconciliation {s : TaskSystem Endpoint} {id sequence generation : Nat} {taskID : String}
      (h : s.pending id = some (.reconciliation taskID sequence generation)) (task : CacheTask)
      (expectedSnapshotGeneration expectedActivityGeneration : Nat) (changed : Bool) :
      Step s (.answered id) (s.finishReconciliation id taskID sequence generation
        expectedSnapshotGeneration expectedActivityGeneration task changed)
  | failReconciliation {s : TaskSystem Endpoint} {id sequence generation : Nat}
      {taskID : String} (h : s.pending id = some (.reconciliation taskID sequence generation))
      (expectedSnapshotGeneration expectedActivityGeneration : Nat) (givesUp : Bool) :
      Step s (.answered id) (s.failReconciliation id taskID sequence generation
        expectedSnapshotGeneration expectedActivityGeneration givesUp)
  | endReconciliation {s : TaskSystem Endpoint} {id sequence generation : Nat}
      {taskID : String} (h : s.pending id = some (.reconciliation taskID sequence generation)) :
      Step s (.answered id) (s.complete id)

structure Resets (s : TaskSystem Endpoint) (flag : Flag) (id : Nat) : Prop where
  ends : ∃ label t, label.operation = some id ∧ Step s label t ∧ t.pending id = none
  lowers : ∀ label t, label.operation = some id → Step s label t → t.pending id = none →
    t.model.flag flag = false

structure NoStuckFlags (s : TaskSystem Endpoint) : Prop where
  pending : ∀ flag, flag ≠ .watching → s.model.flag flag = true →
    ∃ id, (s.pending id).isSome = true ∧ Resets s flag id
  watching : s.model.isWatching = true → ∃ id task, s.model.currentTask = some task ∧
    s.pending id =
      some (.watcher task.id s.model.operationSequence s.model.taskWatchGeneration)

/-- The steps that do not take the sequence, the task or the watcher from under a flag. -/
def Careful (s : TaskSystem Endpoint) : Label Endpoint → Prop
  | .act => True
  | .changeSubmissionMode mode =>
    s.model.submissionMode ≠ mode →
      s.model.isCancelling = false ∧ s.model.isWatching = false
  | .restoreSavedTask requestedEndpoint =>
    invalidatesSavedRestore s.model requestedEndpoint = true → InvalidatesIdle s.model
  | .prepareSavedPlayback requestedEndpoint onActivation hasCheckpoint =>
    invalidatesSavedRestore s.model requestedEndpoint = true → onActivation = false →
      hasCheckpoint = true → s.model.savedTask.isSome = true → InvalidatesIdle s.model
  | .answered _ => True
  | .serverIdentityChanged id =>
    ∀ identity validationGeneration restoreGeneration operation,
      s.pending id =
        some (.validation identity validationGeneration restoreGeneration operation) →
      s.model.isSavedPlaybackPreparationOperationCurrent identity validationGeneration
        restoreGeneration operation = true → InvalidatesIdle s.model
  | .checked id =>
    ∀ taskID sequence generation, s.pending id = some (.watcher taskID sequence generation) →
      s.model.isTaskWatchCurrent taskID sequence generation = true →
      s.model.keepsWatching = true

variable {s t : TaskSystem Endpoint} {label : Label Endpoint}

theorem Sound.step (h : Sound s) (step : Step s label t) (careful : Careful s label) : Sound t := by
  cases step with
  | submit endpoint selected => exact h.submit endpoint selected
  | reResolve endpoint matched => exact h.reResolve endpoint matched
  | loadMoreResolvedCandidates => exact h.loadMoreResolvedCandidates
  | cancel => exact h.cancel
  | changeSubmissionMode mode => exact h.changeSubmissionMode careful
  | restoreSavedTask requestedEndpoint force =>
    exact h.restoreSavedTask requestedEndpoint force careful
  | prepareSavedPlayback requestedEndpoint onActivation hasCheckpoint observed =>
    exact h.prepareSavedPlayback requestedEndpoint onActivation hasCheckpoint observed careful
  | clearTask => exact h.clearTaskState rfl rfl true
  | deleteLibraryItem hasItem topLevel inPage selected =>
    exact h.clearTaskIfCachedLibraryItemDeleted hasItem topLevel inPage selected
  | retryTaskUpdates failed => exact h.retryTaskUpdates failed
  | submission hop matched resolution => exact h.finishSubmission hop matched resolution
  | reResolution hop matched resolution => exact h.finishReResolution hop matched resolution
  | created hop task identity changed => exact h.finishCreation hop task identity changed
  | notCreated hop pageExpired => exact h.failCreation hop pageExpired
  | candidatePage hop expired => exact h.finishCandidatePage hop expired
  | cancellation hop answer changed => exact h.finishCancellation hop answer changed
  | endRestore hop => exact h.endRestore hop
  | restoreServerInfo hop serverID => exact h.restoreServerInfo hop serverID
  | restoreTask hop task isBilibili hasCheckpoint changed =>
    exact h.restoreTask hop task isBilibili hasCheckpoint changed
  | restorePlayback hop watches => exact h.restorePlayback hop watches
  | @startValidation id generation identity hop observed =>
    have hid : id < s.next := by
      by_contra hge
      rw [h.fresh id (Nat.le_of_not_lt hge)] at hop
      cases hop
    refine h.runSavedPlaybackPreparation hid ?_ identity generation observed
    intro operation hs m flag hbk
    rw [hop, Option.some.injEq] at hs
    subst hs
    cases flag <;> exact hbk
  | validation hop => exact h.finishValidation hop false nofun
  | serverIdentityChanged hop =>
    exact h.finishValidation hop true fun _ => careful _ _ _ _ hop
  | watchedTask hop task changed => exact h.watchedTask (.inl hop) task changed
  | reconciledTask hop task expectedSnapshotGeneration changed =>
    exact h.reconciledTask (.inl hop) expectedSnapshotGeneration task changed
  | checkWatcher hop => exact h.checkWatcher (.inl hop) (careful _ _ _ hop)
  | failWatcher hop => exact h.failWatcher (.inl hop)
  | startReconciliation hop => exact h.startTaskWatchReconciliation _ _ _
  | reconciliation hop task expectedSnapshotGeneration expectedActivityGeneration changed =>
    exact h.finishReconciliation (.inr hop) expectedSnapshotGeneration
      expectedActivityGeneration task changed
  | failReconciliation hop expectedSnapshotGeneration expectedActivityGeneration givesUp =>
    exact h.failReconciliation hop expectedSnapshotGeneration expectedActivityGeneration givesUp
  | endReconciliation hop => exact h.completeReconciliation hop

omit [DecidableEq Endpoint] in
theorem sound_initial (savedTask : Option (ClientResumptionTaskIdentity Endpoint)) :
    Sound (initial savedTask) := by
  refine ⟨fun _ _ => rfl, ⟨nofun, nofun, nofun, nofun⟩, fun flag hflag => ?_⟩
  cases flag <;> cases hflag

def Answers (s t : TaskSystem Endpoint) (id : Nat) : Operation Endpoint → Prop
  | .submission sequence submittedMode endpoint => ∃ matched resolution,
      t = s.finishSubmission id sequence submittedMode endpoint matched resolution
  | .reResolution sequence => ∃ matched resolution,
      t = s.finishReResolution id sequence matched resolution
  | .creation sequence _ =>
    (∃ task identity changed, t = s.finishCreation id sequence task identity changed) ∨
      ∃ pageExpired, t = s.failCreation id sequence pageExpired
  | .cancellation sequence targetTaskID cancellationGeneration => ∃ answer changed,
      t = s.finishCancellation id sequence targetTaskID cancellationGeneration answer changed
  | .restore identity generation sequence _ =>
    t = s.endRestore id generation ∨
      (∃ serverID, t = s.restoreServerInfo id identity generation sequence serverID) ∨
      (∃ task isBilibili hasCheckpoint changed,
        t = s.restoreTask id identity generation sequence task isBilibili hasCheckpoint
          changed) ∨
      ∃ task watches, t = s.restorePlayback id identity generation sequence task watches
  | .validation identity validationGeneration restoreGeneration operation =>
    ∃ serverIdentityChanged, t = s.finishValidation id identity validationGeneration
      restoreGeneration operation serverIdentityChanged
  | _ => True

variable {operation : Operation Endpoint}

theorem Step.answers {id : Nat} (step : Step s label t) (hlabel : label.operation = some id)
    (hop : s.pending id = some operation) : Answers s t id operation := by
  have same : ∀ {other : Operation Endpoint}, s.pending id = some other → other = operation :=
    fun ho => Option.some.inj (ho.symm.trans hop)
  cases step with
  | submission hold matched resolution | reResolution hold matched resolution
  | cancellation hold matched resolution =>
    cases hlabel
    obtain rfl := same hold
    exact ⟨matched, resolution, rfl⟩
  | created hold task identity changed =>
    cases hlabel
    obtain rfl := same hold
    exact .inl ⟨task, identity, changed, rfl⟩
  | notCreated hold pageExpired =>
    cases hlabel
    obtain rfl := same hold
    exact .inr ⟨pageExpired, rfl⟩
  | endRestore hold =>
    cases hlabel
    obtain rfl := same hold
    exact .inl rfl
  | restoreServerInfo hold serverID =>
    cases hlabel
    obtain rfl := same hold
    exact .inr (.inl ⟨serverID, rfl⟩)
  | restoreTask hold task isBilibili hasCheckpoint changed =>
    cases hlabel
    obtain rfl := same hold
    exact .inr (.inr (.inl ⟨task, isBilibili, hasCheckpoint, changed, rfl⟩))
  | restorePlayback hold watches =>
    cases hlabel
    obtain rfl := same hold
    exact .inr (.inr (.inr ⟨_, watches, rfl⟩))
  | validation hold =>
    cases hlabel
    obtain rfl := same hold
    exact ⟨false, rfl⟩
  | serverIdentityChanged hold =>
    cases hlabel
    obtain rfl := same hold
    exact ⟨true, rfl⟩
  | candidatePage hold | startValidation hold | watchedTask hold | reconciledTask hold
  | checkWatcher hold | failWatcher hold | startReconciliation hold | reconciliation hold
  | failReconciliation hold | endReconciliation hold =>
    cases hlabel
    obtain rfl := same hold
    exact trivial
  | _ => cases hlabel

variable {id sequence : Nat}

theorem Sound.submission_lowers {submittedMode : BilibiliTaskSubmissionMode} {endpoint : Endpoint}
    {flag : Flag} (h : Sound s)
    (hop : s.pending id = some (.submission sequence submittedMode endpoint))
    (hbk : (Operation.submission sequence submittedMode endpoint).backs s.model flag)
    (answers : Answers s t id (.submission sequence submittedMode endpoint))
    (hended : t.pending id = none) : t.model.flag flag = false := by
  obtain ⟨matched, resolution, rfl⟩ := answers
  have hseq : sequence = s.model.operationSequence := by
    cases flag with
    | submitting | resolving => exact hbk
    | _ => exact hbk.elim
  have hflag : flag = .submitting ∨ flag = .resolving := by
    cases flag with
    | submitting => exact .inl rfl
    | resolving => exact .inr rfl
    | _ => exact hbk.elim
  subst hseq
  have hmode := (h.starters.admitted id _ hop rfl).2.1
  unfold TaskSystem.finishSubmission at hended ⊢
  rw [if_neg (by simp [hmode]), if_neg (by simp)] at hended ⊢
  split_ifs at hended ⊢ with hmatched
  · rcases hflag with rfl | rfl <;> rfl
  cases resolution with
  | failed => rcases hflag with rfl | rfl <;> rfl
  | resolved sessionID serverID totalSize hasCandidate =>
    dsimp only at hended ⊢
    split_ifs at hended ⊢ with hcreates
    · simp [createTaskV2, setModel] at hended
    · rcases hflag with rfl | rfl <;> rfl

theorem reResolution_lowers (hseq : sequence = s.model.operationSequence)
    (answers : Answers s t id (.reResolution sequence)) : t.model.isResolving = false := by
  obtain ⟨matched, resolution, rfl⟩ := answers
  unfold TaskSystem.finishReResolution
  rw [if_neg (by simp [hseq])]
  split_ifs
  · rfl
  · cases resolution <;> rfl

theorem creation_lowers {endpoint : Endpoint} (hseq : sequence = s.model.operationSequence)
    (answers : Answers s t id (.creation sequence endpoint)) : t.model.isSubmitting = false := by
  subst hseq
  obtain ⟨task, identity, changed, rfl⟩ | ⟨pageExpired, rfl⟩ := answers
  · unfold TaskSystem.finishCreation startWatching
    rw [if_neg (by simp)]
    dsimp only
    split_ifs <;> rfl
  · unfold TaskSystem.failCreation
    rw [if_neg (by simp)]
    split_ifs <;> rfl

theorem cancellation_lowers {id sequence cancellationGeneration : Nat} {targetTaskID : String}
    (hbk : (Operation.cancellation sequence targetTaskID cancellationGeneration :
      Operation Endpoint).backs s.model .cancelling)
    (answers : Answers s t id (.cancellation sequence targetTaskID cancellationGeneration)) :
    t.model.isCancelling = false := by
  obtain ⟨hseq, htarget⟩ := hbk
  obtain ⟨answer, changed, rfl⟩ := answers
  unfold TaskSystem.finishCancellation
  cases ht : s.model.currentTask with
  | none => simp [currentTaskID, ht] at htarget
  | some currentTask =>
    have hid : currentTask.id = targetTaskID := by
      simpa [currentTaskID, ht] using htarget
    dsimp only
    rw [if_neg (by simp [hseq, hid])]
    split_ifs
    · rfl
    cases answer with
    | none => rfl
    | some task =>
      dsimp only
      split_ifs <;> rfl

omit [DecidableEq Endpoint] in
theorem finishSavedRestoringOperation_lowers {m : BilibiliTaskViewModel Endpoint}
    {owner : SavedRestoringOperationOwner}
    (hlow : m.isRestoringTask = true → m.savedRestoringOperationOwner = some owner) :
    (m.finishSavedRestoringOperation owner).isRestoringTask = false := by
  rw [finishSavedRestoringOperation_eq]
  by_cases howner : m.savedRestoringOperationOwner = some owner
  · exact if_pos howner
  · refine (if_neg howner).trans ?_
    by_contra hflag
    exact howner (hlow (by simpa using hflag))

omit [DecidableEq Endpoint] in
theorem endRestore_lowers {id generation : Nat} (hlow : s.model.isRestoringTask = true →
    s.model.savedRestoringOperationOwner = some (.taskRestore generation)) :
    (s.endRestore id generation).model.isRestoringTask = false :=
  finishSavedRestoringOperation_lowers hlow

variable {identity : ClientResumptionTaskIdentity Endpoint}

theorem restore_lowers {id generation sequence : Nat} {phase : RestorePhase}
    (fresh : ∀ id, s.next ≤ id → s.pending id = none)
    (howner : s.model.savedRestoringOperationOwner = some (.taskRestore generation))
    (answers : Answers s t id (.restore identity generation sequence phase))
    (hended : t.pending id = none) : t.model.isRestoringTask = false := by
  obtain rfl | ⟨serverID, rfl⟩ | ⟨task, isBilibili, hasCheckpoint, changed, rfl⟩ |
    ⟨task, watches, rfl⟩ := answers
  · exact endRestore_lowers fun _ => howner
  · unfold TaskSystem.restoreServerInfo at hended ⊢
    split_ifs at hended ⊢
    · simp at hended
    · exact endRestore_lowers fun _ => howner
  · unfold TaskSystem.restoreTask at hended ⊢
    by_cases hcurr : s.model.isSavedRestoreCurrent identity generation sequence = true ∧
        task.id = identity.taskID ∧ isBilibili = true
    swap
    · rw [if_neg hcurr]
      exact endRestore_lowers fun _ => howner
    rw [if_pos hcurr] at hended ⊢
    have hs : Extends s (s.setModel { s.model with
        activeEndpoint := some identity.endpoint
        activeServerID := some identity.serverID
        restoredTaskIdentity := some identity }) := Extends.of_same fresh rfl rfl
    obtain ⟨hst, hupd⟩ := applyTaskUpdate_spec hs.fresh task changed
    generalize @TaskSystem.applyTaskUpdate Endpoint _ _ task changed = shown
      at hst hupd hended ⊢
    have hlow : shown.model.isRestoringTask = true →
        shown.model.savedRestoringOperationOwner = some (.taskRestore generation) :=
      fun hflag => (hupd.restoring hflag).2.trans howner
    split_ifs at hended ⊢
    · simp at hended
    · refine endRestore_lowers ?_
      unfold TaskSystem.startWatching
      dsimp only
      split_ifs <;> exact hlow
    · exact endRestore_lowers hlow
  · unfold TaskSystem.restorePlayback TaskSystem.startWatching
    split_ifs
    · refine endRestore_lowers fun _ => ?_
      dsimp only
      split_ifs <;> exact howner
    · exact endRestore_lowers fun _ => howner

theorem validation_lowers {id validationGeneration restoreGeneration operation : Nat}
    (howner : s.model.savedRestoringOperationOwner =
      some (.playbackValidation validationGeneration)) (answers : Answers s t id
      (.validation identity validationGeneration restoreGeneration operation)) :
    t.model.isRestoringTask = false := by
  obtain ⟨serverIdentityChanged, rfl⟩ := answers
  refine finishSavedRestoringOperation_lowers fun hflag => ?_
  by_cases hchg : serverIdentityChanged = true ∧
      s.model.isSavedPlaybackPreparationOperationCurrent identity validationGeneration
        restoreGeneration operation = true
  · rw [if_pos hchg] at hflag
    by_cases hbelongs : s.model.belongsToSavedTask = true
    · obtain ⟨_, _, heq, howned, _⟩ := invalidateSavedRestore_own s.model hbelongs
      rw [heq] at hflag
      exact absurd ((howned (by simp [howner])).symm.trans hflag) (by simp)
    · obtain ⟨_, _, heq, howned, _⟩ :=
        invalidateSavedRestore_other s.model (by simpa using hbelongs)
      rw [heq] at hflag
      exact absurd ((howned (by simp [howner])).symm.trans hflag) (by simp)
  · rw [if_neg hchg]
    exact howner

theorem Sound.resets {flag : Flag} (h : Sound s) (hop : s.pending id = some operation)
    (hbk : operation.backs s.model flag) (hne : flag ≠ .watching) : Resets s flag id := by
  cases operation with
  | submission sequence submittedMode endpoint =>
    refine ⟨⟨_, _, rfl, Step.submission hop false .failed, ?_⟩, ?_⟩
    · unfold TaskSystem.finishSubmission
      split_ifs <;> exact complete_pending id
    · intro label t hlabel step
      exact h.submission_lowers hop hbk (step.answers hlabel hop)
  | reResolution sequence =>
    refine ⟨⟨_, _, rfl, Step.reResolution hop false .failed, ?_⟩, ?_⟩
    · unfold TaskSystem.finishReResolution
      split_ifs <;> exact complete_pending id
    · intro label t hlabel step _
      cases flag with
      | resolving => exact reResolution_lowers hbk (step.answers hlabel hop)
      | _ => exact hbk.elim
  | creation sequence endpoint =>
    refine ⟨⟨_, _, rfl, Step.notCreated hop false, ?_⟩, ?_⟩
    · unfold TaskSystem.failCreation
      split_ifs <;> exact complete_pending id
    · intro label t hlabel step _
      cases flag with
      | submitting => exact creation_lowers hbk (step.answers hlabel hop)
      | _ => exact hbk.elim
  | cancellation sequence targetTaskID cancellationGeneration =>
    refine ⟨⟨_, _, rfl, Step.cancellation hop none false, ?_⟩, ?_⟩
    · unfold TaskSystem.finishCancellation
      split
      · exact complete_pending id
      · split_ifs <;> exact complete_pending id
    · intro label t hlabel step _
      cases flag with
      | cancelling => exact cancellation_lowers hbk (step.answers hlabel hop)
      | _ => exact hbk.elim
  | restore identity generation sequence phase =>
    refine ⟨⟨_, _, rfl, Step.endRestore hop, complete_pending id⟩, ?_⟩
    intro label t hlabel step hended
    cases flag with
    | restoring => exact restore_lowers h.fresh hbk (step.answers hlabel hop) hended
    | _ => exact hbk.elim
  | validation identity validationGeneration restoreGeneration operation =>
    refine ⟨⟨_, _, rfl, Step.validation hop, complete_pending id⟩, ?_⟩
    intro label t hlabel step _
    cases flag with
    | restoring => exact validation_lowers hbk (step.answers hlabel hop)
    | _ => exact hbk.elim
  | watcher taskID sequence generation =>
    cases flag with
    | watching => exact absurd rfl hne
    | _ => exact hbk.elim
  | _ => cases flag <;> exact hbk.elim

theorem Sound.noStuckFlags (h : Sound s) : NoStuckFlags s where
  pending := by
    intro flag hne hflag
    obtain ⟨id, operation, hop, hbk⟩ := h.backed flag hflag
    exact ⟨id, by rw [hop]; rfl, h.resets hop hbk hne⟩
  watching := by
    intro hflag
    obtain ⟨id, operation, hop, hbk⟩ := h.backed .watching hflag
    cases operation with
    | watcher taskID sequence generation =>
      obtain ⟨rfl, rfl, ht⟩ := hbk
      obtain ⟨task, hsh, rfl⟩ := Option.map_eq_some_iff.mp ht
      exact ⟨id, task, hsh, hop⟩
    | _ => exact hbk.elim

/-- In every careful run each raised flag has an operation in flight that lowers it, and the
watch has its watcher. -/
theorem activity_flags_backed {savedTask : Option (ClientResumptionTaskIdentity Endpoint)}
    {labels : List (Label Endpoint)}
    (run : Run (Guarded Step Careful) (initial savedTask) labels s) : NoStuckFlags s := by
  refine Sound.noStuckFlags (run.invariant Sound ?_ (sound_initial savedTask))
  intro before after label step h
  exact h.step step.1 step.2

def runningTask : CacheTask := ⟨"task", "TASK_STATE_RUNNING", [], none, ""⟩

def watchedTaskSystem : TaskSystem Unit :=
  (((initial none).submit () false).finishSubmission 0 1 .playback () true
    (.resolved "session" "server" 1 true)).finishCreation 0 1 runningTask none false

theorem watchedTaskSystem_run :
    Run (Guarded Step Careful) (initial none) [.act, .answered 0, .answered 0]
      watchedTaskSystem := by
  have first : Guarded Step Careful (initial none) .act ((initial none).submit () false) :=
    ⟨Step.submit _ _ _, trivial⟩
  have second : Guarded Step Careful ((initial none).submit () false) (.answered 0)
      (((initial none).submit () false).finishSubmission 0 1 .playback () true
        (.resolved "session" "server" 1 true)) :=
    ⟨Step.submission rfl _ _, trivial⟩
  have third : Guarded Step Careful
      (((initial none).submit () false).finishSubmission 0 1 .playback () true
        (.resolved "session" "server" 1 true)) (.answered 0) watchedTaskSystem :=
    ⟨@Step.created Unit _ _ _ _ () rfl _ _ _, trivial⟩
  exact ((Run.single first).snoc second).snoc third

theorem activity_flags_backed_cancelling :
    ∃ s : TaskSystem Unit, s.model.isCancelling = true ∧ s.model.isWatching = true ∧
      NoStuckFlags s :=
  ⟨watchedTaskSystem.cancel, by decide, by decide,
    activity_flags_backed (watchedTaskSystem_run.snoc ⟨Step.cancel _, trivial⟩)⟩

/-- The submission mode changes while a cancellation is in flight, whose answer then leaves the
flag up with nothing in flight. -/
theorem cancelling_stuck :
    ∃ (labels : List (Label Unit)) (s : TaskSystem Unit),
      Run Step (initial none) labels s ∧ s.model.isCancelling = true ∧ ¬ NoStuckFlags s := by
  have unwatched : Step watchedTaskSystem (.answered 1)
      (watchedTaskSystem.failWatcher 1 "task" 1 3) := Step.failWatcher rfl
  have cancelled := Step.cancel (watchedTaskSystem.failWatcher 1 "task" 1 3)
  have changed := Step.changeSubmissionMode
    (watchedTaskSystem.failWatcher 1 "task" 1 3).cancel .download
  generalize hstuck : ((watchedTaskSystem.failWatcher 1 "task" 1 3).cancel.setModel
    ((watchedTaskSystem.failWatcher 1 "task" 1 3).cancel.model.changeSubmissionMode
      .download)) = stuck at changed
  have answered : Step stuck (.answered 2)
      (stuck.finishCancellation 2 1 "task" 2 none false) := by
    subst hstuck
    exact Step.cancellation rfl none false
  refine ⟨_, _, (((watchedTaskSystem_run.of_guarded.snoc unwatched).snoc cancelled).snoc
    changed).snoc answered, ?_, fun backed => ?_⟩
  · subst hstuck
    decide
  · have hflag : (stuck.finishCancellation 2 1 "task" 2 none false).model.flag .cancelling =
        true := by
      subst hstuck
      decide
    obtain ⟨id, hpending, _⟩ := backed.pending .cancelling nofun hflag
    subst hstuck
    match id with
    | 0 => cases hpending
    | 1 => cases hpending
    | 2 => cases hpending
    | id + 3 => cases hpending

end TaskSystem

end NetPlayer.Client
