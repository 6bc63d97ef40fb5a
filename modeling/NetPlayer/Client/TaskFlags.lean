import Mathlib.Logic.Function.Basic
import NetPlayer.Client.TaskView

/-!
# The activity flags of the task view model

Every action that waits for the server raises a flag and lowers it when its answer comes back
under the sequence it was sent with. Other actions move the sequence in between. Texts, media
addresses, result pages and the playback that is running are left out. What a check reads of
them, of the checkpoint and of the entered input is an argument of the action that makes it.
-/

namespace NetPlayer.Client

inductive BilibiliTaskSubmissionMode
  | playback
  | download
deriving DecidableEq

structure ClientResumptionTaskIdentity (Endpoint : Type) where
  endpoint : Endpoint
  serverID : String
  taskID : String
deriving DecidableEq

inductive SavedRestoringOperationOwner
  | taskRestore (generation : Nat)
  | playbackValidation (generation : Nat)
deriving DecidableEq

/-- `resolutionSession` is the id of the session; `savedTask` the task of the stored record. -/
structure BilibiliTaskViewModel (Endpoint : Type) where
  submissionMode : BilibiliTaskSubmissionMode
  currentTask : Option CacheTask
  activeEndpoint : Option Endpoint
  activeServerID : Option String
  resolutionSession : Option String
  savedTask : Option (ClientResumptionTaskIdentity Endpoint)
  restoreAttemptIdentity : Option (ClientResumptionTaskIdentity Endpoint)
  restoredTaskIdentity : Option (ClientResumptionTaskIdentity Endpoint)
  isSubmitting : Bool
  isResolving : Bool
  isCancelling : Bool
  isRestoringTask : Bool
  isWatching : Bool
  operationSequence : Nat
  candidatePageSequence : Nat
  restoreGeneration : Nat
  savedPlaybackValidationGeneration : Nat
  savedRestoringOperationOwner : Option SavedRestoringOperationOwner
  taskWatchGeneration : Nat
  taskWatchActivityGeneration : Nat
  taskSnapshotGeneration : Nat

namespace BilibiliTaskViewModel

variable {Endpoint : Type}

def initial (savedTask : Option (ClientResumptionTaskIdentity Endpoint)) :
    BilibiliTaskViewModel Endpoint where
  submissionMode := .playback
  currentTask := none
  activeEndpoint := none
  activeServerID := none
  resolutionSession := none
  savedTask := savedTask
  restoreAttemptIdentity := none
  restoredTaskIdentity := none
  isSubmitting := false
  isResolving := false
  isCancelling := false
  isRestoringTask := false
  isWatching := false
  operationSequence := 0
  candidatePageSequence := 0
  restoreGeneration := 0
  savedPlaybackValidationGeneration := 0
  savedRestoringOperationOwner := none
  taskWatchGeneration := 0
  taskWatchActivityGeneration := 0
  taskSnapshotGeneration := 0

variable (m : BilibiliTaskViewModel Endpoint)

def currentTaskID : Option String :=
  m.currentTask.map CacheTask.id

/-- The part of `canSubmit` and of `canReResolve` that looks at the flags. -/
def isIdle : Bool :=
  !m.isSubmitting && !m.isResolving && !m.isCancelling

def canReResolve (resolvedInputMatchesSource : Bool) : Bool :=
  m.isIdle && m.currentTask.isNone && resolvedInputMatchesSource

def canCancel (task : CacheTask) : Bool :=
  !m.isSubmitting && !task.isTerminalBilibiliTaskState &&
    !task.isCancellationPendingBilibiliTaskState && !m.isCancelling

def stopWatching : BilibiliTaskViewModel Endpoint :=
  { m with taskWatchGeneration := m.taskWatchGeneration + 1, isWatching := false }

variable (taskID : String)

def isTaskWatchCurrent (sequence generation : Nat) : Bool :=
  sequence == m.operationSequence && generation == m.taskWatchGeneration && m.isWatching &&
    m.currentTaskID == some taskID

def keepsWatching : Bool :=
  m.currentTask.any CacheTask.shouldKeepWatchingBilibiliTask

def taskWatchNeedsRecovery (sequence generation : Nat) : Bool :=
  m.isTaskWatchCurrent taskID sequence generation && m.keepsWatching

def finishWatching (sequence generation : Nat) : BilibiliTaskViewModel Endpoint :=
  if m.isTaskWatchCurrent taskID sequence generation then { m with isWatching := false } else m

def isCurrentTaskWatchReconciliation
    (sequence generation expectedSnapshotGeneration expectedActivityGeneration : Nat) : Bool :=
  m.taskWatchNeedsRecovery taskID sequence generation && !m.isCancelling &&
    m.taskSnapshotGeneration == expectedSnapshotGeneration &&
    m.taskWatchActivityGeneration == expectedActivityGeneration

def accepts (task : CacheTask) (taskID : String) : Bool :=
  task.id == taskID && m.currentTask.any fun currentTask =>
    currentTask.id == taskID && canApplyWatchedSnapshot task currentTask

def beginSavedRestoringOperation (owner : SavedRestoringOperationOwner) :
    BilibiliTaskViewModel Endpoint :=
  { m with savedRestoringOperationOwner := some owner, isRestoringTask := true }

def finishSavedRestoringOperation (owner : SavedRestoringOperationOwner) :
    BilibiliTaskViewModel Endpoint :=
  if m.savedRestoringOperationOwner = some owner then
    { m with savedRestoringOperationOwner := none, isRestoringTask := false }
  else m

/-- The operation that owns `isRestoringTask` is given up, whichever it is. -/
def finishSavedRestoring : BilibiliTaskViewModel Endpoint :=
  match m.savedRestoringOperationOwner with
  | some owner => m.finishSavedRestoringOperation owner
  | none => m

def invalidateSavedPlaybackValidation : BilibiliTaskViewModel Endpoint :=
  { m with savedPlaybackValidationGeneration :=
      m.savedPlaybackValidationGeneration + 1 }.finishSavedRestoringOperation
    (.playbackValidation m.savedPlaybackValidationGeneration)

def clearResolutionSession : BilibiliTaskViewModel Endpoint :=
  { m with
    candidatePageSequence := m.candidatePageSequence + 1
    resolutionSession := none }

def invalidateResolutionForExpiry : BilibiliTaskViewModel Endpoint :=
  { m.clearResolutionSession with isResolving := false, isSubmitting := false }

def discardStaleResolveSubmission : BilibiliTaskViewModel Endpoint :=
  { m.clearResolutionSession with
    currentTask := none
    isResolving := false
    isSubmitting := false }

variable [DecidableEq Endpoint] (identity : ClientResumptionTaskIdentity Endpoint)

def belongsTo : Bool :=
  m.restoreAttemptIdentity == some identity || m.restoredTaskIdentity == some identity ||
    (m.currentTaskID == some identity.taskID && m.activeEndpoint == some identity.endpoint)

/-- The test of `invalidateSavedRestore` for what it clears. -/
def belongsToSavedTask : Bool :=
  ((m.savedTask.or m.restoreAttemptIdentity).or m.restoredTaskIdentity).any m.belongsTo

def invalidateSavedRestore : BilibiliTaskViewModel Endpoint :=
  let cleared := { m with restoreGeneration :=
    m.restoreGeneration + 1 }.invalidateSavedPlaybackValidation
  let left :=
    if m.belongsToSavedTask then
      { cleared.stopWatching with
        operationSequence := cleared.operationSequence + 1
        currentTask := none
        activeEndpoint := none
        activeServerID := none
        restoredTaskIdentity := none
        taskSnapshotGeneration := cleared.taskSnapshotGeneration + 1 }
    else cleared
  { left with restoreAttemptIdentity := none }.finishSavedRestoring

def isSavedRestoreCurrent (generation sequence : Nat) : Bool :=
  m.restoreGeneration == generation && m.operationSequence == sequence &&
    m.restoreAttemptIdentity == some identity &&
    m.savedRestoringOperationOwner == some (.taskRestore generation) &&
    m.savedTask == some identity && m.isRestoringTask

def displaysSavedTask : Bool :=
  m.currentTaskID == some identity.taskID && m.activeEndpoint == some identity.endpoint &&
    m.activeServerID == some identity.serverID && m.restoredTaskIdentity == some identity

def isSavedPlaybackPreparationOperationCurrent
    (validationGeneration restoreGeneration operation : Nat) : Bool :=
  validationGeneration == m.savedPlaybackValidationGeneration &&
    restoreGeneration == m.restoreGeneration && operation == m.operationSequence &&
    m.savedRestoringOperationOwner == some (.playbackValidation validationGeneration) &&
    m.savedTask == some identity && m.displaysSavedTask identity

/-- The part of `applyTaskUpdate` before a validation may be scheduled. -/
def applyTaskUpdate (task : CacheTask) : BilibiliTaskViewModel Endpoint :=
  let seen :=
    if m.currentTaskID ≠ some task.id then m.invalidateSavedPlaybackValidation else m
  let shown := { seen with
    taskSnapshotGeneration :=
      if seen.currentTask ≠ some task then seen.taskSnapshotGeneration + 1
      else seen.taskSnapshotGeneration
    currentTask := some task
    isCancelling := seen.isCancelling && !task.isTerminalBilibiliTaskState }
  if task.shouldKeepWatchingBilibiliTask then shown else shown.stopWatching

def changeSubmissionMode (mode : BilibiliTaskSubmissionMode) : BilibiliTaskViewModel Endpoint :=
  if m.submissionMode ≠ mode then
    { m.clearResolutionSession with
      submissionMode := mode
      operationSequence := m.operationSequence + 1
      isSubmitting := false
      isResolving := false }
  else m

def clearTaskState (forgetSavedRecord : Bool) : BilibiliTaskViewModel Endpoint :=
  { { m with
      operationSequence := m.operationSequence + 1
      restoreGeneration := m.restoreGeneration + 1
    }.invalidateSavedPlaybackValidation.clearResolutionSession.stopWatching with
    activeEndpoint := none
    activeServerID := none
    restoredTaskIdentity := none
    restoreAttemptIdentity := none
    currentTask := none
    isSubmitting := false
    isResolving := false
    isCancelling := false
    savedRestoringOperationOwner := none
    isRestoringTask := false
    savedTask := if forgetSavedRecord then none else m.savedTask }

end BilibiliTaskViewModel

/-- `hasItem` holds of the results that belong to the deleted library item. -/
def CacheTask.clearingBilibiliResultLibraryItem (task : CacheTask)
    (hasItem : BilibiliTaskResultItem → Bool) : CacheTask :=
  { task with resultItems := task.resultItems.map fun item =>
      if hasItem item then { item with state := "TASK_STATE_FAILED" } else item }

inductive RestorePhase
  | serverInfo
  | task
  | playback (task : CacheTask)
deriving DecidableEq

/-- What waits for an answer, with what it compares when the answer comes. -/
inductive Operation (Endpoint : Type)
  | submission (sequence : Nat) (submittedMode : BilibiliTaskSubmissionMode)
      (endpoint : Endpoint)
  | reResolution (sequence : Nat)
  | creation (sequence : Nat) (endpoint : Endpoint)
  | cancellation (sequence : Nat) (targetTaskID : String) (cancellationGeneration : Nat)
  | candidatePage (sessionID : String) (operation pageSequence : Nat)
  | restore (identity : ClientResumptionTaskIdentity Endpoint) (generation sequence : Nat)
      (phase : RestorePhase)
  | scheduledValidation (identity : ClientResumptionTaskIdentity Endpoint) (generation : Nat)
  | validation (identity : ClientResumptionTaskIdentity Endpoint)
      (validationGeneration restoreGeneration operation : Nat)
  | watcher (taskID : String) (sequence generation : Nat)
  | reconciliation (taskID : String) (sequence generation : Nat)

inductive Resolution
  | failed
  | resolved (sessionID serverID : String) (totalSize : Nat) (hasCandidate : Bool)

structure TaskSystem (Endpoint : Type) where
  model : BilibiliTaskViewModel Endpoint
  pending : Nat → Option (Operation Endpoint)
  next : Nat

namespace TaskSystem

variable {Endpoint : Type}

def initial (savedTask : Option (ClientResumptionTaskIdentity Endpoint)) : TaskSystem Endpoint where
  model := .initial savedTask
  pending := fun _ => none
  next := 0

variable (s : TaskSystem Endpoint)

def setModel (m : BilibiliTaskViewModel Endpoint) : TaskSystem Endpoint :=
  { s with model := m }

variable (id : Nat)

def setOperation (operation : Operation Endpoint) : TaskSystem Endpoint :=
  { s with pending := Function.update s.pending id (some operation) }

def complete : TaskSystem Endpoint :=
  { s with pending := Function.update s.pending id none }

def spawn (operation : Operation Endpoint) : TaskSystem Endpoint :=
  { s.setOperation s.next operation with next := s.next + 1 }

variable [DecidableEq Endpoint]

def startWatching (taskID : String) (sequence : Nat) : TaskSystem Endpoint :=
  let m := s.model.stopWatching
  if m.currentTaskID = some taskID ∧ m.keepsWatching = true then
    (s.setModel { m with isWatching := true }).spawn
      (.watcher taskID sequence m.taskWatchGeneration)
  else s.setModel m

/-- `changed` says that a checkpoint of the displayed task has another source than the one that
was validated or tried last. -/
def scheduleSavedPlaybackValidationIfNeeded (changed : Bool) : TaskSystem Endpoint :=
  match s.model.savedTask with
  | none => s
  | some identity =>
    if changed = true ∧ s.model.restoredTaskIdentity = some identity ∧
        s.model.currentTaskID = some identity.taskID ∧ s.model.isRestoringTask = false ∧
        s.model.isIdle = true then
      let m := s.model.invalidateSavedPlaybackValidation
      (s.setModel m).spawn (.scheduledValidation identity m.savedPlaybackValidationGeneration)
    else s

def applyTaskUpdate (s : TaskSystem Endpoint) (task : CacheTask) (changed : Bool) :
    TaskSystem Endpoint :=
  (s.setModel (s.model.applyTaskUpdate task)).scheduleSavedPlaybackValidationIfNeeded changed

/-- `createTaskV2` up to its request. -/
def createTaskV2 (endpoint : Endpoint) (sequence : Nat) : TaskSystem Endpoint :=
  if sequence ≠ s.model.operationSequence then s.complete id
  else
    (s.setModel { s.model.invalidateSavedPlaybackValidation.stopWatching with
      activeEndpoint := some endpoint
      isSubmitting := true
      isResolving := false }).setOperation id (.creation sequence endpoint)

/-- `submit` up to its request. `selected` says that a selection of resolved candidates matches
the entered input. -/
def submit (endpoint : Endpoint) (selected : Bool) : TaskSystem Endpoint :=
  if s.model.isIdle = false then s
  else if s.model.currentTask = none ∧ selected = true then
    if s.model.resolutionSession = none then s
    else { s with next := s.next + 1 }.createTaskV2 s.next endpoint s.model.operationSequence
  else
    let m :=
      s.model.invalidateSavedPlaybackValidation.finishSavedRestoring.stopWatching
    (s.setModel { m.clearResolutionSession with
      operationSequence := m.operationSequence + 1
      restoredTaskIdentity := none
      restoreAttemptIdentity := none
      activeEndpoint := some endpoint
      activeServerID := none
      currentTask := none
      isSubmitting := true
      isResolving := true }).spawn
      (.submission (m.operationSequence + 1) m.submissionMode endpoint)

/-- The rest of `submit` up to the request of `createTaskV2`. -/
def finishSubmission (id sequence : Nat) (submittedMode : BilibiliTaskSubmissionMode)
    (endpoint : Endpoint) (currentSubmissionMatches : Bool) (resolution : Resolution) :
    TaskSystem Endpoint :=
  if s.model.submissionMode ≠ submittedMode then
    if s.model.operationSequence = sequence + 1 then
      (s.setModel s.model.discardStaleResolveSubmission).complete id
    else s.complete id
  else if sequence ≠ s.model.operationSequence then s.complete id
  else if currentSubmissionMatches = false then
    (s.setModel s.model.discardStaleResolveSubmission).complete id
  else
    match resolution with
    | .failed => (s.setModel s.model.discardStaleResolveSubmission).complete id
    | .resolved sessionID serverID totalSize hasCandidate =>
      let m := { s.model with
        activeServerID := some serverID
        resolutionSession := some sessionID
        isResolving := false }
      if totalSize = 1 ∧ hasCandidate = true then
        (s.setModel m).createTaskV2 id endpoint sequence
      else (s.setModel { m with isSubmitting := false }).complete id

/-- `createTaskV2` after its request. `identity` is what is remembered of the task. -/
def finishCreation (id sequence : Nat) (task : CacheTask)
    (identity : Option (ClientResumptionTaskIdentity Endpoint)) (changed : Bool) :
    TaskSystem Endpoint :=
  if sequence ≠ s.model.operationSequence then s.complete id
  else
    let shown := (s.setModel { s.model with
      savedTask := identity
      restoredTaskIdentity := none
      restoreAttemptIdentity := none }).applyTaskUpdate task changed
    let created := shown.setModel { shown.model with isSubmitting := false }
    if task.shouldKeepWatchingBilibiliTask then
      (created.startWatching task.id sequence).complete id
    else created.complete id

def failCreation (id sequence : Nat) (pageExpired : Bool) : TaskSystem Endpoint :=
  if sequence ≠ s.model.operationSequence then s.complete id
  else
    let m := { s.model with currentTask := none }
    if pageExpired then (s.setModel m.invalidateResolutionForExpiry).complete id
    else (s.setModel { m with isSubmitting := false }).complete id

/-- `reResolve` up to its request. -/
def reResolve (endpoint : Endpoint) (resolvedInputMatchesSource : Bool) : TaskSystem Endpoint :=
  if s.model.canReResolve resolvedInputMatchesSource = false then s
  else
    let m := s.model.stopWatching
    (s.setModel { m with
      operationSequence := m.operationSequence + 1
      candidatePageSequence := m.candidatePageSequence + 1
      activeEndpoint := some endpoint
      activeServerID := none
      isResolving := true
      isSubmitting := false }).spawn (.reResolution (m.operationSequence + 1))

def finishReResolution (id sequence : Nat) (currentSubmissionMatches : Bool)
    (resolution : Resolution) : TaskSystem Endpoint :=
  if sequence ≠ s.model.operationSequence then s.complete id
  else if currentSubmissionMatches = false then
    (s.setModel s.model.discardStaleResolveSubmission).complete id
  else
    match resolution with
    | .failed =>
      (s.setModel { s.model with
        currentTask := none
        isResolving := false
        isSubmitting := false }).complete id
    | .resolved sessionID serverID _ _ =>
      (s.setModel { s.model with
        activeServerID := some serverID
        resolutionSession := some sessionID
        isResolving := false }).complete id

def loadMoreResolvedCandidates : TaskSystem Endpoint :=
  match s.model.resolutionSession with
  | none => s
  | some sessionID =>
    let m := { s.model with candidatePageSequence := s.model.candidatePageSequence + 1 }
    (s.setModel m).spawn (.candidatePage sessionID m.operationSequence m.candidatePageSequence)

def finishCandidatePage (sessionID : String) (operation pageSequence : Nat) (expired : Bool) :
    TaskSystem Endpoint :=
  if operation = s.model.operationSequence ∧ pageSequence = s.model.candidatePageSequence ∧
      s.model.resolutionSession = some sessionID ∧ expired = true then
    (s.setModel s.model.invalidateResolutionForExpiry).complete id
  else s.complete id

/-- `cancel` up to its request. -/
def cancel : TaskSystem Endpoint :=
  match s.model.currentTask with
  | none => s
  | some task =>
    if s.model.canCancel task then
      let m := { s.model with
        taskSnapshotGeneration := s.model.taskSnapshotGeneration + 1
        isCancelling := true }
      (s.setModel m).spawn
        (.cancellation m.operationSequence task.id m.taskSnapshotGeneration)
    else s

def notCancelling : TaskSystem Endpoint :=
  s.setModel { s.model with isCancelling := false }

/-- The rest of `cancel`. No answer stands for a request that failed. -/
def finishCancellation (id sequence : Nat) (targetTaskID : String)
    (cancellationGeneration : Nat) (answer : Option CacheTask) (changed : Bool) :
    TaskSystem Endpoint :=
  match s.model.currentTask with
  | none => s.complete id
  | some currentTask =>
    if sequence ≠ s.model.operationSequence ∨ currentTask.id ≠ targetTaskID then
      s.complete id
    else if currentTask.isTerminalBilibiliTaskState then
      (s.applyTaskUpdate currentTask changed).notCancelling.complete id
    else
      match answer with
      | none => s.notCancelling.complete id
      | some task =>
        if task.id ≠ targetTaskID then s.notCancelling.complete id
        else if currentTask.isCancellationPendingBilibiliTaskState &&
            !task.isTerminalBilibiliTaskState then
          (s.applyTaskUpdate currentTask changed).notCancelling.complete id
        else if s.model.taskSnapshotGeneration ≠ cancellationGeneration ∧
            task.isQueuedOrRunningBilibiliTaskState = true then
          s.notCancelling.complete id
        else (s.applyTaskUpdate task changed).notCancelling.complete id

def invalidatesSavedRestore (m : BilibiliTaskViewModel Endpoint)
    (requestedEndpoint : Option Endpoint) : Bool :=
  match m.savedTask with
  | none => true
  | some identity => requestedEndpoint != some identity.endpoint

/-- `restoreSavedTask` up to its first request. -/
def restoreSavedTask (requestedEndpoint : Option Endpoint) (force : Bool) : TaskSystem Endpoint :=
  match s.model.savedTask with
  | none => s.setModel s.model.invalidateSavedRestore
  | some identity =>
    if requestedEndpoint ≠ some identity.endpoint then
      s.setModel s.model.invalidateSavedRestore
    else if force = false ∧ s.model.isRestoringTask = true ∧
        s.model.restoreAttemptIdentity = some identity then s
    else if force = false ∧ s.model.restoredTaskIdentity = some identity ∧
        s.model.currentTaskID = some identity.taskID ∧
        s.model.activeEndpoint = some identity.endpoint ∧ s.model.isWatching = true then s
    else if s.model.isIdle = false then s
    else
      let m := s.model.invalidateSavedPlaybackValidation.stopWatching.clearResolutionSession
      let generation := m.restoreGeneration + 1
      let sequence := m.operationSequence + 1
      (s.setModel ({ m with
        restoreGeneration := generation
        operationSequence := sequence
        activeEndpoint := none
        activeServerID := none
        restoredTaskIdentity := none
        restoreAttemptIdentity := some identity
        currentTask := none
        taskSnapshotGeneration := m.taskSnapshotGeneration + 1
        isSubmitting := false
        isResolving := false
        isCancelling := false }.beginSavedRestoringOperation (.taskRestore generation))).spawn
        (.restore identity generation sequence .serverInfo)

def endRestore (id generation : Nat) : TaskSystem Endpoint :=
  let m := s.model.finishSavedRestoringOperation (.taskRestore generation)
  (s.setModel { m with restoreAttemptIdentity :=
    if m.restoreGeneration = generation then none else m.restoreAttemptIdentity }).complete id

def restoreServerInfo (identity : ClientResumptionTaskIdentity Endpoint)
    (generation sequence : Nat) (serverID : String) : TaskSystem Endpoint :=
  if s.model.isSavedRestoreCurrent identity generation sequence = true ∧
      serverID = identity.serverID then
    s.setOperation id (.restore identity generation sequence .task)
  else s.endRestore id generation

def restoreTask (identity : ClientResumptionTaskIdentity Endpoint) (generation sequence : Nat)
    (task : CacheTask) (isBilibili hasCheckpoint changed : Bool) : TaskSystem Endpoint :=
  if s.model.isSavedRestoreCurrent identity generation sequence = true ∧
      task.id = identity.taskID ∧ isBilibili = true then
    let shown := (s.setModel { s.model with
      activeEndpoint := some identity.endpoint
      activeServerID := some identity.serverID
      restoredTaskIdentity := some identity }).applyTaskUpdate task changed
    if hasCheckpoint then
      shown.setOperation id (.restore identity generation sequence (.playback task))
    else if task.shouldKeepWatchingBilibiliTask then
      (shown.startWatching task.id sequence).endRestore id generation
    else shown.endRestore id generation
  else s.endRestore id generation

/-- The saved playback was prepared or not; `watches` says that the restore did not return. -/
def restorePlayback (identity : ClientResumptionTaskIdentity Endpoint)
    (generation sequence : Nat) (task : CacheTask) (watches : Bool) : TaskSystem Endpoint :=
  if s.model.isSavedRestoreCurrent identity generation sequence = true ∧ watches = true ∧
      task.shouldKeepWatchingBilibiliTask = true then
    (s.startWatching task.id sequence).endRestore id generation
  else s.endRestore id generation

/-- `runSavedPlaybackPreparation` up to its first request. `observed` says that the checkpoint
is the stored one and has a source in the displayed task. -/
def runSavedPlaybackPreparation (identity : ClientResumptionTaskIdentity Endpoint)
    (validationGeneration : Nat) (observed : Bool) : TaskSystem Endpoint :=
  if validationGeneration = s.model.savedPlaybackValidationGeneration ∧
      s.model.isIdle = true ∧ s.model.isRestoringTask = false ∧
      s.model.savedTask = some identity ∧ s.model.displaysSavedTask identity = true ∧
      observed = true then
    (s.setModel (s.model.beginSavedRestoringOperation
      (.playbackValidation validationGeneration))).setOperation id
      (.validation identity validationGeneration s.model.restoreGeneration
        s.model.operationSequence)
  else s.complete id

/-- `prepareSavedPlayback` and `revalidateSavedPlaybackOnActivation` up to their first request.
Only the former invalidates on another address. -/
def prepareSavedPlayback (requestedEndpoint : Option Endpoint)
    (onActivation hasCheckpoint observed : Bool) : TaskSystem Endpoint :=
  match s.model.savedTask with
  | none => s
  | some identity =>
    if hasCheckpoint = false then s
    else if requestedEndpoint ≠ some identity.endpoint then
      if onActivation then s else s.setModel s.model.invalidateSavedRestore
    else if s.model.isIdle = true ∧ s.model.isRestoringTask = false ∧
        s.model.displaysSavedTask identity = true then
      let m := s.model.invalidateSavedPlaybackValidation
      { s.setModel m with next := s.next + 1 }.runSavedPlaybackPreparation s.next identity
        m.savedPlaybackValidationGeneration observed
    else s

def finishValidation (identity : ClientResumptionTaskIdentity Endpoint)
    (validationGeneration restoreGeneration operation : Nat) (serverIdentityChanged : Bool) :
    TaskSystem Endpoint :=
  let m :=
    if serverIdentityChanged = true ∧ s.model.isSavedPlaybackPreparationOperationCurrent identity
        validationGeneration restoreGeneration operation = true then
      s.model.invalidateSavedRestore
    else s.model
  (s.setModel (m.finishSavedRestoringOperation
    (.playbackValidation validationGeneration))).complete id

/-- `topLevel` says that the task itself is the deleted library item; `inPage` that a loaded page
of results has it; `selected` that it is the source of the saved playback. -/
def clearTaskIfCachedLibraryItemDeleted (hasItem : BilibiliTaskResultItem → Bool)
    (topLevel inPage selected : Bool) : TaskSystem Endpoint :=
  match s.model.currentTask with
  | none => s
  | some task =>
    if (topLevel || task.resultItems.any hasItem || inPage || selected) = true then
      let m := if selected then s.model.invalidateSavedPlaybackValidation else s.model
      if topLevel then s.setModel (m.clearTaskState false)
      else s.setModel { m with
        currentTask := some (task.clearingBilibiliResultLibraryItem hasItem)
        taskSnapshotGeneration := m.taskSnapshotGeneration + 1 }
    else s

/-- `failed` says that the last watch ended with a message. -/
def retryTaskUpdates (failed : Bool) : TaskSystem Endpoint :=
  match s.model.currentTask with
  | none => s
  | some task =>
    if s.model.isWatching = false ∧ failed = true ∧ s.model.activeEndpoint.isSome = true ∧
        task.shouldKeepWatchingBilibiliTask = true then
      s.startWatching task.id s.model.operationSequence
    else s

/-- `applyWatchedTask`; the watcher goes on if the answer says so. -/
def watchedTask (taskID : String) (sequence generation : Nat) (task : CacheTask)
    (changed : Bool) : TaskSystem Endpoint :=
  if s.model.isTaskWatchCurrent taskID sequence generation then
    if s.model.accepts task taskID then
      let shown := (s.setModel { s.model with
        taskWatchActivityGeneration := s.model.taskWatchActivityGeneration + 1
        }).applyTaskUpdate task changed
      if task.shouldKeepWatchingBilibiliTask then shown else shown.complete id
    else s
  else s.complete id

/-- `applyReconciledTask`; what brought the task goes on if the answer says so. -/
def reconciledTask (taskID : String) (sequence generation expectedSnapshotGeneration : Nat)
    (task : CacheTask) (changed : Bool) : TaskSystem Endpoint :=
  if s.model.isTaskWatchCurrent taskID sequence generation then
    if s.model.taskSnapshotGeneration = expectedSnapshotGeneration ∧
        s.model.accepts task taskID = true then
      let shown := s.applyTaskUpdate task changed
      if task.shouldKeepWatchingBilibiliTask then shown else shown.complete id
    else s
  else s.complete id

def finishReconciliation (taskID : String)
    (sequence generation expectedSnapshotGeneration expectedActivityGeneration : Nat)
    (task : CacheTask) (changed : Bool) : TaskSystem Endpoint :=
  if s.model.isCurrentTaskWatchReconciliation taskID sequence generation
      expectedSnapshotGeneration expectedActivityGeneration then
    s.reconciledTask id taskID sequence generation expectedSnapshotGeneration task changed
  else if s.model.isTaskWatchCurrent taskID sequence generation then s
  else s.complete id

def checkWatcher (taskID : String) (sequence generation : Nat) : TaskSystem Endpoint :=
  if s.model.taskWatchNeedsRecovery taskID sequence generation then s else s.complete id

/-- A failure that is not retried, or the last attempt. -/
def failWatcher (taskID : String) (sequence generation : Nat) : TaskSystem Endpoint :=
  (s.setModel (s.model.finishWatching taskID sequence generation)).complete id

def startTaskWatchReconciliation (taskID : String) (sequence generation : Nat) :
    TaskSystem Endpoint :=
  if s.model.isTaskWatchCurrent taskID sequence generation then
    s.spawn (.reconciliation taskID sequence generation)
  else s

def failReconciliation (taskID : String)
    (sequence generation expectedSnapshotGeneration expectedActivityGeneration : Nat)
    (givesUp : Bool) : TaskSystem Endpoint :=
  if s.model.isTaskWatchCurrent taskID sequence generation then
    if s.model.isCurrentTaskWatchReconciliation taskID sequence generation
        expectedSnapshotGeneration expectedActivityGeneration then
      if givesUp then s.failWatcher id taskID sequence generation
      else (s.startWatching taskID sequence).complete id
    else s
  else s.complete id

end TaskSystem

end NetPlayer.Client
