import NetPlayer.Tasks.Transitions

/-!
# The terminal publication of a download

The worker of a download publishes its output: it stages the resources, writes their bodies
and commits them with the terminal state. What the registry could not save is saved again
before the next attempt. A publication that fails for another reason is followed by a
completion without output. A cancellation may come between any two of these.
-/

namespace NetPlayer.Downloads

open Tasks

variable {Output : Type}

/-- What one call of `complete_v2_terminal_task` publishes. `replace` is the output record
that the results and resources make over the previous one. -/
structure TerminalPublication (Output : Type) where
  taskId : String
  libraryItemId : String
  message : String
  terminalState : TaskState
  resourceIds : List String
  resourcesOf : Output → List String
  replace : Option Output → Except Status (Output × List (String × TaskState × String × String))

/-- The answers that a staging meets: the checks before the claim, the claim, the save of the
expired resources it retires, and the storage after that. -/
structure StageInput where
  refused : Option Status
  claims : Option Status
  retire : SaveInput
  taskIds : List String
  now : Timestamp
  storage : Option Status

structure CommitInput where
  identities : Option Status
  retire : SaveInput
  taskIds : List String
  refused : Option Status
  claims : Option Status
  now : Timestamp
  save : SaveInput

/-- What the worker does next. A recovery remembers the completion it belongs to, and there
is none while the output is being published. -/
inductive PublicationPhase
  | staging
  | writing (remaining : List String)
  | recovering (completion : Option TaskState)
  | completing (state : TaskState)
  | finished (rejected : Bool)
  deriving DecidableEq

/-- `swept` are the staged bodies that a failed attempt gets to remove. -/
inductive PublicationEvent
  | cancel (recovery input : SaveInput) (now : Timestamp)
  | stage (input : StageInput)
  | write (answer : Option Status) (swept : String → Bool)
  | commit (input : CommitInput) (swept : String → Bool)
  | recover (input : SaveInput)
  | complete (recovery input : SaveInput) (now : Timestamp)

/-- The registry, the bodies of the staged resources, and the state and the output that an
attempt of this call installed, which no step reads. -/
structure PublicationState (Output : Type) where
  registry : Registry Output
  bodies : String → Bool
  phase : PublicationPhase
  published : Option (TaskState × Output)

def completionMessage (state : TaskState) : String :=
  if state = .cancelled then "Cancelled by request."
  else "Bilibili download output could not be published."

/-- Where an attempt that returned an error leads: `completion` is the state of a completion
without output, and `none` for the publication. -/
def afterError (completion : Option TaskState) (error : Status) : PublicationPhase :=
  if error.code = .unavailable then .recovering completion
  else match completion with
    | none => .completing (if error.code = .cancelled then .cancelled else .failed)
    | some _ => .finished false

/-- Where a successful attempt leads: a save that is not durable is made so first. -/
def afterSuccess (config : Config Output) (registry : Registry Output)
    (completion : Option TaskState) : PublicationPhase :=
  if !config.persistence || registry.available then .finished false else .recovering completion

namespace PublicationState

variable (publication : TerminalPublication Output)

def resourcesAt (registry : Registry Output) : List String :=
  ((registry.outputsByTaskId publication.taskId).map publication.resourcesOf).getD []

variable (s : PublicationState Output)

def rejectStaged (swept : String → Bool) : PublicationState Output :=
  { s with bodies := fun id =>
      s.bodies id && !(publication.resourceIds.contains id && swept id &&
        !(resourcesAt publication s.registry).contains id) }

def fail (swept : String → Bool) (error : Status) : PublicationState Output :=
  { s.rejectStaged publication swept with phase := afterError none error }

variable (config : Config Output)

/-- `stage_task_output_replacement`, after the checks of the output. -/
def stage (publication : TerminalPublication Output) (s : PublicationState Output)
    (input : StageInput) : PublicationState Output :=
  match input.refused with
  | some error => { s with phase := afterError none error }
  | none =>
    match s.registry.tasksById publication.taskId with
    | none => { s with phase := afterError none taskNotFound }
    | some _ =>
      match input.claims with
      | some error => { s with phase := afterError none error }
      | none =>
        let needed := publication.resourceIds.filter fun id =>
          !(resourcesAt publication s.registry).contains id
        let staged := { s with registry := (s.registry.retireExpiredTaskResourcesExcept
          config input.retire input.taskIds publication.resourceIds input.now).1 }
        match input.storage with
        | some error => { staged with phase := afterError none error }
        | none => { staged with phase := .writing needed }

def installedBy : Option (TaskState × Output) :=
  match s.registry.tasksById publication.taskId,
    publication.replace (s.registry.outputsByTaskId publication.taskId) with
  | some task, .ok (output, _) =>
    if task.state.isTerminal then s.published
    else some (task.state.orCancelled publication.terminalState, output)
  | _, _ => s.published

def terminalStateRefused : Status :=
  ⟨.invalidArgument,
    "Download terminal publication requires succeeded, failed, or cancelled state."⟩

def replacement (claims : Option Status) :
    Except Status (Output × List (String × TaskState × String × String)) :=
  match claims with
  | some error => .error error
  | none => publication.replace (s.registry.outputsByTaskId publication.taskId)

def commitStaged (publication : TerminalPublication Output) (s : PublicationState Output)
    (input : CommitInput) (swept : String → Bool) : PublicationState Output :=
  let reply := s.registry.commitStagedDownloadTerminal config input.save publication.taskId
    publication.terminalState publication.libraryItemId publication.message
    (s.replacement publication input.claims) input.now
  match reply.2 with
  | .ok _ =>
    { s with
      registry := reply.1
      published := s.installedBy publication
      phase := afterSuccess config reply.1 none }
  | .error error =>
    ({ s with registry := reply.1 } : PublicationState Output).fail publication swept error

def commit (publication : TerminalPublication Output) (s : PublicationState Output)
    (input : CommitInput) (swept : String → Bool) : PublicationState Output :=
  match (if publication.terminalState = .succeeded ∨ publication.terminalState = .failed ∨
      publication.terminalState = .cancelled then input.identities
      else some terminalStateRefused) with
  | some error => s.fail publication swept error
  | none =>
    let retired := { s with registry := (s.registry.retireExpiredTaskResourcesExcept
      config input.retire input.taskIds publication.resourceIds input.now).1 }
    match input.refused with
    | some error => retired.fail publication swept error
    | none => retired.commitStaged config publication input swept

/-- `retry_pending_task_persistence`, with what its outcome leads to. -/
def recover (config : Config Output) (s : PublicationState Output) (input : SaveInput)
    (completion : Option TaskState) : PublicationState Output :=
  let saved := s.registry.persistCurrentState config input true false
  { s with
    registry := saved.1
    phase := match saved.2 with
      | .durable => completion.elim .staging .completing
      | .installedButNotDurable | .rejected .retryable => .recovering completion
      | .volatile | .rejected .permanent =>
        if completion = none then .completing .failed else .finished true }

def complete (publication : TerminalPublication Output) (s : PublicationState Output)
    (state : TaskState) (recovery input : SaveInput) (now : Timestamp) : PublicationState Output :=
  let reply := s.registry.completeTask config recovery input publication.taskId state
    (completionMessage state) none none now
  { s with
    registry := reply.1
    phase := match reply.2 with
      | .ok _ => afterSuccess config reply.1 (some state)
      | .error error => afterError (some state) error }

def step (publication : TerminalPublication Output) (s : PublicationState Output) :
    PublicationEvent → Option (PublicationState Output)
  | .cancel recovery input now =>
    match s.phase with
    | .finished _ => none
    | _ => some { s with
        registry := (s.registry.cancelTask config recovery input publication.taskId now).1 }
  | .stage input =>
    if s.phase = .staging then some (s.stage config publication input) else none
  | .write answer swept =>
    match s.phase, answer with
    | .writing (_ :: _), some error => some (s.fail publication swept error)
    | .writing (id :: rest), none =>
      some { s with
        bodies := fun other => s.bodies other || other == id
        phase := .writing rest }
    | _, _ => none
  | .commit input swept =>
    if s.phase = .writing [] then some (s.commit config publication input swept) else none
  | .recover input =>
    match s.phase with
    | .recovering completion => some (s.recover config input completion)
    | _ => none
  | .complete recovery input now =>
    match s.phase with
    | .completing state => some (s.complete config publication state recovery input now)
    | _ => none

end PublicationState

end NetPlayer.Downloads
