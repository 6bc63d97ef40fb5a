import NetPlayer.Downloads.Results

/-!
# A v2 download

`run_v2_download`: the loop that plans, downloads and prepares the candidates, the
publication of the task's directory with its revalidation, and the loop that maps every
candidate to its result. What the stages of each candidate return is given with the run,
and a log keeps what the stages that were reached have returned.
-/

namespace NetPlayer.Downloads

open Outputs
open Tasks (TaskState)
open Resolver (BilibiliDownloadError)

structure CandidateStages where
  cancelRequested : Bool
  plan : Except BilibiliDownloadError DownloadPlan
  directory : Except BilibiliDownloadError Unit
  options : Except BilibiliDownloadError Unit
  download : Except BilibiliDownloadError Unit
  /-- The muxed report and the number of descriptors that its validation keeps. -/
  prepared : Except BilibiliDownloadError (DownloadReport × Nat)
  cleanup : Except BilibiliDownloadError Unit
  publishedDirectory : Except BilibiliDownloadError Unit
  revalidation : Except BilibiliDownloadError Unit
  remapped : Except BilibiliDownloadError DownloadReport
  mapping : MappingOutcomes
  /-- The removal of the candidate's published directory, after a failed mapping. -/
  publishedCleanup : Except BilibiliDownloadError Unit

structure V2Download where
  taskId : String
  candidates : List (BilibiliTaskCandidateRecord × CandidateStages)
  mode : DownloadMode
  retainedDescriptorBudget : Nat
  stagingPath : String
  publishedPath : String
  /-- The client, the options and the task's directories, before the first candidate. -/
  setup : Except BilibiliDownloadError Unit
  publication : Except BilibiliDownloadError Unit

inductive StageEvent where
  | turn (offset : Nat) (cancelRequested : Bool)
  | planned (offset : Nat) (error : Option BilibiliDownloadError)
  | created (offset : Nat) (error : Option BilibiliDownloadError)
  | downloaded (offset : Nat) (error : Option BilibiliDownloadError)
  | prepared (offset : Nat) (error : Option BilibiliDownloadError)
  | cleaned (offset : Nat) (error : Option BilibiliDownloadError)
  | published (error : Option BilibiliDownloadError)
  | revalidated (offset : Nat) (error : Option BilibiliDownloadError)
  | mapped (offset : Nat) (error : Option BilibiliDownloadError)
  deriving DecidableEq

def errorOf {Value : Type} : Except BilibiliDownloadError Value → Option BilibiliDownloadError
  | .ok _ => none
  | .error error => some error

def isCancelled : Option BilibiliDownloadError → Bool
  | some (.cancelled _) => true
  | _ => false

def StageEvent.observesCancellation : StageEvent → Bool
  | .turn _ cancelRequested => cancelRequested
  | .planned _ error | .downloaded _ error | .prepared _ error | .mapped _ error =>
    isCancelled error
  | _ => false

def StageEvent.failsDirectory : StageEvent → Bool
  | .created _ error | .cleaned _ error | .published error => error.isSome
  | _ => false

inductive V2CandidateDownloadOutcome where
  | terminal (result : TaskResult)
  | downloaded (resultId : String) (plan : DownloadPlan) (report : DownloadReport)

def V2CandidateDownloadOutcome.isDownloaded : V2CandidateDownloadOutcome → Bool
  | .terminal _ => false
  | .downloaded _ _ _ => true

structure DownloadLoop where
  candidateOutcomes : List V2CandidateDownloadOutcome := []
  cancelled : Bool := false
  outputIntegrityError : Option BilibiliDownloadError := none
  retainedValidationDescriptors : Nat := 0
  log : List StageEvent := []

variable (s : DownloadLoop)

def DownloadLoop.push (outcome : V2CandidateDownloadOutcome) : DownloadLoop :=
  { s with candidateOutcomes := s.candidateOutcomes ++ [outcome] }

def DownloadLoop.record (event : StageEvent) : DownloadLoop :=
  { s with log := s.log ++ [event] }

/-- `cleanup_failed_v2_candidate_output`. -/
def DownloadLoop.cleanup (offset : Nat) (removed : Except BilibiliDownloadError Unit) :
    DownloadLoop :=
  { s.record (.cleaned offset (errorOf removed)) with
    outputIntegrityError := s.outputIntegrityError.or (errorOf removed) }

def DownloadLoop.pushError (resultId : String) (candidate : BilibiliTaskCandidateRecord)
    (error : BilibiliDownloadError) : DownloadLoop :=
  if isCancelled (some error) then
    { s.push (.terminal (cancelledDownloadResult resultId candidate)) with cancelled := true }
  else
    s.push (.terminal (failedDownloadResult resultId candidate error))

variable (d : V2Download)

def downloadStage (offset : Nat) (candidate : BilibiliTaskCandidateRecord)
    (stages : CandidateStages) (plan : DownloadPlan) (s : DownloadLoop) :
    Except BilibiliDownloadError DownloadLoop :=
  let resultId := bilibiliV2ResultId d.taskId offset
  let s := s.record (.downloaded offset (errorOf stages.download))
  match stages.download with
  | .error error => .ok ((s.cleanup offset stages.cleanup).pushError resultId candidate error)
  | .ok () =>
    let s := s.record (.prepared offset (errorOf stages.prepared))
    match stages.prepared with
    | .error error => .ok ((s.cleanup offset stages.cleanup).pushError resultId candidate error)
    | .ok (report, descriptors) =>
      let retained := s.retainedValidationDescriptors + descriptors
      if d.retainedDescriptorBudget < retained then
        .error (.resourceExhausted
          "Bilibili task output exceeded its retained file-descriptor budget.")
      else
        .ok
          { s.push (.downloaded resultId plan report) with
            retainedValidationDescriptors := retained }

def directoryStage (offset : Nat) (candidate : BilibiliTaskCandidateRecord)
    (stages : CandidateStages) (plan : DownloadPlan) (s : DownloadLoop) :
    Except BilibiliDownloadError DownloadLoop :=
  let s := s.record (.created offset (errorOf stages.directory))
  match stages.directory with
  | .error error =>
    .ok
      { s.push (.terminal
          (failedDownloadResult (bilibiliV2ResultId d.taskId offset) candidate error)) with
        outputIntegrityError := some error }
  | .ok () =>
    match stages.options with
    | .error error => .error error
    | .ok () => downloadStage d offset candidate stages plan s

def downloadCandidate (offset : Nat) (candidate : BilibiliTaskCandidateRecord)
    (stages : CandidateStages) (s : DownloadLoop) : Except BilibiliDownloadError DownloadLoop :=
  let resultId := bilibiliV2ResultId d.taskId offset
  if s.cancelled then
    .ok (s.push (.terminal (cancelledDownloadResult resultId candidate)))
  else
    let s := s.record (.turn offset stages.cancelRequested)
    if stages.cancelRequested then
      .ok
        { s.push (.terminal (cancelledDownloadResult resultId candidate)) with
          cancelled := true }
    else
      match s.outputIntegrityError with
      | some error => .ok (s.push (.terminal (failedDownloadResult resultId candidate error)))
      | none =>
        let s := s.record (.planned offset (errorOf stages.plan))
        match stages.plan with
        | .error error => .ok (s.pushError resultId candidate error)
        | .ok plan => directoryStage d offset candidate stages plan s

def downloadCandidates (d : V2Download) : Nat →
    List (BilibiliTaskCandidateRecord × CandidateStages) → DownloadLoop →
    Except BilibiliDownloadError DownloadLoop
  | _, [], s => .ok s
  | offset, (candidate, stages) :: rest, s =>
    match downloadCandidate d offset candidate stages s with
    | .error error => .error error
    | .ok s => downloadCandidates d (offset + 1) rest s

structure Publication where
  candidateOutcomes : List V2CandidateDownloadOutcome
  publicationError : Option BilibiliDownloadError
  log : List StageEvent

def Publication.after (p : Publication) (outcome : V2CandidateDownloadOutcome)
    (events : List StageEvent) : Publication :=
  { p with candidateOutcomes := outcome :: p.candidateOutcomes, log := events ++ p.log }

def revalidatePublished : Nat → List CandidateStages → List V2CandidateDownloadOutcome →
    Except BilibiliDownloadError Publication
  | offset, _ :: more, .terminal result :: rest =>
    match revalidatePublished (offset + 1) more rest with
    | .error error => .error error
    | .ok p => .ok (p.after (.terminal result) [])
  | offset, stages :: more, .downloaded resultId plan report :: rest =>
    match stages.publishedDirectory with
    | .error error => .error error
    | .ok () =>
      let event := StageEvent.revalidated offset (errorOf stages.revalidation)
      match stages.revalidation with
      | .error error => .ok ⟨.downloaded resultId plan report :: rest, some error, [event]⟩
      | .ok () =>
        match stages.remapped with
        | .error error => .ok ⟨.downloaded resultId plan report :: rest, some error, [event]⟩
        | .ok remapped =>
          match revalidatePublished (offset + 1) more rest with
          | .error error => .error error
          | .ok p => .ok (p.after (.downloaded resultId plan remapped) [event])
  | _, _, outcomes => .ok ⟨outcomes, none, []⟩

def publishOutputs (s : DownloadLoop) : Except BilibiliDownloadError Publication :=
  if s.outputIntegrityError.isNone &&
      s.candidateOutcomes.any V2CandidateDownloadOutcome.isDownloaded then
    let event := StageEvent.published (errorOf d.publication)
    match d.publication with
    | .error error => .ok ⟨s.candidateOutcomes, some error, s.log ++ [event]⟩
    | .ok () =>
      match revalidatePublished 0 (d.candidates.map Prod.snd) s.candidateOutcomes with
      | .error error => .error error
      | .ok p => .ok { p with log := s.log ++ [event] ++ p.log }
  else
    .ok ⟨s.candidateOutcomes, s.outputIntegrityError, s.log⟩

structure MappingLoop where
  results : List TaskResult := []
  resources : List TaskResourceRecord := []
  resourceBodies : List BilibiliTaskResourceBody := []
  libraryItemLeases : List LibraryItemPublicationLease := []
  transientOutputPaths : List String := []
  primaryLibraryItemId : String := ""
  successfulResults : Nat := 0
  cancelled : Bool
  log : List StageEvent

def MappingLoop.retainV2Success (s : MappingLoop) (mapped : MappedV2DownloadResult) : MappingLoop :=
  { s with
    primaryLibraryItemId :=
      if s.primaryLibraryItemId == "" && mapped.libraryItemId != "" then mapped.libraryItemId
      else s.primaryLibraryItemId
    successfulResults := s.successfulResults + 1
    resources := s.resources ++ mapped.resources
    resourceBodies := s.resourceBodies ++ mapped.resourceBodies
    libraryItemLeases := s.libraryItemLeases ++ mapped.libraryItemLease.toList
    transientOutputPaths := s.transientOutputPaths ++ mapped.transientOutputPaths
    results := s.results ++ [mapped.result] }

def MappingLoop.push (s : MappingLoop) (result : TaskResult) : MappingLoop :=
  { s with results := s.results ++ [result] }

def MappingLoop.failMapping (s : MappingLoop) (offset : Nat) (resultId : String)
    (candidate : BilibiliTaskCandidateRecord) (stages : CandidateStages)
    (error : BilibiliDownloadError) : Except BilibiliDownloadError MappingLoop :=
  match stages.publishedDirectory with
  | .error error => .error error
  | .ok () =>
    match stages.publishedCleanup with
    | .error cleanupError => .error cleanupError
    | .ok () =>
      let s := { s with log := s.log ++ [StageEvent.cleaned offset none] }
      if isCancelled (some error) then
        .ok { s.push (cancelledDownloadResult resultId candidate) with cancelled := true }
      else
        .ok (s.push (failedDownloadResult resultId candidate error))

def mapCandidate (publicationError : Option BilibiliDownloadError) (offset : Nat)
    (candidate : BilibiliTaskCandidateRecord) (stages : CandidateStages)
    (outcome : V2CandidateDownloadOutcome) (s : MappingLoop) :
    Except BilibiliDownloadError MappingLoop :=
  match outcome with
  | .terminal result => .ok (s.push result)
  | .downloaded resultId plan report =>
    match publicationError with
    | some error => .ok (s.push (failedDownloadResult resultId candidate error))
    | none =>
      match stages.publishedDirectory with
      | .error error => .error error
      | .ok () =>
        let mapped :=
          mapV2DownloadResult resultId candidate plan report d.mode stages.mapping
        let s := { s with log := s.log ++ [StageEvent.mapped offset (errorOf mapped)] }
        match mapped with
        | .ok mapped => .ok (s.retainV2Success mapped)
        | .error error => s.failMapping offset resultId candidate stages error

def mapCandidates (d : V2Download) (publicationError : Option BilibiliDownloadError) : Nat →
    List (BilibiliTaskCandidateRecord × CandidateStages) → List V2CandidateDownloadOutcome →
    MappingLoop → Except BilibiliDownloadError MappingLoop
  | offset, (candidate, stages) :: more, outcome :: rest, s =>
    match mapCandidate d publicationError offset candidate stages outcome s with
    | .error error => .error error
    | .ok s => mapCandidates d publicationError (offset + 1) more rest s
  | _, _, _, s => .ok s

structure BilibiliDownloadOutput where
  libraryItemId : String
  message : String
  terminalState : TaskState
  results : List TaskResult
  resources : List TaskResourceRecord
  resourceBodies : List BilibiliTaskResourceBody
  libraryItemLeases : List LibraryItemPublicationLease
  transientOutputPaths : List String
  ownedDirectoryCleanupPaths : List String
  log : List StageEvent

def terminalMessage (cancelled : Bool) (successful total : Nat) : String :=
  if cancelled then
    "Cancelled after completing " ++ toString successful ++ "/" ++ toString total ++
      " Bilibili result(s)."
  else if 0 < successful then
    if successful = total then
      "Downloaded all " ++ toString total ++ " Bilibili result(s)."
    else
      "Downloaded " ++ toString successful ++ "/" ++ toString total ++ " Bilibili result(s)."
  else
    "Failed to download all " ++ toString total ++ " Bilibili result(s)."

def downloadOutput (s : MappingLoop) : BilibiliDownloadOutput where
  libraryItemId := s.primaryLibraryItemId
  message := terminalMessage s.cancelled s.successfulResults d.candidates.length
  terminalState :=
    if s.cancelled then .cancelled
    else if 0 < s.successfulResults then .succeeded
    else .failed
  results := s.results
  resources := s.resources
  resourceBodies := s.resourceBodies
  libraryItemLeases := s.libraryItemLeases
  transientOutputPaths := s.transientOutputPaths
  ownedDirectoryCleanupPaths :=
    if s.primaryLibraryItemId == "" then [d.stagingPath, d.publishedPath] else [d.stagingPath]
  log := s.log

def runV2Download : Except BilibiliDownloadError BilibiliDownloadOutput :=
  match d.setup with
  | .error error => .error error
  | .ok () =>
    match downloadCandidates d 0 d.candidates {} with
    | .error error => .error error
    | .ok s =>
      match publishOutputs d s with
      | .error error => .error error
      | .ok p =>
        match mapCandidates d p.publicationError 0 d.candidates p.candidateOutcomes
            { cancelled := s.cancelled, log := p.log } with
        | .error error => .error error
        | .ok s => .ok (downloadOutput d s)

def validateLibraryItemPublicationLeases (primaryLibraryItemId : String)
    (results : List TaskResult) (leases : List LibraryItemPublicationLease) : Except String Unit :=
  let expected := ((results.flatMap fun result =>
    result.libraryItemId :: result.artifacts.map TaskArtifact.libraryItemId) ++
      [primaryLibraryItemId]).filter fun id => id != ""
  let leased := leases.map LibraryItemPublicationLease.itemId
  if leased.all expected.contains && expected.all leased.contains then
    .ok ()
  else
    .error "Bilibili task output library backing is not covered by publication leases"

def validateBodyIds (resourceIds : List String) : List String → List String →
    Except String Unit
  | _, [] => .ok ()
  | seen, id :: rest =>
    if seen.contains id then
      .error "Bilibili task output contains duplicate resource bodies"
    else if !resourceIds.contains id then
      .error "Bilibili task output body has no matching resource"
    else
      validateBodyIds resourceIds (id :: seen) rest

def validateResourceBodyDescriptors (resources : List TaskResourceRecord)
    (bodies : List BilibiliTaskResourceBody) : Except String Unit :=
  let resourceIds := resources.map fun record => record.resource.id
  let bodyIds := bodies.map BilibiliTaskResourceBody.resourceId
  if decide resourceIds.Nodup then
    match validateBodyIds resourceIds [] bodyIds with
    | .error error => .error error
    | .ok () =>
      if resourceIds.all bodyIds.contains then
        .ok ()
      else
        .error "Bilibili task output resource has no matching body"
  else
    .error "Bilibili task output contains duplicate resource ids"

end NetPlayer.Downloads
