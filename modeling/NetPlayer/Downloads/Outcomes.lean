import NetPlayer.Downloads.Run

/-!
# Outcomes of a v2 download

A mapped download is backed by the resources that its artifacts name. The first loop
leaves one outcome for each candidate, and the publication an error or downloads whose
files have been revalidated; the log says which cancellations and failed directories they
have met.
-/

namespace NetPlayer.Downloads

open Outputs StageEvent List Option V2CandidateDownloadOutcome
open Tasks (TaskState)
open Resolver (BilibiliDownloadError)

structure Describes (result : TaskResult) (candidate : BilibiliTaskCandidateRecord) : Prop where
  title : result.title = candidate.title
  subtitle : result.subtitle = candidate.subtitle
  subject : result.subject = some (taskResultSubject candidate)
  providerDetails : result.providerDetails = some (taskResultProviderDetails candidate)

theorem describes_candidateResult (id : String) (candidate : BilibiliTaskCandidateRecord)
    (state : Int32) (progress : TaskResultProgress) (problem : Option TaskProblem)
    (libraryItemId : String) (artifacts : List TaskArtifact) :
    Describes (candidateResult id candidate state progress problem libraryItemId artifacts)
      candidate :=
  ⟨rfl, rfl, rfl, rfl⟩

theorem hexDigit_toLower (value : Nat) : (hexDigit value).toLower = hexDigit value := by
  have hall : (['0', '1', '2', '3', '4', '5', '6', '7', '8', '9', 'a', 'b', 'c', 'd', 'e',
      'f'].all fun c => c.toLower == c) = true := by decide
  simpa only [beq_iff_eq] using List.all_eq_true.mp hall (hexDigit value) (hexDigit_mem value)

theorem toAsciiLowercase_newResourceId (uuid : BitVec 128) :
    toAsciiLowercase (newResourceId uuid) = newResourceId uuid := by
  have hlower : ∀ c ∈ (newResourceId uuid).toList, c.toLower = c := by
    intro c hm
    have hprefix : ("task-resource-".toList.all fun c => c.toLower == c) = true := by decide
    unfold newResourceId simpleUuid at hm
    rw [String.toList_append] at hm
    rcases mem_append.mp hm with hs | hdigits
    · simpa only [beq_iff_eq] using List.all_eq_true.mp hprefix c hs
    · rw [String.toList_ofList] at hdigits
      obtain ⟨i, -, rfl⟩ := List.mem_map.mp hdigits
      exact hexDigit_toLower _
  unfold toAsciiLowercase
  rw [map_congr_left hlower, List.map_id', String.ofList_toList]

variable {size first index count : Nat}

theorem taskResourceRecord_id {id contentType : String}
    {record : TaskResourceRecord} (h : taskResourceRecord id contentType size = .ok record) :
    record.resource.id = toAsciiLowercase id := by
  unfold taskResourceRecord at h
  split at h
  · cases h
  unfold newTaskResourceRecord at h
  cases hv : validateResourceId id with
  | error message =>
    rw [hv] at h
    cases h
  | ok _ =>
    rw [hv] at h
    cases h
    rfl

structure MappedV2Artifact.Bound (mapped : MappedV2Artifact) (uuids : ArtifactUuids) : Prop where
  resource : mapped.artifact.resource = some mapped.resource.resource
  resourceId : mapped.resource.resource.id = newResourceId uuids.resource
  body : mapped.body.resourceId = newResourceId uuids.resource
  library : mapped.artifact.libraryItemId = ""

theorem mapArtifact_bound {uuids : ArtifactUuids} {description : SidecarDescription}
    {source : BilibiliTaskResourceBodySource} {mapped : MappedV2Artifact}
    (h : mapArtifact uuids description size source = .ok mapped) : mapped.Bound uuids := by
  unfold mapArtifact at h
  split at h
  · cases h
  rename_i resource hrsc
  cases h
  have hid := taskResourceRecord_id hrsc
  rw [toAsciiLowercase_newResourceId] at hid
  exact ⟨rfl, hid, rfl, rfl⟩

def BoundAll (outcomes : MappingOutcomes) (indices : List Nat)
    (mapped : List MappedV2Artifact) : Prop :=
  List.Forall₂ (fun index artifact => artifact.Bound (outcomes.uuids index)) indices mapped

variable {mapped : List MappedV2Artifact} {outcomes : MappingOutcomes}

theorem mapSidecars_bound {files : List DownloadedFile}
    (h : mapSidecars outcomes first files = .ok mapped) :
    BoundAll outcomes (List.range' first files.length) mapped := by
  induction files generalizing first mapped with
  | nil =>
    cases h
    exact List.Forall₂.nil
  | cons file rest ih =>
    unfold mapSidecars at h
    cases hfile : mapSidecarArtifact (outcomes.uuids first) file first (outcomes.sidecar first) with
    | error error =>
      rw [hfile] at h
      cases h
    | ok artifact =>
      rw [hfile] at h
      cases hr : mapSidecars outcomes (first + 1) rest with
      | error error =>
        rw [hr] at h
        cases h
      | ok others =>
        rw [hr] at h
        cases h
        have hbd : artifact.Bound (outcomes.uuids first) := by
          unfold mapSidecarArtifact at hfile
          split at hfile
          · cases hfile
          · exact mapArtifact_bound hfile
        exact List.Forall₂.cons hbd (ih hr)

theorem mapChapters_bound {chapters : List String}
    (h : mapChapters outcomes index chapters = .ok mapped) :
    ∃ indices, indices.Sublist [index] ∧ BoundAll outcomes indices mapped := by
  unfold mapChapters at h
  split at h
  · cases h
    exact ⟨[], nil_sublist _, List.Forall₂.nil⟩
  split at h
  · cases h
  rename_i body _
  unfold mapGeneratedArtifact at h
  cases hmapped : mapArtifact (outcomes.uuids index)
      ⟨artifactChapters, "Chapters", "json", "application/json"⟩ body.length
      (.bytes body) with
  | error error =>
    rw [hmapped] at h
    cases h
  | ok artifact =>
    rw [hmapped] at h
    cases h
    exact ⟨[index], List.Sublist.refl _,
      List.Forall₂.cons (mapArtifact_bound hmapped) List.Forall₂.nil⟩

theorem mapMetadata_bound {mapped : MappedV2Artifact}
    (h : mapMetadata outcomes index = .ok mapped) : mapped.Bound (outcomes.uuids index) := by
  unfold mapMetadata at h
  split at h
  · cases h
  · exact mapArtifact_bound h

/-- A successful result with what backs it; `numbers` are those of its resources. -/
structure Backed (resultId : String) (candidate : BilibiliTaskCandidateRecord)
    (outcomes : MappingOutcomes) (numbers : List Nat) (mapped : MappedV2DownloadResult) : Prop where
  id : mapped.result.id = resultId
  describes : Describes mapped.result candidate
  state : mapped.result.state = taskStateSucceeded
  library : mapped.result.libraryItemId = mapped.libraryItemId
  lease : mapped.libraryItemLease.toList.map LibraryItemPublicationLease.itemId =
    [mapped.libraryItemId].filter fun id => id != ""
  artifacts : ∀ artifact ∈ mapped.result.artifacts,
    artifact.libraryItemId = "" ∨ artifact.libraryItemId = mapped.libraryItemId
  resources : mapped.resources.map TaskResourceRecord.resource =
    mapped.result.artifacts.filterMap TaskArtifact.resource
  bodies : mapped.resourceBodies.map BilibiliTaskResourceBody.resourceId =
    mapped.resources.map fun record => record.resource.id
  ids : (mapped.resources.map fun record => record.resource.id) =
    numbers.map fun number => newResourceId (outcomes.uuids number).resource

theorem boundAll_ids {numbers : List Nat} (bound : BoundAll outcomes numbers mapped) :
    (mapped.map fun artifact => artifact.resource.resource.id) =
        (numbers.map fun number => newResourceId (outcomes.uuids number).resource) ∧
      (mapped.map fun artifact => artifact.body.resourceId) =
        (numbers.map fun number => newResourceId (outcomes.uuids number).resource) ∧
      (mapped.filterMap fun artifact => artifact.artifact.resource) =
        mapped.map (fun artifact => artifact.resource.resource) ∧
      ∀ artifact ∈ mapped, artifact.artifact.libraryItemId = "" := by
  induction bound with
  | nil => exact ⟨rfl, rfl, rfl, fun _ h => absurd h not_mem_nil⟩
  | cons hbd _ ih =>
    obtain ⟨hids, hbodies, hrscs, hlibrary⟩ := ih
    refine ⟨?_, ?_, ?_, ?_⟩
    · simp only [map_cons, hids, hbd.resourceId]
    · simp only [map_cons, hbodies, hbd.body]
    · simp only [filterMap_cons, hbd.resource, map_cons, hrscs]
    · intro artifact hm
      rcases mem_cons.mp hm with rfl | hr
      · exact hbd.library
      · exact hlibrary artifact hr

theorem mappedResult_backed (resultId : String) (candidate : BilibiliTaskCandidateRecord)
    (report : DownloadReport) (count : Nat)
    (reserved : Option (LibraryItemPublicationLease × String)) {numbers : List Nat}
    (bound : BoundAll outcomes numbers mapped) :
    Backed resultId candidate outcomes numbers
      (mappedResult resultId candidate report outcomes count reserved mapped) := by
  obtain ⟨hids, hbodies, hrscs, hlibrary⟩ := boundAll_ids bound
  have hr : ∀ artifact ∈ mapped.map MappedV2Artifact.artifact,
      artifact.libraryItemId = "" := by
    intro artifact hm
    obtain ⟨source, hsrc, rfl⟩ := List.mem_map.mp hm
    exact hlibrary source hsrc
  have hfilter : (mapped.map MappedV2Artifact.artifact).filterMap TaskArtifact.resource =
      (mapped.map MappedV2Artifact.resource).map TaskResourceRecord.resource := by
    rw [filterMap_map, List.map_map]
    exact hrscs
  constructor
  case id => rfl
  case describes => exact describes_candidateResult ..
  case state => rfl
  case library => rfl
  case lease =>
    cases reserved with
    | none => rfl
    | some found =>
      have hne : (found.1.itemId != "") = true := bne_iff_ne.mpr found.1.itemId_ne
      simp only [mappedResult, map_some, toList_some, map_cons,
        map_nil, elim_some, filter_cons, hne, if_true, filter_nil]
  case artifacts =>
    intro artifact hm
    rcases mem_append.mp hm with hmedia | hmapped
    · obtain ⟨found, hf, rfl⟩ := List.mem_map.mp hmedia
      right
      rw [mem_toList] at hf
      simp only [mappedResult, libraryMediaArtifact, mem_def.mp hf, elim_some]
    · exact .inl (hr artifact hmapped)
  case resources =>
    simp only [mappedResult, successfulDownloadResult, candidateResult, filterMap_append,
      hfilter]
    cases reserved with
    | none | some found => rfl
  case bodies =>
    simp only [mappedResult, List.map_map]
    exact hbodies.trans hids.symm
  case ids =>
    simp only [mappedResult, List.map_map]
    exact hids

variable {plan : DownloadPlan}

theorem mapV2DownloadResult_backed {resultId : String} {candidate : BilibiliTaskCandidateRecord}
    {report : DownloadReport} {mode : DownloadMode} {mapped : MappedV2DownloadResult}
    (h : mapV2DownloadResult resultId candidate plan report mode outcomes = .ok mapped) :
    ∃ numbers : List Nat, numbers.Nodup ∧
      (∀ number ∈ numbers,
        number < (report.entries.flatMap EntryDownloadReport.files).length + 2) ∧
      Backed resultId candidate outcomes numbers mapped := by
  unfold mapV2DownloadResult at h
  split at h
  · cases h
  · cases h
  · cases h
  rename_i entry chapters more hes hchapters
  split at h
  · cases h
  rename_i reserved hreserved
  split at h
  · cases h
  simp only at h
  split at h
  · cases h
  rename_i sidecars hsidecars
  split at h
  · cases h
  split at h
  · cases h
  rename_i mappedChapters hmappedChapters
  split at h
  · cases h
  rename_i metadata hmeta
  cases h
  generalize hfiles : (entry.files.filter fun file => !file.kind.isMedia) = files at *
  have hlen : files.length ≤ (report.entries.flatMap EntryDownloadReport.files).length := by
    rw [hes, ← hfiles]
    simpa using length_filter_le (fun file : DownloadedFile => !file.kind.isMedia) entry.files
  obtain ⟨chapterNumbers, hsub, hchapterBound⟩ := mapChapters_bound hmappedChapters
  have hsidecarBound := mapSidecars_bound hsidecars
  have hmetadataBound := mapMetadata_bound hmeta
  have hchapterMem : ∀ number ∈ chapterNumbers, number = files.length :=
    fun number hm => mem_singleton.mp (hsub.subset hm)
  refine ⟨List.range' 0 files.length ++ chapterNumbers ++ [files.length + 1], ?_, ?_, ?_⟩
  · rw [nodup_append, nodup_append]
    refine ⟨⟨nodup_range', hsub.nodup (nodup_singleton _), ?_⟩,
      nodup_singleton _, ?_⟩
    · intro first hfst second hsnd
      rw [hchapterMem second hsnd]
      have := mem_range'_1.mp hfst
      omega
    · intro first hfst second hsnd
      rw [mem_singleton.mp hsnd]
      rcases mem_append.mp hfst with hrange | hchapter
      · have := mem_range'_1.mp hrange
        omega
      · rw [hchapterMem first hchapter]
        omega
  · intro number hm
    rcases mem_append.mp hm with hfront | hl
    · rcases mem_append.mp hfront with hrange | hchapter
      · have := mem_range'_1.mp hrange
        omega
      · rw [hchapterMem number hchapter]
        omega
    · rw [mem_singleton.mp hl]
      omega
  · apply mappedResult_backed
    exact rel_append (rel_append hsidecarBound hchapterBound)
      (List.Forall₂.cons hmetadataBound List.Forall₂.nil)

/-- A result that failed or was cancelled, with nothing behind it. -/
structure Unsuccessful (resultId : String) (candidate : BilibiliTaskCandidateRecord)
    (result : TaskResult) : Prop where
  id : result.id = resultId
  describes : Describes result candidate
  state : result.state ≠ taskStateSucceeded
  library : result.libraryItemId = ""
  artifacts : result.artifacts = []

theorem unsuccessful_failed (resultId : String) (candidate : BilibiliTaskCandidateRecord)
    (error : BilibiliDownloadError) :
    Unsuccessful resultId candidate (failedDownloadResult resultId candidate error) :=
  ⟨rfl, describes_candidateResult .., show taskStateFailed ≠ taskStateSucceeded by decide, rfl,
    rfl⟩

theorem unsuccessful_cancelled (resultId : String) (candidate : BilibiliTaskCandidateRecord) :
    Unsuccessful resultId candidate (cancelledDownloadResult resultId candidate) :=
  ⟨rfl, describes_candidateResult .., show taskStateCancelled ≠ taskStateSucceeded by decide,
    rfl, rfl⟩

def V2CandidateDownloadOutcome.For (resultId : String)
    (candidate : BilibiliTaskCandidateRecord) : V2CandidateDownloadOutcome → Prop
  | .terminal result => Unsuccessful resultId candidate result
  | .downloaded id _ _ => id = resultId

structure Advanced (resultId : String) (candidate : BilibiliTaskCandidateRecord)
    (s t : DownloadLoop) : Prop where
  outcome : ∃ outcome, t.candidateOutcomes = s.candidateOutcomes ++ [outcome] ∧
    outcome.For resultId candidate
  log : ∃ events, t.log = s.log ++ events ∧
    t.cancelled = (s.cancelled || events.any observesCancellation) ∧
    t.outputIntegrityError.isSome =
      (s.outputIntegrityError.isSome || events.any failsDirectory)

variable {d : V2Download} {resultId : String} {candidate : BilibiliTaskCandidateRecord}
  {stages : CandidateStages} {s t : DownloadLoop} {offset : Nat}

theorem Advanced.of_record (event : StageEvent)
    (advanced : Advanced resultId candidate (s.record event) t)
    (quiet : event.observesCancellation = false) (sound : event.failsDirectory = false) :
    Advanced resultId candidate s t := by
  obtain ⟨houtc, events, hlog, hcanc, hintegrity⟩ := advanced
  refine ⟨houtc, event :: events, ?_, ?_, ?_⟩
  · rw [hlog]
    simp only [DownloadLoop.record, append_assoc, singleton_append]
  · rw [hcanc, any_cons, quiet, Bool.false_or]
    rfl
  · rw [hintegrity, any_cons, sound, Bool.false_or]
    rfl

theorem advanced_failed (error : BilibiliDownloadError) :
    Advanced resultId candidate s
      (s.push (.terminal (failedDownloadResult resultId candidate error))) :=
  ⟨⟨_, rfl, unsuccessful_failed ..⟩, [], (append_nil _).symm, (Bool.or_false _).symm,
    (Bool.or_false _).symm⟩

theorem advanced_cancelled :
    Advanced resultId candidate s
      (s.push (.terminal (cancelledDownloadResult resultId candidate))) :=
  ⟨⟨_, rfl, unsuccessful_cancelled ..⟩, [], (append_nil _).symm, (Bool.or_false _).symm,
    (Bool.or_false _).symm⟩

variable {error : BilibiliDownloadError}

theorem advanced_pushError (events : List StageEvent) {integrity : Option BilibiliDownloadError}
    (observed : events.any observesCancellation = isCancelled (some error))
    (failed : integrity.isSome =
      (s.outputIntegrityError.isSome || events.any failsDirectory)) :
    Advanced resultId candidate s
      ({ s with log := s.log ++ events, outputIntegrityError := integrity }.pushError resultId
        candidate error) := by
  unfold DownloadLoop.pushError
  cases hcanc : isCancelled (some error) with
  | true =>
    rw [hcanc] at observed
    exact ⟨⟨_, rfl, unsuccessful_cancelled ..⟩, events, rfl,
      by rw [observed, Bool.or_true]; rfl, failed⟩
  | false =>
    rw [hcanc] at observed
    exact ⟨⟨_, rfl, unsuccessful_failed ..⟩, events, rfl,
      by rw [observed, Bool.or_false]; rfl, failed⟩

theorem isSome_or_errorOf {Value : Type} (first : Option BilibiliDownloadError)
    (result : Except BilibiliDownloadError Value) :
    (first.or (errorOf result)).isSome = (first.isSome || (errorOf result).isSome) := by
  cases first with
  | none | some error => simp

theorem advanced_cleanup {event : StageEvent} (removed : Except BilibiliDownloadError Unit)
    (observed : event.observesCancellation = isCancelled (some error))
    (sound : event.failsDirectory = false) :
    Advanced resultId candidate s
      (((s.record event).cleanup offset removed).pushError resultId candidate error) := by
  have hevents : ((s.record event).cleanup offset removed) =
      { s with
        log := s.log ++ [event, .cleaned offset (errorOf removed)]
        outputIntegrityError := s.outputIntegrityError.or (errorOf removed) } := by
    simp only [DownloadLoop.cleanup, DownloadLoop.record, append_assoc, singleton_append]
  rw [hevents]
  apply advanced_pushError [event, .cleaned offset (errorOf removed)]
  · show (event.observesCancellation || (false || false)) = isCancelled (some error)
    rw [observed, Bool.or_self, Bool.or_false]
  · show _ = (_ || (event.failsDirectory || ((errorOf removed).isSome || false)))
    rw [isSome_or_errorOf, sound, Bool.false_or, Bool.or_false]

theorem downloadStage_advanced (h : downloadStage d offset candidate stages plan s = .ok t) :
    Advanced (bilibiliV2ResultId d.taskId offset) candidate s t := by
  unfold downloadStage at h
  cases hdownload : stages.download with
  | error error =>
    simp only [hdownload] at h
    cases h
    exact advanced_cleanup stages.cleanup rfl rfl
  | ok _ =>
    simp only [hdownload] at h
    apply Advanced.of_record (.downloaded offset none) ?_ rfl rfl
    cases hprepared : stages.prepared with
    | error error =>
      simp only [hprepared] at h
      cases h
      exact advanced_cleanup stages.cleanup rfl rfl
    | ok found =>
      simp only [hprepared] at h
      split at h
      · cases h
      cases h
      apply Advanced.of_record (.prepared offset none) ?_ rfl rfl
      exact ⟨⟨_, rfl, rfl⟩, [], (append_nil _).symm, (Bool.or_false _).symm,
        (Bool.or_false _).symm⟩

theorem directoryStage_advanced (h : directoryStage d offset candidate stages plan s = .ok t) :
    Advanced (bilibiliV2ResultId d.taskId offset) candidate s t := by
  unfold directoryStage at h
  cases hdirectory : stages.directory with
  | error error =>
    simp only [hdirectory] at h
    cases h
    refine ⟨⟨_, rfl, unsuccessful_failed ..⟩, [.created offset (some error)], rfl, ?_, ?_⟩
    · simp [observesCancellation, DownloadLoop.push, DownloadLoop.record]
    · simp [failsDirectory]
  | ok _ =>
    simp only [hdirectory] at h
    split at h
    · cases h
    · exact Advanced.of_record (.created offset none) (downloadStage_advanced h) rfl rfl

/-- One candidate of the first loop leaves one outcome, and the log says what it met. -/
theorem downloadCandidate_advanced
    (h : downloadCandidate d offset candidate stages s = .ok t) :
    Advanced (bilibiliV2ResultId d.taskId offset) candidate s t := by
  unfold downloadCandidate at h
  by_cases hcanc : s.cancelled = true
  · rw [if_pos hcanc] at h
    cases h
    exact advanced_cancelled
  rw [if_neg hcanc] at h
  cases hreq : stages.cancelRequested with
  | true =>
    simp only [hreq, if_true] at h
    cases h
    refine ⟨⟨_, rfl, unsuccessful_cancelled ..⟩, [.turn offset true], rfl, ?_, ?_⟩
    · simp [observesCancellation]
    · simp [failsDirectory, DownloadLoop.push, DownloadLoop.record]
  | false =>
    simp only [hreq, Bool.false_eq_true, if_false] at h
    apply Advanced.of_record (.turn offset false) ?_ rfl rfl
    cases hintegrity : (s.record (.turn offset false)).outputIntegrityError with
    | some error =>
      simp only [hintegrity] at h
      cases h
      exact advanced_failed error
    | none =>
      simp only [hintegrity] at h
      cases hp : stages.plan with
      | error error =>
        simp only [hp] at h
        cases h
        refine advanced_pushError [.planned offset (some error)] ?_ ?_
        · exact Bool.or_false _
        · exact (Bool.or_false _).symm
      | ok plan =>
        simp only [hp] at h
        apply Advanced.of_record (.planned offset none) ?_ rfl rfl
        exact directoryStage_advanced h

def Placed {Item : Type} (property : Nat → Item → Prop) (items : List Item) : Prop :=
  ∀ (i : Nat) (item : Item), items[i]? = some item → property i item

variable {Item : Type}

theorem placed_nil (property : Nat → Item → Prop) : Placed property [] :=
  fun i item h => by rw [List.getElem?_nil] at h; cases h

variable {property : Nat → Item → Prop}

theorem Placed.snoc {items : List Item} {item : Item} (placed : Placed property items)
    (last : property items.length item) : Placed property (items ++ [item]) := by
  intro i found h
  by_cases hlt : i < items.length
  · rw [List.getElem?_append_left hlt] at h
    exact placed i found h
  rw [List.getElem?_append_right (by omega)] at h
  obtain ⟨hbd, hi⟩ := List.getElem?_eq_some_iff.mp h
  have hplace : i = items.length := by
    rw [length_singleton] at hbd
    omega
  subst hplace
  simp only [Nat.sub_self, getElem_cons_zero] at hi
  rw [← hi]
  exact last

def V2Download.OutcomeAt (d : V2Download) (i : Nat) (outcome : V2CandidateDownloadOutcome) : Prop :=
  ∃ candidate stages, d.candidates[i]? = some (candidate, stages) ∧
    outcome.For (bilibiliV2ResultId d.taskId i) candidate

structure DownloadLoop.After (d : V2Download) (count : Nat) (s : DownloadLoop) : Prop where
  length : s.candidateOutcomes.length = count
  outcomes : Placed d.OutcomeAt s.candidateOutcomes
  cancelled : s.cancelled = s.log.any observesCancellation
  integrity : s.outputIntegrityError.isSome = s.log.any failsDirectory

theorem after_downloadCandidate (after : s.After d count)
    (found : d.candidates[count]? = some (candidate, stages))
    (h : downloadCandidate d count candidate stages s = .ok t) : t.After d (count + 1) := by
  obtain ⟨⟨outcome, houtcomes, hfor⟩, events, hlog, hcanc, hintegrity⟩ :=
    downloadCandidate_advanced h
  constructor
  case length =>
    rw [houtcomes, length_append, after.length]
    rfl
  case outcomes =>
    rw [houtcomes]
    apply after.outcomes.snoc
    rw [after.length]
    exact ⟨candidate, stages, found, hfor⟩
  case cancelled => rw [hcanc, hlog, any_append, after.cancelled]
  case integrity => rw [hintegrity, hlog, any_append, after.integrity]

theorem after_downloadCandidates
    {rest : List (BilibiliTaskCandidateRecord × CandidateStages)} (after : s.After d count)
    (within : count ≤ d.candidates.length) (remaining : d.candidates.drop count = rest)
    (h : downloadCandidates d count rest s = .ok t) : t.After d d.candidates.length := by
  induction rest generalizing count s with
  | nil =>
    cases h
    have hdone := drop_eq_nil_iff.mp remaining
    have hc : count = d.candidates.length := by omega
    rw [← hc]
    exact after
  | cons first rest ih =>
    obtain ⟨candidate, stages⟩ := first
    unfold downloadCandidates at h
    cases hst : downloadCandidate d count candidate stages s with
    | error error =>
      rw [hst] at h
      cases h
    | ok next =>
      rw [hst] at h
      have hf : d.candidates[count]? = some (candidate, stages) := by
        rw [← List.head?_drop, remaining]
        rfl
      have hr : d.candidates.drop (count + 1) = rest := by
        rw [← tail_drop, remaining]
        rfl
      have hlt := (List.getElem?_eq_some_iff.mp hf).choose
      exact ih (after_downloadCandidate after hf hst) hlt hr h

def CandidateStages.Revalidated (stages : CandidateStages) (offset : Nat)
    (report : DownloadReport) (log : List StageEvent) : Prop :=
  stages.revalidation = .ok () ∧ stages.remapped = .ok report ∧ .revalidated offset none ∈ log

/-- What the loop over the published candidates leaves of the outcomes from `offset` on. -/
structure RevalidatedFrom (offset : Nat) (stages : List CandidateStages)
    (outcomes : List V2CandidateDownloadOutcome) (p : Publication) : Prop where
  same : List.Forall₂ (fun before after => ∀ resultId candidate,
    before.For resultId candidate → after.For resultId candidate) outcomes p.candidateOutcomes
  log : p.log.all (fun event => !event.observesCancellation && !event.failsDirectory) = true
  validated : p.publicationError = none → outcomes.length ≤ stages.length →
    Placed (fun i outcome => ∀ resultId plan report, outcome = .downloaded resultId plan report →
      ∃ found, stages[i]? = some found ∧ found.Revalidated (offset + i) report p.log)
      p.candidateOutcomes

theorem forall₂_same (outcomes : List V2CandidateDownloadOutcome) :
    List.Forall₂ (fun before after => ∀ resultId candidate,
      V2CandidateDownloadOutcome.For resultId candidate before →
        V2CandidateDownloadOutcome.For resultId candidate after) outcomes outcomes :=
  List.forall₂_same.mpr fun _ _ _ _ h => h

theorem Placed.cons {items : List Item} {item : Item} (first : property 0 item)
    (rest : Placed (fun i => property (i + 1)) items) :
    Placed property (item :: items) := by
  intro i found h
  cases i with
  | zero =>
    cases h
    exact first
  | succ i => exact rest i found h

variable {p : Publication}

theorem RevalidatedFrom.after {first : CandidateStages}
    {more : List CandidateStages} {before outcome : V2CandidateDownloadOutcome}
    {rest : List V2CandidateDownloadOutcome} {events : List StageEvent}
    (revalidated : RevalidatedFrom (offset + 1) more rest p)
    (same : ∀ resultId candidate, before.For resultId candidate → outcome.For resultId candidate)
    (quiet : events.all (fun event =>
      !event.observesCancellation && !event.failsDirectory) = true)
    (valid : ∀ resultId plan report, outcome = .downloaded resultId plan report →
      first.Revalidated offset report events) :
    RevalidatedFrom offset (first :: more) (before :: rest) (p.after outcome events) where
  same := List.Forall₂.cons same revalidated.same
  log := by
    simp only [Publication.after]
    rw [all_append, quiet, revalidated.log]
    rfl
  validated := by
    intro hn hlen
    apply Placed.cons
    · intro resultId plan report hdownloaded
      obtain ⟨hv, hremapped, hm⟩ := valid resultId plan report hdownloaded
      exact ⟨first, rfl, hv, hremapped, mem_append_left _ hm⟩
    · intro i item hi resultId plan report hdownloaded
      have hr := revalidated.validated hn (Nat.le_of_succ_le_succ hlen)
      obtain ⟨found, hf, hv, hremapped, hm⟩ :=
        hr i item hi resultId plan report hdownloaded
      refine ⟨found, hf, hv, hremapped, mem_append_right _ ?_⟩
      rw [show offset + (i + 1) = offset + 1 + i by omega]
      exact hm

theorem revalidatePublished_spec {stages : List CandidateStages}
    {outcomes : List V2CandidateDownloadOutcome}
    (h : revalidatePublished offset stages outcomes = .ok p) :
    RevalidatedFrom offset stages outcomes p := by
  induction outcomes generalizing offset stages p with
  | nil =>
    have hp : p = ⟨[], none, []⟩ := by
      cases stages <;> (unfold revalidatePublished at h; cases h; rfl)
    rw [hp]
    exact ⟨List.Forall₂.nil, rfl, fun _ _ => placed_nil _⟩
  | cons outcome rest ih =>
    cases stages with
    | nil =>
      cases h
      exact ⟨forall₂_same _, rfl, fun _ hlen => by simp at hlen⟩
    | cons first more =>
      cases outcome with
      | terminal result =>
        unfold revalidatePublished at h
        cases hr : revalidatePublished (offset + 1) more rest with
        | error error =>
          rw [hr] at h
          cases h
        | ok next =>
          rw [hr] at h
          cases h
          exact (ih hr).after (fun _ _ hfor => hfor) rfl (fun _ _ _ heq => by cases heq)
      | downloaded resultId plan report =>
        unfold revalidatePublished at h
        split at h
        · cases h
        cases hv : first.revalidation with
        | error error =>
          rw [hv] at h
          cases h
          exact ⟨forall₂_same _, rfl, nofun⟩
        | ok _ =>
          rw [hv] at h
          cases hremapped : first.remapped with
          | error error =>
            rw [hremapped] at h
            cases h
            exact ⟨forall₂_same _, rfl, nofun⟩
          | ok remapped =>
            rw [hremapped] at h
            cases hr : revalidatePublished (offset + 1) more rest with
            | error error =>
              rw [hr] at h
              cases h
            | ok next =>
              rw [hr] at h
              cases h
              refine (ih hr).after (fun _ _ hfor => hfor) rfl ?_
              intro _ _ _ heq
              cases heq
              exact ⟨hv, hremapped, mem_singleton.mpr rfl⟩

structure Published (d : V2Download) (s : DownloadLoop) (p : Publication) : Prop where
  length : p.candidateOutcomes.length = s.candidateOutcomes.length
  outcomes : Placed d.OutcomeAt p.candidateOutcomes
  cancelled : p.log.any observesCancellation =
    s.log.any observesCancellation
  directory : p.log.any failsDirectory = true → p.publicationError.isSome = true
  validated : p.publicationError = none →
    Placed (fun i outcome => ∀ resultId plan report, outcome = .downloaded resultId plan report →
      ∃ candidate stages, d.candidates[i]? = some (candidate, stages) ∧
        stages.Revalidated i report p.log) p.candidateOutcomes

theorem not_downloaded {outcomes : List V2CandidateDownloadOutcome}
    (h : outcomes.any isDownloaded = false)
    (property : Nat → DownloadReport → Prop) :
    Placed (fun i outcome => ∀ resultId plan report, outcome = .downloaded resultId plan report →
      property i report) outcomes := by
  intro i outcome hi resultId plan report heq
  rw [heq] at hi
  have hno := List.any_eq_false.mp h _ (mem_of_getElem? hi)
  exact absurd rfl hno

theorem RevalidatedFrom.outcomeAt {outcomes : List V2CandidateDownloadOutcome}
    {stages : List CandidateStages} (revalidated : RevalidatedFrom 0 stages outcomes p)
    (placed : Placed d.OutcomeAt outcomes) : Placed d.OutcomeAt p.candidateOutcomes := by
  intro i outcome hi
  have hlen := revalidated.same.length_eq
  have hlt := (List.getElem?_eq_some_iff.mp hi).choose
  have hb : outcomes[i]? = some outcomes[i] := List.getElem?_eq_getElem (by omega)
  obtain ⟨candidate, stages, hf, hfor⟩ := placed i _ hb
  refine ⟨candidate, stages, hf, ?_⟩
  have hs := (forall₂_iff_get.mp revalidated.same).2 i (by omega) hlt
  have hget : p.candidateOutcomes.get ⟨i, hlt⟩ = outcome :=
    (List.getElem?_eq_some_iff.mp hi).choose_spec
  rw [hget] at hs
  exact hs _ _ hfor

theorem publishOutputs_spec (after : s.After d d.candidates.length)
    (h : publishOutputs d s = .ok p) : Published d s p := by
  unfold publishOutputs at h
  by_cases hpublish : (s.outputIntegrityError.isNone &&
      s.candidateOutcomes.any isDownloaded) = true
  · rw [if_pos hpublish] at h
    have hn : s.log.any failsDirectory = false := by
      rw [← after.integrity]
      have hisNone := (Bool.and_eq_true_iff.mp hpublish).1
      cases herror : s.outputIntegrityError with
      | none => rfl
      | some error =>
        rw [herror] at hisNone
        cases hisNone
    cases hpubn : d.publication with
    | error error =>
      rw [hpubn] at h
      cases h
      refine ⟨rfl, after.outcomes, ?_, fun _ => rfl, nofun⟩
      simp [observesCancellation]
    | ok _ =>
      rw [hpubn] at h
      cases hrevalidated : revalidatePublished 0 (d.candidates.map Prod.snd)
          s.candidateOutcomes with
      | error error =>
        rw [hrevalidated] at h
        cases h
      | ok next =>
        rw [hrevalidated] at h
        cases h
        have hspec := revalidatePublished_spec hrevalidated
        have hq : next.log.any observesCancellation = false ∧
            next.log.any failsDirectory = false := by
          constructor
          all_goals
            rw [List.any_eq_false]
            intro event hm
            have hall := List.all_eq_true.mp hspec.log event hm
            simp only [Bool.and_eq_true, Bool.not_eq_true'] at hall
            simp [hall]
        constructor
        case length => exact hspec.same.length_eq.symm
        case outcomes => exact hspec.outcomeAt after.outcomes
        case cancelled =>
          simp [any_append, hq.1, errorOf, observesCancellation]
        case directory =>
          intro hfails
          simp [any_append, hq.2, hn, errorOf, failsDirectory] at hfails
        case validated =>
          intro hv i outcome hi resultId plan report heq
          have hlen : s.candidateOutcomes.length ≤
              (d.candidates.map Prod.snd).length := by
            rw [after.length, length_map]
          obtain ⟨stages, hstages, hfiles, hremapped, hm⟩ :=
            hspec.validated hv hlen i outcome hi resultId plan report heq
          rw [List.getElem?_map] at hstages
          obtain ⟨⟨candidate, found⟩, hf, rfl⟩ := map_eq_some_iff.mp hstages
          rw [Nat.zero_add] at hm
          exact ⟨candidate, found, hf, hfiles, hremapped, mem_append_right _ hm⟩
  · rw [if_neg hpublish] at h
    cases h
    refine ⟨rfl, after.outcomes, rfl, ?_, ?_⟩
    · intro hfails
      rw [after.integrity]
      exact hfails
    · intro hv
      apply not_downloaded
      simp only at hv
      rw [hv] at hpublish
      simpa using hpublish

end NetPlayer.Downloads
