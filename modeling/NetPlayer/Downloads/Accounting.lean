import NetPlayer.Downloads.Outcomes

/-!
# The accounts of a v2 download

The last loop leaves one result for each candidate, and retains what the successful
results refer to. With the outcomes before it, this accounts for the whole output of
`run_v2_download`, and the checks that the worker makes of an output pass.
-/

namespace NetPlayer.Downloads

open Outputs MappingLoop List Option StageEvent
open Tasks (TaskState)
open Resolver (BilibiliDownloadError)

variable {d : V2Download} {p : Publication} {candidate : BilibiliTaskCandidateRecord}
  {stages : CandidateStages}

def isSucceeded (result : TaskResult) : Bool :=
  result.state == taskStateSucceeded

def V2Download.Draws (d : V2Download) (draw : Nat × Nat) : Prop :=
  ∃ candidate stages report, d.candidates[draw.1]? = some (candidate, stages) ∧
    stages.remapped = .ok report ∧
    draw.2 < (report.entries.flatMap EntryDownloadReport.files).length + 2

def V2Download.drawnId (d : V2Download) (draw : Nat × Nat) : String :=
  match d.candidates[draw.1]? with
  | some (_, stages) => newResourceId (stages.mapping.uuids draw.2).resource
  | none => ""

def V2Download.ResultAt (d : V2Download) (p : Publication) (i : Nat) (result : TaskResult) : Prop :=
  ∃ candidate stages, d.candidates[i]? = some (candidate, stages) ∧
    result.id = bilibiliV2ResultId d.taskId i ∧ Describes result candidate ∧
    (result.state = taskStateSucceeded →
      p.publicationError = none ∧ ∃ report, stages.Revalidated i report p.log)

structure MappingLoop.Accounts (d : V2Download) (p : Publication) (count : Nat)
    (s : MappingLoop) : Prop where
  length : s.results.length = count
  results : Placed (d.ResultAt p) s.results
  unsuccessful : ∀ result ∈ s.results, result.state ≠ taskStateSucceeded →
    result.libraryItemId = "" ∧ result.artifacts = []
  artifacts : ∀ result ∈ s.results, ∀ artifact ∈ result.artifacts,
    artifact.libraryItemId = "" ∨ artifact.libraryItemId = result.libraryItemId
  successful : s.successfulResults = (s.results.filter isSucceeded).length
  resources : s.resources.map TaskResourceRecord.resource =
    s.results.flatMap fun result => result.artifacts.filterMap TaskArtifact.resource
  bodies : s.resourceBodies.map BilibiliTaskResourceBody.resourceId =
    s.resources.map fun record => record.resource.id
  leases : s.libraryItemLeases.map LibraryItemPublicationLease.itemId =
    (s.results.map TaskResult.libraryItemId).filter fun id => id != ""
  primary : s.primaryLibraryItemId =
    ((s.results.map TaskResult.libraryItemId).find? fun id => id != "").getD ""
  draws : ∃ draws : List (Nat × Nat), draws.Nodup ∧
    (∀ draw ∈ draws, draw.1 < count ∧ d.Draws draw) ∧
    (s.resources.map fun record => record.resource.id) = draws.map d.drawnId
  cancelled : s.cancelled = s.log.any observesCancellation
  log : ∃ events, s.log = p.log ++ events ∧
    events.any failsDirectory = false

theorem accounts_start (d : V2Download) (p : Publication) {cancelled : Bool}
    (h : cancelled = p.log.any observesCancellation) :
    MappingLoop.Accounts d p 0 { cancelled, log := p.log } where
  length := rfl
  results := placed_nil _
  unsuccessful := fun _ h => absurd h not_mem_nil
  artifacts := fun _ h => absurd h not_mem_nil
  successful := rfl
  resources := rfl
  bodies := rfl
  leases := rfl
  primary := rfl
  draws := ⟨[], nodup_nil, fun _ h => absurd h not_mem_nil, rfl⟩
  cancelled := h
  log := ⟨[], (append_nil _).symm, rfl⟩

variable {count : Nat} {s : MappingLoop} (accounts : s.Accounts d p count)

include accounts in
theorem MappingLoop.Accounts.push {result : TaskResult} (events : List StageEvent)
    (cancelled : Bool) (found : d.candidates[count]? = some (candidate, stages))
    (unsuccessful : Unsuccessful (bilibiliV2ResultId d.taskId count) candidate result)
    (observed : cancelled = (s.cancelled || events.any observesCancellation))
    (sound : events.any failsDirectory = false) :
    MappingLoop.Accounts d p (count + 1)
      { s.push result with log := s.log ++ events, cancelled } where
  length := by
    simp only [MappingLoop.push, length_append, accounts.length, length_singleton]
  results := by
    apply accounts.results.snoc
    rw [accounts.length]
    exact ⟨candidate, stages, found, unsuccessful.id, unsuccessful.describes,
      fun h => absurd h unsuccessful.state⟩
  unsuccessful := by
    intro other hmem hstate
    rcases mem_append.mp hmem with hold | hnew
    · exact accounts.unsuccessful other hold hstate
    · rw [mem_singleton.mp hnew]
      exact ⟨unsuccessful.library, unsuccessful.artifacts⟩
  artifacts := by
    intro other hmem artifact hart
    rcases mem_append.mp hmem with hold | hnew
    · exact accounts.artifacts other hold artifact hart
    · rw [mem_singleton.mp hnew, unsuccessful.artifacts] at hart
      exact absurd hart not_mem_nil
  successful := by
    have hno : isSucceeded result = false := beq_eq_false_iff_ne.mpr unsuccessful.state
    simp only [MappingLoop.push, filter_append, filter_cons, hno, Bool.false_eq_true,
      if_false, filter_nil, append_nil]
    exact accounts.successful
  resources := by
    simp only [MappingLoop.push, flatMap_append, flatMap_cons, flatMap_nil,
      unsuccessful.artifacts, filterMap_nil, append_nil]
    exact accounts.resources
  bodies := accounts.bodies
  leases := by
    simp only [MappingLoop.push, map_append, map_cons, map_nil,
      unsuccessful.library, filter_append, filter_cons, bne_self_eq_false,
      Bool.false_eq_true, if_false, filter_nil, append_nil]
    exact accounts.leases
  primary := by
    simp only [MappingLoop.push, map_append, map_cons, map_nil,
      unsuccessful.library, List.find?_append, List.find?_cons, bne_self_eq_false,
      List.find?_nil, or_none]
    exact accounts.primary
  draws := by
    obtain ⟨draws, hnodup, hdraws, hids⟩ := accounts.draws
    exact ⟨draws, hnodup, fun draw hmem =>
      ⟨Nat.lt_succ_of_lt (hdraws draw hmem).1, (hdraws draw hmem).2⟩, hids⟩
  cancelled := by
    simp only [any_append, ← accounts.cancelled]
    exact observed
  log := by
    obtain ⟨before, hlog, hbefore⟩ := accounts.log
    refine ⟨before ++ events, ?_, ?_⟩
    · simp only [hlog, append_assoc]
    · rw [any_append, hbefore, sound]
      rfl

theorem MappingLoop.Accounts.retain
    {mapped : MappedV2DownloadResult} {event : StageEvent} {report : DownloadReport}
    {numbers : List Nat} (accounts : s.Accounts d p count)
    (found : d.candidates[count]? = some (candidate, stages))
    (backed : Backed (bilibiliV2ResultId d.taskId count) candidate stages.mapping numbers mapped)
    (distinct : numbers.Nodup)
    (bounded : ∀ number ∈ numbers,
      number < (report.entries.flatMap EntryDownloadReport.files).length + 2)
    (valid : p.publicationError = none) (revalidated : stages.Revalidated count report p.log)
    (quiet : event.observesCancellation = false) (sound : event.failsDirectory = false) :
    MappingLoop.Accounts d p (count + 1)
      ({ s with log := s.log ++ [event] }.retainV2Success mapped) where
  length := by
    simp only [retainV2Success, length_append, accounts.length, length_singleton]
  results := by
    apply accounts.results.snoc
    rw [accounts.length]
    exact ⟨candidate, stages, found, backed.id, backed.describes,
      fun _ => ⟨valid, report, revalidated⟩⟩
  unsuccessful := by
    intro other hmem hstate
    rcases mem_append.mp hmem with hold | hnew
    · exact accounts.unsuccessful other hold hstate
    · rw [mem_singleton.mp hnew] at hstate
      exact absurd backed.state hstate
  artifacts := by
    intro other hmem artifact hart
    rcases mem_append.mp hmem with hold | hnew
    · exact accounts.artifacts other hold artifact hart
    · rw [mem_singleton.mp hnew] at hart ⊢
      rw [backed.library]
      exact backed.artifacts artifact hart
  successful := by
    have hyes : isSucceeded mapped.result = true := beq_iff_eq.mpr backed.state
    simp only [retainV2Success, filter_append, filter_cons, hyes, if_true,
      filter_nil, length_append, length_singleton, accounts.successful]
  resources := by
    simp only [retainV2Success, map_append, flatMap_append,
      flatMap_cons, flatMap_nil, append_nil, accounts.resources, backed.resources]
  bodies := by
    simp only [retainV2Success, map_append, accounts.bodies, backed.bodies]
  leases := by
    simp only [retainV2Success, map_append, map_cons, map_nil,
      filter_append, accounts.leases, backed.lease, backed.library]
  primary := by
    have hprim := accounts.primary
    simp only [retainV2Success, map_append, map_cons, map_nil,
      backed.library, List.find?_append]
    cases hfind : (s.results.map TaskResult.libraryItemId).find? fun id => id != "" with
    | some first =>
      have hne : first ≠ "" := by
        have hf := List.find?_some hfind
        exact bne_iff_ne.mp hf
      rw [hfind, getD_some] at hprim
      rw [hprim, beq_eq_false_iff_ne.mpr hne]
      rfl
    | none =>
      rw [hfind, getD_none] at hprim
      rw [hprim, none_or, beq_self_eq_true, Bool.true_and, List.find?_cons]
      cases hmapped : mapped.libraryItemId != "" with
      | true | false => rfl
  draws := by
    obtain ⟨draws, hnodup, hdraws, hids⟩ := accounts.draws
    refine ⟨draws ++ numbers.map (Prod.mk count), ?_, ?_, ?_⟩
    · rw [nodup_append]
      refine ⟨hnodup, distinct.map fun _ _ h => (Prod.mk.injEq ..).mp h |>.2, ?_⟩
      intro first hfirst second hsecond heq
      obtain ⟨number, -, rfl⟩ := List.mem_map.mp hsecond
      have hlt := (hdraws first hfirst).1
      rw [heq] at hlt
      exact lt_irrefl _ hlt
    · intro draw hmem
      rcases mem_append.mp hmem with hold | hnew
      · exact ⟨Nat.lt_succ_of_lt (hdraws draw hold).1, (hdraws draw hold).2⟩
      · obtain ⟨number, hnumber, rfl⟩ := List.mem_map.mp hnew
        exact ⟨Nat.lt_succ_self _, candidate, stages, report, found, revalidated.2.1,
          bounded number hnumber⟩
    · simp only [retainV2Success, map_append, List.map_map, hids, backed.ids]
      congr 1
      apply map_congr_left
      intro number _
      simp only [Function.comp_apply, V2Download.drawnId, found]
  cancelled := by
    simp only [retainV2Success, any_append, any_cons, any_nil, quiet, Bool.or_false]
    exact accounts.cancelled
  log := by
    obtain ⟨before, hlog, hbefore⟩ := accounts.log
    refine ⟨before ++ [event], ?_, ?_⟩
    · simp only [retainV2Success, hlog, append_assoc]
    · rw [any_append, hbefore]
      simp [sound]

theorem accounts_mapCandidate {s t : MappingLoop}
    {outcome : V2CandidateDownloadOutcome} (accounts : s.Accounts d p count)
    (found : d.candidates[count]? = some (candidate, stages))
    (outcomeFor : outcome.For (bilibiliV2ResultId d.taskId count) candidate)
    (validated : p.publicationError = none → ∀ resultId plan report,
      outcome = .downloaded resultId plan report → stages.Revalidated count report p.log)
    (h : mapCandidate d p.publicationError count candidate stages outcome s = .ok t) :
    t.Accounts d p (count + 1) := by
  have hpush : ∀ result, Unsuccessful (bilibiliV2ResultId d.taskId count) candidate result →
      (s.push result).Accounts d p (count + 1) := by
    intro result hunsuccessful
    have hpushed := accounts.push [] s.cancelled found hunsuccessful (Bool.or_false _).symm rfl
    simpa only [MappingLoop.push, append_nil] using hpushed
  unfold mapCandidate at h
  cases outcome with
  | terminal result =>
    cases h
    exact hpush result outcomeFor
  | downloaded resultId plan report =>
    have hid : resultId = bilibiliV2ResultId d.taskId count := outcomeFor
    cases hv : p.publicationError with
    | some error =>
      rw [hv] at h
      cases h
      rw [hid]
      exact hpush _ (unsuccessful_failed ..)
    | none =>
      rw [hv] at h
      simp only at h
      split at h
      · cases h
      have hrevalidated := validated hv resultId plan report rfl
      cases hmapped : mapV2DownloadResult resultId candidate plan report d.mode stages.mapping with
      | ok mapped =>
        rw [hmapped] at h
        cases h
        obtain ⟨numbers, hdist, hbdd, hbacked⟩ :=
          mapV2DownloadResult_backed hmapped
        rw [hid] at hbacked
        exact accounts.retain found hbacked hdist hbdd hv hrevalidated rfl rfl
      | error error =>
        rw [hmapped] at h
        simp only [failMapping] at h
        split at h
        · cases h
        split at h
        · cases h
        rw [hid] at h
        cases hcanc : isCancelled (some error) with
        | true =>
          rw [hcanc, if_pos rfl] at h
          cases h
          have hpushed := accounts.push
            [.mapped count (some error), .cleaned count none] true found
            (unsuccessful_cancelled ..) (by
              simp [observesCancellation, hcanc]) rfl
          simpa only [MappingLoop.push, append_assoc, singleton_append,
            errorOf] using hpushed
        | false =>
          rw [hcanc, if_neg Bool.false_ne_true] at h
          cases h
          have hpushed := accounts.push
            [.mapped count (some error), .cleaned count none] s.cancelled found
            (unsuccessful_failed _ _ error) (by
              simp [observesCancellation, hcanc]) rfl
          simpa only [MappingLoop.push, append_assoc, singleton_append,
            errorOf] using hpushed

theorem accounts_mapCandidates {t : MappingLoop}
    {rest : List (BilibiliTaskCandidateRecord × CandidateStages)}
    {outcomes : List V2CandidateDownloadOutcome} {before : DownloadLoop}
    (published : Published d before p)
    (complete : p.candidateOutcomes.length = d.candidates.length)
    (accounts : s.Accounts d p count) (within : count ≤ d.candidates.length)
    (remaining : d.candidates.drop count = rest)
    (left : p.candidateOutcomes.drop count = outcomes)
    (h : mapCandidates d p.publicationError count rest outcomes s = .ok t) :
    t.Accounts d p d.candidates.length := by
  induction rest generalizing count s outcomes with
  | nil =>
    have hdone := drop_eq_nil_iff.mp remaining
    have hc : count = d.candidates.length := by omega
    cases h
    rw [← hc]
    exact accounts
  | cons first more ih =>
    obtain ⟨candidate, stages⟩ := first
    have hf : d.candidates[count]? = some (candidate, stages) := by
      rw [← List.head?_drop, remaining]
      rfl
    have hlt := (List.getElem?_eq_some_iff.mp hf).choose
    cases outcomes with
    | nil =>
      have hdone := drop_eq_nil_iff.mp left
      omega
    | cons outcome others =>
      have houtc : p.candidateOutcomes[count]? = some outcome := by
        rw [← List.head?_drop, left]
        rfl
      unfold mapCandidates at h
      cases hst : mapCandidate d p.publicationError count candidate stages outcome s with
      | error error =>
        rw [hst] at h
        cases h
      | ok next =>
        rw [hst] at h
        obtain ⟨other, otherStages, hplace, hfor⟩ :=
          published.outcomes count outcome houtc
        rw [hf] at hplace
        cases hplace
        have hvalidated : p.publicationError = none → ∀ resultId plan report,
            outcome = .downloaded resultId plan report →
            stages.Revalidated count report p.log := by
          intro hv resultId plan report heq
          obtain ⟨_, found, hagain, hrevalidated⟩ :=
            published.validated hv count outcome houtc resultId plan report heq
          rw [hf] at hagain
          cases hagain
          exact hrevalidated
        have hmore : d.candidates.drop (count + 1) = more := by
          rw [← tail_drop, remaining]
          rfl
        have hos : p.candidateOutcomes.drop (count + 1) = others := by
          rw [← tail_drop, left]
          rfl
        exact ih (accounts_mapCandidate accounts hf hfor hvalidated hst) hlt hmore hos h

theorem validateBodyIds_ok {resourceIds seen ids : List String}
    (known : ∀ id ∈ ids, id ∈ resourceIds) (fresh : ∀ id ∈ ids, id ∉ seen)
    (distinct : ids.Nodup) : validateBodyIds resourceIds seen ids = .ok () := by
  induction ids generalizing seen with
  | nil => rfl
  | cons id rest ih =>
    have hfr : seen.contains id = false := by
      have := fresh id mem_cons_self
      simpa using this
    have hk : resourceIds.contains id = true := by
      have := known id mem_cons_self
      simpa using this
    unfold validateBodyIds
    simp only [hfr, hk, Bool.false_eq_true, if_false, Bool.not_true]
    apply ih
    · exact fun other hmem => known other (mem_cons_of_mem _ hmem)
    · intro other hmem
      rw [mem_cons, not_or]
      constructor
      · rintro rfl
        exact (nodup_cons.mp distinct).1 hmem
      · exact fresh other (mem_cons_of_mem _ hmem)
    · exact (nodup_cons.mp distinct).2

theorem validateResourceBodyDescriptors_ok {resources : List TaskResourceRecord}
    {bodies : List BilibiliTaskResourceBody}
    (same : bodies.map BilibiliTaskResourceBody.resourceId =
      resources.map fun record => record.resource.id)
    (distinct : (resources.map fun record => record.resource.id).Nodup) :
    validateResourceBodyDescriptors resources bodies = .ok () := by
  unfold validateResourceBodyDescriptors
  rw [if_pos (decide_eq_true distinct), same,
    validateBodyIds_ok (fun _ h => h) (fun _ _ => not_mem_nil) distinct]
  rw [if_pos]
  rw [List.all_eq_true]
  exact fun id hmem => contains_iff_mem.mpr hmem

variable {results : List TaskResult}

theorem validateLibraryItemPublicationLeases_ok {primaryLibraryItemId : String}
    {leases : List LibraryItemPublicationLease}
    (leased : leases.map LibraryItemPublicationLease.itemId =
      (results.map TaskResult.libraryItemId).filter fun id => id != "")
    (artifacts : ∀ result ∈ results, ∀ artifact ∈ result.artifacts,
      artifact.libraryItemId = "" ∨ artifact.libraryItemId = result.libraryItemId)
    (primary : primaryLibraryItemId =
      ((results.map TaskResult.libraryItemId).find? fun id => id != "").getD "") :
    validateLibraryItemPublicationLeases primaryLibraryItemId results leases = .ok () := by
  have hleased : ∀ id, id ∈ leases.map LibraryItemPublicationLease.itemId ↔
      (∃ result ∈ results, result.libraryItemId = id) ∧ id ≠ "" := by
    intro id
    rw [leased, mem_filter, List.mem_map, bne_iff_ne]
  have hprim : primaryLibraryItemId ≠ "" →
      ∃ result ∈ results, result.libraryItemId = primaryLibraryItemId := by
    intro hne
    cases hfind : (results.map TaskResult.libraryItemId).find? fun id => id != "" with
    | none =>
      rw [hfind] at primary
      exact absurd primary hne
    | some first =>
      rw [hfind] at primary
      rw [primary]
      exact List.mem_map.mp (mem_of_find?_eq_some hfind)
  unfold validateLibraryItemPublicationLeases
  rw [if_pos]
  rw [Bool.and_eq_true, List.all_eq_true, List.all_eq_true]
  constructor
  · intro id hmem
    obtain ⟨⟨result, hres, hid⟩, hne⟩ := (hleased id).mp hmem
    rw [contains_iff_mem, mem_filter, bne_iff_ne]
    refine ⟨mem_append_left _ (mem_flatMap.mpr ⟨result, hres, ?_⟩), hne⟩
    rw [← hid]
    exact mem_cons_self
  · intro id hmem
    rw [mem_filter, bne_iff_ne] at hmem
    obtain ⟨hmem, hne⟩ := hmem
    rw [contains_iff_mem]
    apply (hleased id).mpr
    refine ⟨?_, hne⟩
    rcases mem_append.mp hmem with hrs | hl
    · obtain ⟨result, hres, hid⟩ := mem_flatMap.mp hrs
      rcases mem_cons.mp hid with rfl | hart
      · exact ⟨result, hres, rfl⟩
      obtain ⟨artifact, hlisted, rfl⟩ := List.mem_map.mp hart
      rcases artifacts result hres artifact hlisted with hempty | hsame
      · exact absurd hempty hne
      · exact ⟨result, hres, hsame.symm⟩
    · rw [mem_singleton.mp hl] at hne ⊢
      exact hprim hne

def V2Download.UniqueResourceIds (d : V2Download) : Prop :=
  ∀ first second, d.Draws first → d.Draws second → d.drawnId first = d.drawnId second →
    first = second

structure BilibiliDownloadOutput.Accounts (d : V2Download) (output : BilibiliDownloadOutput) :
    Prop where
  length : output.results.length = d.candidates.length
  results : ∀ (i : Nat) (result : TaskResult), output.results[i]? = some result →
    ∃ candidate stages, d.candidates[i]? = some (candidate, stages) ∧
      result.id = bilibiliV2ResultId d.taskId i ∧ Describes result candidate ∧
      (result.state = taskStateSucceeded →
        stages.revalidation = .ok () ∧ .revalidated i none ∈ output.log)
  cancelled : output.terminalState = .cancelled ↔
    ∃ event ∈ output.log, event.observesCancellation = true
  succeeded : output.terminalState = .succeeded ↔
    (∀ event ∈ output.log, event.observesCancellation = false) ∧
      ∃ result ∈ output.results, result.state = taskStateSucceeded
  failed : output.terminalState = .failed ↔
    (∀ event ∈ output.log, event.observesCancellation = false) ∧
      ∀ result ∈ output.results, result.state ≠ taskStateSucceeded
  directories : (∃ event ∈ output.log, event.failsDirectory = true) →
    ∀ result ∈ output.results, result.state ≠ taskStateSucceeded
  resources : output.resources.map TaskResourceRecord.resource =
    (output.results.filter isSucceeded).flatMap fun result =>
      result.artifacts.filterMap TaskArtifact.resource
  bodies : output.resourceBodies.map BilibiliTaskResourceBody.resourceId =
    output.resources.map fun record => record.resource.id
  leases : output.libraryItemLeases.map LibraryItemPublicationLease.itemId =
    ((output.results.filter isSucceeded).map TaskResult.libraryItemId).filter fun id => id != ""
  leasesValid : validateLibraryItemPublicationLeases output.libraryItemId output.results
    output.libraryItemLeases = .ok ()
  bodiesValid : validateResourceBodyDescriptors output.resources output.resourceBodies = .ok ()
  cleanup : output.ownedDirectoryCleanupPaths =
    if ∀ result ∈ output.results, result.libraryItemId = "" ∧
        ∀ artifact ∈ result.artifacts, artifact.libraryItemId = "" then
      [d.stagingPath, d.publishedPath]
    else
      [d.stagingPath]

include accounts

theorem revalidated_in_log {event : StageEvent} (h : event ∈ p.log) : event ∈ s.log := by
  obtain ⟨events, hlog, -⟩ := accounts.log
  rw [hlog]
  exact mem_append_left _ h

theorem no_success_of_error (failed : p.publicationError.isSome = true) :
    ∀ result ∈ s.results, result.state ≠ taskStateSucceeded := by
  intro result hmem hstate
  obtain ⟨i, hi⟩ := mem_iff_getElem?.mp hmem
  obtain ⟨_, _, _, _, _, hv⟩ := accounts.results i result hi
  rw [(hv hstate).1] at failed
  cases failed

theorem successful_pos_iff :
    0 < s.successfulResults ↔ ∃ result ∈ s.results, result.state = taskStateSucceeded := by
  rw [accounts.successful, length_pos_iff_exists_mem]
  constructor
  · rintro ⟨result, hmem⟩
    obtain ⟨hlisted, hstate⟩ := mem_filter.mp hmem
    exact ⟨result, hlisted, beq_iff_eq.mp hstate⟩
  · rintro ⟨result, hlisted, hstate⟩
    exact ⟨result, mem_filter.mpr ⟨hlisted, beq_iff_eq.mpr hstate⟩⟩

omit accounts

theorem flatMap_succeeded {Value : Type} {collect : TaskResult → List Value}
    (empty : ∀ result ∈ results, result.state ≠ taskStateSucceeded → collect result = []) :
    results.flatMap collect = (results.filter isSucceeded).flatMap collect := by
  induction results with
  | nil => rfl
  | cons result rest ih =>
    have hr := ih fun other hmem => empty other (mem_cons_of_mem _ hmem)
    cases hstate : isSucceeded result with
    | true => rw [filter_cons_of_pos hstate, flatMap_cons, flatMap_cons, hr]
    | false =>
      have hno : result.state ≠ taskStateSucceeded := beq_eq_false_iff_ne.mp hstate
      rw [filter_cons_of_neg (by rw [hstate]; exact Bool.false_ne_true),
        flatMap_cons, empty result mem_cons_self hno, nil_append, hr]

theorem leases_succeeded
    (empty : ∀ result ∈ results, result.state ≠ taskStateSucceeded → result.libraryItemId = "") :
    ((results.map TaskResult.libraryItemId).filter fun id => id != "") =
      ((results.filter isSucceeded).map TaskResult.libraryItemId).filter fun id => id != "" := by
  have hcollect : ∀ items : List TaskResult,
      ((items.map TaskResult.libraryItemId).filter fun id => id != "") =
        items.flatMap fun result => [result.libraryItemId].filter fun id => id != "" := by
    intro items
    induction items with
    | nil => rfl
    | cons item rest ih =>
      rw [map_cons, flatMap_cons, ← ih, ← filter_append, singleton_append]
  rw [hcollect, hcollect]
  apply flatMap_succeeded
  intro result hmem hstate
  rw [empty result hmem hstate]
  rfl

include accounts in
theorem primary_empty_iff :
    s.primaryLibraryItemId = "" ↔ ∀ result ∈ s.results, result.libraryItemId = "" ∧
      ∀ artifact ∈ result.artifacts, artifact.libraryItemId = "" := by
  rw [accounts.primary]
  constructor
  · intro h result hmem
    have hempty : result.libraryItemId = "" := by
      cases hfind : (s.results.map TaskResult.libraryItemId).find? fun id => id != "" with
      | none =>
        have hnone := List.find?_eq_none.mp hfind _ (List.mem_map_of_mem hmem)
        simpa using hnone
      | some first =>
        have hfirst := List.find?_some hfind
        rw [hfind, getD_some] at h
        exact absurd h (bne_iff_ne.mp hfirst)
    refine ⟨hempty, fun artifact hart => ?_⟩
    rcases accounts.artifacts result hmem artifact hart with hnone | hsame
    · exact hnone
    · rw [hsame, hempty]
  · intro h
    have hnone : ((s.results.map TaskResult.libraryItemId).find? fun id => id != "") = none := by
      rw [List.find?_eq_none]
      intro id hmem
      obtain ⟨result, hres, rfl⟩ := List.mem_map.mp hmem
      simp [(h result hres).1]
    rw [hnone]
    rfl

include accounts in
theorem resourceIds_nodup (unique : d.UniqueResourceIds) :
    (s.resources.map fun record => record.resource.id).Nodup := by
  obtain ⟨draws, hnodup, hdraws, hids⟩ := accounts.draws
  rw [hids]
  apply hnodup.map_on
  intro first hfirst second hsecond heq
  exact unique first second (hdraws first hfirst).2 (hdraws second hsecond).2 heq

theorem terminalState_spec (d : V2Download) (s : MappingLoop) :
    ((downloadOutput d s).terminalState = .cancelled ↔ s.cancelled = true) ∧
      ((downloadOutput d s).terminalState = .succeeded ↔
        s.cancelled = false ∧ 0 < s.successfulResults) ∧
      ((downloadOutput d s).terminalState = .failed ↔
        s.cancelled = false ∧ ¬ 0 < s.successfulResults) := by
  simp only [downloadOutput]
  cases s.cancelled with
  | true => simp
  | false =>
    by_cases hpos : 0 < s.successfulResults
    · simp [hpos]
    · simp [hpos]

/-- Whatever the stages of each candidate return, a run that returns accounts for all of
them. -/
theorem runV2Download_accounts {d : V2Download} {output : BilibiliDownloadOutput}
    (unique : d.UniqueResourceIds) (h : runV2Download d = .ok output) : output.Accounts d := by
  unfold runV2Download at h
  split at h
  · cases h
  split at h
  · cases h
  rename_i downloaded hdownloaded
  split at h
  · cases h
  rename_i published hpublish
  split at h
  · cases h
  rename_i final hfinal
  cases h
  have hstart : DownloadLoop.After d 0 {} := ⟨rfl, placed_nil _, rfl, rfl⟩
  have hafter : downloaded.After d d.candidates.length :=
    after_downloadCandidates hstart (Nat.zero_le _) rfl hdownloaded
  have hpublished := publishOutputs_spec hafter hpublish
  have haccounts : final.Accounts d published d.candidates.length := by
    apply accounts_mapCandidates hpublished (hpublished.length.trans hafter.length)
      (accounts_start d published ?_) (Nat.zero_le _) rfl rfl hfinal
    rw [hafter.cancelled, hpublished.cancelled]
  have hobserved : final.cancelled = true ↔
      ∃ event ∈ final.log, event.observesCancellation = true := by
    rw [haccounts.cancelled, List.any_eq_true]
  have hunobserved : final.cancelled = false ↔
      ∀ event ∈ final.log, event.observesCancellation = false := by
    rw [haccounts.cancelled, List.any_eq_false]
    simp
  have hpositive := successful_pos_iff haccounts
  have hstate := terminalState_spec d final
  constructor
  case length => exact haccounts.length
  case results =>
    intro i result hitem
    obtain ⟨candidate, stages, hfound, hid, hdescribes, hvalid⟩ :=
      haccounts.results i result hitem
    refine ⟨candidate, stages, hfound, hid, hdescribes, fun hstate => ?_⟩
    obtain ⟨-, report, hrevalidation, -, hmem⟩ := hvalid hstate
    exact ⟨hrevalidation, revalidated_in_log haccounts hmem⟩
  case cancelled => exact hstate.1.trans hobserved
  case succeeded => exact hstate.2.1.trans (and_congr hunobserved hpositive)
  case failed =>
    rw [hstate.2.2, hpositive, hunobserved]
    simp only [not_exists, not_and, ne_eq]
    rfl
  case directories =>
    rintro ⟨event, hmem, hfails⟩
    apply no_success_of_error haccounts
    apply hpublished.directory
    obtain ⟨events, hlog, hsound⟩ := haccounts.log
    have hany : final.log.any failsDirectory = true :=
      List.any_eq_true.mpr ⟨event, hmem, hfails⟩
    rw [hlog, any_append, hsound, Bool.or_false] at hany
    exact hany
  case resources =>
    simp only [downloadOutput]
    rw [haccounts.resources]
    apply flatMap_succeeded
    intro result hmem hstate
    rw [(haccounts.unsuccessful result hmem hstate).2]
    rfl
  case bodies => exact haccounts.bodies
  case leases =>
    simp only [downloadOutput]
    rw [haccounts.leases]
    exact leases_succeeded fun result hmem hstate =>
      (haccounts.unsuccessful result hmem hstate).1
  case leasesValid =>
    exact validateLibraryItemPublicationLeases_ok haccounts.leases haccounts.artifacts
      haccounts.primary
  case bodiesValid =>
    exact validateResourceBodyDescriptors_ok haccounts.bodies (resourceIds_nodup haccounts unique)
  case cleanup =>
    simp only [downloadOutput, beq_iff_eq, primary_empty_iff haccounts]

def sampleCandidate : BilibiliTaskCandidateRecord where
  title := "Part 1"
  subtitle := ""
  sourceKind := "video_page"
  contentId := "7"
  identity := { kind := .videoPage, aid := some 5, bvid := none, cid := some 7, epid := none }
  index := 1

def sampleReport : DownloadReport where
  entries :=
    [⟨some "task/1/part.mp4", [⟨.video, "task/1/part.m4s"⟩, ⟨.cover, "task/1/part.jpg"⟩]⟩]
  totalBytes := 100

def sampleMapping : MappingOutcomes where
  reservation := fun _ => ⟨.ok (), some ⟨"local.cache.cGFydA", by decide⟩, .ok ()⟩
  sidecar := fun _ => .ok 10
  chaptersBody := .ok [123, 125]
  metadataBody := .ok [123, 125]
  uuids := fun number => ⟨BitVec.ofNat 128 number, BitVec.ofNat 128 (number + 16)⟩

def sampleStages : CandidateStages where
  cancelRequested := false
  plan := .ok ⟨[["Opening"]]⟩
  directory := .ok ()
  options := .ok ()
  download := .ok ()
  prepared := .ok (sampleReport, 2)
  cleanup := .ok ()
  publishedDirectory := .ok ()
  revalidation := .ok ()
  remapped := .ok sampleReport
  mapping := sampleMapping
  publishedCleanup := .ok ()

def unplannedStages : CandidateStages :=
  { sampleStages with
    plan := .error (.failed "BBDown adapter failed: no entry")
    remapped := .error (.failed "BBDown adapter failed: no entry") }

def sampleDownload : V2Download where
  taskId := "task"
  candidates := [(sampleCandidate, sampleStages), (sampleCandidate, unplannedStages)]
  mode := .all
  retainedDescriptorBudget := 64
  stagingPath := "staging/task"
  publishedPath := "bilibili/task"
  setup := .ok ()
  publication := .ok ()

theorem sampleDownload_draws {draw : Nat × Nat} (h : sampleDownload.Draws draw) :
    draw ∈ [(0, 0), (0, 1), (0, 2), (0, 3)] := by
  obtain ⟨offset, number⟩ := draw
  obtain ⟨candidate, stages, report, hf, hremapped, hnumber⟩ := h
  match offset with
  | 0 =>
    cases hf
    cases hremapped
    have hlt : number < 4 := hnumber
    have hnumbers : number = 0 ∨ number = 1 ∨ number = 2 ∨ number = 3 := by omega
    rcases hnumbers with rfl | rfl | rfl | rfl <;> decide
  | 1 =>
    cases hf
    cases hremapped
  | offset + 2 => cases hf

theorem sampleDownload_unique : sampleDownload.UniqueResourceIds := by
  have hall : ([(0, 0), (0, 1), (0, 2), (0, 3)] : List (Nat × Nat)).all (fun first =>
      [(0, 0), (0, 1), (0, 2), (0, 3)].all fun second =>
        sampleDownload.drawnId first != sampleDownload.drawnId second || first == second) =
      true := by
    decide +kernel
  intro first second hfirst hsecond heq
  have hpair := List.all_eq_true.mp (List.all_eq_true.mp hall first
    (sampleDownload_draws hfirst)) second (sampleDownload_draws hsecond)
  simpa [heq] using hpair

theorem runV2Download_accounts_sample : ∃ output, runV2Download sampleDownload = .ok output ∧
    output.terminalState = .succeeded ∧ output.Accounts sampleDownload := by
  have hstate : (runV2Download sampleDownload).map BilibiliDownloadOutput.terminalState =
      .ok .succeeded := by
    decide +kernel
  cases hrun : runV2Download sampleDownload with
  | error error =>
    rw [hrun] at hstate
    cases hstate
  | ok output =>
    rw [hrun] at hstate
    exact ⟨output, rfl, Except.ok.inj hstate, runV2Download_accounts sampleDownload_unique hrun⟩

end NetPlayer.Downloads
