import NetPlayer.Tasks.Transitions

/-!
# The fill status of a session

Updates of the fill status of one HLS session, ordinary ones and those of a verified
completion. The status of a session is kept in its result item and, for the primary session, in
the task too.
-/

namespace NetPlayer.Tasks

open HlsCacheFillStatus Registry
open Function (update)
open Transition (Run Guarded)

variable {Output : Type}

def Registry.updateHlsCacheFillStatus (config : Config Output) (input : SaveInput)
    (registry : Registry Output) (taskId sessionId : String) (status : HlsCacheFillStatus)
    (now : Timestamp) : Reply Output (Option Task) :=
  registry.updateHlsCacheFillStatusInner config input taskId sessionId status false now

def HlsCacheFillStatus.isExactCompletion (status : HlsCacheFillStatus) : Bool :=
  status.state == .completed && status.totalBytesKnown && status.totalBytes != 0 &&
    status.completedBytes == status.totalBytes && status.representationId != ""

def Registry.updateHlsCacheFillStatusFromVerifiedCompletion (config : Config Output)
    (input : SaveInput) (registry : Registry Output) (taskId sessionId : String)
    (status : HlsCacheFillStatus) (now : Timestamp) : Reply Output (Option Task) :=
  if !status.isExactCompletion then
    (registry, .error (.failedPrecondition
      "Verified HLS cache completion requires an exact positive byte total."))
  else registry.updateHlsCacheFillStatusInner config input taskId sessionId status true now

inductive FillUpdate where
  | ordinary (status : HlsCacheFillStatus)
  | verifiedCompletion (status : HlsCacheFillStatus)

def FillUpdate.isVerified : FillUpdate → Bool
  | .ordinary _ => false
  | .verifiedCompletion _ => true

inductive FillStep (config : Config Output) (taskId sessionId : String) :
    Registry Output → FillUpdate → Registry Output → Prop
  | ordinary (registry : Registry Output) (input : SaveInput) (status : HlsCacheFillStatus)
      (now : Timestamp) :
      FillStep config taskId sessionId registry (.ordinary status)
        (registry.updateHlsCacheFillStatus config input taskId sessionId status now).1
  | verifiedCompletion (registry : Registry Output) (input : SaveInput)
      (status : HlsCacheFillStatus) (now : Timestamp) :
      FillStep config taskId sessionId registry (.verifiedCompletion status)
        (registry.updateHlsCacheFillStatusFromVerifiedCompletion config input taskId sessionId
          status now).1

def SameRepresentation (previous next : HlsCacheFillStatus) : Prop :=
  previous.representationId = next.representationId ∧ next.representationId ≠ ""

/-- The status that replaces `previous` in a change. -/
structure HlsCacheFillStatus.Follows (verified : Bool) (previous next : HlsCacheFillStatus) :
    Prop where
  completed : previous.state = .completed → SameRepresentation previous next ∧
    (next.state = .failed ∧ next.failureKind = .safety ∨
      verified = true ∧ next.state = .completed ∧ previous.totalBytesKnown = false ∧
        next.totalBytesKnown = true)
  total : SameRepresentation previous next → previous.totalBytesKnown = true →
    next.totalBytesKnown = true
  progress : SameRepresentation previous next →
    previous.completedBytes ≤ next.completedBytes ∨
      verified = true ∧ next.totalBytesKnown = true ∧ next.completedBytes = next.totalBytes

def HlsCacheFillStatus.Fits (status : HlsCacheFillStatus) : Prop :=
  status.totalBytesKnown = true → status.completedBytes ≤ status.totalBytes

structure HlsCacheFillStatus.CountsWithin (status : HlsCacheFillStatus)
    (previous : HlsCacheFillStatus) : Prop where
  total : SameRepresentation previous status → status.totalBytesKnown = true →
    previous.completedBytes ≤ status.totalBytes
  completed : SameRepresentation previous status → status.totalBytesKnown = false →
    previous.totalBytesKnown = true → status.completedBytes ≤ previous.totalBytes

section

variable {status previous merged : HlsCacheFillStatus} {verified : Bool}

theorem sameRepresentation_iff :
    (status.representationId != "" && previous.representationId == status.representationId) =
      true ↔ SameRepresentation previous status := by
  simp only [Bool.and_eq_true, bne_iff_ne, beq_iff_eq, SameRepresentation]
  exact and_comm

theorem mergedWith_same (status previous : HlsCacheFillStatus) (verified : Bool) :
    (status.mergedWith previous verified).state = status.state ∧
      (status.mergedWith previous verified).failureKind = status.failureKind ∧
      (status.mergedWith previous verified).representationId = status.representationId := by
  cases hst : status.totalBytesKnown <;> cases hprevious : previous.totalBytesKnown <;>
    cases verified <;> simp [mergedWith, hst, hprevious]

theorem mergedWith_known (status previous : HlsCacheFillStatus) (verified : Bool) :
    (status.mergedWith previous verified).totalBytesKnown =
      (status.totalBytesKnown || previous.totalBytesKnown) := by
  cases hst : status.totalBytesKnown <;> cases hprevious : previous.totalBytesKnown <;>
    cases verified <;> simp [mergedWith, hst, hprevious]

theorem mergedWith_total (status previous : HlsCacheFillStatus) (verified : Bool) :
    (status.mergedWith previous verified).totalBytes =
      if status.totalBytesKnown = false ∧ previous.totalBytesKnown = true then
        previous.totalBytes else status.totalBytes := by
  cases hst : status.totalBytesKnown <;> cases hprevious : previous.totalBytesKnown <;>
    cases verified <;> simp [mergedWith, hst, hprevious]

theorem mergedWith_completed (status previous : HlsCacheFillStatus) (verified : Bool) :
    (status.mergedWith previous verified).completedBytes =
      if verified = true ∧ (status.mergedWith previous verified).totalBytesKnown = true then
        min (max status.completedBytes previous.completedBytes)
          (status.mergedWith previous verified).totalBytes
      else max status.completedBytes previous.completedBytes := by
  rw [mergedWith_known, mergedWith_total]
  cases hst : status.totalBytesKnown <;> cases hprevious : previous.totalBytesKnown <;>
    cases verified <;> simp [mergedWith, hst, hprevious]

theorem admitted_cases (h : status.admitted (some previous) verified = some merged) :
    (¬ SameRepresentation previous status ∧ previous.state ≠ .completed ∧ merged = status) ∨
      (SameRepresentation previous status ∧ merged = status.mergedWith previous verified ∧
        (previous.state = .completed →
          verified = true ∧ previous.totalBytesKnown = false ∨
            status.state = .failed ∧ status.failureKind = .safety)) := by
  unfold HlsCacheFillStatus.admitted at h
  simp only at h
  by_cases hsame : SameRepresentation previous status
  · have hrepr := sameRepresentation_iff.mpr hsame
    right
    rw [hrepr] at h
    simp only [Bool.not_true, Bool.false_and, Bool.true_and, Bool.and_true] at h
    split at h
    · cases h
    rename_i hk
    simp only [Bool.false_eq_true, if_false, Option.some.injEq] at h
    refine ⟨hsame, h.symm, fun hcompl => ?_⟩
    simp only [hcompl, beq_self_eq_true, Bool.and_true, Bool.and_eq_true,
      Bool.not_eq_true', not_and, decide_true, true_and] at hk
    cases hverified : verified <;> cases hknown : previous.totalBytesKnown <;>
      simp_all
  · have hrepr : (status.representationId != "" &&
        previous.representationId == status.representationId) = false := by
      rw [Bool.eq_false_iff]
      exact fun h => hsame (sameRepresentation_iff.mp h)
    left
    rw [hrepr] at h
    simp only [Bool.and_false, Bool.false_and, Bool.not_false, Bool.true_and, Bool.and_true,
      decide_eq_true_eq, if_true] at h
    split at h
    · cases h
    rename_i hopen
    split at h
    · cases h
    · rw [Option.some.injEq] at h
      exact ⟨hsame, hopen, h.symm⟩

def HlsCacheFillStatus.recorded (status : HlsCacheFillStatus) : HlsCacheFillStatus :=
  { status with message := status.clientMessage }

theorem isExactCompletion_iff : status.isExactCompletion = true ↔
    status.state = .completed ∧ status.totalBytesKnown = true ∧ status.totalBytes ≠ 0 ∧
      status.completedBytes = status.totalBytes ∧ status.representationId ≠ "" := by
  simp [isExactCompletion, and_assoc]

theorem follows_of_admitted (exact : verified = true → status.isExactCompletion = true)
    (h : status.admitted (some previous) verified = some merged) :
    previous.Follows verified merged.recorded := by
  rcases admitted_cases h with ⟨ho, hopen, rfl⟩ | ⟨hsame, rfl, hcompl⟩
  · exact { completed := fun hcl => (hopen hcl).elim
            total := fun hsame => (ho hsame).elim
            progress := fun hsame => (ho hsame).elim }
  · obtain ⟨hs, hkind, hrepr⟩ :=
      mergedWith_same status previous verified
    have hk := mergedWith_known status previous verified
    refine { completed := fun hcl => ⟨?_, ?_⟩, total := ?_, progress := ?_ }
    · unfold SameRepresentation HlsCacheFillStatus.recorded
      rw [hrepr]
      exact hsame
    · unfold HlsCacheFillStatus.recorded
      rcases hcompl hcl with ⟨hverified, hunknown⟩ | ⟨hfailed, hsafety⟩
      · obtain ⟨hdone, htot, -⟩ := isExactCompletion_iff.mp (exact hverified)
        right
        refine ⟨hverified, hs.trans hdone, hunknown, ?_⟩
        rw [hk, htot]
        rfl
      · exact .inl ⟨hs.trans hfailed, hkind.trans hsafety⟩
    · intro _ hprevious
      unfold HlsCacheFillStatus.recorded
      rw [hk, hprevious, Bool.or_true]
    · intro _
      have hc := mergedWith_completed status previous verified
      unfold HlsCacheFillStatus.recorded
      split at hc
      · rename_i hclamped
        rw [hc]
        rcases Nat.le_total (max status.completedBytes previous.completedBytes)
          (status.mergedWith previous verified).totalBytes with hle | hle
        · left
          rw [Nat.min_eq_left hle]
          exact Nat.le_max_right _ _
        · exact .inr ⟨hclamped.1, hclamped.2, Nat.min_eq_right hle⟩
      · rw [hc]
        exact .inl (Nat.le_max_right _ _)

variable {current : Option HlsCacheFillStatus}

theorem fits_of_exact (exact : status.isExactCompletion = true)
    (h : status.admitted current true = some merged) : merged.recorded.Fits := by
  obtain ⟨-, htot, -, hc, -⟩ := isExactCompletion_iff.mp exact
  cases current with
  | none =>
    cases h
    exact fun _ => le_of_eq hc
  | some previous =>
    rcases admitted_cases h with ⟨-, -, rfl⟩ | ⟨-, rfl, -⟩
    · exact fun _ => le_of_eq hc
    intro hk
    have hcompl := mergedWith_completed status previous true
    rw [if_pos ⟨rfl, hk⟩] at hcompl
    exact hcompl ▸ Nat.min_le_right _ _

theorem fits_of_within (own : status.Fits)
    (within : ∀ previous ∈ current, status.CountsWithin previous)
    (fits : ∀ previous ∈ current, previous.Fits) (h : status.admitted current false = some merged) :
    merged.recorded.Fits := by
  cases current with
  | none =>
    cases h
    exact own
  | some previous =>
    rcases admitted_cases h with ⟨-, -, rfl⟩ | ⟨hsame, rfl, -⟩
    · exact own
    intro _
    have hwithin := within previous rfl
    have hfit := fits previous rfl
    have hcompl := mergedWith_completed status previous false
    have htot := mergedWith_total status previous false
    have hk := mergedWith_known status previous false
    rw [if_neg (by simp)] at hcompl
    simp only [HlsCacheFillStatus.recorded] at *
    rw [hcompl, htot]
    cases hst : status.totalBytesKnown with
    | true =>
      rw [if_neg (by simp)]
      exact Nat.max_le.mpr ⟨own hst, hwithin.total hsame hst⟩
    | false =>
      have hprevious : previous.totalBytesKnown = true := by
        simp_all
      rw [if_pos ⟨rfl, hprevious⟩]
      exact Nat.max_le.mpr ⟨hwithin.completed hsame hst hprevious, hfit hprevious⟩

end

def Task.sessionItem (task : Task) (sessionId : String) : Option BilibiliTaskResultItem :=
  task.resultItems.find? fun item => item.usesHlsSession sessionId

def Task.fillStatus (task : Task) (sessionId : String) : Option HlsCacheFillStatus :=
  task.currentFillStatus (task.sessionItem sessionId) sessionId

def Task.StatusesAgree (task : Task) (sessionId : String) : Prop :=
  task.usesHlsSessionAsPrimary sessionId = true →
    ∀ item, task.sessionItem sessionId = some item →
      item.hlsCacheFillStatus = task.hlsCacheFillStatus

def Task.unsummarized (task : Task) : Task :=
  { task with outputSummary := none }

section

variable {task other : Task} {sessionId : String} {status : HlsCacheFillStatus} {now : Timestamp}

theorem fillStatus_of_unsummarized (h : task.unsummarized = other.unsummarized) :
    task.fillStatus sessionId = other.fillStatus sessionId := by
  change task.unsummarized.fillStatus sessionId = other.unsummarized.fillStatus sessionId
  rw [h]

theorem statusesAgree_of_unsummarized (h : task.unsummarized = other.unsummarized)
    (agree : other.StatusesAgree sessionId) : task.StatusesAgree sessionId := by
  change task.unsummarized.StatusesAgree sessionId
  rw [h]
  exact agree

theorem find_modifyFirst (items : List BilibiliTaskResultItem)
    {selected : BilibiliTaskResultItem → Bool}
    {change : BilibiliTaskResultItem → BilibiliTaskResultItem}
    (stays : ∀ item, selected (change item) = selected item) :
    (modifyFirst items selected change).find? selected = (items.find? selected).map change := by
  induction items with
  | nil => rfl
  | cons item rest ih =>
    unfold modifyFirst
    cases hi : selected item with
    | true => simp [stays, hi]
    | false => simpa [hi] using ih

theorem sessionItem_withFillStatus :
    (task.withFillStatus sessionId status now).sessionItem sessionId =
      (task.sessionItem sessionId).map fun item =>
        { item with hlsCacheFillStatus := some status } :=
  find_modifyFirst task.resultItems fun _ => rfl

theorem fillStatus_withFillStatus
    (place : (task.sessionItem sessionId).isSome = true ∨
      task.usesHlsSessionAsPrimary sessionId = true) :
    (task.withFillStatus sessionId status now).fillStatus sessionId = some status := by
  unfold Task.fillStatus Task.currentFillStatus
  rw [sessionItem_withFillStatus]
  cases hi : task.sessionItem sessionId with
  | some item => rfl
  | none =>
    rw [hi] at place
    have hprim := place.resolve_left nofun
    change (if task.usesHlsSessionAsPrimary sessionId then
      (if task.usesHlsSessionAsPrimary sessionId then some status
        else task.hlsCacheFillStatus) else none) = some status
    rw [if_pos hprim, if_pos hprim]

theorem statusesAgree_withFillStatus :
    (task.withFillStatus sessionId status now).StatusesAgree sessionId := by
  intro hprim item hi
  have hprim : task.usesHlsSessionAsPrimary sessionId = true := hprim
  rw [sessionItem_withFillStatus, Option.map_eq_some_iff] at hi
  obtain ⟨before, -, rfl⟩ := hi
  change some status =
    if task.usesHlsSessionAsPrimary sessionId then some status else task.hlsCacheFillStatus
  rw [if_pos hprim]

end

def Registry.Shows (registry : Registry Output) (id : String) (property : Task → Prop) : Prop :=
  ∀ task, registry.tasksById id = some task → property task.unsummarized

section

variable {config : Config Output} {id : String} {property : Task → Prop}

variable {before after : Registry Output}

theorem shows_of_same (shows : before.Shows id property)
    (h : after.tasksById id = before.tasksById id) : after.Shows id property := by
  intro task hlive
  exact shows task (h ▸ hlive)

theorem shows_reconcileTaskOutput {taskId : String} {outputs : TaskOutputs Output}
    (h : before.reconcileTaskOutput outputs taskId = some after)
    (shows : before.Shows id property) : after.Shows id property := by
  by_cases heq : id = taskId
  · subst heq
    unfold reconcileTaskOutput at h
    cases hlive : before.tasksById id with
    | none =>
      rw [hlive] at h
      cases h
      exact shows_of_same shows rfl
    | some task =>
      simp only [hlive] at h
      split at h
      · cases h
      cases h
      intro after hafter
      simp only [Function.update_self, Option.some.injEq] at hafter
      subst hafter
      exact shows task hlive
  · exact shows_of_same shows (reconcileTaskOutput_others h heq).1

theorem shows_reconcileAll (outputs : TaskOutputs Output) (taskIds : List String)
    (shows : before.Shows id property) :
    (before.reconcileAllTaskOutputs outputs taskIds).1.Shows id property := by
  induction taskIds generalizing before with
  | nil => exact shows
  | cons taskId rest ih =>
    simp only [reconcileAllTaskOutputs]
    split
    · exact shows
    · rename_i reconciled hrecon
      exact ih (shows_reconcileTaskOutput hrecon shows)

variable {registry : Registry Output}

theorem shows_installCommitted (input : SaveInput) (pruned : List String)
    (shows : registry.Shows id property) :
    (registry.installCommitted input pruned).Shows id property := by
  obtain ⟨htasks, -⟩ := installCommitted_spec registry input pruned
  intro task hlive
  rw [htasks] at hlive
  unfold unpruned at hlive
  split at hlive
  · cases hlive
  · exact shows task hlive

variable {input : SaveInput} {durabilityRequired requireDurableCommit : Bool}
  {start : Registry Output}

theorem shows_persistAndPublishPending (shows : registry.Shows id property)
    (started : start.Shows id property) :
    (registry.persistAndPublishPending config input durabilityRequired
      (some (RegistryMutationCheckpoint.capture start)) requireDurableCommit).1.Shows id
        property := by
  have hrecon := shows_reconcileAll config.outputs input.taskIds shows
  have hr : ∀ current : Registry Output,
      ((RegistryMutationCheckpoint.capture start).restore current).Shows id property :=
    fun _ => shows_of_same started rfl
  unfold persistAndPublishPending
  simp only
  split
  · exact shows_installCommitted input _ (shows_of_same hrecon rfl)
  · split
    · rename_i checkpoint heq
      cases heq
      exact hr _
    · exact shows_installCommitted input _ (shows_of_same hrecon rfl)
  · exact shows_installCommitted input _ (shows_of_same hrecon rfl)
  · exact hr _

theorem shows_persistTasksAndPublish {tasks : List Task} (shows : registry.Shows id property)
    (started : start.Shows id property) :
    (registry.persistTasksAndPublish config input tasks durabilityRequired
      (some (RegistryMutationCheckpoint.capture start)) requireDurableCommit).1.Shows id
        property := by
  apply shows_persistAndPublishPending _ started
  exact shows_of_same shows (congrFun (foldl_stage_spec tasks registry).1 id)

theorem shows_recordFillStatus {taskId resultId : String} {updated : Task}
    {status : HlsCacheFillStatus} (shows : registry.Shows taskId property)
    (changed : property updated.unsummarized) :
    (registry.recordFillStatus config input taskId resultId updated status).1.Shows taskId
      property := by
  unfold recordFillStatus
  split
  · exact shows
  · exact shows
  refine shows_persistTasksAndPublish ?_ shows
  intro task hlive
  simp only [setTask, Function.update_self, Option.some.injEq] at hlive
  subst hlive
  exact changed

structure Records (sessionId : String) (verified : Bool) (status : HlsCacheFillStatus)
    (before after : Task) : Prop where
  place : (before.sessionItem sessionId).isSome = true ∨
    before.usesHlsSessionAsPrimary sessionId = true
  recorded : ∃ merged now, status.admitted (before.fillStatus sessionId) verified = some merged ∧
    after.unsummarized = (before.withFillStatus sessionId merged.recorded now).unsummarized

variable {sessionId : String}

theorem updateInner_cases {status : HlsCacheFillStatus} {verified : Bool} {now : Timestamp}
    {after : Task}
    (h : (registry.updateHlsCacheFillStatusInner config input id sessionId status verified
      now).1.tasksById id = some after) :
    ∃ before, registry.tasksById id = some before ∧
      (after.unsummarized = before.unsummarized ∨
        Records sessionId verified status before after) := by
  unfold updateHlsCacheFillStatusInner at h
  cases hlive : registry.tasksById id with
  | none =>
    simp only [hlive] at h
    cases h
  | some task =>
    have hunchanged : registry.tasksById id = some after →
        ∃ before, some task = some before ∧
          (after.unsummarized = before.unsummarized ∨
            Records sessionId verified status before after) := by
      intro hafter
      rw [hlive, Option.some.injEq] at hafter
      exact ⟨task, rfl, .inl (hafter ▸ rfl)⟩
    simp only [hlive] at h
    split at h
    · exact hunchanged h
    split at h
    · exact hunchanged h
    split at h
    · exact hunchanged h
    rename_i resultId hplace
    split at h
    · exact hunchanged h
    rename_i merged hmerged
    split at h
    · exact hunchanged h
    refine ⟨task, rfl, ?_⟩
    have hshows : (registry.recordFillStatus config input id resultId
        (task.withFillStatus sessionId merged.recorded now)
        merged.recorded).1.Shows id fun shown => shown = task.unsummarized ∨
          shown =
            (task.withFillStatus sessionId merged.recorded now).unsummarized := by
      refine shows_recordFillStatus ?_ (.inr rfl)
      intro before hb
      rw [hlive, Option.some.injEq] at hb
      exact .inl (hb ▸ rfl)
    rcases hshows after h with hsame | hrecd
    · exact .inl hsame
    refine .inr ⟨?_, merged, now, hmerged, hrecd⟩
    cases hi : task.sessionItem sessionId with
    | some item => exact .inl rfl
    | none =>
      right
      change (Option.map (·.id) (task.sessionItem sessionId)).or _ = _ at hplace
      rw [hi] at hplace
      cases hprim : task.usesHlsSessionAsPrimary sessionId with
      | true => rfl
      | false => simp [hprim] at hplace

def FillUpdate.status : FillUpdate → HlsCacheFillStatus
  | .ordinary status | .verifiedCompletion status => status

variable {fill : FillUpdate} (step : FillStep config id sessionId before fill after)

include step in
theorem fillStep_cases {next : Task} (h : after.tasksById id = some next) :
    ∃ task, before.tasksById id = some task ∧
      (next.unsummarized = task.unsummarized ∨
        Records sessionId fill.isVerified fill.status task next ∧
          (fill.isVerified = true → fill.status.isExactCompletion = true)) := by
  cases step with
  | ordinary input status now =>
    obtain ⟨task, hlive, hcases⟩ := updateInner_cases h
    exact ⟨task, hlive, hcases.imp_right fun records => ⟨records, nofun⟩⟩
  | verifiedCompletion input status now =>
    unfold updateHlsCacheFillStatusFromVerifiedCompletion at h
    split at h
    · exact ⟨next, h, .inl rfl⟩
    rename_i hexact
    obtain ⟨task, hlive, hcases⟩ := updateInner_cases h
    refine ⟨task, hlive, hcases.imp_right fun records => ⟨records, fun _ => ?_⟩⟩
    simpa [FillUpdate.status] using hexact

theorem Records.fillStatus {verified : Bool} {status : HlsCacheFillStatus} {before after : Task}
    (records : Records sessionId verified status before after) :
    ∃ merged, status.admitted (before.fillStatus sessionId) verified = some merged ∧
      after.fillStatus sessionId = some merged.recorded := by
  obtain ⟨merged, now, hadmitted, hafter⟩ := records.recorded
  refine ⟨merged, hadmitted, ?_⟩
  rw [fillStatus_of_unsummarized hafter]
  exact fillStatus_withFillStatus records.place

include step in
theorem fillStep_agrees
    (agree : ∀ task, before.tasksById id = some task → task.StatusesAgree sessionId) :
    ∀ task, after.tasksById id = some task → task.StatusesAgree sessionId := by
  intro next hnext
  obtain ⟨task, hlive, hsame | ⟨records, -⟩⟩ := fillStep_cases step hnext
  · exact statusesAgree_of_unsummarized hsame (agree task hlive)
  · obtain ⟨merged, now, -, hafter⟩ := records.recorded
    exact statusesAgree_of_unsummarized hafter statusesAgree_withFillStatus

include step in
theorem fillStep_follows {next : Task} (h : after.tasksById id = some next) :
    ∃ task, before.tasksById id = some task ∧
      ∀ previous, task.fillStatus sessionId = some previous →
        ∃ status, next.fillStatus sessionId = some status ∧
          (status = previous ∨ previous.Follows fill.isVerified status) := by
  obtain ⟨task, hlive, hcases⟩ := fillStep_cases step h
  refine ⟨task, hlive, fun previous hprevious => ?_⟩
  rcases hcases with hsame | ⟨records, exact⟩
  · rw [fillStatus_of_unsummarized hsame]
    exact ⟨previous, hprevious, .inl rfl⟩
  · obtain ⟨merged, hadmitted, hafter⟩ := records.fillStatus
    rw [hprevious] at hadmitted
    exact ⟨merged.recorded, hafter, .inr (follows_of_admitted exact hadmitted)⟩

def CountsWithinTotal (id sessionId : String) (registry : Registry Output) : FillUpdate → Prop
  | .verifiedCompletion _ => True
  | .ordinary status => status.Fits ∧ ∀ task, registry.tasksById id = some task →
      ∀ previous ∈ task.fillStatus sessionId, status.CountsWithin previous

theorem fillStep_fits (step : FillStep config id sessionId before fill after)
    (within : CountsWithinTotal id sessionId before fill)
    (fits : ∀ task, before.tasksById id = some task →
      ∀ status ∈ task.fillStatus sessionId, status.Fits) :
    ∀ task, after.tasksById id = some task → ∀ status ∈ task.fillStatus sessionId, status.Fits := by
  intro next hnext status hst
  obtain ⟨task, hlive, hsame | ⟨records, exact⟩⟩ := fillStep_cases step hnext
  · rw [fillStatus_of_unsummarized hsame] at hst
    exact fits task hlive status hst
  obtain ⟨merged, hadmitted, hafter⟩ := records.fillStatus
  rw [hafter] at hst
  cases hst
  cases fill with
  | ordinary status =>
    exact fits_of_within within.1 (within.2 task hlive) (fits task hlive) hadmitted
  | verifiedCompletion status => exact fits_of_exact (exact rfl) hadmitted

/-- Over a run of updates of one session: the recorded status changes only to one that follows
it, its two places agree, a verified completion leaves a count within the total, and so do
ordinary updates whose counts are. -/
theorem fill_status_monotone {taskId sessionId : String} {start : Registry Output}
    (agree : ∀ task, start.tasksById taskId = some task → task.StatusesAgree sessionId) :
    (∀ {fills reached fill last next},
      Run (FillStep config taskId sessionId) start fills reached →
      FillStep config taskId sessionId reached fill last →
      last.tasksById taskId = some next →
        next.StatusesAgree sessionId ∧
          ∃ task, reached.tasksById taskId = some task ∧ task.StatusesAgree sessionId ∧
            (∀ previous, task.fillStatus sessionId = some previous →
              ∃ status, next.fillStatus sessionId = some status ∧
                (status = previous ∨ previous.Follows fill.isVerified status)) ∧
            (fill.isVerified = true → next.fillStatus sessionId = task.fillStatus sessionId ∨
              ∃ status, next.fillStatus sessionId = some status ∧ status.Fits)) ∧
    ((∀ task, start.tasksById taskId = some task →
        ∀ status ∈ task.fillStatus sessionId, status.Fits) →
      ∀ {fills reached},
        Run (Guarded (FillStep config taskId sessionId) (CountsWithinTotal taskId sessionId))
          start fills reached →
        ∀ task, reached.tasksById taskId = some task →
          ∀ status ∈ task.fillStatus sessionId, status.Fits) := by
  refine ⟨?_, ?_⟩
  · intro fills reached fill last next run step hnext
    have hagree := run.invariant
      (fun registry => ∀ task, registry.tasksById taskId = some task →
        task.StatusesAgree sessionId) fillStep_agrees agree
    refine ⟨fillStep_agrees step hagree next hnext, ?_⟩
    obtain ⟨task, hlive, hfollows⟩ := fillStep_follows step hnext
    refine ⟨task, hlive, hagree task hlive, hfollows, fun hverified => ?_⟩
    obtain ⟨other, hother, hsame | ⟨records, exact⟩⟩ := fillStep_cases step hnext
    · rw [hlive, Option.some.injEq] at hother
      subst hother
      exact .inl (fillStatus_of_unsummarized hsame)
    · obtain ⟨merged, hadmitted, hafter⟩ := records.fillStatus
      rw [hverified] at hadmitted
      exact .inr ⟨merged.recorded, hafter, fits_of_exact (exact hverified) hadmitted⟩
  · intro fits fills reached run
    exact run.invariant
      (fun registry => ∀ task, registry.tasksById taskId = some task →
        ∀ status ∈ task.fillStatus sessionId, status.Fits)
      (fun step hfits => fillStep_fits step.1 step.2 hfits) fits

end

def filledPlaybackId : String := "bilibili-playback-f"

def filledPlaybackItem : BilibiliTaskResultItem where
  id := filledPlaybackId
  title := "A video"
  state := .playable
  message := ""
  libraryItemId := ""
  playbackSource := none
  playbackSession := some ⟨filledPlaybackId, "h264"⟩
  hlsCacheFillStatus := none

def filledPlayback : Task :=
  { newTask filledPlaybackId .bilibiliProgressivePlayback .playable "BV1" "A video" "" ⟨1000, 0⟩
      [filledPlaybackItem] with
    playbackSession := some ⟨filledPlaybackId, "h264"⟩ }

def playbackPlayable : Registry SingleResult :=
  { emptyRegistry with
    tasksById := update (fun _ => none) filledPlaybackId (some filledPlayback)
    outputsByTaskId := update (fun _ => none) filledPlaybackId (some ⟨1, filledPlayback.asResult⟩)
    visibleTasksById := update (fun _ => none) filledPlaybackId (some filledPlayback) }

def filling (completedBytes totalBytes : Nat) : HlsCacheFillStatus where
  state := .filling
  failureKind := .unspecified
  completedBytes := completedBytes
  totalBytes := totalBytes
  totalBytesKnown := true
  representationId := "h264"
  message := ""

def playbackFilling : Registry SingleResult :=
  (playbackPlayable.updateHlsCacheFillStatus singleResultConfig (durableSave filledPlaybackId)
    filledPlaybackId filledPlaybackId (filling 300 500) ⟨1001, 0⟩).1

def playbackShrunk : Registry SingleResult :=
  (playbackFilling.updateHlsCacheFillStatus singleResultConfig (durableSave filledPlaybackId)
    filledPlaybackId filledPlaybackId (filling 250 200) ⟨1002, 0⟩).1

def playbackFilled : Registry SingleResult :=
  (playbackFilling.updateHlsCacheFillStatusFromVerifiedCompletion singleResultConfig
    (durableSave filledPlaybackId) filledPlaybackId filledPlaybackId
    { filling 500 500 with state := .completed } ⟨1002, 0⟩).1

def Registry.filledStatus (registry : Registry SingleResult) : Option HlsCacheFillStatus :=
  (registry.tasksById filledPlaybackId).bind fun task => task.fillStatus filledPlaybackId

theorem playbackFilling_run :
    Run (FillStep singleResultConfig filledPlaybackId filledPlaybackId) playbackPlayable
      [.ordinary (filling 300 500)] playbackFilling :=
  Run.single (FillStep.ordinary _ _ _ _)

theorem filledPlayback_agrees :
    ∀ task, playbackPlayable.tasksById filledPlaybackId = some task →
      task.StatusesAgree filledPlaybackId := by
  intro task hlive _ item hi
  have ht : filledPlayback = task := Option.some.inj hlive
  have hf : filledPlayback.sessionItem filledPlaybackId = some filledPlaybackItem := by
    decide +kernel
  subst ht
  rw [hf, Option.some.injEq] at hi
  subst hi
  rfl

/-- A verified completion of the representation that is being filled. -/
theorem fill_status_monotone_filled :
    ∃ task, playbackFilled.tasksById filledPlaybackId = some task ∧
      task.StatusesAgree filledPlaybackId ∧
      ∃ status, task.fillStatus filledPlaybackId = some status ∧ status.state = .completed ∧
        (filling 300 500).recorded.Follows true status := by
  have hlive : (playbackFilled.tasksById filledPlaybackId).isSome = true := by decide +kernel
  obtain ⟨next, hnext⟩ := Option.isSome_iff_exists.mp hlive
  have hstep : FillStep singleResultConfig filledPlaybackId filledPlaybackId playbackFilling
      (.verifiedCompletion { filling 500 500 with state := .completed }) playbackFilled :=
    FillStep.verifiedCompletion _ _ _ _
  obtain ⟨hagree, task, hbefore, -, hfollows, -⟩ :=
    (fill_status_monotone filledPlayback_agrees).1 playbackFilling_run hstep hnext
  have hprevious : playbackFilling.filledStatus = some (filling 300 500).recorded := by
    decide +kernel
  have hafter : playbackFilled.filledStatus =
      some { filling 500 500 with state := .completed }.recorded := by decide +kernel
  unfold filledStatus at hprevious hafter
  rw [hbefore] at hprevious
  rw [hnext] at hafter
  obtain ⟨status, hstatus, hcases⟩ := hfollows _ hprevious
  have hdone : { filling 500 500 with state := .completed }.recorded = status :=
    Option.some.inj (hafter.symm.trans hstatus)
  refine ⟨next, hnext, hagree, status, hstatus, ?_, ?_⟩
  · rw [← hdone]
    rfl
  · refine hcases.resolve_left ?_
    rw [← hdone]
    decide

/-- Two ordinary updates, the second with a smaller total: the count that was reached is kept and
exceeds it. -/
theorem ordinary_count_exceeds_total :
    Run (FillStep singleResultConfig filledPlaybackId filledPlaybackId) playbackPlayable
        [.ordinary (filling 300 500), .ordinary (filling 250 200)] playbackShrunk ∧
      playbackPlayable.filledStatus = none ∧
      ∃ status, playbackShrunk.filledStatus = some status ∧ status.totalBytesKnown = true ∧
        status.totalBytes < status.completedBytes := by
  refine ⟨Run.snoc playbackFilling_run (FillStep.ordinary _ _ _ _), ?_, ?_⟩
  · decide +kernel
  · have hstatus : playbackShrunk.filledStatus = some (filling 300 200).recorded := by
      decide +kernel
    exact ⟨_, hstatus, rfl, by decide⟩

end NetPlayer.Tasks
