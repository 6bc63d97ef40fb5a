import Mathlib.Data.List.Basic
import NetPlayer.Library.Transition
import NetPlayer.RangeCache.Basic
import NetPlayer.Hls.Session

/-!
# The fill scheduler

The two queues of cache fills and the job the worker runs. A token is shared by
the scheduler's current job and the worker's copy of it; nothing else can reach
it once the job has left its queue, so the model keeps the token's flags inside
the current job. Each function is one critical section of the scheduler's lock.
-/

namespace NetPlayer.Fill

open List Option

open Hls (HlsPlaybackSession)

inductive HlsCacheFinalizationFailureMode
  | keepPlayable
  | failRestoredTask
  deriving DecidableEq

inductive HlsFillPriority
  | foreground
  | demoted
  deriving DecidableEq

structure HlsFillPreemptionToken where
  preempted : Bool
  cancelled : Bool
  deriving DecidableEq

def HlsFillPreemptionToken.default : HlsFillPreemptionToken := ⟨false, false⟩

structure HlsFillJob where
  taskId : String
  session : HlsPlaybackSession
  failureMode : HlsCacheFinalizationFailureMode
  priority : HlsFillPriority
  token : HlsFillPreemptionToken
  sequence : Nat
  deriving DecidableEq

namespace HlsFillJob

def preempt (job : HlsFillJob) : HlsFillJob :=
  { job with token := { job.token with preempted := true } }

def cancel (job : HlsFillJob) : HlsFillJob :=
  { job with token := { job.token with cancelled := true } }

variable (job : HlsFillJob)
include job

@[simp] theorem preempt_taskId : job.preempt.taskId = job.taskId := rfl
@[simp] theorem preempt_session : job.preempt.session = job.session := rfl
@[simp] theorem preempt_sequence : job.preempt.sequence = job.sequence := rfl
@[simp] theorem preempt_cancelled :
    job.preempt.token.cancelled = job.token.cancelled := rfl
@[simp] theorem preempt_preempted : job.preempt.token.preempted = true := rfl
@[simp] theorem cancel_taskId : job.cancel.taskId = job.taskId := rfl
@[simp] theorem cancel_session : job.cancel.session = job.session := rfl
@[simp] theorem cancel_sequence : job.cancel.sequence = job.sequence := rfl
@[simp] theorem cancel_cancelled : job.cancel.token.cancelled = true := rfl

end HlsFillJob

structure HlsFillSchedulerInner where
  foreground : List HlsFillJob
  demoted : List HlsFillJob
  current : Option HlsFillJob
  workerStarted : Bool
  closed : Bool
  nextSequence : Nat
  deriving DecidableEq

namespace HlsFillSchedulerInner

def default : HlsFillSchedulerInner where
  foreground := []
  demoted := []
  current := none
  workerStarted := false
  closed := false
  nextSequence := 0

/-- The queued jobs, in the order in which the source looks through them. -/
def queued (inner : HlsFillSchedulerInner) : List HlsFillJob :=
  inner.foreground ++ inner.demoted

def createJob (inner : HlsFillSchedulerInner) (taskId : String) (session : HlsPlaybackSession)
    (failureMode : HlsCacheFinalizationFailureMode) (priority : HlsFillPriority) :
    HlsFillSchedulerInner × HlsFillJob :=
  let nextSequence := saturatingAdd inner.nextSequence 1
  ({ inner with nextSequence := nextSequence },
    { taskId := taskId, session := session, failureMode := failureMode, priority := priority,
      token := .default, sequence := nextSequence })

def refreshJob (inner : HlsFillSchedulerInner) (job : HlsFillJob) (priority : HlsFillPriority) :
    HlsFillSchedulerInner × HlsFillJob :=
  let nextSequence := saturatingAdd inner.nextSequence 1
  ({ inner with nextSequence := nextSequence },
    { job with priority := priority, token := .default, sequence := nextSequence })

def takeQueuedSession (inner : HlsFillSchedulerInner) (sessionId : String) :
    Option (HlsFillJob × HlsFillSchedulerInner) :=
  match inner.foreground.find? (·.session.id == sessionId) with
  | some job =>
    some (job,
      { inner with foreground := inner.foreground.eraseP (·.session.id == sessionId) })
  | none =>
    match inner.demoted.find? (·.session.id == sessionId) with
    | some job =>
      some (job, { inner with demoted := inner.demoted.eraseP (·.session.id == sessionId) })
    | none => none

def hasQueuedSession (inner : HlsFillSchedulerInner) (sessionId : String) : Bool :=
  inner.queued.any (·.session.id == sessionId)

def preemptCurrent (inner : HlsFillSchedulerInner) : HlsFillSchedulerInner :=
  { inner with current := inner.current.map HlsFillJob.preempt }

def pushForeground (inner : HlsFillSchedulerInner) (job : HlsFillJob) : HlsFillSchedulerInner :=
  { inner with foreground := inner.foreground ++ [job] }

def pushDemoted (inner : HlsFillSchedulerInner) (job : HlsFillJob) : HlsFillSchedulerInner :=
  { inner with demoted := inner.demoted ++ [job] }

def isIdle (inner : HlsFillSchedulerInner) : Bool :=
  inner.current.isNone && inner.foreground.isEmpty && inner.demoted.isEmpty

def ownsSession (inner : HlsFillSchedulerInner) (sessionId : String) : Bool :=
  inner.current.any (·.session.id == sessionId) || inner.hasQueuedSession sessionId

end HlsFillSchedulerInner

open HlsFillSchedulerInner

def enqueue (inner : HlsFillSchedulerInner) (taskId : String) (session : HlsPlaybackSession)
    (failureMode : HlsCacheFinalizationFailureMode) (priority : HlsFillPriority)
    (preemptCurrent : Bool) : HlsFillSchedulerInner × Bool :=
  if inner.closed then (inner, false)
  else
    let inner :=
      if preemptCurrent && inner.current.any (·.session.id != session.id) then
        inner.preemptCurrent
      else inner
    let (inner, job) := inner.createJob taskId session failureMode priority
    let inner :=
      match priority with
      | .foreground => inner.pushForeground job
      | .demoted => inner.pushDemoted job
    ({ inner with workerStarted := true }, !inner.workerStarted)

def enqueueForeground (inner : HlsFillSchedulerInner) (taskId : String)
    (session : HlsPlaybackSession) (failureMode : HlsCacheFinalizationFailureMode) :
    HlsFillSchedulerInner × Bool :=
  enqueue inner taskId session failureMode .foreground true

def enqueueDemoted (inner : HlsFillSchedulerInner) (taskId : String)
    (session : HlsPlaybackSession) (failureMode : HlsCacheFinalizationFailureMode) :
    HlsFillSchedulerInner × Bool :=
  enqueue inner taskId session failureMode .demoted false

/-- What one turn of the loop of `next_job_until_shutdown` ends with. -/
inductive NextJob
  | shutdown
  | job (job : HlsFillJob) (inner : HlsFillSchedulerInner)
  | wait
  deriving DecidableEq

def nextJobUntilShutdown (inner : HlsFillSchedulerInner) : NextJob :=
  if inner.closed then .shutdown
  else
    match inner.foreground.getLast? with
    | some job =>
      .job job { inner with foreground := inner.foreground.dropLast, current := some job }
    | none =>
      match inner.demoted with
      | job :: rest => .job job { inner with demoted := rest, current := some job }
      | [] => .wait

def finishCurrent (inner : HlsFillSchedulerInner) (job : HlsFillJob) (requeuePreempted : Bool) :
    HlsFillSchedulerInner :=
  match inner.current with
  | none => inner
  | some current =>
    if current.sequence = job.sequence ∧ current.taskId = job.taskId then
      let inner := { inner with current := none }
      if requeuePreempted && !current.token.cancelled && !inner.closed
          && !inner.hasQueuedSession current.session.id then
        let (inner, job) := inner.refreshJob current .demoted
        inner.pushDemoted job
      else inner
    else inner

/-- What `cancel_task` and `cancel_sessions` have in common: the jobs that
`selected` names leave the queues, and the current job is cancelled if it is one. -/
def cancelJobs (inner : HlsFillSchedulerInner) (selected : HlsFillJob → Bool) :
    HlsFillSchedulerInner :=
  { inner with
    foreground := inner.foreground.filter (!selected ·)
    demoted := inner.demoted.filter (!selected ·)
    current := inner.current.map fun job => if selected job then job.cancel else job }

def ofTask (taskId : String) (job : HlsFillJob) : Bool := job.taskId == taskId

def ofSessions (sessionIds : List String) (job : HlsFillJob) : Bool :=
  sessionIds.contains job.session.id

/-- Each turn of `cancel_task_and_wait` makes the same critical section. -/
def cancelTask (inner : HlsFillSchedulerInner) (taskId : String) : HlsFillSchedulerInner :=
  cancelJobs inner (ofTask taskId)

/-- Each turn of `cancel_sessions_and_wait` makes the same critical section. -/
def cancelSessions (inner : HlsFillSchedulerInner) (sessionIds : List String) :
    HlsFillSchedulerInner × Bool :=
  (cancelJobs inner (ofSessions sessionIds),
    !inner.current.any (ofSessions sessionIds) || !inner.workerStarted)

/-- The critical section of `shutdown_and_wait_for_worker`. -/
def shutdown (inner : HlsFillSchedulerInner) : HlsFillSchedulerInner :=
  { inner.preemptCurrent with closed := true, foreground := [], demoted := [] }

def promoteSessionToForeground (inner : HlsFillSchedulerInner) (sessionId : String)
    (restartCurrent : Bool) : HlsFillSchedulerInner × Bool :=
  if inner.closed then (inner, false)
  else
    match inner.current.filter (·.session.id == sessionId) with
    | some current =>
      if !restartCurrent && !current.token.preempted then (inner, false)
      else
        let inner := inner.preemptCurrent
        -- a queued job of the session goes before a copy of the running one
        let (job, inner) := (inner.takeQueuedSession sessionId).getD (current.preempt, inner)
        let (inner, job) := inner.refreshJob job .foreground
        (inner.pushForeground job, true)
    | none =>
      match inner.takeQueuedSession sessionId with
      | none => (inner, false)
      | some (job, inner) =>
        let (inner, job) := inner.preemptCurrent.refreshJob job .foreground
        (inner.pushForeground job, true)

def markWorkerStopped (inner : HlsFillSchedulerInner) : HlsFillSchedulerInner :=
  { inner with workerStarted := false }

/-- A call that has returned, with what it returned where that matters. -/
inductive Event
  | enqueue (taskId : String) (session : HlsPlaybackSession)
      (failureMode : HlsCacheFinalizationFailureMode) (priority : HlsFillPriority)
  | next (dispatched : Option HlsFillJob)
  | finishCurrent (job : HlsFillJob) (requeuePreempted : Bool)
  | cancelTask (taskId : String)
  | cancelSessions (sessionIds : List String)
  | promote (sessionId : String) (restartCurrent : Bool) (promoted : Bool)
  | shutdown
  | markWorkerStopped
  deriving DecidableEq

/-- One critical section, by whichever caller is scheduled next. -/
inductive Step : HlsFillSchedulerInner → Event → HlsFillSchedulerInner → Prop
  | enqueueForeground {inner taskId session failureMode} :
      Step inner (.enqueue taskId session failureMode .foreground)
        (enqueueForeground inner taskId session failureMode).1
  | enqueueDemoted {inner taskId session failureMode} :
      Step inner (.enqueue taskId session failureMode .demoted)
        (enqueueDemoted inner taskId session failureMode).1
  | next {inner job after} (taken : nextJobUntilShutdown inner = .job job after) :
      Step inner (.next (some job)) after
  | nextAfterShutdown {inner} (closed : nextJobUntilShutdown inner = .shutdown) :
      Step inner (.next none) inner
  | finishCurrent {inner job requeuePreempted} :
      Step inner (.finishCurrent job requeuePreempted)
        (finishCurrent inner job requeuePreempted)
  | cancelTask {inner taskId} :
      Step inner (.cancelTask taskId) (cancelTask inner taskId)
  | cancelSessions {inner sessionIds} :
      Step inner (.cancelSessions sessionIds) (cancelSessions inner sessionIds).1
  | promote {inner sessionId restartCurrent} :
      Step inner
        (.promote sessionId restartCurrent
          (promoteSessionToForeground inner sessionId restartCurrent).2)
        (promoteSessionToForeground inner sessionId restartCurrent).1
  | shutdown {inner} : Step inner .shutdown (shutdown inner)
  | markWorkerStopped {inner} : Step inner .markWorkerStopped (markWorkerStopped inner)

variable {inner after : HlsFillSchedulerInner} {job : HlsFillJob} {sessionId : String}

theorem hasQueuedSession_iff :
    inner.hasQueuedSession sessionId = true ↔ ∃ job ∈ inner.queued, job.session.id = sessionId := by
  simp [hasQueuedSession]

theorem mem_queued : job ∈ inner.queued ↔ job ∈ inner.foreground ∨ job ∈ inner.demoted :=
  mem_append

structure Takes (inner : HlsFillSchedulerInner) (sessionId : String) (job : HlsFillJob)
    (foreground demoted : List HlsFillJob) : Prop where
  taken : job ∈ inner.queued
  ofSession : job.session.id = sessionId
  keptForeground : foreground.Sublist inner.foreground
  keptDemoted : demoted.Sublist inner.demoted
  one : (foreground ++ demoted).countP (·.session.id == sessionId) + 1 =
    inner.queued.countP (·.session.id == sessionId)
  others : ∀ other ∈ inner.queued, other.session.id ≠ sessionId → other ∈ foreground ++ demoted

theorem countP_eraseP_of_find? {p : HlsFillJob → Bool} {jobs : List HlsFillJob}
    (h : jobs.find? p = some job) : (jobs.eraseP p).countP p + 1 = jobs.countP p := by
  obtain ⟨found, before, after, -, hf, hjobs, herase⟩ :=
    exists_of_eraseP (mem_of_find?_eq_some h) (List.find?_some h)
  rw [herase, hjobs]
  simp only [countP_append, countP_cons_of_pos hf]
  omega

theorem takeQueuedSession_cases (inner : HlsFillSchedulerInner) (sessionId : String) :
    (inner.takeQueuedSession sessionId = none ∧ inner.hasQueuedSession sessionId = false) ∨
    ∃ job foreground demoted,
      inner.takeQueuedSession sessionId =
        some (job, { inner with foreground := foreground, demoted := demoted }) ∧
      Takes inner sessionId job foreground demoted := by
  unfold takeQueuedSession
  cases hfore : inner.foreground.find? (·.session.id == sessionId) with
  | some job =>
    refine .inr ⟨job, _, inner.demoted, rfl, ?_⟩
    have hc := countP_eraseP_of_find? hfore
    constructor
    · exact mem_queued.mpr (.inl (mem_of_find?_eq_some hfore))
    · simpa using List.find?_some hfore
    · exact eraseP_sublist
    · exact List.Sublist.refl _
    · simp only [queued, countP_append]
      omega
    · intro other ho hne
      rcases mem_queued.mp ho with h | h
      · exact mem_append_left _ ((mem_eraseP_of_neg (by simpa using hne)).mpr h)
      · exact mem_append_right _ h
  | none =>
    cases hdem : inner.demoted.find? (·.session.id == sessionId) with
    | some job =>
      refine .inr ⟨job, inner.foreground, _, rfl, ?_⟩
      have hc := countP_eraseP_of_find? hdem
      constructor
      · exact mem_queued.mpr (.inr (mem_of_find?_eq_some hdem))
      · simpa using List.find?_some hdem
      · exact List.Sublist.refl _
      · exact eraseP_sublist
      · simp only [queued, countP_append]
        omega
      · intro other ho hne
        rcases mem_queued.mp ho with h | h
        · exact mem_append_left _ h
        · exact mem_append_right _ ((mem_eraseP_of_neg (by simpa using hne)).mpr h)
    | none =>
      refine .inl ⟨rfl, ?_⟩
      simp only [List.find?_eq_none, beq_iff_eq] at hfore hdem
      simp only [hasQueuedSession, queued, any_append, Bool.or_eq_false_iff,
        List.any_eq_false, beq_iff_eq]
      exact ⟨hfore, hdem⟩

def renewed (inner : HlsFillSchedulerInner) (job : HlsFillJob) (priority : HlsFillPriority) :
    HlsFillJob :=
  (inner.refreshJob job priority).2

@[simp] theorem renewed_taskId (inner : HlsFillSchedulerInner) (job : HlsFillJob)
    (priority : HlsFillPriority) : (renewed inner job priority).taskId = job.taskId := rfl
@[simp] theorem renewed_session (inner : HlsFillSchedulerInner) (job : HlsFillJob)
    (priority : HlsFillPriority) : (renewed inner job priority).session = job.session := rfl

inductive Promotes (inner : HlsFillSchedulerInner) (sessionId : String) (restartCurrent : Bool) :
    HlsFillJob → List HlsFillJob → List HlsFillJob → Prop
  | moved {job foreground demoted} (takes : Takes inner sessionId job foreground demoted)
      (unsettled : ∀ current ∈ inner.current, current.session.id = sessionId →
        restartCurrent = true ∨ current.token.preempted = true) :
      Promotes inner sessionId restartCurrent job foreground demoted
  | copied {current} (running : inner.current = some current)
      (ofSession : current.session.id = sessionId)
      (unsettled : restartCurrent = true ∨ current.token.preempted = true)
      (unqueued : inner.hasQueuedSession sessionId = false) :
      Promotes inner sessionId restartCurrent current inner.foreground inner.demoted

def promoted (inner : HlsFillSchedulerInner) (job : HlsFillJob)
    (foreground demoted : List HlsFillJob) : HlsFillSchedulerInner :=
  { inner with
    foreground := foreground ++ [renewed inner job .foreground]
    demoted := demoted
    current := inner.current.map HlsFillJob.preempt
    nextSequence := saturatingAdd inner.nextSequence 1 }

theorem promote_cases (inner : HlsFillSchedulerInner) (sessionId : String)
    (restartCurrent : Bool) :
    promoteSessionToForeground inner sessionId restartCurrent = (inner, false) ∨
    inner.closed = false ∧ ∃ job foreground demoted,
      Promotes inner sessionId restartCurrent job foreground demoted ∧
      promoteSessionToForeground inner sessionId restartCurrent =
        (promoted inner job foreground demoted, true) := by
  unfold promoteSessionToForeground
  cases hcl : inner.closed with
  | true => simp
  | false =>
    simp only [Bool.false_eq_true, if_false, true_and]
    cases hcurr : inner.current.filter (·.session.id == sessionId) with
    | some current =>
      simp only [filter_eq_some_iff, beq_iff_eq] at hcurr
      obtain ⟨hr, hs⟩ := hcurr
      by_cases hsettl : (!restartCurrent && !current.token.preempted) = true
      · simp [hsettl]
      right
      have hunsettled : restartCurrent = true ∨ current.token.preempted = true := by
        cases restartCurrent <;> simp_all
      simp only [hsettl]
      rcases takeQueuedSession_cases inner.preemptCurrent sessionId with
        ⟨htake, hn⟩ | ⟨job, foreground, demoted, htake, htakes⟩
      · refine ⟨current, _, _, .copied hr hs hunsettled hn, ?_⟩
        simp only [htake, getD_none]
        rfl
      · have hmoves : Takes inner sessionId job foreground demoted :=
          { htakes with }
        refine ⟨job, foreground, demoted, .moved hmoves ?_, ?_⟩
        · intro other ho _
          obtain rfl : current = other := some.inj (hr.symm.trans ho)
          exact hunsettled
        · simp only [htake, getD_some]
          rfl
    | none =>
      rcases takeQueuedSession_cases inner sessionId with
        ⟨htake, -⟩ | ⟨job, foreground, demoted, htake, htakes⟩
      · simp [htake]
      right
      refine ⟨job, foreground, demoted, .moved htakes ?_, ?_⟩
      · intro current hr hs
        rw [mem_def] at hr
        simp [hr, hs] at hcurr
      · simp only [htake]
        rfl

theorem finishCurrent_cases (inner : HlsFillSchedulerInner) (job : HlsFillJob)
    (requeuePreempted : Bool) :
    finishCurrent inner job requeuePreempted = inner ∨
    ∃ current, inner.current = some current ∧ current.sequence = job.sequence ∧
      current.taskId = job.taskId ∧
      ((finishCurrent inner job requeuePreempted = { inner with current := none } ∧
          (requeuePreempted = false ∨ current.token.cancelled = true ∨ inner.closed = true ∨
            inner.hasQueuedSession current.session.id = true)) ∨
        (finishCurrent inner job requeuePreempted =
            { inner with
              current := none
              demoted := inner.demoted ++ [renewed inner current .demoted]
              nextSequence := saturatingAdd inner.nextSequence 1 } ∧
          requeuePreempted = true ∧ current.token.cancelled = false ∧ inner.closed = false ∧
          inner.hasQueuedSession current.session.id = false)) := by
  unfold finishCurrent
  cases hcurr : inner.current with
  | none => exact .inl rfl
  | some current =>
    by_cases hs : current.sequence = job.sequence ∧ current.taskId = job.taskId
    · refine .inr ⟨current, rfl, hs.1, hs.2, ?_⟩
      simp only [hs, and_self, if_true]
      by_cases hrequeue : (requeuePreempted && !current.token.cancelled && !inner.closed
          && !inner.hasQueuedSession current.session.id) = true
      · right
        constructor
        · exact (if_pos hrequeue).trans rfl
        · simpa [and_assoc] using hrequeue
      · left
        constructor
        · exact if_neg hrequeue
        · cases requeuePreempted <;> cases hcanc : current.token.cancelled <;>
            cases hcl : inner.closed <;> simp_all
    · exact .inl (if_neg hs)

/-- The job an accepted `enqueue` queues. -/
def created (inner : HlsFillSchedulerInner) (taskId : String) (session : HlsPlaybackSession)
    (failureMode : HlsCacheFinalizationFailureMode) (priority : HlsFillPriority) : HlsFillJob :=
  (inner.createJob taskId session failureMode priority).2

variable {taskId : String} {session : HlsPlaybackSession}
  {failureMode : HlsCacheFinalizationFailureMode}

theorem enqueueForeground_open (hopen : inner.closed = false) :
    (enqueueForeground inner taskId session failureMode).1 =
      { inner with
        foreground := inner.foreground ++ [created inner taskId session failureMode .foreground]
        current := inner.current.map fun job =>
          if job.session.id = session.id then job else job.preempt
        workerStarted := true
        nextSequence := saturatingAdd inner.nextSequence 1 } := by
  unfold enqueueForeground enqueue
  cases hcurr : inner.current with
  | none => simp [hopen, hcurr, createJob, pushForeground, created]
  | some job =>
    by_cases hs : job.session.id = session.id <;>
      simp [hopen, hcurr, hs, createJob, pushForeground, created,
        HlsFillSchedulerInner.preemptCurrent]

theorem enqueueDemoted_open (hopen : inner.closed = false) :
    (enqueueDemoted inner taskId session failureMode).1 =
      { inner with
        demoted := inner.demoted ++ [created inner taskId session failureMode .demoted]
        workerStarted := true
        nextSequence := saturatingAdd inner.nextSequence 1 } := by
  simp [enqueueDemoted, enqueue, hopen, createJob, pushDemoted, created]

theorem enqueue_closed {priority : HlsFillPriority} {preemptCurrent : Bool}
    (hcl : inner.closed = true) :
    (enqueue inner taskId session failureMode priority preemptCurrent).1 = inner := by
  simp [enqueue, hcl]

theorem nextJob_cases (h : nextJobUntilShutdown inner = .job job after) :
    inner.closed = false ∧
    ((inner.foreground = after.foreground ++ [job] ∧
        after = { inner with foreground := after.foreground, current := some job }) ∨
      (inner.foreground = [] ∧ inner.demoted = job :: after.demoted ∧
        after = { inner with demoted := after.demoted, current := some job })) := by
  unfold nextJobUntilShutdown at h
  cases hcl : inner.closed with
  | true => simp [hcl] at h
  | false =>
    refine ⟨rfl, ?_⟩
    simp only [hcl, Bool.false_eq_true, if_false] at h
    cases hl : inner.foreground.getLast? with
    | some last =>
      simp only [hl, NextJob.job.injEq] at h
      obtain ⟨rfl, rfl⟩ := h
      exact .inl ⟨(dropLast_append_getLast? last hl).symm, rfl⟩
    | none =>
      simp only [hl] at h
      cases hdem : inner.demoted with
      | nil => simp [hdem] at h
      | cons front rest =>
        simp only [hdem, NextJob.job.injEq] at h
        obtain ⟨rfl, rfl⟩ := h
        exact .inr ⟨List.getLast?_eq_none_iff.mp hl, rfl, rfl⟩

theorem nextJob_mem (h : nextJobUntilShutdown inner = .job job after) :
    job ∈ inner.queued ∧ after.current = some job ∧
      (∀ other ∈ after.queued, other ∈ inner.queued) ∧
      ∀ other ∈ inner.queued, other = job ∨ other ∈ after.queued := by
  obtain ⟨-, ⟨hfore, ha⟩ | ⟨hfore, hdem, ha⟩⟩ := nextJob_cases h
  · have hk : after.demoted = inner.demoted := by rw [ha]
    refine ⟨by simp [queued, hfore], by rw [ha], ?_, ?_⟩
    all_goals
      intro other ho
      simp only [mem_queued, hfore, hk, mem_append, mem_singleton] at ho ⊢
      tauto
  · have hk : after.foreground = inner.foreground := by rw [ha]
    refine ⟨by simp [queued, hdem], by rw [ha], ?_, ?_⟩
    all_goals
      intro other ho
      simp only [mem_queued, hdem, hk, mem_cons] at ho ⊢
      tauto

end NetPlayer.Fill
