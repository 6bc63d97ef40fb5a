import NetPlayer.Fill.Scheduler

/-!
# Cancelled fills

What is left of a task or a session after a cancellation: nothing in the queues,
and a current job that carries the cancelled flag. `finish_current` keeps such a
job from coming back; `promote_session_to_foreground` does not look at the flag.
-/

namespace NetPlayer.Fill

open Transition HlsFillSchedulerInner List Option
open Hls (HlsPlaybackSession)

def BySource (selected : HlsFillJob → Bool) : Prop :=
  ∀ {job other : HlsFillJob}, job.taskId = other.taskId → job.session = other.session →
    selected job = selected other

theorem ofTask_bySource (taskId : String) : BySource (ofTask taskId) := by
  intro job other ht _
  simp [ofTask, ht]

theorem ofSessions_bySource (sessionIds : List String) : BySource (ofSessions sessionIds) := by
  intro job other _ hsess
  simp [ofSessions, hsess]

structure Quiet (selected : HlsFillJob → Bool) (inner : HlsFillSchedulerInner) : Prop where
  queued : ∀ job ∈ inner.queued, selected job = false
  current : ∀ job ∈ inner.current, selected job = true → job.token.cancelled = true

inductive Cancels : Event → (HlsFillJob → Bool) → Prop
  | task (taskId : String) : Cancels (.cancelTask taskId) (ofTask taskId)
  | session {sessionIds : List String} {sessionId : String} (named : sessionId ∈ sessionIds) :
      Cancels (.cancelSessions sessionIds) (ofSessions [sessionId])

/-- The call queues work that `selected` names. -/
def Enqueues (selected : HlsFillJob → Bool) : Event → Prop
  | .enqueue taskId session failureMode priority =>
    ∃ job : HlsFillJob, job.taskId = taskId ∧ job.session = session ∧
      job.failureMode = failureMode ∧ job.priority = priority ∧ selected job = true
  | _ => False

def Revives (selected : HlsFillJob → Bool) (inner : HlsFillSchedulerInner) (sessionId : String)
    (restartCurrent : Bool) : Prop :=
  inner.closed = false ∧ inner.hasQueuedSession sessionId = false ∧
    ∃ current ∈ inner.current, selected current = true ∧ current.session.id = sessionId ∧
      current.token.cancelled = true ∧ (restartCurrent = true ∨ current.token.preempted = true)

def KeepsCancelled (selected : HlsFillJob → Bool) (inner : HlsFillSchedulerInner) : Event → Prop
  | .promote sessionId restartCurrent _ => ¬ Revives selected inner sessionId restartCurrent
  | _ => True

section

variable {selected : HlsFillJob → Bool} {inner after : HlsFillSchedulerInner} {event : Event}
  {job : HlsFillJob} {priority : HlsFillPriority} (hsource : BySource selected)

include hsource in
theorem BySource.renewed : selected (renewed inner job priority) = selected job :=
  hsource rfl rfl

include hsource in
theorem BySource.preempt : selected job.preempt = selected job :=
  hsource rfl rfl

variable {cancelled : HlsFillJob → Bool}

theorem cancelJobs_quiet (hnamed : ∀ job, selected job = true → cancelled job = true) :
    Quiet selected (cancelJobs inner cancelled) := by
  constructor
  · intro job hjob
    have hk : cancelled job = false := by
      simp only [cancelJobs, queued, mem_append, mem_filter] at hjob
      rcases hjob with ⟨-, h⟩ | ⟨-, h⟩ <;> simpa using h
    cases hselected : selected job with
    | false => rfl
    | true => simp [hnamed job hselected] at hk
  · intro job hjob hselected
    simp only [cancelJobs, mem_def, map_eq_some_iff] at hjob
    obtain ⟨current, -, rfl⟩ := hjob
    by_cases hcanc : cancelled current = true
    · simp [hcanc]
    · rw [if_neg hcanc] at hselected
      exact absurd (hnamed current hselected) hcanc

theorem Cancels.quiet (hcancels : Cancels event selected) (hstep : Step inner event after) :
    Quiet selected after := by
  cases hcancels with
  | task taskId =>
    cases hstep
    exact cancelJobs_quiet (fun _ h => h)
  | session hnamed =>
    cases hstep
    apply cancelJobs_quiet
    intro job hjob
    simp only [ofSessions, contains_iff_mem, mem_singleton] at hjob ⊢
    exact hjob ▸ hnamed

theorem Cancels.bySource (hcancels : Cancels event selected) : BySource selected := by
  cases hcancels with
  | task taskId => exact ofTask_bySource taskId
  | session => exact ofSessions_bySource _

variable (hquiet : Quiet selected inner)

include hquiet in
theorem Quiet.shrink (hqueued : ∀ job ∈ after.queued,
      job ∈ inner.queued ∨ selected job = false)
    (hcurrent : ∀ job ∈ after.current, selected job = true → job.token.cancelled = true) :
    Quiet selected after := by
  constructor
  · intro job hjob
    rcases hqueued job hjob with h | h
    · exact hquiet.queued job h
    · exact h
  · exact hcurrent

include hsource

include hquiet

theorem Quiet.preempted :
    ∀ job ∈ inner.current.map HlsFillJob.preempt,
      selected job = true → job.token.cancelled = true := by
  intro job hjob hselected
  obtain ⟨current, hcurrent, rfl⟩ := map_eq_some_iff.mp hjob
  rw [hsource.preempt] at hselected
  exact hquiet.current current hcurrent hselected

theorem Quiet.promote {sessionId : String} {restartCurrent : Bool}
    (hkeeps : ¬ Revives selected inner sessionId restartCurrent) :
    Quiet selected (promoteSessionToForeground inner sessionId restartCurrent).1 := by
  rcases promote_cases inner sessionId restartCurrent with
    hsame | ⟨hopen, job, foreground, demoted, hpromotes, hres⟩
  · rw [hsame]
    exact hquiet
  rw [hres]
  cases hpromotes with
  | moved htakes _ =>
    refine hquiet.shrink ?_ (hquiet.preempted hsource)
    intro other hother
    simp only [promoted, mem_queued, mem_append, mem_singleton] at hother
    rcases hother with (h | rfl) | h
    · exact .inl (mem_queued.mpr (.inl (htakes.keptForeground.subset h)))
    · rw [hsource.renewed]
      exact .inr (hquiet.queued job htakes.taken)
    · exact .inl (mem_queued.mpr (.inr (htakes.keptDemoted.subset h)))
  | copied hr hsess hunsettled hunqueued =>
    refine hquiet.shrink ?_ (hquiet.preempted hsource)
    -- the copied job is not cancelled, so it is not a selected one
    have hother : selected job = false := by
      cases hselected : selected job with
      | false => rfl
      | true =>
        exact absurd ⟨hopen, hunqueued, job, hr, hselected, hsess,
          hquiet.current job hr hselected, hunsettled⟩ hkeeps
    intro queuedJob hqueued
    simp only [promoted, mem_queued, mem_append, mem_singleton] at hqueued
    rcases hqueued with (h | rfl) | h
    · exact .inl (mem_queued.mpr (.inl h))
    · rw [hsource.renewed]
      exact .inr hother
    · exact .inl (mem_queued.mpr (.inr h))

theorem Quiet.finish {requeuePreempted : Bool} :
    Quiet selected (finishCurrent inner job requeuePreempted) := by
  rcases finishCurrent_cases inner job requeuePreempted with
    hsame | ⟨current, hcurrent, -, -, ⟨hres, -⟩ | ⟨hres, -, hl, -, -⟩⟩
  · rw [hsame]
    exact hquiet
  · rw [hres]
    exact hquiet.shrink (fun _ h => .inl h) (by simp)
  rw [hres]
  refine hquiet.shrink ?_ (by simp)
  intro other hother
  simp only [mem_queued, mem_append, mem_singleton] at hother
  rcases hother with h | h | rfl
  · exact .inl (mem_queued.mpr (.inl h))
  · exact .inl (mem_queued.mpr (.inr h))
  right
  rw [hsource.renewed]
  cases hselected : selected current with
  | false => rfl
  | true => simp [hquiet.current current hcurrent hselected] at hl

omit hquiet

omit hsource

include hquiet in
theorem Quiet.next (h : nextJobUntilShutdown inner = .job job after)
    : selected job = false ∧ Quiet selected after := by
  obtain ⟨hjob, hcurrent, hqueued, -⟩ := nextJob_mem h
  refine ⟨hquiet.queued job hjob, hquiet.shrink (fun other hother => .inl (hqueued other hother)) ?_⟩
  intro other hother hselected
  obtain rfl : job = other := some.inj (hcurrent.symm.trans hother)
  simp [hquiet.queued job hjob] at hselected

include hsource in
theorem Quiet.enqueue (hquiet : Quiet selected inner) {taskId : String}
    {session : HlsPlaybackSession} {failureMode : HlsCacheFinalizationFailureMode}
    (hother : ¬ Enqueues selected (.enqueue taskId session failureMode priority))
    (hstep : Step inner (.enqueue taskId session failureMode priority) after) :
    Quiet selected after := by
  have hcreated : selected (created inner taskId session failureMode priority) = false := by
    cases hselected : selected (created inner taskId session failureMode priority) with
    | false => rfl
    | true => exact absurd ⟨_, rfl, rfl, rfl, rfl, hselected⟩ hother
  cases hclosed : inner.closed with
  | true =>
    have hsame : after = inner := by
      cases hstep <;> exact enqueue_closed hclosed
    rw [hsame]
    exact hquiet
  | false =>
    cases hstep with
    | enqueueForeground =>
      rw [enqueueForeground_open hclosed]
      refine hquiet.shrink ?_ ?_
      · intro job hjob
        simp only [mem_queued, mem_append, mem_singleton] at hjob
        rcases hjob with (h | rfl) | h
        · exact .inl (mem_queued.mpr (.inl h))
        · exact .inr hcreated
        · exact .inl (mem_queued.mpr (.inr h))
      · intro job hjob hselected
        obtain ⟨current, hcurrent, rfl⟩ := map_eq_some_iff.mp hjob
        by_cases hsess : current.session.id = session.id
        · rw [if_pos hsess] at hselected ⊢
          exact hquiet.current current hcurrent hselected
        · rw [if_neg hsess] at hselected ⊢
          rw [hsource.preempt] at hselected
          exact hquiet.current current hcurrent hselected
    | enqueueDemoted =>
      rw [enqueueDemoted_open hclosed]
      refine hquiet.shrink ?_ hquiet.current
      intro job hjob
      simp only [mem_queued, mem_append, mem_singleton] at hjob
      rcases hjob with h | h | rfl
      · exact .inl (mem_queued.mpr (.inl h))
      · exact .inl (mem_queued.mpr (.inr h))
      · exact .inr hcreated

include hquiet in
theorem Quiet.cancelJobs :
    Quiet selected (cancelJobs inner cancelled) := by
  refine hquiet.shrink ?_ ?_
  · intro job hjob
    simp only [Fill.cancelJobs, mem_queued, mem_filter] at hjob
    rcases hjob with ⟨h, -⟩ | ⟨h, -⟩
    · exact .inl (mem_queued.mpr (.inl h))
    · exact .inl (mem_queued.mpr (.inr h))
  · intro job hjob hselected
    obtain ⟨current, hcurrent, rfl⟩ := map_eq_some_iff.mp hjob
    by_cases hcanc : cancelled current = true
    · simp [hcanc]
    · rw [if_neg hcanc] at hselected ⊢
      exact hquiet.current current hcurrent hselected

include hsource in
theorem Quiet.step (hquiet : Quiet selected inner)
    (hstep : Guarded Step (KeepsCancelled selected) inner event after)
    (hother : ¬ Enqueues selected event) :
    Quiet selected after ∧ ∀ job, event = .next (some job) → selected job = false := by
  obtain ⟨hstep, hkeeps⟩ := hstep
  cases hstep with
  | enqueueForeground =>
    exact ⟨hquiet.enqueue hsource hother Step.enqueueForeground, by simp⟩
  | enqueueDemoted =>
    exact ⟨hquiet.enqueue hsource hother Step.enqueueDemoted, by simp⟩
  | next taken =>
    refine ⟨(hquiet.next taken).2, ?_⟩
    intro job hjob
    cases hjob
    exact (hquiet.next taken).1
  | nextAfterShutdown => exact ⟨hquiet, by simp⟩
  | finishCurrent => exact ⟨hquiet.finish hsource, by simp⟩
  | cancelTask | cancelSessions => exact ⟨hquiet.cancelJobs, by simp⟩
  | promote => exact ⟨hquiet.promote hsource hkeeps, by simp⟩
  | shutdown => exact ⟨hquiet.shrink (by simp [shutdown, mem_queued]) (hquiet.preempted hsource), by simp⟩
  | markWorkerStopped => exact ⟨hquiet.shrink (fun _ h => .inl h) hquiet.current, by simp⟩

/-- No job that `finish_current` queues is one of a session that is queued
already, so what `promote` copied is what the worker takes next. -/
theorem Revives.dispatched {sessionId : String} {restartCurrent : Bool}
    (h : Revives selected inner sessionId restartCurrent) :
    ∃ current ∈ inner.current, selected current = true ∧ ∃ after,
      Run Step inner
        [.promote sessionId restartCurrent true, .finishCurrent current false,
          .next (some (renewed inner current .foreground))] after := by
  obtain ⟨hopen, hunqueued, current, hr, hselected, hsess, -, hunsettled⟩ := h
  rw [mem_def] at hr
  have hpromote : promoteSessionToForeground inner sessionId restartCurrent =
      (promoted inner current inner.foreground inner.demoted, true) := by
    rcases promote_cases inner sessionId restartCurrent with
      hsame | ⟨-, job, foreground, demoted, hpromotes, hres⟩
    · simp only [promoteSessionToForeground, hopen, Bool.false_eq_true, if_false, hr,
        filter_some, hsess, beq_self_eq_true, if_true] at hsame
      split at hsame
      · rename_i hsettl
        rcases hunsettled with h | h <;> simp [h] at hsettl
      · exact absurd (congrArg Prod.snd hsame) (by simp)
    · cases hpromotes with
      | moved htakes _ =>
        have hqueued := hasQueuedSession_iff.mpr ⟨job, htakes.taken, htakes.ofSession⟩
        rw [hunqueued] at hqueued
        cases hqueued
      | copied hcurrent _ _ _ =>
        obtain rfl : current = job := some.inj (hr.symm.trans hcurrent)
        exact hres
  have hfst := @Step.promote inner sessionId restartCurrent
  rw [hpromote] at hfst
  have hfinish : finishCurrent (promoted inner current inner.foreground inner.demoted) current
      false = { promoted inner current inner.foreground inner.demoted with current := none } := by
    simp [finishCurrent, promoted, hr]
  have hsnd := @Step.finishCurrent (promoted inner current inner.foreground inner.demoted)
    current false
  rw [hfinish] at hsnd
  have hthird : nextJobUntilShutdown
      { promoted inner current inner.foreground inner.demoted with current := none } =
        .job (renewed inner current .foreground)
          { promoted inner current inner.foreground inner.demoted with
            foreground := inner.foreground
            current := some (renewed inner current .foreground) } := by
    simp [nextJobUntilShutdown, promoted, hopen]
  exact ⟨current, hr, hselected, _,
    Run.cons hfst (Run.cons hsnd (Run.single (Step.next hthird)))⟩

/-- After a cancellation no job of the task or session is dispatched as long as no
promotion revives a cancelled job and none is enqueued. A promotion that does
revive one is followed by its dispatch once the running job is finished. -/
theorem cancelled_work_not_dispatched {cancelling : Event} {before : HlsFillSchedulerInner}
    (hcancels : Cancels cancelling selected) (hcancel : Step before cancelling inner) :
    (∀ {events after}, Run (Guarded Step (KeepsCancelled selected)) inner events after →
      (∀ event ∈ events, ¬ Enqueues selected event) →
      ∀ job, Event.next (some job) ∈ events → selected job = false) ∧
    (∀ {events after sessionId restartCurrent},
      Run (Guarded Step (KeepsCancelled selected)) inner events after →
      Revives selected after sessionId restartCurrent →
      ∃ more later job, Run Step after more later ∧ (∀ event ∈ more, ¬ Enqueues selected event) ∧
        Event.next (some job) ∈ more ∧ selected job = true ∧ job.token.cancelled = false) := by
  have hsource : BySource selected := hcancels.bySource
  have hstart := hcancels.quiet hcancel
  constructor
  · intro events after hrun hothers
    have hquiet : Quiet selected after ∧
        ∀ job, Event.next (some job) ∈ events → selected job = false := by
      induction hrun with
      | nil => exact ⟨hstart, by simp⟩
      | snoc hpast hlast ih =>
        have hearlier := ih (fun event h => hothers event (mem_append_left _ h))
        obtain ⟨hquiet, hdispatched⟩ :=
          hearlier.1.step hsource hlast (hothers _ (by simp))
        refine ⟨hquiet, ?_⟩
        intro job hjob
        rcases mem_append.mp hjob with h | h
        · exact hearlier.2 job h
        · exact hdispatched job (mem_singleton.mp h).symm
    exact hquiet.2
  · intro events after sessionId restartCurrent _ hrevives
    obtain ⟨current, -, hselected, later, hrun⟩ := hrevives.dispatched
    refine ⟨_, later, renewed after current .foreground, hrun, by simp [Enqueues], by simp, ?_, rfl⟩
    exact hsource.renewed.trans hselected

end

def sampleJob (preempted cancelled : Bool) (sequence : Nat) : HlsFillJob where
  taskId := "task"
  session := Hls.sampleSession "session" "https://cdn/a"
  failureMode := .keepPlayable
  priority := .foreground
  token := ⟨preempted, cancelled⟩
  sequence := sequence

/-- The scheduler while the worker runs `job`. -/
def running (job : HlsFillJob) (nextSequence : Nat) : HlsFillSchedulerInner where
  foreground := []
  demoted := []
  current := some job
  workerStarted := true
  closed := false
  nextSequence := nextSequence

theorem cancelled_running : Step (running (sampleJob false false 1) 1) (.cancelTask "task")
    (running (sampleJob false true 1) 1) :=
  Step.cancelTask

def otherJob : HlsFillJob :=
  { sampleJob false false 0 with
    taskId := "other"
    session := Hls.sampleSession "other" "https://cdn/b" }

theorem cancelled_work_not_dispatched_finished : ofTask "task" otherJob = false := by
  have hcancel : Step { running (sampleJob false false 1) 2 with foreground := [otherJob] }
      (.cancelTask "task")
      { running (sampleJob false true 1) 2 with foreground := [otherJob] } := Step.cancelTask
  have hfinish : Step { running (sampleJob false true 1) 2 with foreground := [otherJob] }
      (.finishCurrent (sampleJob false false 1) true)
      { running (sampleJob false true 1) 2 with foreground := [otherJob], current := none } :=
    Step.finishCurrent
  have hnext : Step
      { running (sampleJob false true 1) 2 with foreground := [otherJob], current := none }
      (.next (some otherJob)) (running otherJob 2) := Step.next rfl
  exact (cancelled_work_not_dispatched (.task "task") hcancel).1
    (Run.cons ⟨hfinish, trivial⟩ (Run.single ⟨hnext, trivial⟩)) (by simp [Enqueues])
    otherJob (by simp)

theorem running_reached : Run Step .default
    [.enqueue "task" (Hls.sampleSession "session" "https://cdn/a") .keepPlayable .foreground,
      .next (some (sampleJob false false 1))] (running (sampleJob false false 1) 1) :=
  Run.cons Step.enqueueForeground (Run.single (Step.next rfl))

/-- The cancelled job runs again, without having been enqueued again. -/
theorem cancelled_work_dispatched :
    ¬ ∀ {past events cancelling before inner after selected},
      Run Step .default past before → Cancels cancelling selected → Step before cancelling inner →
      Run Step inner events after → (∀ event ∈ events, ¬ Enqueues selected event) →
      ∀ job, Event.next (some job) ∈ events → job.token.cancelled = false →
        selected job = false := by
  intro h
  have hrevives : Revives (ofTask "task") (running (sampleJob false true 1) 1) "session" true :=
    ⟨rfl, rfl, _, rfl, rfl, rfl, rfl, .inl rfl⟩
  obtain ⟨current, hcurrent, -, after, hrun⟩ := hrevives.dispatched
  cases hcurrent
  have hfalse := h running_reached (.task "task") cancelled_running hrun (by simp [Enqueues])
    _ (mem_cons_of_mem _ (mem_cons_of_mem _ (mem_singleton_self _))) rfl
  cases hfalse

/-- Nothing is queued any more, and the job that still runs is asked to stop. -/
structure ShutDown (inner : HlsFillSchedulerInner) : Prop where
  closed : inner.closed = true
  foreground : inner.foreground = []
  demoted : inner.demoted = []
  preempted : ∀ job ∈ inner.current, job.token.preempted = true

def Event.Starts : Event → Prop
  | .next (some _) | .promote _ _ true => True
  | _ => False

theorem ShutDown.step {inner after : HlsFillSchedulerInner} {event : Event}
    (h : ShutDown inner) (step : Step inner event after) : ShutDown after ∧ ¬ event.Starts := by
  obtain ⟨hclosed, hforeground, hdemoted, hpreempted⟩ := h
  cases step with
  | enqueueForeground | enqueueDemoted =>
    simp only [enqueueForeground, enqueueDemoted, enqueue, hclosed, if_true]
    exact ⟨⟨hclosed, hforeground, hdemoted, hpreempted⟩, id⟩
  | next taken => simp [nextJobUntilShutdown, hclosed] at taken
  | nextAfterShutdown => exact ⟨⟨hclosed, hforeground, hdemoted, hpreempted⟩, id⟩
  | finishCurrent =>
    refine ⟨?_, id⟩
    unfold finishCurrent
    split
    · exact ⟨hclosed, hforeground, hdemoted, hpreempted⟩
    split
    · simp only [hclosed, Bool.not_true, Bool.and_false, Bool.false_and, Bool.false_eq_true, if_false]
      exact ⟨rfl, hforeground, hdemoted, by simp⟩
    · exact ⟨hclosed, hforeground, hdemoted, hpreempted⟩
  | cancelTask | cancelSessions =>
    refine ⟨⟨hclosed, by simp [cancelTask, cancelSessions, cancelJobs, hforeground],
      by simp [cancelTask, cancelSessions, cancelJobs, hdemoted], ?_⟩, id⟩
    intro job hjob
    obtain ⟨current, hcurrent, rfl⟩ := Option.map_eq_some_iff.mp hjob
    split
    · exact hpreempted current hcurrent
    · exact hpreempted current hcurrent
  | promote =>
    simp only [promoteSessionToForeground, hclosed, if_true]
    exact ⟨⟨hclosed, hforeground, hdemoted, hpreempted⟩, id⟩
  | shutdown =>
    refine ⟨⟨rfl, rfl, rfl, ?_⟩, id⟩
    intro job hjob
    obtain ⟨current, -, rfl⟩ := Option.map_eq_some_iff.mp hjob
    rfl
  | markWorkerStopped => exact ⟨⟨hclosed, hforeground, hdemoted, hpreempted⟩, id⟩

/-- After a shutdown no job is dispatched, promoted or queued, whatever is called. -/
theorem shutdown_is_final {inner after : HlsFillSchedulerInner} {events : List Event}
    (run : Run Step (shutdown inner) events after) :
    (∀ event ∈ events, ¬ event.Starts) ∧ after.closed = true ∧ after.queued = [] ∧
      ∀ job ∈ after.current, job.token.preempted = true := by
  have hstart : ShutDown (shutdown inner) := by
    refine ⟨rfl, rfl, rfl, fun job hjob => ?_⟩
    obtain ⟨current, -, rfl⟩ := Option.map_eq_some_iff.mp hjob
    rfl
  have h := run.invariant_history
    (fun past inner => (∀ event ∈ past, ¬ event.Starts) ∧ ShutDown inner)
    (fun step both => ⟨by
      intro event hevent
      rcases List.mem_append.mp hevent with hpast | hlast
      · exact both.1 event hpast
      · rw [List.mem_singleton.mp hlast]
        exact (both.2.step step).2, (both.2.step step).1⟩)
    ⟨by simp, hstart⟩
  exact ⟨h.1, h.2.closed, by simp [queued, h.2.foreground, h.2.demoted], h.2.preempted⟩

theorem shutdown_is_final_running :
    (enqueueForeground (finishCurrent (shutdown (running (sampleJob false false 1) 1))
      (sampleJob false false 1) true) "task" (Hls.sampleSession "session" "https://cdn/a")
        .keepPlayable).1.queued = [] :=
  (shutdown_is_final (Run.cons Step.finishCurrent (Run.single Step.enqueueForeground))).2.2.1

end NetPlayer.Fill
