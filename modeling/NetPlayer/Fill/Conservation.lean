import NetPlayer.Fill.Scheduler

/-!
# Conservation and order of the fill queues

The scheduler driven by one worker that finishes each job before it takes the
next. No accepted session is lost, promotions and requeues do not duplicate one,
and the two queues stay sorted by sequence number. The counter behind the
sequence numbers saturates, so two jobs may share its maximum and no other
number.
-/

namespace NetPlayer.Fill

open Transition HlsFillSchedulerInner List Option
open Hls (HlsPlaybackSession)

structure Runtime where
  scheduler : HlsFillSchedulerInner
  worker : Option HlsFillJob

def Runtime.initial : Runtime := ⟨.default, none⟩

def Event.ofWorker : Event → Bool
  | .next _ => true
  | .finishCurrent _ _ => true
  | _ => false

inductive WorkerStep : Runtime → Event → Runtime → Prop
  | take {r : Runtime} {job after} (idle : r.worker = none)
      (step : Step r.scheduler (.next (some job)) after) :
      WorkerStep r (.next (some job)) ⟨after, some job⟩
  | stop {r : Runtime} {after} (idle : r.worker = none) (step : Step r.scheduler (.next none) after) :
      WorkerStep r (.next none) ⟨after, none⟩
  | finish {r : Runtime} {job requeuePreempted after} (held : r.worker = some job)
      (step : Step r.scheduler (.finishCurrent job requeuePreempted) after) :
      WorkerStep r (.finishCurrent job requeuePreempted) ⟨after, none⟩
  | call {r : Runtime} {event after} (other : event.ofWorker = false)
      (step : Step r.scheduler event after) :
      WorkerStep r event { r with scheduler := after }

def Event.OwnedBy (owner : String → String) : Event → Prop
  | .enqueue taskId session _ _ => taskId = owner session.id
  | _ => True

def Driven (owner : String → String) : Runtime → Event → Runtime → Prop :=
  Guarded WorkerStep fun _ event => event.OwnedBy owner

theorem WorkerStep.scheduler {r after : Runtime} {event : Event} (h : WorkerStep r event after) :
    Step r.scheduler event after.scheduler := by
  cases h <;> assumption

/-- `a` was numbered before `b`, or the counter had stopped. -/
def Precedes (a b : HlsFillJob) : Prop :=
  a.sequence < b.sequence ∨ a.sequence = u64Max ∧ b.sequence = u64Max

structure Ordered (foreground demoted : List HlsFillJob) (nextSequence : Nat) : Prop where
  sortedForeground : foreground.Pairwise Precedes
  sortedDemoted : demoted.Pairwise Precedes
  apart : ∀ a ∈ foreground, ∀ b ∈ demoted, a.sequence = b.sequence → a.sequence = u64Max
  bounded : ∀ job ∈ foreground ++ demoted, job.sequence ≤ nextSequence
  counter : nextSequence ≤ u64Max

def HlsFillSchedulerInner.Orderly (inner : HlsFillSchedulerInner) : Prop :=
  Ordered inner.foreground inner.demoted inner.nextSequence

section

variable {foreground demoted : List HlsFillJob} {nextSequence : Nat} {job : HlsFillJob}
  (h : Ordered foreground demoted nextSequence)

include h

theorem Ordered.shrink {fewerForeground fewerDemoted : List HlsFillJob}
    (hfore : fewerForeground.Sublist foreground) (hdem : fewerDemoted.Sublist demoted) :
    Ordered fewerForeground fewerDemoted nextSequence := by
  constructor
  · exact h.sortedForeground.sublist hfore
  · exact h.sortedDemoted.sublist hdem
  · intro a ha b hb
    exact h.apart a (hfore.subset ha) b (hdem.subset hb)
  · intro job hjob
    exact h.bounded job ((hfore.append hdem).subset hjob)
  · exact h.counter

theorem Ordered.precedes {old : HlsFillJob} (hold : old ∈ foreground ++ demoted)
    (hjob : job.sequence = saturatingAdd nextSequence 1) : Precedes old job := by
  have hbd := h.bounded old hold
  have hcounter := h.counter
  unfold Precedes
  unfold saturatingAdd at hjob
  omega

theorem Ordered.grown (hold : job ∈ foreground ++ demoted) :
    job.sequence ≤ saturatingAdd nextSequence 1 := by
  have hbd := h.bounded job hold
  have hcounter := h.counter
  unfold saturatingAdd
  omega

omit h

theorem pairwise_concat {jobs : List HlsFillJob} (h : jobs.Pairwise Precedes)
    (hl : ∀ old ∈ jobs, Precedes old job) : (jobs ++ [job]).Pairwise Precedes := by
  rw [pairwise_append]
  refine ⟨h, pairwise_singleton _ _, ?_⟩
  intro old hold new hn
  rw [mem_singleton.mp hn]
  exact hl old hold

include h

theorem Ordered.pushForeground (hjob : job.sequence = saturatingAdd nextSequence 1) :
    Ordered (foreground ++ [job]) demoted (saturatingAdd nextSequence 1) := by
  constructor
  · exact pairwise_concat h.sortedForeground
      (fun old hold => h.precedes (mem_append_left _ hold) hjob)
  · exact h.sortedDemoted
  · intro a ha b hb hs
    rcases mem_append.mp ha with hold | hn
    · exact h.apart a hold b hb hs
    have hl := h.precedes (mem_append_right _ hb) hjob
    rw [mem_singleton.mp hn] at hs ⊢
    unfold Precedes at hl
    omega
  · intro old hold
    simp only [mem_append, mem_singleton] at hold
    rcases hold with (hold | rfl) | hold
    · exact h.grown (mem_append_left _ hold)
    · exact Nat.le_of_eq hjob
    · exact h.grown (mem_append_right _ hold)
  · exact Nat.min_le_right _ _

theorem Ordered.pushDemoted (hjob : job.sequence = saturatingAdd nextSequence 1) :
    Ordered foreground (demoted ++ [job]) (saturatingAdd nextSequence 1) := by
  constructor
  · exact h.sortedForeground
  · exact pairwise_concat h.sortedDemoted
      (fun old hold => h.precedes (mem_append_right _ hold) hjob)
  · intro a ha b hb hs
    rcases mem_append.mp hb with hold | hn
    · exact h.apart a ha b hold hs
    have hl := h.precedes (mem_append_left _ ha) hjob
    rw [mem_singleton.mp hn] at hs
    unfold Precedes at hl
    omega
  · intro old hold
    simp only [mem_append, mem_singleton] at hold
    rcases hold with hold | hold | rfl
    · exact h.grown (mem_append_left _ hold)
    · exact h.grown (mem_append_right _ hold)
    · exact Nat.le_of_eq hjob
  · exact Nat.min_le_right _ _

theorem Ordered.distinct :
    (foreground ++ demoted).Pairwise fun a b => a.sequence = b.sequence → a.sequence = u64Max := by
  have hprecedes : ∀ {a b : HlsFillJob}, Precedes a b → a.sequence = b.sequence →
      a.sequence = u64Max := by
    intro a b hab hs
    unfold Precedes at hab
    omega
  rw [pairwise_append]
  exact ⟨h.sortedForeground.imp hprecedes, h.sortedDemoted.imp hprecedes, h.apart⟩

end

section

variable {inner after : HlsFillSchedulerInner} {event : Event} {job : HlsFillJob}
  {sessionId : String}

theorem orderly_step (hst : Step inner event after) (h : inner.Orderly) : after.Orderly := by
  cases hst with
  | enqueueForeground =>
    cases hcl : inner.closed with
    | true =>
      rw [enqueueForeground, enqueue_closed hcl]
      exact h
    | false =>
      rw [enqueueForeground_open hcl]
      exact h.pushForeground rfl
  | enqueueDemoted =>
    cases hcl : inner.closed with
    | true =>
      rw [enqueueDemoted, enqueue_closed hcl]
      exact h
    | false =>
      rw [enqueueDemoted_open hcl]
      exact h.pushDemoted rfl
  | next taken =>
    obtain ⟨-, ⟨hfore, ha⟩ | ⟨-, hdem, ha⟩⟩ := nextJob_cases taken
    · rw [ha]
      refine h.shrink ?_ (List.Sublist.refl _)
      rw [hfore]
      exact sublist_append_left _ _
    · rw [ha]
      refine h.shrink (List.Sublist.refl _) ?_
      rw [hdem]
      exact sublist_cons_self _ _
  | nextAfterShutdown | markWorkerStopped => exact h
  | @finishCurrent finished requeuePreempted =>
    rcases finishCurrent_cases inner finished requeuePreempted with
      hs | ⟨current, -, -, -, ⟨hres, -⟩ | ⟨hres, -⟩⟩
    · rw [hs]
      exact h
    · rw [hres]
      exact h
    · rw [hres]
      exact h.pushDemoted rfl
  | cancelTask | cancelSessions => exact h.shrink filter_sublist filter_sublist
  | @promote sessionId restartCurrent =>
    rcases promote_cases inner sessionId restartCurrent with
      hs | ⟨-, job, foreground, demoted, hpromotes, hres⟩
    · rw [hs]
      exact h
    rw [hres]
    cases hpromotes with
    | moved htakes _ =>
      exact (h.shrink htakes.keptForeground htakes.keptDemoted).pushForeground rfl
    | copied => exact h.pushForeground rfl
  | shutdown => exact h.shrink (nil_sublist _) (nil_sublist _)

def IsNext (inner : HlsFillSchedulerInner) (job : HlsFillJob) : Prop :=
  (job ∈ inner.foreground ∧ ∀ other ∈ inner.foreground, other.sequence ≤ job.sequence) ∨
  (inner.foreground = [] ∧ job ∈ inner.demoted ∧
    ∀ other ∈ inner.demoted, job.sequence ≤ other.sequence)

theorem next_isNext (h : inner.Orderly) (taken : nextJobUntilShutdown inner = .job job after) :
    IsNext inner job := by
  have hle : ∀ {a b : HlsFillJob}, Precedes a b → a.sequence ≤ b.sequence := by
    intro a b hab
    unfold Precedes at hab
    omega
  obtain ⟨-, ⟨hfore, -⟩ | ⟨hfore, hdem, -⟩⟩ := nextJob_cases taken
  · have hsorted := h.sortedForeground
    rw [hfore, pairwise_append] at hsorted
    left
    rw [hfore]
    refine ⟨by simp, ?_⟩
    intro other ho
    rcases mem_append.mp ho with hold | hl
    · exact hle (hsorted.2.2 other hold job (by simp))
    · exact Nat.le_of_eq (by rw [mem_singleton.mp hl])
  · have hsorted := h.sortedDemoted
    rw [hdem, pairwise_cons] at hsorted
    right
    rw [hdem]
    refine ⟨hfore, by simp, ?_⟩
    intro other ho
    rcases mem_cons.mp ho with rfl | hold
    · exact Nat.le_refl _
    · exact hle (hsorted.1 other hold)

def queuedCount (inner : HlsFillSchedulerInner) (sessionId : String) : Nat :=
  inner.queued.countP (·.session.id == sessionId)

theorem queuedCount_eq_zero (h : inner.hasQueuedSession sessionId = false) :
    queuedCount inner sessionId = 0 := by
  simp only [hasQueuedSession, List.any_eq_false] at h
  exact countP_eq_zero.mpr h

theorem promote_queuedCount (inner : HlsFillSchedulerInner) (promotedId sessionId : String)
    (restartCurrent : Bool) :
    queuedCount (promoteSessionToForeground inner promotedId restartCurrent).1 sessionId ≤
      max (queuedCount inner sessionId) 1 := by
  rcases promote_cases inner promotedId restartCurrent with
    hsame | ⟨-, job, foreground, demoted, hpromotes, hres⟩
  · rw [hsame]
    exact Nat.le_max_left _ _
  rw [hres]
  have ha : queuedCount (promoted inner job foreground demoted) sessionId =
      (foreground ++ demoted).countP (·.session.id == sessionId) +
        (if job.session.id = sessionId then 1 else 0) := by
    simp only [queuedCount, promoted, queued, countP_append, countP_singleton,
      renewed_session, beq_iff_eq]
    omega
  rw [ha]
  cases hpromotes with
  | moved htakes _ =>
    have hfewer := (htakes.keptForeground.append htakes.keptDemoted).countP_le
      (p := (·.session.id == sessionId))
    have hone := htakes.one
    by_cases hs : job.session.id = sessionId
    · rw [← htakes.ofSession, hs] at hone
      simp only [hs, if_true, queuedCount, queued] at hone ⊢
      omega
    · simp only [hs, if_false, queuedCount, queued]
      omega
  | copied _ hs _ hunqueued =>
    by_cases hsame : job.session.id = sessionId
    · have hzero := queuedCount_eq_zero hunqueued
      rw [← hs, hsame] at hzero
      simp only [queuedCount, queued] at hzero
      simp only [hsame, if_true, hzero]
      omega
    · simp only [hsame, if_false, queuedCount, queued]
      omega

theorem finish_queuedCount (inner : HlsFillSchedulerInner) (job : HlsFillJob)
    (requeuePreempted : Bool) (sessionId : String) :
    queuedCount (finishCurrent inner job requeuePreempted) sessionId ≤
      max (queuedCount inner sessionId) 1 := by
  rcases finishCurrent_cases inner job requeuePreempted with
    hsame | ⟨current, -, -, -, ⟨hres, -⟩ | ⟨hres, -, -, -, hunqueued⟩⟩
  · rw [hsame]
    exact Nat.le_max_left _ _
  · rw [hres]
    exact Nat.le_max_left _ _
  rw [hres]
  by_cases hs : current.session.id = sessionId
  · have hzero := queuedCount_eq_zero hunqueued
    rw [hs] at hzero
    simp only [queuedCount, queued, countP_append] at hzero ⊢
    simp only [countP_singleton, renewed_session, hs, beq_self_eq_true, if_true]
    omega
  · simp only [queuedCount, queued, countP_append]
    simp only [countP_singleton, renewed_session, beq_iff_eq, hs, if_false]
    omega

structure Settled (owner : String → String) (inner : HlsFillSchedulerInner) : Prop where
  fresh : ∀ job ∈ inner.queued, job.token = .default
  queuedOwner : ∀ job ∈ inner.queued, job.taskId = owner job.session.id
  currentOwner : ∀ job ∈ inner.current, job.taskId = owner job.session.id
  closed : inner.closed = true → inner.queued = []

variable {owner : String → String}

theorem Settled.shrink (h : Settled owner inner) (hcl : after.closed = inner.closed)
    (hqueued : ∀ job ∈ after.queued,
      job ∈ inner.queued ∨
        inner.closed = false ∧ job.token = .default ∧ job.taskId = owner job.session.id)
    (hcurr : ∀ job ∈ after.current, job.taskId = owner job.session.id) :
    Settled owner after := by
  constructor
  · intro job hjob
    rcases hqueued job hjob with hold | ⟨-, hfr, -⟩
    · exact h.fresh job hold
    · exact hfr
  · intro job hjob
    rcases hqueued job hjob with hold | ⟨-, -, ho⟩
    · exact h.queuedOwner job hold
    · exact ho
  · exact hcurr
  · intro ha
    rw [hcl] at ha
    apply eq_nil_iff_forall_not_mem.mpr
    intro job hjob
    rcases hqueued job hjob with hold | ⟨hopen, -⟩
    · rw [h.closed ha] at hold
      cases hold
    · rw [hopen] at ha
      cases ha

theorem Settled.preempted (h : Settled owner inner) :
    ∀ job ∈ inner.current.map HlsFillJob.preempt, job.taskId = owner job.session.id := by
  intro job hjob
  obtain ⟨current, hcurr, rfl⟩ := map_eq_some_iff.mp hjob
  exact h.currentOwner current hcurr

variable {cancelled : HlsFillJob → Bool}

theorem Settled.cancelJobs (h : Settled owner inner) :
    Settled owner (cancelJobs inner cancelled) := by
  refine h.shrink rfl ?_ ?_
  · intro job hjob
    simp only [Fill.cancelJobs, mem_queued, mem_filter] at hjob
    rcases hjob with ⟨hold, -⟩ | ⟨hold, -⟩
    · exact .inl (mem_queued.mpr (.inl hold))
    · exact .inl (mem_queued.mpr (.inr hold))
  · intro job hjob
    obtain ⟨current, hcurr, rfl⟩ := map_eq_some_iff.mp hjob
    by_cases hcanc : cancelled current = true
    · rw [if_pos hcanc]
      exact h.currentOwner current hcurr
    · rw [if_neg hcanc]
      exact h.currentOwner current hcurr

theorem settled_step (hst : Step inner event after) (howned : event.OwnedBy owner)
    (h : Settled owner inner) : Settled owner after := by
  cases hst with
  | @enqueueForeground taskId session failureMode =>
    cases hcl : inner.closed with
    | true =>
      rw [enqueueForeground, enqueue_closed hcl]
      exact h
    | false =>
      rw [enqueueForeground_open hcl]
      refine h.shrink rfl ?_ ?_
      · intro job hjob
        simp only [mem_queued, mem_append, mem_singleton] at hjob
        rcases hjob with (hold | rfl) | hold
        · exact .inl (mem_queued.mpr (.inl hold))
        · exact .inr ⟨hcl, rfl, howned⟩
        · exact .inl (mem_queued.mpr (.inr hold))
      · intro job hjob
        obtain ⟨current, hcurr, rfl⟩ := map_eq_some_iff.mp hjob
        split <;> exact h.currentOwner current hcurr
  | @enqueueDemoted taskId session failureMode =>
    cases hcl : inner.closed with
    | true =>
      rw [enqueueDemoted, enqueue_closed hcl]
      exact h
    | false =>
      rw [enqueueDemoted_open hcl]
      refine h.shrink rfl ?_ h.currentOwner
      intro job hjob
      simp only [mem_queued, mem_append, mem_singleton] at hjob
      rcases hjob with hold | hold | rfl
      · exact .inl (mem_queued.mpr (.inl hold))
      · exact .inl (mem_queued.mpr (.inr hold))
      · exact .inr ⟨hcl, rfl, howned⟩
  | next taken =>
    obtain ⟨hjob, hcurr, hqueued, -⟩ := nextJob_mem taken
    obtain ⟨hopen, hc⟩ := nextJob_cases taken
    have hcl : after.closed = inner.closed := by
      rcases hc with ⟨-, ha⟩ | ⟨-, -, ha⟩ <;> rw [ha]
    refine h.shrink hcl (fun other ho => .inl (hqueued other ho)) ?_
    intro other ho
    obtain rfl := some.inj (hcurr.symm.trans ho)
    exact h.queuedOwner _ hjob
  | nextAfterShutdown => exact h
  | @finishCurrent finished requeuePreempted =>
    rcases finishCurrent_cases inner finished requeuePreempted with
      hs | ⟨current, hcurr, -, -, ⟨hres, -⟩ | ⟨hres, -, -, hopen, -⟩⟩
    · rw [hs]
      exact h
    · rw [hres]
      exact h.shrink rfl (fun _ hold => .inl hold) (by simp)
    rw [hres]
    refine h.shrink rfl ?_ (by simp)
    intro job hjob
    simp only [mem_queued, mem_append, mem_singleton] at hjob
    rcases hjob with hold | hold | rfl
    · exact .inl (mem_queued.mpr (.inl hold))
    · exact .inl (mem_queued.mpr (.inr hold))
    · exact .inr ⟨hopen, rfl, h.currentOwner current hcurr⟩
  | cancelTask | cancelSessions => exact h.cancelJobs
  | @promote sessionId restartCurrent =>
    rcases promote_cases inner sessionId restartCurrent with
      hs | ⟨hopen, job, foreground, demoted, hpromotes, hres⟩
    · rw [hs]
      exact h
    rw [hres]
    refine h.shrink rfl ?_ h.preempted
    intro other ho
    simp only [promoted, mem_queued, mem_append, mem_singleton] at ho
    cases hpromotes with
    | moved htakes _ =>
      rcases ho with (hold | rfl) | hold
      · exact .inl (mem_queued.mpr (.inl (htakes.keptForeground.subset hold)))
      · exact .inr ⟨hopen, rfl, h.queuedOwner job htakes.taken⟩
      · exact .inl (mem_queued.mpr (.inr (htakes.keptDemoted.subset hold)))
    | copied hr _ _ _ =>
      rcases ho with (hold | rfl) | hold
      · exact .inl (mem_queued.mpr (.inl hold))
      · exact .inr ⟨hopen, rfl, h.currentOwner job hr⟩
      · exact .inl (mem_queued.mpr (.inr hold))
  | shutdown =>
    constructor
    · simp [shutdown, mem_queued]
    · simp [shutdown, mem_queued]
    · exact h.preempted
    · intro _
      rfl
  | markWorkerStopped => exact { h with }

def Holds (r : Runtime) : Prop :=
  (r.worker = none ∧ r.scheduler.current = none) ∨
  ∃ held current, r.worker = some held ∧ r.scheduler.current = some current ∧
    current.taskId = held.taskId ∧ current.session = held.session ∧
    current.sequence = held.sequence

theorem current_step (hst : Step inner event after) (ho : event.ofWorker = false) :
    ∃ flag : HlsFillJob → HlsFillJob, after.current = inner.current.map flag ∧
      ∀ job, (flag job).taskId = job.taskId ∧ (flag job).session = job.session ∧
        (flag job).sequence = job.sequence := by
  have hk : inner.current = inner.current.map id := by simp
  cases hst with
  | @enqueueForeground taskId session failureMode =>
    cases hcl : inner.closed with
    | true =>
      rw [enqueueForeground, enqueue_closed hcl]
      exact ⟨id, hk, fun job => ⟨rfl, rfl, rfl⟩⟩
    | false =>
      rw [enqueueForeground_open hcl]
      refine ⟨_, rfl, ?_⟩
      intro job
      split <;> exact ⟨rfl, rfl, rfl⟩
  | enqueueDemoted =>
    cases hcl : inner.closed with
    | true =>
      rw [enqueueDemoted, enqueue_closed hcl]
      exact ⟨id, hk, fun job => ⟨rfl, rfl, rfl⟩⟩
    | false =>
      rw [enqueueDemoted_open hcl]
      exact ⟨id, hk, fun job => ⟨rfl, rfl, rfl⟩⟩
  | next | nextAfterShutdown | finishCurrent => cases ho
  | cancelTask | cancelSessions =>
    refine ⟨_, rfl, ?_⟩
    intro job
    split <;> exact ⟨rfl, rfl, rfl⟩
  | @promote sessionId restartCurrent =>
    rcases promote_cases inner sessionId restartCurrent with
      hs | ⟨-, job, foreground, demoted, -, hres⟩
    · rw [hs]
      exact ⟨id, hk, fun job => ⟨rfl, rfl, rfl⟩⟩
    · rw [hres]
      exact ⟨_, rfl, fun job => ⟨rfl, rfl, rfl⟩⟩
  | shutdown => exact ⟨_, rfl, fun job => ⟨rfl, rfl, rfl⟩⟩
  | markWorkerStopped => exact ⟨id, hk, fun job => ⟨rfl, rfl, rfl⟩⟩

variable {r s : Runtime}

theorem holds_step (hst : WorkerStep r event s) (h : Holds r) : Holds s := by
  cases hst with
  | take _ step =>
    cases step with
    | next taken =>
      obtain ⟨-, hcurr, -, -⟩ := nextJob_mem taken
      exact .inr ⟨_, _, rfl, hcurr, rfl, rfl, rfl⟩
  | stop hidle step =>
    cases step
    rcases h with ⟨-, hn⟩ | ⟨held, current, hh, -⟩
    · exact .inl ⟨rfl, hn⟩
    · rw [hidle] at hh
      cases hh
  | @finish job requeuePreempted after hh step =>
    cases step
    rcases h with ⟨hn, -⟩ | ⟨held, current, hworker, hcurr, ht, hs, hseq⟩
    · rw [hh] at hn
      cases hn
    obtain rfl := some.inj (hh.symm.trans hworker)
    left
    refine ⟨rfl, ?_⟩
    simp only [finishCurrent, hcurr, hseq, ht, and_self, if_true]
    split <;> rfl
  | call ho step =>
    obtain ⟨flag, hcurr, hfl⟩ := current_step step ho
    rcases h with ⟨hworker, hn⟩ | ⟨held, current, hworker, hr, ht, hs, hseq⟩
    · exact .inl ⟨hworker, by simp [hcurr, hn]⟩
    · obtain ⟨htask', hsession', hsequence'⟩ := hfl current
      exact .inr ⟨held, flag current, hworker, by simp [hcurr, hr],
        htask'.trans ht, hsession'.trans hs, hsequence'.trans hseq⟩

def Live (inner : HlsFillSchedulerInner) (sessionId : String) : Prop :=
  (∃ job ∈ inner.queued, job.session.id = sessionId) ∨
  ∃ current ∈ inner.current, current.session.id = sessionId ∧ current.token.cancelled = false

/-- The calls after which the scheduler owes the session nothing. -/
def Releases (owner : String → String) (sessionId : String) : Event → Prop
  | .finishCurrent job false => job.session.id = sessionId
  | .cancelTask taskId => taskId = owner sessionId
  | .cancelSessions sessionIds => sessionId ∈ sessionIds
  | .shutdown => True
  | _ => False

theorem Live.owns (h : Live inner sessionId) : inner.ownsSession sessionId = true := by
  unfold ownsSession
  rw [Bool.or_eq_true]
  rcases h with hqueued | ⟨current, hcurr, hs, -⟩
  · exact .inr (hasQueuedSession_iff.mpr hqueued)
  · left
    rw [mem_def] at hcurr
    simp [hcurr, hs]

theorem Live.grow (h : Live inner sessionId) (hqueued : ∀ job ∈ inner.queued, job ∈ after.queued)
    (hcurr : ∀ current ∈ inner.current, ∃ kept ∈ after.current,
      kept.session = current.session ∧ kept.token.cancelled = current.token.cancelled) :
    Live after sessionId := by
  rcases h with ⟨job, hjob, hs⟩ | ⟨current, hr, hs, hl⟩
  · exact .inl ⟨job, hqueued job hjob, hs⟩
  · obtain ⟨kept, hk, hsame, hcanc⟩ := hcurr current hr
    exact .inr ⟨kept, hk, by rw [hsame, hs], by rw [hcanc, hl]⟩

theorem Live.cancelJobs (h : Live inner sessionId)
    (hspared : ∀ job, job ∈ inner.queued ∨ job ∈ inner.current → job.session.id = sessionId →
      cancelled job = false) : Live (cancelJobs inner cancelled) sessionId := by
  rcases h with ⟨job, hjob, hs⟩ | ⟨current, hcurr, hs, hl⟩
  · left
    refine ⟨job, ?_, hs⟩
    have hkeep := hspared job (.inl hjob) hs
    simp only [Fill.cancelJobs, mem_queued, mem_filter] at hjob ⊢
    simpa [hkeep] using hjob
  · right
    refine ⟨current, ?_, hs, hl⟩
    have hkeep := hspared current (.inr hcurr) hs
    rw [mem_def] at hcurr ⊢
    simp [Fill.cancelJobs, hcurr, hkeep]

theorem live_enqueue {taskId : String} {session : HlsPlaybackSession}
    {failureMode : HlsCacheFinalizationFailureMode} {priority : HlsFillPriority}
    (hst : Step inner (.enqueue taskId session failureMode priority) after)
    (hopen : inner.closed = false) :
    Live after session.id ∧ ∀ sessionId, Live inner sessionId → Live after sessionId := by
  cases hst with
  | enqueueForeground =>
    rw [enqueueForeground_open hopen]
    refine ⟨.inl ⟨created inner taskId session failureMode .foreground, by simp [queued], rfl⟩, ?_⟩
    intro sessionId h
    refine h.grow ?_ ?_
    · intro job hjob
      simp only [mem_queued, mem_append] at hjob ⊢
      tauto
    · intro current hcurr
      refine ⟨_, Option.mem_map_of_mem _ hcurr, ?_⟩
      split <;> exact ⟨rfl, rfl⟩
  | enqueueDemoted =>
    rw [enqueueDemoted_open hopen]
    refine ⟨.inl ⟨created inner taskId session failureMode .demoted, by simp [queued], rfl⟩, ?_⟩
    intro sessionId h
    refine h.grow ?_ (fun current hcurr => ⟨current, hcurr, rfl, rfl⟩)
    intro job hjob
    simp only [mem_queued, mem_append] at hjob ⊢
    tauto

theorem live_promote (h : Live inner sessionId) {promotedId : String} {restartCurrent : Bool} :
    Live (promoteSessionToForeground inner promotedId restartCurrent).1 sessionId := by
  rcases promote_cases inner promotedId restartCurrent with
    hs | ⟨-, job, foreground, demoted, hpromotes, hres⟩
  · rw [hs]
    exact h
  rw [hres]
  have hcurr : ∀ current ∈ inner.current,
      ∃ kept ∈ (promoted inner job foreground demoted).current,
        kept.session = current.session ∧ kept.token.cancelled = current.token.cancelled :=
    fun current hr => ⟨_, Option.mem_map_of_mem _ hr, rfl, rfl⟩
  have hn : renewed inner job .foreground ∈ (promoted inner job foreground demoted).queued := by
    simp [promoted, queued]
  cases hpromotes with
  | moved htakes _ =>
    by_cases hsess : sessionId = promotedId
    · exact .inl ⟨_, hn, by rw [hsess]; exact htakes.ofSession⟩
    rcases h with ⟨other, ho, hs⟩ | hr
    · left
      have hk := htakes.others other ho (by rw [hs]; exact hsess)
      refine ⟨other, ?_, hs⟩
      simp only [promoted, mem_queued, mem_append] at hk ⊢
      tauto
    · obtain ⟨current, hr, hs, hl⟩ := hr
      obtain ⟨kept, hk, hkeptSession, hcanc⟩ := hcurr current hr
      exact .inr ⟨kept, hk, by rw [hkeptSession, hs], by rw [hcanc, hl]⟩
  | copied =>
    refine h.grow ?_ hcurr
    intro other ho
    simp only [promoted, mem_queued, mem_append] at ho ⊢
    tauto

theorem live_step (hst : WorkerStep r event s) (hsettl : Settled owner r.scheduler)
    (hhol : Holds r) (hl : Live r.scheduler sessionId)
    (hk : ¬ Releases owner sessionId event) (hopen : r.scheduler.closed = false) :
    Live s.scheduler sessionId := by
  cases hst with
  | take hidle step =>
    cases step with
    | next taken =>
      obtain ⟨hjob, hcurr, -, hrest⟩ := nextJob_mem taken
      rcases hl with ⟨other, ho, hs⟩ | ⟨current, hr, -⟩
      · rcases hrest other ho with rfl | hqueued
        · exact .inr ⟨other, hcurr, hs, by rw [hsettl.fresh other hjob]; rfl⟩
        · exact .inl ⟨other, hqueued, hs⟩
      · rcases hhol with ⟨-, hn⟩ | ⟨held, _, hh, -⟩
        · rw [hn] at hr
          cases hr
        · rw [hidle] at hh
          cases hh
  | stop _ step =>
    cases step
    exact hl
  | @finish job requeuePreempted after hh step =>
    cases step
    rcases hhol with ⟨hn, -⟩ | ⟨held, current, hworker, hcurr, -, hs, -⟩
    · rw [hh] at hn
      cases hn
    obtain rfl := some.inj (hh.symm.trans hworker)
    rcases finishCurrent_cases r.scheduler job requeuePreempted with
      hsame | ⟨finished, hfin, -, -, hc⟩
    · rw [hsame]
      exact hl
    obtain rfl := some.inj (hcurr.symm.trans hfin)
    rcases hl with ⟨other, ho, hlives⟩ | ⟨running, hr, hlives, huncanc⟩
    · left
      rcases hc with ⟨hres, -⟩ | ⟨hres, -⟩
      · exact ⟨other, by rw [hres]; exact ho, hlives⟩
      refine ⟨other, ?_, hlives⟩
      rw [hres]
      simp only [mem_queued, mem_append] at ho ⊢
      tauto
    · -- the running job is the session's: it is requeued unless a job of it is queued
      obtain rfl := some.inj (hcurr.symm.trans hr)
      rcases hc with ⟨hres, hdropped⟩ | ⟨hres, -⟩
      · rcases hdropped with hno | hcanc | hcl | hqueued
        · have hreleased : job.session.id = sessionId := by rw [← hs, hlives]
          rw [hno] at hk
          exact absurd hreleased hk
        · rw [huncanc] at hcanc
          cases hcanc
        · rw [hopen] at hcl
          cases hcl
        · rw [hasQueuedSession_iff, hlives] at hqueued
          rw [hres]
          exact .inl hqueued
      · left
        rw [hres]
        exact ⟨renewed r.scheduler current .demoted, by simp [queued], hlives⟩
  | call _ step =>
    cases step with
    | enqueueForeground => exact (live_enqueue Step.enqueueForeground hopen).2 _ hl
    | enqueueDemoted => exact (live_enqueue Step.enqueueDemoted hopen).2 _ hl
    | next taken | finishCurrent =>
      rename_i ho
      cases ho
    | nextAfterShutdown | markWorkerStopped => exact hl
    | cancelTask =>
      apply hl.cancelJobs
      intro job hjob hs
      have howner : job.taskId = owner sessionId := by
        rw [← hs]
        rcases hjob with h | h
        · exact hsettl.queuedOwner job h
        · exact hsettl.currentOwner job h
      simp only [ofTask, howner, beq_eq_false_iff_ne]
      exact Ne.symm hk
    | cancelSessions =>
      apply hl.cancelJobs
      intro job _ hs
      have hspared : sessionId ∉ _ := hk
      simpa [ofSessions, hs] using hspared
    | promote => exact live_promote hl
    | shutdown => exact absurd trivial hk

theorem closed_step (hst : Step inner event after) :
    after.closed = true ↔ inner.closed = true ∨ event = .shutdown := by
  cases hst with
  | enqueueForeground =>
    cases hcl : inner.closed with
    | true => simp [enqueueForeground, enqueue_closed hcl, hcl]
    | false => simp [enqueueForeground_open hcl, hcl]
  | enqueueDemoted =>
    cases hcl : inner.closed with
    | true => simp [enqueueDemoted, enqueue_closed hcl, hcl]
    | false => simp [enqueueDemoted_open hcl, hcl]
  | next taken =>
    have hcl : after.closed = inner.closed := by
      obtain ⟨-, ⟨-, ha⟩ | ⟨-, -, ha⟩⟩ := nextJob_cases taken <;> rw [ha]
    simp [hcl]
  | nextAfterShutdown => simp
  | @finishCurrent finished requeuePreempted =>
    rcases finishCurrent_cases inner finished requeuePreempted with
      hs | ⟨current, -, -, -, ⟨hres, -⟩ | ⟨hres, -⟩⟩
    · simp [hs]
    · simp [hres]
    · simp [hres]
  | cancelTask => simp [cancelTask, Fill.cancelJobs]
  | cancelSessions => simp [cancelSessions, Fill.cancelJobs]
  | @promote sessionId restartCurrent =>
    rcases promote_cases inner sessionId restartCurrent with
      hs | ⟨-, job, foreground, demoted, -, hres⟩
    · simp [hs]
    · simp [hres, promoted]
  | shutdown => simp [shutdown]
  | markWorkerStopped => simp [markWorkerStopped]

def Awaits (owner : String → String) (events : List Event) (sessionId : String) : Prop :=
  ∃ past taskId session failureMode priority since,
    events = past ++ .enqueue taskId session failureMode priority :: since ∧
    Event.shutdown ∉ past ∧ session.id = sessionId ∧
    ∀ event ∈ since, ¬ Releases owner sessionId event

variable {events : List Event}

theorem Awaits.snoc (h : Awaits owner (events ++ [event]) sessionId) :
    (∃ taskId session failureMode priority,
      event = .enqueue taskId session failureMode priority ∧ Event.shutdown ∉ events ∧
      session.id = sessionId) ∨
    (Awaits owner events sessionId ∧ ¬ Releases owner sessionId event) := by
  obtain ⟨past, taskId, session, failureMode, priority, since, hevents, hopen, hid, hsince⟩ := h
  rcases eq_nil_or_concat since with rfl | ⟨rest, last, rfl⟩
  · obtain ⟨rfl, hl⟩ := append_inj' hevents rfl
    exact .inl ⟨taskId, session, failureMode, priority, singleton_inj.mp hl, hopen, hid⟩
  rw [concat_eq_append, ← cons_append, ← append_assoc] at hevents
  obtain ⟨hpast, hl⟩ := append_inj' hevents rfl
  obtain rfl := singleton_inj.mp hl
  right
  refine ⟨⟨past, taskId, session, failureMode, priority, rest, hpast, hopen, hid, ?_⟩, ?_⟩
  · intro earlier hearl
    exact hsince earlier (by simp [hearl])
  · exact hsince event (by simp)

structure Conserved (owner : String → String) (events : List Event) (r : Runtime) : Prop where
  orderly : r.scheduler.Orderly
  settled : Settled owner r.scheduler
  holds : Holds r
  closed : r.scheduler.closed = true ↔ Event.shutdown ∈ events
  live : ∀ sessionId, Awaits owner events sessionId → Live r.scheduler sessionId

theorem conserved_step (hst : Driven owner r event s) (h : Conserved owner events r) :
    Conserved owner (events ++ [event]) s := by
  obtain ⟨hst, howned⟩ := hst
  constructor
  · exact orderly_step hst.scheduler h.orderly
  · exact settled_step hst.scheduler howned h.settled
  · exact holds_step hst h.holds
  · rw [closed_step hst.scheduler, h.closed, mem_append, mem_singleton, eq_comm]
  · intro sessionId hawaits
    rcases hawaits.snoc with ⟨taskId, session, failureMode, priority, rfl, hopen, rfl⟩ |
      ⟨hearl, hk⟩
    · rw [← h.closed, Bool.not_eq_true] at hopen
      exact (live_enqueue hst.scheduler hopen).1
    have hl := h.live sessionId hearl
    cases hcl : r.scheduler.closed with
    | false => exact live_step hst h.settled h.holds hl hk hcl
    | true =>
      -- a shutdown after the session was accepted has released it
      exfalso
      obtain ⟨past, taskId, session, failureMode, priority, since, rfl, hopen, -, hsince⟩ :=
        hearl
      have hshutdown := h.closed.mp hcl
      simp only [mem_append, mem_cons, reduceCtorEq, false_or] at hshutdown
      rcases hshutdown with hpast | hlat
      · exact hopen hpast
      · exact hsince _ hlat trivial

theorem conserved_of_run (hrun : Run (Driven owner) .initial events r) :
    Conserved owner events r := by
  refine hrun.invariant_history (Conserved owner) conserved_step ?_
  constructor
  · constructor <;> simp [Runtime.initial, HlsFillSchedulerInner.default]
  · constructor <;> simp [Runtime.initial, HlsFillSchedulerInner.default, queued]
  · exact .inl ⟨rfl, rfl⟩
  · simp [Runtime.initial, HlsFillSchedulerInner.default]
  · rintro sessionId ⟨past, taskId, session, failureMode, priority, since, hevents, -⟩
    simp at hevents

inductive QueuesForeground (inner : HlsFillSchedulerInner) : Event → String → Prop
  | enqueue {taskId : String} {session : HlsPlaybackSession}
      {failureMode : HlsCacheFinalizationFailureMode} (accepted : inner.closed = false) :
      QueuesForeground inner (.enqueue taskId session failureMode .foreground) session.id
  | promote {sessionId : String} {restartCurrent : Bool} :
      QueuesForeground inner (.promote sessionId restartCurrent true) sessionId

theorem queuesForeground_preempts (hqueues : QueuesForeground inner event sessionId)
    (hst : Step inner event after) {current : HlsFillJob} (hcurr : current ∈ inner.current)
    (ho : current.session.id ≠ sessionId) : current.preempt ∈ after.current := by
  rw [mem_def] at hcurr ⊢
  cases hqueues with
  | enqueue hopen =>
    cases hst
    simp [enqueueForeground_open hopen, hcurr, ho]
  | @promote _ restartCurrent =>
    generalize hdone : true = done at hst
    cases hst
    rcases promote_cases inner sessionId restartCurrent with
      hs | ⟨-, job, foreground, demoted, -, hres⟩
    · rw [hs] at hdone
      cases hdone
    · simp [hres, promoted, hcurr]

end

/-- A call that puts a job back into a queue. -/
def Event.requeues : Event → Bool
  | .promote _ _ _ => true
  | .finishCurrent _ _ => true
  | _ => false

theorem requeue_queuedCount {inner after : HlsFillSchedulerInner} {event : Event}
    (hst : Step inner event after) (hrequeues : event.requeues = true) (sessionId : String) :
    queuedCount after sessionId ≤ max (queuedCount inner sessionId) 1 := by
  cases hst with
  | finishCurrent => exact finish_queuedCount inner _ _ sessionId
  | promote => exact promote_queuedCount inner _ sessionId _
  | _ => cases hrequeues

/-- An accepted session stays queued or current until it is released, a promotion
or a requeue gives no session a second queued job, the queued jobs are numbered
apart up to the counter's maximum and dispatched in their order, foreground work of
another session preempts, and a scheduler that was shut down stays empty. -/
theorem fill_scheduler_conserves {owner : String → String} {events : List Event} {r : Runtime}
    (hrun : Run (Driven owner) .initial events r) :
    (∀ sessionId, Awaits owner events sessionId → r.scheduler.ownsSession sessionId = true) ∧
    (∀ {event s}, Driven owner r event s → event.requeues = true →
      ∀ sessionId, queuedCount s.scheduler sessionId ≤ max (queuedCount r.scheduler sessionId) 1) ∧
    (r.scheduler.queued.Pairwise fun a b => a.sequence = b.sequence → a.sequence = u64Max) ∧
    (∀ {job s}, Driven owner r (.next (some job)) s → IsNext r.scheduler job) ∧
    (∀ {event s sessionId}, Driven owner r event s →
      QueuesForeground r.scheduler event sessionId →
      ∀ current ∈ r.scheduler.current, current.session.id ≠ sessionId →
        current.preempt ∈ s.scheduler.current) ∧
    (Event.shutdown ∈ events →
      r.scheduler.queued = [] ∧ ∀ job s, ¬ Driven owner r (.next (some job)) s) := by
  have h := conserved_of_run hrun
  refine ⟨?_, ?_, h.orderly.distinct, ?_, ?_, ?_⟩
  · intro sessionId hawaits
    exact (h.live sessionId hawaits).owns
  · intro event s hstep hrequeues sessionId
    exact requeue_queuedCount hstep.1.scheduler hrequeues sessionId
  · intro job s hstep
    cases hstep.1.scheduler with
    | next taken => exact next_isNext h.orderly taken
  · intro event s sessionId hstep hqueues current hcurrent hother
    exact queuesForeground_preempts hqueues hstep.1.scheduler hcurrent hother
  · intro hshutdown
    have hclosed := h.closed.mpr hshutdown
    refine ⟨h.settled.closed hclosed, ?_⟩
    intro job s hstep
    cases hstep.1.scheduler with
    | next taken =>
      have hopen := (nextJob_cases taken).1
      rw [hclosed] at hopen
      cases hopen

theorem fill_scheduler_conserves_enqueued :
    ∃ events r, Run (Driven fun _ => "task") .initial events r ∧ r.worker.isSome ∧
      r.scheduler.ownsSession "first" = true ∧ r.scheduler.ownsSession "second" = true := by
  have hfirst : Driven (fun _ => "task") .initial (.enqueue "task"
      (Hls.sampleSession "first" "https://cdn/a") .keepPlayable .demoted) _ :=
    ⟨.call rfl .enqueueDemoted, rfl⟩
  have hrun := Run.cons hfirst (Run.cons ⟨.take rfl (.next rfl), trivial⟩
    (Run.single ⟨.call rfl (@Step.enqueueForeground _ "task"
      (Hls.sampleSession "second" "https://cdn/b") .keepPlayable), rfl⟩))
  have howns := (fill_scheduler_conserves hrun).1
  refine ⟨_, _, hrun, rfl, howns "first" ⟨[], _, _, _, _, _, rfl, by simp, rfl, ?_⟩,
    howns "second" ⟨[_, _], _, _, _, _, [], rfl, by simp, rfl, by simp⟩⟩
  simp [Releases]

theorem enqueued_repeatedly (n : Nat) : ∃ scheduler,
    Run (Driven fun _ => "task") .initial
      (List.replicate n
        (.enqueue "task" (Hls.sampleSession "session" "https://cdn/a") .keepPlayable .demoted))
      ⟨scheduler, none⟩ ∧ scheduler.closed = false ∧ scheduler.nextSequence = min n u64Max := by
  induction n with
  | zero => exact ⟨.default, Run.nil _, rfl, rfl⟩
  | succ n ih =>
    obtain ⟨scheduler, hrun, hopen, hseq⟩ := ih
    rw [replicate_succ']
    refine ⟨_, Run.snoc hrun ⟨WorkerStep.call rfl Step.enqueueDemoted, rfl⟩, ?_, ?_⟩
    · simp [enqueueDemoted_open hopen, hopen]
    · simp only [enqueueDemoted_open hopen, hseq, saturatingAdd]
      omega

/-- Once the counter has stopped, two queued jobs carry the same number. -/
theorem queued_sequences_repeat :
    ¬ ∀ {owner events r}, Run (Driven owner) .initial events r →
      r.scheduler.queued.Pairwise fun a b => a.sequence ≠ b.sequence := by
  intro h
  obtain ⟨scheduler, hrun, hopen, hsequence⟩ := enqueued_repeatedly u64Max
  have hfull : scheduler.nextSequence = u64Max := by rw [hsequence, Nat.min_self]
  have hnext : saturatingAdd u64Max 1 = u64Max := by decide
  let event : Event :=
    .enqueue "task" (Hls.sampleSession "session" "https://cdn/a") .keepPlayable .demoted
  have hfirst : Driven (fun _ => "task") ⟨scheduler, none⟩ event _ :=
    ⟨WorkerStep.call rfl Step.enqueueDemoted, rfl⟩
  have hsecond := Run.snoc (Run.snoc hrun hfirst)
    (⟨WorkerStep.call rfl Step.enqueueDemoted, rfl⟩ : Driven (fun _ => "task") _ event _)
  have hdistinct := h hsecond
  rw [enqueueDemoted_open (by simp [enqueueDemoted_open hopen, hopen])] at hdistinct
  simp only [enqueueDemoted_open hopen, queued, append_assoc] at hdistinct
  have hpair := (pairwise_append.mp (pairwise_append.mp hdistinct).2.1).2.1
  simp [created, createJob, hfull, hnext] at hpair

end NetPlayer.Fill
