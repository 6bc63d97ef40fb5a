import NetPlayer.Resolver.Health
import NetPlayer.Resolver.RouteMemoryFile
import Mathlib.Data.List.TakeWhile
import Mathlib.Tactic.IntervalCases

/-!
# What a health record says of the events

The events of a host, newest first, and the part of them that a record still covers. Each field
of a record is a function of that part.
-/

namespace NetPlayer.Resolver

open Finset Option

/-- What counts as an event of a host. -/
inductive ProbeKind where
  | success
  | failure
  | neutral
  deriving DecidableEq

/-- A call; every query drops the expired records, and `rank_candidates` does so for no host. -/
inductive HealthCall where
  | success (hostId : String) (firstResponseMicros : Nat)
  | failure (hostId : String) (failure : ProbeFailure)
  | neutral (hostId : String)
  | query

/-- The calls with their times, newest first. -/
abbrev HealthLog := List (Nat × HealthCall)

def Recent (now time : Nat) : Prop := now < time + probeRefreshSecs * nanosPerSec

def Covered (now time : Nat) : Prop := now < time + recordTtlSecs * nanosPerSec

instance (now time : Nat) : Decidable (Covered now time) := Nat.decLt _ _

section

variable (normalize : String → Option String)

def HealthCall.event : HealthCall → Option (String × ProbeKind)
  | .success hostId _ => (normalize hostId).map fun id => (id, .success)
  | .failure hostId reason =>
    if reason.isTransport then (normalize hostId).map fun id => (id, .failure) else none
  | .neutral hostId => (normalize hostId).map fun id => (id, .neutral)
  | .query => none

namespace ResolverHealthTracker

def apply (t : ResolverHealthTracker) (now : Nat) : HealthCall → ResolverHealthTracker
  | .success hostId micros => (t.recordSuccess normalize hostId now micros).1
  | .failure hostId failure => (t.recordFailure normalize hostId now failure).1
  | .neutral hostId => (t.recordNeutralProbe normalize hostId now).1
  | .query => t.expireOld now

def after : HealthLog → ResolverHealthTracker
  | [] => default
  | (now, call) :: past => (after past).apply normalize now call

end ResolverHealthTracker

def HealthLog.events (log : HealthLog) : List (String × ProbeKind × Nat) :=
  log.filterMap fun (now, call) => (call.event normalize).map fun (id, kind) => (id, kind, now)

def HealthLog.hosts (log : HealthLog) : Finset String :=
  ((log.events normalize).map Prod.fst).toFinset

def HealthLog.eventsOf (log : HealthLog) (hostId : String) : List (ProbeKind × Nat) :=
  ((log.events normalize).filter fun event => event.1 = hostId).map Prod.snd

end

/-- The events back to the first gap of a record's lifetime. -/
def covered (now : Nat) : List (ProbeKind × Nat) → List (ProbeKind × Nat)
  | [] => []
  | (kind, time) :: past => if Covered now time then (kind, time) :: covered time past else []

/-- The successes and the transport failures. -/
def outcomes (events : List (ProbeKind × Nat)) : List (ProbeKind × Nat) :=
  events.filter fun event => event.1 ≠ .neutral

def failureRun (events : List (ProbeKind × Nat)) : List (ProbeKind × Nat) :=
  (outcomes events).takeWhile fun event => event.1 = .failure

/-- The cooldown after the `k`-th consecutive transport failure, in seconds. -/
def cooldownAfter (k : Nat) : Nat := min (5 * 2 ^ (k - 1)) 300

def RecentSuccess (events : List (ProbeKind × Nat)) (now : Nat) : Prop :=
  ∃ time, (outcomes events).head? = some (.success, time) ∧ Recent now time

def WithinCooldown (events : List (ProbeKind × Nat)) (now : Nat) : Prop :=
  ∃ time, (failureRun events).head? = some (.failure, time) ∧
    now < time + cooldownAfter (failureRun events).length * nanosPerSec

def Unprobed (events : List (ProbeKind × Nat)) (now : Nat) : Prop :=
  ∀ kind time, events.head? = some (kind, time) → kind = .failure ∨ ¬ Recent now time

theorem cooldownSecs_eq (k : Nat) : HostHealth.cooldownSecs (min k u32Max) = cooldownAfter k := by
  unfold HostHealth.cooldownSecs cooldownAfter baseCooldownSecs maxCooldownSecs u32Max
  by_cases hsmall : k ≤ 7
  · interval_cases k <;> rfl
  have hexponent : min (min k (2 ^ 32 - 1) - 1) 6 = 6 := by omega
  have hlarge : 2 ^ 6 ≤ 2 ^ (k - 1) := Nat.pow_le_pow_right (by omega) (by omega)
  rw [hexponent]
  omega

structure Describes (health : HostHealth) (events : List (ProbeKind × Nat)) : Prop where
  lastProbe : health.lastProbe = events.head?.map Prod.snd
  lastUpdated : events.head?.map Prod.snd = some health.lastUpdated
  lastSuccess : health.lastSuccess = (events.find? fun event => event.1 = .success).map Prod.snd
  latestOutcome : health.latestOutcome = (outcomes events).head?.map fun event =>
    if event.1 = .success then .success else .transportFailure
  revalidationDue : health.revalidationDue = events.head?.any fun event => event.1 = .failure
  consecutive : health.consecutiveConnectivityFailures = min (failureRun events).length u32Max
  cooldownUntil : health.cooldownUntil = (failureRun events).head?.map fun event =>
    event.2 + cooldownAfter (failureRun events).length * nanosPerSec

def Summarises (health : Option HostHealth) (events : List (ProbeKind × Nat)) : Prop :=
  match health with
  | none => events = []
  | some health => Describes health events

variable {health : HostHealth} {record : Option HostHealth} {events : List (ProbeKind × Nat)}
  {now time : Nat} {hostId : String}

theorem describes_success (micros : Nat) :
    Describes ((record.getD (.fresh now)).succeed now micros) ((.success, now) :: events) := by
  constructor <;> simp [HostHealth.succeed, failureRun, outcomes]

theorem Summarises.failure (h : Summarises record events) :
    Describes ((record.getD (.fresh now)).fail now) ((.failure, now) :: events) := by
  have hc : (record.getD (.fresh now)).consecutiveConnectivityFailures =
      min (failureRun events).length u32Max := by
    cases record with
    | none =>
      rw [show events = [] from h]
      rfl
    | some health => exact h.consecutive
  have hsucs : (record.getD (.fresh now)).lastSuccess =
      (events.find? fun event => event.1 = .success).map Prod.snd := by
    cases record with
    | none =>
      rw [show events = [] from h]
      rfl
    | some health => exact h.lastSuccess
  have hn : min ((record.getD (.fresh now)).consecutiveConnectivityFailures + 1) u32Max =
      min ((failureRun events).length + 1) u32Max := by
    rw [hc]
    omega
  have hrun : failureRun ((.failure, now) :: events) = (.failure, now) :: failureRun events := by
    simp [failureRun, outcomes]
  constructor
  · rfl
  · rfl
  · simpa [HostHealth.fail] using hsucs
  · simp [HostHealth.fail, outcomes]
  · rfl
  · rw [hrun]
    exact hn
  · rw [hrun]
    show some (now + HostHealth.cooldownSecs (min _ u32Max) * nanosPerSec) = _
    rw [hn, cooldownSecs_eq]
    rfl

theorem Summarises.neutral (h : Summarises record events) :
    Describes ((record.getD (.fresh now)).probeNeutrally now) ((.neutral, now) :: events) := by
  cases record with
  | none =>
    rw [show events = [] from h]
    constructor <;> rfl
  | some health =>
    have hrun : failureRun ((.neutral, now) :: events) = failureRun events := by
      simp [failureRun, outcomes]
    constructor
    · rfl
    · rfl
    · simpa [HostHealth.probeNeutrally] using h.lastSuccess
    · simpa [HostHealth.probeNeutrally, outcomes] using h.latestOutcome
    · rfl
    · rw [hrun]
      exact h.consecutive
    · rw [hrun]
      exact h.cooldownUntil

theorem secs_lt_iff {seconds : Nat} (h : time ≤ now) :
    (now - time) / nanosPerSec < seconds ↔ now < time + seconds * nanosPerSec := by
  have hpos : 0 < nanosPerSec := by decide
  rw [Nat.div_lt_iff_lt_mul hpos]
  generalize seconds * nanosPerSec = limit
  omega

theorem alive_iff (h : health.lastUpdated ≤ now) :
    health.alive now = true ↔ Covered now health.lastUpdated := by
  unfold HostHealth.alive secsSince Covered
  rw [if_pos h, all_some, decide_eq_true_eq, secs_lt_iff h]

theorem find_outcomes (hhead : (outcomes events).head? = some (.success, time)) :
    (events.find? fun event => event.1 = .success).map Prod.snd = some time := by
  induction events with
  | nil => cases hhead
  | cons event rest ih =>
    obtain ⟨kind, at_⟩ := event
    cases kind with
    | success =>
      cases hhead
      rfl
    | failure => cases hhead
    | neutral => exact ih hhead

theorem head_failureRun (hhead : (outcomes events).head? = some (.success, time)) :
    failureRun events = [] := by
  unfold failureRun
  cases houtcomes : outcomes events with
  | nil => rfl
  | cons first rest =>
    rw [houtcomes] at hhead
    cases hhead
    rfl

variable {event : ProbeKind × Nat}

theorem failureRun_kind (h : (failureRun events).head? = some event) : event.1 = .failure := by
  have hm := List.mem_of_mem_head? h
  exact of_decide_eq_true (List.mem_takeWhile_imp (p := fun event : ProbeKind × Nat =>
    decide (event.1 = .failure)) hm)

theorem deadline_iff {first : Option (ProbeKind × Nat)} {limit : Nat}
    (h : ∀ event, first = some event → event.1 = .failure) :
    ((first.map fun event => event.2 + limit).any fun deadline => decide (now < deadline)) = true ↔
      ∃ time, first = some (.failure, time) ∧ now < time + limit := by
  cases first with
  | none => simp
  | some event =>
    obtain ⟨kind, failed⟩ := event
    cases h _ rfl
    simp

theorem Describes.cooling_iff (h : Describes health events) :
    health.cooling now = true ↔ WithinCooldown events now := by
  unfold HostHealth.cooling WithinCooldown
  rw [h.cooldownUntil]
  exact deadline_iff fun _ => failureRun_kind

theorem outcome_kind (h : (outcomes events).head? = some event) : event.1 ≠ .neutral := by
  have hm := List.mem_of_mem_head? h
  simpa [outcomes] using (List.mem_filter.mp hm).2

/-- `recently_healthy`, of a record that is alive. -/
theorem Describes.recentlyHealthy_iff (h : Describes health events)
    (hpast : ∀ event ∈ events, event.2 ≤ now) :
    (health.latestOutcome == some .success &&
      (health.lastSuccess.any fun success =>
        (secsSince now success).any fun age => decide (age < probeRefreshSecs)) &&
      !health.cooling now) = true ↔ RecentSuccess events now := by
  rw [h.latestOutcome, h.lastSuccess]
  unfold RecentSuccess Recent
  cases hhead : (outcomes events).head? with
  | none => simp
  | some event =>
    obtain ⟨kind, time⟩ := event
    have hpasttime : time ≤ now :=
      hpast _ (List.mem_of_mem_filter (List.mem_of_mem_head? hhead))
    cases kind with
    | neutral => exact absurd rfl (outcome_kind hhead)
    | failure => simp
    | success =>
      have hcool : health.cooling now = false := by
        rw [← Bool.not_eq_true, h.cooling_iff]
        rintro ⟨failed, hfailed, -⟩
        rw [head_failureRun hhead] at hfailed
        cases hfailed
      rw [find_outcomes hhead, hcool]
      simp [secsSince, hpasttime, secs_lt_iff hpasttime]

/-- `probe_due`, of a record that is alive. -/
theorem Describes.probeDue_iff (h : Describes health events)
    (hpast : ∀ event ∈ events, event.2 ≤ now) :
    (if health.cooling now then false
      else if health.revalidationDue then true
      else health.lastProbe.all fun probe =>
        (secsSince now probe).all fun age => decide (probeRefreshSecs ≤ age)) = true ↔
      ¬ WithinCooldown events now ∧ Unprobed events now := by
  have hcool := @Describes.cooling_iff health events now h
  rw [h.revalidationDue, h.lastProbe]
  unfold Unprobed Recent
  cases hcooling : health.cooling now with
  | true => simpa using fun hnot => absurd (hcool.mp hcooling) hnot
  | false =>
    rw [hcooling] at hcool
    simp only [Bool.false_eq_true, false_iff] at hcool
    simp only [hcool, not_false_eq_true, true_and, Bool.false_eq_true, if_false]
    cases events with
    | nil => simp
    | cons event rest =>
      obtain ⟨kind, time⟩ := event
      have hpasttime : time ≤ now := hpast _ List.mem_cons_self
      have hage := @secs_lt_iff now time probeRefreshSecs hpasttime
      by_cases hkind : kind = .failure
      · simp [hkind]
      have hstale : probeRefreshSecs ≤ (now - time) / nanosPerSec ↔
          ¬ now < time + probeRefreshSecs * nanosPerSec := by
        rw [← not_lt, hage]
      simp [hkind, secsSince, hpasttime, hstale]

namespace ResolverHealthTracker

variable {normalize : String → Option String} {t : ResolverHealthTracker} {log : HealthLog}
  {later : Nat} {change : HostHealth → HostHealth}

theorem alive_earlier (hle : now ≤ later) (h : health.alive later = true) :
    health.alive now = true := by
  unfold HostHealth.alive secsSince at h ⊢
  by_cases hpast : health.lastUpdated ≤ now
  · rw [if_pos (hpast.trans hle), all_some, decide_eq_true_eq] at h
    rw [if_pos hpast, all_some, decide_eq_true_eq]
    exact (Nat.div_le_div_right (Nat.sub_le_sub_right hle _)).trans_lt h
  · rw [if_neg hpast]
    rfl

theorem get_expireOld : (t.expireOld now).get hostId =
    if hostId ∈ t.hosts ∧ (t.record hostId).alive now = true then some (t.record hostId)
      else none := by
  simp [get, expireOld, mem_filter]

theorem get_expireOld_expireOld (hle : now ≤ later) :
    ((t.expireOld now).expireOld later).get hostId = (t.expireOld later).get hostId := by
  rw [get_expireOld, get_expireOld]
  refine if_congr ?_ rfl rfl
  show (hostId ∈ t.hosts.filter _ ∧ _) ↔ _
  rw [mem_filter]
  exact ⟨fun h => ⟨h.1.1, h.2⟩, fun h => ⟨⟨h.1, alive_earlier hle h.2⟩, h.2⟩⟩

theorem ensureCapacity_eq (h : hostId ∈ t.hosts ∨ t.hosts.card < maxHosts) :
    t.ensureCapacity hostId = t :=
  if_pos h

theorem update_eq (hhosts : (insert hostId t.hosts).card ≤ maxHosts) :
    t.update hostId now change =
      { hosts := insert hostId (t.expireOld now).hosts
        record := Function.update t.record hostId
          (change (((t.expireOld now).get hostId).getD (.fresh now))) } := by
  have hroom : hostId ∈ (t.expireOld now).hosts ∨ (t.expireOld now).hosts.card < maxHosts := by
    by_cases hm : hostId ∈ t.hosts.filter fun host => (t.record host).alive now = true
    · exact .inl hm
    have hcard := card_insert_of_notMem hm
    have hle := card_le_card (insert_subset_insert hostId
      (filter_subset (fun host => (t.record host).alive now = true) t.hosts))
    exact .inr (show (t.hosts.filter _).card < _ by omega)
  unfold update
  rw [ensureCapacity_eq hroom]
  rfl

theorem get_update {other : String} (hhosts : (insert hostId t.hosts).card ≤ maxHosts)
    (hlater : now ≤ later) : ((t.update hostId now change).expireOld later).get other =
      if other = hostId then
        (some (change (((t.expireOld now).get hostId).getD (.fresh now)))).filter (·.alive later)
      else (t.expireOld later).get other := by
  rw [update_eq hhosts, get_expireOld]
  by_cases ho : other = hostId
  · subst ho
    simp [Option.filter]
  · rw [if_neg ho, ← get_expireOld_expireOld hlater, get_expireOld]
    rw [get_expireOld (t := t.expireOld now)]
    simp [ho, expireOld]

structure Tracks (normalize : String → Option String) (t : ResolverHealthTracker)
    (log : HealthLog) (now : Nat) : Prop where
  hosts : t.hosts ⊆ log.hosts normalize
  summarises : ∀ later, now ≤ later → ∀ hostId,
    Summarises ((t.expireOld later).get hostId) (covered later (log.eventsOf normalize hostId))

variable (h : Tracks normalize t log now)

include h in
theorem Tracks.expireOld : Tracks normalize (t.expireOld now) log now where
  hosts := (filter_subset _ _).trans h.hosts
  summarises later hlater hostId := by
    rw [get_expireOld_expireOld hlater]
    exact h.summarises later hlater hostId

variable {call : HealthCall}

include h

theorem Tracks.update {kind : ProbeKind} (hev : call.event normalize = some (hostId, kind))
    (hhosts : (HealthLog.hosts normalize ((now, call) :: log)).card ≤ maxHosts)
    (hchange : ∀ {record events}, Summarises record events →
      Describes (change (record.getD (.fresh now))) ((kind, now) :: events)) :
    Tracks normalize (t.update hostId now change) ((now, call) :: log) now := by
  have hevents : HealthLog.events normalize ((now, call) :: log) =
      (hostId, kind, now) :: log.events normalize := by
    simp [HealthLog.events, hev]
  have hnames : HealthLog.hosts normalize ((now, call) :: log) =
      insert hostId (log.hosts normalize) := by
    simp [HealthLog.hosts, hevents]
  rw [hnames] at hhosts
  have hroom := (card_le_card (insert_subset_insert _ h.hosts)).trans hhosts
  constructor
  · rw [hnames, update_eq hroom]
    exact insert_subset_insert _ ((filter_subset _ _).trans h.hosts)
  · intro later hlater other
    rw [get_update hroom hlater]
    by_cases ho : other = hostId
    · subst ho
      have hn := hchange (h.summarises now le_rfl other)
      have hupd := Option.some.inj hn.lastUpdated
      have hos : HealthLog.eventsOf normalize ((now, call) :: log) other =
          (kind, now) :: log.eventsOf normalize other := by
        simp [HealthLog.eventsOf, hevents]
      rw [if_pos rfl, hos, covered]
      generalize change _ = updated at hn hupd ⊢
      have halive := alive_iff (hupd ▸ hlater : updated.lastUpdated ≤ later)
      rw [← hupd] at halive
      by_cases hcov : Covered later now
      · rw [if_pos hcov, filter_some, if_pos (halive.mpr hcov)]
        exact hn
      · rw [if_neg hcov, filter_some, if_neg fun h => hcov (halive.mp h)]
        rfl
    · have hos : HealthLog.eventsOf normalize ((now, call) :: log) other =
          log.eventsOf normalize other := by
        simp [HealthLog.eventsOf, hevents, Ne.symm ho]
      rw [if_neg ho, hos]
      exact h.summarises later hlater other

theorem Tracks.ignore (hev : call.event normalize = none) :
    Tracks normalize t ((now, call) :: log) now := by
  have hevents : HealthLog.events normalize ((now, call) :: log) = log.events normalize := by
    simp [HealthLog.events, hev]
  constructor
  · simpa [HealthLog.hosts, hevents] using h.hosts
  · simpa [HealthLog.eventsOf, hevents] using h.summarises

theorem Tracks.apply (hhosts : (HealthLog.hosts normalize ((now, call) :: log)).card ≤ maxHosts) :
    Tracks normalize (t.apply normalize now call) ((now, call) :: log) now := by
  cases call with
  | success hostId micros =>
    simp only [ResolverHealthTracker.apply, recordSuccess]
    cases hnormal : normalize hostId with
    | none => exact h.ignore (by simp [HealthCall.event, hnormal])
    | some id =>
      have hev : (HealthCall.success hostId micros).event normalize = some (id, .success) := by
        simp [HealthCall.event, hnormal]
      show Tracks normalize (t.update id now (·.succeed now micros)) _ _
      exact h.update hev hhosts fun _ => describes_success micros
  | failure hostId failure =>
    simp only [ResolverHealthTracker.apply, recordFailure]
    cases hnormal : normalize hostId with
    | none => exact h.ignore (by simp [HealthCall.event, hnormal])
    | some id =>
      dsimp only
      by_cases htransport : failure.isTransport = true
      · have hev : (HealthCall.failure hostId failure).event normalize = some (id, .failure) := by
          simp [HealthCall.event, hnormal, htransport]
        rw [if_pos htransport]
        show Tracks normalize (t.update id now (·.fail now)) _ _
        exact h.update hev hhosts Summarises.failure
      · rw [if_neg htransport]
        exact h.ignore (by simp [HealthCall.event, htransport])
  | neutral hostId =>
    simp only [ResolverHealthTracker.apply, recordNeutralProbe]
    cases hnormal : normalize hostId with
    | none => exact h.ignore (by simp [HealthCall.event, hnormal])
    | some id =>
      have hev : (HealthCall.neutral hostId).event normalize = some (id, .neutral) := by
        simp [HealthCall.event, hnormal]
      show Tracks normalize (t.update id now (·.probeNeutrally now)) _ _
      exact h.update hev hhosts Summarises.neutral
  | query => exact h.expireOld.ignore rfl

omit h

structure Admissible (normalize : String → Option String) (log : HealthLog) : Prop where
  ordered : log.Pairwise fun later earlier => earlier.1 ≤ later.1
  fewHosts : (log.hosts normalize).card ≤ maxHosts

theorem hosts_cons_subset {entry : Nat × HealthCall} :
    log.hosts normalize ⊆ HealthLog.hosts normalize (entry :: log) := by
  intro hostId hm
  rw [HealthLog.hosts, List.mem_toFinset, List.mem_map] at hm ⊢
  obtain ⟨event, hev, hid⟩ := hm
  refine ⟨event, ?_, hid⟩
  obtain ⟨past, hpast, hc⟩ := List.mem_filterMap.mp hev
  exact List.mem_filterMap.mpr ⟨past, List.mem_cons_of_mem _ hpast, hc⟩

theorem tracks_after (h : Admissible normalize log) (hpast : ∀ entry ∈ log, entry.1 ≤ now) :
    Tracks normalize (after normalize log) log now := by
  induction log generalizing now with
  | nil =>
    constructor
    · exact empty_subset _
    · intro later hlater hostId
      rfl
  | cons entry past ih =>
    obtain ⟨time, call⟩ := entry
    obtain ⟨hord, hfewHosts⟩ := h
    rw [List.pairwise_cons] at hord
    have hb := @ih time ⟨hord.2,
      (card_le_card hosts_cons_subset).trans hfewHosts⟩ hord.1
    obtain ⟨hhosts, hsummarises⟩ := hb.apply hfewHosts
    have htime : time ≤ now := hpast _ List.mem_cons_self
    exact ⟨hhosts, fun later hlater => hsummarises later (htime.trans hlater)⟩

theorem mem_covered (h : event ∈ covered now events) : event ∈ events := by
  induction events generalizing now with
  | nil => exact h
  | cons first rest ih =>
    rw [covered] at h
    split at h
    · rcases List.mem_cons.mp h with heq | hr
      · exact List.mem_cons.mpr (.inl heq)
      · exact List.mem_cons_of_mem _ (ih hr)
    · cases h

theorem past_covered (hpast : ∀ entry ∈ log, entry.1 ≤ now) :
    ∀ event ∈ covered now (log.eventsOf normalize hostId), event.2 ≤ now := by
  intro event hev
  obtain ⟨⟨id, recorded⟩, hm, heq⟩ := List.mem_map.mp (mem_covered hev)
  obtain ⟨⟨time, call⟩, hc, hf⟩ := List.mem_filterMap.mp (List.mem_filter.mp hm).1
  obtain ⟨⟨name, kind⟩, -, hshape⟩ := map_eq_some_iff.mp hf
  cases hshape
  cases heq
  exact hpast _ hc

theorem card_ensureCapacity
    (h : t.hosts.card ≤ maxHosts) :
    (insert hostId (t.ensureCapacity hostId).hosts).card ≤ maxHosts := by
  have hle := card_insert_le hostId t.hosts
  unfold ensureCapacity
  split
  · next hroom =>
      rcases hroom with hm | hfew
      · rwa [insert_eq_of_mem hm]
      · omega
  · next hfull =>
      have hfull := not_or.mp hfull
      cases holdest : (t.hosts.sort (· ≤ ·)).argmin fun host => (t.record host).lastUpdated with
      | none =>
        have he : (t.hosts.sort (· ≤ ·)).length = 0 := by
          rw [List.argmin_eq_none.mp holdest, List.length_nil]
        rw [length_sort] at he
        exact absurd (by rw [he]; decide) hfull.2
      | some oldest =>
        have hm : oldest ∈ t.hosts := (mem_sort _).mp (List.argmin_mem holdest)
        have herase := card_erase_of_mem hm
        have hinsert := card_insert_le hostId (t.hosts.erase oldest)
        have hpos := card_pos.mpr ⟨oldest, hm⟩
        dsimp only
        omega

/-- A limited number of records, under normalized host ids. -/
structure Bounded (normalize : String → Option String) (t : ResolverHealthTracker) : Prop where
  few : t.hosts.card ≤ maxHosts
  normalized : ∀ hostId ∈ t.hosts, ∃ name, normalize name = some hostId

theorem Bounded.update
    (h : Bounded normalize t) {name hostId : String} (hnormal : normalize name = some hostId)
    (now : Nat) (change : HostHealth → HostHealth) :
    Bounded normalize (t.update hostId now change) where
  few := card_ensureCapacity ((card_filter_le _ _).trans h.few)
  normalized := by
    intro other ho
    rcases mem_insert.mp ho with rfl | hk
    · exact ⟨name, hnormal⟩
    · have hsub : ((t.expireOld now).ensureCapacity hostId).hosts ⊆ t.hosts := by
        unfold ensureCapacity
        split
        · exact filter_subset _ _
        · split
          · exact (erase_subset _ _).trans (filter_subset _ _)
          · exact filter_subset _ _
      exact h.normalized other (hsub hk)

/-- However many hosts are called, at whatever times, the tracker keeps the records of a limited
number of them. -/
theorem tracker_stays_within_limit (normalize : String → Option String) (log : HealthLog) :
    (after normalize log).hosts.card ≤ maxHosts ∧
      ∀ hostId ∈ (after normalize log).hosts, ∃ name, normalize name = some hostId := by
  have hbounded : Bounded normalize (after normalize log) := by
    induction log with
    | nil => exact ⟨Nat.zero_le _, fun _ h => absurd h (notMem_empty _)⟩
    | cons entry past ih =>
      obtain ⟨now, call⟩ := entry
      show Bounded normalize ((after normalize past).apply normalize now call)
      cases call with
      | query =>
        exact ⟨(card_filter_le _ _).trans ih.few, fun hostId h =>
          ih.normalized hostId (filter_subset _ _ h)⟩
      | success name micros | neutral name =>
        simp only [apply, recordSuccess, recordNeutralProbe]
        cases hnormal : normalize name with
        | none => exact ih
        | some hostId =>
          dsimp only
          exact ih.update hnormal now _
      | failure name reason =>
        simp only [apply, recordFailure]
        cases hnormal : normalize name with
        | none => exact ih
        | some hostId =>
          dsimp only
          split
          · exact ih.update hnormal now (·.fail now)
          · exact ih
  exact ⟨hbounded.few, hbounded.normalized⟩

end ResolverHealthTracker

open ResolverHealthTracker

/-- The two queries are functions of the events of the host, the cooldown is a function of the
number of failures, and the failures that are not of the transport change nothing. -/
theorem health_refines_history {normalize : String → Option String} {log : HealthLog} {now : Nat}
    (hlog : Admissible normalize log) (hpast : ∀ entry ∈ log, entry.1 ≤ now) (hostId : String) :
    ((after normalize log).recentlyHealthy hostId now = true ↔
      RecentSuccess (covered now (log.eventsOf normalize hostId)) now) ∧
    ((after normalize log).probeDue hostId now = true ↔
      ¬ WithinCooldown (covered now (log.eventsOf normalize hostId)) now ∧
        Unprobed (covered now (log.eventsOf normalize hostId)) now) ∧
    (∀ k, HostHealth.cooldownSecs (min k u32Max) = min (5 * 2 ^ (k - 1)) 300) ∧
    ∀ id failure, failure.isTransport = false →
      (after normalize log).recordFailure normalize id now failure =
        (after normalize log, false) := by
  have hrecord := (tracks_after hlog hpast).summarises now le_rfl hostId
  have hevents := @past_covered now hostId normalize log hpast
  refine ⟨?_, ?_, cooldownSecs_eq, ?_⟩
  · unfold recentlyHealthy
    cases hget : ((after normalize log).expireOld now).get hostId with
    | none =>
      rw [hget] at hrecord
      rw [show covered now _ = [] from hrecord]
      simp [RecentSuccess, outcomes]
    | some health =>
      rw [hget] at hrecord
      exact Describes.recentlyHealthy_iff hrecord hevents
  · unfold probeDue
    cases hget : ((after normalize log).expireOld now).get hostId with
    | none =>
      rw [hget] at hrecord
      rw [show covered now _ = [] from hrecord]
      simp [WithinCooldown, Unprobed, failureRun, outcomes]
    | some health =>
      rw [hget] at hrecord
      exact Describes.probeDue_iff hrecord hevents
  · intro id failure hother
    unfold recordFailure
    cases normalize id with
    | none => rfl
    | some id => exact if_neg (by rw [hother]; exact Bool.false_ne_true)

local instance answeringHost : HostUrlParser := oneHost "cdn.test"

/-- A host that times out, answers neither way and then succeeds. -/
def answeredLog : HealthLog :=
  [(9 * nanosPerSec, .success "cdn.test" 5), (6 * nanosPerSec, .neutral "cdn.test"),
    (0, .failure "cdn.test" .timeout)]

theorem health_refines_history_answered :
    (after normalizeResolverHostId answeredLog).recentlyHealthy "cdn.test" (9 * nanosPerSec) =
        true ∧
      (after normalizeResolverHostId answeredLog).recordFailure normalizeResolverHostId "cdn.test"
        (9 * nanosPerSec) .authentication =
        (after normalizeResolverHostId answeredLog, false) := by
  have hrefines := @health_refines_history normalizeResolverHostId answeredLog (9 * nanosPerSec)
    ⟨by decide, by decide +kernel⟩ (by decide) "cdn.test"
  have hrecent : Recent (9 * nanosPerSec) (9 * nanosPerSec) := by
    unfold Recent
    decide
  exact ⟨hrefines.1.mpr ⟨_, by decide +kernel, hrecent⟩, hrefines.2.2.2 _ _ rfl⟩

/-- A host that times out at the start and again 25 hours later. -/
def timeoutLog : HealthLog :=
  [(25 * 60 * 60 * nanosPerSec, .failure "a" .timeout), (0, .failure "a" .timeout)]

/-- The first timeout no longer counts: six seconds after the second one a probe is due. -/
theorem expired_failure_forgotten :
    ∃ log now hostId, Admissible some log ∧ (∀ entry ∈ log, entry.1 ≤ now) ∧
      (after some log).probeDue hostId now = true ∧
      WithinCooldown (log.eventsOf some hostId) now := by
  refine ⟨timeoutLog, (25 * 60 * 60 + 6) * nanosPerSec, "a", ⟨by decide, by decide⟩, by decide,
    by decide, 25 * 60 * 60 * nanosPerSec, by decide, by decide⟩

end NetPlayer.Resolver
