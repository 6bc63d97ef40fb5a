import NetPlayer.Resolver.Routes

/-!
# The races of the route planner

The two `select!` loops that wait for more than one future: the official plan against
the metadata, and the official plan against a proxy's. Both poll the official future
first, and a future that has completed is not polled again. A poll sees of each future
whether it is ready, and with what result.
-/

namespace NetPlayer.Resolver

open Bool

variable {Plan Metadata Error : Type}

inductive InitialPgcPlan (Plan Metadata Error : Type) where
  | trustedOfficial (plan : Plan)
  | metadataReady (metadata : Metadata) (officialResult : Option (Except Error Plan))
  | metadataFailed (officialResult : Except Error Plan) (metadataError : Error)

inductive InitialWait (Plan Error : Type) where
  | select (officialResult : Option (Except Error Plan))
  | official (metadataError : Error)

/-- One poll: the result, or where the function waits next. -/
def pollInitialPgcPlan (isTrusted : Plan → Bool) (official : Option (Except Error Plan))
    (metadata : Option (Except Error Metadata)) :
    InitialWait Plan Error → InitialPgcPlan Plan Metadata Error ⊕ InitialWait Plan Error
  | .select officialResult =>
    match officialResult, official with
    | some result, _ => pollMetadata (some result)
    | none, none => pollMetadata none
    | none, some (.ok plan) =>
      if isTrusted plan then .inl (.trustedOfficial plan) else pollMetadata (some (.ok plan))
    | none, some (.error error) => pollMetadata (some (.error error))
  | .official metadataError => awaitOfficial official metadataError
where
  pollMetadata (officialResult : Option (Except Error Plan)) :
      InitialPgcPlan Plan Metadata Error ⊕ InitialWait Plan Error :=
    match metadata with
    | none => .inr (.select officialResult)
    | some (.ok metadata) => .inl (.metadataReady metadata officialResult)
    | some (.error metadataError) => awaitOfficial (officialResult.or official) metadataError
  awaitOfficial (official : Option (Except Error Plan)) (metadataError : Error) :
      InitialPgcPlan Plan Metadata Error ⊕ InitialWait Plan Error :=
    match official with
    | none => .inr (.official metadataError)
    | some (.ok plan) =>
      if isTrusted plan then .inl (.trustedOfficial plan)
      else .inl (.metadataFailed (.ok plan) metadataError)
    | some (.error error) => .inl (.metadataFailed (.error error) metadataError)

def InitialWait.Consistent (official : Except Error Plan) : InitialWait Plan Error → Prop
  | .select officialResult => ∀ result, officialResult = some result → result = official
  | .official _ => True

/-- What a poll with the results of both futures may give. -/
def InitialPgcPlan.Sound (isTrusted : Plan → Bool) (official : Except Error Plan)
    (metadata : Except Error Metadata) : InitialPgcPlan Plan Metadata Error → Prop
  | .trustedOfficial plan => official = .ok plan ∧ isTrusted plan = true
  | .metadataReady resolved officialResult =>
    metadata = .ok resolved ∧ ∀ result, officialResult = some result → result = official
  | .metadataFailed _ _ => True

section

variable {isTrusted : Plan → Bool} {official : Except Error Plan}
  {metadata : Except Error Metadata} {officialReady : Option (Except Error Plan)}
  {metadataReady : Option (Except Error Metadata)}

theorem awaitOfficial_spec {pending : Option (Except Error Plan)} {metadataError : Error}
    (hp : ∀ result, pending = some result → result = official) :
    Sum.elim (InitialPgcPlan.Sound isTrusted official metadata)
      (InitialWait.Consistent official)
      (pollInitialPgcPlan.awaitOfficial isTrusted pending metadataError) := by
  unfold pollInitialPgcPlan.awaitOfficial
  match pending, hp with
  | none, _ => exact True.intro
  | some (.error error), _ => exact True.intro
  | some (.ok plan), hp =>
    by_cases htrusted : isTrusted plan = true
    · simp only [htrusted, if_true]
      exact ⟨(hp _ rfl).symm, htrusted⟩
    · simp only [htrusted, false_eq_true, if_false]
      exact True.intro

theorem pollMetadata_spec {officialResult : Option (Except Error Plan)}
    (hoffic : ∀ result, officialReady = some result → result = official)
    (hmeta : ∀ result, metadataReady = some result → result = metadata)
    (hk : ∀ result, officialResult = some result → result = official) :
    Sum.elim (InitialPgcPlan.Sound isTrusted official metadata)
      (InitialWait.Consistent official)
      (pollInitialPgcPlan.pollMetadata isTrusted officialReady metadataReady officialResult) := by
  match metadataReady, hmeta with
  | none, _ => exact hk
  | some (.ok resolved), hmeta => exact ⟨(hmeta _ rfl).symm, hk⟩
  | some (.error error), _ =>
    apply awaitOfficial_spec
    intro result h
    cases officialResult with
    | none => exact hoffic result h
    | some kept => exact hk result h

theorem pollInitialPgcPlan_spec {wait : InitialWait Plan Error}
    (hoffic : ∀ result, officialReady = some result → result = official)
    (hmeta : ∀ result, metadataReady = some result → result = metadata)
    (consistent : wait.Consistent official) :
    Sum.elim (InitialPgcPlan.Sound isTrusted official metadata)
      (InitialWait.Consistent official)
      (pollInitialPgcPlan isTrusted officialReady metadataReady wait) := by
  match wait, consistent with
  | .official error, _ => exact awaitOfficial_spec hoffic
  | .select (some kept), consistent => exact pollMetadata_spec hoffic hmeta consistent
  | .select none, consistent =>
    match hready : officialReady with
    | none => exact pollMetadata_spec nofun hmeta consistent
    | some (.error error) => exact pollMetadata_spec hoffic hmeta hoffic
    | some (.ok plan) =>
      unfold pollInitialPgcPlan
      by_cases htrusted : isTrusted plan = true
      · simp only [htrusted, if_true]
        exact ⟨(hoffic _ rfl).symm, htrusted⟩
      · simp only [htrusted, false_eq_true, if_false]
        exact pollMetadata_spec hoffic hmeta hoffic

end

inductive FirstValidRace (Plan Error : Type) where
  | winner (plan : Plan) (route : PgcPlanRoute) (observedOfficialError : Option Error)
  | exhausted (officialError proxyError : Option Error) (invalidPlan : Bool)

/-- The locals of `first_valid_plan_race`. -/
structure PlanRace (Error : Type) where
  officialDone : Bool := false
  proxyDone : Bool := false
  officialError : Option Error := none
  proxyError : Option Error := none
  invalidPlan : Bool := false

def PlanRace.exhausted? (race : PlanRace Error) : Option (FirstValidRace Plan Error) :=
  if race.officialDone && race.proxyDone then
    some (.exhausted race.officialError race.proxyError race.invalidPlan)
  else
    none

def PlanRace.settle (race : PlanRace Error) : FirstValidRace Plan Error ⊕ PlanRace Error :=
  match race.exhausted? with
  | some result => .inl result
  | none => .inr race

/-- The proxy's branch of the `select!`. -/
def PlanRace.pollProxy (isValid : Plan → PgcPlanRoute → Bool)
    (proxy : Option (Except Error Plan)) (race : PlanRace Error) :
    FirstValidRace Plan Error ⊕ PlanRace Error :=
  if race.proxyDone then
    race.settle
  else
    match proxy with
    | none => .inr race
    | some (.ok plan) =>
      if isValid plan .proxy then .inl (.winner plan .proxy race.officialError)
      else { race with proxyDone := true, invalidPlan := true }.settle
    | some (.error error) =>
      { race with proxyDone := true, proxyError := some error }.settle

/-- One poll of `first_valid_plan_race`, the official branch first. -/
def PlanRace.poll (isValid : Plan → PgcPlanRoute → Bool)
    (official proxy : Option (Except Error Plan)) (race : PlanRace Error) :
    FirstValidRace Plan Error ⊕ PlanRace Error :=
  if race.officialDone then
    race.pollProxy isValid proxy
  else
    match official with
    | none => race.pollProxy isValid proxy
    | some (.ok plan) =>
      if isValid plan .official then .inl (.winner plan .official none)
      else { race with officialDone := true, invalidPlan := true }.pollProxy isValid proxy
    | some (.error error) =>
      { race with officialDone := true, officialError := some error }.pollProxy isValid proxy

structure PlanRace.Consistent (isValid : Plan → PgcPlanRoute → Bool)
    (official : Except Error Plan) (race : PlanRace Error) : Prop where
  officialError : ∀ error, race.officialError = some error →
    race.officialDone = true ∧ official = .error error
  /-- A finished official route has failed, or has shown another episode. -/
  officialDone : race.officialDone = true →
    (∃ error, official = .error error ∧ race.officialError = some error) ∨
      (∃ plan, official = .ok plan ∧ isValid plan .official = false ∧ race.invalidPlan = true)

theorem consistent_start (isValid : Plan → PgcPlanRoute → Bool) (official : Except Error Plan) :
    ({} : PlanRace Error).Consistent isValid official :=
  ⟨nofun, nofun⟩

structure FirstValidRace.Sound (isValid : Plan → PgcPlanRoute → Bool)
    (official proxy : Except Error Plan) (result : FirstValidRace Plan Error) : Prop where
  officialWinner : ∀ plan observed, result = .winner plan .official observed →
    official = .ok plan ∧ isValid plan .official = true
  proxyWinner : ∀ plan observed, result = .winner plan .proxy observed →
    proxy = .ok plan ∧ isValid plan .proxy = true ∧
      ∀ error, observed = some error → official = .error error
  exhausted : ∀ officialError proxyError invalid,
    result = .exhausted officialError proxyError invalid →
      (∃ error, official = .error error ∧ officialError = some error) ∨
        (∃ plan, official = .ok plan ∧ isValid plan .official = false ∧
          officialError = none ∧ invalid = true)

variable {isValid : Plan → PgcPlanRoute → Bool} {official proxy : Except Error Plan}

variable {race : PlanRace Error} (consistent : race.Consistent isValid official)

include consistent

theorem sound_exhausted (done : race.officialDone = true) :
    FirstValidRace.Sound isValid official proxy
      (.exhausted race.officialError race.proxyError race.invalidPlan) := by
  refine ⟨nofun, nofun, ?_⟩
  intro officialError proxyError invalid h
  cases h
  rcases consistent.officialDone done with hfailed | ⟨plan, hp, hinvalid, hseen⟩
  · exact .inl hfailed
  refine .inr ⟨plan, hp, hinvalid, ?_, hseen⟩
  cases herror : race.officialError with
  | none => rfl
  | some error =>
    rw [(consistent.officialError error herror).2] at hp
    cases hp

theorem settle_spec :
    (∀ result, race.settle = .inl result → FirstValidRace.Sound isValid official proxy result) ∧
      ∀ next, (race.settle : FirstValidRace Plan Error ⊕ PlanRace Error) = .inr next →
        next.Consistent isValid official := by
  unfold PlanRace.settle PlanRace.exhausted?
  by_cases hdone : (race.officialDone && race.proxyDone) = true
  · rw [if_pos hdone]
    refine ⟨fun result h => ?_, nofun⟩
    cases h
    exact sound_exhausted consistent (and_eq_true_iff.mp hdone).1
  · rw [if_neg hdone]
    refine ⟨nofun, fun next h => ?_⟩
    cases h
    exact consistent

theorem pollProxy_spec {ready : Option (Except Error Plan)}
    (hready : ∀ result, ready = some result → result = proxy) :
    (∀ result, race.pollProxy isValid ready = .inl result →
        FirstValidRace.Sound isValid official proxy result) ∧
      ∀ next, race.pollProxy isValid ready = .inr next → next.Consistent isValid official := by
  unfold PlanRace.pollProxy
  by_cases hdone : race.proxyDone = true
  · rw [if_pos hdone]
    exact settle_spec consistent
  rw [if_neg hdone]
  match ready, hready with
  | none, _ =>
    refine ⟨nofun, fun next h => ?_⟩
    cases h
    exact consistent
  | some (.error error), _ =>
    exact settle_spec ⟨consistent.officialError, consistent.officialDone⟩
  | some (.ok plan), hready =>
    have hproxy := hready _ rfl
    by_cases hv : isValid plan .proxy = true
    · simp only [hv, if_true]
      refine ⟨fun result h => ?_, nofun⟩
      cases h
      refine ⟨nofun, ?_, nofun⟩
      intro winner observed h
      cases h
      exact ⟨hproxy.symm, hv, fun error h => (consistent.officialError error h).2⟩
    · simp only [hv, false_eq_true, if_false]
      apply settle_spec
      refine ⟨consistent.officialError, fun h => ?_⟩
      rcases consistent.officialDone h with hfailed | ⟨other, ho, hinvalid, -⟩
      · exact .inl hfailed
      · exact .inr ⟨other, ho, hinvalid, rfl⟩

theorem poll_spec {officialReady proxyReady : Option (Except Error Plan)}
    (hoffic : ∀ result, officialReady = some result → result = official)
    (hproxy : ∀ result, proxyReady = some result → result = proxy) :
    (∀ result, race.poll isValid officialReady proxyReady = .inl result →
        FirstValidRace.Sound isValid official proxy result) ∧
      ∀ next, race.poll isValid officialReady proxyReady = .inr next →
        next.Consistent isValid official := by
  unfold PlanRace.poll
  by_cases hdone : race.officialDone = true
  · rw [if_pos hdone]
    exact pollProxy_spec consistent hproxy
  rw [if_neg hdone]
  match officialReady, hoffic with
  | none, _ => exact pollProxy_spec consistent hproxy
  | some (.error error), hoffic =>
    have herror := hoffic _ rfl
    apply pollProxy_spec _ hproxy
    refine ⟨fun other h => ?_, fun _ => .inl ⟨error, herror.symm, rfl⟩⟩
    cases h
    exact ⟨rfl, herror.symm⟩
  | some (.ok plan), hoffic =>
    have hp := hoffic _ rfl
    by_cases hv : isValid plan .official = true
    · simp only [hv, if_true]
      refine ⟨fun result h => ?_, nofun⟩
      cases h
      refine ⟨?_, nofun, nofun⟩
      intro winner observed h
      cases h
      exact ⟨hp.symm, hv⟩
    · simp only [hv, false_eq_true, if_false]
      apply pollProxy_spec _ hproxy
      refine ⟨fun other h => ?_, fun _ => .inr ⟨plan, hp.symm, ?_, rfl⟩⟩
      · exact absurd (consistent.officialError other h).1 hdone
      · exact eq_false_iff.mpr hv

omit consistent

theorem poll_official_first {plan : Plan} (proxyReady : Option (Except Error Plan))
    (pending : race.officialDone = false) (valid : isValid plan .official = true) :
    race.poll isValid (some (.ok plan)) proxyReady = .inl (.winner plan .official none) := by
  unfold PlanRace.poll
  simp [pending, valid]

end NetPlayer.Resolver
