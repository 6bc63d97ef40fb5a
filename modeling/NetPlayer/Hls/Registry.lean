import Mathlib.Data.Finmap
import NetPlayer.Library.Transition
import NetPlayer.RangeCache.Basic
import NetPlayer.Hls.Session

/-!
# The playback registry

`HlsPlaybackRegistry` keeps the sessions that can be played, the generation each
was registered with, and the scrubs that wait for their deadline. Every function
is one critical section of its lock. A caller that panics in there poisons the
lock and every later call panics as well, so an operation that panics has no
result here. An `Instant` is the number of ticks since some fixed moment.
-/

namespace NetPlayer.Hls

open Finmap

abbrev Instant := Nat

structure HlsPlaybackPendingScrub where
  generation : Nat
  deadline : Instant
  replacement : HlsPlaybackSession
  deriving DecidableEq

structure HlsPlaybackSessionHandle where
  session : HlsPlaybackSession
  generation : Nat
  deriving DecidableEq

structure HlsPlaybackRegistryInner where
  sessions : Finmap fun _ : String => HlsPlaybackSession
  generations : Finmap fun _ : String => Nat
  pendingScrubs : Finmap fun _ : String => HlsPlaybackPendingScrub
  nextGeneration : Nat

namespace HlsPlaybackRegistryInner

def default : HlsPlaybackRegistryInner where
  sessions := ∅
  generations := ∅
  pendingScrubs := ∅
  nextGeneration := 0

end HlsPlaybackRegistryInner

open HlsPlaybackRegistryInner

/-- `inner.next_generation.checked_add(1)`: exhausted generations panic. -/
def issueGeneration (inner : HlsPlaybackRegistryInner) : Option Nat :=
  if inner.nextGeneration < u64Max then some (inner.nextGeneration + 1) else none

/-- What the registry does before it runs the caller's `update` with the new
generation, still under the lock. -/
def insertWithGenerationUpdate (inner : HlsPlaybackRegistryInner) (session : HlsPlaybackSession) :
    Option (HlsPlaybackRegistryInner × Nat) :=
  (issueGeneration inner).map fun generation =>
    ({ sessions := inner.sessions.insert session.id session
       generations := inner.generations.insert session.id generation
       pendingScrubs := inner.pendingScrubs.erase session.id
       nextGeneration := generation }, generation)

def insertWithScrubDeadlineAndGenerationUpdate (inner : HlsPlaybackRegistryInner)
    (session replacement : HlsPlaybackSession) (deadline : Instant) :
    Option (HlsPlaybackRegistryInner × Nat) :=
  (issueGeneration inner).map fun generation =>
    ({ sessions := inner.sessions.insert session.id session
       generations := inner.generations.insert session.id generation
       pendingScrubs := inner.pendingScrubs.insert session.id ⟨generation, deadline, replacement⟩
       nextGeneration := generation }, generation)

def removeWithGenerationUpdate (inner : HlsPlaybackRegistryInner) (sessionId : String) :
    HlsPlaybackRegistryInner × Option Nat :=
  ({ inner with
      sessions := inner.sessions.erase sessionId
      generations := inner.generations.erase sessionId
      pendingScrubs := inner.pendingScrubs.erase sessionId },
    inner.generations.lookup sessionId)

def sessionHandle (inner : HlsPlaybackRegistryInner) (sessionId : String) :
    Option HlsPlaybackSessionHandle := do
  let session ← inner.sessions.lookup sessionId
  let generation ← inner.generations.lookup sessionId
  pure ⟨session, generation⟩

def applyPendingScrub (inner : HlsPlaybackRegistryInner) (sessionId : String)
    (expectedGeneration : Option Nat) : HlsPlaybackRegistryInner × Bool :=
  match inner.pendingScrubs.lookup sessionId with
  | none => (inner, false)
  | some scrub =>
    if inner.generations.lookup sessionId ≠ some scrub.generation ∨
        (∃ generation ∈ expectedGeneration, generation ≠ scrub.generation) then
      (inner, false)
    else
      ({ inner with
          sessions := inner.sessions.insert sessionId scrub.replacement
          pendingScrubs := inner.pendingScrubs.erase sessionId }, true)

def scrubExpiredSession (inner : HlsPlaybackRegistryInner) (sessionId : String) (now : Instant) :
    HlsPlaybackRegistryInner × Bool :=
  match inner.pendingScrubs.lookup sessionId with
  | none => (inner, false)
  | some scrub =>
    if now < scrub.deadline then (inner, false) else applyPendingScrub inner sessionId none

/-- The first critical section of `get_with_generation`, under the read lock:
`none` sends the caller on to the second. -/
def readWithGeneration (inner : HlsPlaybackRegistryInner) (sessionId : String) (now : Instant) :
    Option (Option HlsPlaybackSessionHandle) :=
  if (inner.pendingScrubs.lookup sessionId).any (·.deadline ≤ now) then none
  else some (sessionHandle inner sessionId)

/-- The second critical section of `get_with_generation`, under the write lock. -/
def scrubAndRead (inner : HlsPlaybackRegistryInner) (sessionId : String) (now : Instant) :
    HlsPlaybackRegistryInner × Option HlsPlaybackSessionHandle :=
  let inner := (scrubExpiredSession inner sessionId now).1
  (inner, sessionHandle inner sessionId)

/-- Whether `update` runs, under the read lock. -/
def withNetworkPolicyUpdate (inner : HlsPlaybackRegistryInner) (sessionId : String)
    (expectedGeneration : Nat) : Bool :=
  inner.generations.lookup sessionId = some expectedGeneration &&
    (inner.sessions.lookup sessionId).any (·.advertiseAlternateVariants)

def scrubGeneration (inner : HlsPlaybackRegistryInner) (sessionId : String)
    (expectedGeneration : Nat) : HlsPlaybackRegistryInner × Bool :=
  applyPendingScrub inner sessionId (some expectedGeneration)

/-- What a refresh is still based on, when its session is replaced. -/
def IsCurrent (inner : HlsPlaybackRegistryInner) (expected : HlsPlaybackSessionHandle) : Prop :=
  inner.sessions.lookup expected.session.id = some expected.session ∧
  inner.generations.lookup expected.session.id = some expected.generation ∧
  inner.pendingScrubs.lookup expected.session.id = none

instance (inner : HlsPlaybackRegistryInner) (expected : HlsPlaybackSessionHandle) :
    Decidable (IsCurrent inner expected) :=
  inferInstanceAs (Decidable (_ ∧ _ ∧ _))

/-- `persist` is asked only when the replacement is accepted. -/
def replaceMediaRequestsIfCurrent {ε : Type} (inner : HlsPlaybackRegistryInner)
    (expected : HlsPlaybackSessionHandle) (replacement : HlsPlaybackSession)
    (persist : Except ε Unit) : HlsPlaybackRegistryInner × Except ε Bool :=
  if replacement.id ≠ expected.session.id ∨ ¬ IsCurrent inner expected then (inner, .ok false)
  else
    match persist with
    | .error error => (inner, .error error)
    | .ok () =>
      ({ inner with sessions := inner.sessions.insert expected.session.id replacement }, .ok true)

/-- A critical section, with what its caller got. -/
inductive RegistryEvent (ε : Type)
  | register (session : HlsPlaybackSession) (scrub : Option (HlsPlaybackSession × Instant))
      (generation : Nat)
  | remove (sessionId : String)
  | read (sessionId : String) (now : Instant) (answer : Option (Option HlsPlaybackSessionHandle))
  | scrubAndRead (sessionId : String) (now : Instant) (answer : Option HlsPlaybackSessionHandle)
  | scrubGeneration (sessionId : String) (generation : Nat)
  | replace (expected : HlsPlaybackSessionHandle) (replacement : HlsPlaybackSession)
      (persist : Except ε Unit)

inductive RegistryStep {ε : Type} :
    HlsPlaybackRegistryInner → RegistryEvent ε → HlsPlaybackRegistryInner → Prop
  | register {inner session after generation}
      (issued : insertWithGenerationUpdate inner session = some (after, generation)) :
      RegistryStep inner (.register session none generation) after
  | registerWithScrub {inner session replacement deadline after generation}
      (issued : insertWithScrubDeadlineAndGenerationUpdate inner session replacement deadline =
        some (after, generation)) :
      RegistryStep inner (.register session (some (replacement, deadline)) generation) after
  | remove {inner sessionId} :
      RegistryStep inner (.remove sessionId) (removeWithGenerationUpdate inner sessionId).1
  | read {inner sessionId now} :
      RegistryStep inner (.read sessionId now (readWithGeneration inner sessionId now)) inner
  | scrubAndRead {inner sessionId now} :
      RegistryStep inner (.scrubAndRead sessionId now (scrubAndRead inner sessionId now).2)
        (scrubAndRead inner sessionId now).1
  | scrubGeneration {inner sessionId generation} :
      RegistryStep inner (.scrubGeneration sessionId generation)
        (scrubGeneration inner sessionId generation).1
  | replace {inner expected replacement persist} :
      RegistryStep inner (.replace expected replacement persist)
        (replaceMediaRequestsIfCurrent inner expected replacement persist).1

section Maps

variable {β : Type} {key other : String} {value : β} {map : Finmap fun _ : String => β}

theorem lookup_insert_ite :
    (map.insert key value).lookup other = if other = key then some value else map.lookup other := by
  by_cases h : other = key
  · rw [if_pos h, h]
    exact lookup_insert map
  · rw [if_neg h]
    exact lookup_insert_of_ne map h

theorem lookup_erase_ite :
    (map.erase key).lookup other = if other = key then none else map.lookup other := by
  by_cases h : other = key
  · rw [if_pos h, h]
    exact lookup_erase key map
  · rw [if_neg h]
    exact lookup_erase_ne h

end Maps

variable {inner after : HlsPlaybackRegistryInner} {sessionId : String}

theorem issueGeneration_spec {generation : Nat} (h : issueGeneration inner = some generation) :
    generation = inner.nextGeneration + 1 ∧ generation ≤ u64Max := by
  unfold issueGeneration at h
  split at h
  · cases h
    omega
  · cases h

theorem applyPendingScrub_cases (inner : HlsPlaybackRegistryInner) (sessionId : String)
    (expectedGeneration : Option Nat) :
    applyPendingScrub inner sessionId expectedGeneration = (inner, false) ∨
    ∃ scrub, inner.pendingScrubs.lookup sessionId = some scrub ∧
      inner.generations.lookup sessionId = some scrub.generation ∧
      applyPendingScrub inner sessionId expectedGeneration =
        ({ inner with
            sessions := inner.sessions.insert sessionId scrub.replacement
            pendingScrubs := inner.pendingScrubs.erase sessionId }, true) := by
  unfold applyPendingScrub
  cases hp : inner.pendingScrubs.lookup sessionId with
  | none => exact .inl rfl
  | some scrub =>
    by_cases hstale : inner.generations.lookup sessionId ≠ some scrub.generation ∨
        ∃ generation ∈ expectedGeneration, generation ≠ scrub.generation
    · exact .inl (if_pos hstale)
    right
    refine ⟨scrub, rfl, ?_, if_neg hstale⟩
    by_contra hgen
    exact hstale (.inl hgen)

theorem scrubExpiredSession_cases (inner : HlsPlaybackRegistryInner) (sessionId : String)
    (now : Instant) :
    scrubExpiredSession inner sessionId now = (inner, false) ∨
    scrubExpiredSession inner sessionId now = applyPendingScrub inner sessionId none := by
  unfold scrubExpiredSession
  cases inner.pendingScrubs.lookup sessionId with
  | none => exact .inl rfl
  | some scrub =>
    by_cases hearly : now < scrub.deadline
    · exact .inl (if_pos hearly)
    · exact .inr (if_neg hearly)

theorem replaceMediaRequestsIfCurrent_cases {ε : Type} (inner : HlsPlaybackRegistryInner)
    (expected : HlsPlaybackSessionHandle) (replacement : HlsPlaybackSession)
    (persist : Except ε Unit) :
    (replaceMediaRequestsIfCurrent inner expected replacement persist).1 = inner ∧
        (replaceMediaRequestsIfCurrent inner expected replacement persist).2.toOption ≠ some true ∨
    replacement.id = expected.session.id ∧ IsCurrent inner expected ∧ persist = .ok () ∧
      replaceMediaRequestsIfCurrent inner expected replacement persist =
        ({ inner with sessions := inner.sessions.insert expected.session.id replacement },
          .ok true) := by
  unfold replaceMediaRequestsIfCurrent
  by_cases hstale : replacement.id ≠ expected.session.id ∨ ¬ IsCurrent inner expected
  · rw [if_pos hstale]
    exact .inl ⟨rfl, by simp [Except.toOption]⟩
  rw [if_neg hstale]
  push Not at hstale
  cases persist with
  | error error => exact .inl ⟨rfl, by simp [Except.toOption]⟩
  | ok => exact .inr ⟨hstale.1, hstale.2, rfl, rfl⟩

end NetPlayer.Hls
