import Mathlib.Data.Finset.Sort
import Mathlib.Data.List.MinMax
import Mathlib.Data.String.Basic

/-!
# Health of the resolver hosts

The tracker keeps one record for each host, and a record summarises the events of its host for as
long as no gap between them reaches the lifetime of a record. Instants are counted in nanoseconds.
-/

namespace NetPlayer.Resolver

def maxHosts : Nat := 128
def recordTtlSecs : Nat := 24 * 60 * 60
def baseCooldownSecs : Nat := 5
def maxCooldownSecs : Nat := 5 * 60
def ewmaSampleLimitMicros : Nat := 60000000
def probeRefreshSecs : Nat := 10 * 60
def nanosPerSec : Nat := 1000000000
def u32Max : Nat := 2 ^ 32 - 1

inductive ProbeFailure where
  | connectivity | tls | timeout | authentication | regionContent
  | httpStatus (code : UInt16)
  deriving DecidableEq

/-- The failures that `record_failure` takes in. -/
def ProbeFailure.isTransport : ProbeFailure → Bool
  | .connectivity | .tls | .timeout => true
  | _ => false

inductive ProbeOutcome where
  | success
  | transportFailure
  deriving DecidableEq

structure HostHealth where
  lastProbe : Option Nat
  lastSuccess : Option Nat
  lastFailure : Option Nat
  latestOutcome : Option ProbeOutcome
  revalidationDue : Bool
  lastUpdated : Nat
  firstResponseEwmaMicros : Option Nat
  consecutiveConnectivityFailures : Nat
  cooldownUntil : Option Nat
  deriving DecidableEq

/-- `now.checked_duration_since(earlier)`, in whole seconds. -/
def secsSince (now earlier : Nat) : Option Nat :=
  if earlier ≤ now then some ((now - earlier) / nanosPerSec) else none

namespace HostHealth

/-- The record that `or_insert_with` makes. -/
def fresh (now : Nat) : HostHealth where
  lastProbe := none
  lastSuccess := none
  lastFailure := none
  latestOutcome := none
  revalidationDue := false
  lastUpdated := now
  firstResponseEwmaMicros := none
  consecutiveConnectivityFailures := 0
  cooldownUntil := none

variable (health : HostHealth)

def alive (now : Nat) : Bool :=
  (secsSince now health.lastUpdated).all fun age => decide (age < recordTtlSecs)

def cooling (now : Nat) : Bool :=
  health.cooldownUntil.any fun deadline => decide (now < deadline)

def succeed (now firstResponseMicros : Nat) : HostHealth :=
  let sample := min firstResponseMicros ewmaSampleLimitMicros
  { health with
    firstResponseEwmaMicros := some (match health.firstResponseEwmaMicros with
      | some previous => (previous * 7 + sample) / 8
      | none => sample)
    lastProbe := some now
    lastSuccess := some now
    latestOutcome := some .success
    revalidationDue := false
    lastUpdated := now
    consecutiveConnectivityFailures := 0
    cooldownUntil := none }

def cooldownSecs (consecutive : Nat) : Nat :=
  min (baseCooldownSecs * 2 ^ min (consecutive - 1) 6) maxCooldownSecs

def fail (now : Nat) : HostHealth :=
  let consecutive := min (health.consecutiveConnectivityFailures + 1) u32Max
  { health with
    lastProbe := some now
    lastFailure := some now
    latestOutcome := some .transportFailure
    revalidationDue := true
    lastUpdated := now
    consecutiveConnectivityFailures := consecutive
    cooldownUntil := some (now + cooldownSecs consecutive * nanosPerSec) }

def probeNeutrally (now : Nat) : HostHealth :=
  { health with lastProbe := some now, revalidationDue := false, lastUpdated := now }

end HostHealth

structure ResolverHealthTracker where
  hosts : Finset String
  record : String → HostHealth

namespace ResolverHealthTracker

def default : ResolverHealthTracker := ⟨∅, fun _ => .fresh 0⟩

variable (t : ResolverHealthTracker)

def get (hostId : String) : Option HostHealth :=
  if hostId ∈ t.hosts then some (t.record hostId) else none

def expireOld (now : Nat) : ResolverHealthTracker :=
  { t with hosts := t.hosts.filter fun hostId => (t.record hostId).alive now }

def ensureCapacity (hostId : String) : ResolverHealthTracker :=
  if hostId ∈ t.hosts ∨ t.hosts.card < maxHosts then t
  else
    match (t.hosts.sort (· ≤ ·)).argmin fun host => (t.record host).lastUpdated with
    | some oldest => { t with hosts := t.hosts.erase oldest }
    | none => t

def probeDue (hostId : String) (now : Nat) : Bool :=
  match (t.expireOld now).get hostId with
  | none => true
  | some health =>
    if health.cooling now then false
    else if health.revalidationDue then true
    else health.lastProbe.all fun probe =>
      (secsSince now probe).all fun age => decide (probeRefreshSecs ≤ age)

def recentlyHealthy (hostId : String) (now : Nat) : Bool :=
  ((t.expireOld now).get hostId).any fun health =>
    health.latestOutcome == some .success &&
      (health.lastSuccess.any fun success =>
        (secsSince now success).any fun age => decide (age < probeRefreshSecs)) &&
      !health.cooling now

def update (t : ResolverHealthTracker) (hostId : String) (now : Nat)
    (change : HostHealth → HostHealth) : ResolverHealthTracker :=
  let t := (t.expireOld now).ensureCapacity hostId
  { hosts := insert hostId t.hosts
    record := Function.update t.record hostId (change ((t.get hostId).getD (.fresh now))) }

variable (normalize : String → Option String)

def recordSuccess (t : ResolverHealthTracker) (hostId : String) (now firstResponseMicros : Nat) :
    ResolverHealthTracker × Bool :=
  match normalize hostId with
  | none => (t, false)
  | some hostId => (t.update hostId now (·.succeed now firstResponseMicros), true)

def recordFailure (t : ResolverHealthTracker) (hostId : String) (now : Nat)
    (failure : ProbeFailure) : ResolverHealthTracker × Bool :=
  match normalize hostId with
  | none => (t, false)
  | some hostId =>
    if failure.isTransport then (t.update hostId now (·.fail now), true) else (t, false)

def recordNeutralProbe (t : ResolverHealthTracker) (hostId : String) (now : Nat) :
    ResolverHealthTracker × Bool :=
  match normalize hostId with
  | none => (t, false)
  | some hostId => (t.update hostId now (·.probeNeutrally now), true)

end ResolverHealthTracker

end NetPlayer.Resolver
