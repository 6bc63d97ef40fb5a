import Mathlib.Data.String.Basic
import NetPlayer.Hls.Session
import NetPlayer.Library.SortedMap
import NetPlayer.RangeCache.Manifest

/-!
# The history of the delivery networks

What the outcomes of earlier transfers say of a host, and of a host for one
representation. The history is bounded: records grow old, a representation keeps
its latest hosts, and each table its latest records.
-/

namespace NetPlayer.Cdn

open RangeCache (utf8)
open Hls (BilibiliMediaRequest BilibiliMediaRequestKind)

def historyVersion : Nat := 1
def hostTtlSecs : Nat := 24 * 60 * 60
def representationTtlSecs : Nat := 6 * 60 * 60
def baseCooldownSecs : Nat := 10
def maxCooldownSecs : Nat := 10 * 60
def maxHosts : Nat := 256
def maxRepresentations : Nat := 512
def maxOriginsPerRepresentation : Nat := 3
def maxCandidates : Nat := 32
def maxContentIdBytes : Nat := 256
def maxCodecBytes : Nat := 128
def maxOriginUrlBytes : Nat := 16 * 1024
def u32Max : Nat := 2 ^ 32 - 1

inductive HealthEvent
  | success
  | transportFailure
  deriving DecidableEq

structure HostRecord where
  updatedAt : Nat
  eventSequence : Nat
  latest : HealthEvent
  failures : Nat
  cooldownUntil : Option Nat
  throughputBps : Option Nat
  latencyMicros : Option Nat
  rangeSupported : Option Bool
  deriving DecidableEq

structure RepresentationRecord where
  digest : String
  origin : String
  updatedAt : Nat
  eventSequence : Nat
  latest : HealthEvent
  failures : Nat
  cooldownUntil : Option Nat
  quarantinedUntil : Option Nat
  throughputBps : Option Nat
  latencyMicros : Option Nat
  rangeSupported : Option Bool
  deriving DecidableEq

structure HistoryState where
  version : Nat
  sequence : Nat
  hosts : SortedMap String HostRecord
  representations : SortedMap String RepresentationRecord
  deriving DecidableEq

def HistoryState.default : HistoryState := ⟨historyVersion, 0, .empty, .empty⟩

inductive CdnObservationSource
  | playback
  | probe
  | downloadShard
  deriving DecidableEq

inductive CdnObservationOutcome
  | complete
  | partially
  | cancelled
  | connectionFailure
  | timeout
  | serverFailure
  | sourceUnavailable
  | integrityMismatch
  deriving DecidableEq

/-- Durations are in nanoseconds. -/
structure CdnObservation where
  source : CdnObservationSource
  outcome : CdnObservationOutcome
  bytes : Nat
  elapsed : Option Nat
  firstByteLatency : Option Nat
  rangeSupported : Option Bool
  deriving DecidableEq

structure ParsedOrigin where
  scheme : String
  hasHost : Bool
  username : String
  password : Option String
  asciiOrigin : String
  deriving DecidableEq

/-- `url::Url::parse`. -/
class OriginParser where
  parse : String → Option ParsedOrigin

def canonicalOrigin [OriginParser] (value : String) : Option String :=
  if maxOriginUrlBytes < value.utf8ByteSize then none
  else do
    let url ← OriginParser.parse value
    if (url.scheme ≠ "http" ∧ url.scheme ≠ "https") ∨ url.hasHost = false ∨ url.username ≠ "" ∨
        url.password.isSome then
      none
    else some url.asciiOrigin

variable (digest origin : String)

def representationMapKey : String := digest ++ "|" ++ origin

def requestCandidates (request : BilibiliMediaRequest) : List String :=
  firstOccurrences [] (request.url :: request.backupUrls)
where
  firstOccurrences (seen : List String) : List String → List String
    | [] => []
    | url :: rest =>
      if url ∈ seen then firstOccurrences seen rest
      else url :: firstOccurrences (url :: seen) rest

def beBytes (width value : Nat) : Bytes :=
  (List.range width).map fun index => UInt8.ofNat (value / 256 ^ (width - 1 - index))

def hashField (value : Bytes) : Bytes := beBytes 8 value.length ++ value

def hashOptional {α : Type} (render : α → Bytes) : Option α → Bytes
  | some value => 1 :: hashField (render value)
  | none => [0]

def debugKind : BilibiliMediaRequestKind → String
  | .video => "Video"
  | .audio => "Audio"
  | .flvSegment => "FlvSegment"

def representationDigest (request : BilibiliMediaRequest) : Option String :=
  if request.kind = .flvSegment ∨ maxContentIdBytes < request.cacheKey.contentId.utf8ByteSize ∨
      request.cacheKey.contentId = "" ∨
      (request.codecs.any fun codecs => maxCodecBytes < codecs.utf8ByteSize) then
    none
  else
    some (RangeCache.sha256Hex (hashField (utf8 request.cacheKey.contentId) ++
      hashField (utf8 (debugKind request.cacheKey.mediaKind)) ++
      hashOptional (beBytes 4) request.streamId ++ hashOptional utf8 request.codecs ++
      hashOptional (beBytes 4) request.width ++ hashOptional (beBytes 4) request.height ++
      hashOptional (beBytes 8) request.size ++ hashOptional (beBytes 8) request.bandwidth ++
      hashOptional (beBytes 4) request.durationSeconds))

def cooldownSecs (failures : Nat) : Nat :=
  min (baseCooldownSecs * 2 ^ min (failures - 1) 6) maxCooldownSecs

def ewma (previous : Option Nat) (sample : Nat) : Nat :=
  match previous with
  | none => sample
  | some old => (old * 3 + sample) / 4

def updatedThroughput (throughput : Option Nat) (observation : CdnObservation) : Option Nat :=
  match observation.elapsed.filter fun duration => duration ≠ 0 with
  | some elapsed =>
    some (ewma throughput (min (observation.bytes * 8 * 1000000 / max (elapsed / 1000) 1) u64Max))
  | none => throughput

def updatedLatency (latency : Option Nat) (observation : CdnObservation) : Option Nat :=
  match observation.firstByteLatency with
  | some firstByte => some (ewma latency (min (firstByte / 1000) u64Max))
  | none => latency

def updatedMetrics (throughput latency : Option Nat) (rangeSupported : Option Bool)
    (observation : CdnObservation) : Option Nat × Option Nat × Option Bool :=
  let timed := observation.source ≠ .downloadShard
  (if timed then updatedThroughput throughput observation else throughput,
    if timed then updatedLatency latency observation else latency,
    observation.rangeSupported.or rangeSupported)

def updateHost (entry : HostRecord) (observation : CdnObservation) (now seq : Nat)
    (failure : Bool) : HostRecord :=
  if failure then
    let failures := min (entry.failures + 1) u32Max
    { updatedAt := now
      eventSequence := seq
      latest := .transportFailure
      failures := failures
      cooldownUntil := some (saturatingAdd now (cooldownSecs failures))
      throughputBps := none
      latencyMicros := none
      rangeSupported := none }
  else
    let (throughput, latency, rangeSupported) :=
      updatedMetrics entry.throughputBps entry.latencyMicros entry.rangeSupported observation
    { updatedAt := now
      eventSequence := seq
      latest := .success
      failures := 0
      cooldownUntil := none
      throughputBps := throughput
      latencyMicros := latency
      rangeSupported := rangeSupported }

def updateRepresentation (entry : RepresentationRecord) (observation : CdnObservation)
    (now seq : Nat) (failure integrityMismatch : Bool) : RepresentationRecord :=
  let entry := { entry with updatedAt := now, eventSequence := seq }
  if integrityMismatch then
    { entry with
      quarantinedUntil := some (saturatingAdd now representationTtlSecs)
      latest := .transportFailure
      throughputBps := none
      latencyMicros := none
      rangeSupported := none }
  else if failure then
    let failures := min (entry.failures + 1) u32Max
    { entry with
      latest := .transportFailure
      failures := failures
      cooldownUntil := some (saturatingAdd now (cooldownSecs failures))
      throughputBps := none
      latencyMicros := none
      rangeSupported := none }
  else if observation.outcome ≠ .complete then entry
  else
    let (throughput, latency, rangeSupported) :=
      updatedMetrics entry.throughputBps entry.latencyMicros entry.rangeSupported observation
    { entry with
      latest := .success
      failures := 0
      cooldownUntil := none
      quarantinedUntil := none
      throughputBps := throughput
      latencyMicros := latency
      rangeSupported := rangeSupported }

def NewerFirst (a b : String × RepresentationRecord) : Prop :=
  b.2.updatedAt < a.2.updatedAt ∨
    b.2.updatedAt = a.2.updatedAt ∧ b.2.eventSequence ≤ a.2.eventSequence

instance : DecidableRel NewerFirst := fun _ _ => inferInstanceAs (Decidable (_ ∨ _))

def outdatedOrigins (representations : SortedMap String RepresentationRecord) (digest : String) :
    List (String × RepresentationRecord) :=
  ((representations.entries.filter fun entry => entry.2.digest = digest).insertionSort
    NewerFirst).drop maxOriginsPerRepresentation

def pruneRepresentationTopK (state : HistoryState) (digest : String) : HistoryState :=
  { state with
    representations := state.representations.retain fun key _ =>
      decide (key ∉ (outdatedOrigins state.representations digest).map Prod.fst) }

/-- The oldest records of a table that holds more than `limit`. -/
def oldestEntries {ν : Type} (limit : Nat) (updatedAt : ν → Nat) (m : SortedMap String ν) :
    List (String × ν) :=
  (m.entries.insertionSort fun a b => updatedAt a.2 ≤ updatedAt b.2).take (m.size - limit)

def pruneTable {ν : Type} (ttl limit : Nat) (updatedAt : ν → Nat) (now : Nat)
    (m : SortedMap String ν) : SortedMap String ν :=
  let m := m.retain fun _ record => decide (now - updatedAt record < ttl)
  if limit < m.size then
    m.retain fun key _ => decide (key ∉ (oldestEntries limit updatedAt m).map Prod.fst)
  else m

def prune (state : HistoryState) (now : Nat) : HistoryState :=
  { state with
    hosts := pruneTable hostTtlSecs maxHosts HostRecord.updatedAt now state.hosts
    representations := pruneTable representationTtlSecs maxRepresentations
      RepresentationRecord.updatedAt now state.representations }

variable (outcome : CdnObservationOutcome)

def CdnObservationOutcome.transportFailure : Bool :=
  outcome = .connectionFailure ∨ outcome = .timeout ∨ outcome = .serverFailure

def CdnObservationOutcome.ofHost : Bool :=
  outcome.transportFailure || outcome = .complete

def CdnObservationOutcome.ofRepresentation : Bool :=
  outcome.transportFailure || outcome = .complete || outcome = .integrityMismatch

def newHost (now seq : Nat) : HostRecord :=
  ⟨now, seq, if outcome = .complete then .success else .transportFailure, 0, none, none, none,
    none⟩

def newRepresentation (outcome : CdnObservationOutcome) (now seq : Nat) : RepresentationRecord :=
  ⟨digest, origin, now, seq,
    if outcome.transportFailure ∨ outcome = .integrityMismatch then .transportFailure else .success,
    0, none, none, none, none, none⟩

def recordHost (origin : String) (observation : CdnObservation) (now : Nat)
    (state : HistoryState) : HistoryState :=
  if observation.outcome.ofHost then
    { state with
      hosts := state.hosts.upsert origin fun found =>
        updateHost (found.getD (newHost observation.outcome now state.sequence)) observation now
          state.sequence observation.outcome.transportFailure }
  else state

def recordRepresentation (observation : CdnObservation) (now : Nat) (state : HistoryState) :
    HistoryState :=
  if observation.outcome.ofRepresentation then
    pruneRepresentationTopK
      { state with
        representations := state.representations.upsert (representationMapKey digest origin)
          fun found =>
            updateRepresentation
              (found.getD (newRepresentation digest origin observation.outcome now state.sequence))
              observation now state.sequence observation.outcome.transportFailure
              (observation.outcome = .integrityMismatch) }
      digest
  else state

def recordOrigin (origin : String) (observation : CdnObservation) (digest : Option String)
    (now : Nat) (state : HistoryState) : HistoryState :=
  let state := prune state now
  let state := { state with sequence := saturatingAdd state.sequence 1 }
  let state := recordHost origin observation now state
  let state :=
    match digest with
    | some digest => recordRepresentation digest origin observation now state
    | none => state
  prune state now

def recordAt [OriginParser] (url : String) (observation : CdnObservation) (digest : Option String)
    (now : Nat) (state : HistoryState) : HistoryState :=
  match canonicalOrigin url with
  | some origin => recordOrigin origin observation digest now state
  | none => state

structure RankedCandidate where
  tier : Nat
  throughput : Option Nat
  latency : Option Nat
  recent : Nat × Nat
  index : Nat
  url : String
  deriving DecidableEq

def compareThroughput : Option Nat → Option Nat → Ordering
  | some a, some b => compare b a
  | some _, none => .lt
  | none, some _ => .gt
  | none, none => .eq

def compareLatency : Option Nat → Option Nat → Ordering
  | some a, some b => compare a b
  | some _, none => .lt
  | none, some _ => .gt
  | none, none => .eq

/-- The order of `tap_sort`. -/
def compareCandidates (left right : RankedCandidate) : Ordering :=
  (compare left.tier right.tier).then <|
    (compareThroughput left.throughput right.throughput).then <|
      (compareLatency left.latency right.latency).then <|
        (compare right.recent.1 left.recent.1).then <|
          (compare right.recent.2 left.recent.2).then <|
            compare left.index right.index

def HostRecord.coolingDown (record : HostRecord) (now : Nat) : Bool :=
  record.cooldownUntil.any fun stop => now < stop

def RepresentationRecord.coolingDown (record : RepresentationRecord) (now : Nat) : Bool :=
  record.cooldownUntil.any fun stop => now < stop

def RepresentationRecord.quarantined (record : RepresentationRecord) (now : Nat) : Bool :=
  record.quarantinedUntil.any fun stop => now < stop

structure CandidateHistory where
  rep : Option RepresentationRecord
  host : Option HostRecord

def candidateHistory [OriginParser] (state : HistoryState) (digest : Option String)
    (url : String) : CandidateHistory :=
  let origin := canonicalOrigin url
  { rep := do state.representations.lookup (representationMapKey (← digest) (← origin))
    host := do state.hosts.lookup (← origin) }

namespace CandidateHistory

variable (history : CandidateHistory) (now : Nat)

def quarantine : Bool :=
  history.rep.any fun entry => entry.quarantined now

def cooldown : Bool :=
  (history.rep.any fun entry => entry.coolingDown now) ||
    history.host.any fun entry => entry.coolingDown now

def hostFailed : Bool :=
  history.host.any fun entry => entry.latest ≠ .success

def knownHealthy : Bool :=
  (history.rep.any fun entry => entry.latest = .success && !history.hostFailed &&
      !history.cooldown now && !history.quarantine now) ||
    (history.rep.isNone && !history.hostFailed &&
      history.host.any fun entry => entry.latest = .success && !history.cooldown now)

def tier : Nat :=
  if history.quarantine now || history.cooldown now then 2
  else if history.knownHealthy now then 0
  else 1

def metrics : Option Nat × Option Nat :=
  let ofRep := (history.rep.filter fun entry => entry.latest = .success && !history.hostFailed).map
    fun entry => (entry.throughputBps, entry.latencyMicros)
  let ofHost := (history.host.filter fun entry =>
    entry.latest = .success && !history.hostFailed).map
    fun entry => (entry.throughputBps, entry.latencyMicros)
  (ofRep.or ofHost).getD (none, none)

def recent : Nat × Nat :=
  match history.rep.filter fun entry => entry.latest = .success && !history.hostFailed &&
      !history.cooldown now && !history.quarantine now with
  | some entry => (entry.updatedAt, entry.eventSequence)
  | none => (0, 0)

end CandidateHistory

def rankedCandidate [OriginParser] (state : HistoryState) (digest : Option String) (now : Nat)
    (candidate : String × Nat) : RankedCandidate :=
  let history := candidateHistory state digest candidate.1
  { tier := history.tier now
    throughput := history.metrics.1
    latency := history.metrics.2
    recent := history.recent now
    index := candidate.2
    url := candidate.1 }

def rankPruned [OriginParser] (state : HistoryState) (request : BilibiliMediaRequest)
    (now : Nat) : List String :=
  let candidates := requestCandidates request
  let ranked := (candidates.take maxCandidates).zipIdx.map
    (rankedCandidate state (representationDigest request) now)
  (ranked.insertionSort fun left right => (compareCandidates left right).isLE = true).map
      RankedCandidate.url ++
    candidates.drop maxCandidates

def rankRequestAt [OriginParser] (request : BilibiliMediaRequest) (now : Nat)
    (state : HistoryState) : List String × HistoryState :=
  let state := prune state now
  (rankPruned state request now, state)

end NetPlayer.Cdn
