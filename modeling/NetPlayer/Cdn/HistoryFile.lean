import NetPlayer.Cdn.Quarantine
import NetPlayer.Hls.SessionFile
import NetPlayer.RangeCache.ManifestValidity

/-!
# The file of the history

What a history is written as, and what of a file the loader takes back. The
loader has bounds of its own, on the size of the file and on the records.
-/

namespace NetPlayer.Cdn

open List Option SortedMap

open RangeCache (isSha256Hex jsonNat jsonOption jsonString utf8)
open Hls (jsonBool)

def maxFileBytes : Nat := 192 * 1024
def maxHostOriginBytes : Nat := 512
def maxHostFailures : Nat := 1000000

/-- An object as `serde_json::to_vec` writes it. -/
def compactObject (fields : List (String × Bytes)) : Bytes :=
  utf8 "\x7b" ++
    (utf8 ",").intercalate (fields.map fun field => jsonString field.1 ++ utf8 ":" ++ field.2) ++
    utf8 "\x7d"

def healthJson : HealthEvent → Bytes
  | .success => jsonString "Success"
  | .transportFailure => jsonString "TransportFailure"

def hostJson (record : HostRecord) : Bytes :=
  compactObject
    [("updated_at", jsonNat record.updatedAt),
      ("event_sequence", jsonNat record.eventSequence),
      ("latest", healthJson record.latest),
      ("failures", jsonNat record.failures),
      ("cooldown_until", jsonOption jsonNat record.cooldownUntil),
      ("throughput_bps", jsonOption jsonNat record.throughputBps),
      ("latency_micros", jsonOption jsonNat record.latencyMicros),
      ("range_supported", jsonOption jsonBool record.rangeSupported)]

def representationJson (record : RepresentationRecord) : Bytes :=
  compactObject
    [("digest", jsonString record.digest),
      ("origin", jsonString record.origin),
      ("updated_at", jsonNat record.updatedAt),
      ("event_sequence", jsonNat record.eventSequence),
      ("latest", healthJson record.latest),
      ("failures", jsonNat record.failures),
      ("cooldown_until", jsonOption jsonNat record.cooldownUntil),
      ("quarantined_until", jsonOption jsonNat record.quarantinedUntil),
      ("throughput_bps", jsonOption jsonNat record.throughputBps),
      ("latency_micros", jsonOption jsonNat record.latencyMicros),
      ("range_supported", jsonOption jsonBool record.rangeSupported)]

def historyJson (state : HistoryState) : Bytes :=
  compactObject
    [("version", jsonNat state.version),
      ("sequence", jsonNat state.sequence),
      ("hosts", compactObject (state.hosts.entries.map fun entry => (entry.1, hostJson entry.2))),
      ("representations", compactObject (state.representations.entries.map fun entry =>
        (entry.1, representationJson entry.2)))]

def persistState (state : HistoryState) : Option Bytes :=
  if maxFileBytes < (historyJson state).length then none else some (historyJson state)

/-- `serde_json::from_slice::<HistoryState>`. -/
class HistoryJson where
  parse : Bytes → Option HistoryState

def cooldownBounded (updatedAt : Nat) (cooldownUntil : Option Nat) : Bool :=
  cooldownUntil.all fun value => value ≤ saturatingAdd updatedAt maxCooldownSecs

def quarantineBounded (updatedAt : Nat) (quarantinedUntil : Option Nat) : Bool :=
  quarantinedUntil.all fun value => value ≤ saturatingAdd updatedAt representationTtlSecs

def validHost [OriginParser] (origin : String) (record : HostRecord) : Bool :=
  canonicalOrigin origin = some origin && cooldownBounded record.updatedAt record.cooldownUntil

def validRepresentation [OriginParser] (key : String) (record : RepresentationRecord) : Bool :=
  key = representationMapKey record.digest record.origin && isSha256Hex record.digest &&
    canonicalOrigin record.origin = some record.origin &&
    cooldownBounded record.updatedAt record.cooldownUntil &&
    quarantineBounded record.updatedAt record.quarantinedUntil

def smallHost (origin : String) (record : HostRecord) : Bool :=
  origin.utf8ByteSize ≤ maxHostOriginBytes && record.failures ≤ maxHostFailures

def digestsOf (representations : SortedMap String RepresentationRecord) : List String :=
  (representations.entries.map fun entry => entry.2.digest).dedup

def validateLoadedState [OriginParser] (state : HistoryState) : HistoryState :=
  let state := { state with hosts := state.hosts.retain validHost }
  let state := { state with representations := state.representations.retain validRepresentation }
  let state := (digestsOf state.representations).foldl pruneRepresentationTopK state
  { state with hosts := state.hosts.retain smallHost }

def readState [OriginParser] [HistoryJson] (now : Nat) (bytes : Bytes) : Option HistoryState :=
  if maxFileBytes < bytes.length then none
  else do
    let state ← HistoryJson.parse bytes
    if state.version ≠ historyVersion then none
    else some (prune (validateLoadedState state) now)

variable {state : HistoryState} {digest origin : String} {now : Nat}
  {observation : CdnObservation}

theorem pruneTable_sublist {ν : Type} {ttl limit : Nat} {updatedAt : ν → Nat}
    {m : SortedMap String ν} :
    (pruneTable ttl limit updatedAt now m).entries.Sublist m.entries := by
  unfold pruneTable
  dsimp only
  split
  · exact filter_sublist.trans filter_sublist
  · exact filter_sublist

theorem size_pruneTable_le {ν : Type} {ttl limit : Nat} {updatedAt : ν → Nat}
    {m : SortedMap String ν} : (pruneTable ttl limit updatedAt now m).size ≤ limit := by
  unfold pruneTable
  dsimp only
  generalize m.retain (fun _ record => decide (now - updatedAt record < ttl)) = fresh
  split
  · have hperm : (oldestEntries limit updatedAt fresh ++
        (fresh.entries.insertionSort fun a b => updatedAt a.2 ≤ updatedAt b.2).drop
          (fresh.size - limit)).Perm fresh.entries := by
      unfold oldestEntries
      rw [take_append_drop]
      exact perm_insertionSort _ _
    have hk := @SortedLists.length_filter_keys_le _ _ _ _ _ _ Prod.fst hperm fresh.nodup_entries
    rw [length_drop, (perm_insertionSort _ _).length_eq] at hk
    have hsize : fresh.size = fresh.entries.length := rfl
    exact hk.trans (by omega)
  · next hnot => exact not_lt.mp hnot

def ofDigest (state : HistoryState) (digest : String) : List (String × RepresentationRecord) :=
  state.representations.entries.filter fun entry => entry.2.digest = digest

theorem length_ofDigest_pruneRepresentationTopK :
    (ofDigest (pruneRepresentationTopK state digest) digest).length ≤
      maxOriginsPerRepresentation := by
  have hperm : (outdatedOrigins state.representations digest ++
      ((ofDigest state digest).insertionSort NewerFirst).take maxOriginsPerRepresentation).Perm
        (ofDigest state digest) := by
    apply perm_append_comm.trans
    unfold outdatedOrigins ofDigest
    rw [take_append_drop]
    exact perm_insertionSort _ _
  have hk := @SortedLists.length_filter_keys_le _ _ _ _ _ _ Prod.fst hperm
    (state.representations.nodup_entries.filter _)
  rw [length_take] at hk
  have hs : ofDigest (pruneRepresentationTopK state digest) digest =
      (ofDigest state digest).filter fun entry =>
        decide (entry.1 ∉ (outdatedOrigins state.representations digest).map Prod.fst) :=
    filter_comm _ _ _
  rw [hs]
  exact hk.trans (Nat.min_le_left _ _)

theorem pruneRepresentationTopK_eq_self
    (h : (ofDigest state digest).length ≤ maxOriginsPerRepresentation) :
    pruneRepresentationTopK state digest = state := by
  have hn : outdatedOrigins state.representations digest = [] := by
    apply drop_eq_nil_of_le
    rw [(perm_insertionSort _ _).length_eq]
    exact h
  have hk : (state.representations.retain fun key _ =>
      decide (key ∉ (outdatedOrigins state.representations digest).map Prod.fst)) =
      state.representations := by
    apply retain_eq_self
    intro entry _
    rw [hn]
    exact decide_eq_true (not_mem_nil)
  unfold pruneRepresentationTopK
  rw [hk]

section Parsed

variable [OriginParser]

structure Recorded (state : HistoryState) : Prop where
  version : state.version = historyVersion
  hosts : ∀ entry ∈ state.hosts.entries, ∃ url, canonicalOrigin url = some entry.1
  representations : ∀ entry ∈ state.representations.entries,
    entry.1 = representationMapKey entry.2.digest entry.2.origin ∧
      isSha256Hex entry.2.digest = true ∧ ∃ url, canonicalOrigin url = some entry.2.origin
  origins : ∀ digest, (ofDigest state digest).length ≤ maxOriginsPerRepresentation

structure RecordedWithin (state : HistoryState) : Prop extends Recorded state where
  fewHosts : state.hosts.size ≤ maxHosts
  fewRepresentations : state.representations.size ≤ maxRepresentations

theorem RecordedWithin.default : RecordedWithin HistoryState.default where
  version := rfl
  fewHosts := by decide
  fewRepresentations := by decide
  hosts := fun entry h => by cases h
  representations := fun entry h => by cases h
  origins := fun digest => Nat.zero_le _

theorem Recorded.pruned (h : Recorded state) (now : Nat) : RecordedWithin (prune state now) where
  version := h.version
  fewHosts := size_pruneTable_le
  fewRepresentations := size_pruneTable_le
  hosts := fun entry he => h.hosts entry (pruneTable_sublist.mem he)
  representations := fun entry he =>
    h.representations entry (pruneTable_sublist.mem he)
  origins := fun digest => ((pruneTable_sublist.filter _).length_le).trans (h.origins digest)

variable {url : String}

theorem Recorded.opened (h : Recorded state) (horigin : canonicalOrigin url = some origin) :
    Recorded (opened origin observation now state) := by
  have hprun := (h.pruned now).toRecorded
  unfold Cdn.opened recordHost
  split
  · exact {
      version := hprun.version
      hosts := fun entry he => by
        rcases mem_upsertFrom he with heq | hin
        · exact ⟨url, heq ▸ horigin⟩
        · exact hprun.hosts entry hin
      representations := hprun.representations
      origins := hprun.origins }
  · exact { hprun with }

omit [OriginParser] in
theorem isSha256Hex_representationDigest {request : Hls.BilibiliMediaRequest}
    (h : representationDigest request = some digest) : isSha256Hex digest = true := by
  unfold representationDigest at h
  split at h
  · cases h
  · cases h
    exact RangeCache.isSha256Hex_sha256Hex _

omit [OriginParser] in
theorem length_of_isSha256Hex (h : isSha256Hex digest = true) : digest.toList.length = 64 := by
  unfold isSha256Hex at h
  rw [Bool.and_eq_true, decide_eq_true_eq] at h
  have hsize : ∀ c ∈ digest.toList, c.utf8Size = 1 := by
    intro c hc
    have hdigit := List.all_eq_true.mp h.2 c hc
    unfold RangeCache.isAsciiHexdigit at hdigit
    rw [Char.utf8Size_eq_one_iff]
    simp only [Bool.or_eq_true, Bool.and_eq_true, decide_eq_true_eq] at hdigit
    rcases hdigit with (⟨_, hc⟩ | ⟨_, hc⟩) | ⟨_, hc⟩
    · exact UInt32.le_trans hc (by decide)
    · exact UInt32.le_trans hc (by decide)
    · exact UInt32.le_trans hc (by decide)
  have hbytes := Sha256.utf8ByteSize_ofList hsize
  rw [String.ofList_toList] at hbytes
  omega

theorem Recorded.keyed (h : Recorded state) : state.Keyed := by
  intro entry he
  have hrec := h.representations entry he
  exact ⟨hrec.1, length_of_isSha256Hex hrec.2.1⟩

theorem Recorded.recordRepresentation (h : Recorded state)
    (horigin : canonicalOrigin url = some origin) (hdig : isSha256Hex digest = true) :
    Recorded (recordRepresentation digest origin observation now state) := by
  rw [recordRepresentation_eq]
  split
  · have hlen := length_of_isSha256Hex hdig
    have hkeyed : ∀ entry ∈ (upserted digest origin observation now state).representations.entries,
        _ := keyed_upserted h.keyed hlen
    have hcs : ∀ entry ∈ (upserted digest origin observation now state).representations.entries,
        entry.1 = representationMapKey digest origin ∨ entry ∈ state.representations.entries :=
      fun entry he => mem_upsertFrom he
    have hrecords : ∀ entry ∈
        (upserted digest origin observation now state).representations.entries,
        entry.1 = representationMapKey entry.2.digest entry.2.origin ∧
          isSha256Hex entry.2.digest = true ∧ ∃ url, canonicalOrigin url = some entry.2.origin := by
      intro entry he
      rcases hcs entry he with heq | hin
      · have hk := (hkeyed entry he).1
        have hof := (hkeyed entry he).2 heq
        have hs := representationMapKey_inj hk.2 hlen (hk.1.symm.trans heq)
        exact ⟨hk.1, hof ▸ hdig, url, hs.2 ▸ horigin⟩
      · exact h.representations entry hin
    have hsub : ∀ entry ∈ (pruneRepresentationTopK
        (upserted digest origin observation now state) digest).representations.entries,
        entry ∈ (upserted digest origin observation now state).representations.entries :=
      fun entry he => (SortedMap.mem_retain.mp he).1
    exact {
      version := h.version
      hosts := h.hosts
      representations := fun entry he => hrecords entry (hsub entry he)
      origins := fun name => by
        by_cases heq : name = digest
        · exact heq ▸ length_ofDigest_pruneRepresentationTopK
        -- Records of other digests are only lost.
        apply le_trans _ (h.origins name)
        apply List.Subperm.length_le
        apply subperm_of_subset ((nodup_entries _).filter _)
        intro entry he
        obtain ⟨hin, hof⟩ := mem_filter.mp he
        apply mem_filter.mpr
        refine ⟨?_, hof⟩
        rcases hcs entry (hsub entry hin) with hk | hold
        · have hdig := (hkeyed entry (hsub entry hin)).2 hk
          exact absurd ((of_decide_eq_true hof).symm.trans hdig) heq
        · exact hold }
  · exact h

theorem RecordedWithin.step (h : RecordedWithin state) (step : HistoryStep) :
    RecordedWithin (step.apply now state) := by
  have hrecordAt : ∀ url observation digest, (∀ name, digest = some name →
      isSha256Hex name = true) → RecordedWithin (recordAt url observation digest now state) := by
    intro url observation digest hdig
    cases horigin : canonicalOrigin url with
    | none =>
      rw [recordAt_of_none horigin]
      exact h
    | some origin =>
      rw [recordAt_of_origin horigin]
      have hopened : Recorded (Cdn.opened origin observation now state) :=
        h.toRecorded.opened horigin
      cases digest with
      | none => exact hopened.pruned now
      | some name => exact (hopened.recordRepresentation horigin (hdig name rfl)).pruned now
  cases step with
  | record request url observation =>
    exact hrecordAt url observation _ fun name hname => isSha256Hex_representationDigest hname
  | recordOrigin url observation =>
    exact hrecordAt url observation none fun name hname => nomatch hname
  | rank request => exact h.toRecorded.pruned now

theorem RecordedWithin.run (h : RecordedWithin state) (steps : List TimedStep) :
    RecordedWithin (runHistory state steps) := by
  induction steps generalizing state with
  | nil => exact h
  | cons timed rest ih => exact ih (h.step timed.step)

/-- Every run of records and rankings keeps the history within its limits, under the keys of its
records. -/
theorem history_stays_within_limits (steps : List TimedStep) :
    let state := runHistory .default steps
    state.hosts.size ≤ maxHosts ∧ state.representations.size ≤ maxRepresentations ∧
    (∀ digest, (ofDigest state digest).length ≤ maxOriginsPerRepresentation) ∧
    ∀ entry ∈ state.representations.entries,
      entry.1 = representationMapKey entry.2.digest entry.2.origin ∧
        isSha256Hex entry.2.digest = true := by
  have h := RecordedWithin.default.run steps
  exact ⟨h.fewHosts, h.fewRepresentations, h.origins, fun entry hentry =>
    ⟨(h.representations entry hentry).1, (h.representations entry hentry).2.1⟩⟩

def OriginsReparse : Prop :=
  ∀ value parsed, OriginParser.parse value = some parsed →
    parsed.scheme = "http" ∨ parsed.scheme = "https" → parsed.hasHost = true →
    OriginParser.parse parsed.asciiOrigin = some { parsed with username := "", password := none }

theorem canonicalOrigin_idempotent (horigs : OriginsReparse)
    (h : canonicalOrigin url = some origin) :
    canonicalOrigin origin = some origin ↔ origin.utf8ByteSize ≤ maxOriginUrlBytes := by
  unfold canonicalOrigin at h
  split at h
  · cases h
  cases hparse : OriginParser.parse url with
  | none =>
    rw [hparse] at h
    cases h
  | some parsed =>
    rw [hparse, bind_eq_bind, bind_some] at h
    split at h
    · cases h
    next hnot =>
      cases h
      rw [not_or, not_or, not_or, Bool.not_eq_false] at hnot
      have hscheme : parsed.scheme = "http" ∨ parsed.scheme = "https" := by
        by_contra ho
        exact hnot.1 (not_or.mp ho)
      have hagain := horigs url parsed hparse hscheme hnot.2.1
      have hfine : ¬ ((parsed.scheme ≠ "http" ∧ parsed.scheme ≠ "https") ∨
          parsed.hasHost = false ∨ "" ≠ "" ∨ (none : Option String).isSome) := by
        rintro (hbad | hbad | hbad | hbad)
        · exact hnot.1 hbad
        · rw [hnot.2.1] at hbad
          cases hbad
        · exact hbad rfl
        · cases hbad
      unfold canonicalOrigin
      split
      · next hlong =>
          constructor
          · intro heq
            cases heq
          · intro hle
            exact absurd hle (not_le.mpr hlong)
      · next hshort =>
          rw [hagain, bind_eq_bind, bind_some, if_neg hfine]
          exact ⟨fun _ => not_lt.mp hshort, fun _ => rfl⟩

omit [OriginParser] in
theorem foldl_pruneRepresentationTopK
    (h : ∀ digest, (ofDigest state digest).length ≤ maxOriginsPerRepresentation)
    (digests : List String) : digests.foldl pruneRepresentationTopK state = state := by
  induction digests with
  | nil => rfl
  | cons digest rest ih =>
    rw [foldl_cons, pruneRepresentationTopK_eq_self (h digest)]
    exact ih

def HostLoadable (origin : String) (record : HostRecord) : Prop :=
  origin.utf8ByteSize ≤ maxHostOriginBytes ∧ record.failures ≤ maxHostFailures ∧
    cooldownBounded record.updatedAt record.cooldownUntil = true

def RepresentationLoadable (record : RepresentationRecord) : Prop :=
  record.origin.utf8ByteSize ≤ maxOriginUrlBytes ∧
    cooldownBounded record.updatedAt record.cooldownUntil = true ∧
    quarantineBounded record.updatedAt record.quarantinedUntil = true

theorem host_loadable_iff (horigs : OriginsReparse) (h : Recorded state)
    {entry : String × HostRecord} (he : entry ∈ state.hosts.entries) :
    (validHost entry.1 entry.2 && smallHost entry.1 entry.2) = true ↔
      HostLoadable entry.1 entry.2 := by
  obtain ⟨url, hurl⟩ := h.hosts entry he
  unfold validHost smallHost HostLoadable
  simp only [Bool.and_eq_true, decide_eq_true_eq, canonicalOrigin_idempotent horigs hurl]
  have hbounds : maxHostOriginBytes ≤ maxOriginUrlBytes := by decide
  constructor
  · rintro ⟨⟨_, hcooldown⟩, hsize, hfailures⟩
    exact ⟨hsize, hfailures, hcooldown⟩
  · rintro ⟨hsize, hfailures, hcooldown⟩
    exact ⟨⟨hsize.trans hbounds, hcooldown⟩, hsize, hfailures⟩

theorem representation_loadable_iff (horigs : OriginsReparse) (h : Recorded state)
    {entry : String × RepresentationRecord}
    (he : entry ∈ state.representations.entries) :
    validRepresentation entry.1 entry.2 = true ↔ RepresentationLoadable entry.2 := by
  obtain ⟨hk, hdig, url, hurl⟩ := h.representations entry he
  unfold validRepresentation RepresentationLoadable
  simp only [Bool.and_eq_true, decide_eq_true_eq, canonicalOrigin_idempotent horigs hurl]
  constructor
  · rintro ⟨⟨⟨_, hsize⟩, hcooldown⟩, hquarantine⟩
    exact ⟨hsize, hcooldown, hquarantine⟩
  · rintro ⟨hsize, hcooldown, hquarantine⟩
    exact ⟨⟨⟨⟨hk, hdig⟩, hsize⟩, hcooldown⟩, hquarantine⟩

theorem validateLoadedState_eq (h : Recorded state) :
    validateLoadedState state =
      { state with
        hosts := (state.hosts.retain validHost).retain smallHost
        representations := state.representations.retain validRepresentation } := by
  have hfew : ∀ digest, (ofDigest
      { state with
        hosts := state.hosts.retain validHost
        representations := state.representations.retain validRepresentation } digest).length ≤
      maxOriginsPerRepresentation := fun digest =>
    ((filter_sublist.filter _).length_le).trans (h.origins digest)
  unfold validateLoadedState
  dsimp only
  rw [foldl_pruneRepresentationTopK hfew]

omit [OriginParser] in
theorem pruneTable_of_small {ν : Type} {ttl limit : Nat} {updatedAt : ν → Nat}
    {m : SortedMap String ν} (h : m.size ≤ limit) :
    pruneTable ttl limit updatedAt now m =
      m.retain fun _ record => decide (now - updatedAt record < ttl) := by
  exact if_neg (not_lt.mpr (size_retain_le.trans h))

theorem prune_validateLoadedState (horigs : OriginsReparse) (h : RecordedWithin state) :
    prune (validateLoadedState state) now = prune state now ↔
      (∀ entry ∈ (prune state now).hosts.entries, HostLoadable entry.1 entry.2) ∧
        ∀ entry ∈ (prune state now).representations.entries, RepresentationLoadable entry.2 := by
  have hhosts := @pruneTable_of_small now _ hostTtlSecs _ HostRecord.updatedAt _ h.fewHosts
  have hvalidHosts := @pruneTable_of_small now _ hostTtlSecs _ HostRecord.updatedAt _
    ((@SortedMap.size_retain_le _ _ _ _ fun origin record =>
      validHost origin record && smallHost origin record).trans h.fewHosts)
  have hrepresentations := @pruneTable_of_small now _ representationTtlSecs _
    RepresentationRecord.updatedAt _ h.fewRepresentations
  have hvalidRepresentations := @pruneTable_of_small now _ representationTtlSecs _
    RepresentationRecord.updatedAt _
    ((@SortedMap.size_retain_le _ _ _ _ validRepresentation).trans h.fewRepresentations)
  have htwice : (state.hosts.retain validHost).retain smallHost =
      state.hosts.retain fun origin record => validHost origin record && smallHost origin record :=
    ext_entries (by
      show List.filter _ (List.filter _ _) = List.filter _ _
      rw [List.filter_filter]
      exact filter_congr fun entry _ => Bool.and_comm _ _)
  rw [validateLoadedState_eq h.toRecorded]
  unfold prune
  rw [HistoryState.mk.injEq]
  simp only [true_and]
  rw [htwice, hvalidHosts, hhosts, hvalidRepresentations, hrepresentations,
    retain_retain_eq_iff, retain_retain_eq_iff]
  constructor
  · rintro ⟨hhost, hrepr⟩
    constructor
    · intro entry he
      exact (host_loadable_iff horigs h.toRecorded (SortedMap.mem_retain.mp he).1).mp
        (hhost entry he)
    · intro entry he
      exact (representation_loadable_iff horigs h.toRecorded
        (SortedMap.mem_retain.mp he).1).mp (hrepr entry he)
  · rintro ⟨hhost, hrepr⟩
    constructor
    · intro entry he
      exact (host_loadable_iff horigs h.toRecorded (SortedMap.mem_retain.mp he).1).mpr
        (hhost entry he)
    · intro entry he
      exact (representation_loadable_iff horigs h.toRecorded
        (SortedMap.mem_retain.mp he).1).mpr (hrepr entry he)

/-- A history that outcomes lead to is written and loaded back, at `now`, up to the pruning
exactly when its file is small enough and what the pruning keeps is within the loader's bounds. -/
theorem history_round_trip_iff [HistoryJson] (horigins : OriginsReparse)
    {steps : List TimedStep} {now : Nat}
    (hjson : HistoryJson.parse (historyJson (runHistory .default steps)) =
      some (runHistory .default steps)) :
    (persistState (runHistory .default steps)).bind (readState now) =
        some (prune (runHistory .default steps) now) ↔
      (historyJson (runHistory .default steps)).length ≤ maxFileBytes ∧
        (∀ entry ∈ (prune (runHistory .default steps) now).hosts.entries,
          HostLoadable entry.1 entry.2) ∧
        ∀ entry ∈ (prune (runHistory .default steps) now).representations.entries,
          RepresentationLoadable entry.2 := by
  have hrecorded := RecordedWithin.default.run steps
  generalize runHistory .default steps = state at hrecorded hjson ⊢
  rw [← prune_validateLoadedState horigins hrecorded]
  unfold persistState
  by_cases hsize : maxFileBytes < (historyJson state).length
  · rw [if_pos hsize, bind_none]
    constructor
    · intro h
      cases h
    · intro h
      exact absurd h.1 (not_le.mpr hsize)
  · rw [if_neg hsize, bind_some]
    unfold readState
    rw [if_neg hsize, hjson, bind_eq_bind, bind_some,
      if_neg (fun hversion => hversion hrecorded.version), some.injEq]
    exact ⟨fun h => ⟨not_lt.mp hsize, h⟩, fun h => h.2⟩

end Parsed

section Literal

local instance fileOrigins : OriginParser := literalOrigins

@[reducible] def savedJson (state : HistoryState) : HistoryJson :=
  ⟨fun bytes => if bytes = historyJson state then some state else none⟩

theorem originsReparse_literal : OriginsReparse := by
  intro value parsed h hscheme hhost
  cases h
  rfl

def completedOnce (url : String) : List TimedStep :=
  [⟨1000, .recordOrigin url (outcomeOnly .complete)⟩]

theorem history_round_trip_iff_short :
    letI := savedJson (runHistory .default (completedOnce "https://a"))
    (persistState (runHistory .default (completedOnce "https://a"))).bind (readState 1000) =
      some (prune (runHistory .default (completedOnce "https://a")) 1000) := by
  have hsize : (historyJson (runHistory .default (completedOnce "https://a"))).length ≤
      maxFileBytes := by
    decide +kernel
  have hhosts : ∀ entry ∈ (prune (runHistory .default (completedOnce "https://a"))
      1000).hosts.entries, entry.1.utf8ByteSize ≤ maxHostOriginBytes ∧
        entry.2.failures ≤ maxHostFailures ∧
        cooldownBounded entry.2.updatedAt entry.2.cooldownUntil = true := by
    decide +kernel
  have hrepresentations : (prune (runHistory .default (completedOnce "https://a"))
      1000).representations.entries = [] := by
    decide +kernel
  refine (@history_round_trip_iff _ (savedJson _) originsReparse_literal (completedOnce "https://a")
    1000 (if_pos rfl)).mpr ⟨hsize, hhosts, ?_⟩
  rw [hrepresentations]
  intro entry hentry
  cases hentry

def longHost : String := "https://" ++ String.ofList (List.replicate 520 'a')

/-- The file of one outcome at a long host is accepted, and its record is not. -/
theorem long_host_not_loaded :
    letI := savedJson (runHistory .default (completedOnce longHost))
    (historyJson (runHistory .default (completedOnce longHost))).length ≤ maxFileBytes ∧
      (persistState (runHistory .default (completedOnce longHost))).bind (readState 1000) ≠
        some (prune (runHistory .default (completedOnce longHost)) 1000) := by
  decide +kernel

end Literal

end NetPlayer.Cdn
