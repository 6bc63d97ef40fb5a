import Mathlib.Data.Finset.Card
import NetPlayer.Cdn.History
import NetPlayer.Library.SortedLists

/-!
# How long a quarantine is remembered

The record of a candidate whose bytes were wrong carries its quarantine. It leaves
the history only as too old or as one of too many, and neither happens while few
other records are newer.
-/

namespace NetPlayer.Cdn

open List Finset RepresentationRecord SortedLists

open Hls (BilibiliMediaRequest)
open SortedMap

def HistoryState.Keyed (state : HistoryState) : Prop :=
  ∀ entry ∈ state.representations.entries,
    entry.1 = representationMapKey entry.2.digest entry.2.origin ∧
      entry.2.digest.toList.length = 64

theorem representationMapKey_inj {digest digest' origin origin' : String}
    (h : digest.toList.length = 64) (h' : digest'.toList.length = 64)
    (heq : representationMapKey digest origin = representationMapKey digest' origin') :
    digest = digest' ∧ origin = origin' := by
  have hlists := congrArg String.toList heq
  unfold representationMapKey at hlists
  simp only [String.toList_append] at hlists
  rw [append_assoc, append_assoc] at hlists
  have hparts := append_inj hlists (h.trans h'.symm)
  have hr := append_cancel_left hparts.2
  exact ⟨String.toList_injective hparts.1, String.toList_injective hr⟩

theorem length_representationDigest {request : BilibiliMediaRequest} {digest : String}
    (h : representationDigest request = some digest) : digest.toList.length = 64 := by
  unfold representationDigest at h
  split at h
  · cases h
  cases h
  unfold RangeCache.sha256Hex Sha256.hexDigest
  rw [String.toList_ofList]
  exact Sha256.length_hexDigits _

theorem Keyed.default : HistoryState.default.Keyed := by
  intro entry h
  cases h

variable {state : HistoryState} {key digest origin : String} {record : RepresentationRecord}

theorem length_le_card {entries : List (String × RepresentationRecord)} {keys : Finset String}
    (hnodup : (entries.map Prod.fst).Nodup) (h : ∀ entry ∈ entries, entry.1 ∈ keys) :
    entries.length ≤ keys.card := by
  rw [← length_map Prod.fst, ← toFinset_card_of_nodup hnodup]
  apply card_le_card
  intro name hname
  obtain ⟨entry, hentry, rfl⟩ := List.mem_map.mp (mem_toFinset.mp hname)
  exact h entry hentry

variable {m : SortedMap String RepresentationRecord}

theorem entry_eq_of_key {entry : String × RepresentationRecord} (hentry : entry ∈ m.entries)
    (hm : (key, record) ∈ m.entries) (h : entry.1 = key) : entry = (key, record) := by
  cases entry with
  | mk name value =>
    cases h
    rw [value_unique hentry hm]

theorem nodup_filter_keys (m : SortedMap String RepresentationRecord)
    (keep : String × RepresentationRecord → Bool) : ((m.entries.filter keep).map Prod.fst).Nodup :=
  m.nodup_keys.sublist (filter_sublist.map _)

instance : Std.Total NewerFirst := ⟨fun a b => by unfold NewerFirst; omega⟩

instance : IsTrans (String × RepresentationRecord) NewerFirst :=
  ⟨fun a b c hab hbc => by unfold NewerFirst at *; omega⟩

theorem mem_pruneRepresentationTopK_of_not_outdated
    (hm : (key, record) ∈ state.representations.entries)
    (h : (key, record) ∉ outdatedOrigins state.representations digest) :
    (key, record) ∈ (pruneRepresentationTopK state digest).representations.entries := by
  apply SortedMap.mem_retain.mpr
  refine ⟨hm, decide_eq_true fun hkey => ?_⟩
  obtain ⟨entry, hentry, heq⟩ := List.mem_map.mp hkey
  have hin := List.mem_filter.mp
    ((mem_insertionSort NewerFirst).mp (mem_of_mem_drop hentry))
  exact h (entry_eq_of_key hin.1 hm heq ▸ hentry)

theorem mem_pruneRepresentationTopK {rivals : Finset String}
    (hm : (key, record) ∈ state.representations.entries)
    (hrivals : ∀ entry ∈ state.representations.entries, entry.1 ≠ key →
      entry.2.digest = record.digest → NewerFirst entry (key, record) → entry.1 ∈ rivals)
    (hcard : rivals.card < maxOriginsPerRepresentation) :
    (key, record) ∈ (pruneRepresentationTopK state digest).representations.entries := by
  apply mem_pruneRepresentationTopK_of_not_outdated hm
  intro houtdated
  let candidates := state.representations.entries.filter fun entry =>
    decide (entry.2.digest = digest)
  have hnodup : candidates.Nodup := state.representations.nodup_entries.filter _
  have hdigest : record.digest = digest := by
    have hin := List.mem_filter.mp
      ((mem_insertionSort NewerFirst).mp (mem_of_mem_drop houtdated))
    exact of_decide_eq_true hin.2
  have hc := count_le_of_mem_drop hnodup houtdated
  have hle : (candidates.filter fun entry =>
      NewerFirst entry (key, record) ∧ entry ≠ (key, record)).length ≤ rivals.card := by
    apply length_le_card
    · exact (nodup_filter_keys state.representations _).sublist (filter_sublist.map _)
    · intro entry hentry
      obtain ⟨hcand, hnewer⟩ := List.mem_filter.mp hentry
      obtain ⟨hin, hof⟩ := List.mem_filter.mp hcand
      have hnewer := of_decide_eq_true hnewer
      have hkey : entry.1 ≠ key := fun heq => hnewer.2 (entry_eq_of_key hin hm heq)
      exact hrivals entry hin hkey ((of_decide_eq_true hof).trans hdigest.symm) hnewer.1
  omega

theorem mem_of_mem_pruneTable {ν : Type} {ttl limit now : Nat} {updatedAt : ν → Nat}
    {m : SortedMap String ν} {entry : String × ν}
    (h : entry ∈ (pruneTable ttl limit updatedAt now m).entries) : entry ∈ m.entries := by
  unfold pruneTable at h
  dsimp only at h
  split at h
  · exact (SortedMap.mem_retain.mp (SortedMap.mem_retain.mp h).1).1
  · exact (SortedMap.mem_retain.mp h).1

theorem mem_pruneTable {ttl limit now : Nat} {others : Finset String}
    (hm : (key, record) ∈ m.entries) (hfr : now - record.updatedAt < ttl)
    (hothers : ∀ entry ∈ m.entries, entry.1 ≠ key → record.updatedAt ≤ entry.2.updatedAt →
      entry.1 ∈ others) (hcard : others.card < limit) :
    (key, record) ∈ (pruneTable ttl limit RepresentationRecord.updatedAt now m).entries := by
  have hk : (key, record) ∈
      (m.retain fun _ record => decide (now - record.updatedAt < ttl)).entries :=
    SortedMap.mem_retain.mpr ⟨hm, decide_eq_true hfr⟩
  unfold pruneTable
  dsimp only
  split
  · next hlarge =>
      apply SortedMap.mem_retain.mpr
      refine ⟨hk, decide_eq_true fun hkey => ?_⟩
      let fresh := m.retain fun _ record => decide (now - record.updatedAt < ttl)
      obtain ⟨entry, hentry, heq⟩ := List.mem_map.mp hkey
      have hin : entry ∈ fresh.entries :=
        (mem_insertionSort _).mp (mem_of_mem_take hentry)
      rw [entry_eq_of_key hin hk heq] at hentry
      have : IsTrans (String × RepresentationRecord)
          fun a b => a.2.updatedAt ≤ b.2.updatedAt := ⟨fun _ _ _ => le_trans⟩
      have : Std.Total fun a b : String × RepresentationRecord =>
          a.2.updatedAt ≤ b.2.updatedAt := ⟨fun _ _ => Nat.le_total _ _⟩
      have hc := count_le_of_mem_take fresh.nodup_entries hentry
      have hle : (fresh.entries.filter fun entry =>
          record.updatedAt ≤ entry.2.updatedAt ∧ entry ≠ (key, record)).length ≤ others.card := by
        apply length_le_card (nodup_filter_keys fresh _)
        intro entry hentry
        obtain ⟨hfr, hnewer⟩ := List.mem_filter.mp hentry
        have hnewer := of_decide_eq_true hnewer
        have hkey : entry.1 ≠ key := fun heq => hnewer.2 (entry_eq_of_key hfr hk heq)
        exact hothers entry (SortedMap.mem_retain.mp hfr).1 hkey hnewer.1
      have hsize : limit < fresh.entries.length := hlarge
      have hc : fresh.entries.length - (fresh.entries.length - limit) ≤ _ := hc
      have hc := hc.trans hle
      omega
  · exact hk

/-- The record under `key` holds its quarantine, and few records can push it out. -/
structure Held (key digest : String) (start stop time : Nat) (rivals others : Finset String)
    (state : HistoryState) (record : RepresentationRecord) : Prop where
  found : (key, record) ∈ state.representations.entries
  ofDigest : record.digest = digest
  quarantined : ∃ last, record.quarantinedUntil = some last ∧ stop ≤ last
  since : start ≤ record.updatedAt
  dated : record.updatedAt ≤ time
  counted : record.eventSequence ≤ state.sequence
  bounded : state.sequence ≤ u64Max
  keyed : state.Keyed
  newer : ∀ entry ∈ state.representations.entries, entry.1 ≠ key → entry.2.digest = digest →
    NewerFirst entry (key, record) → entry.1 ∈ rivals
  later : ∀ entry ∈ state.representations.entries, entry.1 ≠ key →
    record.updatedAt ≤ entry.2.updatedAt → entry.1 ∈ others

variable {start stop time now : Nat} {rivals others : Finset String}
  (h : Held key digest start stop time rivals others state record)

include h

theorem Held.mono_time (hle : time ≤ now) :
    Held key digest start stop now rivals others state record :=
  { h with dated := h.dated.trans hle }

theorem Held.of_subset {state' : HistoryState} (hseq : state.sequence ≤ state'.sequence)
    (hbdd : state'.sequence ≤ u64Max)
    (hsub : ∀ entry ∈ state'.representations.entries, entry ∈ state.representations.entries)
    (hf : (key, record) ∈ state'.representations.entries) :
    Held key digest start stop time rivals others state' record where
  found := hf
  ofDigest := h.ofDigest
  quarantined := h.quarantined
  since := h.since
  dated := h.dated
  counted := h.counted.trans hseq
  bounded := hbdd
  keyed := fun entry hentry => h.keyed entry (hsub entry hentry)
  newer := fun entry hentry => h.newer entry (hsub entry hentry)
  later := fun entry hentry => h.later entry (hsub entry hentry)

theorem Held.prunedTopK (hrivals : rivals.card < maxOriginsPerRepresentation) (name : String) :
    Held key digest start stop time rivals others (pruneRepresentationTopK state name) record := by
  apply @Held.of_subset _ _ _ _ _ _ _ _ _ h (pruneRepresentationTopK state name)
    le_rfl h.bounded
  · intro entry hentry
    exact (SortedMap.mem_retain.mp hentry).1
  · apply mem_pruneRepresentationTopK h.found _ hrivals
    intro entry hentry hkey hdigest hnewer
    exact h.newer entry hentry hkey (hdigest.trans h.ofDigest) hnewer

theorem Held.pruned (hothers : others.card < maxRepresentations)
    (hnow : now < start + representationTtlSecs) :
    Held key digest start stop time rivals others (prune state now) record := by
  apply @Held.of_subset _ _ _ _ _ _ _ _ _ h (prune state now) le_rfl h.bounded
  · intro entry hentry
    exact mem_of_mem_pruneTable hentry
  · have hsince := h.since
    have hpos : 0 < representationTtlSecs := by decide
    exact mem_pruneTable h.found (by omega) h.later hothers

omit h

theorem keyed_upsert {update : Option RepresentationRecord → RepresentationRecord}
    {representations : SortedMap String RepresentationRecord}
    (hkeyed : ∀ entry ∈ representations.entries,
      entry.1 = representationMapKey entry.2.digest entry.2.origin ∧
        entry.2.digest.toList.length = 64)
    (hdigest : digest.toList.length = 64)
    (hn : (update none).digest = digest ∧ (update none).origin = origin)
    (hs : ∀ found, (update (some found)).digest = found.digest ∧
      (update (some found)).origin = found.origin) :
    ∀ entry ∈ (representations.upsert (representationMapKey digest origin) update).entries,
      (entry.1 = representationMapKey entry.2.digest entry.2.origin ∧
        entry.2.digest.toList.length = 64) ∧
      (entry.1 = representationMapKey digest origin → entry.2.digest = digest) := by
  intro entry hentry
  by_cases hkey : entry.1 = representationMapKey digest origin
  · have hentry' : (representationMapKey digest origin, entry.2) ∈
        (representations.upsert (representationMapKey digest origin) update).entries := by
      rw [← hkey] at hentry ⊢
      exact hentry
    have hl := lookup_eq_some.mpr hentry'
    rw [lookup_upsert_self] at hl
    have hvalue := Option.some.inj hl
    cases hf : representations.lookup (representationMapKey digest origin) with
    | none =>
      rw [hf] at hvalue
      rw [hkey, ← hvalue, hn.1, hn.2]
      exact ⟨⟨rfl, hdigest⟩, fun _ => rfl⟩
    | some found =>
      rw [hf] at hvalue
      have hold := hkeyed _ (lookup_eq_some.mp hf)
      rw [hkey, ← hvalue, (hs found).1, (hs found).2]
      exact ⟨hold, fun _ => (representationMapKey_inj hdigest hold.2 hold.1).1.symm⟩
  · have hin : entry ∈ representations.entries := by
      rcases mem_upsertFrom hentry with heq | hm
      · exact absurd heq hkey
      · exact hm
    exact ⟨hkeyed entry hin, fun heq => absurd heq hkey⟩

variable {observation : CdnObservation} {seq : Nat}

def updatedRecord (digest origin : String) (observation : CdnObservation) (now seq : Nat)
    (found : Option RepresentationRecord) : RepresentationRecord :=
  updateRepresentation (found.getD (newRepresentation digest origin observation.outcome now seq))
    observation now seq observation.outcome.transportFailure
    (observation.outcome = .integrityMismatch)

theorem updateRepresentation_identity {entry : RepresentationRecord} {failure mismatch : Bool} :
    (updateRepresentation entry observation now seq failure mismatch).digest = entry.digest ∧
    (updateRepresentation entry observation now seq failure mismatch).origin = entry.origin ∧
    (updateRepresentation entry observation now seq failure mismatch).updatedAt = now ∧
    (updateRepresentation entry observation now seq failure mismatch).eventSequence = seq := by
  unfold updateRepresentation
  cases mismatch
  · cases failure
    · dsimp only
      split
      · exact ⟨rfl, rfl, rfl, rfl⟩
      · split
        · exact ⟨rfl, rfl, rfl, rfl⟩
        · exact ⟨rfl, rfl, rfl, rfl⟩
    · exact ⟨rfl, rfl, rfl, rfl⟩
  · exact ⟨rfl, rfl, rfl, rfl⟩

theorem quarantinedUntil_updatedRecord {found : Option RepresentationRecord}
    (h : observation.outcome ≠ .complete) :
    (updatedRecord digest origin observation now seq found).quarantinedUntil =
      if observation.outcome = .integrityMismatch then
        some (saturatingAdd now representationTtlSecs)
      else found.bind quarantinedUntil := by
  unfold updatedRecord updateRepresentation
  by_cases hmismatch : observation.outcome = .integrityMismatch
  · simp [hmismatch]
  have hf : (found.getD
      (newRepresentation digest origin observation.outcome now seq)).quarantinedUntil =
      found.bind quarantinedUntil := by
    cases found with
    | none | some entry => rfl
  cases hfailure : observation.outcome.transportFailure
  · simp [hmismatch, h, hf]
  · simp [hmismatch, hf]

def upserted (digest origin : String) (observation : CdnObservation) (now : Nat)
    (state : HistoryState) : HistoryState :=
  { state with
    representations := state.representations.upsert (representationMapKey digest origin)
      (updatedRecord digest origin observation now state.sequence) }

theorem recordRepresentation_eq :
    recordRepresentation digest origin observation now state =
      if observation.outcome.ofRepresentation then
        pruneRepresentationTopK (upserted digest origin observation now state) digest
      else state := rfl

theorem keyed_upserted (hkeyed : state.Keyed) (hdigest : digest.toList.length = 64) :
    ∀ entry ∈ (upserted digest origin observation now state).representations.entries,
      (entry.1 = representationMapKey entry.2.digest entry.2.origin ∧
        entry.2.digest.toList.length = 64) ∧
      (entry.1 = representationMapKey digest origin → entry.2.digest = digest) := by
  apply keyed_upsert hkeyed hdigest
  · exact ⟨updateRepresentation_identity.1, updateRepresentation_identity.2.1⟩
  · intro found
    exact ⟨updateRepresentation_identity.1, updateRepresentation_identity.2.1⟩

include h in
theorem Held.upserted_other {name : String} (hname : name.toList.length = 64)
    (hne : representationMapKey name origin ≠ key)
    (hrivals : name = digest → representationMapKey name origin ∈ rivals)
    (hothers : representationMapKey name origin ∈ others) :
    Held key digest start stop time rivals others (upserted name origin observation now state)
      record := by
  have hkeyed : ∀ entry ∈ (upserted name origin observation now state).representations.entries, _ :=
    keyed_upserted h.keyed hname
  have hcases : ∀ entry ∈ (upserted name origin observation now state).representations.entries,
      entry.1 = representationMapKey name origin ∨ entry ∈ state.representations.entries :=
    fun entry hentry => mem_upsertFrom hentry
  exact {
    found := (upsertFrom_of_ne hne.symm).mpr h.found
    ofDigest := h.ofDigest
    quarantined := h.quarantined
    since := h.since
    dated := h.dated
    counted := h.counted
    bounded := h.bounded
    keyed := fun entry hentry => (hkeyed entry hentry).1
    newer := fun entry hentry hkey hdigest hnewer => by
      rcases hcases entry hentry with heq | hin
      · exact heq ▸ hrivals (((hkeyed entry hentry).2 heq).symm.trans hdigest)
      · exact h.newer entry hin hkey hdigest hnewer
    later := fun entry hentry hkey hlater => by
      rcases hcases entry hentry with heq | hin
      · exact heq ▸ hothers
      · exact h.later entry hin hkey hlater }

theorem Held.of_upserted (hkeyed : state.Keyed) (hdigest : digest.toList.length = 64)
    (hbdd : state.sequence ≤ u64Max) (hs : start ≤ now)
    (hquarantined : ∃ last, (updatedRecord digest origin observation now state.sequence
      (state.representations.lookup (representationMapKey digest origin))).quarantinedUntil =
        some last ∧ stop ≤ last)
    (hnewer : ∀ entry ∈ state.representations.entries,
      entry.1 ≠ representationMapKey digest origin → entry.2.digest = digest →
      now < entry.2.updatedAt ∨
        now = entry.2.updatedAt ∧ state.sequence ≤ entry.2.eventSequence → entry.1 ∈ rivals)
    (hlater : ∀ entry ∈ state.representations.entries,
      entry.1 ≠ representationMapKey digest origin → now ≤ entry.2.updatedAt →
      entry.1 ∈ others) :
    Held (representationMapKey digest origin) digest start stop now rivals others
      (upserted digest origin observation now state)
      (updatedRecord digest origin observation now state.sequence
        (state.representations.lookup (representationMapKey digest origin))) := by
  have hes : ∀ entry ∈ (upserted digest origin observation now state).representations.entries,
      _ := keyed_upserted hkeyed hdigest
  have hf : (representationMapKey digest origin,
      updatedRecord digest origin observation now state.sequence
        (state.representations.lookup (representationMapKey digest origin))) ∈
      (upserted digest origin observation now state).representations.entries :=
    lookup_eq_some.mp lookup_upsert_self
  have hident := @updateRepresentation_identity now observation state.sequence
    ((state.representations.lookup (representationMapKey digest origin)).getD
      (newRepresentation digest origin observation.outcome now state.sequence))
    observation.outcome.transportFailure (observation.outcome = .integrityMismatch)
  have hupd : (updatedRecord digest origin observation now state.sequence
      (state.representations.lookup (representationMapKey digest origin))).updatedAt = now :=
    hident.2.2.1
  have hcounted : (updatedRecord digest origin observation now state.sequence
      (state.representations.lookup (representationMapKey digest origin))).eventSequence =
      state.sequence := hident.2.2.2
  have hcases : ∀ entry ∈ (upserted digest origin observation now state).representations.entries,
      entry.1 ≠ representationMapKey digest origin → entry ∈ state.representations.entries := by
    intro entry hentry hne
    rcases mem_upsertFrom hentry with heq | hin
    · exact absurd heq hne
    · exact hin
  exact {
    found := hf
    ofDigest := (hes _ hf).2 rfl
    quarantined := hquarantined
    since := le_of_le_of_eq hs hupd.symm
    dated := le_of_eq hupd
    counted := le_of_eq hcounted
    bounded := hbdd
    keyed := fun entry hentry => (hes entry hentry).1
    newer := fun entry hentry hkey hof h => by
      unfold NewerFirst at h
      rw [hupd, hcounted] at h
      apply hnewer entry (hcases entry hentry hkey) hkey hof
      omega
    later := fun entry hentry hkey h => by
      rw [hupd] at h
      exact hlater entry (hcases entry hentry hkey) hkey h }

section Parsed

inductive HistoryStep
  | record (request : BilibiliMediaRequest) (url : String) (observation : CdnObservation)
  | recordOrigin (url : String) (observation : CdnObservation)
  | rank (request : BilibiliMediaRequest)

structure TimedStep where
  now : Nat
  step : HistoryStep

variable [OriginParser]

def HistoryStep.apply (now : Nat) (state : HistoryState) : HistoryStep → HistoryState
  | .record request url observation =>
    recordAt url observation (representationDigest request) now state
  | .recordOrigin url observation => recordAt url observation none now state
  | .rank request => (rankRequestAt request now state).2

def runHistory (state : HistoryState) (steps : List TimedStep) : HistoryState :=
  steps.foldl (fun state timed => timed.step.apply timed.now state) state

def HistoryStep.recordedKey : HistoryStep → Option (String × String)
  | .record request url observation =>
    if observation.outcome.ofRepresentation then do
      let digest ← representationDigest request
      let origin ← canonicalOrigin url
      some (digest, representationMapKey digest origin)
    else none
  | .recordOrigin _ _ => none
  | .rank _ => none

def HistoryStep.completes (key : String) (step : HistoryStep) : Prop :=
  match step with
  | .record _ _ observation =>
    observation.outcome = .complete ∧ step.recordedKey.map Prod.snd = some key
  | .recordOrigin _ _ => False
  | .rank _ => False

instance (key : String) : (step : HistoryStep) → Decidable (step.completes key)
  | .record _ _ _ => inferInstanceAs (Decidable (_ ∧ _))
  | .recordOrigin _ _ => inferInstanceAs (Decidable False)
  | .rank _ => inferInstanceAs (Decidable False)

def opened (origin : String) (observation : CdnObservation) (now : Nat) (state : HistoryState) :
    HistoryState :=
  recordHost origin observation now
    { prune state now with sequence := saturatingAdd (prune state now).sequence 1 }

variable {url name other first second : String}

theorem recordAt_of_origin {name : Option String} (h : canonicalOrigin url = some origin) :
    recordAt url observation name now state = recordOrigin origin observation name now state := by
  unfold recordAt
  rw [h]

theorem recordAt_of_none {name : Option String} (h : canonicalOrigin url = none) :
    recordAt url observation name now state = state := by
  unfold recordAt
  rw [h]

omit [OriginParser] in
theorem opened_representations :
    (opened origin observation now state).representations = (prune state now).representations := by
  unfold opened recordHost
  split
  · rfl
  · rfl

omit [OriginParser] in
theorem opened_sequence :
    (opened origin observation now state).sequence = saturatingAdd state.sequence 1 := by
  unfold opened recordHost
  split
  · rfl
  · rfl

omit [OriginParser] in
theorem Held.after_opened (h : Held key digest start stop time rivals others state record)
    (hothers : others.card < maxRepresentations) (hnow : now < start + representationTtlSecs) :
    Held key digest start stop time rivals others (opened name observation now state) record := by
  have hpruned := h.pruned hothers hnow
  have hbdd := h.bounded
  apply hpruned.of_subset
  · rw [opened_sequence]
    show state.sequence ≤ min (state.sequence + 1) u64Max
    omega
  · rw [opened_sequence]
    exact Nat.min_le_right _ _
  · intro entry hentry
    rw [opened_representations] at hentry
    exact hentry
  · rw [opened_representations]
    exact hpruned.found

omit [OriginParser] in
theorem Held.upserted_self
    (h : Held (representationMapKey digest origin) digest start stop time rivals others state
      record)
    (hdigest : digest.toList.length = 64) (hcomplete : observation.outcome ≠ .complete)
    (hle : time ≤ now) (hstop : stop ≤ saturatingAdd start representationTtlSecs) :
    Held (representationMapKey digest origin) digest start stop now rivals others
      (upserted digest origin observation now state)
      (updatedRecord digest origin observation now state.sequence
        (state.representations.lookup (representationMapKey digest origin))) := by
  have hsince := h.since
  have hdated := h.dated
  have hcounted := h.counted
  apply Held.of_upserted h.keyed hdigest h.bounded (by omega)
  · rw [quarantinedUntil_updatedRecord hcomplete]
    split
    · have hlater : start + representationTtlSecs ≤ now + representationTtlSecs :=
        Nat.add_le_add_right (by omega) _
      exact ⟨_, rfl, hstop.trans (min_le_min_right u64Max hlater)⟩
    · rw [lookup_eq_some.mpr h.found]
      exact h.quarantined
  · intro entry hentry hkey hof hnewer
    apply h.newer entry hentry hkey hof
    unfold NewerFirst
    dsimp only
    omega
  · intro entry hentry hkey hlater
    exact h.later entry hentry hkey (by omega)

theorem Held.step (h : Held (representationMapKey digest origin) digest start stop time rivals
      others state record)
    (hdigest : digest.toList.length = 64) (hle : time ≤ now)
    (hnow : now < start + representationTtlSecs)
    (hstop : stop ≤ saturatingAdd start representationTtlSecs)
    (hrivals : rivals.card < maxOriginsPerRepresentation)
    (hothers : others.card < maxRepresentations) {step : HistoryStep}
    (hrecd : ∀ name key, step.recordedKey = some (name, key) →
      key ≠ representationMapKey digest origin → key ∈ others ∧ (name = digest → key ∈ rivals))
    (hcomplete : ¬ step.completes (representationMapKey digest origin)) :
    ∃ record, Held (representationMapKey digest origin) digest start stop now rivals others
      (step.apply now state) record := by
  cases step with
  | rank request => exact ⟨record, (h.pruned hothers hnow).mono_time hle⟩
  | recordOrigin url observation =>
    show ∃ record, Held _ digest start stop now rivals others
      (recordAt url observation none now state) record
    cases horigin : canonicalOrigin url with
    | none =>
      rw [recordAt_of_none horigin]
      exact ⟨record, h.mono_time hle⟩
    | some name =>
      rw [recordAt_of_origin horigin]
      exact ⟨record, ((h.after_opened hothers hnow).pruned hothers hnow).mono_time hle⟩
  | record request url observation =>
    show ∃ record, Held _ digest start stop now rivals others
      (recordAt url observation (representationDigest request) now state) record
    cases horigin : canonicalOrigin url with
    | none =>
      rw [recordAt_of_none horigin]
      exact ⟨record, h.mono_time hle⟩
    | some other =>
      rw [recordAt_of_origin horigin]
      have hopened : Held _ digest start stop time rivals others
          (opened other observation now state) record := h.after_opened hothers hnow
      cases hname : representationDigest request with
      | none => exact ⟨record, (hopened.pruned hothers hnow).mono_time hle⟩
      | some name =>
        show ∃ record, Held (representationMapKey digest origin) digest start stop now rivals
          others (prune (recordRepresentation name other observation now
            (opened other observation now state)) now) record
        rw [recordRepresentation_eq]
        have hlen := length_representationDigest hname
        split
        · next hof =>
            have hkeys : (HistoryStep.record request url observation).recordedKey =
                some (name, representationMapKey name other) := by
              simp [HistoryStep.recordedKey, hof, hname, horigin]
            by_cases hkey : representationMapKey name other =
                representationMapKey digest origin
            · obtain ⟨rfl, rfl⟩ := representationMapKey_inj hlen hdigest hkey
              have hnot : observation.outcome ≠ .complete := fun heq =>
                hcomplete ⟨heq, by rw [hkeys]; rfl⟩
              have hupserted := hopened.upserted_self hdigest hnot hle hstop
              exact ⟨_, (hupserted.prunedTopK hrivals name).pruned hothers hnow⟩
            · have hsets := hrecd name _ hkeys hkey
              have hupserted : Held _ digest start stop time rivals others
                  (upserted name other observation now _) record :=
                hopened.upserted_other hlen hkey hsets.2 hsets.1
              exact ⟨record,
                ((hupserted.prunedTopK hrivals name).pruned hothers hnow).mono_time hle⟩
        · exact ⟨record, (hopened.pruned hothers hnow).mono_time hle⟩

variable {steps : List TimedStep}

theorem Held.run
    (h : Held (representationMapKey digest origin) digest start stop time rivals others state
      record) (hdigest : digest.toList.length = 64)
    (htimes : (time :: (steps.map TimedStep.now ++ [now])).Pairwise (· ≤ ·))
    (hnow : now < start + representationTtlSecs)
    (hstop : stop ≤ saturatingAdd start representationTtlSecs)
    (hrivals : rivals.card < maxOriginsPerRepresentation)
    (hothers : others.card < maxRepresentations)
    (hrecd : ∀ timed ∈ steps, ∀ name key, timed.step.recordedKey = some (name, key) →
      key ≠ representationMapKey digest origin → key ∈ others ∧ (name = digest → key ∈ rivals))
    (hcomplete : ∀ timed ∈ steps, ¬ timed.step.completes (representationMapKey digest origin)) :
    ∃ record, Held (representationMapKey digest origin) digest start stop now rivals others
      (runHistory state steps) record := by
  induction steps generalizing state record time with
  | nil =>
    have hle := (List.pairwise_cons.mp htimes).1 now (by simp)
    exact ⟨record, h.mono_time hle⟩
  | cons timed rest ih =>
    have hfst := List.pairwise_cons.mp htimes
    have hsnd := List.pairwise_cons.mp hfst.2
    have hl := hsnd.1 now (by simp)
    obtain ⟨record, hst⟩ := h.step hdigest (hfst.1 timed.now (by simp)) (by omega) hstop
      hrivals hothers (hrecd timed List.mem_cons_self) (hcomplete timed List.mem_cons_self)
    exact ih hst hfst.2 (fun other ho => hrecd other (List.mem_cons_of_mem _ ho))
      fun other ho => hcomplete other (List.mem_cons_of_mem _ ho)

/-- The other keys of the digest with a record that is as new as the mismatch at `start`,
in the state before it or by a later step. -/
def rivalKeys (state : HistoryState) (digest key : String) (start : Nat)
    (steps : List TimedStep) : Finset String :=
  (((state.representations.entries.filter fun entry =>
      entry.2.digest = digest ∧ (start < entry.2.updatedAt ∨ start = entry.2.updatedAt ∧
        saturatingAdd state.sequence 1 ≤ entry.2.eventSequence)).map Prod.fst ++
    ((steps.filterMap fun timed => timed.step.recordedKey).filter fun recorded =>
      recorded.1 = digest).map Prod.snd).toFinset).erase key

def otherKeys (state : HistoryState) (key : String) (start : Nat) (steps : List TimedStep) :
    Finset String :=
  (((state.representations.entries.filter fun entry => start ≤ entry.2.updatedAt).map Prod.fst ++
    (steps.filterMap fun timed => timed.step.recordedKey).map Prod.snd).toFinset).erase key

theorem mem_rivalKeys_of_step {timed : TimedStep} (hm : timed ∈ steps)
    (hrecd : timed.step.recordedKey = some (digest, name)) (hne : name ≠ key) :
    name ∈ rivalKeys state digest key start steps := by
  apply mem_erase.mpr
  refine ⟨hne, mem_toFinset.mpr (mem_append_right _ ?_)⟩
  apply List.mem_map.mpr
  refine ⟨(digest, name), List.mem_filter.mpr ⟨?_, decide_eq_true rfl⟩, rfl⟩
  exact List.mem_filterMap.mpr ⟨timed, hm, hrecd⟩

theorem mem_otherKeys_of_step {timed : TimedStep} (hm : timed ∈ steps)
    (hrecd : timed.step.recordedKey = some (other, name)) (hne : name ≠ key) :
    name ∈ otherKeys state key start steps := by
  apply mem_erase.mpr
  refine ⟨hne, mem_toFinset.mpr (mem_append_right _ ?_)⟩
  exact List.mem_map.mpr ⟨(other, name), List.mem_filterMap.mpr ⟨timed, hm, hrecd⟩, rfl⟩

theorem held_mismatch (hkeyed : state.Keyed) (hdigest : digest.toList.length = 64)
    (hmismatch : observation.outcome = .integrityMismatch)
    (hs : start < saturatingAdd start representationTtlSecs)
    (hrivals : (rivalKeys state digest (representationMapKey digest origin) start steps).card <
      maxOriginsPerRepresentation)
    (hothers : (otherKeys state (representationMapKey digest origin) start steps).card <
      maxRepresentations) :
    ∃ record, Held (representationMapKey digest origin) digest start
      (saturatingAdd start representationTtlSecs) start
      (rivalKeys state digest (representationMapKey digest origin) start steps)
      (otherKeys state (representationMapKey digest origin) start steps)
      (recordOrigin origin observation (some digest) start state) record := by
  have hsub : ∀ entry ∈ (opened origin observation start state).representations.entries,
      entry ∈ state.representations.entries := by
    intro entry hentry
    rw [opened_representations] at hentry
    exact mem_of_mem_pruneTable hentry
  have hof : observation.outcome.ofRepresentation = true := by
    rw [hmismatch]
    rfl
  have hnow : start < start + representationTtlSecs :=
    hs.trans_le (saturatingAdd_le _ _)
  have hupserted : ∃ record, Held (representationMapKey digest origin) digest start
      (saturatingAdd start representationTtlSecs) start
      (rivalKeys state digest (representationMapKey digest origin) start steps)
      (otherKeys state (representationMapKey digest origin) start steps)
      (upserted digest origin observation start (opened origin observation start state))
      record := by
    refine ⟨_, Held.of_upserted ?_ hdigest ?_ le_rfl ?_ ?_ ?_⟩
    · exact fun entry hentry => hkeyed entry (hsub entry hentry)
    · rw [opened_sequence]
      exact Nat.min_le_right _ _
    · rw [quarantinedUntil_updatedRecord (by rw [hmismatch]; decide), if_pos hmismatch]
      exact ⟨_, rfl, le_rfl⟩
    · intro entry hentry hkey hofDigest hnewer
      rw [opened_sequence] at hnewer
      apply mem_erase.mpr
      refine ⟨hkey, mem_toFinset.mpr (mem_append_left _ ?_)⟩
      apply List.mem_map_of_mem
      exact List.mem_filter.mpr ⟨hsub entry hentry, decide_eq_true ⟨hofDigest, hnewer⟩⟩
    · intro entry hentry hkey hlater
      apply mem_erase.mpr
      refine ⟨hkey, mem_toFinset.mpr (mem_append_left _ ?_)⟩
      apply List.mem_map_of_mem
      exact List.mem_filter.mpr ⟨hsub entry hentry, decide_eq_true hlater⟩
  have hrecd : recordOrigin origin observation (some digest) start state =
      prune (pruneRepresentationTopK
        (upserted digest origin observation start (opened origin observation start state))
        digest) start := by
    show prune (recordRepresentation digest origin observation start
      (opened origin observation start state)) start = _
    rw [recordRepresentation_eq, if_pos hof]
  rw [hrecd]
  obtain ⟨record, hh⟩ := hupserted
  exact ⟨record, (hh.prunedTopK hrivals digest).pruned hothers hnow⟩

variable {left right : RankedCandidate}

omit [OriginParser] in
theorem compareCandidates_tier (h : (compareCandidates left right).isLE = true) :
    left.tier ≤ right.tier := by
  unfold compareCandidates at h
  cases htier : compare left.tier right.tier with
  | lt => exact le_of_lt (Nat.compare_eq_lt.mp htier)
  | eq => exact le_of_eq (Nat.compare_eq_eq.mp htier)
  | gt =>
    rw [htier] at h
    cases h

omit [OriginParser] in
theorem compareCandidates_not (h : ¬ (compareCandidates left right).isLE = true) :
    right.tier ≤ left.tier := by
  unfold compareCandidates at h
  cases htier : compare left.tier right.tier with
  | lt =>
    rw [htier] at h
    exact absurd rfl h
  | eq => exact le_of_eq (Nat.compare_eq_eq.mp htier).symm
  | gt => exact le_of_lt (Nat.compare_eq_gt.mp htier)

theorem mem_ranked {url : String} {candidates : List String} {name : Option String}
    (h : url ∈ candidates) :
    ∃ ranked ∈ (candidates.zipIdx.map (rankedCandidate state name now)).insertionSort
        (fun left right => (compareCandidates left right).isLE = true),
      ranked.url = url ∧ ranked.tier = (candidateHistory state name url).tier now := by
  obtain ⟨index, hi, rfl⟩ := getElem_of_mem h
  refine ⟨rankedCandidate state name now (candidates[index], index), ?_, rfl, rfl⟩
  rw [mem_insertionSort]
  apply List.mem_map_of_mem
  rw [mem_zipIdx_iff_getElem?]
  exact List.getElem?_eq_getElem hi

theorem rankPruned_of_tier_lt {request : BilibiliMediaRequest}
    (hfst : first ∈ (requestCandidates request).take maxCandidates)
    (hsnd : second ∈ (requestCandidates request).take maxCandidates)
    (htier : (candidateHistory state (representationDigest request) first).tier now <
      (candidateHistory state (representationDigest request) second).tier now) :
    [first, second].Sublist (rankPruned state request now) := by
  obtain ⟨before, hb, hurl, hlow⟩ :=
    @mem_ranked state now _ first _ (representationDigest request) hfst
  obtain ⟨after, ha, hurl', hhigh⟩ :=
    @mem_ranked state now _ second _ (representationDigest request) hsnd
  have hlt : before.tier < after.tier := by omega
  have : IsTrans RankedCandidate fun left right => left.tier ≤ right.tier :=
    ⟨fun _ _ _ => le_trans⟩
  have hsorted := pairwise_insertionSort_of_coarser
    (s := fun left right : RankedCandidate => left.tier ≤ right.tier)
    (fun _ _ => compareCandidates_tier) (fun _ _ => compareCandidates_not)
    (((requestCandidates request).take maxCandidates).zipIdx.map
      (rankedCandidate state (representationDigest request) now))
  have hpair := pair_sublist hsorted hb ha
    (fun heq => absurd (heq ▸ hlt) (lt_irrefl _)) (by omega)
  have hurls := hpair.map RankedCandidate.url
  rw [List.map_cons, List.map_cons, map_nil, hurl, hurl'] at hurls
  exact hurls.trans (sublist_append_left _ _)

/-- After a mismatch the candidate is ranked behind those that are neither cooling down nor
quarantined, until its quarantine ends and while few other records are newer. -/
theorem quarantine_ranked_behind {recorded request : BilibiliMediaRequest}
    {url candidate other digest origin : String} {start now : Nat} {state : HistoryState}
    {mismatch : CdnObservation} {steps : List TimedStep} (hkeyed : state.Keyed)
    (hrecorded : representationDigest recorded = some digest)
    (horigin : canonicalOrigin url = some origin)
    (hmismatch : mismatch.outcome = .integrityMismatch)
    (hcomplete : ∀ timed ∈ steps, ¬ timed.step.completes (representationMapKey digest origin))
    (htimes : (start :: (steps.map TimedStep.now ++ [now])).Pairwise (· ≤ ·))
    (hnow : now < saturatingAdd start representationTtlSecs)
    (hrivals : (rivalKeys state digest (representationMapKey digest origin) start steps).card <
      maxOriginsPerRepresentation)
    (hothers : (otherKeys state (representationMapKey digest origin) start steps).card <
      maxRepresentations)
    (hrequest : representationDigest request = some digest)
    (hcandidate : candidate ∈ (requestCandidates request).take maxCandidates)
    (hsame : canonicalOrigin candidate = some origin)
    (hother : other ∈ (requestCandidates request).take maxCandidates)
    (hquarantine : (candidateHistory (prune (runHistory state
      (⟨start, .record recorded url mismatch⟩ :: steps)) now) (some digest) other).quarantine now =
        false)
    (hcooldown : (candidateHistory (prune (runHistory state
      (⟨start, .record recorded url mismatch⟩ :: steps)) now) (some digest) other).cooldown now =
        false) :
    [other, candidate].Sublist (rankRequestAt request now
      (runHistory state (⟨start, .record recorded url mismatch⟩ :: steps))).1 := by
  have hdigest := length_representationDigest hrecorded
  have hle : start ≤ now := (List.pairwise_cons.mp htimes).1 now (by simp)
  have hend : now < start + representationTtlSecs := hnow.trans_le (saturatingAdd_le _ _)
  obtain ⟨first, hmismatched⟩ := held_mismatch hkeyed hdigest hmismatch (hle.trans_lt hnow)
    hrivals hothers
  have hfirst : (HistoryStep.record recorded url mismatch).apply start state =
      recordOrigin origin mismatch (some digest) start state := by
    show recordAt url mismatch (representationDigest recorded) start state = _
    rw [recordAt_of_origin horigin, hrecorded]
  rw [← hfirst] at hmismatched
  obtain ⟨record, hheld⟩ := hmismatched.run hdigest htimes hend le_rfl hrivals hothers
    (fun timed hmem name key hkey hne => ⟨mem_otherKeys_of_step hmem hkey hne,
      fun heq => mem_rivalKeys_of_step hmem (heq ▸ hkey) hne⟩) hcomplete
  have hpruned := hheld.pruned hothers hend
  obtain ⟨last, hlast, hstop⟩ := hpruned.quarantined
  generalize hafter : runHistory state (⟨start, .record recorded url mismatch⟩ :: steps) = after
    at hquarantine hcooldown ⊢
  have hpruned : (representationMapKey digest origin, record) ∈
      (prune after now).representations.entries := hafter ▸ hpruned.found
  have hhigh : (candidateHistory (prune after now) (some digest) candidate).quarantine now =
      true := by
    unfold CandidateHistory.quarantine candidateHistory
    rw [hsame]
    show (((prune after now).representations.lookup
      (representationMapKey digest origin)).any fun entry => entry.quarantined now) = true
    rw [lookup_eq_some.mpr hpruned, Option.any_some]
    unfold RepresentationRecord.quarantined
    rw [hlast, Option.any_some]
    exact decide_eq_true (hnow.trans_le hstop)
  apply rankPruned_of_tier_lt hother hcandidate
  rw [hrequest]
  have hlow : (candidateHistory (prune after now) (some digest) other).tier now ≤ 1 := by
    unfold CandidateHistory.tier
    rw [hquarantine, hcooldown, if_neg (by decide)]
    split
    · exact Nat.zero_le _
    · exact le_rfl
  have htop : (candidateHistory (prune after now) (some digest) candidate).tier now = 2 := by
    unfold CandidateHistory.tier
    rw [hhigh]
    rfl
  omega

end Parsed

section Literal

@[reducible] def literalOrigins : OriginParser :=
  ⟨fun value => some ⟨"https", true, "", none, value⟩⟩

local instance quarantineOrigins : OriginParser := literalOrigins

def requestWith (url : String) (backupUrls : List String) : BilibiliMediaRequest :=
  { Hls.sampleRequest .audio url with backupUrls := backupUrls }

def outcomeOnly (outcome : CdnObservationOutcome) : CdnObservation :=
  ⟨.probe, outcome, 0, none, none, none⟩

theorem quarantine_ranked_behind_backup :
    let request := requestWith "https://a" ["https://e"]
    let after := runHistory .default
      [⟨1000, .record request "https://a" (outcomeOnly .integrityMismatch)⟩,
        ⟨1001, .record request "https://b" (outcomeOnly .complete)⟩]
    ["https://e", "https://a"].Sublist (rankRequestAt request 1004 after).1 := by
  have hdigest : representationDigest (requestWith "https://a" ["https://e"]) =
      some ((representationDigest (requestWith "https://a" ["https://e"])).getD "") := by
    decide +kernel
  have hcomplete : ∀ timed ∈ [TimedStep.mk 1001 (.record (requestWith "https://a" ["https://e"])
        "https://b" (outcomeOnly .complete))],
      ¬ HistoryStep.completes (representationMapKey
        ((representationDigest (requestWith "https://a" ["https://e"])).getD "") "https://a")
        timed.step := by
    decide +kernel
  exact @quarantine_ranked_behind _ _ _ _ _ _ _ _ _ _ _ _ _ Keyed.default hdigest rfl
    rfl hcomplete (by decide) (by decide) (by decide +kernel) (by decide +kernel) hdigest
    (by decide +kernel) rfl (by decide +kernel) (by decide +kernel) (by decide +kernel)

/-- Three completed transfers from other origins push the record of a mismatch out. -/
theorem quarantine_forgotten :
    let request := requestWith "https://a" ["https://e"]
    let completed := fun url => HistoryStep.record request url (outcomeOnly .complete)
    let steps : List TimedStep :=
      [⟨1001, completed "https://b"⟩, ⟨1002, completed "https://c"⟩, ⟨1003, completed "https://d"⟩]
    let after := runHistory .default
      (⟨1000, .record request "https://a" (outcomeOnly .integrityMismatch)⟩ :: steps)
    (∀ timed ∈ steps, ¬ timed.step.completes
      (representationMapKey ((representationDigest request).getD "") "https://a")) ∧
    1004 < saturatingAdd 1000 representationTtlSecs ∧
    (∀ url ∈ ["https://a", "https://e"], url ∈ (requestCandidates request).take maxCandidates) ∧
    (candidateHistory (prune after 1004) (representationDigest request) "https://e").quarantine
      1004 = false ∧
    (candidateHistory (prune after 1004) (representationDigest request) "https://e").cooldown
      1004 = false ∧
    ¬ ["https://e", "https://a"].Sublist (rankRequestAt request 1004 after).1 := by
  decide +kernel

end Literal

end NetPlayer.Cdn
