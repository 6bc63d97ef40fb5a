import NetPlayer.Cdn.Quarantine

/-!
# The ranking of a request

A ranking reorders the first candidates by what the history says of them. Nothing is lost, and the
candidates beyond the limit stay where they are.
-/

namespace NetPlayer.Cdn

open List
open Hls (BilibiliMediaRequest)

variable {state : HistoryState} {request : BilibiliMediaRequest} {now : Nat}

theorem nodup_requestCandidates : (requestCandidates request).Nodup := by
  have hnodup : ∀ urls seen : List String,
      (requestCandidates.firstOccurrences seen urls).Nodup ∧
        ∀ url ∈ requestCandidates.firstOccurrences seen urls, url ∉ seen := by
    intro urls
    induction urls with
    | nil => simp [requestCandidates.firstOccurrences]
    | cons url rest ih =>
      intro seen
      rw [requestCandidates.firstOccurrences]
      split
      · exact ih seen
      · next hn =>
          obtain ⟨hr, hl⟩ := ih (url :: seen)
          refine ⟨nodup_cons.mpr ⟨fun hm => hl url hm mem_cons_self, hr⟩, ?_⟩
          intro other ho
          rcases mem_cons.mp ho with rfl | ho
          · exact hn
          · exact fun hseen => hl other ho (mem_cons_of_mem _ hseen)
  exact (hnodup _ _).1

theorem tier_eq_two {history : CandidateHistory} :
    history.tier now = 2 ↔ history.quarantine now = true ∨ history.cooldown now = true := by
  unfold CandidateHistory.tier
  split
  · next havoid => simpa using havoid
  · split <;> simp_all

theorem tier_eq_zero {history : CandidateHistory} :
    history.tier now = 0 ↔ history.knownHealthy now = true := by
  have hs : history.knownHealthy now = true →
      history.quarantine now = false ∧ history.cooldown now = false := by
    unfold CandidateHistory.knownHealthy CandidateHistory.quarantine
    cases history.rep with
    | none =>
      cases history.host with
      | none => simp
      | some host => simp
    | some rep => simp_all
  unfold CandidateHistory.tier
  cases hhealthy : history.knownHealthy now with
  | false => split <;> simp
  | true => simp [hs hhealthy]

variable [OriginParser]

/-- `first` may stand before `second`. -/
def InTierOrder (state : HistoryState) (digest : Option String) (now : Nat)
    (first second : String) : Prop :=
  let history := candidateHistory state digest
  ((history first).quarantine now = true ∨ (history first).cooldown now = true →
    (history second).quarantine now = true ∨ (history second).cooldown now = true) ∧
  ((history second).knownHealthy now = true → (history first).knownHealthy now = true)

theorem inTierOrder_of_tier_le {digest : Option String} {first second : String}
    (hle : (candidateHistory state digest first).tier now ≤
      (candidateHistory state digest second).tier now) :
    InTierOrder state digest now first second := by
  constructor
  · rw [← tier_eq_two, ← tier_eq_two]
    intro htwo
    have hbd : (candidateHistory state digest second).tier now ≤ 2 := by
      unfold CandidateHistory.tier
      split <;> [skip; split] <;> decide
    omega
  · rw [← tier_eq_zero, ← tier_eq_zero]
    omega

theorem rankPruned_perm : (rankPruned state request now).Perm (requestCandidates request) := by
  have hurls : ((((requestCandidates request).take maxCandidates).zipIdx.map
      (rankedCandidate state (representationDigest request) now)).map RankedCandidate.url) =
      (requestCandidates request).take maxCandidates := by
    rw [map_map]
    exact zipIdx_map_fst 0 _
  have hsorted := ((perm_insertionSort (fun left right : RankedCandidate =>
    (compareCandidates left right).isLE = true)
      (((requestCandidates request).take maxCandidates).zipIdx.map
        (rankedCandidate state (representationDigest request) now))).map RankedCandidate.url)
  rw [hurls] at hsorted
  have hall := hsorted.append_right ((requestCandidates request).drop maxCandidates)
  rwa [take_append_drop] at hall

/-- The sorted candidates stand at the front. -/
theorem rankPruned_split : ∃ sorted : List RankedCandidate,
    sorted.Pairwise (fun first second => first.tier ≤ second.tier) ∧
    (∀ ranked ∈ sorted, (candidateHistory state (representationDigest request) ranked.url).tier
      now = ranked.tier) ∧
    (rankPruned state request now).take maxCandidates = sorted.map RankedCandidate.url ∧
    (rankPruned state request now).drop maxCandidates =
      (requestCandidates request).drop maxCandidates := by
  let entries := ((requestCandidates request).take maxCandidates).zipIdx.map
    (rankedCandidate state (representationDigest request) now)
  let sorted := entries.insertionSort fun left right => (compareCandidates left right).isLE = true
  have : IsTrans RankedCandidate fun left right => left.tier ≤ right.tier :=
    ⟨fun _ _ _ => le_trans⟩
  have hlength : (sorted.map RankedCandidate.url).length =
      min maxCandidates (requestCandidates request).length := by
    rw [length_map, (perm_insertionSort _ _).length_eq, length_map, length_zipIdx, length_take]
  refine ⟨sorted, SortedLists.pairwise_insertionSort_of_coarser (fun _ _ => compareCandidates_tier)
    (fun _ _ => compareCandidates_not) entries, fun ranked hranked => ?_, ?_, ?_⟩
  · obtain ⟨place, -, rfl⟩ := mem_map.mp ((mem_insertionSort _).mp hranked)
    rfl
  · change ((sorted.map RankedCandidate.url) ++ _).take _ = _
    rcases le_total maxCandidates (requestCandidates request).length with hle | hle
    · rw [take_append_of_le_length (by omega), take_of_length_le (by omega)]
    · rw [drop_eq_nil_of_le hle, append_nil, take_of_length_le (by omega)]
  · change ((sorted.map RankedCandidate.url) ++ _).drop _ = _
    rcases le_total maxCandidates (requestCandidates request).length with hle | hle
    · rw [drop_append, drop_eq_nil_of_le (by omega), nil_append, hlength, Nat.min_eq_left hle,
        Nat.sub_self, drop_zero]
    · rw [drop_eq_nil_of_le hle, append_nil, drop_eq_nil_of_le (by omega)]

/-- A ranking permutes the distinct candidates, keeps those beyond the limit in place, and in front
of them puts no candidate to avoid before another one, and no unproven one before a healthy one. -/
theorem rank_request_exact (request : BilibiliMediaRequest) (now : Nat) (state : HistoryState) :
    let candidates := requestCandidates request
    let ranked := (rankRequestAt request now state).1
    candidates.Nodup ∧ ranked.Perm candidates ∧
    ranked.drop maxCandidates = candidates.drop maxCandidates ∧
    (ranked.take maxCandidates).Pairwise
      (InTierOrder (prune state now) (representationDigest request) now) := by
  obtain ⟨sorted, hsorted, htier, htake, hdrop⟩ :=
    @rankPruned_split (prune state now) request now _
  refine ⟨nodup_requestCandidates, rankPruned_perm, hdrop, ?_⟩
  change ((rankPruned (prune state now) request now).take maxCandidates).Pairwise _
  rw [htake, pairwise_map]
  apply hsorted.imp_of_mem
  intro first second hfirst hsecond hle
  apply inTierOrder_of_tier_le
  rwa [htier first hfirst, htier second hsecond]

end NetPlayer.Cdn
