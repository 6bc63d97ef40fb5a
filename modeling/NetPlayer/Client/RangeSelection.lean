import NetPlayer.Library.IndexedRanges
import NetPlayer.Paging.ResolutionRuns

/-!
# Range selections of the client

The client shows the candidates it has loaded of a resolution and marks a range between two
picks by the candidates' own indices. The server expands the range it is sent in the order of
its snapshot. The modes other than a range, and what of a candidate is only shown, are left out.
-/

namespace NetPlayer.Client

open List Finset

open Hls (trim)
open Paging Paging.BilibiliResolutionStore IndexedRanges

structure BilibiliResolvedCandidate where
  selectionID : String
  index : Nat
deriving DecidableEq

def resolvedCandidate (candidate : TokenizedBilibiliCandidate) : BilibiliResolvedCandidate :=
  ⟨candidate.token, candidate.candidate.index.toNat⟩

def maxExecutionCandidateCount : Nat := 100

structure CandidateSelection where
  resolvedCandidates : List BilibiliResolvedCandidate
  rangeStartCandidateID : Option String
  rangeEndCandidateID : Option String
  isChoosingRangeEnd : Bool

namespace CandidateSelection

def chooseRangeCandidate (s : CandidateSelection) (candidate : BilibiliResolvedCandidate) :
    CandidateSelection :=
  if !s.isChoosingRangeEnd then
    { s with
      rangeStartCandidateID := some candidate.selectionID
      rangeEndCandidateID := some candidate.selectionID
      isChoosingRangeEnd := true }
  else
    { s with
      rangeEndCandidateID := some candidate.selectionID
      isChoosingRangeEnd := false }

def candidateWithID (s : CandidateSelection) (id : Option String) :
    Option BilibiliResolvedCandidate :=
  match id with
  | none => none
  | some id =>
    if trim id = "" then none
    else s.resolvedCandidates.find? fun candidate => candidate.selectionID = id

def rangeStartCandidate (s : CandidateSelection) : Option BilibiliResolvedCandidate :=
  (s.candidateWithID s.rangeStartCandidateID).or s.resolvedCandidates.head?

def rangeEndCandidate (s : CandidateSelection) : Option BilibiliResolvedCandidate :=
  (s.candidateWithID s.rangeEndCandidateID).or s.rangeStartCandidate

def candidateSelectionIndex (s : CandidateSelection) (candidate : BilibiliResolvedCandidate) :
    Nat :=
  if 0 < candidate.index then candidate.index
  else
    match s.resolvedCandidates.findIdx? fun other => other.selectionID = candidate.selectionID with
    | none => 1
    | some offset => offset + 1

def sortedRangeBounds (s : CandidateSelection) (start stop : BilibiliResolvedCandidate) :
    Nat × Nat :=
  let startIndex := s.candidateSelectionIndex start
  let endIndex := s.candidateSelectionIndex stop
  (min startIndex endIndex, max startIndex endIndex)

def selectedRangeBounds (s : CandidateSelection) : Option (Nat × Nat) :=
  match s.rangeStartCandidate, s.rangeEndCandidate with
  | some start, some stop => some (s.sortedRangeBounds start stop)
  | _, _ => none

def selectedRangeCandidateIDs (s : CandidateSelection) : Finset String :=
  match s.selectedRangeBounds with
  | none => ∅
  | some (start, stop) =>
    ((s.resolvedCandidates.filter fun candidate =>
      start ≤ s.candidateSelectionIndex candidate ∧
        s.candidateSelectionIndex candidate ≤ stop).map (·.selectionID)).toFinset

def selectedCandidateCount (s : CandidateSelection) : Nat := s.selectedRangeCandidateIDs.card

def orderedCandidates (s : CandidateSelection) : List BilibiliResolvedCandidate :=
  s.resolvedCandidates.mergeSort fun a b =>
    s.candidateSelectionIndex a ≤ s.candidateSelectionIndex b

def firstCandidate (s : CandidateSelection) (index : Nat) : Option BilibiliResolvedCandidate :=
  s.orderedCandidates.find? fun candidate => s.candidateSelectionIndex candidate = index

def candidateSelectionRequest (s : CandidateSelection) : Option (String × String) :=
  match s.selectedRangeBounds with
  | none => none
  | some (start, stop) =>
    if stop - start + 1 ≤ maxExecutionCandidateCount then
      match s.firstCandidate start, s.firstCandidate stop with
      | some first, some last => some (first.selectionID, last.selectionID)
      | _, _ => none
    else none

end CandidateSelection

def rangeSelectionMessage (request : String × String) : Option BilibiliResolutionSelection :=
  if trim request.1 ≠ "" ∧ trim request.2 ≠ "" then some ⟨3, [], request.1, request.2⟩ else none

def selectedTokens (snapshot : BilibiliResolutionSessionSnapshot)
    (selection : BilibiliResolutionSelection) : Except Status (Finset String) := do
  let offsets ← selectedOffsets snapshot selection
  return (offsets.filterMap fun offset => snapshot.candidates[offset]?.map (·.token)).toFinset

structure EndpointsPicked (snapshot : BilibiliResolutionSessionSnapshot) (s : CandidateSelection) :
    Prop where
  loaded : ∃ count, s.resolvedCandidates = (snapshot.candidates.take count).map resolvedCandidate
  start : ∃ candidate ∈ s.resolvedCandidates, s.rangeStartCandidateID = some candidate.selectionID
  stop : ∃ candidate ∈ s.resolvedCandidates, s.rangeEndCandidateID = some candidate.selectionID

/-- A request within the limit is accepted, and the server selects what the client has marked. -/
structure SelectionAgrees (snapshot : BilibiliResolutionSessionSnapshot) (s : CandidateSelection) :
    Prop where
  same : ∀ request selection tokens, s.candidateSelectionRequest = some request →
    rangeSelectionMessage request = some selection →
      selectedTokens snapshot selection = .ok tokens → tokens = s.selectedRangeCandidateIDs
  accepted : ∀ request, s.candidateSelectionRequest = some request →
    s.selectedCandidateCount ≤ maxBilibiliResolutionTaskCandidates →
      ∃ selection tokens, rangeSelectionMessage request = some selection ∧
        selectedTokens snapshot selection = .ok tokens

def indexAt (snapshot : BilibiliResolutionSessionSnapshot) (offset : Nat) : Nat :=
  snapshot.candidates[offset]?.elim 0 fun candidate => candidate.candidate.index.toNat

def tokenAt (snapshot : BilibiliResolutionSessionSnapshot) (offset : Nat) : String :=
  snapshot.candidates[offset]?.elim "" (·.token)

/-- What the client and the server assume of the candidates of an admitted snapshot. -/
structure Selectable (snapshot : BilibiliResolutionSessionSnapshot) : Prop where
  distinct : (snapshot.candidates.map (·.token)).Nodup
  index_pos : ∀ candidate ∈ snapshot.candidates, 0 < candidate.candidate.index.toNat
  nonblank : ∀ candidate ∈ snapshot.candidates, trim candidate.token ≠ ""
  short : ∀ candidate ∈ snapshot.candidates,
    candidate.token.utf8ByteSize ≤ maxBilibiliResolutionTokenBytes
  offsets : snapshot.candidateOffsetsByToken = offsetsFrom (fun _ => none) 0 snapshot.candidates

section

variable {snapshot : BilibiliResolutionSessionSnapshot} {s : CandidateSelection}
  {candidates : List Paging.BilibiliResolvedCandidate}

theorem validateCandidates_index {seen : List String} {value : Unit}
    (h : validateCandidates seen candidates = .ok value) :
    ∀ candidate ∈ candidates, 0 < candidate.index.toNat := by
  induction candidates generalizing seen with
  | nil => simp
  | cons first rest ih =>
    obtain ⟨_, hfirst, h⟩ := ok_of_bind h
    obtain ⟨_, _, h⟩ := ok_of_bind h
    intro candidate hmem
    rcases List.mem_cons.mp hmem with rfl | hr
    · unfold validateCandidate at hfirst
      iterate 6 obtain ⟨_, _, hfirst⟩ := ok_of_bind hfirst
      obtain ⟨_, hidfd, _⟩ := ok_of_bind hfirst
      have hidfd := of_demand hidfd
      simp only [isIdentified, Bool.and_eq_true, decide_eq_true_eq] at hidfd
      have hindex : candidate.index ≠ 0 := hidfd.1.1.2
      apply Nat.pos_of_ne_zero
      intro hzero
      exact hindex (UInt32.toNat_inj.mp hzero)
    · exact ih h candidate hr

variable {offset : Nat} {candidate : TokenizedBilibiliCandidate}

theorem mem_tokenizeFrom {uuids : Nat → Uuid}
    (h : candidate ∈ tokenizeFrom uuids offset candidates) :
    (∃ uuid, candidate.token = candidateTokenOf uuid) ∧
      ∃ original ∈ candidates, candidate.candidate.index = original.index := by
  induction candidates generalizing offset with
  | nil => cases h
  | cons first rest ih =>
    rcases List.mem_cons.mp h with rfl | hr
    · exact ⟨⟨_, rfl⟩, first, List.mem_cons_self, rfl⟩
    · obtain ⟨htoken, original, hmem, hindex⟩ := ih hr
      exact ⟨htoken, original, List.mem_cons_of_mem _ hmem, hindex⟩

theorem candidateTokenOf_nonblank (uuid : Uuid) : trim (candidateTokenOf uuid) ≠ "" := by
  have hmem : 'b' ∈ (candidateTokenOf uuid).toList := by
    unfold candidateTokenOf
    rw [String.toList_append]
    exact mem_append_left _ (by decide)
  have hletter : Hls.isWhitespace 'b' = false := by rfl
  exact ne_blank_of_mem hmem hletter

theorem candidateTokenOf_short (uuid : Uuid) :
    (candidateTokenOf uuid).utf8ByteSize ≤ maxBilibiliResolutionTokenBytes := by
  unfold candidateTokenOf
  rw [String.utf8ByteSize_append, uuid.length]
  decide

theorem selectable_of_admitted {request : CreateRequest} (h : Admitted request snapshot)
    (hdist : (snapshot.candidates.map (·.token)).Nodup) : Selectable snapshot where
  distinct := hdist
  index_pos := by
    intro candidate hmem
    rw [h.candidates] at hmem
    obtain ⟨-, original, horiginal, hindex⟩ := mem_tokenizeFrom hmem
    rw [hindex]
    exact validateCandidates_index (validateResolution_ok h.valid).2.2 original horiginal
  nonblank := by
    intro candidate hmem
    rw [h.candidates] at hmem
    obtain ⟨⟨uuid, htoken⟩, -⟩ := mem_tokenizeFrom hmem
    rw [htoken]
    exact candidateTokenOf_nonblank uuid
  short := by
    intro candidate hmem
    rw [h.candidates] at hmem
    obtain ⟨⟨uuid, htoken⟩, -⟩ := mem_tokenizeFrom hmem
    rw [htoken]
    exact candidateTokenOf_short uuid
  offsets := h.offsets

variable {offsets : String → Option Nat}

theorem offsetsFrom_of_notMem {start : Nat} {candidates : List TokenizedBilibiliCandidate}
    {token : String} (h : token ∉ candidates.map (·.token)) :
    offsetsFrom offsets start candidates token = offsets token := by
  induction candidates generalizing offsets start with
  | nil => rfl
  | cons first rest ih =>
    rw [List.map_cons, List.mem_cons, not_or] at h
    unfold offsetsFrom
    rw [ih h.2, Function.update_of_ne h.1]

theorem offsetsFrom_getElem {start offset : Nat} {candidates : List TokenizedBilibiliCandidate}
    (hdist : (candidates.map (·.token)).Nodup) (h : candidates[offset]? = some candidate) :
    offsetsFrom offsets start candidates candidate.token = some (start + offset) := by
  induction candidates generalizing offsets start offset with
  | nil => simp at h
  | cons first rest ih =>
    rw [List.map_cons, nodup_cons] at hdist
    unfold offsetsFrom
    cases offset with
    | zero =>
      cases h
      rw [offsetsFrom_of_notMem hdist.1, Function.update_self]
      rfl
    | succ offset =>
      rw [ih hdist.2 (by simpa using h)]
      congr 1
      omega

theorem tokenAt_of_getElem (h : snapshot.candidates[offset]? = some candidate) :
    tokenAt snapshot offset = candidate.token := by
  simp [tokenAt, h]

theorem exists_candidate (h : offset < snapshot.candidates.length) :
    ∃ candidate ∈ snapshot.candidates, snapshot.candidates[offset]? = some candidate ∧
      tokenAt snapshot offset = candidate.token ∧
      indexAt snapshot offset = candidate.candidate.index.toNat := by
  have hget : snapshot.candidates[offset]? = some snapshot.candidates[offset] :=
    List.getElem?_eq_getElem h
  exact ⟨_, getElem_mem h, hget, tokenAt_of_getElem hget, by simp [indexAt, hget]⟩

variable (h : Selectable snapshot)

include h in
theorem Selectable.candidateOffsetsByToken (hoff : offset < snapshot.candidates.length) :
    snapshot.candidateOffsetsByToken (tokenAt snapshot offset) = some offset := by
  obtain ⟨candidate, -, hget, htoken, -⟩ := exists_candidate hoff
  rw [h.offsets, htoken, offsetsFrom_getElem h.distinct hget, Nat.zero_add]

include h in
theorem Selectable.candidateOffset (hoff : offset < snapshot.candidates.length) :
    candidateOffset snapshot (tokenAt snapshot offset) = .ok offset := by
  unfold Paging.candidateOffset
  rw [h.candidateOffsetsByToken hoff]

variable {i j : Nat}

include h in
theorem Selectable.tokenAt_inj (hi : i < snapshot.candidates.length)
    (hj : j < snapshot.candidates.length) (heq : tokenAt snapshot i = tokenAt snapshot j) :
    i = j := by
  have hfirst := h.candidateOffset hi
  rw [heq, h.candidateOffset hj] at hfirst
  cases hfirst
  rfl

include h in
theorem Selectable.tokenAt_valid (hoff : offset < snapshot.candidates.length) :
    trim (tokenAt snapshot offset) ≠ "" ∧ tokenAt snapshot offset ≠ "" ∧
      (tokenAt snapshot offset).utf8ByteSize ≤ maxBilibiliResolutionTokenBytes := by
  obtain ⟨candidate, hmem, -, htoken, -⟩ := exists_candidate hoff
  rw [htoken]
  refine ⟨h.nonblank candidate hmem, ?_, h.short candidate hmem⟩
  intro hempty
  apply h.nonblank candidate hmem
  rw [hempty]
  rfl

theorem demand_of {condition : Prop} [Decidable condition] {error : Status} (h : condition) :
    demand condition error = .ok () :=
  if_pos h

include h in
theorem Selectable.validate_range (hi : i < snapshot.candidates.length)
    (hj : j < snapshot.candidates.length) :
    validateBilibiliResolutionSelection ⟨3, [], tokenAt snapshot i, tokenAt snapshot j⟩ =
      .ok .range := by
  obtain ⟨-, hfirst, hfirstShort⟩ := h.tokenAt_valid hi
  obtain ⟨-, hlast, hlastShort⟩ := h.tokenAt_valid hj
  have htoken : ∀ label token, token ≠ "" →
      token.utf8ByteSize ≤ maxBilibiliResolutionTokenBytes →
        validateRangeToken label token = .ok () := by
    intro label token hne hshort
    rw [validateRangeToken, if_neg hne]
    exact demand_of hshort
  have hcount : ∀ error, demand (([] : List String).length ≤ maxBilibiliResolutionCandidates)
      error = .ok () := fun _ => demand_of (Nat.zero_le _)
  have hrange : ∀ error, demand (([] : List String) = [] ∧ tokenAt snapshot i ≠ "" ∧
      tokenAt snapshot j ≠ "") error = .ok () := fun _ => demand_of ⟨rfl, hfirst, hlast⟩
  have hmode : BilibiliResolutionSelectionMode.tryFrom 3 = some .range := by decide
  unfold validateBilibiliResolutionSelection
  dsimp only
  rw [hcount, htoken _ _ hfirst hfirstShort, htoken _ _ hlast hlastShort, hmode]
  rw [hrange]
  rfl

include h in
theorem Selectable.selectedTokens_range (hi : i < snapshot.candidates.length)
    (hj : j < snapshot.candidates.length) :
    selectedTokens snapshot ⟨3, [], tokenAt snapshot i, tokenAt snapshot j⟩ =
      (do
        demand (i ≤ j) (.invalidArgument
          "Bilibili resolution range start cannot follow its end in snapshot order.")
        validateTaskCandidateCount (j - i + 1)
        return ((List.range' i (j - i + 1)).filterMap fun offset =>
          snapshot.candidates[offset]?.map (·.token)).toFinset) := by
  unfold selectedTokens selectedOffsets rangeOffsets
  rw [h.validate_range hi hj]
  dsimp only [bind, Except.bind]
  rw [h.candidateOffset hi, h.candidateOffset hj]
  dsimp only
  cases demand (i ≤ j) _ with
  | error error => rfl
  | ok _ =>
    cases validateTaskCandidateCount (j - i + 1) with
    | error error | ok _ => rfl

theorem tokens_of_stretch (hij : i ≤ j) (hj : j < snapshot.candidates.length) :
    ((List.range' i (j - i + 1)).filterMap fun offset =>
        snapshot.candidates[offset]?.map (·.token)).toFinset =
      (Finset.Icc i j).image (tokenAt snapshot) := by
  ext token
  rw [mem_toFinset, List.mem_filterMap, mem_image]
  constructor
  · rintro ⟨offset, hoff, hget⟩
    rw [mem_range'_1] at hoff
    obtain ⟨candidate, hcand, rfl⟩ := Option.map_eq_some_iff.mp hget
    exact ⟨offset, mem_Icc.mpr (by omega), tokenAt_of_getElem hcand⟩
  · rintro ⟨offset, hoff, rfl⟩
    rw [mem_Icc] at hoff
    obtain ⟨candidate, -, hget, htoken, -⟩ :=
      @exists_candidate snapshot offset (hoff.2.trans_lt hj)
    refine ⟨offset, mem_range'_1.mpr (by omega), ?_⟩
    rw [hget, htoken]
    rfl

include h in
/-- The server takes a range in snapshot order, up to its limit. -/
theorem Selectable.selectedTokens_iff (hi : i < snapshot.candidates.length)
    (hj : j < snapshot.candidates.length) {tokens : Finset String} :
    selectedTokens snapshot ⟨3, [], tokenAt snapshot i, tokenAt snapshot j⟩ = .ok tokens ↔
      i ≤ j ∧ j - i < maxBilibiliResolutionTaskCandidates ∧
        tokens = (Finset.Icc i j).image (tokenAt snapshot) := by
  rw [h.selectedTokens_range hi hj]
  constructor
  · intro hok
    obtain ⟨_, hordered, hok⟩ := ok_of_bind hok
    obtain ⟨_, hcount, hok⟩ := ok_of_bind hok
    have hordered := of_demand hordered
    have hcount := of_demand hcount
    refine ⟨hordered, by omega, ?_⟩
    rw [← tokens_of_stretch hordered hj]
    exact (Except.ok.inj hok).symm
  · rintro ⟨hordered, hcount, rfl⟩
    have hcount' : validateTaskCandidateCount (j - i + 1) = .ok () := demand_of (by omega)
    rw [demand_of hordered, hcount', ← tokens_of_stretch hordered hj]
    rfl

def loaded (snapshot : BilibiliResolutionSessionSnapshot) (count : Nat) : CandidateSelection :=
  ⟨(snapshot.candidates.take count).map resolvedCandidate, none, none, false⟩

def chosen (snapshot : BilibiliResolutionSessionSnapshot) (count index : Nat) : Nat :=
  ((loaded snapshot count).firstCandidate index).elim 0 fun candidate =>
    (snapshot.candidateOffsetsByToken candidate.selectionID).getD 0

theorem mem_loaded {count : Nat} {candidate : BilibiliResolvedCandidate}
    (hcount : count ≤ snapshot.candidates.length) :
    candidate ∈ (loaded snapshot count).resolvedCandidates ↔
      ∃ offset < count, candidate = ⟨tokenAt snapshot offset, indexAt snapshot offset⟩ := by
  show candidate ∈ (snapshot.candidates.take count).map resolvedCandidate ↔ _
  rw [List.mem_map]
  constructor
  · rintro ⟨original, hmem, rfl⟩
    obtain ⟨offset, hoff, hget⟩ := mem_iff_getElem.mp hmem
    rw [length_take] at hoff
    rw [getElem_take] at hget
    have hget' : snapshot.candidates[offset]? = some original := by
      rw [List.getElem?_eq_getElem (by omega), hget]
    exact ⟨offset, by omega, by simp [resolvedCandidate, tokenAt, indexAt, hget']⟩
  · rintro ⟨offset, hoff, rfl⟩
    obtain ⟨original, -, hget, htoken, hindex⟩ :=
      @exists_candidate snapshot offset (hoff.trans_le hcount)
    refine ⟨original, ?_, by rw [htoken, hindex]; rfl⟩
    apply mem_iff_getElem?.mpr
    exact ⟨offset, by rw [List.getElem?_take_of_lt hoff, hget]⟩

theorem candidateSelectionIndex_congr {t : CandidateSelection}
    (h : s.resolvedCandidates = t.resolvedCandidates) :
    s.candidateSelectionIndex = t.candidateSelectionIndex := by
  funext candidate
  simp [CandidateSelection.candidateSelectionIndex, h]

theorem firstCandidate_congr {t : CandidateSelection}
    (h : s.resolvedCandidates = t.resolvedCandidates) : s.firstCandidate = t.firstCandidate := by
  funext index
  simp [CandidateSelection.firstCandidate, CandidateSelection.orderedCandidates, h,
    candidateSelectionIndex_congr h]

include h

theorem Selectable.indexAt_pos (hoff : offset < snapshot.candidates.length) :
    0 < indexAt snapshot offset := by
  obtain ⟨candidate, hmem, -, -, hindex⟩ := exists_candidate hoff
  rw [hindex]
  exact h.index_pos candidate hmem

theorem Selectable.candidateSelectionIndex (hoff : offset < snapshot.candidates.length) :
    s.candidateSelectionIndex ⟨tokenAt snapshot offset, indexAt snapshot offset⟩ =
      indexAt snapshot offset :=
  if_pos (h.indexAt_pos hoff)

theorem Selectable.firstCandidate {count k : Nat} (hcount : count ≤ snapshot.candidates.length)
    (hk : k < count) :
    chosen snapshot count (indexAt snapshot k) < count ∧
      indexAt snapshot (chosen snapshot count (indexAt snapshot k)) = indexAt snapshot k ∧
      (loaded snapshot count).firstCandidate (indexAt snapshot k) =
        some ⟨tokenAt snapshot (chosen snapshot count (indexAt snapshot k)),
          indexAt snapshot (chosen snapshot count (indexAt snapshot k))⟩ := by
  cases hf : (loaded snapshot count).firstCandidate (indexAt snapshot k) with
  | none =>
    have hmem : (⟨tokenAt snapshot k, indexAt snapshot k⟩ : BilibiliResolvedCandidate) ∈
        (loaded snapshot count).orderedCandidates :=
      mem_mergeSort.mpr ((mem_loaded hcount).mpr ⟨k, hk, rfl⟩)
    have hn := List.find?_eq_none.mp hf _ hmem
    rw [h.candidateSelectionIndex (hk.trans_le hcount)] at hn
    simp at hn
  | some candidate =>
    have hmem := mem_mergeSort.mp (mem_of_find?_eq_some hf)
    obtain ⟨offset, hoff, rfl⟩ := (mem_loaded hcount).mp hmem
    have hindex := List.find?_some hf
    rw [h.candidateSelectionIndex (hoff.trans_le hcount), decide_eq_true_eq] at hindex
    have hchos : chosen snapshot count (indexAt snapshot k) = offset := by
      unfold chosen
      rw [hf]
      show (snapshot.candidateOffsetsByToken _).getD 0 = offset
      rw [h.candidateOffsetsByToken (hoff.trans_le hcount)]
      rfl
    rw [hchos]
    exact ⟨hoff, hindex, rfl⟩

theorem Selectable.chooses :
    Chooses (indexAt snapshot) (chosen snapshot) snapshot.candidates.length := by
  intro count hcount k hk
  obtain ⟨hbelow, hindex, -⟩ := h.firstCandidate hcount hk
  exact ⟨hbelow, hindex⟩

omit h

/-- The state of the selection once both ends are chosen among the loaded candidates. -/
structure Picked (snapshot : BilibiliResolutionSessionSnapshot) (count a b : Nat)
    (s : CandidateSelection) : Prop where
  count_le : count ≤ snapshot.candidates.length
  start_lt : a < count
  stop_lt : b < count
  loaded : s.resolvedCandidates = (Client.loaded snapshot count).resolvedCandidates
  start : s.rangeStartCandidateID = some (tokenAt snapshot a)
  stop : s.rangeEndCandidateID = some (tokenAt snapshot b)

theorem Picked.candidateWithID {count a b k : Nat} (h : Picked snapshot count a b s)
    (hs : Selectable snapshot) (hk : k < count) :
    s.candidateWithID (some (tokenAt snapshot k)) =
      some ⟨tokenAt snapshot k, indexAt snapshot k⟩ := by
  unfold CandidateSelection.candidateWithID
  dsimp only
  rw [if_neg (hs.tokenAt_valid (hk.trans_le h.count_le)).1, h.loaded]
  cases hf : (Client.loaded snapshot count).resolvedCandidates.find? fun candidate =>
      candidate.selectionID = tokenAt snapshot k with
  | none =>
    have hn := List.find?_eq_none.mp hf _ ((mem_loaded h.count_le).mpr ⟨k, hk, rfl⟩)
    simp at hn
  | some candidate =>
    obtain ⟨offset, hoff, rfl⟩ :=
      (mem_loaded h.count_le).mp (mem_of_find?_eq_some hf)
    have htoken : tokenAt snapshot offset = tokenAt snapshot k := by
      simpa using List.find?_some hf
    rw [hs.tokenAt_inj (hoff.trans_le h.count_le) (hk.trans_le h.count_le) htoken]

theorem Picked.bounds {count a b : Nat} (h : Picked snapshot count a b s)
    (hs : Selectable snapshot) :
    s.selectedRangeBounds = some (min (indexAt snapshot a) (indexAt snapshot b),
      max (indexAt snapshot a) (indexAt snapshot b)) := by
  unfold CandidateSelection.selectedRangeBounds CandidateSelection.rangeEndCandidate
    CandidateSelection.rangeStartCandidate CandidateSelection.sortedRangeBounds
  rw [h.start, h.stop, h.candidateWithID hs h.start_lt, h.candidateWithID hs h.stop_lt]
  dsimp only [Option.some_or]
  rw [hs.candidateSelectionIndex (h.start_lt.trans_le h.count_le),
    hs.candidateSelectionIndex (h.stop_lt.trans_le h.count_le)]

/-- The client marks every loaded candidate whose index is between the two ends. -/
theorem Picked.marked {count a b : Nat} (h : Picked snapshot count a b s)
    (hs : Selectable snapshot) :
    s.selectedRangeCandidateIDs =
      (positionsWithin (indexAt snapshot) count (min (indexAt snapshot a) (indexAt snapshot b))
        (max (indexAt snapshot a) (indexAt snapshot b))).image (tokenAt snapshot) := by
  unfold CandidateSelection.selectedRangeCandidateIDs
  rw [h.bounds hs]
  ext token
  rw [mem_toFinset, List.mem_map, mem_image]
  constructor
  · rintro ⟨candidate, hmem, rfl⟩
    obtain ⟨hmem, hbounds⟩ := List.mem_filter.mp hmem
    rw [h.loaded] at hmem
    obtain ⟨offset, hoff, rfl⟩ := (mem_loaded h.count_le).mp hmem
    rw [hs.candidateSelectionIndex (hoff.trans_le h.count_le), decide_eq_true_eq] at hbounds
    exact ⟨offset, mem_positionsWithin.mpr ⟨hoff, hbounds⟩, rfl⟩
  · rintro ⟨offset, hoff, rfl⟩
    obtain ⟨hoff, hbounds⟩ := mem_positionsWithin.mp hoff
    refine ⟨⟨tokenAt snapshot offset, indexAt snapshot offset⟩, List.mem_filter.mpr ⟨?_, ?_⟩, rfl⟩
    · rw [h.loaded]
      exact (mem_loaded h.count_le).mpr ⟨offset, hoff, rfl⟩
    · rw [hs.candidateSelectionIndex (hoff.trans_le h.count_le), decide_eq_true_eq]
      exact hbounds

theorem Picked.count {count a b : Nat} (h : Picked snapshot count a b s)
    (hs : Selectable snapshot) :
    s.selectedCandidateCount =
      (positionsWithin (indexAt snapshot) count (min (indexAt snapshot a) (indexAt snapshot b))
        (max (indexAt snapshot a) (indexAt snapshot b))).card := by
  unfold CandidateSelection.selectedCandidateCount
  rw [h.marked hs]
  apply card_image_of_injOn
  intro i hi j hj htoken
  have hi := (mem_positionsWithin.mp (mem_coe.mp hi)).1
  have hj := (mem_positionsWithin.mp (mem_coe.mp hj)).1
  exact hs.tokenAt_inj (hi.trans_le h.count_le) (hj.trans_le h.count_le) htoken

theorem Picked.request_iff {count a b : Nat} (h : Picked snapshot count a b s)
    (hs : Selectable snapshot) {request : String × String} :
    s.candidateSelectionRequest = some request ↔
      Near maxBilibiliResolutionTaskCandidates (indexAt snapshot a) (indexAt snapshot b) ∧
        request = (tokenAt snapshot (chosen snapshot count
            (min (indexAt snapshot a) (indexAt snapshot b))),
          tokenAt snapshot (chosen snapshot count
            (max (indexAt snapshot a) (indexAt snapshot b)))) := by
  have hfirst : ∀ k < count, s.firstCandidate (indexAt snapshot k) =
      some ⟨tokenAt snapshot (chosen snapshot count (indexAt snapshot k)),
        indexAt snapshot (chosen snapshot count (indexAt snapshot k))⟩ := by
    intro k hk
    rw [firstCandidate_congr h.loaded]
    exact (hs.firstCandidate h.count_le hk).2.2
  unfold CandidateSelection.candidateSelectionRequest
  rw [h.bounds hs]
  dsimp only
  rcases Nat.le_total (indexAt snapshot a) (indexAt snapshot b) with hle | hle
  · rw [min_eq_left hle, max_eq_right hle, hfirst a h.start_lt, hfirst b h.stop_lt]
    split
    · rename_i hspan
      have hnear : Near maxBilibiliResolutionTaskCandidates (indexAt snapshot a)
          (indexAt snapshot b) := by
        rw [Near, min_eq_left hle, max_eq_right hle]
        exact hspan
      simp only [Option.some.injEq, hnear, true_and]
      exact eq_comm
    · rename_i hspan
      have hfar : ¬ Near maxBilibiliResolutionTaskCandidates (indexAt snapshot a)
          (indexAt snapshot b) := by
        rw [Near, min_eq_left hle, max_eq_right hle]
        exact hspan
      simp [hfar]
  · rw [min_eq_right hle, max_eq_left hle, hfirst a h.start_lt, hfirst b h.stop_lt]
    split
    · rename_i hspan
      have hnear : Near maxBilibiliResolutionTaskCandidates (indexAt snapshot a)
          (indexAt snapshot b) := by
        rw [Near, min_eq_right hle, max_eq_left hle]
        exact hspan
      simp only [Option.some.injEq, hnear, true_and]
      exact eq_comm
    · rename_i hspan
      have hfar : ¬ Near maxBilibiliResolutionTaskCandidates (indexAt snapshot a)
          (indexAt snapshot b) := by
        rw [Near, min_eq_right hle, max_eq_left hle]
        exact hspan
      simp [hfar]

include h in
theorem Selectable.message (hi : i < snapshot.candidates.length)
    (hj : j < snapshot.candidates.length) :
    rangeSelectionMessage (tokenAt snapshot i, tokenAt snapshot j) =
      some ⟨3, [], tokenAt snapshot i, tokenAt snapshot j⟩ :=
  if_pos ⟨(h.tokenAt_valid hi).1, (h.tokenAt_valid hj).1⟩

include h in
theorem Selectable.image_inj {first second : Finset Nat}
    (hfirst : ∀ k ∈ first, k < snapshot.candidates.length)
    (hsecond : ∀ k ∈ second, k < snapshot.candidates.length)
    (heq : first.image (tokenAt snapshot) = second.image (tokenAt snapshot)) : first = second := by
  have hsubset : ∀ {one two : Finset Nat}, (∀ k ∈ one, k < snapshot.candidates.length) →
      (∀ k ∈ two, k < snapshot.candidates.length) →
        one.image (tokenAt snapshot) = two.image (tokenAt snapshot) → one ⊆ two := by
    intro one two hone htwo himage k hk
    have hmem := mem_image_of_mem (tokenAt snapshot) hk
    rw [himage] at hmem
    obtain ⟨l, hl, htoken⟩ := mem_image.mp hmem
    rw [← h.tokenAt_inj (htwo l hl) (hone k hk) htoken]
    exact hl
  exact (hsubset hfirst hsecond heq).antisymm (hsubset hsecond hfirst heq.symm)

theorem Picked.agrees_iff {count a b : Nat} (h : Picked snapshot count a b s)
    (hs : Selectable snapshot) :
    SelectionAgrees snapshot s ↔
      PickAgrees maxBilibiliResolutionTaskCandidates (indexAt snapshot) (chosen snapshot) count
        a b := by
  have hchos : ∀ k < count, chosen snapshot count (indexAt snapshot k) < count :=
    fun k hk => (hs.firstCandidate h.count_le hk).1
  have hlow : chosen snapshot count (min (indexAt snapshot a) (indexAt snapshot b)) < count := by
    rcases min_choice (indexAt snapshot a) (indexAt snapshot b) with hmin | hmin
    · rw [hmin]
      exact hchos a h.start_lt
    · rw [hmin]
      exact hchos b h.stop_lt
  have hhigh : chosen snapshot count (max (indexAt snapshot a) (indexAt snapshot b)) < count := by
    rcases max_choice (indexAt snapshot a) (indexAt snapshot b) with hmax | hmax
    · rw [hmax]
      exact hchos a h.start_lt
    · rw [hmax]
      exact hchos b h.stop_lt
  have hfirst := hlow.trans_le h.count_le
  have hlast := hhigh.trans_le h.count_le
  have hmessage := hs.message hfirst hlast
  constructor
  · intro hagrees hnear
    have hreq := (h.request_iff hs).mpr ⟨hnear, rfl⟩
    constructor
    · intro hordered hcount
      have hsel := (hs.selectedTokens_iff hfirst hlast).mpr ⟨hordered, hcount, rfl⟩
      have hsame := hagrees.same _ _ _ hreq hmessage hsel
      rw [h.marked hs] at hsame
      apply hs.image_inj _ _ hsame
      · intro k hk
        exact (mem_Icc.mp hk).2.trans_lt hlast
      · intro k hk
        exact (mem_positionsWithin.mp hk).1.trans_le h.count_le
    · intro hcard
      obtain ⟨selection, tokens, hsent, hsel⟩ :=
        hagrees.accepted _ hreq ((h.count hs).trans_le hcard)
      rw [hmessage] at hsent
      cases hsent
      obtain ⟨hordered, hcount, -⟩ := (hs.selectedTokens_iff hfirst hlast).mp hsel
      exact ⟨hordered, hcount⟩
  · intro hagrees
    constructor
    · intro request selection tokens hreq hsent hsel
      obtain ⟨hnear, rfl⟩ := (h.request_iff hs).mp hreq
      rw [hmessage] at hsent
      cases hsent
      obtain ⟨hordered, hcount, rfl⟩ := (hs.selectedTokens_iff hfirst hlast).mp hsel
      rw [(hagrees hnear).same hordered hcount, h.marked hs]
    · intro request hreq hwithin
      obtain ⟨hnear, rfl⟩ := (h.request_iff hs).mp hreq
      rw [h.count hs] at hwithin
      obtain ⟨hordered, hcount⟩ := (hagrees hnear).ordered hwithin
      exact ⟨_, _, hmessage, (hs.selectedTokens_iff hfirst hlast).mpr ⟨hordered, hcount, rfl⟩⟩

theorem EndpointsPicked.picked (h : EndpointsPicked snapshot s) :
    ∃ count a b, Picked snapshot count a b s := by
  obtain ⟨size, hload⟩ := h.loaded
  have hsame : s.resolvedCandidates =
      (Client.loaded snapshot (min size snapshot.candidates.length)).resolvedCandidates := by
    rw [hload]
    show _ = (snapshot.candidates.take _).map resolvedCandidate
    rw [← take_eq_take_min]
  have hle : min size snapshot.candidates.length ≤ snapshot.candidates.length :=
    Nat.min_le_right _ _
  obtain ⟨start, hs, hstartID⟩ := h.start
  obtain ⟨stop, hstop, hstopID⟩ := h.stop
  rw [hsame] at hs hstop
  obtain ⟨a, ha, rfl⟩ := (mem_loaded hle).mp hs
  obtain ⟨b, hb, rfl⟩ := (mem_loaded hle).mp hstop
  exact ⟨_, a, b, hle, ha, hb, hsame, hstartID, hstopID⟩

theorem exists_picked {count a b : Nat} (hcount : count ≤ snapshot.candidates.length)
    (ha : a < count) (hb : b < count) :
    ∃ s, EndpointsPicked snapshot s ∧ Picked snapshot count a b s := by
  refine ⟨((loaded snapshot count).chooseRangeCandidate
    ⟨tokenAt snapshot a, indexAt snapshot a⟩).chooseRangeCandidate
    ⟨tokenAt snapshot b, indexAt snapshot b⟩, ?_, ?_⟩
  · exact ⟨⟨count, rfl⟩, ⟨_, (mem_loaded hcount).mpr ⟨a, ha, rfl⟩, rfl⟩,
      ⟨_, (mem_loaded hcount).mpr ⟨b, hb, rfl⟩, rfl⟩⟩
  · exact ⟨hcount, ha, hb, rfl, rfl, rfl⟩

/-- For an admitted snapshot the client and the server agree on every range selection exactly if
the indices of the candidates ascend wherever they are within the limit of each other. -/
theorem range_selection_agrees_iff {sizes : OwnedSizes} {request : CreateRequest}
    (hadmitted : request.snapshot sizes = .ok snapshot)
    (hdistinct : (snapshot.candidates.map (·.token)).Nodup) :
    (∀ s, EndpointsPicked snapshot s → SelectionAgrees snapshot s) ↔
      AscendsNearby maxBilibiliResolutionTaskCandidates (indexAt snapshot)
        snapshot.candidates.length := by
  have hs := selectable_of_admitted (snapshot_admitted hadmitted) hdistinct
  rw [← pickAgrees_iff (by decide) hs.chooses]
  constructor
  · intro hagrees count hcount a ha b hb
    obtain ⟨s, hpicked, hoffsets⟩ := exists_picked hcount ha hb
    exact (hoffsets.agrees_iff hs).mp (hagrees s hpicked)
  · intro hagrees s hpicked
    obtain ⟨count, a, b, hoffsets⟩ := hpicked.picked
    exact (hoffsets.agrees_iff hs).mpr
      (hagrees count hoffsets.count_le a hoffsets.start_lt b hoffsets.stop_lt)

end

/-! Two pages of a video, with indices of their own. -/

def samplePage (id contentId : String) (cid : Nat) (index : UInt32) :
    Paging.BilibiliResolvedCandidate :=
  ⟨id, "A page", "", "video", contentId, ⟨.videoPage, some 5, none, some cid, none⟩, index, none, ""⟩

def otherUuid : Uuid := ⟨"00000000000040008000000000000001", by decide⟩

def twoPages (first second : UInt32) : CreateRequest :=
  { sampleRequest with
    resolution :=
      { sampleRequest.resolution with
        candidates := [samplePage "page-1" "7" 7 first, samplePage "page-2" "8" 8 second] }
    draws :=
      { sampleRequest.draws with
        candidate := fun offset => if offset = 0 then sampleUuid else otherUuid } }

theorem exists_snapshot {sizes : OwnedSizes} {request : CreateRequest}
    (h : (request.snapshot sizes).toBool = true) :
    ∃ snapshot, request.snapshot sizes = .ok snapshot := by
  cases hsnap : request.snapshot sizes with
  | error error =>
    rw [hsnap] at h
    cases h
  | ok snapshot => exact ⟨snapshot, rfl⟩

theorem twoPages_distinct {first second : UInt32} {snapshot : BilibiliResolutionSessionSnapshot}
    (h : (twoPages first second).snapshot sampleSizes = .ok snapshot) :
    (snapshot.candidates.map (·.token)).Nodup := by
  rw [(snapshot_admitted h).candidates]
  show [candidateTokenOf sampleUuid, candidateTokenOf otherUuid].Nodup
  decide

theorem range_selection_agrees_iff_ascending :
    ∃ snapshot, (twoPages 1 2).snapshot sampleSizes = .ok snapshot ∧
      ((∀ s, EndpointsPicked snapshot s → SelectionAgrees snapshot s) ↔
        AscendsNearby maxBilibiliResolutionTaskCandidates (indexAt snapshot)
          snapshot.candidates.length) := by
  obtain ⟨snapshot, hsnapshot⟩ := @exists_snapshot sampleSizes (twoPages 1 2) (by decide +kernel)
  exact ⟨snapshot, hsnapshot, range_selection_agrees_iff hsnapshot (twoPages_distinct hsnapshot)⟩

/-- The server refuses the range over two pages whose indices descend. -/
theorem range_selection_descending :
    ∃ snapshot s, (twoPages 2 1).snapshot sampleSizes = .ok snapshot ∧
      (snapshot.candidates.map (·.token)).Nodup ∧ EndpointsPicked snapshot s ∧
      ¬ SelectionAgrees snapshot s := by
  obtain ⟨snapshot, hsnapshot⟩ := @exists_snapshot sampleSizes (twoPages 2 1) (by decide +kernel)
  have hadmitted := snapshot_admitted hsnapshot
  have hdistinct := twoPages_distinct hsnapshot
  have hs := selectable_of_admitted hadmitted hdistinct
  have hlength : snapshot.candidates.length = 2 := by
    rw [hadmitted.candidates]
    rfl
  have hzero : indexAt snapshot 0 = 2 := by
    rw [indexAt, hadmitted.candidates]
    rfl
  have hone : indexAt snapshot 1 = 1 := by
    rw [indexAt, hadmitted.candidates]
    rfl
  obtain ⟨s, hpicked, hoffsets⟩ := @exists_picked snapshot 2 0 1 hlength.ge (by decide) (by decide)
  refine ⟨snapshot, s, hsnapshot, hdistinct, hpicked, ?_⟩
  intro hagrees
  have hrange := (hoffsets.agrees_iff hs).mp hagrees (by rw [hzero, hone]; unfold Near; decide)
  -- The range starts at offset 1 and ends at offset 0.
  have hchosen : ∀ k < 2, chosen snapshot 2 (indexAt snapshot k) = k := by
    intro k hk
    obtain ⟨hbelow, hindex, -⟩ := hs.firstCandidate hlength.ge hk
    have hinj : ∀ i < 2, ∀ j < 2, indexAt snapshot i = indexAt snapshot j → i = j := by
      intro i hi j hj heq
      have hcases : (i = 0 ∨ i = 1) ∧ (j = 0 ∨ j = 1) := by omega
      obtain ⟨rfl | rfl, rfl | rfl⟩ := hcases
      · rfl
      · rw [hzero, hone] at heq
        omega
      · rw [hzero, hone] at heq
        omega
      · rfl
    exact hinj _ hbelow k hk hindex
  have hlow := hchosen 1 (by decide)
  have hhigh := hchosen 0 (by decide)
  rw [hone] at hlow
  rw [hzero] at hhigh
  rw [hzero, hone] at hrange
  have hcard : (positionsWithin (indexAt snapshot) 2 1 2).card ≤
      maxBilibiliResolutionTaskCandidates :=
    (card_filter_le _ _).trans (by decide)
  have hordered := (hrange.ordered hcard).1
  simp only [min_eq_right (show 1 ≤ 2 by decide), max_eq_left (show 1 ≤ 2 by decide), hlow,
    hhigh] at hordered
  omega

end NetPlayer.Client
