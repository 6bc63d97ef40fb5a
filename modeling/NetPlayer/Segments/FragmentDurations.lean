import NetPlayer.Segments.TimingParsing
import Mathlib.Tactic.FieldSimp
import Mathlib.Tactic.Linarith
import Mathlib.Algebra.Order.BigOperators.Group.List

/-!
# The duration that is read for a fragment

The `moof` of a fragment, read with the timing of its movie, lasts as long as its longest track.
-/

namespace NetPlayer.Segments

open Mp4 Slices List Option

section

variable {moov : Moov} {moof : Moof} {traf : Traf} {trafs front back : List Traf}
  {durations : TrackMap} {trackId : Nat}

theorem trackUnits_append : trackUnits moov (front ++ back) trackId =
    trackUnits moov front trackId + trackUnits moov back trackId := by
  simp [trackUnits]

theorem trackUnits_same : trackUnits moov [traf] traf.trackId = traf.units moov := by
  simp [trackUnits]

theorem trackUnits_other (h : traf.trackId ≠ trackId) : trackUnits moov [traf] trackId = 0 := by
  simp [trackUnits, h]

theorem trackUnits_eq_zero (h : ∀ traf ∈ trafs, traf.trackId ≠ trackId) :
    trackUnits moov trafs trackId = 0 := by
  have hn : trafs.filter (fun traf => traf.trackId = trackId) = [] := by
    simpa [filter_eq_nil_iff] using h
  rw [trackUnits, hn]
  rfl

theorem units_le_trackUnits (h : traf ∈ trafs) :
    traf.units moov ≤ trackUnits moov trafs traf.trackId := by
  obtain ⟨front, back, rfl⟩ := append_of_mem h
  rw [append_cons, trackUnits_append, trackUnits_append, trackUnits_same]
  omega

structure Sums (moov : Moov) (trafs : List Traf) (durations : TrackMap) : Prop where
  summed : ∀ entry ∈ durations, entry.2 = trackUnits moov trafs entry.1
  known : ∀ entry ∈ durations, ∃ traf ∈ trafs, traf.trackId = entry.1
  covered : ∀ traf ∈ trafs, ∃ entry ∈ durations, entry.1 = traf.trackId

theorem Sums.nil : Sums moov [] [] := ⟨by simp, by simp, by simp⟩

theorem Sums.entry (h : Sums moov trafs durations) (hunits : trackUnits moov trafs trackId ≠ 0) :
    ∃ entry ∈ durations, entry.1 = trackId := by
  by_contra hn
  apply hunits
  apply trackUnits_eq_zero
  intro traf htraf hid
  obtain ⟨entry, he, hs⟩ := h.covered traf htraf
  exact hn ⟨entry, he, hs.trans hid⟩

theorem Sums.get (h : Sums moov trafs durations) :
    (durations.get trackId).getD 0 = trackUnits moov trafs trackId := by
  unfold TrackMap.get
  cases hf : durations.find? (·.1 = trackId) with
  | some entry =>
    have hid : entry.1 = trackId := by simpa using List.find?_some hf
    rw [← hid]
    exact h.summed entry (mem_of_find?_eq_some hf)
  | none =>
    by_contra hunits
    obtain ⟨entry, he, hid⟩ := h.entry (Ne.symm hunits)
    have hno := List.find?_eq_none.mp hf entry he
    exact hno (by simpa using hid)

theorem Sums.add (h : Sums moov trafs durations)
    (hfit : trackUnits moov (trafs ++ [traf]) traf.trackId ≤ u64Max) :
    ∃ after, durations.add traf.trackId (traf.units moov) = some after ∧
      Sums moov (trafs ++ [traf]) after := by
  have htot : (durations.get traf.trackId).getD 0 + traf.units moov =
      trackUnits moov (trafs ++ [traf]) traf.trackId := by
    rw [h.get, trackUnits_append, trackUnits_same]
  refine ⟨durations.filter (·.1 ≠ traf.trackId) ++
    [(traf.trackId, trackUnits moov (trafs ++ [traf]) traf.trackId)], ?_, ?_, ?_, ?_⟩
  · unfold TrackMap.add
    rw [checkedAdd_eq (by rw [htot]; exact hfit), htot]
    rfl
  · intro entry he
    rcases mem_append.mp he with hold | hn
    · obtain ⟨hm, ho⟩ := mem_filter.mp hold
      have hdifferent : entry.1 ≠ traf.trackId := by simpa using ho
      rw [h.summed entry hm, trackUnits_append, trackUnits_other (Ne.symm hdifferent),
        Nat.add_zero]
    · rw [mem_singleton.mp hn]
  · intro entry he
    rcases mem_append.mp he with hold | hn
    · obtain ⟨other, ho, hid⟩ := h.known entry (mem_filter.mp hold).1
      exact ⟨other, mem_append_left _ ho, hid⟩
    · rw [mem_singleton.mp hn]
      exact ⟨traf, by simp, rfl⟩
  · intro other ho
    by_cases hs : other.trackId = traf.trackId
    · exact ⟨_, mem_append_right _ (mem_singleton.mpr rfl), hs.symm⟩
    have hearl : other ∈ trafs := by
      rcases mem_append.mp ho with hf | hn
      · exact hf
      · rw [mem_singleton.mp hn] at hs
        exact absurd rfl hs
    obtain ⟨entry, he, hid⟩ := h.covered other hearl
    refine ⟨entry, mem_append_left _ (mem_filter.mpr ⟨he, ?_⟩), hid⟩
    rw [hid]
    simpa using hs

/-- A fragment of a track of the movie with a sample, and with a positive duration of every
sample: its own, else the default of the `tfhd`, else that of the `trex`. -/
structure Traf.Timed (moov : Moov) (traf : Traf) : Prop where
  known : ∃ trak ∈ moov.traks, trak.trackId = traf.trackId
  sampled : ∃ trun ∈ traf.truns, trun.samples ≠ []
  positive : ∀ trun ∈ traf.truns, ∀ duration ∈ trun.sampleDurations (traf.default moov),
    ∃ value, duration = some value ∧ 0 < value

def Traf.EmptyRunsTimed (moov : Moov) (traf : Traf) : Prop :=
  ∀ trun ∈ traf.truns, trun.samples = [] →
    hasFlag trun.flags 0x000100 = true ∨ (traf.default moov).isSome

theorem Traf.Timed.source (h : traf.Timed moov) (he : traf.EmptyRunsTimed moov) :
    ∀ trun ∈ traf.truns, hasFlag trun.flags 0x000100 = true ∨ (traf.default moov).isSome := by
  intro trun htrun
  cases hsamples : trun.samples with
  | nil => exact he trun htrun hsamples
  | cons sample rest =>
    cases hfl : hasFlag trun.flags 0x000100 with
    | true => exact .inl rfl
    | false =>
      have hm : traf.default moov ∈ trun.sampleDurations (traf.default moov) := by
        simp [TrunBox.sampleDurations, hsamples, hfl]
      obtain ⟨value, hvalue, -⟩ := h.positive trun htrun _ hm
      rw [hvalue]
      exact .inr rfl

theorem Traf.Timed.units_pos (h : traf.Timed moov) : 0 < traf.units moov := by
  obtain ⟨trun, htrun, hsamples⟩ := h.sampled
  obtain ⟨sample, hsample⟩ := exists_mem_of_ne_nil _ hsamples
  have hm : (if hasFlag trun.flags 0x000100 then some sample.duration.toNat
      else traf.default moov) ∈ trun.sampleDurations (traf.default moov) :=
    List.mem_map_of_mem hsample
  obtain ⟨value, hvalue, hpos⟩ := h.positive trun htrun _ hm
  rw [hvalue] at hm
  have hsum : value ≤ trun.units (traf.default moov) :=
    le_sum_of_mem (List.mem_map.mpr ⟨some value, hm, rfl⟩)
  have htot : trun.units (traf.default moov) ≤ traf.units moov :=
    le_sum_of_mem (List.mem_map_of_mem htrun)
  omega

/-- The visit of `parse_moof_duration_millis_from_payload`. -/
def visitMoof (timing : Mp4TimingContext) (durations : TrackMap) (kind child : Bytes) :
    Option TrackMap :=
  if kind ≠ fourCC "traf" then some durations
  else do
    let (trackId, units) ← parseTrafDurationUnits child timing
    if (timing.timescaleByTrack.get trackId).isNone then none
    else durations.add trackId units

theorem parseMoof_eq {payload : Bytes} {timing : Mp4TimingContext} :
    parseMoofDurationMillisFromPayload payload timing =
      (visitChildBoxes (visitMoof timing) payload []).bind fun durations =>
        (longestTrackMillis timing durations none).bind fun longest =>
          longest.filter (0 < ·) := rfl

theorem visitMoof_trafs {done : List Traf} (hsums : Sums moov done durations)
    (hlimit : ∀ traf ∈ trafs, traf.box.payload.length ≤ maxTimingBoxPayloadLength)
    (htimed : ∀ traf ∈ trafs, traf.Timed moov)
    (he : ∀ traf ∈ trafs, traf.EmptyRunsTimed moov)
    (hfit : ∀ trackId, trackUnits moov (done ++ trafs) trackId ≤ u64Max) :
    ∃ after, trafs.foldlM (fun durations traf =>
        visitChild (visitMoof moov.timing) durations traf.box) durations = some after ∧
      Sums moov (done ++ trafs) after := by
  induction trafs generalizing done durations with
  | nil => exact ⟨durations, rfl, by rwa [append_nil]⟩
  | cons traf rest ih =>
    have hfst := htimed traf mem_cons_self
    have hbd : trackUnits moov (done ++ [traf]) traf.trackId ≤ u64Max := by
      have htot := hfit traf.trackId
      rw [append_cons, trackUnits_append] at htot
      omega
    have hunits : traf.units moov ≤ u64Max := by
      rw [trackUnits_append, trackUnits_same] at hbd
      omega
    obtain ⟨after, hadd, ha⟩ := hsums.add hbd
    have hvisit : visitChild (visitMoof moov.timing) durations traf.box = some after := by
      have hkind : traf.box.kind = fourCC "traf" := rfl
      obtain ⟨trak, htrak, hid⟩ := hfst.known
      have hk := timescale_get htrak
      rw [hid] at hk
      unfold visitChild visitMoof
      rw [if_neg (not_not_intro hkind), parseTrafDurationUnits_traf
        (hlimit traf mem_cons_self)
        (hfst.source (he traf mem_cons_self)) hunits hfst.units_pos]
      simp only [bind, bind_some, hk]
      exact hadd
    rw [append_cons] at hfit ⊢
    rw [foldlM_cons, hvisit]
    exact ih ha (fun other ho => hlimit other (mem_cons_of_mem traf ho))
      (fun other ho => htimed other (mem_cons_of_mem traf ho))
      (fun other ho => he other (mem_cons_of_mem traf ho)) hfit

end

theorem foldl_max_le {α : Type} [LinearOrder α] {values : List α} {start bound : α} :
    values.foldl max start ≤ bound ↔ start ≤ bound ∧ ∀ value ∈ values, value ≤ bound := by
  induction values generalizing start with
  | nil => simp
  | cons value rest ih =>
    rw [foldl_cons, ih, max_le_iff, and_assoc, forall_mem_cons]

theorem longestTrackMillis_some {timing : Mp4TimingContext} {durations : TrackMap}
    {millis : Nat × Nat → Nat} {longest : Nat}
    (h : ∀ entry ∈ durations, trackDurationMillis timing entry.1 entry.2 = some (millis entry)) :
    longestTrackMillis timing durations (some longest) =
      some (some ((durations.map millis).foldl max longest)) := by
  induction durations generalizing longest with
  | nil => rfl
  | cons entry rest ih =>
    rw [longestTrackMillis, h entry mem_cons_self]
    exact ih fun other ho => h other (mem_cons_of_mem entry ho)

theorem millis_eq_ceil {units timescale : Nat} (h : 0 < timescale) :
    (units * 1000 + (timescale - 1)) / timescale = ⌈1000 * ((units : ℚ) / timescale)⌉₊ := by
  apply eq_of_forall_ge_iff
  intro bound
  have hpos : (0 : ℚ) < timescale := by exact_mod_cast h
  have hleft : (units * 1000 + (timescale - 1)) / timescale ≤ bound ↔
      units * 1000 ≤ bound * timescale := by
    rw [← Nat.lt_succ_iff, Nat.div_lt_iff_lt_mul h, Nat.succ_mul]
    omega
  have hright : 1000 * ((units : ℚ) / timescale) ≤ bound ↔
      (units : ℚ) * 1000 ≤ bound * timescale := by
    rw [← mul_div_assoc, div_le_iff₀ hpos, mul_comm (1000 : ℚ)]
  rw [hleft, Nat.ceil_le, hright]
  norm_cast

theorem trackDurationMillis_trak {moov : Moov} {trak : Trak} {units : Nat}
    (htrak : trak ∈ moov.traks) :
    trackDurationMillis moov.timing trak.trackId units =
      if units * 1000 + (trak.timescale - 1) ≤ u64Max then
        some ⌈1000 * ((units : ℚ) / trak.timescale)⌉₊ else none := by
  have hpos : 0 < trak.timescale := trak.timescalePositive
  unfold trackDurationMillis
  rw [timescale_get htrak, filter_some_pos (by simpa using hpos),
    ← millis_eq_ceil hpos]
  simp only [bind, bind_some, checkedMul]
  by_cases hscaled : units * 1000 ≤ u64Max
  · rw [if_pos hscaled, bind_some, checkedAdd]
    split <;> rfl
  · have hrounded : ¬ units * 1000 + (trak.timescale - 1) ≤ u64Max := fun hsum =>
      hscaled (Nat.le_trans (Nat.le_add_right _ _) hsum)
    rw [if_neg hscaled, if_neg hrounded, bind_none]

section

variable {moov : Moov} {moof : Moof}

def MillisFit (moov : Moov) (trafs : List Traf) : Prop :=
  ∀ trak ∈ moov.traks,
    trackUnits moov trafs trak.trackId * 1000 + (trak.timescale - 1) ≤ u64Max

instance {trafs : List Traf} : Decidable (MillisFit moov trafs) :=
  inferInstanceAs (Decidable (∀ trak ∈ moov.traks, _))

variable {durations : TrackMap}

theorem millis_entry {entry : Nat × Nat} {trak : Trak} (hsums : Sums moov moof.trafs durations)
    (he : entry ∈ durations) (htrak : trak ∈ moov.traks) (hid : trak.trackId = entry.1) :
    trackDurationMillis moov.timing entry.1 entry.2 =
      if trackUnits moov moof.trafs trak.trackId * 1000 + (trak.timescale - 1) ≤ u64Max then
        some ⌈1000 * trackSeconds moov moof.trafs trak⌉₊ else none := by
  rw [hsums.summed entry he, ← hid, trackDurationMillis_trak htrak]
  rfl

theorem entry_known {entry : Nat × Nat} (hsums : Sums moov moof.trafs durations)
    (htimed : ∀ traf ∈ moof.trafs, traf.Timed moov) (he : entry ∈ durations) :
    ∃ trak ∈ moov.traks, trak.trackId = entry.1 := by
  obtain ⟨traf, htraf, hid⟩ := hsums.known entry he
  obtain ⟨trak, htrak, hs⟩ := (htimed traf htraf).known
  exact ⟨trak, htrak, hs.trans hid⟩

theorem longest_eq_ceil {millis : Nat × Nat → Nat}
    (hsums : Sums moov moof.trafs durations) (htimed : ∀ traf ∈ moof.trafs, traf.Timed moov)
    (hmillis : ∀ entry ∈ durations, ∀ trak ∈ moov.traks, trak.trackId = entry.1 →
      millis entry = ⌈1000 * trackSeconds moov moof.trafs trak⌉₊) :
    (durations.map millis).foldl max 0 = ⌈1000 * longestSeconds moov moof⌉₊ := by
  apply eq_of_forall_ge_iff
  intro bound
  have hthousand : (0 : ℚ) < 1000 := by norm_num
  have hnonneg : (0 : ℚ) ≤ bound / 1000 := by positivity
  have hlongest : ⌈1000 * longestSeconds moov moof⌉₊ ≤ bound ↔
      ∀ trak ∈ moov.traks, ⌈1000 * trackSeconds moov moof.trafs trak⌉₊ ≤ bound := by
    simp only [Nat.ceil_le, longestSeconds, ← le_div_iff₀' hthousand, foldl_max_le, hnonneg,
      true_and, List.forall_mem_map]
  rw [foldl_max_le, hlongest]
  constructor
  · rintro ⟨-, hes⟩ trak htrak
    by_cases he : ∃ entry ∈ durations, entry.1 = trak.trackId
    · obtain ⟨entry, hm, hid⟩ := he
      rw [← hmillis entry hm trak htrak hid.symm]
      exact hes _ (List.mem_map_of_mem hm)
    · have hzero : trackUnits moov moof.trafs trak.trackId = 0 :=
        of_not_not (mt hsums.entry he)
      simp [trackSeconds, hzero]
  · intro htracks
    refine ⟨Nat.zero_le _, List.forall_mem_map.mpr ?_⟩
    intro entry he
    obtain ⟨trak, htrak, hid⟩ := entry_known hsums htimed he
    rw [hmillis entry he trak htrak hid]
    exact htracks trak htrak

theorem longestSeconds_pos (htimed : ∀ traf ∈ moof.trafs, traf.Timed moov)
    (hs : moof.trafs ≠ []) : 0 < longestSeconds moov moof := by
  obtain ⟨traf, htraf⟩ := exists_mem_of_ne_nil _ hs
  obtain ⟨trak, htrak, hid⟩ := (htimed traf htraf).known
  have hunits : 0 < trackUnits moov moof.trafs trak.trackId := by
    rw [hid]
    exact Nat.lt_of_lt_of_le (htimed traf htraf).units_pos (units_le_trackUnits htraf)
  have htimescale : 0 < trak.timescale := trak.timescalePositive
  have htrack : 0 < trackSeconds moov moof.trafs trak := by
    unfold trackSeconds
    positivity
  have hle := (foldl_max_le.mp (le_refl (longestSeconds moov moof))).2 _ (List.mem_map_of_mem htrak)
  exact lt_of_lt_of_le htrack hle

theorem sums_of_moof (hlimit : moof.box.payload.length ≤ maxTimingBoxPayloadLength)
    (htimed : ∀ traf ∈ moof.trafs, traf.Timed moov)
    (he : ∀ traf ∈ moof.trafs, traf.EmptyRunsTimed moov)
    (hfit : ∀ traf ∈ moof.trafs, trackUnits moov moof.trafs traf.trackId ≤ u64Max) :
    ∃ durations, visitChildBoxes (visitMoof moov.timing) moof.box.payload [] = some durations ∧
      Sums moov moof.trafs durations := by
  have hall : ∀ trackId, trackUnits moov moof.trafs trackId ≤ u64Max := by
    intro trackId
    by_cases hk : ∃ traf ∈ moof.trafs, traf.trackId = trackId
    · obtain ⟨traf, htraf, rfl⟩ := hk
      exact hfit traf htraf
    · rw [trackUnits_eq_zero fun traf htraf hid => hk ⟨traf, htraf, hid⟩]
      exact Nat.zero_le _
  obtain ⟨durations, hfold, hsums⟩ := visitMoof_trafs (@Sums.nil moov)
    (fun traf htraf => item_payload_le htraf hlimit) htimed he hall
  refine ⟨durations, ?_, hsums⟩
  rw [Moof.box, visitChildBoxes_children hlimit, foldlM_items]
  · exact hfold
  · exact fun state box => if_pos (box.foreign "traf" (by simp))

theorem longestTrackMillis_none {timing : Mp4TimingContext} {longest : Option Nat}
    (h : ∃ entry ∈ durations, trackDurationMillis timing entry.1 entry.2 = none) :
    longestTrackMillis timing durations longest = none := by
  induction durations generalizing longest with
  | nil =>
    obtain ⟨entry, he, -⟩ := h
    cases he
  | cons entry rest ih =>
    rw [longestTrackMillis]
    cases hfst : trackDurationMillis timing entry.1 entry.2 with
    | none => rfl
    | some millis =>
      obtain ⟨other, ho, hn⟩ := h
      rcases mem_cons.mp ho with rfl | hr
      · rw [hfst] at hn
        cases hn
      · exact ih ⟨other, hr, hn⟩

theorem longestTrackMillis_sums (hsums : Sums moov moof.trafs durations) (hsome : moof.trafs ≠ [])
    (htimed : ∀ traf ∈ moof.trafs, traf.Timed moov) :
    longestTrackMillis moov.timing durations none =
      if MillisFit moov moof.trafs then some (some ⌈1000 * longestSeconds moov moof⌉₊)
      else none := by
  split
  · next hfit =>
    have hmillis : ∀ entry ∈ durations, ∀ trak ∈ moov.traks, trak.trackId = entry.1 →
        trackDurationMillis moov.timing entry.1 entry.2 =
          some ⌈1000 * trackSeconds moov moof.trafs trak⌉₊ := by
      intro entry he trak htrak hid
      rw [millis_entry hsums he htrak hid, if_pos (hfit trak htrak)]
    have hr : ∀ entry ∈ durations, trackDurationMillis moov.timing entry.1 entry.2 =
        some ((trackDurationMillis moov.timing entry.1 entry.2).getD 0) := by
      intro entry he
      obtain ⟨trak, htrak, hid⟩ := entry_known hsums htimed he
      rw [hmillis entry he trak htrak hid]
      rfl
    have hs : longestTrackMillis moov.timing durations none =
        longestTrackMillis moov.timing durations (some 0) := by
      obtain ⟨traf, htraf⟩ := exists_mem_of_ne_nil _ hsome
      obtain ⟨entry, he, -⟩ := hsums.covered traf htraf
      cases durations with
      | nil => cases he
      | cons first rest => rfl
    rw [hs, longestTrackMillis_some hr, longest_eq_ceil hsums htimed]
    intro entry he trak htrak hid
    rw [hmillis entry he trak htrak hid]
    rfl
  · next hover =>
    unfold MillisFit at hover
    push Not at hover
    obtain ⟨trak, htrak, hlarge⟩ := hover
    have hunits : trackUnits moov moof.trafs trak.trackId ≠ 0 := by
      have hsmall : trak.timescale < 2 ^ 32 := trak.mdia.mdhd.value.toNat_lt
      have hmax : 2 ^ 32 ≤ u64Max := by decide
      omega
    obtain ⟨entry, hm, hid⟩ := hsums.entry hunits
    refine longestTrackMillis_none ⟨entry, hm, ?_⟩
    rw [millis_entry hsums hm htrak hid.symm, if_neg (Nat.not_le.mpr hlarge)]

theorem parseMoof_moof (hlimit : moof.box.payload.length ≤ maxTimingBoxPayloadLength)
    (hs : moof.trafs ≠ []) (htimed : ∀ traf ∈ moof.trafs, traf.Timed moov)
    (he : ∀ traf ∈ moof.trafs, traf.EmptyRunsTimed moov)
    (hfit : ∀ traf ∈ moof.trafs, trackUnits moov moof.trafs traf.trackId ≤ u64Max) :
    parseMoofDurationMillisFromPayload moof.box.payload moov.timing =
      if MillisFit moov moof.trafs then some ⌈1000 * longestSeconds moov moof⌉₊ else none := by
  obtain ⟨durations, hvisit, hsums⟩ := sums_of_moof hlimit htimed he hfit
  have hpos : 0 < ⌈1000 * longestSeconds moov moof⌉₊ := by
    rw [Nat.ceil_pos]
    have hlongest := longestSeconds_pos htimed hs
    positivity
  rw [parseMoof_eq, hvisit, bind_some, longestTrackMillis_sums hsums hs htimed]
  split
  · simp [Option.filter, hpos]
  · rfl

end

structure FragmentFile where
  moov : Moov
  before : List Box
  after : List Box
  between : Bytes
  moof : Moof
  rest : Bytes
  beforeOther : ∀ box ∈ before, box.kind ≠ fourCC "moov"
  afterOther : ∀ box ∈ after, box.kind ≠ fourCC "moov"

namespace FragmentFile

def initialization (file : FragmentFile) : Bytes :=
  encodeAll file.before ++ file.moov.box.encode ++ encodeAll file.after

def moofOffset (file : FragmentFile) : Nat := file.initialization.length + file.between.length

def encode (file : FragmentFile) : Bytes :=
  file.initialization ++ file.between ++ file.moof.box.encode ++ file.rest

def fragmentDurationMillis (file : FragmentFile) : Except ReadError (Option Nat) := do
  match ← parseTimingContext file.encode file.initialization.length file.encode.length with
  | none => return none
  | some timing =>
    match ← readBoxHeader file.encode file.moofOffset file.encode.length with
    | none => return none
    | some header => parseMoofDurationMillis file.encode header timing

structure WithinLimits (file : FragmentFile) : Prop where
  moov : file.moov.box.payload.length ≤ maxTimingBoxPayloadLength
  moof : file.moof.box.payload.length ≤ maxTimingBoxPayloadLength
  length : file.encode.length ≤ u64Max

variable {file : FragmentFile}

theorem timingOf_others {boxes : List Box} {context : Mp4TimingContext}
    (h : ∀ box ∈ boxes, box.kind ≠ fourCC "moov") : timingOf boxes context = some context := by
  induction boxes with
  | nil => rfl
  | cons box rest ih =>
    rw [timingOf, foldlM_cons, if_neg (h box mem_cons_self)]
    exact ih fun other ho => h other (mem_cons_of_mem box ho)

theorem parseTimingContext_file (hlimits : file.WithinLimits) (htracks : file.moov.traks ≠ []) :
    parseTimingContext file.encode file.initialization.length file.encode.length =
      .ok (some file.moov.timing) := by
  have hat : At file.encode 0 (encodeAll (file.before ++
      [file.moov.box.toBox hlimits.moov] ++ file.after)) := by
    refine @at_of_drop _ _ (file.between ++ file.moof.box.encode ++ file.rest) _ ?_
    simp [encode, initialization, ChildBox.encode_toBox]
  have hlen : 0 + (encodeAll (file.before ++
      [file.moov.box.toBox hlimits.moov] ++ file.after)).length =
        file.initialization.length := by
    simp [initialization, ChildBox.encode_toBox]
  have hin : file.initialization.length ≤ file.encode.length := by
    simp only [encode, length_append]
    omega
  have hlimit : WithinLimit "moov" (file.before ++
      [file.moov.box.toBox hlimits.moov] ++ file.after) := by
    intro box hbox hkind
    simp only [mem_append, mem_singleton] at hbox
    rcases hbox with (hb | rfl) | ha
    · exact absurd hkind (file.beforeOther box hb)
    · exact hlimits.moov
    · exact absurd hkind (file.afterOther box ha)
  have htiming : timingOf (file.before ++ [file.moov.box.toBox hlimits.moov] ++ file.after)
      .default = some file.moov.timing := by
    have hkind : (file.moov.box.toBox hlimits.moov).kind = fourCC "moov" := rfl
    have hb := @timingOf_others _ .default file.beforeOther
    have ha := @timingOf_others _ file.moov.timing file.afterOther
    unfold timingOf at hb ha ⊢
    rw [foldlM_append, foldlM_append, hb]
    change (((parseMoovTiming file.moov.box.payload .default).bind _).bind _) = _
    rw [parseMoovTiming_moov hlimits.moov]
    exact ha
  have hfrom := timingFrom_boxes hat hlen hin (Nat.le_refl _) hlimits.length hlimit htiming
    (show file.initialization.length < 0 + (file.initialization.length + 1) by omega)
  have hne : file.moov.timing.timescaleByTrack.isEmpty = false := by
    simpa [Moov.timing] using htracks
  unfold parseTimingContext
  rw [hfrom]
  simp [bind, Except.bind, pure, Except.pure, hne]

theorem readBoxHeader_file (hlimits : file.WithinLimits) :
    readBoxHeader file.encode file.moofOffset file.encode.length =
        .ok (some (boxHeader file.moofOffset (file.moof.box.toBox hlimits.moof))) ∧
      readBoxPayloadLimited file.encode
          (boxHeader file.moofOffset (file.moof.box.toBox hlimits.moof))
          maxTimingBoxPayloadLength = .ok (some file.moof.box.payload) := by
  have hat : At file.encode file.moofOffset (file.moof.box.toBox hlimits.moof).encode := by
    refine @at_of_drop _ _ file.rest _ ?_
    have hfront : file.encode = (file.initialization ++ file.between) ++
        (file.moof.box.encode ++ file.rest) := by
      simp [encode]
    rw [hfront, moofOffset, ← length_append, drop_left]
    rfl
  have hbd := hat.bound encode_ne_nil
  rw [Box.length_encode] at hbd
  have hlen := hlimits.length
  exact ⟨readBoxHeader_box hat (Nat.le_refl _) hbd hlen,
    readBoxPayload_box hat (Nat.le_trans hbd hlen) hlimits.moof⟩

theorem fragmentDurationMillis_eq (hlimits : file.WithinLimits) (htracks : file.moov.traks ≠ []) :
    file.fragmentDurationMillis =
      .ok (parseMoofDurationMillisFromPayload file.moof.box.payload file.moov.timing) := by
  obtain ⟨hheader, hpay⟩ := readBoxHeader_file hlimits
  unfold fragmentDurationMillis
  rw [parseTimingContext_file hlimits htracks]
  simp only [bind, Except.bind, hheader]
  unfold parseMoofDurationMillis
  rw [hpay]
  rfl

/-- A `moof` of timed fragments of the movie's tracks is read, with the timing of the movie, as the
milliseconds of its longest track, rounded up, unless the milliseconds of a track do not fit a
word. -/
theorem fragment_duration_decoded (hlimits : file.WithinLimits) (hsome : file.moof.trafs ≠ [])
    (htimed : ∀ traf ∈ file.moof.trafs, traf.Timed file.moov)
    (hempty : ∀ traf ∈ file.moof.trafs, traf.EmptyRunsTimed file.moov)
    (hfits : ∀ traf ∈ file.moof.trafs,
      trackUnits file.moov file.moof.trafs traf.trackId ≤ u64Max) :
    file.fragmentDurationMillis =
      .ok (if MillisFit file.moov file.moof.trafs then
        some ⌈1000 * longestSeconds file.moov file.moof⌉₊ else none) := by
  have htracks : file.moov.traks ≠ [] := by
    obtain ⟨traf, htraf⟩ := exists_mem_of_ne_nil _ hsome
    obtain ⟨trak, htrak, -⟩ := (htimed traf htraf).known
    exact ne_nil_of_mem htrak
  rw [fragmentDurationMillis_eq hlimits htracks,
    parseMoof_moof hlimits.moof hsome htimed hempty hfits]

def oneNumber (value : UInt32) : VersionedBox :=
  ⟨false, false, List.replicate 11 0, value, [], rfl⟩

def oneTrak : Trak where
  large := false
  before := []
  tkhd := oneNumber 1
  between := []
  mdia := ⟨true, [], oneNumber 1000, []⟩
  after := []
  isMdiaFirst := true
  trackIdNonzero := by decide
  timescalePositive := by decide

def oneMoov : Moov := ⟨false, [.item (.trak oneTrak)], by decide, by decide⟩

def oneTrackFile (trafs : List Traf) : FragmentFile where
  moov := oneMoov
  before := []
  after := []
  between := []
  moof := ⟨false, trafs.map .item⟩
  rest := []
  beforeOther := by simp
  afterOther := by simp

/-- A fragment of the track, with a default if there is one. -/
def oneTraf (sampleDuration : Option UInt32) (runs : List TrunBox) : Traf where
  large := false
  before := []
  tfhd :=
    { large := false, version := 0, flags := if sampleDuration.isSome then 8 else 0, track := 1,
      baseDataOffset := 0, sampleDescriptionIndex := 0, sampleDuration := sampleDuration.getD 0,
      sampleSize := 0, sampleFlags := 0, flagsFit := by split <;> decide }
  children := runs.map .item

def emptyRun : TrunBox := ⟨false, 0, 0, 0, 0, [], by decide, by decide⟩

def ownRun : TrunBox := ⟨false, 0, 0x000100, 0, 0, [⟨1500, 0, 0, 0⟩], by decide, by decide⟩

def defaultRun : TrunBox :=
  ⟨false, 0, 0, 0, 0, List.replicate 2 ⟨0, 0, 0, 0⟩, by decide, by decide⟩

def twoTrafs : List Traf :=
  [oneTraf none [ownRun], oneTraf (some 1000) [emptyRun, defaultRun]]

variable {sampleDuration : Option UInt32}

theorem oneTraf_truns {runs : List TrunBox} : (oneTraf sampleDuration runs).truns = runs := by
  unfold Traf.truns oneTraf items
  simp [filterMap_map, Function.comp_def, Child.item?]

theorem oneTrackFile_trafs {trafs : List Traf} : (oneTrackFile trafs).moof.trafs = trafs := by
  unfold Moof.trafs oneTrackFile items
  simp [filterMap_map, Function.comp_def, Child.item?]

theorem oneTraf_timed {runs : List TrunBox} (hsampled : ∃ run ∈ runs, run.samples ≠ [])
    (hpos : ∀ run ∈ runs, ∀ duration ∈ run.sampleDurations
      ((oneTraf sampleDuration runs).default oneMoov), 0 < duration.getD 0) :
    (oneTraf sampleDuration runs).Timed oneMoov := by
  refine ⟨⟨oneTrak, mem_singleton.mpr rfl, rfl⟩, ?_, ?_⟩
  · rw [oneTraf_truns]
    exact hsampled
  · rw [oneTraf_truns]
    intro run hrun duration hdur
    have hvalue := hpos run hrun duration hdur
    cases duration with
    | none => exact absurd hvalue (by decide)
    | some value => exact ⟨value, rfl, hvalue⟩

theorem twoTrafs_timed : ∀ traf ∈ twoTrafs, traf.Timed oneMoov := by
  unfold twoTrafs
  rw [forall_mem_cons, forall_mem_singleton]
  exact ⟨oneTraf_timed ⟨ownRun, by simp, by decide⟩ (by decide),
    oneTraf_timed ⟨defaultRun, by simp, by decide⟩ (by decide)⟩

theorem twoTrafs_emptyRunsTimed : ∀ traf ∈ twoTrafs, traf.EmptyRunsTimed oneMoov := by
  unfold twoTrafs Traf.EmptyRunsTimed
  decide

theorem fragment_duration_decoded_two : (oneTrackFile twoTrafs).fragmentDurationMillis =
    .ok (if MillisFit oneMoov (oneTrackFile twoTrafs).moof.trafs then
      some ⌈1000 * longestSeconds oneMoov (oneTrackFile twoTrafs).moof⌉₊ else none) :=
  fragment_duration_decoded ⟨by decide +kernel, by decide +kernel, by decide +kernel⟩
    (by decide) (oneTrackFile_trafs ▸ twoTrafs_timed) (oneTrackFile_trafs ▸ twoTrafs_emptyRunsTimed)
    (by decide +kernel)

example : (oneTrackFile twoTrafs).fragmentDurationMillis = .ok (some 3500) := by
  decide +kernel

def emptyRunTraf : Traf := oneTraf none [emptyRun, ownRun]

/-- A `moof` without fragments has no duration, and neither has one with a run of no samples that
nothing gives a duration, although the fragment is timed. -/
theorem fragment_without_duration :
    ((oneTrackFile []).WithinLimits ∧ (oneTrackFile []).moof.trafs = [] ∧
      (oneTrackFile []).fragmentDurationMillis = .ok none) ∧
    ((oneTrackFile [emptyRunTraf]).WithinLimits ∧ emptyRunTraf.Timed oneMoov ∧
      MillisFit oneMoov [emptyRunTraf] ∧
      (oneTrackFile [emptyRunTraf]).fragmentDurationMillis = .ok none) := by
  refine ⟨⟨⟨by decide +kernel, by decide +kernel, by decide +kernel⟩, rfl, by decide +kernel⟩,
    ⟨by decide +kernel, by decide +kernel, by decide +kernel⟩, ?_, by decide +kernel,
    by decide +kernel⟩
  exact oneTraf_timed ⟨ownRun, by simp, by decide⟩ (by decide)

/-- What is read of the initialization is what the movie was made from, whatever boxes of other kinds
are around it. -/
theorem timing_context_round_trip (hlimits : file.WithinLimits) (htracks : file.moov.traks ≠ []) :
    parseTimingContext file.encode file.initialization.length file.encode.length =
      .ok (some file.moov.timing) :=
  parseTimingContext_file hlimits htracks

theorem timing_context_round_trip_one :
    parseTimingContext (oneTrackFile []).encode (oneTrackFile []).initialization.length
      (oneTrackFile []).encode.length = .ok (some oneMoov.timing) :=
  timing_context_round_trip ⟨by decide +kernel, by decide +kernel, by decide +kernel⟩ (by decide)

end FragmentFile

end NetPlayer.Segments
