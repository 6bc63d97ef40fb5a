import NetPlayer.Segments.Fragments

/-!
# The segment table of a cached file

What `mp4_fragment_ranges` returns is a partition of the media after the
initialization into fragments, and a file that is made of fragments has one.
-/

namespace NetPlayer.Segments

open Mp4 Slices List Option

def At (file : Bytes) (offset : Nat) (part : Bytes) : Prop :=
  file.drop offset = part ++ file.drop (offset + part.length)

section

variable {file part rest front back : Bytes} {offset totalLength fuel : Nat} {box : Box}
  {boxes : List Box} {header : Mp4BoxHeader} {timing : Mp4TimingContext}

theorem at_nil : At file offset [] := rfl

theorem At.append (hfront : At file offset front) (hback : At file (offset + front.length) back) :
    At file offset (front ++ back) := by
  unfold At at *
  rw [hfront, hback, append_assoc, length_append, Nat.add_assoc]

theorem at_of_drop (h : file.drop offset = part ++ rest) : At file offset part := by
  have hrest : file.drop (offset + part.length) = rest := by
    rw [← drop_drop, h, drop_left]
  rw [At, hrest, h]

theorem At.left (h : At file offset (front ++ back)) : At file offset front := by
  unfold At at h
  rw [append_assoc] at h
  exact at_of_drop h

theorem At.right (h : At file offset (front ++ back)) : At file (offset + front.length) back := by
  have hfront := h.left
  unfold At at h
  rw [hfront, append_assoc] at h
  exact at_of_drop (append_cancel_left h)

theorem At.bound (h : At file offset part) (hpart : part ≠ []) :
    offset + part.length ≤ file.length := by
  have hlength := congrArg List.length h
  have hpos : 0 < part.length := length_pos_iff.mpr hpart
  simp only [length_append, length_drop] at hlength
  omega

theorem At.slice (h : At file offset part) : slice file offset (offset + part.length) = part := by
  rw [Slices.slice, h, Nat.add_sub_cancel_left, take_left]

theorem encode_ne_nil : box.encode ≠ [] := by
  have hpos := @Box.size_pos box
  rw [← Box.length_encode] at hpos
  intro hnil
  rw [hnil] at hpos
  exact absurd hpos (by decide)

def boxHeader (offset : Nat) (box : Box) : Mp4BoxHeader :=
  ⟨offset, box.headerLength, box.size, box.kind⟩

variable {a b sum count size32 headerLength size limit mid : Nat}

theorem checkedAdd_eq (h : a + b ≤ u64Max) : checkedAdd a b = some (a + b) := if_pos h

theorem checkedAdd_some (h : checkedAdd a b = some sum) : sum = a + b ∧ a + b ≤ u64Max := by
  unfold checkedAdd at h
  split at h
  · cases h
    exact ⟨rfl, ‹_›⟩
  · cases h

theorem readExact_eq (h : offset + count ≤ file.length) :
    readExact file offset count = .ok ((file.drop offset).take count) := if_pos h

theorem take_header : ((file.take 8).take 4 = file.take 4) ∧
    (((file.take 8).drop 4).take 4 = (file.drop 4).take 4) := by
  constructor
  · exact take_take
  · rw [drop_take]
    exact take_take

section

variable (hat : At file offset box.encode) (htotal : totalLength ≤ file.length)
  (hbound : offset + box.size ≤ totalLength) (hmax : totalLength ≤ u64Max)
include hat htotal hbound hmax

theorem boxSize_box :
    boxSize file offset totalLength (beNat ((file.drop offset).take 4)) =
      .ok (some (box.headerLength, box.size)) := by
  have hlarge := @Box.size_pos box
  cases hkind : box.large with
  | false =>
    have hsize := @beNat_small (file.drop (offset + box.encode.length)) box hkind
    rw [← hat] at hsize
    have hheader : box.headerLength = 8 := by simp [Box.headerLength, hkind]
    rw [boxSize, hsize, if_neg (by omega), if_neg (by omega), hheader]
    rfl
  | true =>
    have hmarker := @beNat_large_marker (file.drop (offset + box.encode.length)) box hkind
    have hsize := @beNat_large (file.drop (offset + box.encode.length)) box hkind
    rw [← hat] at hmarker hsize
    have hheader : box.headerLength = 16 := by simp [Box.headerLength, hkind]
    have hfit : 16 ≤ box.size := by
      rw [← hheader]
      exact Nat.le_add_right _ _
    rw [drop_drop] at hsize
    simp only [boxSize, hmarker, checkedAdd_eq (show offset + 16 ≤ u64Max by omega),
      if_neg (show ¬ totalLength < offset + 16 by omega),
      readExact_eq (show offset + 8 + 8 ≤ file.length by omega)]
    simp only [bind, Except.bind, pure, Except.pure, hsize, hheader]
    rfl

theorem readBoxHeader_box :
    readBoxHeader file offset totalLength = .ok (some (boxHeader offset box)) := by
  have hlarge := @Box.size_pos box
  have hsize := boxSize_box hat htotal hbound hmax
  have hkind : ((file.drop offset).drop 4).take 4 = box.kind := by
    rw [hat]
    exact kind_encode
  unfold readBoxHeader
  simp only [checkedAdd_eq (show offset + 8 ≤ u64Max by omega),
    if_neg (show ¬ totalLength < offset + 8 by omega),
    readExact_eq (show offset + 8 ≤ file.length by omega)]
  simp only [bind, Except.bind, pure, Except.pure, take_header.1, take_header.2, hsize, hkind,
    checkedAdd_eq (show offset + box.size ≤ u64Max by omega),
    if_neg (show ¬ box.size < box.headerLength by exact not_lt.mpr (Nat.le_add_right _ _)),
    if_neg (show ¬ totalLength < offset + box.size by omega)]
  rfl

end

variable (htotal : totalLength ≤ file.length)

include htotal

theorem boxSize_some
    (h : boxSize file offset totalLength size32 = .ok (some (headerLength, size))) :
    headerLength = 8 ∧ size = size32 ∨
      headerLength = 16 ∧ size32 = 1 ∧ size = beNat ((file.drop (offset + 8)).take 8) := by
  unfold boxSize at h
  split at h
  · cases h
  split at h
  · split at h
    · cases h
    next largeHeaderEnd hsum =>
      obtain ⟨rfl, -⟩ := checkedAdd_some hsum
      split at h
      · cases h
      next hfit =>
        rw [readExact_eq (by omega)] at h
        cases h
        exact .inr ⟨rfl, ‹_›, rfl⟩
  · cases h
    exact .inl ⟨rfl, rfl⟩

theorem box_of_size (hsize : boxSize file offset totalLength (beNat ((file.drop offset).take 4)) =
      .ok (some (headerLength, size))) (hheader : headerLength ≤ size)
    (hlength : size ≤ (file.drop offset).length) (hbound : offset + size ≤ totalLength)
    (hmax : offset + size ≤ u64Max) :
    ∃ box : Box, (⟨offset, headerLength, size, ((file.drop offset).drop 4).take 4⟩ :
        Mp4BoxHeader) = boxHeader offset box ∧ At file offset box.encode ∧
      offset + box.size ≤ totalLength ∧ offset + box.size ≤ u64Max := by
  rcases boxSize_some htotal hsize with ⟨rfl, hsmall⟩ | ⟨rfl, hmarker, hlarge⟩
  · obtain ⟨box, hkind, hname, hboxSize, hbytes⟩ := exists_small_box hsmall.symm hheader hlength
    have hheaderLength : box.headerLength = 8 := by simp [Box.headerLength, hkind]
    refine ⟨box, ?_, at_of_drop hbytes, hboxSize ▸ hbound, hboxSize ▸ hmax⟩
    rw [boxHeader, hheaderLength, hboxSize, hname]
  · rw [← drop_drop] at hlarge
    obtain ⟨box, hkind, hname, hboxSize, hbytes⟩ :=
      exists_large_box hmarker hlarge.symm hheader hlength
    have hheaderLength : box.headerLength = 16 := by simp [Box.headerLength, hkind]
    refine ⟨box, ?_, at_of_drop hbytes, hboxSize ▸ hbound, hboxSize ▸ hmax⟩
    rw [boxHeader, hheaderLength, hboxSize, hname]

theorem readBoxHeader_some (h : readBoxHeader file offset totalLength = .ok (some header)) :
    ∃ box : Box, header = boxHeader offset box ∧ At file offset box.encode ∧
      offset + box.size ≤ totalLength ∧ offset + box.size ≤ u64Max := by
  unfold readBoxHeader at h
  split at h
  · cases h
  next headerEnd hheaderEnd =>
    obtain ⟨rfl, -⟩ := checkedAdd_some hheaderEnd
    split at h
    · cases h
    next hfit =>
      rw [readExact_eq (by omega)] at h
      simp only [bind, Except.bind, pure, Except.pure, take_header.1, take_header.2] at h
      cases hsize : boxSize file offset totalLength (beNat ((file.drop offset).take 4)) with
      | error error => simp [hsize] at h
      | ok found =>
        simp only [hsize] at h
        cases found with
        | none => cases h
        | some found =>
          obtain ⟨headerLength, size⟩ := found
          simp only at h
          split at h
          · cases h
          next hheader =>
            split at h
            · cases h
            next stop hstop =>
              obtain ⟨rfl, hmax⟩ := checkedAdd_some hstop
              split at h
              · cases h
              next hbound =>
                cases h
                have hlength : size ≤ (file.drop offset).length := by
                  rw [length_drop]
                  omega
                exact box_of_size htotal hsize (Nat.le_of_not_lt hheader) hlength
                  (Nat.le_of_not_lt hbound) hmax

omit htotal

theorem boxHeader_stop (hmax : offset + box.size ≤ u64Max) :
    (boxHeader offset box).stop = some (offset + box.encode.length) := by
  rw [Box.length_encode]
  exact checkedAdd_eq hmax

theorem readBoxPayload_box (hat : At file offset box.encode) (hmax : offset + box.size ≤ u64Max)
    (hlimit : box.payload.length ≤ limit) :
    readBoxPayloadLimited file (boxHeader offset box) limit = .ok (some box.payload) := by
  have hbound := hat.bound encode_ne_nil
  rw [Box.length_encode] at hbound
  have hsize : box.size = box.headerLength + box.payload.length := rfl
  have hpayloadOffset : (boxHeader offset box).payloadOffset =
      some (offset + box.headerLength) := checkedAdd_eq (by
    show offset + box.headerLength ≤ u64Max
    omega)
  have hpayloadLength : (boxHeader offset box).payloadLength = some box.payload.length := by
    have hle : box.headerLength ≤ box.size := by omega
    have hsub : box.size - box.headerLength = box.payload.length := by omega
    show (if box.headerLength ≤ box.size then some (box.size - box.headerLength) else none) = _
    rw [if_pos hle, hsub]
  have hpay : At file (offset + box.headerLength) box.payload := by
    have hright := At.right (show At file offset (box.header ++ box.payload) from hat)
    rw [Box.length_header] at hright
    exact hright
  unfold readBoxPayloadLimited
  rw [hpayloadOffset, hpayloadLength]
  simp only [if_neg (not_lt.mpr hlimit)]
  rw [readExact_eq (by omega), hpay, take_left]
  rfl

/-- The boxes that may stand around the `moof` of a fragment. -/
def OtherBoxes (boxes : List Box) : Prop :=
  ∀ box ∈ boxes, box.kind ≠ fourCC "moof" ∧ box.kind ≠ fourCC "mdat"

structure Mp4Fragment where
  before : List Box
  moof : Box
  between : List Box
  mdat : Box
  othersBefore : OtherBoxes before
  isMoof : moof.kind = fourCC "moof"
  othersBetween : OtherBoxes between
  isMdat : mdat.kind = fourCC "mdat"

def Mp4Fragment.encode (fragment : Mp4Fragment) : Bytes :=
  encodeAll (fragment.before ++ fragment.moof :: (fragment.between ++ [fragment.mdat]))

def Partition : Nat → List Mp4SegmentRange → Nat → Prop
  | start, [], stop => start = stop
  | start, segment :: rest, stop =>
    segment.offset = start ∧ 0 < segment.length ∧ 0 < segment.durationMillis ∧
      Partition (start + segment.length) rest stop

variable {start stop durationMillis : Nat}

theorem Partition.concat {segments : List Mp4SegmentRange}
    (h : Partition start segments mid) (hstop : mid < stop) (hdur : 0 < durationMillis) :
    Partition start (segments ++ [⟨mid, stop - mid, durationMillis⟩]) stop := by
  induction segments generalizing start with
  | nil =>
    have hs : start = mid := h
    subst hs
    refine ⟨rfl, ?_, hdur, ?_⟩
    · show 0 < stop - start
      omega
    · show start + (stop - start) = stop
      omega
  | cons segment rest ih => exact ⟨h.1, h.2.1, h.2.2.1, ih h.2.2.2⟩

theorem Partition.le {segments : List Mp4SegmentRange} (h : Partition start segments stop) :
    start ≤ stop := by
  induction segments generalizing start with
  | nil => exact le_of_eq h
  | cons segment rest ih => exact le_trans (Nat.le_add_right _ _) (ih h.2.2.2)

include htotal in
theorem findFragmentEnd_some (h : findFragmentEnd file totalLength fuel offset = .ok (some stop)) :
    ∃ (between : List Box) (mdat : Box), OtherBoxes between ∧ mdat.kind = fourCC "mdat" ∧
      At file offset (encodeAll (between ++ [mdat])) ∧
      stop = offset + (encodeAll (between ++ [mdat])).length ∧ stop ≤ totalLength := by
  induction fuel generalizing offset with
  | zero => cases h
  | succ fuel ih =>
    rw [findFragmentEnd] at h
    split at h
    · cases hread : readBoxHeader file offset totalLength with
      | error error => simp [hread, bind, Except.bind] at h
      | ok found =>
        simp only [hread, bind, Except.bind] at h
        cases found with
        | none => cases h
        | some header =>
          obtain ⟨box, rfl, hat, hbound, hmax⟩ := readBoxHeader_some htotal hread
          simp only [boxHeader_stop hmax] at h
          split at h
          · next hmdat =>
              cases h
              refine ⟨[], box, by simp [OtherBoxes], hmdat, ?_, ?_, ?_⟩
              · simpa using hat
              · simp
              · rw [Box.length_encode]
                exact hbound
          · next hmdat =>
              split at h
              · cases h
              next hmoof =>
                obtain ⟨between, mdat, hothers, hkind, hrest, hstop, hle⟩ := ih h
                refine ⟨box :: between, mdat, ?_, hkind, ?_, ?_, hle⟩
                · intro other hother
                  rcases mem_cons.mp hother with rfl | hmem
                  · exact ⟨hmoof, hmdat⟩
                  · exact hothers other hmem
                · exact hat.append hrest
                · rw [hstop, cons_append, encodeAll_cons, length_append, Nat.add_assoc]
    · cases h

theorem parseMoofDurationMillis_pos
    (h : parseMoofDurationMillis file header timing = .ok (some durationMillis)) :
    0 < durationMillis := by
  unfold parseMoofDurationMillis at h
  cases hread : readBoxPayloadLimited file header maxTimingBoxPayloadLength with
  | error error => simp [hread, bind, Except.bind] at h
  | ok found =>
    simp only [hread, bind, Except.bind] at h
    cases found with
    | none => cases h
    | some payload =>
      simp only [pure, Except.pure, Except.ok.injEq] at h
      unfold parseMoofDurationMillisFromPayload at h
      simp only [bind, bind_eq_some_iff, filter_eq_some_iff, decide_eq_true_eq] at h
      obtain ⟨-, -, -, -, -, hpos⟩ := h
      exact hpos

structure Walked (file : Bytes) (initializationLength totalLength offset : Nat)
    (pendingSegmentStart : Option Nat) (segments : List Mp4SegmentRange) : Prop where
  waiting : ∃ boxes, OtherBoxes boxes ∧
    At file (pendingSegmentStart.getD offset) (encodeAll boxes) ∧
      offset = pendingSegmentStart.getD offset + (encodeAll boxes).length
  partition : Partition initializationLength segments (pendingSegmentStart.getD offset)
  fragments : ∀ segment ∈ segments, ∃ fragment : Mp4Fragment,
    slice file segment.offset (segment.offset + segment.length) = fragment.encode
  bound : offset ≤ totalLength

variable {initializationLength : Nat} {pendingSegmentStart : Option Nat}
  {segments ranges : List Mp4SegmentRange}
  (h : Walked file initializationLength totalLength offset pendingSegmentStart segments)

include h in
/-- A box that is neither a `moof` nor an `mdat` is put aside. -/
theorem Walked.other (hat : At file offset box.encode) (hbound : offset + box.size ≤ totalLength)
    (hmoof : box.kind ≠ fourCC "moof") (hmdat : box.kind ≠ fourCC "mdat") :
    Walked file initializationLength totalLength (offset + box.encode.length)
      (some (pendingSegmentStart.getD offset)) segments := by
  obtain ⟨boxes, hothers, hboxes, hoff⟩ := h.waiting
  refine ⟨⟨boxes ++ [box], ?_, ?_, ?_⟩, h.partition, h.fragments, ?_⟩
  · intro other hother
    rcases mem_append.mp hother with hmem | hmem
    · exact hothers other hmem
    · rw [mem_singleton.mp hmem]
      exact ⟨hmoof, hmdat⟩
  · rw [getD_some, encodeAll_append]
    apply hboxes.append
    rw [← hoff]
    simpa using hat
  · rw [getD_some, encodeAll_append, length_append, ← Nat.add_assoc, ← hoff]
    simp
  · rw [Box.length_encode]
    exact hbound

variable {between initialization : List Box}

include h in
/-- A `moof` with its duration and the end of its `mdat` is a segment. -/
theorem Walked.fragment (hat : At file offset box.encode) (hmoof : box.kind = fourCC "moof")
    {mdat : Box} (hothers : OtherBoxes between)
    (hmdat : mdat.kind = fourCC "mdat")
    (hrest : At file (offset + box.encode.length) (encodeAll (between ++ [mdat])))
    (hstop : stop = offset + box.encode.length + (encodeAll (between ++ [mdat])).length)
    (hle : stop ≤ totalLength) (hdur : 0 < durationMillis) :
    Walked file initializationLength totalLength stop none
      (segments ++ [⟨pendingSegmentStart.getD offset, stop - pendingSegmentStart.getD offset,
        durationMillis⟩]) := by
  obtain ⟨boxes, hbefore, hboxes, hoff⟩ := h.waiting
  have hpos := @Box.size_pos box
  rw [← Box.length_encode] at hpos
  have hlater : pendingSegmentStart.getD offset < stop := by omega
  refine ⟨⟨[], by simp [OtherBoxes], at_nil, rfl⟩, h.partition.concat hlater hdur, ?_, hle⟩
  intro segment hsegment
  rcases mem_append.mp hsegment with hmem | hmem
  · exact h.fragments segment hmem
  rw [mem_singleton.mp hmem]
  refine ⟨⟨boxes, box, between, mdat, hbefore, hmoof, hothers, hmdat⟩, ?_⟩
  have hfragment : At file (pendingSegmentStart.getD offset)
      (encodeAll (boxes ++ box :: (between ++ [mdat]))) := by
    rw [encodeAll_append, encodeAll_cons]
    apply hboxes.append
    rw [← hoff]
    exact hat.append hrest
  have hlength : pendingSegmentStart.getD offset + (stop - pendingSegmentStart.getD offset) =
      pendingSegmentStart.getD offset +
        (encodeAll (boxes ++ box :: (between ++ [mdat]))).length := by
    rw [encodeAll_append, encodeAll_cons, length_append, length_append]
    omega
  rw [hlength]
  exact hfragment.slice

include htotal in
theorem walkFragments_some
    (hwalked : Walked file initializationLength totalLength offset pendingSegmentStart segments)
    (h : walkFragments file totalLength timing fuel offset pendingSegmentStart segments =
      .ok (some ranges)) (hsome : ranges ≠ []) :
    Partition initializationLength ranges totalLength ∧ 2 ≤ ranges.length ∧
      ∀ segment ∈ ranges, ∃ fragment : Mp4Fragment,
        slice file segment.offset (segment.offset + segment.length) = fragment.encode := by
  induction fuel generalizing offset pendingSegmentStart segments with
  | zero => cases h
  | succ fuel ih =>
    rw [walkFragments] at h
    split at h
    · cases hread : readBoxHeader file offset totalLength with
      | error error => simp [hread, bind, Except.bind] at h
      | ok found =>
        simp only [hread, bind, Except.bind] at h
        cases found with
        | none => cases h
        | some header =>
          obtain ⟨box, rfl, hat, hbound, hmax⟩ := readBoxHeader_some htotal hread
          simp only [boxHeader_stop hmax] at h
          split at h
          · next hmoof =>
              cases hdur : parseMoofDurationMillis file (boxHeader offset box) timing with
              | error error => simp [hdur] at h
              | ok found =>
                simp only [hdur] at h
                cases found with
                | none =>
                  cases h
                  exact absurd rfl hsome
                | some durationMillis =>
                  cases hend : findFragmentEnd file totalLength (totalLength + 1)
                      (offset + box.encode.length) with
                  | error error => simp [hend] at h
                  | ok found =>
                    simp only [hend] at h
                    cases found with
                    | none => cases h
                    | some stop =>
                      obtain ⟨between, mdat, hothers, hmdat, hrest, hstop, hle⟩ :=
                        findFragmentEnd_some htotal hend
                      simp only at h
                      split at h
                      · cases h
                      · exact ih (hwalked.fragment hat hmoof hothers hmdat hrest
                          hstop hle (parseMoofDurationMillis_pos hdur)) h
          · next hmoof =>
              split at h
              · cases h
              · next hmdat => exact ih (hwalked.other hat hbound hmoof hmdat) h
    · next hend =>
        split at h
        · cases h
          exact absurd rfl hsome
        next hpend =>
          split at h
          · cases h
            exact absurd rfl hsome
          next hlength =>
            cases h
            have hnone : pendingSegmentStart = none := by simpa using hpend
            have hstop : offset = totalLength := by
              have hle := hwalked.bound
              omega
            have hpartition := hwalked.partition
            rw [hnone, getD_none, hstop] at hpartition
            exact ⟨hpartition, by omega, hwalked.fragments⟩

theorem Partition.checks {range : Mp4SegmentRange} {rest : List Mp4SegmentRange}
    (h : Partition start (range :: rest) stop) (hle : stop ≤ totalLength)
    (hmax : totalLength ≤ u64Max) :
    ¬ (range.length = 0 ∨ range.durationMillis = 0 ∨ range.offset ≠ start) ∧
      checkedAdd range.offset range.length = some (start + range.length) ∧
      ¬ totalLength < start + range.length ∧ Partition (start + range.length) rest stop := by
  obtain ⟨hoff, hlength, hdur, hrest⟩ := h
  have hend := hrest.le
  refine ⟨by omega, ?_, by omega, hrest⟩
  rw [hoff]
  exact checkedAdd_eq (by omega)

theorem segmentsEndAt_partition (h : Partition start ranges stop) (hle : stop ≤ totalLength)
    (hmax : totalLength ≤ u64Max) :
    segmentsEndAt totalLength start (hlsSegmentsFromMp4Ranges ranges) = some stop := by
  induction ranges generalizing start with
  | nil => exact congrArg some h
  | cons range rest ih =>
    obtain ⟨hfst, hsum, hbound, hrest⟩ := h.checks hle hmax
    simp only [hlsSegmentsFromMp4Ranges, map_cons, segmentsEndAt, if_neg hfst, hsum, bind,
      bind_some, if_neg hbound]
    exact ih hrest

theorem validateFrom_partition {validated : List HlsMediaSegment}
    (h : Partition start ranges stop) (hle : stop ≤ totalLength) (hmax : totalLength ≤ u64Max) :
    validateFrom totalLength start validated
        ((hlsSegmentsFromMp4Ranges ranges).map HlsMediaSegment.persisted) =
      some (stop, validated ++ hlsSegmentsFromMp4Ranges ranges) := by
  induction ranges generalizing start validated with
  | nil =>
    have hs : start = stop := h
    simp [hlsSegmentsFromMp4Ranges, validateFrom, hs]
  | cons range rest ih =>
    obtain ⟨hfst, hsum, hbound, hrest⟩ := h.checks hle hmax
    have hlater := @ih (start + range.length)
      (validated ++ [⟨range.offset, range.length, range.durationMillis⟩]) hrest
    simp only [hlsSegmentsFromMp4Ranges, map_cons, HlsMediaSegment.persisted, validateFrom,
      if_neg hfst, hsum, bind, bind_some,
      if_neg hbound] at hlater ⊢
    rw [hlater, append_assoc]
    rfl

def timingOf (initialization : List Box) (context : Mp4TimingContext) : Option Mp4TimingContext :=
  initialization.foldlM (fun context box =>
    if box.kind = fourCC "moov" then parseMoovTiming box.payload context else some context) context

/-- The parts whose payload is read are short enough. -/
def WithinLimit (kind : String) (boxes : List Box) : Prop :=
  ∀ box ∈ boxes, box.kind = fourCC kind → box.payload.length ≤ maxTimingBoxPayloadLength

theorem timingFrom_boxes {context : Mp4TimingContext}
    (hat : At file offset (encodeAll initialization))
    (hlength : offset + (encodeAll initialization).length = initializationLength)
    (hinit : initializationLength ≤ totalLength) (htotal : totalLength ≤ file.length)
    (hmax : totalLength ≤ u64Max) (hlimit : WithinLimit "moov" initialization)
    (htiming : timingOf initialization context = some timing)
    (hfuel : initializationLength < offset + fuel) :
    timingFrom file initializationLength totalLength fuel offset context = .ok (some timing) := by
  induction initialization generalizing fuel offset context with
  | nil =>
    obtain ⟨fuel, rfl⟩ : ∃ n, fuel = n + 1 := ⟨fuel - 1, by simp at hlength; omega⟩
    cases htiming
    have hdone : ¬ offset < initializationLength := by
      simp at hlength
      omega
    rw [timingFrom, if_neg hdone]
    rfl
  | cons box rest ih =>
    have hpos := @Box.size_pos box
    rw [encodeAll_cons] at hat
    rw [encodeAll_cons, length_append, Box.length_encode] at hlength
    obtain ⟨fuel, rfl⟩ : ∃ n, fuel = n + 1 := ⟨fuel - 1, by omega⟩
    have hread : readBoxHeader file offset totalLength = .ok (some (boxHeader offset box)) :=
      readBoxHeader_box hat.left htotal (by omega) hmax
    have hstop : (boxHeader offset box).stop = some (offset + box.encode.length) :=
      boxHeader_stop (by omega)
    have hright := hat.right
    have hn : offset + box.encode.length + (encodeAll rest).length = initializationLength := by
      rw [Box.length_encode]
      omega
    have hrestLimit : WithinLimit "moov" rest := fun other hother =>
      hlimit other (mem_cons_of_mem _ hother)
    have hrestFuel : initializationLength < offset + box.encode.length + fuel := by
      rw [Box.length_encode]
      omega
    rw [timingFrom, if_pos (by omega)]
    simp only [hread, bind, Except.bind, hstop,
      if_neg (show ¬ initializationLength < offset + box.encode.length by omega)]
    rw [timingOf, foldlM_cons] at htiming
    by_cases hmoov : box.kind = fourCC "moov"
    · have hpay := readBoxPayload_box hat.left (show offset + box.size ≤ u64Max by omega)
        (hlimit box mem_cons_self hmoov)
      simp only [if_pos hmoov, bind, bind_eq_some_iff] at htiming
      obtain ⟨after, ha, htiming⟩ := htiming
      have hkind : (boxHeader offset box).kind = fourCC "moov" := hmoov
      simp only [if_pos hkind, hpay, ha]
      exact ih hright hn hrestLimit htiming hrestFuel
    · simp only [if_neg hmoov, bind, bind_some] at htiming
      have hkind : (boxHeader offset box).kind ≠ fourCC "moov" := hmoov
      simp only [if_neg hkind]
      exact ih hright hn hrestLimit htiming hrestFuel

theorem findFragmentEnd_boxes {mdat : Box}
    (hat : At file offset (encodeAll (between ++ [mdat]))) (hothers : OtherBoxes between)
    (hmdat : mdat.kind = fourCC "mdat") (htotal : totalLength ≤ file.length)
    (hbound : offset + (encodeAll (between ++ [mdat])).length ≤ totalLength)
    (hmax : totalLength ≤ u64Max) (hfuel : totalLength < offset + fuel) :
    findFragmentEnd file totalLength fuel offset =
      .ok (some (offset + (encodeAll (between ++ [mdat])).length)) := by
  induction between generalizing offset fuel with
  | nil =>
    have hpos := @Box.size_pos mdat
    simp only [nil_append, encodeAll_cons, encodeAll_nil, append_nil] at hat hbound ⊢
    rw [Box.length_encode] at hbound
    obtain ⟨fuel, rfl⟩ : ∃ n, fuel = n + 1 := ⟨fuel - 1, by omega⟩
    have hread := readBoxHeader_box hat htotal hbound hmax
    have hkind : (boxHeader offset mdat).kind = fourCC "mdat" := hmdat
    rw [findFragmentEnd, if_pos (by omega)]
    simp only [hread, bind, Except.bind, if_pos hkind, boxHeader_stop
      (show offset + mdat.size ≤ u64Max by omega)]
    rfl
  | cons box rest ih =>
    have hpos := @Box.size_pos box
    rw [cons_append, encodeAll_cons] at hat hbound ⊢
    rw [length_append] at hbound ⊢
    have hlength := @Box.length_encode box
    obtain ⟨fuel, rfl⟩ : ∃ n, fuel = n + 1 := ⟨fuel - 1, by omega⟩
    have hread := readBoxHeader_box hat.left htotal (by omega) hmax
    obtain ⟨hmoof, hother⟩ := hothers box mem_cons_self
    have hmoofKind : (boxHeader offset box).kind ≠ fourCC "moof" := hmoof
    have hmdatKind : (boxHeader offset box).kind ≠ fourCC "mdat" := hother
    have hrest := ih hat.right (fun other hmem => hothers other (mem_cons_of_mem _ hmem))
      (by omega) (show totalLength < offset + box.encode.length + fuel by omega)
    rw [findFragmentEnd, if_pos (by omega)]
    simp only [hread, bind, Except.bind, if_neg hmoofKind, if_neg hmdatKind, boxHeader_stop
      (show offset + box.size ≤ u64Max by omega)]
    rw [hrest, Nat.add_assoc]

/-- The walk puts aside the boxes before a `moof`. -/
theorem walkFragments_before {before : List Box} (hat : At file offset (encodeAll before))
    (hothers : OtherBoxes before) (htotal : totalLength ≤ file.length)
    (hbound : offset + (encodeAll before).length ≤ totalLength) (hmax : totalLength ≤ u64Max) :
    ∃ pending, pending.getD (offset + (encodeAll before).length) =
        pendingSegmentStart.getD offset ∧
      walkFragments file totalLength timing (before.length + fuel) offset pendingSegmentStart
          segments =
        walkFragments file totalLength timing fuel (offset + (encodeAll before).length) pending
          segments := by
  induction before generalizing offset pendingSegmentStart with
  | nil => exact ⟨pendingSegmentStart, rfl, by simp⟩
  | cons box rest ih =>
    have hpos := @Box.size_pos box
    have hlength := @Box.length_encode box
    rw [encodeAll_cons] at hat hbound
    rw [length_append] at hbound
    have hread := readBoxHeader_box hat.left htotal (by omega) hmax
    obtain ⟨hmoof, hmdat⟩ := hothers box mem_cons_self
    have hmoofKind : (boxHeader offset box).kind ≠ fourCC "moof" := hmoof
    have hmdatKind : (boxHeader offset box).kind ≠ fourCC "mdat" := hmdat
    obtain ⟨pending, hpend, hwalk⟩ := @ih (offset + box.encode.length)
      (some (pendingSegmentStart.getD offset)) hat.right
      (fun other hmem => hothers other (mem_cons_of_mem _ hmem)) (by omega)
    refine ⟨pending, ?_, ?_⟩
    · rw [encodeAll_cons, length_append, ← Nat.add_assoc, hpend, getD_some]
    · rw [length_cons, Nat.add_right_comm, walkFragments, if_pos (by omega)]
      simp only [hread, bind, Except.bind, if_neg hmoofKind, if_neg hmdatKind, boxHeader_stop
        (show offset + box.size ≤ u64Max by omega)]
      rw [encodeAll_cons, length_append, ← Nat.add_assoc]
      exact hwalk

def Mp4Fragment.segment (fragment : Mp4Fragment) (timing : Mp4TimingContext) (offset : Nat) :
    Option Mp4SegmentRange :=
  (parseMoofDurationMillisFromPayload fragment.moof.payload timing).map fun durationMillis =>
    ⟨offset, fragment.encode.length, durationMillis⟩

/-- The number of boxes of a fragment that the walk reads one by one. -/
def Mp4Fragment.steps (fragment : Mp4Fragment) : Nat := fragment.before.length + 1

theorem walkFragments_fragment {fragment : Mp4Fragment} {segment : Mp4SegmentRange}
    (hat : At file offset fragment.encode) (hsegment : fragment.segment timing offset = some segment)
    (hlimit : fragment.moof.payload.length ≤ maxTimingBoxPayloadLength)
    (htotal : totalLength ≤ file.length) (hbound : offset + fragment.encode.length ≤ totalLength)
    (hmax : totalLength ≤ u64Max) :
    walkFragments file totalLength timing (fragment.steps + fuel) offset none segments =
      walkFragments file totalLength timing fuel (offset + fragment.encode.length) none
        (segments ++ [segment]) := by
  obtain ⟨durationMillis, hdur, rfl⟩ := map_eq_some_iff.mp hsegment
  have hencode : fragment.encode = encodeAll fragment.before ++
      (fragment.moof.encode ++ encodeAll (fragment.between ++ [fragment.mdat])) := by
    rw [Mp4Fragment.encode, encodeAll_append, encodeAll_cons]
  rw [hencode] at hat hbound ⊢
  simp only [length_append] at hbound ⊢
  have hpos := @Box.size_pos fragment.moof
  have hlength := @Box.length_encode fragment.moof
  obtain ⟨pending, hpend, hbefore⟩ := @walkFragments_before file offset totalLength (fuel + 1)
    timing none segments fragment.before hat.left fragment.othersBefore htotal (by omega) hmax
  have hsteps : fragment.steps + fuel = fragment.before.length + (fuel + 1) := by
    unfold Mp4Fragment.steps
    omega
  rw [hsteps, hbefore]
  have hmoofAt := hat.right.left
  have hread := readBoxHeader_box hmoofAt htotal (by omega) hmax
  have hkind : (boxHeader (offset + (encodeAll fragment.before).length) fragment.moof).kind =
      fourCC "moof" := fragment.isMoof
  have hpay := readBoxPayload_box hmoofAt (by omega) hlimit
  have hmillis : parseMoofDurationMillis file
      (boxHeader (offset + (encodeAll fragment.before).length) fragment.moof) timing =
        .ok (some durationMillis) := by
    unfold parseMoofDurationMillis
    simp only [hpay, bind, Except.bind, pure, Except.pure, hdur]
  have hend := findFragmentEnd_boxes hat.right.right fragment.othersBetween fragment.isMdat htotal
    (by omega) hmax (show totalLength < offset + (encodeAll fragment.before).length +
      fragment.moof.encode.length + (totalLength + 1) by omega)
  have hs : pending.getD
      (boxHeader (offset + (encodeAll fragment.before).length) fragment.moof).offset = offset :=
    hpend
  rw [walkFragments, if_pos (by omega)]
  simp only [hread, bind, Except.bind, if_pos hkind, hmillis, hs, boxHeader_stop
    (show offset + (encodeAll fragment.before).length + fragment.moof.size ≤ u64Max by omega), hend]
  have hsum : offset + (encodeAll fragment.before).length + fragment.moof.encode.length +
      (encodeAll (fragment.between ++ [fragment.mdat])).length =
        offset + ((encodeAll fragment.before).length + (fragment.moof.encode.length +
          (encodeAll (fragment.between ++ [fragment.mdat])).length)) := by omega
  rw [hsum, if_neg (by omega), Nat.add_sub_cancel_left]

theorem length_le_encodeAll : boxes.length ≤ (encodeAll boxes).length := by
  induction boxes with
  | nil => exact le_rfl
  | cons box rest ih =>
    have hpos := @Box.size_pos box
    rw [encodeAll_cons, length_cons, length_append, Box.length_encode]
    omega

theorem Mp4Fragment.steps_le {fragment : Mp4Fragment} :
    fragment.steps ≤ fragment.encode.length := by
  have hbefore := @length_le_encodeAll fragment.before
  have hpos := @Box.size_pos fragment.moof
  rw [Mp4Fragment.encode, encodeAll_append, encodeAll_cons, length_append,
    length_append, Box.length_encode, Mp4Fragment.steps]
  omega

/-- Every fragment of the list has a duration and a `moof` that is short enough. -/
def Decodable (timing : Mp4TimingContext) (fragments : List Mp4Fragment) : Prop :=
  ∀ fragment ∈ fragments, fragment.moof.payload.length ≤ maxTimingBoxPayloadLength ∧
    (parseMoofDurationMillisFromPayload fragment.moof.payload timing).isSome = true

theorem walkFragments_all {fragments : List Mp4Fragment}
    (hat : At file offset (fragments.flatMap Mp4Fragment.encode))
    (hdecodable : Decodable timing fragments) (htotal : totalLength ≤ file.length)
    (hlength : offset + (fragments.flatMap Mp4Fragment.encode).length = totalLength)
    (hmax : totalLength ≤ u64Max) (hfuel : totalLength < offset + fuel)
    (hmany : 2 ≤ segments.length + fragments.length) :
    ∃ ranges, ranges.length = segments.length + fragments.length ∧
      walkFragments file totalLength timing fuel offset none segments = .ok (some ranges) := by
  induction fragments generalizing offset fuel segments with
  | nil =>
    obtain ⟨fuel, rfl⟩ : ∃ n, fuel = n + 1 := ⟨fuel - 1, by simp at hlength; omega⟩
    have hdone : ¬ offset < totalLength := by
      simp at hlength
      omega
    have hpend : ¬ (none : Option Nat).isSome = true := by decide
    have hlong : ¬ segments.length < 2 := by
      simp at hmany
      omega
    refine ⟨segments, rfl, ?_⟩
    rw [walkFragments, if_neg hdone, if_neg hpend, if_neg hlong]
    rfl
  | cons fragment rest ih =>
    rw [flatMap_cons] at hat hlength
    rw [length_append] at hlength
    obtain ⟨hlimit, hsome⟩ := hdecodable fragment mem_cons_self
    obtain ⟨durationMillis, hdur⟩ := isSome_iff_exists.mp hsome
    have hsegment : fragment.segment timing offset =
        some ⟨offset, fragment.encode.length, durationMillis⟩ := by
      rw [Mp4Fragment.segment, hdur]
      rfl
    have hsteps := @Mp4Fragment.steps_le fragment
    obtain ⟨fuel, rfl⟩ : ∃ n, fuel = fragment.steps + n :=
      ⟨fuel - fragment.steps, by omega⟩
    have hfst := @walkFragments_fragment file offset totalLength fuel timing segments fragment _
      hat.left hsegment hlimit htotal (by omega) hmax
    obtain ⟨ranges, hc, hwalk⟩ := @ih (offset + fragment.encode.length) fuel
      (segments ++ [⟨offset, fragment.encode.length, durationMillis⟩]) hat.right
      (fun other hmem => hdecodable other (mem_cons_of_mem _ hmem)) (by omega) (by omega)
      (by simp at hmany ⊢; omega)
    refine ⟨ranges, ?_, hfst.trans hwalk⟩
    rw [hc]
    simp
    omega

end

/-- What `mp4_fragment_ranges` returns for a file, if it is not empty, is a partition of the
media into at least two fragments that both validators accept unchanged. A file made of
an initialization with timing and at least two fragments has such a table. -/
theorem mp4_fragment_ranges_table :
    (∀ (file : Bytes) (initializationLength : Nat) (ranges : List Mp4SegmentRange),
      file.length ≤ u64Max →
      mp4FragmentRanges file initializationLength file.length = .ok ranges → ranges ≠ [] →
        Partition initializationLength ranges file.length ∧ 2 ≤ ranges.length ∧
        (∀ segment ∈ ranges, ∃ fragment : Mp4Fragment,
          slice file segment.offset (segment.offset + segment.length) = fragment.encode) ∧
        segmentsAreValidForResource (hlsSegmentsFromMp4Ranges ranges) initializationLength
          file.length = true ∧
        validatedCachedSegments ((hlsSegmentsFromMp4Ranges ranges).map HlsMediaSegment.persisted)
          initializationLength file.length = hlsSegmentsFromMp4Ranges ranges) ∧
    (∀ (initialization : List Box) (timing : Mp4TimingContext) (fragments : List Mp4Fragment),
      (encodeAll initialization ++ fragments.flatMap Mp4Fragment.encode).length ≤ u64Max →
      WithinLimit "moov" initialization → timingOf initialization .default = some timing →
      timing.timescaleByTrack ≠ [] → Decodable timing fragments → 2 ≤ fragments.length →
        ∃ ranges, ranges ≠ [] ∧
          mp4FragmentRanges (encodeAll initialization ++ fragments.flatMap Mp4Fragment.encode)
            (encodeAll initialization).length
            (encodeAll initialization ++ fragments.flatMap Mp4Fragment.encode).length =
              .ok ranges) := by
  constructor
  · intro file initializationLength ranges hmax h hsome
    unfold mp4FragmentRanges at h
    split at h
    · cases h
      exact absurd rfl hsome
    next hinit =>
      unfold parseMp4FragmentRanges at h
      cases htiming : parseTimingContext file initializationLength file.length with
      | error error => simp [htiming, bind, Except.bind] at h
      | ok found =>
        simp only [htiming, bind, Except.bind] at h
        cases found with
        | none =>
          cases h
          exact absurd rfl hsome
        | some timing =>
          cases hwalk : walkFragments file file.length timing (file.length + 1)
              initializationLength none [] with
          | error error => simp [hwalk] at h
          | ok found =>
            simp only [hwalk, pure, Except.pure, Except.ok.injEq] at h
            cases found with
            | none => exact absurd h.symm hsome
            | some found =>
              have hfound : found = ranges := h
              subst hfound
              have hstart : Walked file initializationLength file.length
                  initializationLength none [] :=
                ⟨⟨[], by simp [OtherBoxes], at_nil, rfl⟩, rfl, by simp, by omega⟩
              obtain ⟨hpartition, hmany, hfragments⟩ :=
                walkFragments_some le_rfl hstart hwalk hsome
              refine ⟨hpartition, hmany, hfragments, ?_, ?_⟩
              · rw [segmentsAreValidForResource,
                  segmentsEndAt_partition hpartition le_rfl hmax]
                exact beq_self_eq_true _
              · have hnonempty : ((hlsSegmentsFromMp4Ranges found).map
                    HlsMediaSegment.persisted).isEmpty = false := by
                  cases found with
                  | nil => exact absurd rfl hsome
                  | cons range rest => rfl
                rw [validatedCachedSegments, hnonempty,
                  validateFrom_partition hpartition le_rfl hmax]
                simp
  · intro initialization timing fragments hmax hlimit htiming htracks hdecodable hmany
    generalize hfile : encodeAll initialization ++ fragments.flatMap Mp4Fragment.encode = file at *
    have hlength := congrArg List.length hfile
    rw [length_append] at hlength
    have hat : At file 0 (encodeAll initialization ++ fragments.flatMap Mp4Fragment.encode) := by
      apply @at_of_drop file _ []
      rw [hfile, append_nil]
      rfl
    have hmedia := hat.right
    rw [Nat.zero_add] at hmedia
    have hfragments : 0 < (fragments.flatMap Mp4Fragment.encode).length := by
      cases fragments with
      | nil => simp at hmany
      | cons fragment rest =>
        have hsteps := @Mp4Fragment.steps_le fragment
        rw [Mp4Fragment.steps] at hsteps
        rw [flatMap_cons, length_append]
        omega
    have hcontext : parseTimingContext file (encodeAll initialization).length file.length =
        .ok (some timing) := by
      have hfrom := timingFrom_boxes hat.left (Nat.zero_add _)
        (show (encodeAll initialization).length ≤ file.length by omega) le_rfl hmax hlimit
        htiming (show (encodeAll initialization).length <
          0 + ((encodeAll initialization).length + 1) by omega)
      have hnonempty : timing.timescaleByTrack.isEmpty = false := by simpa using htracks
      unfold parseTimingContext
      rw [hfrom]
      simp [bind, Except.bind, pure, Except.pure, hnonempty]
    obtain ⟨ranges, hcount, hwalk⟩ := @walkFragments_all file _ file.length (file.length + 1) timing
      [] fragments hmedia hdecodable le_rfl (by omega) hmax (by omega) (by simpa using hmany)
    refine ⟨ranges, ?_, ?_⟩
    · rintro rfl
      omega
    · unfold mp4FragmentRanges parseMp4FragmentRanges
      rw [if_neg (by omega), hcontext]
      simp only [bind, Except.bind, hwalk]
      rfl

/-! The first file of the module's tests. -/

def mp4Box (kind : String) (payload : Bytes) : Bytes :=
  beBytes 4 (8 + payload.length) ++ fourCC kind ++ payload

def trakBox (trackId timescale : Nat) : Bytes :=
  mp4Box "trak"
    (mp4Box "tkhd" (beBytes 12 0 ++ beBytes 4 trackId ++ beBytes 12 0) ++
      mp4Box "mdia" (mp4Box "mdhd" (beBytes 12 0 ++ beBytes 4 timescale ++ beBytes 8 0)))

def moofBox (durationMillis : Nat) : Bytes :=
  mp4Box "moof" (mp4Box "traf"
    (mp4Box "tfhd" (beBytes 4 0 ++ beBytes 4 1) ++
      mp4Box "trun" ([0, 0, 1, 0] ++ beBytes 4 1 ++ beBytes 4 durationMillis)))

def initMp4 : Bytes := mp4Box "ftyp" (fourCC "isom") ++ mp4Box "moov" (trakBox 1 1000)

def fragmentedMp4 : Bytes :=
  initMp4 ++ moofBox 1000 ++ mp4Box "mdat" (fourCC "one.") ++ moofBox 2000 ++
    mp4Box "mdat" (fourCC "two.")

example : mp4FragmentRanges fragmentedMp4 initMp4.length fragmentedMp4.length =
    .ok [⟨initMp4.length, 64, 1000⟩, ⟨initMp4.length + 64, 64, 2000⟩] := by
  decide +kernel

end NetPlayer.Segments
