import NetPlayer.Segments.TimingParsing

/-!
# The length of the initialization

`mp4_initialization_length` looks for the end of the `moov` in the first bytes of a file.
More bytes do not move it, and `parse_timing_context` goes through the same boxes to it.
-/

namespace NetPlayer.Segments

open Mp4 List

variable {bytes kind : Bytes} {offset start stop fuel : Nat}

/-- A slice and a file have the same boxes. -/
theorem readSliceBox_some (h : readSliceBox bytes offset = some (kind, start, stop)) :
    ∃ box : Box, kind = box.kind ∧ start = offset + box.headerLength ∧
      stop = offset + box.size ∧ At bytes offset box.encode ∧ stop ≤ u64Max := by
  have hsize : ∃ headerLength size, boxSize bytes offset bytes.length
      (beNat ((bytes.drop offset).take 4)) = .ok (some (headerLength, size)) ∧
      headerLength ≤ size ∧ offset + size ≤ bytes.length ∧ offset + size ≤ u64Max ∧
      kind = (bytes.drop (offset + 4)).take 4 ∧ start = offset + headerLength ∧
      stop = offset + size := by
    unfold readSliceBox at h
    simp only [Option.bind_eq_bind, Option.bind_eq_some_iff] at h
    obtain ⟨headerEnd, hheaderEnd, h⟩ := h
    obtain ⟨rfl, -⟩ := checkedAdd_some hheaderEnd
    split at h
    · cases h
    split at h
    · next hmarker =>
        simp only [Option.bind_eq_some_iff] at h
        obtain ⟨largeEnd, hlargeEnd, h⟩ := h
        obtain ⟨rfl, -⟩ := checkedAdd_some hlargeEnd
        split at h
        · cases h
        next hlarge =>
          simp only [Option.bind_some] at h
          split at h
          · cases h
          obtain ⟨next, hn, h⟩ := Option.bind_eq_some_iff.mp h
          obtain ⟨rfl, hl⟩ := checkedAdd_some hn
          split at h
          · cases h
          cases h
          refine ⟨16, _, ?_, by omega, by omega, hl, rfl, rfl, rfl⟩
          simp only [boxSize, hmarker, hlargeEnd, if_neg hlarge,
            readExact_eq (show offset + 8 + 8 ≤ bytes.length by omega)]
          rfl
    split at h
    · cases h
    next hmarker hzero =>
      simp only [Option.bind_some] at h
      split at h
      · cases h
      obtain ⟨next, hn, h⟩ := Option.bind_eq_some_iff.mp h
      obtain ⟨rfl, hl⟩ := checkedAdd_some hn
      split at h
      · cases h
      cases h
      refine ⟨8, _, ?_, by omega, by omega, hl, rfl, rfl, rfl⟩
      rw [boxSize, if_neg hzero, if_neg hmarker]
      rfl
  obtain ⟨headerLength, size, hsize, hheader, hbd, hmax, hkind, hs, hstop⟩ := hsize
  obtain ⟨box, hbox, hat, -, -⟩ := box_of_size le_rfl hsize hheader
    (by rw [length_drop]; omega) hbd hmax
  injection hbox with _ hheader hsize hname
  rw [← drop_drop, hname] at hkind
  exact ⟨box, hkind, hheader ▸ hs, hsize ▸ hstop, hat, by omega⟩

def BeforeMoov (box : Box) : Prop :=
  box.kind ≠ fourCC "moov" ∧ box.kind ≠ fourCC "moof" ∧ box.kind ≠ fourCC "mdat"

theorem initializationFrom_some (h : initializationFrom bytes fuel offset = some stop) :
    ∃ before moov, (∀ box ∈ before, BeforeMoov box) ∧ moov.kind = fourCC "moov" ∧
      At bytes offset (encodeAll (before ++ [moov])) ∧
      stop = offset + (encodeAll (before ++ [moov])).length ∧ stop ≤ u64Max := by
  induction fuel generalizing offset with
  | zero => cases h
  | succ fuel ih =>
    rw [initializationFrom] at h
    simp only [Option.bind_eq_bind, Option.bind_eq_some_iff] at h
    obtain ⟨headerEnd, -, h⟩ := h
    split at h
    · obtain ⟨⟨kind, start, next⟩, hread, h⟩ := Option.bind_eq_some_iff.mp h
      obtain ⟨box, rfl, rfl, rfl, hat, hmax⟩ := readSliceBox_some hread
      dsimp only at h
      split at h
      · next hmoov =>
          cases h
          exact ⟨[], box, by simp, hmoov, by simpa using hat, by simp [Box.length_encode], hmax⟩
      split at h
      · cases h
      next hmoov hmedia =>
        obtain ⟨before, moov, hothers, hl, hr, hstop, hmax⟩ := ih h
        rw [← Box.length_encode] at hr
        refine ⟨box :: before, moov, forall_mem_cons.mpr ⟨⟨hmoov, not_or.mp hmedia⟩, hothers⟩,
          hl, hat.append hr, ?_, hmax⟩
        rw [hstop, Nat.add_assoc, ← Box.length_encode, ← length_append]
        rfl
    · cases h

section

variable {before : List Box} {moov : Box} (hothers : ∀ box ∈ before, BeforeMoov box)
  (hmoov : moov.kind = fourCC "moov")

include hothers hmoov

theorem initializationFrom_boxes (hat : At bytes offset (encodeAll (before ++ [moov])))
    (hmax : offset + (encodeAll (before ++ [moov])).length ≤ u64Max)
    (hfuel : before.length < fuel) :
    initializationFrom bytes fuel offset =
      some (offset + (encodeAll (before ++ [moov])).length) := by
  have hst : ∀ {box : Box} {offset fuel : Nat}, At bytes offset box.encode →
      offset + box.size ≤ u64Max → initializationFrom bytes (fuel + 1) offset =
        if box.kind = fourCC "moov" then some (offset + box.size)
        else if box.kind = fourCC "moof" ∨ box.kind = fourCC "mdat" then none
        else initializationFrom bytes fuel (offset + box.size) := by
    intro box offset fuel hat hmax
    have hpos := @Box.size_pos box
    have hbd := hat.bound encode_ne_nil
    rw [Box.length_encode] at hbd
    rw [initializationFrom, checkedAdd_eq (by omega), readSliceBox_box hat hmax]
    exact if_pos (by omega)
  induction before generalizing fuel offset with
  | nil =>
    obtain ⟨fuel, rfl⟩ : ∃ n, fuel = n + 1 := ⟨fuel - 1, by simp at hfuel; omega⟩
    simp only [nil_append, encodeAll_cons, encodeAll_nil, append_nil, Box.length_encode] at *
    rw [hst hat hmax, if_pos hmoov]
  | cons box rest ih =>
    obtain ⟨fuel, rfl⟩ : ∃ n, fuel = n + 1 := ⟨fuel - 1, by simp at hfuel; omega⟩
    obtain ⟨hbox, hr⟩ := forall_mem_cons.mp hothers
    simp only [cons_append, encodeAll_cons, length_append, Box.length_encode, length_cons] at *
    rw [hst hat.left (by omega), if_neg hbox.1, if_neg (not_or.mpr hbox.2),
      ih hr (Box.length_encode ▸ hat.right) (by omega) (by omega), Nat.add_assoc]

/-- The rounds of the loop of `parse_timing_context`, by the headers that they read. -/
inductive TimingWalk (file : Bytes) (initializationLength totalLength : Nat) : Nat → Nat → Prop
  | here (offset : Nat) : TimingWalk file initializationLength totalLength offset offset
  | box {offset next last : Nat} {header : Mp4BoxHeader} : offset < initializationLength →
      readBoxHeader file offset totalLength = .ok (some header) → header.stop = some next →
      next ≤ initializationLength → TimingWalk file initializationLength totalLength next last →
      TimingWalk file initializationLength totalLength offset last

def timingOfMoov (moov : Box) (context : Mp4TimingContext) : Option Mp4TimingContext :=
  if maxTimingBoxPayloadLength < moov.payload.length then none
  else parseMoovTiming moov.payload context

variable {file : Bytes} {initializationLength totalLength : Nat} {context : Mp4TimingContext}

omit hothers hmoov in
theorem readBoxPayloadLimited_large {limit : Nat} (h : limit < moov.payload.length) :
    readBoxPayloadLimited file (boxHeader offset moov) limit = .ok none := by
  have hlength : (boxHeader offset moov).payloadLength = some moov.payload.length := by
    simp [boxHeader, Mp4BoxHeader.payloadLength, Box.size]
  unfold readBoxPayloadLimited
  rw [hlength]
  cases (boxHeader offset moov).payloadOffset with
  | none => rfl
  | some payloadOffset => exact if_pos h

theorem timingFrom_initialization (hat : At file offset (encodeAll (before ++ [moov])))
    (hlength : offset + (encodeAll (before ++ [moov])).length = initializationLength)
    (hinit : initializationLength ≤ totalLength) (htot : totalLength ≤ file.length)
    (hmax : totalLength ≤ u64Max) (hfuel : before.length + 1 < fuel) :
    TimingWalk file initializationLength totalLength offset initializationLength ∧
      timingFrom file initializationLength totalLength fuel offset context =
        .ok (timingOfMoov moov context) := by
  have hr : ∀ {box : Box} {offset : Nat}, At file offset box.encode →
      offset + box.size ≤ initializationLength →
      readBoxHeader file offset totalLength = .ok (some (boxHeader offset box)) ∧
        (boxHeader offset box).stop = some (offset + box.size) := by
    intro box offset hat hbd
    refine ⟨readBoxHeader_box hat htot (by omega) hmax, checkedAdd_eq ?_⟩
    show offset + box.size ≤ u64Max
    omega
  induction before generalizing fuel offset with
  | nil =>
    obtain ⟨fuel, rfl⟩ : ∃ n, fuel = n + 2 := ⟨fuel - 2, by simp at hfuel; omega⟩
    have hpos := @Box.size_pos moov
    simp only [nil_append, encodeAll_cons, encodeAll_nil, append_nil, Box.length_encode] at *
    obtain ⟨hheader, hstop⟩ := hr hat (by omega)
    rw [hlength] at hstop
    refine ⟨.box (by omega) hheader hstop le_rfl (.here _), ?_⟩
    have hkind : (boxHeader offset moov).kind = fourCC "moov" := hmoov
    rw [timingFrom, if_pos (by omega), hheader]
    simp only [bind, Except.bind, hstop, if_neg (lt_irrefl initializationLength), if_pos hkind]
    unfold timingOfMoov
    by_cases hlarge : maxTimingBoxPayloadLength < moov.payload.length
    · rw [readBoxPayloadLimited_large hlarge, if_pos hlarge]
      rfl
    · rw [readBoxPayload_box hat (by omega) (not_lt.mp hlarge), if_neg hlarge]
      dsimp only
      cases parseMoovTiming moov.payload context with
      | none => rfl
      | some after =>
        show timingFrom file initializationLength totalLength (fuel + 1) initializationLength
          after = _
        rw [timingFrom, if_neg (lt_irrefl _)]
        rfl
  | cons box rest ih =>
    obtain ⟨fuel, rfl⟩ : ∃ n, fuel = n + 1 := ⟨fuel - 1, by simp at hfuel; omega⟩
    obtain ⟨hbox, hrest⟩ := forall_mem_cons.mp hothers
    have hpos := @Box.size_pos box
    simp only [cons_append, encodeAll_cons, length_append, Box.length_encode, length_cons] at *
    obtain ⟨hheader, hstop⟩ := hr hat.left (by omega)
    obtain ⟨hwalk, htiming⟩ := @ih _ fuel hrest (Box.length_encode ▸ hat.right) (by omega)
      (by omega)
    have hkind : (boxHeader offset box).kind ≠ fourCC "moov" := hbox.1
    refine ⟨.box (by omega) hheader hstop (by omega) hwalk, ?_⟩
    rw [timingFrom, if_pos (by omega), hheader]
    simp only [bind, Except.bind, hstop,
      if_neg (show ¬ initializationLength < offset + box.size by omega)]
    rw [if_neg hkind, htiming]

end

/-- The length is inside the bytes, more bytes do not change it, and the boxes up to it are the
ones that `parse_timing_context` goes through. -/
theorem mp4_initialization_length_stable {length : Nat}
    (h : mp4InitializationLength bytes = some length) :
    length ≤ bytes.length ∧
      (∀ rest, mp4InitializationLength (bytes ++ rest) = some length) ∧
      TimingWalk (bytes.take length) length length 0 length ∧
      ∃ before moov, (∀ box ∈ before, BeforeMoov box) ∧ moov.kind = fourCC "moov" ∧
        bytes.take length = encodeAll (before ++ [moov]) ∧
        parseTimingContext (bytes.take length) length length =
          .ok ((timingOfMoov moov .default).filter fun context =>
            !context.timescaleByTrack.isEmpty) := by
  obtain ⟨before, moov, hothers, hmoov, hat, hstop, hmax⟩ := initializationFrom_some h
  rw [Nat.zero_add] at hstop
  have hbytes : bytes = encodeAll (before ++ [moov]) ++ bytes.drop length := by
    have hdrop := hat
    rwa [At, drop_zero, Nat.zero_add, ← hstop] at hdrop
  have hlength : length ≤ bytes.length := by
    rw [hbytes, length_append, ← hstop]
    exact Nat.le_add_right _ _
  have htake : bytes.take length = encodeAll (before ++ [moov]) := by
    rw [hbytes, hstop, take_left]
  have hsteps := @length_le_encodeAll (before ++ [moov])
  rw [length_append, ← hstop] at hsteps
  obtain ⟨hwalk, htiming⟩ := @timingFrom_initialization 0 (length + 1) before moov hothers hmoov
    (bytes.take length) length length .default (at_of_drop (by rw [htake, drop_zero, append_nil]))
    (by omega) le_rfl (by rw [length_take]; omega) hmax (by simp at hsteps; omega)
  refine ⟨hlength, fun rest => ?_, hwalk, before, moov, hothers, hmoov, htake, ?_⟩
  · have hextended : At (bytes ++ rest) 0 (encodeAll (before ++ [moov])) := by
      refine @at_of_drop _ _ (bytes.drop length ++ rest) _ ?_
      rw [drop_zero, ← append_assoc, ← hbytes]
    have hfound := initializationFrom_boxes hothers hmoov hextended (by omega)
      (show before.length < (bytes ++ rest).length + 1 by simp at hsteps ⊢; omega)
    rwa [Nat.zero_add, ← hstop] at hfound
  · rw [parseTimingContext, htiming]
    rfl

theorem mp4_initialization_length_stable_moov :
    mp4InitializationLength (beBytes 4 8 ++ fourCC "moov" ++ [1, 2]) = some 8 :=
  (mp4_initialization_length_stable (by decide +kernel)).2.1 [1, 2]

end NetPlayer.Segments
