import NetPlayer.Segments.SegmentTable
import NetPlayer.Segments.TimingBoxes

/-!
# Reading the timing boxes

Every function of the parser returns what the box it is given was made from.
-/

namespace NetPlayer.Segments

open Mp4 Slices List Option

section

variable {front rest : Bytes} {offset : Nat}

theorem readU32_beBytes {value : Nat} (hvalue : value < 2 ^ 32) (hoff : front.length = offset) :
    readU32 (front ++ (beBytes 4 value ++ rest)) offset = some value := by
  subst hoff
  have htake : ((front ++ (beBytes 4 value ++ rest)).drop front.length).take 4 =
      beBytes 4 value := by
    rw [drop_left]
    exact take_left' length_beBytes
  unfold readU32
  rw [if_pos (by simp), htake, beNat_beBytes (by simpa using hvalue)]

theorem readU32_word {value : UInt32} (hoff : front.length = offset) :
    readU32 (front ++ (word value ++ rest)) offset = some value.toNat :=
  readU32_beBytes value.toNat_lt hoff

@[simp] theorem length_word {value : UInt32} : (word value).length = 4 := length_beBytes

theorem fullBoxFlags_beBytes {version : UInt8} {flags : Nat} (hflags : flags < 2 ^ 24) :
    fullBoxFlags (version :: beBytes 3 flags ++ rest) = some flags := by
  have htake : ((version :: beBytes 3 flags ++ rest).drop 1).take 3 = beBytes 3 flags :=
    take_left' length_beBytes
  unfold fullBoxFlags
  rw [if_neg (by simp), htake, beNat_beBytes (by simpa using hflags)]

theorem length_whenFlag {flags flag : Nat} {bytes : Bytes} :
    (whenFlag flags flag bytes).length = if hasFlag flags flag then bytes.length else 0 := by
  unfold whenFlag
  split <;> rfl

end

namespace ChildBox

variable {child : ChildBox}

def toBox (child : ChildBox) (h : child.payload.length ≤ maxTimingBoxPayloadLength) : Box where
  kind := child.kind
  large := child.large
  payload := child.payload
  kindLength := child.kindLength
  fits := by
    unfold maxTimingBoxPayloadLength at h
    split <;> omega

theorem encode_toBox {h : child.payload.length ≤ maxTimingBoxPayloadLength} :
    (child.toBox h).encode = child.encode := rfl

theorem length_header : child.header.length = child.headerLength := by
  unfold header headerLength
  split <;> simp [child.kindLength]

theorem length_encode : child.encode.length = child.size := by
  simp [encode, size, length_header]

theorem payload_le_size : 8 + child.payload.length ≤ child.size := by
  unfold size headerLength
  split <;> omega

end ChildBox

@[simp] theorem encodeChildren_cons {child : ChildBox} {children : List ChildBox} :
    encodeChildren (child :: children) = child.encode ++ encodeChildren children := rfl

theorem length_le_encodeChildren {children : List ChildBox} :
    children.length ≤ (encodeChildren children).length := by
  induction children with
  | nil => exact Nat.zero_le _
  | cons child rest ih =>
    have hsize := @ChildBox.payload_le_size child
    rw [encodeChildren_cons, length_append, ChildBox.length_encode, length_cons]
    omega

theorem payload_le_encodeChildren {children : List ChildBox} {child : ChildBox}
    (h : child ∈ children) : child.payload.length ≤ (encodeChildren children).length := by
  induction children with
  | nil => cases h
  | cons first rest ih =>
    rw [encodeChildren_cons, length_append, ChildBox.length_encode]
    rcases mem_cons.mp h with rfl | hr
    · have hsize := @ChildBox.payload_le_size child
      omega
    · exact Nat.le_add_left_of_le (ih hr)

section

variable {State Item : Type} {visit : State → Bytes → Bytes → Option State} {payload : Bytes}
  {offset fuel : Nat} {state : State} {box : Box}

theorem readSliceBox_box (hat : At payload offset box.encode) (hmax : offset + box.size ≤ u64Max) :
    readSliceBox payload offset =
      some (box.kind, offset + box.headerLength, offset + box.size) := by
  have hbd := hat.bound encode_ne_nil
  rw [Box.length_encode] at hbd
  have hpos := @Box.size_pos box
  have hheader : box.headerLength ≤ box.size := Nat.le_add_right _ _
  have hkind : (payload.drop (offset + 4)).take 4 = box.kind := by
    rw [← drop_drop, hat]
    exact kind_encode
  unfold readSliceBox
  rw [checkedAdd_eq (by omega)]
  simp only [bind, bind_some]
  rw [if_neg (by omega)]
  cases hlarge : box.large with
  | false =>
    have hsize := @beNat_small (payload.drop (offset + box.encode.length)) box hlarge
    have hlen : box.headerLength = 8 := by simp [Box.headerLength, hlarge]
    rw [← hat] at hsize
    rw [hsize, if_neg (by omega), if_neg (by omega), if_neg (by omega),
      checkedAdd_eq hmax, bind_some, if_neg (not_lt.mpr hbd), hkind, hlen]
  | true =>
    have hmarker := @beNat_large_marker (payload.drop (offset + box.encode.length)) box hlarge
    have hsize := @beNat_large (payload.drop (offset + box.encode.length)) box hlarge
    have hlen : box.headerLength = 16 := by simp [Box.headerLength, hlarge]
    rw [← hat] at hmarker hsize
    rw [drop_drop] at hsize
    rw [if_pos hmarker, checkedAdd_eq (by omega), bind_some, if_neg (by omega), hsize,
      if_neg (by omega), checkedAdd_eq hmax, bind_some,
      if_neg (not_lt.mpr hbd), hkind, hlen]

def visitChild (visit : State → Bytes → Bytes → Option State) (state : State) (child : ChildBox) :
    Option State :=
  visit state child.kind child.payload

theorem visitFrom_children {children : List ChildBox}
    (hat : At payload offset (encodeChildren children))
    (hend : offset + (encodeChildren children).length = payload.length)
    (hlimit : payload.length ≤ maxTimingBoxPayloadLength) (hfuel : children.length < fuel) :
    visitFrom visit payload fuel offset state = children.foldlM (visitChild visit) state := by
  induction children generalizing fuel offset state with
  | nil =>
    obtain ⟨fuel, rfl⟩ : ∃ n, fuel = n + 1 := ⟨fuel - 1, by simp at hfuel; omega⟩
    have hdone : ¬ offset < payload.length := by
      rw [← hend]
      simp [encodeChildren]
    rw [visitFrom, if_neg hdone]
    rfl
  | cons child rest ih =>
    obtain ⟨fuel, rfl⟩ : ∃ n, fuel = n + 1 := ⟨fuel - 1, by simp at hfuel; omega⟩
    have hpos := @ChildBox.payload_le_size child
    rw [encodeChildren_cons] at hat
    rw [encodeChildren_cons, length_append, ChildBox.length_encode] at hend
    have hpay : child.payload.length ≤ maxTimingBoxPayloadLength := by omega
    have hmax : maxTimingBoxPayloadLength ≤ u64Max := by decide
    have hread : readSliceBox payload offset =
        some (child.kind, offset + child.headerLength, offset + child.size) :=
      readSliceBox_box (show At payload offset (child.toBox hpay).encode from hat.left)
        (show offset + child.size ≤ u64Max by omega)
    have hslice : slice payload (offset + child.headerLength) (offset + child.size) =
        child.payload := by
      have hright := At.right (show At payload offset (child.header ++ child.payload) from hat.left)
      rw [ChildBox.length_header] at hright
      have hsum : offset + child.size = offset + child.headerLength + child.payload.length :=
        (Nat.add_assoc _ _ _).symm
      rw [hsum]
      exact hright.slice
    have hr : At payload (offset + child.size) (encodeChildren rest) := by
      rw [← ChildBox.length_encode]
      exact hat.right
    rw [visitFrom, if_pos (by omega), hread, foldlM_cons]
    simp only [bind, bind_some, hslice, visitChild]
    cases visit state child.kind child.payload with
    | none => rfl
    | some after => exact ih hr (by omega) (by simpa using hfuel)

theorem visitChildBoxes_children {children : List ChildBox}
    (hlimit : (encodeChildren children).length ≤ maxTimingBoxPayloadLength) :
    visitChildBoxes visit (encodeChildren children) state =
      children.foldlM (visitChild visit) state := by
  have hc := @length_le_encodeChildren children
  refine visitFrom_children (@at_of_drop _ _ [] _ ?_) (Nat.zero_add _) hlimit (by omega)
  simp

def Ignores (visit : State → Bytes → Bytes → Option State) (kinds : List String) : Prop :=
  ∀ (state : State) (box : Foreign kinds), visitChild visit state box.toChildBox = some state

variable {kinds : List String}

theorem foldlM_foreign {boxes : List (Foreign kinds)} (hignores : Ignores visit kinds) :
    (foreignBoxes boxes).foldlM (visitChild visit) state = some state := by
  induction boxes with
  | nil => rfl
  | cons box rest ih =>
    rw [foreignBoxes, map_cons, foldlM_cons, hignores state box]
    exact ih

variable {children : List (Child Item kinds)} {itemBox : Item → ChildBox}

theorem foldlM_items (hignores : Ignores visit kinds) :
    (children.map (Child.box itemBox)).foldlM (visitChild visit) state =
      (items children).foldlM (fun state item => visitChild visit state (itemBox item)) state := by
  induction children generalizing state with
  | nil => rfl
  | cons child rest ih =>
    cases child with
    | item value =>
      rw [map_cons, foldlM_cons, items, filterMap_cons]
      simp only [Child.item?, Child.box, foldlM_cons]
      cases visitChild visit state (itemBox value) with
      | none => rfl
      | some after => exact ih
    | other box =>
      rw [map_cons, foldlM_cons, items, filterMap_cons]
      simp only [Child.item?, Child.box, hignores state box]
      exact ih

/-- What is read of a child is short enough when what is read of its parent is. -/
theorem item_payload_le {item : Item} (hi : item ∈ items children)
    (hlimit : (encodeChildren (children.map (Child.box itemBox))).length ≤
      maxTimingBoxPayloadLength) : (itemBox item).payload.length ≤ maxTimingBoxPayloadLength := by
  obtain ⟨child, hchild, hvalue⟩ := mem_filterMap.mp hi
  have hbox : Child.box itemBox child = itemBox item := by
    cases child with
    | item value =>
      cases hvalue
      rfl
    | other box => cases hvalue
  have hm : itemBox item ∈ children.map (Child.box itemBox) :=
    hbox ▸ List.mem_map_of_mem hchild
  exact le_trans (payload_le_encodeChildren hm) hlimit

end

theorem readVersioned_payload {box : VersionedBox} :
    readVersioned box.payload = some box.value.toNat := by
  have htimes := box.timesLength
  unfold readVersioned VersionedBox.payload
  cases hver : box.isVersionOne with
  | false =>
    rw [hver] at htimes
    have hfront : ((0 : UInt8) :: box.flagsAndTimes).length = 12 := by simpa using htimes
    have hr := @readU32_word _ box.rest _ box.value hfront
    simpa using hr
  | true =>
    rw [hver] at htimes
    have hfront : ((1 : UInt8) :: box.flagsAndTimes).length = 20 := by simpa using htimes
    have hr := @readU32_word _ box.rest _ box.value hfront
    simpa using hr

theorem agree_none {parsed : Nat} : agree none parsed = some parsed := rfl

theorem parseMdiaTimescale_mdia {mdia : Mdia}
    (hlimit : mdia.box.payload.length ≤ maxTimingBoxPayloadLength)
    (hpos : 0 < mdia.mdhd.value) :
    parseMdiaTimescale mdia.box.payload = some (some mdia.mdhd.value.toNat) := by
  have hnonzero : mdia.mdhd.value.toNat ≠ 0 := Nat.ne_of_gt hpos
  have hkind : mdia.mdhd.mdhd.kind = fourCC "mdhd" := rfl
  unfold parseMdiaTimescale
  rw [Mdia.box, visitChildBoxes_children hlimit, Mdia.children, foldlM_append,
    foldlM_append, foldlM_foreign]
  · simp only [bind, bind_some, foldlM_cons, foldlM_nil, visitChild]
    rw [if_neg (not_not_intro hkind), VersionedBox.mdhd, parseMdhdTimescale, readVersioned_payload,
      bind_some, if_neg hnonzero, agree_none]
    exact foldlM_foreign fun state box => if_pos (box.foreign "mdhd" (by simp))
  · exact fun state box => if_pos (box.foreign "mdhd" (by simp))

section

variable {context : Mp4TimingContext} {trak : Trak} {other : Option Nat}

theorem ignores_visitTrak : Ignores visitTrak ["tkhd", "mdia"] := by
  intro state box
  unfold visitChild visitTrak
  rw [if_neg (box.foreign "tkhd" (by simp)), if_neg (box.foreign "mdia" (by simp))]

theorem visitTrak_tkhd :
    visitChild visitTrak (none, other) trak.tkhd.tkhd = some (some trak.trackId, other) := by
  have hnonzero : trak.tkhd.value.toNat ≠ 0 := by
    intro hzero
    exact trak.trackIdNonzero (UInt32.toNat_inj.mp hzero)
  have hkind : trak.tkhd.tkhd.kind = fourCC "tkhd" := rfl
  unfold visitChild visitTrak
  rw [if_pos hkind]
  simp only [VersionedBox.tkhd, parseTkhdTrackId, readVersioned_payload, bind, bind_some,
    if_neg hnonzero, agree_none]
  rfl

theorem visitTrak_mdia
    (hlimit : trak.mdia.box.payload.length ≤ maxTimingBoxPayloadLength) :
    visitChild visitTrak (other, none) trak.mdia.box = some (other, some trak.timescale) := by
  have hnonzero : trak.mdia.mdhd.value.toNat ≠ 0 := Nat.ne_of_gt trak.timescalePositive
  have hkind : trak.mdia.box.kind = fourCC "mdia" := rfl
  unfold visitChild visitTrak
  rw [if_neg (by rw [hkind]; decide), if_pos hkind,
    parseMdiaTimescale_mdia hlimit trak.timescalePositive]
  simp only [bind, bind_some, if_neg hnonzero, agree_none]
  rfl

theorem visitChildBoxes_trak (hlimit : trak.box.payload.length ≤ maxTimingBoxPayloadLength) :
    visitChildBoxes visitTrak trak.box.payload (none, none) =
      some (some trak.trackId, some trak.timescale) := by
  have hmdia : trak.mdia.box.payload.length ≤ maxTimingBoxPayloadLength := by
    refine le_trans (payload_le_encodeChildren ?_) hlimit
    unfold Trak.children
    cases trak.isMdiaFirst <;> simp
  rw [Trak.box, visitChildBoxes_children hlimit, Trak.children]
  simp only [foldlM_append, foldlM_foreign ignores_visitTrak, bind, bind_some,
    foldlM_cons, foldlM_nil]
  cases trak.isMdiaFirst with
  | false =>
    simp only [Bool.false_eq_true, if_false, visitTrak_tkhd, bind_some, pure,
      visitTrak_mdia hmdia]
  | true =>
    simp only [if_true, visitTrak_mdia hmdia, bind_some, pure, visitTrak_tkhd]

theorem get_eq_none {map : TrackMap} {track : Nat} (h : track ∉ map.map Prod.fst) :
    map.get track = none := by
  rw [TrackMap.get, map_eq_none_iff, List.find?_eq_none]
  intro entry he hs
  exact h (List.mem_map.mpr ⟨entry, he, of_decide_eq_true hs⟩)

theorem insertAgreeing_new {map : TrackMap} {track value : Nat} (h : track ∉ map.map Prod.fst) :
    map.insertAgreeing track value = some (map ++ [(track, value)]) := by
  rw [TrackMap.insertAgreeing, get_eq_none h]

theorem parseTrakTiming_trak (hlimit : trak.box.payload.length ≤ maxTimingBoxPayloadLength)
    (hn : trak.trackId ∉ context.timescaleByTrack.map Prod.fst) :
    parseTrakTiming trak.box.payload context =
      some { context with
        timescaleByTrack := context.timescaleByTrack ++ [(trak.trackId, trak.timescale)] } := by
  unfold parseTrakTiming
  rw [visitChildBoxes_trak hlimit]
  simp only [bind, bind_some, insertAgreeing_new hn]

end

def defaultsOf (trexes : List Trex) : TrackMap :=
  (trexes.filter fun trex => 0 < trex.defaultSampleDuration).map fun trex =>
    (trex.trackId, trex.defaultSampleDuration)

theorem parseTrex_payload {trex : Trex} :
    parseTrexDefaultSampleDuration trex.payload =
      some (trex.trackId, trex.defaultSampleDuration) := by
  have htrack := @readU32_word (word trex.versionAndFlags)
    (word trex.defaultSampleDescriptionIndex ++ (word trex.sampleDuration ++ trex.rest)) 4
    trex.track (by simp)
  have hdur := @readU32_word
    (word trex.versionAndFlags ++ word trex.track ++ word trex.defaultSampleDescriptionIndex)
    trex.rest 12 trex.sampleDuration (by simp)
  simp only [append_assoc] at htrack hdur
  unfold parseTrexDefaultSampleDuration Trex.payload
  simp only [append_assoc, htrack, hdur, bind, bind_some]
  rfl

theorem defaultsOf_sublist {trexes : List Trex} :
    ((defaultsOf trexes).map Prod.fst).Sublist (trexes.map Trex.trackId) := by
  have hids : (defaultsOf trexes).map Prod.fst =
      (trexes.filter fun trex => 0 < trex.defaultSampleDuration).map Trex.trackId := by
    simp [defaultsOf, Function.comp_def]
  rw [hids]
  exact filter_sublist.map Trex.trackId

theorem parseMvexDefaults_mvex {mvex : Mvex} {context : Mp4TimingContext}
    (hlimit : mvex.box.payload.length ≤ maxTimingBoxPayloadLength)
    (hn : (context.defaultSampleDurationByTrack.map Prod.fst ++
      mvex.trexes.map Trex.trackId).Nodup) :
    parseMvexDefaults mvex.box.payload context =
      some { context with defaultSampleDurationByTrack :=
        context.defaultSampleDurationByTrack ++ defaultsOf mvex.trexes } := by
  unfold parseMvexDefaults
  rw [Mvex.box, visitChildBoxes_children hlimit, foldlM_items]
  · change (mvex.trexes.foldlM _ context) = _
    generalize mvex.trexes = trexes at hn ⊢
    simp only [visitChild, Trex.box, parseTrex_payload, bind, bind_some, ne_eq,
      not_true_eq_false, if_false]
    clear hlimit
    induction trexes generalizing context with
    | nil => simp [defaultsOf]
    | cons trex rest ih =>
      rw [foldlM_cons]
      by_cases hzero : trex.defaultSampleDuration = 0
      · have hdrop : defaultsOf (trex :: rest) = defaultsOf rest := by
          simp [defaultsOf, hzero]
        rw [if_pos hzero, hdrop]
        exact ih (hn.sublist (List.Sublist.append_left (sublist_cons_self _ _) _))
      · have hkeep : defaultsOf (trex :: rest) =
            [(trex.trackId, trex.defaultSampleDuration)] ++ defaultsOf rest := by
          simp [defaultsOf, Nat.pos_of_ne_zero hzero]
        have hfr : trex.trackId ∉ context.defaultSampleDurationByTrack.map Prod.fst := by
          intro hm
          exact (nodup_append.mp hn).2.2 _ hm _ (by simp) rfl
        rw [if_neg hzero, insertAgreeing_new hfr, hkeep, ← append_assoc]
        exact ih (by simpa using hn)
  · exact fun state box => if_pos (box.foreign "trex" (by simp))

/-- What is read of the movie. -/
def Moov.timing (moov : Moov) : Mp4TimingContext :=
  ⟨moov.traks.map fun trak => (trak.trackId, trak.timescale), defaultsOf moov.trexes⟩

theorem parse_moovItems {moovItems : List MoovItem} {context : Mp4TimingContext}
    (hlimit : ∀ item ∈ moovItems, item.box.payload.length ≤ maxTimingBoxPayloadLength)
    (htracks : (context.timescaleByTrack.map Prod.fst ++
      (moovItems.flatMap MoovItem.traks).map Trak.trackId).Nodup)
    (hdefaults : (context.defaultSampleDurationByTrack.map Prod.fst ++
      (moovItems.flatMap MoovItem.trexes).map Trex.trackId).Nodup) :
    moovItems.foldlM (fun context item =>
        if item.box.kind = fourCC "trak" then parseTrakTiming item.box.payload context
        else if item.box.kind = fourCC "mvex" then parseMvexDefaults item.box.payload context
        else some context) context =
      some ⟨context.timescaleByTrack ++
          (moovItems.flatMap MoovItem.traks).map fun trak => (trak.trackId, trak.timescale),
        context.defaultSampleDurationByTrack ++
          defaultsOf (moovItems.flatMap MoovItem.trexes)⟩ := by
  induction moovItems generalizing context with
  | nil => simp [defaultsOf]
  | cons item rest ih =>
    have hfst := hlimit item mem_cons_self
    have hr := fun other ho => hlimit other (mem_cons_of_mem item ho)
    rw [foldlM_cons]
    cases item with
    | trak track =>
      have hkind : (MoovItem.trak track).box.kind = fourCC "trak" := rfl
      have hn : track.trackId ∉ context.timescaleByTrack.map Prod.fst := by
        intro hm
        exact (nodup_append.mp htracks).2.2 _ hm _ (by simp [MoovItem.traks]) rfl
      have hparsed := parseTrakTiming_trak hfst hn
      rw [if_pos hkind]
      change (parseTrakTiming track.box.payload context).bind _ = _
      rw [hparsed, bind_some, ih hr]
      · simp [MoovItem.traks, MoovItem.trexes]
      · simpa [MoovItem.traks] using htracks
      · simpa [MoovItem.trexes] using hdefaults
    | mvex defaults =>
      have hkind : (MoovItem.mvex defaults).box.kind = fourCC "mvex" := rfl
      have hfront : (context.defaultSampleDurationByTrack.map Prod.fst ++
          defaults.trexes.map Trex.trackId).Nodup := by
        refine hdefaults.sublist (List.Sublist.append_left ?_ _)
        rw [flatMap_cons, map_append]
        exact sublist_append_left _ _
      have hparsed := parseMvexDefaults_mvex hfst hfront
      rw [if_neg (by rw [hkind]; decide), if_pos hkind]
      change (parseMvexDefaults defaults.box.payload context).bind _ = _
      rw [hparsed, bind_some, ih hr]
      · simp [MoovItem.traks, MoovItem.trexes, defaultsOf]
      · simpa [MoovItem.traks] using htracks
      · refine hdefaults.sublist ?_
        rw [map_append, append_assoc, flatMap_cons, map_append]
        exact List.Sublist.append_left (defaultsOf_sublist.append_right _) _

theorem parseMoovTiming_moov {moov : Moov}
    (hlimit : moov.box.payload.length ≤ maxTimingBoxPayloadLength) :
    parseMoovTiming moov.box.payload Mp4TimingContext.default = some moov.timing := by
  unfold parseMoovTiming
  rw [Moov.box, visitChildBoxes_children hlimit, foldlM_items]
  · simp only [visitChild]
    rw [parse_moovItems (fun item hi => item_payload_le hi hlimit)]
    · simp [Mp4TimingContext.default, Moov.timing, Moov.traks, Moov.trexes]
    · simpa [Mp4TimingContext.default] using moov.distinctTracks
    · simpa [Mp4TimingContext.default] using moov.distinctDefaults
  · intro state box
    exact (if_neg (box.foreign "trak" (by simp))).trans (if_neg (box.foreign "mvex" (by simp)))

theorem timescale_get {moov : Moov} {trak : Trak} (htrak : trak ∈ moov.traks) :
    moov.timing.timescaleByTrack.get trak.trackId = some trak.timescale := by
  have hdist : (moov.traks.map Trak.trackId).Nodup := moov.distinctTracks
  unfold Moov.timing TrackMap.get
  generalize moov.traks = traks at htrak hdist
  induction traks with
  | nil => cases htrak
  | cons first rest ih =>
    rcases mem_cons.mp htrak with rfl | hr
    · simp
    have ho : first.trackId ≠ trak.trackId := by
      intro hs
      rw [map_cons, nodup_cons, hs] at hdist
      exact hdist.1 (List.mem_map_of_mem hr)
    rw [map_cons, List.find?_cons_of_neg (by simpa using ho)]
    exact ih hr (nodup_cons.mp hdist).2

theorem default_get {moov : Moov} {trackId : Nat} :
    moov.timing.defaultSampleDurationByTrack.get trackId = moov.defaultSampleDuration trackId := by
  unfold Moov.timing TrackMap.get defaultsOf Moov.defaultSampleDuration
  rw [List.find?_map, List.find?_filter, Option.map_map]
  refine congrArg (Option.map Trex.defaultSampleDuration)
    (congrArg (fun test => moov.trexes.find? test) ?_)
  funext trex
  simp [and_comm]

theorem parseTfhd_payload {tfhd : TfhdBox} :
    parseTfhd tfhd.payload = some ⟨tfhd.trackId, tfhd.defaultSampleDuration⟩ := by
  have hflags : fullBoxFlags tfhd.payload = some tfhd.flags := by
    unfold TfhdBox.payload
    rw [append_assoc]
    exact fullBoxFlags_beBytes tfhd.flagsFit
  have htrack : readU32 tfhd.payload 4 = some tfhd.trackId := by
    unfold TfhdBox.payload
    rw [append_assoc]
    exact readU32_word (by simp)
  unfold parseTfhd TfhdBox.defaultSampleDuration
  rw [hflags, htrack]
  simp only [bind, bind_some]
  cases hdur : hasFlag tfhd.flags 0x000008 with
  | false => rfl
  | true =>
    have hr : readU32 tfhd.payload
        (8 + (if hasFlag tfhd.flags 0x000001 = true then 8 else 0) +
          if hasFlag tfhd.flags 0x000002 = true then 4 else 0) =
        some tfhd.sampleDuration.toNat := by
      have hfield : whenFlag tfhd.flags 0x000008 (word tfhd.sampleDuration) =
          word tfhd.sampleDuration := if_pos hdur
      unfold TfhdBox.payload
      rw [hfield, ← append_assoc, ← append_assoc]
      refine readU32_word ?_
      simp [length_whenFlag]
      omega
    rw [if_pos rfl, hr]
    simp

def entryBytes (flags : Nat) : Nat :=
  (if hasFlag flags 0x000100 then 4 else 0) + (if hasFlag flags 0x000200 then 4 else 0) +
    (if hasFlag flags 0x000400 then 4 else 0) + (if hasFlag flags 0x000800 then 4 else 0)

section

variable {flags total : Nat} {samples : List Sample} {front : Bytes} {trun : TrunBox}
  {default : Option Nat}

theorem length_sample {sample : Sample} : (sample.encode flags).length = entryBytes flags := by
  simp [Sample.encode, length_whenFlag, entryBytes, Nat.add_assoc]

theorem length_samples :
    (samples.flatMap (Sample.encode flags)).length = entryBytes flags * samples.length := by
  induction samples with
  | nil => rfl
  | cons sample rest ih =>
    rw [flatMap_cons, length_append, length_sample, ih, length_cons,
      Nat.mul_succ, Nat.add_comm]

theorem sumDurations_samples (hfl : hasFlag flags 0x000100 = true)
    (hfit : total + (samples.map fun sample => sample.duration.toNat).sum ≤ u64Max) :
    sumDurations (front ++ samples.flatMap (Sample.encode flags)) (entryBytes flags)
        samples.length front.length total =
      some (total + (samples.map fun sample => sample.duration.toNat).sum) := by
  induction samples generalizing front total with
  | nil => rfl
  | cons sample rest ih =>
    rw [map_cons, sum_cons, ← Nat.add_assoc] at hfit
    have hr : readU32 (front ++ (sample.encode flags ++ rest.flatMap (Sample.encode flags)))
        front.length = some sample.duration.toNat := by
      unfold Sample.encode
      rw [whenFlag, if_pos hfl, append_assoc]
      exact readU32_word rfl
    have hin : ¬ (front ++ (sample.encode flags ++
        rest.flatMap (Sample.encode flags))).length < front.length + entryBytes flags := by
      simp only [length_append, length_sample]
      omega
    have hn := @ih (total + sample.duration.toNat) (front ++ sample.encode flags) hfit
    rw [length_append, length_sample, append_assoc] at hn
    rw [flatMap_cons, length_cons, sumDurations, hr]
    simp only [bind, bind_some, if_neg hin,
      checkedAdd_eq (show total + sample.duration.toNat ≤ u64Max by omega)]
    rw [hn, map_cons, sum_cons, Nat.add_assoc]

theorem length_trunFront : trun.front.length =
    8 + (if hasFlag trun.flags 0x000001 then 4 else 0) +
      (if hasFlag trun.flags 0x000004 then 4 else 0) := by
  simp [TrunBox.front, length_whenFlag]
  omega

theorem fullBoxFlags_trun : fullBoxFlags trun.payload = some trun.flags := by
  unfold TrunBox.payload TrunBox.front
  exact fullBoxFlags_beBytes trun.flagsFit

theorem trunHasSampleDuration_trun :
    trunHasSampleDuration trun.payload = hasFlag trun.flags 0x000100 := by
  rw [trunHasSampleDuration, fullBoxFlags_trun]
  rfl

theorem units_own (hfl : hasFlag trun.flags 0x000100 = true) :
    trun.units default = (trun.samples.map fun sample => sample.duration.toNat).sum := by
  unfold TrunBox.units TrunBox.sampleDurations
  rw [List.map_map]
  simp [hfl, Function.comp_def]

theorem units_default {duration : Nat} (hfl : hasFlag trun.flags 0x000100 = false) :
    trun.units (some duration) = duration * trun.samples.length := by
  unfold TrunBox.units TrunBox.sampleDurations
  rw [List.map_map]
  simp [hfl, Function.comp_def, Nat.mul_comm]

theorem parseTrunDurationUnits_trun
    (hsrc : hasFlag trun.flags 0x000100 = true ∨ default.isSome)
    (hfit : trun.units default ≤ u64Max) :
    parseTrunDurationUnits trun.payload default = some (trun.units default) := by
  have hc : readU32 trun.payload 4 = some trun.samples.length := by
    unfold TrunBox.payload TrunBox.front
    simp only [append_assoc]
    exact readU32_beBytes trun.countFits (by simp)
  have he : entryBytes trun.flags ≤ 16 := by
    unfold entryBytes
    split <;> split <;> split <;> split <;> omega
  have hfront : trun.front.length ≤ 16 := by
    rw [length_trunFront]
    split <;> split <;> omega
  have hbytes : entryBytes trun.flags * trun.samples.length ≤ 16 * 2 ^ 32 :=
    Nat.mul_le_mul he (le_of_lt trun.countFits)
  have hmax : 16 + 16 * 2 ^ 32 ≤ u64Max := by decide
  have hlen : trun.payload.length =
      trun.front.length + entryBytes trun.flags * trun.samples.length := by
    rw [TrunBox.payload, length_append, length_samples]
  unfold parseTrunDurationUnits
  rw [fullBoxFlags_trun, hc]
  simp only [bind, bind_some]
  rw [← entryBytes, ← length_trunFront, checkedMul, if_pos (by omega), bind_some,
    checkedAdd_eq (by omega), bind_some, if_neg (by omega)]
  cases hfl : hasFlag trun.flags 0x000100 with
  | true =>
    have hsum := @units_own trun default hfl
    rw [hsum] at hfit ⊢
    rw [if_neg (by decide)]
    have hloop := @sumDurations_samples trun.flags 0 trun.samples trun.front hfl (by omega)
    rw [Nat.zero_add] at hloop
    exact hloop
  | false =>
    obtain ⟨duration, rfl⟩ : ∃ duration, default = some duration :=
      isSome_iff_exists.mp (hsrc.resolve_left (by simp [hfl]))
    rw [units_default hfl] at hfit ⊢
    exact if_pos hfit

end

section

variable {moov : Moov} {traf : Traf}

theorem ignores_visitTraf {timing : Mp4TimingContext} :
    Ignores (visitTraf timing) ["tfhd", "trun"] := by
  intro state box
  unfold visitChild visitTraf
  rw [if_neg (box.foreign "tfhd" (by simp)), if_neg (box.foreign "trun" (by simp))]

theorem visitTraf_tfhd {tfhd : TfhdBox} {found : TrafDuration} :
    visitChild (visitTraf moov.timing) found tfhd.box =
      some { found with
        trackId := some tfhd.trackId
        defaultSampleDuration :=
          tfhd.defaultSampleDuration.or (moov.defaultSampleDuration tfhd.trackId) } := by
  have hkind : tfhd.box.kind = fourCC "tfhd" := rfl
  unfold visitChild visitTraf
  rw [if_pos hkind]
  simp only [TfhdBox.box, parseTfhd_payload, bind, bind_some, default_get]

theorem visitTraf_truns {truns : List TrunBox} {trackId total : Nat} {default : Option Nat}
    (hsrc : ∀ trun ∈ truns, hasFlag trun.flags 0x000100 = true ∨ default.isSome)
    (hfit : total + (truns.map fun trun => trun.units default).sum ≤ u64Max) :
    truns.foldlM (fun found trun => visitChild (visitTraf moov.timing) found trun.box)
        ⟨some trackId, default, total⟩ =
      some ⟨some trackId, default, total + (truns.map fun trun => trun.units default).sum⟩ := by
  induction truns generalizing total with
  | nil => rfl
  | cons trun rest ih =>
    rw [map_cons, sum_cons, ← Nat.add_assoc] at hfit
    have hfst := hsrc trun mem_cons_self
    have hkind : trun.box.kind = fourCC "trun" := rfl
    have hguard : ((moov.timing.defaultSampleDurationByTrack.get trackId).isSome ||
        default.isSome || trunHasSampleDuration trun.payload) = true := by
      rw [trunHasSampleDuration_trun]
      rcases hfst with hfl | hdefault
      · simp [hfl]
      · simp [hdefault]
    have hvisit : visitChild (visitTraf moov.timing) ⟨some trackId, default, total⟩ trun.box =
        some ⟨some trackId, default, total + trun.units default⟩ := by
      unfold visitChild visitTraf
      rw [if_neg (by rw [hkind]; decide), if_pos hkind]
      simp only [TrunBox.box, bind, bind_some,
        parseTrunDurationUnits_trun hfst (le_trans (Nat.le_add_left _ _)
          (le_trans (Nat.le_add_right _ _) hfit)),
        checkedAdd_eq (le_trans (Nat.le_add_right _ _) hfit)]
      exact if_pos hguard
    rw [foldlM_cons, hvisit]
    change rest.foldlM _ _ = _
    rw [ih (fun other ho => hsrc other (mem_cons_of_mem trun ho)) hfit,
      map_cons, sum_cons, Nat.add_assoc]

theorem parseTrafDurationUnits_traf
    (hlimit : traf.box.payload.length ≤ maxTimingBoxPayloadLength)
    (hsrc : ∀ trun ∈ traf.truns,
      hasFlag trun.flags 0x000100 = true ∨ (traf.default moov).isSome)
    (hfit : traf.units moov ≤ u64Max) (hpos : 0 < traf.units moov) :
    parseTrafDurationUnits traf.box.payload moov.timing = some (traf.trackId, traf.units moov) := by
  have hsum : 0 + (traf.truns.map fun trun => trun.units (traf.default moov)).sum ≤ u64Max := by
    rw [Nat.zero_add]
    exact hfit
  unfold parseTrafDurationUnits
  rw [Traf.box, visitChildBoxes_children hlimit, Traf.boxes, foldlM_append,
    foldlM_append, foldlM_foreign ignores_visitTraf]
  simp only [bind, bind_some, foldlM_cons, foldlM_nil, visitTraf_tfhd, pure]
  rw [foldlM_items ignores_visitTraf, ← Traf.truns, ← Traf.trackId, ← Traf.default,
    visitTraf_truns hsrc hsum, bind_some, bind_some, Nat.zero_add]
  exact if_pos hpos

end

end NetPlayer.Segments
