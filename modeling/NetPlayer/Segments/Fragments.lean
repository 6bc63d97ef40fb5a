import NetPlayer.Library.Mp4Boxes
import NetPlayer.RangeCache.Files

/-!
# The fragments of a cached MP4 file

`mp4_fragment_ranges` makes a segment of every fragment after the initialization:
the boxes before a `moof`, the `moof`, and everything up to the end of its `mdat`.
Its duration comes from the `moof`, with the track timing of the initialization.
A `usize` has 64 bits here.
-/

namespace NetPlayer.Segments

open Mp4 Slices

inductive ReadError
  | unexpectedEof
  deriving DecidableEq

def maxTimingBoxPayloadLength : Nat := 16 * 1024 * 1024

structure Mp4SegmentRange where
  offset : Nat
  length : Nat
  durationMillis : Nat
  deriving DecidableEq

structure Mp4BoxHeader where
  offset : Nat
  headerLength : Nat
  size : Nat
  kind : Bytes

/-- `u64::checked_add`. -/
def checkedAdd (a b : Nat) : Option Nat := if a + b ≤ u64Max then some (a + b) else none

/-- `u64::checked_mul`. -/
def checkedMul (a b : Nat) : Option Nat := if a * b ≤ u64Max then some (a * b) else none

namespace Mp4BoxHeader

def stop (header : Mp4BoxHeader) : Option Nat := checkedAdd header.offset header.size

def payloadOffset (header : Mp4BoxHeader) : Option Nat :=
  checkedAdd header.offset header.headerLength

def payloadLength (header : Mp4BoxHeader) : Option Nat :=
  if header.headerLength ≤ header.size then some (header.size - header.headerLength) else none

end Mp4BoxHeader

def fourCC (name : String) : Bytes := name.toList.map fun c => UInt8.ofNat c.toNat

variable (file : Bytes)

def readExact (offset count : Nat) : Except ReadError Bytes :=
  if offset + count ≤ file.length then .ok ((file.drop offset).take count)
  else .error .unexpectedEof

def boxSize (offset totalLength size32 : Nat) :
    Except ReadError (Option (Nat × Nat)) := do
  if size32 = 0 then return none
  else if size32 = 1 then
    match checkedAdd offset 16 with
    | none => return none
    | some largeHeaderEnd =>
      if totalLength < largeHeaderEnd then return none
      else
        let bytes ← readExact file (offset + 8) 8
        return some (16, beNat bytes)
  else return some (8, size32)

def readBoxHeader (offset totalLength : Nat) :
    Except ReadError (Option Mp4BoxHeader) := do
  match checkedAdd offset 8 with
  | none => return none
  | some headerEnd =>
    if totalLength < headerEnd then return none
    else
      let bytes ← readExact file offset 8
      match ← boxSize file offset totalLength (beNat (bytes.take 4)) with
      | none => return none
      | some (headerLength, size) =>
        if size < headerLength then return none
        else
          match checkedAdd offset size with
          | none => return none
          | some stop =>
            if totalLength < stop then return none
            else return some ⟨offset, headerLength, size, (bytes.drop 4).take 4⟩

def readBoxPayloadLimited (header : Mp4BoxHeader) (maxPayloadLength : Nat) :
    Except ReadError (Option Bytes) := do
  match header.payloadOffset, header.payloadLength with
  | some payloadOffset, some payloadLength =>
    if maxPayloadLength < payloadLength then return none
    else
      let payload ← readExact file payloadOffset payloadLength
      return some payload
  | _, _ => return none

variable (payload : Bytes)

def readU32 (offset : Nat) : Option Nat :=
  if offset + 4 ≤ payload.length then some (beNat ((payload.drop offset).take 4)) else none

def readSliceBox (offset : Nat) : Option (Bytes × Nat × Nat) := do
  let headerEnd ← checkedAdd offset 8
  if payload.length < headerEnd then none
  else
    let size32 := beNat ((payload.drop offset).take 4)
    let kind := (payload.drop (offset + 4)).take 4
    let (headerLength, size) ←
      if size32 = 1 then do
        let largeHeaderEnd ← checkedAdd offset 16
        if payload.length < largeHeaderEnd then none
        else some (16, beNat ((payload.drop (offset + 8)).take 8))
      else if size32 = 0 then none
      else some (8, size32)
    if size < headerLength then none
    else
      let nextOffset ← checkedAdd offset size
      if payload.length < nextOffset then none
      else some (kind, offset + headerLength, nextOffset)

section

variable {State : Type}

/-- The loop of `visit_child_boxes`; every box has a byte, so `fuel` does not run out. -/
def visitFrom (visit : State → Bytes → Bytes → Option State) (payload : Bytes) :
    Nat → Nat → State → Option State
  | 0, _, _ => none
  | fuel + 1, offset, state =>
    if offset < payload.length then do
      let (kind, start, stop) ← readSliceBox payload offset
      let state ← visit state kind (slice payload start stop)
      visitFrom visit payload fuel stop state
    else some state

def visitChildBoxes (visit : State → Bytes → Bytes → Option State) (payload : Bytes)
    (state : State) : Option State :=
  visitFrom visit payload (payload.length + 1) 0 state

end

abbrev TrackMap := List (Nat × Nat)

def TrackMap.get (map : TrackMap) (track : Nat) : Option Nat :=
  (map.find? (·.1 = track)).map Prod.snd

structure Mp4TimingContext where
  timescaleByTrack : TrackMap
  defaultSampleDurationByTrack : TrackMap
  deriving DecidableEq

def Mp4TimingContext.default : Mp4TimingContext := ⟨[], []⟩

/-- Sets a value that may be set again, but not to another value. -/
def agree (existing : Option Nat) (parsed : Nat) : Option Nat :=
  if existing.all (· = parsed) then some parsed else none

def TrackMap.insertAgreeing (map : TrackMap) (track value : Nat) : Option TrackMap :=
  match map.get track with
  | some existing => if existing ≠ value then none else some map
  | none => some (map ++ [(track, value)])

/-- The number of `tkhd` and `mdhd`, after a version and two times. -/
def readVersioned : Option Nat :=
  match payload.head? with
  | some 0 => readU32 payload 12
  | some 1 => readU32 payload 20
  | _ => none

def parseTkhdTrackId (payload : Bytes) : Option Nat := readVersioned payload
def parseMdhdTimescale (payload : Bytes) : Option Nat := readVersioned payload

def parseMdiaTimescale : Option (Option Nat) :=
  visitChildBoxes (fun timescale kind child =>
    if kind ≠ fourCC "mdhd" then some timescale
    else do
      let parsed ← parseMdhdTimescale child
      if parsed = 0 then none else (agree timescale parsed).map some) payload none

/-- The track id and the timescale of a `trak`. -/
def visitTrak (found : Option Nat × Option Nat) (kind child : Bytes) :
    Option (Option Nat × Option Nat) :=
  if kind = fourCC "tkhd" then do
    let parsed ← parseTkhdTrackId child
    if parsed = 0 then none else (agree found.1 parsed).map fun track => (some track, found.2)
  else if kind = fourCC "mdia" then do
    match ← parseMdiaTimescale child with
    | none => some found
    | some parsed =>
      if parsed = 0 then none
      else (agree found.2 parsed).map fun timescale => (found.1, some timescale)
  else some found

variable (context : Mp4TimingContext)

def parseTrakTiming : Option Mp4TimingContext := do
  let (trackId, timescale) ← visitChildBoxes visitTrak payload (none, none)
  let timescales ← context.timescaleByTrack.insertAgreeing (← trackId) (← timescale)
  some { context with timescaleByTrack := timescales }

def parseTrexDefaultSampleDuration : Option (Nat × Nat) := do
  let trackId ← readU32 payload 4
  let defaultSampleDuration ← readU32 payload 12
  some (trackId, defaultSampleDuration)

def parseMvexDefaults : Option Mp4TimingContext :=
  visitChildBoxes (fun context kind child =>
    if kind ≠ fourCC "trex" then some context
    else do
      let (trackId, defaultSampleDuration) ← parseTrexDefaultSampleDuration child
      if defaultSampleDuration = 0 then some context
      else
        let defaults ←
          context.defaultSampleDurationByTrack.insertAgreeing trackId defaultSampleDuration
        some { context with defaultSampleDurationByTrack := defaults }) payload context

def parseMoovTiming : Option Mp4TimingContext :=
  visitChildBoxes (fun context kind child =>
    if kind = fourCC "trak" then parseTrakTiming child context
    else if kind = fourCC "mvex" then parseMvexDefaults child context
    else some context) payload context

/-- The lower three bytes of the first word. -/
def fullBoxFlags : Option Nat :=
  if payload.length < 4 then none else some (beNat ((payload.drop 1).take 3))

def hasFlag (flags flag : Nat) : Bool := flags &&& flag != 0

structure Tfhd where
  trackId : Nat
  defaultSampleDuration : Option Nat

def parseTfhd : Option Tfhd := do
  let flags ← fullBoxFlags payload
  let trackId ← readU32 payload 4
  let offset := 8 + (if hasFlag flags 0x000001 then 8 else 0) +
    (if hasFlag flags 0x000002 then 4 else 0)
  if hasFlag flags 0x000008 then
    let duration ← readU32 payload offset
    some ⟨trackId, if 0 < duration then some duration else none⟩
  else some ⟨trackId, none⟩

/-- The loop over the samples of a `trun` that has their durations. -/
def sumDurations (payload : Bytes) (entryBytes : Nat) : Nat → Nat → Nat → Option Nat
  | 0, _, total => some total
  | count + 1, offset, total => do
      let duration ← readU32 payload offset
      let total ← checkedAdd total duration
      if payload.length < offset + entryBytes then none
      else sumDurations payload entryBytes count (offset + entryBytes) total

def parseTrunDurationUnits (defaultSampleDuration : Option Nat) :
    Option Nat := do
  let flags ← fullBoxFlags payload
  let sampleCount ← readU32 payload 4
  let offset := 8 + (if hasFlag flags 0x000001 then 4 else 0) +
    (if hasFlag flags 0x000004 then 4 else 0)
  let entryBytes := (if hasFlag flags 0x000100 then 4 else 0) +
    (if hasFlag flags 0x000200 then 4 else 0) + (if hasFlag flags 0x000400 then 4 else 0) +
    (if hasFlag flags 0x000800 then 4 else 0)
  let sampleBytes ← checkedMul entryBytes sampleCount
  let stop ← checkedAdd offset sampleBytes
  if payload.length < stop then none
  else if !hasFlag flags 0x000100 then
    let sampleDuration ← defaultSampleDuration
    checkedMul sampleDuration sampleCount
  else sumDurations payload entryBytes sampleCount offset 0

def trunHasSampleDuration : Bool :=
  (fullBoxFlags payload).any fun flags => hasFlag flags 0x000100

structure TrafDuration where
  trackId : Option Nat
  defaultSampleDuration : Option Nat
  durationUnits : Nat

variable (timing : Mp4TimingContext)

def visitTraf (found : TrafDuration) (kind child : Bytes) : Option TrafDuration :=
  if kind = fourCC "tfhd" then do
    let parsed ← parseTfhd child
    some { found with
      trackId := some parsed.trackId
      defaultSampleDuration :=
        parsed.defaultSampleDuration.or (timing.defaultSampleDurationByTrack.get parsed.trackId) }
  else if kind = fourCC "trun" then do
    let trackId ← found.trackId
    let trunDuration ← parseTrunDurationUnits child found.defaultSampleDuration
    let durationUnits ← checkedAdd found.durationUnits trunDuration
    if (timing.defaultSampleDurationByTrack.get trackId).isSome ||
        found.defaultSampleDuration.isSome || trunHasSampleDuration child then
      some { found with durationUnits := durationUnits }
    else none
  else some found

def parseTrafDurationUnits :
    Option (Nat × Nat) := do
  let found ← visitChildBoxes (visitTraf timing) payload ⟨none, none, 0⟩
  let trackId ← found.trackId
  if 0 < found.durationUnits then some (trackId, found.durationUnits) else none

def TrackMap.add (map : TrackMap) (track units : Nat) : Option TrackMap := do
  let total ← checkedAdd ((map.get track).getD 0) units
  some (map.filter (·.1 ≠ track) ++ [(track, total)])

def trackDurationMillis (track units : Nat) : Option Nat := do
  let timescale ← (timing.timescaleByTrack.get track).filter (0 < ·)
  let scaled ← checkedMul units 1000
  let rounded ← checkedAdd scaled (timescale - 1)
  some (rounded / timescale)

def longestTrackMillis (timing : Mp4TimingContext) : TrackMap → Option Nat → Option (Option Nat)
  | [], longest => some longest
  | (track, units) :: rest, longest => do
      let millis ← trackDurationMillis timing track units
      longestTrackMillis timing rest (some (max (longest.getD 0) millis))

def parseMoofDurationMillisFromPayload :
    Option Nat := do
  let durations ← visitChildBoxes (fun (durations : TrackMap) kind child =>
    if kind ≠ fourCC "traf" then some durations
    else do
      let (trackId, units) ← parseTrafDurationUnits child timing
      if (timing.timescaleByTrack.get trackId).isNone then none
      else durations.add trackId units) payload []
  let longest ← longestTrackMillis timing durations none
  longest.filter (0 < ·)

def parseMoofDurationMillis (header : Mp4BoxHeader) (timing : Mp4TimingContext) :
    Except ReadError (Option Nat) := do
  match ← readBoxPayloadLimited file header maxTimingBoxPayloadLength with
  | none => return none
  | some payload => return parseMoofDurationMillisFromPayload payload timing

/-- The loop of `parse_timing_context`. -/
def timingFrom (file : Bytes) (initializationLength totalLength : Nat) :
    Nat → Nat → Mp4TimingContext → Except ReadError (Option Mp4TimingContext)
  | 0, _, _ => return none
  | fuel + 1, offset, context => do
      if offset < initializationLength then
        match ← readBoxHeader file offset totalLength with
        | none => return none
        | some header =>
          match header.stop with
          | none => return none
          | some stop =>
            if initializationLength < stop then return none
            else if header.kind = fourCC "moov" then
              match ← readBoxPayloadLimited file header maxTimingBoxPayloadLength with
              | none => return none
              | some payload =>
                match parseMoovTiming payload context with
                | none => return none
                | some context =>
                  timingFrom file initializationLength totalLength fuel stop context
            else timingFrom file initializationLength totalLength fuel stop context
      else return some context

variable (initializationLength totalLength : Nat)

def parseTimingContext :
    Except ReadError (Option Mp4TimingContext) := do
  let context ← timingFrom file initializationLength totalLength (initializationLength + 1) 0
    .default
  return context.filter fun context => !context.timescaleByTrack.isEmpty

def findFragmentEnd (file : Bytes) (totalLength : Nat) :
    Nat → Nat → Except ReadError (Option Nat)
  | 0, _ => return none
  | fuel + 1, offset => do
      if offset < totalLength then
        match ← readBoxHeader file offset totalLength with
        | none => return none
        | some header =>
          if header.kind = fourCC "mdat" then return header.stop
          else if header.kind = fourCC "moof" then return none
          else
            match header.stop with
            | none => return none
            | some nextOffset => findFragmentEnd file totalLength fuel nextOffset
      else return none

/-- The loop of `parse_mp4_fragment_ranges`. -/
def walkFragments (file : Bytes) (totalLength : Nat) (timing : Mp4TimingContext) :
    Nat → Nat → Option Nat → List Mp4SegmentRange →
      Except ReadError (Option (List Mp4SegmentRange))
  | 0, _, _, _ => return none
  | fuel + 1, offset, pendingSegmentStart, segments => do
      if offset < totalLength then
        match ← readBoxHeader file offset totalLength with
        | none => return none
        | some header =>
          if header.kind = fourCC "moof" then
            let segmentStart := pendingSegmentStart.getD header.offset
            match header.stop with
            | none => return none
            | some fragmentBodyStart =>
              match ← parseMoofDurationMillis file header timing with
              | none => return some []
              | some durationMillis =>
                match ← findFragmentEnd file totalLength (totalLength + 1)
                    fragmentBodyStart with
                | none => return none
                | some segmentEnd =>
                  if segmentEnd ≤ segmentStart then return none
                  else
                    walkFragments file totalLength timing fuel segmentEnd none
                      (segments ++
                        [⟨segmentStart, segmentEnd - segmentStart, durationMillis⟩])
          else if header.kind = fourCC "mdat" then return none
          else
            match header.stop with
            | none => return none
            | some nextOffset =>
              walkFragments file totalLength timing fuel nextOffset
                (some (pendingSegmentStart.getD header.offset)) segments
      else if pendingSegmentStart.isSome then return some []
      else if segments.length < 2 then return some []
      else return some segments

def parseMp4FragmentRanges :
    Except ReadError (Option (List Mp4SegmentRange)) := do
  match ← parseTimingContext file initializationLength totalLength with
  | none => return some []
  | some timing =>
    walkFragments file totalLength timing (totalLength + 1) initializationLength none []

def mp4FragmentRanges :
    Except ReadError (List Mp4SegmentRange) := do
  if totalLength ≤ initializationLength then return []
  else
    let ranges ← parseMp4FragmentRanges file initializationLength totalLength
    return ranges.getD []

/-- The loop of `mp4_initialization_length`. -/
def initializationFrom (bytes : Bytes) : Nat → Nat → Option Nat
  | 0, _ => none
  | fuel + 1, offset => do
      let headerEnd ← checkedAdd offset 8
      if headerEnd ≤ bytes.length then
        let (kind, _, stop) ← readSliceBox bytes offset
        if kind = fourCC "moov" then some stop
        else if kind = fourCC "moof" ∨ kind = fourCC "mdat" then none
        else initializationFrom bytes fuel stop
      else none

def mp4InitializationLength (bytes : Bytes) : Option Nat :=
  initializationFrom bytes (bytes.length + 1) 0

structure HlsMediaSegment where
  byteRangeOffset : Nat
  byteRangeLength : Nat
  durationMillis : Nat
  deriving DecidableEq

def hlsSegmentsFromMp4Ranges (ranges : List Mp4SegmentRange) : List HlsMediaSegment :=
  ranges.map fun range => ⟨range.offset, range.length, range.durationMillis⟩

def HlsMediaSegment.persisted (segment : HlsMediaSegment) : RangeCache.PersistedHlsMediaSegment :=
  ⟨segment.byteRangeOffset, segment.byteRangeLength, segment.durationMillis⟩

/-- The loop of `segments_are_valid_for_resource`. -/
def segmentsEndAt (totalLength : Nat) : Nat → List HlsMediaSegment → Option Nat
  | previousEnd, [] => some previousEnd
  | previousEnd, segment :: rest => do
      if segment.byteRangeLength = 0 ∨ segment.durationMillis = 0 ∨
          segment.byteRangeOffset ≠ previousEnd then
        none
      else
        let stop ← checkedAdd segment.byteRangeOffset segment.byteRangeLength
        if totalLength < stop then none else segmentsEndAt totalLength stop rest

def segmentsAreValidForResource (segments : List HlsMediaSegment)
    (initializationLength totalLength : Nat) : Bool :=
  segmentsEndAt totalLength initializationLength segments == some totalLength

/-- The loop of `validated_cached_segments`: the last end, and the segments so far. -/
def validateFrom (totalLength : Nat) :
    Nat → List HlsMediaSegment → List RangeCache.PersistedHlsMediaSegment →
      Option (Nat × List HlsMediaSegment)
  | previousEnd, validated, [] => some (previousEnd, validated)
  | previousEnd, validated, segment :: rest => do
      if segment.byteRangeLength = 0 ∨ segment.durationMillis = 0 ∨
          segment.byteRangeOffset ≠ previousEnd then
        none
      else
        let stop ← checkedAdd segment.byteRangeOffset segment.byteRangeLength
        if totalLength < stop then none
        else
          validateFrom totalLength stop
            (validated ++ [⟨segment.byteRangeOffset, segment.byteRangeLength,
              segment.durationMillis⟩]) rest

def validatedCachedSegments (segments : List RangeCache.PersistedHlsMediaSegment)
    (initializationLength totalLength : Nat) : List HlsMediaSegment :=
  if segments.isEmpty then []
  else
    match validateFrom totalLength initializationLength [] segments with
    | some (previousEnd, validated) => if previousEnd = totalLength then validated else []
    | none => []

end NetPlayer.Segments
