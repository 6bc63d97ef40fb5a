import NetPlayer.Segments.Fragments
import Mathlib.Data.Rat.Floor
import Mathlib.Algebra.Order.Floor.Semiring

/-!
# The timing of a `moov` and of a `moof`, and their bytes

The boxes that the duration of a fragment depends on, as values, with the layout that their flags
give them. Boxes of other kinds may stand anywhere between them.
-/

namespace NetPlayer.Segments

open Mp4

structure ChildBox where
  large : Bool
  kind : Bytes
  payload : Bytes
  kindLength : kind.length = 4

namespace ChildBox

variable (child : ChildBox)

def headerLength : Nat := if child.large then 16 else 8

def size : Nat := child.headerLength + child.payload.length

def header : Bytes :=
  if child.large then beBytes 4 1 ++ child.kind ++ beBytes 8 child.size
  else beBytes 4 child.size ++ child.kind

def encode : Bytes := child.header ++ child.payload

end ChildBox

def encodeChildren (children : List ChildBox) : Bytes := children.flatMap ChildBox.encode

structure Foreign (kinds : List String) extends ChildBox where
  foreign : ∀ name ∈ kinds, kind ≠ fourCC name

inductive Child (Item : Type) (kinds : List String)
  | item (value : Item)
  | other (box : Foreign kinds)

namespace Child

variable {Item : Type} {kinds : List String}

def item? : Child Item kinds → Option Item
  | .item value => some value
  | .other _ => none

def box (itemBox : Item → ChildBox) : Child Item kinds → ChildBox
  | .item value => itemBox value
  | .other foreign => foreign.toChildBox

end Child

def items {Item : Type} {kinds : List String} (children : List (Child Item kinds)) : List Item :=
  children.filterMap Child.item?

def foreignBoxes {kinds : List String} (boxes : List (Foreign kinds)) : List ChildBox :=
  boxes.map Foreign.toChildBox

def word (value : UInt32) : Bytes := beBytes 4 value.toNat

/-- A `tkhd` or an `mdhd`: a version, flags, two times of the version's width, the number that is
read, and what follows it. -/
structure VersionedBox where
  large : Bool
  isVersionOne : Bool
  flagsAndTimes : Bytes
  value : UInt32
  rest : Bytes
  timesLength : flagsAndTimes.length = if isVersionOne then 19 else 11

def VersionedBox.payload (box : VersionedBox) : Bytes :=
  (if box.isVersionOne then 1 else 0) :: box.flagsAndTimes ++ word box.value ++ box.rest

def VersionedBox.tkhd (box : VersionedBox) : ChildBox :=
  ⟨box.large, fourCC "tkhd", box.payload, rfl⟩

def VersionedBox.mdhd (box : VersionedBox) : ChildBox :=
  ⟨box.large, fourCC "mdhd", box.payload, rfl⟩

structure Mdia where
  large : Bool
  before : List (Foreign ["mdhd"])
  mdhd : VersionedBox
  after : List (Foreign ["mdhd"])

def Mdia.children (mdia : Mdia) : List ChildBox :=
  foreignBoxes mdia.before ++ [mdia.mdhd.mdhd] ++ foreignBoxes mdia.after

def Mdia.box (mdia : Mdia) : ChildBox :=
  ⟨mdia.large, fourCC "mdia", encodeChildren mdia.children, rfl⟩

structure Trak where
  large : Bool
  before : List (Foreign ["tkhd", "mdia"])
  tkhd : VersionedBox
  between : List (Foreign ["tkhd", "mdia"])
  mdia : Mdia
  after : List (Foreign ["tkhd", "mdia"])
  isMdiaFirst : Bool
  trackIdNonzero : tkhd.value ≠ 0
  timescalePositive : 0 < mdia.mdhd.value

namespace Trak

variable (trak : Trak)

def trackId : Nat := trak.tkhd.value.toNat

def timescale : Nat := trak.mdia.mdhd.value.toNat

def children : List ChildBox :=
  foreignBoxes trak.before ++
    [if trak.isMdiaFirst then trak.mdia.box else trak.tkhd.tkhd] ++
    foreignBoxes trak.between ++
    [if trak.isMdiaFirst then trak.tkhd.tkhd else trak.mdia.box] ++ foreignBoxes trak.after

def box : ChildBox :=
  ⟨trak.large, fourCC "trak", encodeChildren trak.children, rfl⟩

end Trak

structure Trex where
  large : Bool
  versionAndFlags : UInt32
  track : UInt32
  defaultSampleDescriptionIndex : UInt32
  sampleDuration : UInt32
  rest : Bytes

namespace Trex

variable (trex : Trex)

def trackId : Nat := trex.track.toNat

def defaultSampleDuration : Nat := trex.sampleDuration.toNat

def payload : Bytes :=
  word trex.versionAndFlags ++ word trex.track ++ word trex.defaultSampleDescriptionIndex ++
    word trex.sampleDuration ++ trex.rest

def box : ChildBox := ⟨trex.large, fourCC "trex", trex.payload, rfl⟩

end Trex

structure Mvex where
  large : Bool
  children : List (Child Trex ["trex"])

def Mvex.trexes (mvex : Mvex) : List Trex := items mvex.children

def Mvex.box (mvex : Mvex) : ChildBox :=
  ⟨mvex.large, fourCC "mvex", encodeChildren (mvex.children.map (Child.box Trex.box)), rfl⟩

inductive MoovItem
  | trak (track : Trak)
  | mvex (defaults : Mvex)

namespace MoovItem

def box : MoovItem → ChildBox
  | .trak track => track.box
  | .mvex defaults => defaults.box

def traks : MoovItem → List Trak
  | .trak track => [track]
  | .mvex _ => []

def trexes : MoovItem → List Trex
  | .trak _ => []
  | .mvex defaults => defaults.trexes

end MoovItem

structure Moov where
  large : Bool
  children : List (Child MoovItem ["trak", "mvex"])
  distinctTracks : (((items children).flatMap MoovItem.traks).map Trak.trackId).Nodup
  distinctDefaults : (((items children).flatMap MoovItem.trexes).map Trex.trackId).Nodup

namespace Moov

def traks (moov : Moov) : List Trak := (items moov.children).flatMap MoovItem.traks

def trexes (moov : Moov) : List Trex := (items moov.children).flatMap MoovItem.trexes

def box (moov : Moov) : ChildBox :=
  ⟨moov.large, fourCC "moov", encodeChildren (moov.children.map (Child.box MoovItem.box)), rfl⟩

/-- The default of the track's `trex`. A default of zero is none. -/
def defaultSampleDuration (moov : Moov) (trackId : Nat) : Option Nat :=
  (moov.trexes.find? fun trex => trex.trackId = trackId ∧ 0 < trex.defaultSampleDuration).map
    Trex.defaultSampleDuration

end Moov

/-- A `tfhd`. The flags say which of the fields after the track id are there. -/
structure TfhdBox where
  large : Bool
  version : UInt8
  flags : Nat
  track : UInt32
  baseDataOffset : UInt64
  sampleDescriptionIndex : UInt32
  sampleDuration : UInt32
  sampleSize : UInt32
  sampleFlags : UInt32
  flagsFit : flags < 2 ^ 24

def whenFlag (flags flag : Nat) (bytes : Bytes) : Bytes := if hasFlag flags flag then bytes else []

namespace TfhdBox

variable (tfhd : TfhdBox)

def trackId : Nat := tfhd.track.toNat

def defaultSampleDuration : Option Nat :=
  if hasFlag tfhd.flags 0x000008 && 0 < tfhd.sampleDuration.toNat then
    some tfhd.sampleDuration.toNat
  else none

def payload : Bytes :=
  tfhd.version :: beBytes 3 tfhd.flags ++ word tfhd.track ++
    (whenFlag tfhd.flags 0x000001 (beBytes 8 tfhd.baseDataOffset.toNat) ++
    (whenFlag tfhd.flags 0x000002 (word tfhd.sampleDescriptionIndex) ++
    (whenFlag tfhd.flags 0x000008 (word tfhd.sampleDuration) ++
    (whenFlag tfhd.flags 0x000010 (word tfhd.sampleSize) ++
    whenFlag tfhd.flags 0x000020 (word tfhd.sampleFlags)))))

def box : ChildBox := ⟨tfhd.large, fourCC "tfhd", tfhd.payload, rfl⟩

end TfhdBox

structure Sample where
  duration : UInt32
  size : UInt32
  flags : UInt32
  compositionTimeOffset : UInt32

def Sample.encode (trunFlags : Nat) (sample : Sample) : Bytes :=
  whenFlag trunFlags 0x000100 (word sample.duration) ++
    (whenFlag trunFlags 0x000200 (word sample.size) ++
    (whenFlag trunFlags 0x000400 (word sample.flags) ++
    whenFlag trunFlags 0x000800 (word sample.compositionTimeOffset)))

/-- A `trun`. The flags say which fields it has, and which fields each of its samples has. -/
structure TrunBox where
  large : Bool
  version : UInt8
  flags : Nat
  dataOffset : UInt32
  firstSampleFlags : UInt32
  samples : List Sample
  flagsFit : flags < 2 ^ 24
  countFits : samples.length < 2 ^ 32

namespace TrunBox

variable (trun : TrunBox)

def front : Bytes :=
  trun.version :: beBytes 3 trun.flags ++ beBytes 4 trun.samples.length ++
    (whenFlag trun.flags 0x000001 (word trun.dataOffset) ++
      whenFlag trun.flags 0x000004 (word trun.firstSampleFlags))

def payload : Bytes :=
  trun.front ++ trun.samples.flatMap (Sample.encode trun.flags)

def box : ChildBox := ⟨trun.large, fourCC "trun", trun.payload, rfl⟩

def sampleDurations (default : Option Nat) : List (Option Nat) :=
  trun.samples.map fun sample =>
    if hasFlag trun.flags 0x000100 then some sample.duration.toNat else default

def units (default : Option Nat) : Nat :=
  ((trun.sampleDurations default).map fun duration => duration.getD 0).sum

end TrunBox

structure Traf where
  large : Bool
  before : List (Foreign ["tfhd", "trun"])
  tfhd : TfhdBox
  children : List (Child TrunBox ["tfhd", "trun"])

namespace Traf

def trackId (traf : Traf) : Nat := traf.tfhd.trackId

variable (traf : Traf)

def truns : List TrunBox := items traf.children

def boxes : List ChildBox :=
  foreignBoxes traf.before ++ [traf.tfhd.box] ++ traf.children.map (Child.box TrunBox.box)

def box : ChildBox := ⟨traf.large, fourCC "traf", encodeChildren traf.boxes, rfl⟩

def default (moov : Moov) : Option Nat :=
  traf.tfhd.defaultSampleDuration.or (moov.defaultSampleDuration traf.trackId)

def units (traf : Traf) (moov : Moov) : Nat :=
  (traf.truns.map fun trun => trun.units (traf.default moov)).sum

end Traf

structure Moof where
  large : Bool
  children : List (Child Traf ["traf"])

namespace Moof

def trafs (moof : Moof) : List Traf := items moof.children

def box (moof : Moof) : ChildBox :=
  ⟨moof.large, fourCC "moof", encodeChildren (moof.children.map (Child.box Traf.box)), rfl⟩

end Moof

def trackUnits (moov : Moov) (trafs : List Traf) (trackId : Nat) : Nat :=
  ((trafs.filter fun traf => traf.trackId = trackId).map fun traf => traf.units moov).sum

def trackSeconds (moov : Moov) (trafs : List Traf) (trak : Trak) : ℚ :=
  trackUnits moov trafs trak.trackId / trak.timescale

def longestSeconds (moov : Moov) (moof : Moof) : ℚ :=
  (moov.traks.map (trackSeconds moov moof.trafs)).foldl max 0

end NetPlayer.Segments
