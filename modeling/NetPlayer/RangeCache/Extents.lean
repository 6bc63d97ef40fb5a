import NetPlayer.Library.Spans
import NetPlayer.RangeCache.Basic

/-!
# Extents and chunks

The interval arithmetic of the range cache: which part of a request is missing,
the logical parent chunks of a resource, and the choice and the merging of a run
of extents that fills part of a parent.
-/

namespace NetPlayer.RangeCache

open Spans

structure PersistedRangeExtent where
  start : Nat
  stop : Nat
  sha256 : String
  deriving DecidableEq

instance : Span PersistedRangeExtent := ⟨PersistedRangeExtent.start, PersistedRangeExtent.stop⟩

instance : Span ByteRange := ⟨ByteRange.start, ByteRange.stop⟩

@[simp] theorem span_start_extent (extent : PersistedRangeExtent) :
    Span.start extent = extent.start := rfl

@[simp] theorem span_stop_extent (extent : PersistedRangeExtent) :
    Span.stop extent = extent.stop := rfl

@[simp] theorem span_start_range (range : ByteRange) : Span.start range = range.start := rfl

@[simp] theorem span_stop_range (range : ByteRange) : Span.stop range = range.stop := rfl

def offsets (range : ByteRange) : Finset Nat := Finset.Ico range.start range.stop

theorem mem_offsets {range : ByteRange} {offset : Nat} :
    offset ∈ offsets range ↔ range.start ≤ offset ∧ offset < range.stop :=
  Finset.mem_Ico

def PersistedRangeExtent.overlaps (extent : PersistedRangeExtent) (range : ByteRange) : Bool :=
  extent.start < range.stop && range.start < extent.stop

def PersistedRangeExtent.within (extent : PersistedRangeExtent) (range : ByteRange) : Bool :=
  range.start ≤ extent.start && extent.stop ≤ range.stop

def coveredFrom (stop : Nat) : Nat → List PersistedRangeExtent → Bool
  | _, [] => false
  | cursor, extent :: rest =>
    if extent.stop ≤ cursor then coveredFrom stop cursor rest
    else if cursor < extent.start then false
    else if stop ≤ max cursor extent.stop then true
    else coveredFrom stop (max cursor extent.stop) rest

variable (extents : List PersistedRangeExtent)

def rangeIsCovered (requested : ByteRange) : Bool :=
  if requested.stop ≤ requested.start then false
  else coveredFrom requested.stop requested.start extents

/-- The loop of `missing_ranges_within`. -/
def missingRangesFrom (stop : Nat) : Nat → List PersistedRangeExtent → List ByteRange
  | cursor, [] => if cursor < stop then [⟨cursor, stop⟩] else []
  | cursor, extent :: rest =>
    if extent.stop ≤ cursor then missingRangesFrom stop cursor rest
    else if stop ≤ extent.start then if cursor < stop then [⟨cursor, stop⟩] else []
    else
      let gap := if cursor < extent.start then [⟨cursor, min extent.start stop⟩] else []
      let next := max cursor (min extent.stop stop)
      if stop ≤ next then gap else gap ++ missingRangesFrom stop next rest

def missingRangesWithin (requested : ByteRange) : List ByteRange :=
  if requested.stop ≤ requested.start then []
  else missingRangesFrom requested.stop requested.start extents

def missingRangesAfter (total : Nat) : Nat → List PersistedRangeExtent → List ByteRange
  | cursor, [] => if cursor < total then [⟨cursor, total⟩] else []
  | cursor, extent :: rest =>
    (if cursor < extent.start then [⟨cursor, extent.start⟩] else []) ++
      missingRangesAfter total (max cursor extent.stop) rest

def missingRanges (total : Nat) : List ByteRange :=
  missingRangesAfter total 0 extents

def durableExtentBytes : Nat :=
  (extents.map fun extent => extent.stop - extent.start).foldl saturatingAdd 0

def rangeSizeIsResumable (total : Nat) : Bool := 0 < total && total ≤ rangeMaxSize

/-- `u64::div_ceil`. -/
def divCeil (a b : Nat) : Nat := (a + (b - 1)) / b

def logicalParentSize (remaining : Nat) : Nat :=
  let parentCount := max (rangeMaxChunks - 1) 1
  max rangeMinChunkBytes (min (divCeil remaining parentCount) rangeMaxChunkBytes)

def logicalRangeParentWithIndex (total offset : Nat) : Option (Nat × ByteRange) :=
  if total = 0 ∨ total ≤ offset then none
  else
    let firstEnd := min total rangeStartupChunkBytes
    if offset < firstEnd then some (0, ⟨0, firstEnd⟩)
    else
      let parentSize := logicalParentSize (total - firstEnd)
      let parentIndex := (offset - firstEnd) / parentSize
      let start := saturatingAdd firstEnd (min (parentIndex * parentSize) u64Max)
      some (parentIndex + 1, ⟨start, min (saturatingAdd start parentSize) total⟩)

def logicalRangeParent (total offset : Nat) : Option ByteRange :=
  (logicalRangeParentWithIndex total offset).map Prod.snd

/-- `partition_point` on extents, which are in order: the extents that stop after `cursor`. -/
def extentsAfter (cursor : Nat) (extents : List PersistedRangeExtent) : List PersistedRangeExtent :=
  extents.dropWhile fun extent => extent.stop ≤ cursor

/-- The loop of `parent_is_fully_covered`. -/
def parentCoveredFrom (stop : Nat) : Nat → List PersistedRangeExtent → Bool
  | _, [] => false
  | cursor, extent :: rest =>
    if cursor < extent.start then false
    else if stop ≤ max cursor extent.stop then true
    else parentCoveredFrom stop (max cursor extent.stop) rest

def parentIsFullyCovered (parent : ByteRange) : Bool :=
  parentCoveredFrom parent.stop parent.start (extentsAfter parent.start extents)

/-- The inner loop of the compaction searches: how far a run from `start` that has
reached `stop` goes on, and over how many further extents. -/
def extendRun (parent : ByteRange) (start : Nat) : Nat → List PersistedRangeExtent → Nat × Nat
  | stop, [] => (stop, 0)
  | stop, extent :: rest =>
    if extent.start = stop ∧ extent.stop ≤ parent.stop ∧
        extent.stop - start ≤ rangeMaxChunkBytes then
      let (reached, count) := extendRun parent start extent.stop rest
      (reached, count + 1)
    else (stop, 0)

def fragmentedRunFrom (parent : ByteRange) : List PersistedRangeExtent → Option ByteRange
  | [] => none
  | extent :: rest =>
    if parent.stop ≤ extent.start then none
    else if extent.start < parent.start ∨ parent.stop < extent.stop then
      fragmentedRunFrom parent rest
    else
      let (reached, count) := extendRun parent extent.start extent.stop rest
      if 0 < count then some ⟨extent.start, reached⟩ else fragmentedRunFrom parent rest

def fragmentedExtentRunInParent (parent : ByteRange) : Option ByteRange :=
  if parentIsFullyCovered extents parent then
    fragmentedRunFrom parent (extentsAfter parent.start extents)
  else none

/-- The loop over the parents that meet a requested range. Every parent ends after the
offset it was looked up for, so `fuel` is the distance left. -/
def fragmentedRunOver (extents : List PersistedRangeExtent) (total stop : Nat) :
    Nat → Nat → Option ByteRange
  | 0, _ => none
  | fuel + 1, offset =>
    if offset < stop then
      match logicalRangeParent total offset with
      | none => none
      | some parent =>
        match fragmentedExtentRunInParent extents parent with
        | some run => some run
        | none => fragmentedRunOver extents total stop fuel parent.stop
    else none

def firstNeighbourRun (extents : List PersistedRangeExtent) (total : Nat) :
    List PersistedRangeExtent → Option ByteRange
  | first :: second :: rest =>
    if first.stop ≠ second.start then firstNeighbourRun extents total (second :: rest)
    else
      match logicalRangeParent total first.start with
      | none => none
      | some parent =>
        if first.start < parent.start ∨ parent.stop < second.stop ∨
            parentIsFullyCovered extents parent = false then
          firstNeighbourRun extents total (second :: rest)
        else some ⟨first.start, (extendRun parent first.start second.stop rest).1⟩
  | _ => none

def firstCompleteParentCompaction (total : Nat) (intersecting : Option ByteRange) :
    Option ByteRange :=
  if rangeSizeIsResumable total = false then none
  else
    match intersecting with
    | some requested =>
      if requested.stop ≤ requested.start ∨ total ≤ requested.start then none
      else
        let stop := min requested.stop total
        fragmentedRunOver extents total stop (stop - requested.start) requested.start
    | none => firstNeighbourRun extents total extents

/-- The digest `coalesce_selected_range` leaves to be filled in. -/
def pendingSha256 : String := String.ofList (List.replicate 64 '0')

/-- The loop of `coalesce_selected_range`, with the number of extents it took out. -/
def coalesceFrom (selected : ByteRange) :
    Bool → List PersistedRangeExtent → List PersistedRangeExtent × Nat
  | _, [] => ([], 0)
  | inserted, extent :: rest =>
    if extent.within selected then
      let (compacted, removed) := coalesceFrom selected true rest
      if inserted then (compacted, removed + 1)
      else (⟨selected.start, selected.stop, pendingSha256⟩ :: compacted, removed + 1)
    else
      let (compacted, removed) := coalesceFrom selected inserted rest
      (extent :: compacted, removed)

def coalesceSelectedRange (selected : ByteRange) : List PersistedRangeExtent × Bool :=
  let (compacted, removed) := coalesceFrom selected false extents
  (compacted, 1 < removed)

def sortExtents : List PersistedRangeExtent :=
  extents.insertionSort fun a b => a.start ≤ b.start

end NetPlayer.RangeCache
