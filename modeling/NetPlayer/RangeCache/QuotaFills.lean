import NetPlayer.RangeCache.CoordinatorRuns

/-!
# Fills and the quota ledger

What the fills of `ensure_range_span`, `fill_full_get_compat` and
`discover_range_total` do to the ledger and to the sizes of the managed files.
Managed usage and the length of the resource are measured before the ledger is
locked, one file set at a time, so other fills can run in between. Only lengths
matter here: a file is a number of bytes behind an inode. What is measured is not
always what is on disk: the metadata of a cached or prewarmed resource stands for
all of its files.
-/

namespace NetPlayer.RangeCache

/-- The managed files of one resource. The full-GET temporary file and the final
file are names for inodes, which a rename does not change. -/
structure ResourceDisk where
  rangeData : Nat
  fullGetTemp : Option Nat
  final : Option Nat
  inodeLength : Nat → Nat
  nextInode : Nat
  cachedLength : Option Nat
  prewarmedLength : Option Nat

def ResourceDisk.empty : ResourceDisk where
  rangeData := 0
  fullGetTemp := none
  final := none
  inodeLength := fun _ => 0
  nextInode := 0
  cachedLength := none
  prewarmedLength := none

variable (disk : ResourceDisk)

/-- `managed_file_size` of a name that may not exist. -/
def ResourceDisk.fileLength (name : Option Nat) : Nat :=
  name.elim 0 disk.inodeLength

def ResourceDisk.rangeManagedSize : Nat :=
  disk.rangeData + disk.fileLength disk.fullGetTemp + disk.fileLength disk.final

/-- All the bytes on disk: `prewarmed_resource` checks that its file has this length. -/
def ResourceDisk.diskSize : Nat :=
  disk.rangeManagedSize + disk.prewarmedLength.getD 0

/-- `resource_managed_size`, which counts one kind of file only. -/
def ResourceDisk.managedSize : Nat :=
  match disk.cachedLength, disk.prewarmedLength with
  | some length, _ => length
  | none, some length => length
  | none, none => disk.rangeManagedSize

/-- A write through an open handle: the file reaches at least `length`. -/
def ResourceDisk.extendInode (inode length : Nat) : ResourceDisk :=
  { disk with
    inodeLength := Function.update disk.inodeLength inode (max (disk.inodeLength inode) length) }

/-- `set_len(0)`. -/
def ResourceDisk.truncateInode (inode : Nat) : ResourceDisk :=
  { disk with inodeLength := Function.update disk.inodeLength inode 0 }

/-- `create(true).truncate(true)` on the temporary file: the disk and the inode opened. -/
def ResourceDisk.openTemp : ResourceDisk × Nat :=
  match disk.fullGetTemp with
  | some inode => (disk.truncateInode inode, inode)
  | none =>
    ({ disk.truncateInode disk.nextInode with
        fullGetTemp := some disk.nextInode
        nextInode := disk.nextInode + 1 },
      disk.nextInode)

inductive FillKind
  | discovery
  | span (stop : Nat)
  | fullGet (expected : Nat)
  deriving DecidableEq

/-- What a fill asks the ledger for, given the length it measured. -/
def FillKind.target : FillKind → Nat → Nat
  | .discovery, _ => 1
  | .span stop, _ => stop
  | .fullGet expected, current => saturatingAdd current expected

inductive Measurement
  | usageOf (resource : RangeResourceKey)
  | currentLength
  deriving DecidableEq

/-- What a fill measures before it reserves, in the order of the source. -/
def FillKind.measurements (resources : List RangeResourceKey) : FillKind → List Measurement
  | .discovery => resources.map .usageOf
  | .span _ => resources.map .usageOf ++ [.currentLength]
  | .fullGet _ => .currentLength :: resources.map .usageOf

inductive FillPhase
  /-- Still to measure `todo`; what was measured so far. -/
  | measuring (todo : List Measurement) (usage current : Nat)
  /-- Holds its lease; a span may have measured the length it is about to note. -/
  | leased (lease : RangeQuotaLease) (current : Nat) (observed : Option Nat)
  | writing (lease : RangeQuotaLease) (current inode total : Nat)
  /-- A full GET whose temporary file has been renamed. -/
  | renamed (lease : RangeQuotaLease) (total : Nat)
  deriving DecidableEq

structure Fill where
  key : RangeResourceKey
  kind : FillKind
  phase : FillPhase
  deriving DecidableEq

def Fill.lease (fill : Fill) : Option RangeQuotaLease :=
  match fill.phase with
  | .measuring _ _ _ => none
  | .leased lease _ _ => some lease
  | .writing lease _ _ _ => some lease
  | .renamed lease _ => some lease

/-- The quota and the resources of the saved sessions, in the order usage is summed. -/
structure QuotaConfig where
  quotaBytes : Nat
  resources : List RangeResourceKey

structure World where
  state : RangeState
  disk : RangeResourceKey → ResourceDisk
  fills : Multiset Fill

def World.setDisk (world : World) (key : RangeResourceKey) (disk : ResourceDisk) : World :=
  { world with disk := Function.update world.disk key disk }

def World.diskUsage (cfg : QuotaConfig) (world : World) : Nat :=
  cfg.resources.toFinset.sum fun key => (world.disk key).diskSize

inductive FillAction
  | start (key : RangeResourceKey) (kind : FillKind)
  | measure (fill : Fill)
  | reserve (key : RangeResourceKey) (kind : FillKind) (usage current : Nat)
  | writeSpan (key : RangeResourceKey) (stop length : Nat)
  | observe (key : RangeResourceKey)
  | note (key : RangeResourceKey) (length : Nat)
  | openTemp (key : RangeResourceKey)
  | append (key : RangeResourceKey) (current inode total : Nat)
  | failCandidate (key : RangeResourceKey)
  | rename (key : RangeResourceKey)
  | recordMetadata (key : RangeResourceKey) (total : Nat)
  | removeRangeData (key : RangeResourceKey)
  | removeTemp (key : RangeResourceKey)
  | finish (fill : Fill)
  | coordinator

inductive FillStep (cfg : QuotaConfig) : World → FillAction → World → Prop
  | start {w : World} {key kind} (saved : key ∈ cfg.resources) :
      FillStep cfg w (.start key kind)
        { w with
          fills := ⟨key, kind, .measuring (kind.measurements cfg.resources) 0 0⟩ ::ₘ w.fills }
  | measureUsage {w : World} {key kind resource todo usage current rest}
      (live : w.fills =
        ⟨key, kind, .measuring (.usageOf resource :: todo) usage current⟩ ::ₘ rest) :
      FillStep cfg w (.measure ⟨key, kind, .measuring (.usageOf resource :: todo) usage current⟩)
        { w with
          fills :=
            ⟨key, kind,
              .measuring todo (saturatingAdd usage (w.disk resource).managedSize) current⟩ ::ₘ
              rest }
  | measureCurrent {w : World} {key kind todo usage current rest}
      (live : w.fills = ⟨key, kind, .measuring (.currentLength :: todo) usage current⟩ ::ₘ rest) :
      FillStep cfg w (.measure ⟨key, kind, .measuring (.currentLength :: todo) usage current⟩)
        { w with
          fills :=
            ⟨key, kind, .measuring todo usage (w.disk key).rangeManagedSize⟩ ::ₘ rest }
  | reserve {w : World} {key kind usage current rest state lease}
      (live : w.fills = ⟨key, kind, .measuring [] usage current⟩ ::ₘ rest)
      (granted : RangeCache.reserve cfg.quotaBytes w.state key (kind.target current) current usage =
        .ok (state, lease)) :
      FillStep cfg w (.reserve key kind usage current)
        { w with state := state, fills := ⟨key, kind, .leased lease current none⟩ ::ₘ rest }
  | writeSpan {w : World} {key stop lease current observed rest length}
      (live : w.fills = ⟨key, .span stop, .leased lease current observed⟩ ::ₘ rest)
      (within : length ≤ stop) :
      FillStep cfg w (.writeSpan key stop length)
        (w.setDisk key
          { w.disk key with rangeData := max (w.disk key).rangeData length })
  | observe {w : World} {key stop lease current observed rest}
      (live : w.fills = ⟨key, .span stop, .leased lease current observed⟩ ::ₘ rest) :
      FillStep cfg w (.observe key)
        { w with
          fills :=
            ⟨key, .span stop, .leased lease current (some (w.disk key).rangeManagedSize)⟩ ::ₘ
              rest }
  | noteSpan {w : World} {key stop lease current length rest}
      (live : w.fills = ⟨key, .span stop, .leased lease current (some length)⟩ ::ₘ rest) :
      FillStep cfg w (.note key length)
        { w with state := noteFileLength w.state key length }
  | openTemp {w : World} {key expected lease current observed rest}
      (live : w.fills = ⟨key, .fullGet expected, .leased lease current observed⟩ ::ₘ rest) :
      FillStep cfg w (.openTemp key)
        { w.setDisk key (w.disk key).openTemp.1 with
          fills :=
            ⟨key, .fullGet expected, .writing lease current (w.disk key).openTemp.2 0⟩ ::ₘ rest }
  | append {w : World} {key expected lease current inode total total' rest}
      (live : w.fills = ⟨key, .fullGet expected, .writing lease current inode total⟩ ::ₘ rest)
      (longer : total ≤ total') (within : total' ≤ expected) :
      FillStep cfg w (.append key current inode total')
        { w.setDisk key ((w.disk key).extendInode inode total') with
          fills :=
            ⟨key, .fullGet expected, .writing lease current inode total'⟩ ::ₘ rest }
  | noteFullGet {w : World} {key expected lease current inode total rest}
      (live : w.fills = ⟨key, .fullGet expected, .writing lease current inode total⟩ ::ₘ rest) :
      FillStep cfg w (.note key (saturatingAdd current total))
        { w with state := noteFileLength w.state key (saturatingAdd current total) }
  | failCandidate {w : World} {key expected lease current inode total rest}
      (live : w.fills = ⟨key, .fullGet expected, .writing lease current inode total⟩ ::ₘ rest) :
      FillStep cfg w (.failCandidate key)
        { w.setDisk key ((w.disk key).truncateInode inode) with
          state := noteFileLength w.state key 0
          fills := ⟨key, .fullGet expected, .leased lease current none⟩ ::ₘ rest }
  | rename {w : World} {key expected lease current inode temp rest}
      (live : w.fills = ⟨key, .fullGet expected, .writing lease current inode expected⟩ ::ₘ rest)
      (exists_temp : (w.disk key).fullGetTemp = some temp)
      (no_final : (w.disk key).final = none) :
      FillStep cfg w (.rename key)
        { w.setDisk key { w.disk key with fullGetTemp := none, final := some temp } with
          fills := ⟨key, .fullGet expected, .renamed lease expected⟩ ::ₘ rest }
  | recordMetadata {w : World} {key kind lease total rest}
      (live : w.fills = ⟨key, kind, .renamed lease total⟩ ::ₘ rest) :
      FillStep cfg w (.recordMetadata key total)
        (w.setDisk key { w.disk key with cachedLength := some total })
  | removeRangeData {w : World} {key kind lease total rest}
      (live : w.fills = ⟨key, kind, .renamed lease total⟩ ::ₘ rest) :
      FillStep cfg w (.removeRangeData key) (w.setDisk key { w.disk key with rangeData := 0 })
  | removeTemp {w : World} {key expected phase rest}
      (live : w.fills = ⟨key, .fullGet expected, phase⟩ ::ₘ rest) :
      FillStep cfg w (.removeTemp key) (w.setDisk key { w.disk key with fullGetTemp := none })
  | finish {w : World} {fill rest} (live : w.fills = fill ::ₘ rest) :
      FillStep cfg w (.finish fill)
        { w with
          state := fill.lease.elim w.state fun lease => lease.drop w.state
          fills := rest }
  | coordinator {w : World} {state : RangeState}
      (ledger : state.reservations = w.state.reservations)
      (counter : state.nextReservation = w.state.nextReservation) :
      FillStep cfg w .coordinator { w with state := state }

end NetPlayer.RangeCache
