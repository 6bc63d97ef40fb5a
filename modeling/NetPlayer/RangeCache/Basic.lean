import Mathlib.Algebra.Ring.Nat

/-!
# Shared vocabulary of the range cache

Byte ranges, cache keys, the limits of the range cache and the errors it
reports. Offsets and lengths are naturals; where the source relies on the
saturation or wrap-around of `u64`, the model says so with the functions below.
-/

namespace NetPlayer

abbrev Bytes := List UInt8

/-- `u64::MAX`. -/
def u64Max : Nat := 2 ^ 64 - 1

/-- `u64::saturating_add`. -/
def saturatingAdd (a b : Nat) : Nat := min (a + b) u64Max

/-- `u64::wrapping_add`. -/
def wrappingAdd (a b : Nat) : Nat := (a + b) % 2 ^ 64

theorem saturatingAdd_le (a b : Nat) : saturatingAdd a b ≤ a + b := Nat.min_le_left _ _

/-- `Range<u64>`: the bytes from `start` up to, not including, `stop`. -/
structure ByteRange where
  start : Nat
  stop : Nat
  deriving DecidableEq

namespace RangeCache

def rangeManifestSchemaVersion : Nat := 1
def rangeForegroundChunkBytes : Nat := 64 * 1024
def rangeStartupChunkBytes : Nat := 512 * 1024
def rangeMinChunkBytes : Nat := 512 * 1024
def rangeMaxChunkBytes : Nat := 8 * 1024 * 1024
def rangeMaxChunks : Nat := 8192
def rangeMaxSize : Nat :=
  rangeStartupChunkBytes + rangeMaxChunkBytes * (rangeMaxChunks - 1)
def rangeMaxManifestBytes : Nat := 2 * 1024 * 1024

inductive HlsRangePriority
  | foreground
  | background
  deriving DecidableEq

inductive SessionPublicationMode
  | fresh
  | refresh
  | ownedCompletion
  | ownedRestoration
  deriving DecidableEq

structure RangeResourceKey where
  sessionId : String
  resourceId : String
  representation : String
  deriving DecidableEq

structure RangeChunkKey where
  resource : RangeResourceKey
  totalLength : Nat
  range : ByteRange
  deriving DecidableEq

inductive FileCall
  | symlinkMetadata
  | openFile
  | createNew
  | metadata
  | read
  | write
  | setLength
  | syncAll
  | rename
  | removeFile
  | createDirectory
  | syncDirectory
  | readDirectory
  deriving DecidableEq

/-- `io::Error`: a call the operating system refused, or an error the cache
builds itself. -/
inductive IoError
  | os (call : FileCall)
  | notFound (message : String)
  | unexpectedEof (message : String)
  deriving DecidableEq

/-- `HlsRangeError`. The stage of an identity error is what `identity_error_at`
writes to the log; the empty stage is the bare variant. -/
inductive HlsRangeError
  | io (error : IoError)
  | network
  | upstreamStatus (status : Nat)
  | rangeUnsupported
  | invalidResponse (reason : String)
  | identityChanged (stage : String)
  | quotaExceeded
  | cancelled
  | preempted
  | sessionRemoving
  deriving DecidableEq

def identityErrorAt (stage : String) : HlsRangeError := .identityChanged stage

end RangeCache

end NetPlayer
