import Mathlib.Data.Nat.Log
import Mathlib.Algebra.Ring.Nat
import Mathlib.Algebra.BigOperators.Group.List.Basic

/-!
# Encoded lengths of protocol buffers

The number of bytes that the proto3 encoding of a value takes, for fields whose number is
below sixteen, so that a tag is one byte. A scalar field with its default value is left
out of the encoding.
-/

namespace NetPlayer.ProtoLength

/-- Seven bits of the value in each byte, and at least one byte. -/
def varint (value : Nat) : Nat :=
  Nat.log2 value / 7 + 1

def delimited (payload : Nat) : Nat :=
  1 + varint payload + payload

def stringField (value : String) : Nat :=
  if value = "" then 0 else delimited value.utf8ByteSize

def messageField {Message : Type} (length : Message → Nat) : Option Message → Nat
  | none => 0
  | some message => delimited (length message)

def repeatedField {Message : Type} (length : Message → Nat) (messages : List Message) : Nat :=
  (messages.map fun message => delimited (length message)).sum

def uint64Field (value : UInt64) : Nat :=
  if value = 0 then 0 else 1 + varint value.toNat

def uint32Field (value : UInt32) : Nat :=
  if value = 0 then 0 else 1 + varint value.toNat

def int64Field (value : Int64) : Nat :=
  if value = 0 then 0 else 1 + varint value.toUInt64.toNat

/-- A 32-bit value is widened to 64 bits with its sign. -/
def int32Field (value : Int32) : Nat :=
  if value = 0 then 0 else 1 + varint value.toInt64.toUInt64.toNat

def boolField (value : Bool) : Nat :=
  if value then 2 else 0

theorem varint_mono {a b : Nat} (h : a ≤ b) : varint a ≤ varint b := by
  unfold varint
  have hlog : Nat.log2 a ≤ Nat.log2 b := by
    rw [Nat.log2_eq_log_two, Nat.log2_eq_log_two]
    exact Nat.log_mono_right h
  omega

theorem varint_succ_le (value : Nat) : varint (value + 1) ≤ varint value + 1 := by
  unfold varint
  have hlog : Nat.log2 (value + 1) ≤ Nat.log2 value + 1 := by
    by_cases hzero : value = 0
    · subst hzero
      decide
    have hdouble : value + 1 ≤ 2 * value := by omega
    calc Nat.log2 (value + 1) ≤ Nat.log2 (2 * value) := by
          rw [Nat.log2_eq_log_two, Nat.log2_eq_log_two]
          exact Nat.log_mono_right hdouble
      _ = Nat.log2 value + 1 := Nat.log2_two_mul hzero
  omega

theorem varint_add_le (value extra : Nat) : varint (value + extra) ≤ varint value + extra := by
  induction extra with
  | zero => exact le_rfl
  | succ extra ih =>
    have hst := varint_succ_le (value + extra)
    rw [← Nat.add_assoc]
    omega

theorem delimited_mono {a b : Nat} (h : a ≤ b) : delimited a ≤ delimited b := by
  have := varint_mono h
  unfold delimited
  omega

theorem delimited_add_le (payload extra : Nat) :
    delimited (payload + extra) ≤ delimited payload + 2 * extra := by
  have := varint_add_le payload extra
  unfold delimited
  omega

end NetPlayer.ProtoLength
