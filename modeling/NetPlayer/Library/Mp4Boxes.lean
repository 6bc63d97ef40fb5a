import Mathlib.Algebra.Ring.Nat
import Mathlib.Data.List.Induction

/-!
# Boxes of an MP4 file

A box is a big-endian length, four bytes that name its kind, and a payload. The
length counts the header. A length of one says that the real one follows the
kind, in eight bytes.
-/

namespace Mp4

open List

def beNat (bytes : List UInt8) : Nat := bytes.foldl (fun value byte => 256 * value + byte.toNat) 0

def beBytes : Nat → Nat → List UInt8
  | 0, _ => []
  | count + 1, value => beBytes count (value / 256) ++ [UInt8.ofNat (value % 256)]

theorem beNat_concat {bytes : List UInt8} {byte : UInt8} :
    beNat (bytes ++ [byte]) = 256 * beNat bytes + byte.toNat := by
  simp [beNat]

variable {count value : Nat}

@[simp] theorem length_beBytes : (beBytes count value).length = count := by
  induction count generalizing value with
  | zero => rfl
  | succ count ih => simp [beBytes, ih]

theorem beNat_beBytes (h : value < 256 ^ count) : beNat (beBytes count value) = value := by
  induction count generalizing value with
  | zero =>
    have hzero : value = 0 := by simpa using h
    rw [hzero]
    rfl
  | succ count ih =>
    have hquotient : value / 256 < 256 ^ count := by
      apply Nat.div_lt_of_lt_mul
      rw [Nat.pow_succ] at h
      omega
    have hbyte : (UInt8.ofNat (value % 256)).toNat = value % 256 := by
      simp
    rw [beBytes, beNat_concat, ih hquotient, hbyte]
    omega

theorem beBytes_beNat {bytes : List UInt8} (h : bytes.length = count) :
    beBytes count (beNat bytes) = bytes := by
  subst h
  induction bytes using List.reverseRecOn with
  | nil => rfl
  | append_singleton bytes byte ih =>
    have hlt := byte.toNat_lt
    have hquotient : (256 * beNat bytes + byte.toNat) / 256 = beNat bytes := by omega
    have hbyte : (256 * beNat bytes + byte.toNat) % 256 = byte.toNat := by omega
    rw [length_append, length_singleton, beBytes, beNat_concat, hquotient, hbyte, ih,
      UInt8.ofNat_toNat]

theorem beNat_lt {bytes : List UInt8} : beNat bytes < 256 ^ bytes.length := by
  induction bytes using List.reverseRecOn with
  | nil => decide
  | append_singleton bytes byte ih =>
    have hlt := byte.toNat_lt
    rw [length_append, length_singleton, beNat_concat, Nat.pow_succ]
    omega

structure Box where
  kind : List UInt8
  large : Bool
  payload : List UInt8
  kindLength : kind.length = 4
  fits : (if large then 16 else 8) + payload.length < if large then 2 ^ 64 else 2 ^ 32

namespace Box

def headerLength (box : Box) : Nat := if box.large then 16 else 8

def size (box : Box) : Nat := box.headerLength + box.payload.length

def header (box : Box) : List UInt8 :=
  if box.large then beBytes 4 1 ++ box.kind ++ beBytes 8 box.size
  else beBytes 4 box.size ++ box.kind

def encode (box : Box) : List UInt8 := box.header ++ box.payload

variable {box : Box}

theorem length_header : box.header.length = box.headerLength := by
  unfold header headerLength
  split <;> simp [box.kindLength]

theorem length_encode : box.encode.length = box.size := by
  simp [encode, size, length_header]

theorem headerLength_pos : 8 ≤ box.headerLength := by
  unfold headerLength
  split <;> omega

theorem size_pos : 8 ≤ box.size :=
  Nat.le_trans headerLength_pos (Nat.le_add_right _ _)

end Box

def encodeAll (boxes : List Box) : List UInt8 := boxes.flatMap Box.encode

@[simp] theorem encodeAll_nil : encodeAll [] = [] := rfl

@[simp] theorem encodeAll_cons {box : Box} {boxes : List Box} :
    encodeAll (box :: boxes) = box.encode ++ encodeAll boxes := rfl

@[simp] theorem encodeAll_append {front back : List Box} :
    encodeAll (front ++ back) = encodeAll front ++ encodeAll back :=
  flatMap_append

variable {bytes rest : List UInt8} {box : Box}

theorem take_four_encode : (box.encode ++ rest).take 4 =
    beBytes 4 (if box.large then 1 else box.size) := by
  unfold Box.encode Box.header
  split <;> simp

theorem kind_encode : ((box.encode ++ rest).drop 4).take 4 = box.kind := by
  unfold Box.encode Box.header
  split <;> simp [box.kindLength]

theorem large_size_encode (h : box.large = true) :
    ((box.encode ++ rest).drop 8).take 8 = beBytes 8 box.size := by
  unfold Box.encode Box.header
  simp [h, take_append, drop_append, box.kindLength]

theorem beNat_small (h : box.large = false) : beNat ((box.encode ++ rest).take 4) = box.size := by
  have hfit := box.fits
  simp only [h, Bool.false_eq_true, if_false] at hfit
  rw [take_four_encode, h, if_neg (by decide)]
  apply beNat_beBytes
  unfold Box.size Box.headerLength
  simp only [h, Bool.false_eq_true, if_false]
  omega

theorem beNat_large_marker (h : box.large = true) : beNat ((box.encode ++ rest).take 4) = 1 := by
  rw [take_four_encode, h, if_pos rfl]
  rfl

theorem beNat_large (h : box.large = true) :
    beNat (((box.encode ++ rest).drop 8).take 8) = box.size := by
  have hfit := box.fits
  simp only [h, if_true] at hfit
  rw [large_size_encode h]
  apply beNat_beBytes
  unfold Box.size Box.headerLength
  simp only [h, if_true]
  omega

variable {size : Nat}

theorem take_parts {middle : List UInt8} {headerLength : Nat}
    (hmid : bytes.take 8 ++ middle = bytes.take headerLength) (hsize : headerLength ≤ size) :
    bytes.take 4 ++ (bytes.drop 4).take 4 ++ middle ++ (bytes.take size).drop headerLength =
      bytes.take size := by
  have hfront : bytes.take 4 ++ (bytes.drop 4).take 4 = bytes.take 8 := take_add.symm
  have hheader : bytes.take headerLength = (bytes.take size).take headerLength := by
    rw [take_take, Nat.min_eq_left hsize]
  rw [hfront, hmid, hheader]
  exact take_append_drop headerLength (bytes.take size)

theorem exists_small_box (hsize : beNat (bytes.take 4) = size) (hheader : 8 ≤ size)
    (hfit : size ≤ bytes.length) :
    ∃ box : Box, box.large = false ∧ box.kind = (bytes.drop 4).take 4 ∧ box.size = size ∧
      bytes = box.encode ++ bytes.drop size := by
  have hfour : (bytes.take 4).length = 4 := by
    rw [length_take]
    omega
  have hlt : beNat (bytes.take 4) < 256 ^ (bytes.take 4).length := beNat_lt
  rw [hfour, hsize] at hlt
  have hkind : ((bytes.drop 4).take 4).length = 4 := by
    rw [length_take, length_drop]
    omega
  have hpay : ((bytes.take size).drop 8).length = size - 8 := by
    rw [length_drop, length_take]
    omega
  have hsum : 8 + (size - 8) = size := by omega
  refine ⟨⟨(bytes.drop 4).take 4, false, (bytes.take size).drop 8, hkind, ?_⟩, rfl, rfl, ?_, ?_⟩
  · rw [hpay]
    simp only [Bool.false_eq_true, if_false]
    omega
  · simp only [Box.size, Box.headerLength, hpay, Bool.false_eq_true, if_false, hsum]
  · have hlen : beBytes 4 size = bytes.take 4 := by
      rw [← hsize]
      exact beBytes_beNat hfour
    have hparts : bytes.take 4 ++ (bytes.drop 4).take 4 ++ [] ++ (bytes.take size).drop 8 =
        bytes.take size := take_parts (by simp) hheader
    simp only [Box.encode, Box.header, Box.size, Box.headerLength, hpay, Bool.false_eq_true,
      if_false, hsum, hlen]
    rw [append_nil] at hparts
    rw [hparts, take_append_drop]

theorem exists_large_box (hmarker : beNat (bytes.take 4) = 1)
    (hsize : beNat ((bytes.drop 8).take 8) = size) (hheader : 16 ≤ size)
    (hfit : size ≤ bytes.length) :
    ∃ box : Box, box.large = true ∧ box.kind = (bytes.drop 4).take 4 ∧ box.size = size ∧
      bytes = box.encode ++ bytes.drop size := by
  have hfour : (bytes.take 4).length = 4 := by
    rw [length_take]
    omega
  have height : ((bytes.drop 8).take 8).length = 8 := by
    rw [length_take, length_drop]
    omega
  have hlt : beNat ((bytes.drop 8).take 8) < 256 ^ ((bytes.drop 8).take 8).length := beNat_lt
  rw [height, hsize] at hlt
  have hkind : ((bytes.drop 4).take 4).length = 4 := by
    rw [length_take, length_drop]
    omega
  have hpay : ((bytes.take size).drop 16).length = size - 16 := by
    rw [length_drop, length_take]
    omega
  have hsum : 16 + (size - 16) = size := by omega
  refine ⟨⟨(bytes.drop 4).take 4, true, (bytes.take size).drop 16, hkind, ?_⟩, rfl, rfl, ?_, ?_⟩
  · rw [hpay]
    simp only [if_true]
    omega
  · simp only [Box.size, Box.headerLength, hpay, if_true, hsum]
  · have hone : beBytes 4 1 = bytes.take 4 := by
      rw [← hmarker]
      exact beBytes_beNat hfour
    have hlen : beBytes 8 size = (bytes.drop 8).take 8 := by
      rw [← hsize]
      exact beBytes_beNat height
    have hmid : bytes.take 8 ++ (bytes.drop 8).take 8 = bytes.take 16 := take_add.symm
    simp only [Box.encode, Box.header, Box.size, Box.headerLength, hpay, if_true, hsum, hone,
      hlen]
    rw [take_parts hmid hheader, take_append_drop]

end Mp4
