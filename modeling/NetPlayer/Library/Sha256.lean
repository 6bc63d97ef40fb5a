import Mathlib.Data.List.Basic

/-!
# SHA-256

The hash function, with words as naturals below `2 ^ 32`, and its digest in
lower-case hexadecimal. It is written with the functions of `Nat` rather than
with operators, so that the kernel evaluates the digests of small inputs fast.
-/

namespace Sha256

open List

open Nat (add sub mod xor land lor shiftLeft shiftRight)

/-- Addition of words. -/
def plus (x y : Nat) : Nat := mod (add x y) 0x100000000

def rotateRight (word amount : Nat) : Nat :=
  lor (shiftRight word amount) (mod (shiftLeft word (sub 32 amount)) 0x100000000)

/-- The cube roots of the first sixty-four primes, the first 32 bits of their fractions. -/
def roundConstants : List Nat := [
  0x428a2f98, 0x71374491, 0xb5c0fbcf, 0xe9b5dba5, 0x3956c25b, 0x59f111f1, 0x923f82a4, 0xab1c5ed5,
  0xd807aa98, 0x12835b01, 0x243185be, 0x550c7dc3, 0x72be5d74, 0x80deb1fe, 0x9bdc06a7, 0xc19bf174,
  0xe49b69c1, 0xefbe4786, 0x0fc19dc6, 0x240ca1cc, 0x2de92c6f, 0x4a7484aa, 0x5cb0a9dc, 0x76f988da,
  0x983e5152, 0xa831c66d, 0xb00327c8, 0xbf597fc7, 0xc6e00bf3, 0xd5a79147, 0x06ca6351, 0x14292967,
  0x27b70a85, 0x2e1b2138, 0x4d2c6dfc, 0x53380d13, 0x650a7354, 0x766a0abb, 0x81c2c92e, 0x92722c85,
  0xa2bfe8a1, 0xa81a664b, 0xc24b8b70, 0xc76c51a3, 0xd192e819, 0xd6990624, 0xf40e3585, 0x106aa070,
  0x19a4c116, 0x1e376c08, 0x2748774c, 0x34b0bcb5, 0x391c0cb3, 0x4ed8aa4a, 0x5b9cca4f, 0x682e6ff3,
  0x748f82ee, 0x78a5636f, 0x84c87814, 0x8cc70208, 0x90befffa, 0xa4506ceb, 0xbef9a3f7, 0xc67178f2]

def smallSigma0 (x : Nat) : Nat :=
  xor (xor (rotateRight x 7) (rotateRight x 18)) (shiftRight x 3)

def smallSigma1 (x : Nat) : Nat :=
  xor (xor (rotateRight x 17) (rotateRight x 19)) (shiftRight x 10)

def bigSigma0 (x : Nat) : Nat :=
  xor (xor (rotateRight x 2) (rotateRight x 13)) (rotateRight x 22)

def bigSigma1 (x : Nat) : Nat :=
  xor (xor (rotateRight x 6) (rotateRight x 11)) (rotateRight x 25)

def choose (x y z : Nat) : Nat := xor (land x y) (land (sub 0xffffffff x) z)

def majority (x y z : Nat) : Nat := xor (xor (land x y) (land x z)) (land y z)

def wordAt : List Nat → Nat → Nat
  | [], _ => 0
  | word :: _, 0 => word
  | _ :: rest, index + 1 => wordAt rest index

def extend : Nat → List Nat → List Nat
  | 0, recent => recent
  | rounds + 1, recent =>
    extend rounds (plus (plus (smallSigma1 (wordAt recent 1)) (wordAt recent 6))
      (plus (smallSigma0 (wordAt recent 14)) (wordAt recent 15)) :: recent)

def schedule (block : List Nat) : List Nat := (extend 48 block.reverse).reverse

/-- The rounds on the working variables, and the sum with the values before them. -/
def rounds (before : List Nat) :
    List Nat → List Nat → Nat → Nat → Nat → Nat → Nat → Nat → Nat → Nat → List Nat
  | constant :: constants, word :: words, a, b, c, d, e, f, g, h =>
    rounds before constants words
      (plus (plus (plus (add h (bigSigma1 e)) (choose e f g)) (add constant word))
        (add (bigSigma0 a) (majority a b c))) a b c
      (plus d (plus (plus (add h (bigSigma1 e)) (choose e f g)) (add constant word))) e f g
  | _, _, a, b, c, d, e, f, g, h => List.zipWith plus before [a, b, c, d, e, f, g, h]

def compress : List Nat → List Nat → List Nat
  | [a, b, c, d, e, f, g, h], block =>
    rounds [a, b, c, d, e, f, g, h] roundConstants (schedule block) a b c d e f g h
  | other, _ => other

def initial : List Nat :=
  [0x6a09e667, 0xbb67ae85, 0x3c6ef372, 0xa54ff53a, 0x510e527f, 0x9b05688c, 0x1f83d9ab, 0x5be0cd19]

variable (message : List UInt8)

/-- A one bit, zeros up to the last eight bytes of a block, and the length in bits. -/
def pad : List UInt8 :=
  message ++ (0x80 : UInt8) :: List.replicate ((119 - message.length % 64) % 64) 0 ++
    (List.range 8).map fun i => UInt8.ofNat ((message.length * 8) >>> (8 * (7 - i)))

def words : List UInt8 → List Nat
  | b3 :: b2 :: b1 :: b0 :: rest =>
    (b3.toNat * 2 ^ 24 + b2.toNat * 2 ^ 16 + b1.toNat * 2 ^ 8 + b0.toNat) :: words rest
  | _ => []

def blocks : Nat → List Nat → List (List Nat)
  | 0, _ => []
  | count + 1, message => message.take 16 :: blocks count (message.drop 16)

def digest : List Nat :=
  let padded := words (pad message)
  (blocks (padded.length / 16) padded).foldl compress initial

def hexDigit (value : Nat) : Char :=
  if value < 10 then Char.ofNat (48 + value) else Char.ofNat (87 + value)

def hexWord (word : Nat) : List Char :=
  (List.range 8).map fun i => hexDigit ((word >>> (4 * (7 - i))) % 16)

def hexDigest : String :=
  String.ofList ((digest message).flatMap hexWord)

def IsHexDigit (c : Char) : Prop := '0' ≤ c ∧ c ≤ '9' ∨ 'a' ≤ c ∧ c ≤ 'f'

instance (c : Char) : Decidable (IsHexDigit c) :=
  inferInstanceAs (Decidable (_ ∨ _))

theorem isHexDigit_hexDigit : ∀ value < 16, IsHexDigit (hexDigit value) := by
  decide

theorem length_rounds {before constants words : List Nat} {a b c d e f g h : Nat}
    (hb : before.length = 8) : (rounds before constants words a b c d e f g h).length = 8 := by
  induction constants generalizing words a b c d e f g h with
  | nil => simp [rounds, hb]
  | cons constant constants ih =>
    cases words with
    | nil => simp [rounds, hb]
    | cons word words => exact ih

theorem length_compress {state block : List Nat} (h : state.length = 8) :
    (compress state block).length = 8 := by
  unfold compress
  split
  · exact length_rounds rfl
  · exact h

theorem length_digest : (digest message).length = 8 := by
  unfold digest
  dsimp only
  generalize blocks _ _ = parts
  have hfold : ∀ state : List Nat, state.length = 8 →
      (parts.foldl compress state).length = 8 := by
    induction parts with
    | nil => exact fun _ h => h
    | cons block parts ih => exact fun state h => ih _ (length_compress h)
  exact hfold initial rfl

theorem length_hexDigits : ((digest message).flatMap hexWord).length = 64 := by
  have hword : ∀ word, (hexWord word).length = 8 := fun word => by simp [hexWord]
  have hdigits : ∀ state : List Nat, (state.flatMap hexWord).length = state.length * 8 := by
    intro state
    induction state with
    | nil => rfl
    | cons word rest ih =>
      rw [flatMap_cons, length_append, hword, ih, length_cons]
      omega
  rw [hdigits, length_digest]

theorem isHexDigit_of_mem {message : List UInt8} {c : Char}
    (h : c ∈ (digest message).flatMap hexWord) : IsHexDigit c := by
  rw [mem_flatMap] at h
  obtain ⟨word, _, hc⟩ := h
  unfold hexWord at hc
  rw [mem_map] at hc
  obtain ⟨i, _, rfl⟩ := hc
  exact isHexDigit_hexDigit _ (Nat.mod_lt _ (by omega))

theorem IsHexDigit.utf8Size {c : Char} (h : IsHexDigit c) : c.utf8Size = 1 := by
  rw [Char.utf8Size_eq_one_iff]
  rcases h with ⟨_, h⟩ | ⟨_, h⟩
  · exact UInt32.le_trans h (by decide)
  · exact UInt32.le_trans h (by decide)

theorem utf8ByteSize_ofList {chars : List Char} (h : ∀ c ∈ chars, c.utf8Size = 1) :
    (String.ofList chars).utf8ByteSize = chars.length := by
  induction chars with
  | nil => rfl
  | cons c rest ih =>
    rw [String.ofList_cons, String.utf8ByteSize_append, String.utf8ByteSize_singleton,
      h c (by simp), ih fun other ho => h other (by simp [ho]), length_cons]
    omega

theorem utf8ByteSize_hexDigest : (hexDigest message).utf8ByteSize = 64 := by
  unfold hexDigest
  rw [utf8ByteSize_ofList fun c hc => (isHexDigit_of_mem hc).utf8Size, length_hexDigits]

theorem isHexDigit_hexDigest {message : List UInt8} {c : Char}
    (h : c ∈ (hexDigest message).toList) : IsHexDigit c := by
  unfold hexDigest at h
  rw [String.toList_ofList] at h
  exact isHexDigit_of_mem h

end Sha256
