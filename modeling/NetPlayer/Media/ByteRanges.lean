import NetPlayer.Media.EntityTags
import NetPlayer.RangeCache.Basic

/-!
# Range headers

What the readers of byte ranges accept is the grammar of the headers, but for a sign in front of
a number and for a number of more than 64 bits.
-/

namespace NetPlayer.Media

open List Option

/-- The offsets from `start` up to `last`, which the source calls `end`. -/
structure ByteRange where
  start : Nat
  last : Nat
  deriving DecidableEq

def ByteRange.length (range : ByteRange) : Nat := range.last - range.start + 1

def isDigit (byte : UInt8) : Bool := 0x30 ≤ byte && byte ≤ 0x39

def decimal (digits : List UInt8) : Nat :=
  digits.foldl (fun number digit => number * 10 + (digit.toNat - 0x30)) 0

/-- `str::parse::<u64>`: digits after an optional plus sign. -/
def parseU64 (text : List UInt8) : Option Nat :=
  let digits := if text.head? = some 0x2b then text.tail else text
  if digits ≠ [] ∧ digits.all isDigit ∧ decimal digits ≤ u64Max then some (decimal digits) else none

def splitOnce (separator : UInt8) (text : List UInt8) : Option (List UInt8 × List UInt8) :=
  match text.dropWhile (· != separator) with
  | [] => none
  | _ :: rest => some (text.takeWhile (· != separator), rest)

def rsplitOnce (separator : UInt8) (text : List UInt8) : Option (List UInt8 × List UInt8) :=
  (splitOnce separator text.reverse).map fun (back, front) => (front.reverse, back.reverse)

def bytesUnit : List UInt8 := [0x62, 0x79, 0x74, 0x65, 0x73]

/-- `"bytes="` in front of a request, `"bytes "` in front of an answer. -/
def rangeSpec (separator : UInt8) (header : List UInt8) : Option (List UInt8) :=
  (toStr header).bind (bytesUnit ++ [separator]).isPrefixOf?

/-- `parse_range` of a header that is there. `none` is its error. -/
def parseRangeValue (header : List UInt8) (size : Nat) : Option ByteRange := do
  let spec ← rangeSpec 0x3d header
  if 0x2c ∈ spec ∨ size = 0 then none
  else
    let (start, stop) ← splitOnce 0x2d spec
    if start = [] then
      let suffixLength ← parseU64 stop
      if suffixLength = 0 then none else some ⟨size - suffixLength, size - 1⟩
    else
      let start ← parseU64 start
      if size ≤ start then none
      else
        let last ← (if stop = [] then some (size - 1)
          else (parseU64 stop).map (min · (size - 1)))
        if last < start then none else some ⟨start, last⟩

def parseRange (header : Option (List UInt8)) (size : Nat) : Except Unit (Option ByteRange) :=
  match header with
  | none => .ok none
  | some header => (parseRangeValue header size).elim (.error ()) fun range => .ok (some range)

def rangeHeaderIsWellFormed (header : List UInt8) : Bool :=
  match rangeSpec 0x3d header with
  | none => false
  | some spec =>
    if 0x2c ∈ spec then false
    else
      match splitOnce 0x2d spec with
      | none => false
      | some (start, stop) =>
        if start = [] then (parseU64 stop).any (0 < ·)
        else (parseU64 start).isSome && (stop == [] || (parseU64 stop).isSome)

def contentRangeByteRange (contentRange : Option (List UInt8)) : Option (ByteRange × Nat) := do
  let spec ← rangeSpec 0x20 (← contentRange)
  let (range, total) ← rsplitOnce 0x2f spec
  if total = [0x2a] then none
  else
    let total ← parseU64 total
    let (start, stop) ← splitOnce 0x2d range
    let range : ByteRange := ⟨← parseU64 start, ← parseU64 stop⟩
    if total = 0 ∨ range.last < range.start ∨ total ≤ range.last then none
    else some (range, total)

def isSuccess (status : Nat) : Bool := 200 ≤ status && status < 300

section

variable (requestedRange : Option (List UInt8)) (status : Nat)
  (contentRange contentLength : Option (List UInt8)) (knownTotalLength : Option Nat)

def rangeResponseInvalid : Bool :=
  match requestedRange with
  | none => false
  | some requestedRange =>
    if !isSuccess status then false
    else if status ≠ 206 then true
    else
      match contentRangeByteRange contentRange with
      | none => true
      | some (returnedRange, totalLength) =>
        if knownTotalLength.any (· ≠ totalLength) then true
        else
          match parseRange (some requestedRange) totalLength with
          | .ok (some expectedRange) => returnedRange != expectedRange
          | _ => true

def expectedMediaBodyBytes : Option Nat :=
  let declaredLength := contentLength.bind fun value => (toStr value).bind parseU64
  match requestedRange with
  | some requestedRange =>
    match contentRangeByteRange contentRange with
    | none => none
    | some (returnedRange, totalLength) =>
      if status ≠ 206 ∨ knownTotalLength.any (· ≠ totalLength) then none
      else
        match parseRange (some requestedRange) totalLength with
        | .ok (some expectedRange) =>
          if expectedRange ≠ returnedRange then none else some returnedRange.length
        | _ => none
  | none => knownTotalLength.or declaredLength

end

/-- A number of a header, with the sign in front that the parser takes. -/
structure Number where
  plus : Bool
  digits : List UInt8
  nonempty : digits ≠ []
  all_digits : digits.all isDigit = true

namespace Number

def bytes (number : Number) : List UInt8 :=
  (if number.plus then [0x2b] else []) ++ number.digits

def value (number : Number) : Nat := decimal number.digits

end Number

def numberText (number : Option Number) : List UInt8 := (number.map Number.bytes).getD []

structure RangeSpec where
  first : Option Number
  last : Option Number

namespace RangeSpec

def text (spec : RangeSpec) : List UInt8 := numberText spec.first ++ 0x2d :: numberText spec.last

def header (spec : RangeSpec) : List UInt8 := bytesUnit ++ 0x3d :: spec.text

def numbers (spec : RangeSpec) : List Number := spec.first.toList ++ spec.last.toList

/-- The grammar of the header has no signs. -/
def Plain (spec : RangeSpec) : Prop := ∀ number ∈ spec.numbers, number.plus = false

def Fits (spec : RangeSpec) : Prop := ∀ number ∈ spec.numbers, number.value ≤ u64Max

/-- The offsets of a resource that the range selects: none, if both numbers are missing. -/
def Selects (size : Nat) (spec : RangeSpec) (offset : Nat) : Prop :=
  offset < size ∧ match spec with
    | ⟨none, none⟩ => False
    | ⟨none, some length⟩ => size ≤ offset + length.value
    | ⟨some first, none⟩ => first.value ≤ offset
    | ⟨some first, some last⟩ => first.value ≤ offset ∧ offset ≤ last.value

def Satisfiable (spec : RangeSpec) (size : Nat) : Prop := ∃ offset, spec.Selects size offset

def range (size : Nat) : RangeSpec → ByteRange
  | ⟨none, last⟩ => ⟨size - (last.map Number.value).getD 0, size - 1⟩
  | ⟨some first, last⟩ =>
    ⟨first.value, (last.map fun number => min number.value (size - 1)).getD (size - 1)⟩

end RangeSpec

section

variable {text header front back : List UInt8} {separator : UInt8} {size : Nat} {value : Nat}
  {number other : Number} {spec : RangeSpec} {range : ByteRange}

variable {byte : UInt8}

theorem Number.mem_bytes (h : byte ∈ number.bytes) : byte = 0x2b ∨ isDigit byte = true := by
  rcases mem_append.mp h with hplus | hdigit
  · split at hplus
    · exact .inl (mem_singleton.mp hplus)
    · cases hplus
  · exact .inr (List.all_eq_true.mp number.all_digits byte hdigit)

theorem Number.notMem_bytes (hplus : byte ≠ 0x2b) (hdigit : isDigit byte = false) :
    byte ∉ number.bytes := by
  intro hm
  rcases Number.mem_bytes hm with rfl | h
  · exact hplus rfl
  · rw [hdigit] at h
    cases h

theorem Number.bytes_ne_nil : number.bytes ≠ [] :=
  append_ne_nil_of_right_ne_nil _ number.nonempty

theorem Number.head_digits : number.digits.head? ≠ some 0x2b := by
  intro hhead
  cases List.all_eq_true.mp number.all_digits _ (mem_of_mem_head? hhead)

theorem Number.bytes_inj (h : number.bytes = other.bytes) : number = other := by
  have hnumber := number.head_digits
  have ho := other.head_digits
  obtain ⟨plus, digits, hne, hall⟩ := number
  obtain ⟨plus', digits', hne', hall'⟩ := other
  cases plus with
  | true =>
    cases plus' with
    | true =>
      obtain rfl : digits = digits' := List.cons.inj h |>.2
      rfl
    | false =>
      obtain rfl : 0x2b :: digits = digits' := h
      exact absurd rfl ho
  | false =>
    cases plus' with
    | true =>
      obtain rfl : digits = 0x2b :: digits' := h
      exact absurd rfl hnumber
    | false =>
      obtain rfl : digits = digits' := h
      rfl

theorem parseU64_eq_some : parseU64 text = some value ↔
    ∃ number : Number, text = number.bytes ∧ number.value = value ∧ value ≤ u64Max := by
  unfold parseU64
  constructor
  · intro h
    by_cases hplus : text.head? = some 0x2b
    · rw [if_pos hplus] at h
      obtain ⟨⟨hne, hall, hmax⟩, hvalue⟩ := ite_none_right_eq_some.mp h
      obtain rfl := some.inj hvalue
      exact ⟨⟨true, _, hne, hall⟩, (cons_head?_tail hplus).symm, rfl, hmax⟩
    · rw [if_neg hplus] at h
      obtain ⟨⟨hne, hall, hmax⟩, hvalue⟩ := ite_none_right_eq_some.mp h
      obtain rfl := some.inj hvalue
      exact ⟨⟨false, _, hne, hall⟩, rfl, rfl, hmax⟩
  · rintro ⟨number, rfl, rfl, hmax⟩
    have hdigits : (if number.bytes.head? = some 0x2b then number.bytes.tail
        else number.bytes) = number.digits := by
      have hhead := number.head_digits
      obtain ⟨plus, digits, hne, hall⟩ := number
      cases plus with
      | true => rfl
      | false => exact if_neg hhead
    rw [hdigits, if_pos ⟨number.nonempty, number.all_digits, hmax⟩]
    rfl

theorem splitOnce_eq_some : splitOnce separator text = some (front, back) ↔
    text = front ++ separator :: back ∧ separator ∉ front := by
  unfold splitOnce
  constructor
  · intro h
    split at h
    · cases h
    · rename_i byte rest hdrop
      obtain ⟨rfl, rfl⟩ := Prod.mk.inj (some.inj h)
      have hhead := List.head?_dropWhile_not (· != separator) text
      rw [hdrop] at hhead
      obtain rfl : byte = separator := by simpa using hhead
      refine ⟨?_, fun hm => by simpa using mem_takeWhile_imp hm⟩
      rw [← hdrop, takeWhile_append_dropWhile]
  · rintro ⟨rfl, hfree⟩
    have hfront : ∀ byte ∈ front, (byte != separator) = true := by
      intro byte hm
      exact bne_iff_ne.mpr fun hs => hfree (hs ▸ hm)
    rw [dropWhile_append_of_pos hfront, takeWhile_append_of_pos hfront]
    simp

theorem rsplitOnce_append (h : separator ∉ back) :
    rsplitOnce separator (front ++ separator :: back) = some (front, back) := by
  have hsplit : splitOnce separator (front ++ separator :: back).reverse =
      some (back.reverse, front.reverse) := by
    refine splitOnce_eq_some.mpr ⟨by simp, ?_⟩
    rwa [mem_reverse]
  unfold rsplitOnce
  rw [hsplit, map_some]
  dsimp only
  rw [reverse_reverse, reverse_reverse]

theorem eq_of_rangeSpec (h : rangeSpec separator header = some text) :
    header = bytesUnit ++ separator :: text := by
  obtain ⟨value, hr, hprefix⟩ := bind_eq_some_iff.mp h
  obtain ⟨rfl, -⟩ := toStr_eq_some.mp hr
  rw [List.isPrefixOf?_eq_some_iff_append_eq, append_assoc] at hprefix
  exact hprefix.symm

theorem rangeSpec_append (hseparator : separator = 0x20 ∨ isEtagByte separator = true)
    (h : ∀ byte ∈ text, isEtagByte byte = true) :
    rangeSpec separator (bytesUnit ++ separator :: text) = some text := by
  refine bind_eq_some_iff.mpr ⟨_, toStr_eq_some.mpr ⟨rfl, ?_⟩, ?_⟩
  · intro byte hm
    rcases mem_append.mp hm with hunit | hm
    · have hall : bytesUnit.all isEtagByte = true := rfl
      exact visible_of_isEtagByte (List.all_eq_true.mp hall byte hunit)
    · rcases mem_cons.mp hm with rfl | htext
      · rcases hseparator with rfl | hetag
        · rfl
        · exact visible_of_isEtagByte hetag
      · exact visible_of_isEtagByte (h byte htext)
  · rw [List.isPrefixOf?_eq_some_iff_append_eq, append_assoc]
    rfl

theorem Number.isEtagByte_of_mem (h : byte ∈ number.bytes) : isEtagByte byte = true := by
  rcases Number.mem_bytes h with rfl | hdigit
  · rfl
  · simp only [isDigit, isEtagByte, Bool.or_eq_true, Bool.and_eq_true, beq_iff_eq,
      decide_eq_true_eq, UInt8.le_iff_toNat_le] at hdigit ⊢
    simp only [UInt8.reduceToNat] at hdigit ⊢
    omega

theorem mem_numberText {number : Option Number} (h : byte ∈ numberText number) :
    ∃ found : Number, byte ∈ found.bytes := by
  cases number with
  | none => cases h
  | some number => exact ⟨number, h⟩

theorem RangeSpec.mem_text (h : byte ∈ spec.text) :
    byte = 0x2d ∨ ∃ number : Number, byte ∈ number.bytes := by
  rcases mem_append.mp h with hfst | hl
  · exact .inr (mem_numberText hfst)
  · rcases mem_cons.mp hl with rfl | hl
    · exact .inl rfl
    · exact .inr (mem_numberText hl)

theorem RangeSpec.rangeSpec_header : rangeSpec 0x3d spec.header = some spec.text := by
  refine rangeSpec_append (.inr rfl) ?_
  intro byte hm
  rcases RangeSpec.mem_text hm with rfl | ⟨number, hnumber⟩
  · rfl
  · exact Number.isEtagByte_of_mem hnumber

theorem RangeSpec.comma_notMem : 0x2c ∉ spec.text := by
  intro hm
  rcases RangeSpec.mem_text hm with h | ⟨number, hnumber⟩
  · cases h
  · exact Number.notMem_bytes (by decide) rfl hnumber

theorem RangeSpec.splitOnce_text :
    splitOnce 0x2d spec.text = some (numberText spec.first, numberText spec.last) := by
  refine splitOnce_eq_some.mpr ⟨rfl, fun hm => ?_⟩
  obtain ⟨number, hnumber⟩ := mem_numberText hm
  exact Number.notMem_bytes (by decide) rfl hnumber

theorem parseU64_bytes (h : number.value ≤ u64Max) :
    parseU64 number.bytes = some number.value :=
  parseU64_eq_some.mpr ⟨number, rfl, rfl, h⟩

theorem numberText_inj {number other : Option Number} (h : numberText number = numberText other) :
    number = other := by
  cases number with
  | none =>
    cases other with
    | none => rfl
    | some other => exact absurd h.symm Number.bytes_ne_nil
  | some number =>
    cases other with
    | none => exact absurd h Number.bytes_ne_nil
    | some other => rw [Number.bytes_inj h]

theorem RangeSpec.header_inj {other : RangeSpec} (h : spec.header = other.header) :
    spec = other := by
  have htext : spec.text = other.text := (List.cons.inj (append_cancel_left h)).2
  have hsplit := spec.splitOnce_text.symm.trans
    ((congrArg (splitOnce 0x2d) htext).trans other.splitOnce_text)
  obtain ⟨hfst, hl⟩ := Prod.mk.inj (some.inj hsplit)
  cases spec
  cases other
  exact congrArg₂ RangeSpec.mk (numberText_inj hfst) (numberText_inj hl)

theorem RangeSpec.range_spec (h : spec.Satisfiable size) :
    (spec.range size).start ≤ (spec.range size).last ∧ (spec.range size).last < size ∧
      ∀ offset, (spec.range size).start ≤ offset ∧ offset ≤ (spec.range size).last ↔
        spec.Selects size offset := by
  obtain ⟨selected, hlt, hselects⟩ := h
  obtain ⟨_ | first, _ | last⟩ := spec
  · exact hselects.elim
  all_goals
    simp only [RangeSpec.range, RangeSpec.Selects, map_none, map_some,
      getD_none, getD_some] at hselects ⊢
    refine ⟨by omega, by omega, fun offset => by omega⟩

theorem parseRangeValue_eq_some : parseRangeValue header size = some range ↔
    ∃ spec : RangeSpec, header = spec.header ∧ spec.Fits ∧ spec.Satisfiable size ∧
      spec.range size = range := by
  constructor
  · intro hvalue
    obtain ⟨text, htext, hchecked⟩ := bind_eq_some_iff.mp hvalue
    obtain rfl := eq_of_rangeSpec htext
    obtain ⟨hrefu, hparts⟩ := ite_none_left_eq_some.mp hchecked
    obtain ⟨⟨start, stop⟩, hsplit, hnumbers⟩ := bind_eq_some_iff.mp hparts
    obtain ⟨rfl, -⟩ := splitOnce_eq_some.mp hsplit
    dsimp only at hnumbers
    split at hnumbers
    · rename_i hs
      subst hs
      obtain ⟨_, hlen, hrange⟩ := bind_eq_some_iff.mp hnumbers
      obtain ⟨length, rfl, rfl, hmax⟩ := parseU64_eq_some.mp hlen
      obtain ⟨hpos, heq⟩ := ite_none_left_eq_some.mp hrange
      refine ⟨⟨none, some length⟩, rfl, forall_mem_singleton.mpr hmax, ⟨size - 1, ?_, ?_⟩,
        some.inj heq⟩
      · omega
      · show size ≤ size - 1 + length.value
        omega
    · obtain ⟨_, hfst, hbdd⟩ := bind_eq_some_iff.mp hnumbers
      obtain ⟨first, rfl, rfl, hmax⟩ := parseU64_eq_some.mp hfst
      obtain ⟨hin, hlasts⟩ := ite_none_left_eq_some.mp hbdd
      obtain ⟨last, hl, hrange⟩ := bind_eq_some_iff.mp hlasts
      obtain ⟨hord, heq⟩ := ite_none_left_eq_some.mp hrange
      split at hl
      · rename_i hstop
        subst hstop
        obtain rfl := some.inj hl
        exact ⟨⟨some first, none⟩, rfl, forall_mem_singleton.mpr hmax,
          ⟨first.value, Nat.lt_of_not_le hin, le_rfl⟩, some.inj heq⟩
      · obtain ⟨_, hr, rfl⟩ := map_eq_some_iff.mp hl
        obtain ⟨last, rfl, rfl, hlastMax⟩ := parseU64_eq_some.mp hr
        exact ⟨⟨some first, some last⟩, rfl,
          forall_mem_cons.mpr ⟨hmax, forall_mem_singleton.mpr hlastMax⟩,
          ⟨first.value, Nat.lt_of_not_le hin, le_rfl, by omega⟩, some.inj heq⟩
  · rintro ⟨spec, rfl, hfit, hsat, rfl⟩
    obtain ⟨hle, hlt, hselects⟩ := RangeSpec.range_spec hsat
    refine bind_eq_some_iff.mpr ⟨_, RangeSpec.rangeSpec_header, ?_⟩
    rw [if_neg (not_or.mpr ⟨RangeSpec.comma_notMem, by omega⟩)]
    refine bind_eq_some_iff.mpr ⟨_, RangeSpec.splitOnce_text, ?_⟩
    obtain ⟨_ | first, _ | last⟩ := spec
    · obtain ⟨_, -, hsel⟩ := hsat
      exact hsel.elim
    · obtain ⟨offset, hin, hsuffix⟩ := hsat
      have hl := parseU64_bytes (hfit last (mem_singleton_self _))
      refine bind_eq_some_iff.mpr ⟨_, hl, if_neg ?_⟩
      omega
    all_goals
      have hfst := parseU64_bytes (hfit first mem_cons_self)
      refine (if_neg Number.bytes_ne_nil).trans (bind_eq_some_iff.mpr ⟨_, hfst, ?_⟩)
      refine (if_neg (not_le.mpr (hle.trans_lt hlt))).trans ?_
      refine bind_eq_some_iff.mpr ⟨_, ?_, if_neg (not_lt.mpr hle)⟩
    · rfl
    · have hl := parseU64_bytes (hfit last (mem_cons_of_mem _ mem_cons_self))
      exact (if_neg Number.bytes_ne_nil).trans (congrArg (Option.map _) hl)

theorem parseRange_eq_ok : parseRange (some header) size = .ok (some range) ↔
    ∃ spec : RangeSpec, header = spec.header ∧ spec.Fits ∧ spec.Satisfiable size ∧
      spec.range size = range := by
  rw [← parseRangeValue_eq_some]
  unfold parseRange
  dsimp only
  cases parseRangeValue header size with
  | none | some read => simp

theorem rangeHeaderIsWellFormed_of_ok (h : parseRange (some header) size = .ok (some range)) :
    rangeHeaderIsWellFormed header = true := by
  obtain ⟨spec, rfl, hfit, hsat, -⟩ := parseRange_eq_ok.mp h
  obtain ⟨offset, hin, hsel⟩ := hsat
  unfold rangeHeaderIsWellFormed
  rw [RangeSpec.rangeSpec_header]
  dsimp only
  rw [if_neg RangeSpec.comma_notMem, RangeSpec.splitOnce_text]
  obtain ⟨_ | first, _ | last⟩ := spec
  · exact hsel.elim
  · change size ≤ offset + last.value at hsel
    show (parseU64 last.bytes).any (0 < ·) = true
    rw [parseU64_bytes (hfit last (mem_singleton_self _)), any_some,
      decide_eq_true_iff]
    omega
  all_goals
    refine (if_neg Number.bytes_ne_nil).trans ?_
    rw [numberText, map_some, getD_some,
      parseU64_bytes (hfit first mem_cons_self)]
  · rfl
  · have hl := parseU64_bytes (hfit last (mem_cons_of_mem _ mem_cons_self))
    simp only [numberText, map_some, getD_some, hl, isSome_some,
      Bool.or_true, Bool.and_true]

end

def contentRangeText (first last total : Number) : List UInt8 :=
  bytesUnit ++ 0x20 :: (first.bytes ++ 0x2d :: last.bytes ++ 0x2f :: total.bytes)

def Answers (spec : RangeSpec) (size : Nat) (first last : Number) : Prop :=
  first.value ≤ last.value ∧
    ∀ offset, first.value ≤ offset ∧ offset ≤ last.value ↔ spec.Selects size offset

theorem contentRangeByteRange_text {first last total : Number} (hord : first.value ≤ last.value)
    (hin : last.value < total.value) (hmax : total.value ≤ u64Max) :
    contentRangeByteRange (some (contentRangeText first last total)) =
      some (⟨first.value, last.value⟩, total.value) := by
  have hspec : rangeSpec 0x20 (contentRangeText first last total) =
      some (first.bytes ++ 0x2d :: last.bytes ++ 0x2f :: total.bytes) := by
    refine rangeSpec_append (.inl rfl) ?_
    intro byte hm
    simp only [mem_append, mem_cons] at hm
    rcases hm with (hm | rfl | hm) | rfl | hm
    · exact Number.isEtagByte_of_mem hm
    · rfl
    · exact Number.isEtagByte_of_mem hm
    · rfl
    · exact Number.isEtagByte_of_mem hm
  have hstar : total.bytes ≠ [0x2a] := by
    intro heq
    have hm : 0x2a ∈ total.bytes := by
      rw [heq]
      exact mem_singleton_self _
    exact Number.notMem_bytes (by decide) rfl hm
  have hslash : 0x2f ∉ total.bytes := Number.notMem_bytes (by decide) rfl
  have hsplit : splitOnce 0x2d (first.bytes ++ 0x2d :: last.bytes) =
      some (first.bytes, last.bytes) :=
    splitOnce_eq_some.mpr ⟨rfl, Number.notMem_bytes (by decide) rfl⟩
  unfold contentRangeByteRange
  simp only [bind_eq_bind, bind_some, hspec,
    rsplitOnce_append hslash, if_neg hstar, parseU64_bytes hmax, hsplit,
    parseU64_bytes (show first.value ≤ u64Max by omega),
    parseU64_bytes (show last.value ≤ u64Max by omega)]
  rw [if_neg (by omega)]

section

variable (value : List UInt8) (size : UInt64)

structure RangeReadingExact : Prop where
  accepted : (∃ range, parseRange (some value) size.toNat = .ok (some range)) ↔
    ∃ spec : RangeSpec, value = spec.header ∧ spec.Plain ∧ spec.Satisfiable size.toNat
  selected : ∀ range, parseRange (some value) size.toNat = .ok (some range) →
    range.last < size.toNat ∧ ∀ spec : RangeSpec, value = spec.header →
      ∀ offset, range.start ≤ offset ∧ offset ≤ range.last ↔ spec.Selects size.toNat offset
  wellFormed : ∀ range, parseRange (some value) size.toNat = .ok (some range) →
    rangeHeaderIsWellFormed value = true
  answered : ∀ (spec : RangeSpec) (first last total : Number), value = spec.header → spec.Plain →
    Answers spec size.toNat first last → total.value = size.toNat → ∃ range,
      contentRangeByteRange (some (contentRangeText first last total)) = some (range, size.toNat) ∧
        parseRange (some value) size.toNat = .ok (some range)
  agree : ∀ status contentRange contentLength knownTotalLength, isSuccess status = true →
    (rangeResponseInvalid (some value) status contentRange knownTotalLength = false ↔
      (expectedMediaBodyBytes (some value) status contentRange contentLength
        knownTotalLength).isSome = true)

variable {value size}

theorem agree_of_success {requestedRange : List UInt8} {status : Nat}
    {contentRange contentLength : Option (List UInt8)} {knownTotalLength : Option Nat}
    (h : isSuccess status = true) :
    rangeResponseInvalid (some requestedRange) status contentRange knownTotalLength = false ↔
      (expectedMediaBodyBytes (some requestedRange) status contentRange contentLength
        knownTotalLength).isSome = true := by
  unfold rangeResponseInvalid expectedMediaBodyBytes
  simp only [h]
  cases contentRangeByteRange contentRange with
  | none => simp
  | some answer =>
    obtain ⟨returnedRange, totalLength⟩ := answer
    dsimp only
    by_cases hst : status = 206
    · cases hk : knownTotalLength.any (· ≠ totalLength) with
      | true => simp [hst]
      | false =>
        cases parseRange (some requestedRange) totalLength with
        | error => simp
        | ok parsed =>
          cases parsed with
          | none => simp
          | some expectedRange =>
            by_cases heq : expectedRange = returnedRange
            · simp [hst, heq]
            · simp [heq, Ne.symm heq]
    · simp [hst]

theorem ByteRange.eq_of_offsets {range : ByteRange} {first last : Nat} (hord : first ≤ last)
    (hle : range.start ≤ range.last) (h : ∀ offset, first ≤ offset ∧ offset ≤ last ↔
      range.start ≤ offset ∧ offset ≤ range.last) : range = ⟨first, last⟩ := by
  obtain ⟨start, stop⟩ := range
  dsimp only at hle h
  have hfst := h first
  have hl := h last
  have hs := h start
  have hstop := h stop
  obtain rfl : start = first := by omega
  obtain rfl : stop = last := by omega
  rfl

/-- The readers are exact unless a satisfiable value has a sign and all its numbers fit, or has no
sign and one of them does not. -/
theorem range_reading_exact_iff (value : List UInt8) (size : UInt64) :
    RangeReadingExact value size ↔ ∀ spec : RangeSpec, value = spec.header →
      spec.Satisfiable size.toNat → (spec.Plain ↔ spec.Fits) := by
  constructor
  · intro h spec hvalue hsatisfiable
    constructor
    · intro hplain
      obtain ⟨range, hrange⟩ := h.accepted.mpr ⟨spec, hvalue, hplain, hsatisfiable⟩
      obtain ⟨read, hread, hfits, -⟩ := parseRange_eq_ok.mp hrange
      exact RangeSpec.header_inj (hread.symm.trans hvalue) ▸ hfits
    · intro hfits
      have hrange := parseRange_eq_ok.mpr ⟨spec, hvalue, hfits, hsatisfiable, rfl⟩
      obtain ⟨read, hread, hplain, -⟩ := h.accepted.mp ⟨_, hrange⟩
      exact RangeSpec.header_inj (hread.symm.trans hvalue) ▸ hplain
  · intro h
    refine ⟨⟨?_, ?_⟩, ?_, fun _ => rangeHeaderIsWellFormed_of_ok, ?_,
      fun _ _ _ _ => agree_of_success⟩
    · rintro ⟨range, hrange⟩
      obtain ⟨spec, hvalue, hfits, hsatisfiable, -⟩ := parseRange_eq_ok.mp hrange
      exact ⟨spec, hvalue, (h spec hvalue hsatisfiable).mpr hfits, hsatisfiable⟩
    · rintro ⟨spec, hvalue, hplain, hsatisfiable⟩
      have hfits := (h spec hvalue hsatisfiable).mp hplain
      exact ⟨_, parseRange_eq_ok.mpr ⟨spec, hvalue, hfits, hsatisfiable, rfl⟩⟩
    · intro range hrange
      obtain ⟨read, hread, -, hsatisfiable, rfl⟩ := parseRange_eq_ok.mp hrange
      obtain ⟨-, hinside, hselects⟩ := RangeSpec.range_spec hsatisfiable
      refine ⟨hinside, fun spec hvalue => ?_⟩
      rw [RangeSpec.header_inj (hvalue.symm.trans hread)]
      exact hselects
    · rintro spec first last total hvalue hplain ⟨hordered, hselects⟩ htotal
      have hsatisfiable : spec.Satisfiable size.toNat :=
        ⟨first.value, (hselects first.value).mp ⟨le_rfl, hordered⟩⟩
      have hfits := (h spec hvalue hsatisfiable).mp hplain
      obtain ⟨hle, hinside, hrange⟩ := RangeSpec.range_spec hsatisfiable
      have hsame : spec.range size.toNat = ⟨first.value, last.value⟩ :=
        ByteRange.eq_of_offsets hordered hle fun offset =>
          (hselects offset).trans (hrange offset).symm
      have hmax := size.toNat_lt
      rw [hsame] at hinside
      refine ⟨_, ?_, parseRange_eq_ok.mpr ⟨spec, hvalue, hfits, hsatisfiable, hsame⟩⟩
      rw [← htotal] at hinside hmax ⊢
      exact contentRangeByteRange_text hordered hinside (by unfold u64Max; omega)

/-- From the first byte to the offset `2 ^ 64`. -/
def largeRange : RangeSpec :=
  ⟨some ⟨false, [0x30], by decide, rfl⟩, some ⟨false, [0x31, 0x38, 0x34, 0x34, 0x36, 0x37, 0x34,
    0x34, 0x30, 0x37, 0x33, 0x37, 0x30, 0x39, 0x35, 0x35, 0x31, 0x36, 0x31, 0x36], by decide, rfl⟩⟩

theorem large_range_refused : ¬ RangeReadingExact largeRange.header 1 := by
  intro h
  have hplain : largeRange.Plain :=
    forall_mem_cons.mpr ⟨rfl, forall_mem_singleton.mpr rfl⟩
  have hsatisfiable : largeRange.Satisfiable 1 := ⟨0, Nat.one_pos, le_rfl, Nat.zero_le _⟩
  obtain ⟨range, hrange⟩ := h.accepted.mpr ⟨largeRange, rfl, hplain, hsatisfiable⟩
  have hrefused : parseRange (some largeRange.header) 1 = .error () := by decide +kernel
  cases hrefused.symm.trans hrange

end

end NetPlayer.Media
