import Mathlib.Data.List.DropRight

/-!
# If-None-Match

The field value is scanned byte by byte from an offset, and what the scanner accepts is the
grammar of the header. An index out of range would be a panic.
-/

namespace NetPlayer.Media

open List

/-- `HeaderValue::to_str`: visible ASCII, blanks and tabs. -/
def toStr (value : List UInt8) : Option (List UInt8) :=
  if value.all fun byte => byte == 0x09 || (0x20 ≤ byte && byte < 0x7f) then some value else none

def isOptionalWhitespace (byte : UInt8) : Bool := byte == 0x20 || byte == 0x09

def isEtagByte (byte : UInt8) : Bool := byte == 0x21 || (0x23 ≤ byte && byte ≤ 0x7e)

def skipOptionalWhitespace (value : List UInt8) (offset : Nat) : Nat :=
  match h : value[offset]? with
  | none => offset
  | some byte =>
    if isOptionalWhitespace byte then skipOptionalWhitespace value (offset + 1) else offset
termination_by value.length - offset
decreasing_by
  have := (List.getElem?_eq_some_iff.mp h).1
  omega

/-- The end of the bytes between the quotes. `none` is a byte that no tag may have. -/
def opaqueEnd (value : List UInt8) (offset : Nat) : Option Nat :=
  match h : value[offset]? with
  | none => some offset
  | some byte =>
    if byte = 0x22 then some offset
    else if isEtagByte byte then opaqueEnd value (offset + 1)
    else none
termination_by value.length - offset
decreasing_by
  have := (List.getElem?_eq_some_iff.mp h).1
  omega

/-- The end of the quoted bytes at an offset. `none` is a value that is malformed there. -/
def quotedEnd (value : List UInt8) (offset : Nat) : Option Nat :=
  if value[offset]? ≠ some 0x22 then none
  else
    match opaqueEnd value (offset + 1) with
    | none => none
    | some offset => if value[offset]? = some 0x22 then some (offset + 1) else none

def entityTagEnd (value : List UInt8) (offset : Nat) : Option Nat :=
  quotedEnd value (if (value.drop offset).take 2 = [0x57, 0x2f] then offset + 2 else offset)

def weakEtagValue : List UInt8 → List UInt8
  | 0x57 :: 0x2f :: value => value
  | value => value

/-- `&value[start..stop]`. `none` is a panic. -/
def slice (value : List UInt8) (start stop : Nat) : Option (List UInt8) :=
  if start ≤ stop ∧ stop ≤ value.length then some ((value.drop start).take (stop - start)) else none

section

variable {value : List UInt8} {offset stop : Nat}

theorem le_skipOptionalWhitespace : offset ≤ skipOptionalWhitespace value offset := by
  fun_induction skipOptionalWhitespace value offset with
  | case1 => exact le_rfl
  | case2 offset byte h hblank ih => omega
  | case3 => exact le_rfl

theorem skipOptionalWhitespace_le (hle : offset ≤ value.length) :
    skipOptionalWhitespace value offset ≤ value.length := by
  fun_induction skipOptionalWhitespace value offset with
  | case1 => exact hle
  | case2 offset byte h hblank ih => exact ih (List.getElem?_eq_some_iff.mp h).1
  | case3 => exact hle

theorem drop_skipOptionalWhitespace : value.drop (skipOptionalWhitespace value offset) =
    (value.drop offset).dropWhile isOptionalWhitespace := by
  fun_induction skipOptionalWhitespace value offset with
  | case1 offset h =>
    rw [drop_eq_nil_of_le (List.getElem?_eq_none_iff.mp h)]
    rfl
  | case2 offset byte h hblank ih =>
    obtain ⟨hlt, rfl⟩ := List.getElem?_eq_some_iff.mp h
    rw [ih, drop_eq_getElem_cons hlt, dropWhile_cons_of_pos hblank]
  | case3 offset byte h hblank =>
    obtain ⟨hlt, rfl⟩ := List.getElem?_eq_some_iff.mp h
    rw [drop_eq_getElem_cons hlt, dropWhile_cons_of_neg hblank]

theorem drop_of_getElem? {byte : UInt8} (h : value[offset]? = some byte) :
    value.drop offset = byte :: value.drop (offset + 1) := by
  obtain ⟨hlt, rfl⟩ := List.getElem?_eq_some_iff.mp h
  exact drop_eq_getElem_cons hlt

theorem getElem?_of_drop {byte : UInt8} {rest : List UInt8} (h : value.drop offset = byte :: rest) :
    value[offset]? = some byte ∧ value.drop (offset + 1) = rest := by
  constructor
  · rw [← List.head?_drop, h, List.head?_cons]
  · rw [← tail_drop, h, tail_cons]

theorem opaqueEnd_eq_some : opaqueEnd value offset = some stop ∧ value[stop]? = some 0x22 ↔
    ∃ inner : List UInt8, (∀ byte ∈ inner, isEtagByte byte = true) ∧
      value.drop offset = inner ++ 0x22 :: value.drop (stop + 1) ∧ stop = offset + inner.length := by
  constructor
  · rintro ⟨hend, hquote⟩
    fun_induction opaqueEnd value offset with
    | case1 offset h =>
      cases hend
      rw [h] at hquote
      cases hquote
    | case2 offset h =>
      cases hend
      exact ⟨[], by simp, drop_of_getElem? hquote, rfl⟩
    | case3 offset byte h ho hbyte ih =>
      obtain ⟨inner, hinner, hdrop, hstop⟩ := ih hend
      refine ⟨byte :: inner, forall_mem_cons.mpr ⟨hbyte, hinner⟩, ?_, ?_⟩
      · rw [drop_of_getElem? h, hdrop, cons_append]
      · rw [hstop, length_cons]
        omega
    | case4 => cases hend
  · rintro ⟨inner, hinner, hdrop, rfl⟩
    induction inner generalizing offset with
    | nil =>
      obtain ⟨hquote, -⟩ := getElem?_of_drop hdrop
      refine ⟨?_, hquote⟩
      rw [opaqueEnd]
      split
      · rfl
      · rename_i byte h
        rw [if_pos (Option.some.inj (h.symm.trans hquote))]
        rfl
    | cons byte rest ih =>
      obtain ⟨hbyte, hr⟩ := getElem?_of_drop hdrop
      have hetag := hinner byte mem_cons_self
      have ho : byte ≠ 0x22 := by
        rintro rfl
        cases hetag
      have hlen : offset + (byte :: rest).length = offset + 1 + rest.length := by
        rw [length_cons]
        omega
      rw [hlen] at hr ⊢
      obtain ⟨hend, hquote⟩ := ih (fun other hm => hinner other (mem_cons_of_mem _ hm)) hr
      refine ⟨?_, hquote⟩
      rw [opaqueEnd]
      split
      · rename_i h
        rw [h] at hbyte
        cases hbyte
      · rename_i found h
        obtain rfl := Option.some.inj (h.symm.trans hbyte)
        rw [if_neg ho, if_pos hetag]
        exact hend

theorem quotedEnd_eq_some : quotedEnd value offset = some stop ↔
    ∃ inner : List UInt8, (∀ byte ∈ inner, isEtagByte byte = true) ∧
      value.drop offset = 0x22 :: (inner ++ 0x22 :: value.drop stop) ∧
        stop = offset + inner.length + 2 := by
  unfold quotedEnd
  constructor
  · intro h
    split at h
    · cases h
    rename_i hopen
    split at h
    · cases h
    rename_i last hend
    split at h
    · rename_i hquote
      cases h
      obtain ⟨inner, hinner, hdrop, hl⟩ := opaqueEnd_eq_some.mp ⟨hend, hquote⟩
      refine ⟨inner, hinner, ?_, by omega⟩
      rw [drop_of_getElem? (not_not.mp hopen), hdrop]
    · cases h
  · rintro ⟨inner, hinner, hdrop, rfl⟩
    obtain ⟨hopen, hr⟩ := getElem?_of_drop hdrop
    have hl : offset + inner.length + 2 = offset + 1 + inner.length + 1 := by omega
    rw [hl] at hr
    obtain ⟨hend, hquote⟩ := opaqueEnd_eq_some.mpr ⟨inner, hinner, hr, rfl⟩
    rw [if_neg (not_not.mpr hopen), hend]
    dsimp only
    rw [if_pos hquote, hl]

end

/-- An entity tag: visible ASCII without a double quote between two of them. -/
structure EntityTag where
  weak : Bool
  inner : List UInt8
  inner_valid : ∀ byte ∈ inner, isEtagByte byte = true

def EntityTag.bytes (tag : EntityTag) : List UInt8 :=
  (if tag.weak then [0x57, 0x2f] else []) ++ 0x22 :: (tag.inner ++ [0x22])

/-- The comparison of `If-None-Match`, which does not look at the prefixes. -/
def EntityTag.WeaklyEquals (tag other : EntityTag) : Prop := tag.inner = other.inner

def Blank (bytes : List UInt8) : Prop := ∀ byte ∈ bytes, isOptionalWhitespace byte = true

inductive EntityTagList : List UInt8 → List EntityTag → Prop
  | last {lead trail : List UInt8} (tag : EntityTag) (before : Blank lead) (after : Blank trail) :
    EntityTagList (lead ++ (tag.bytes ++ trail)) [tag]
  | cons {lead trail rest : List UInt8} {tags : List EntityTag} (tag : EntityTag)
      (before : Blank lead) (after : Blank trail) (others : EntityTagList rest tags) :
    EntityTagList (lead ++ (tag.bytes ++ (trail ++ 0x2c :: rest))) (tag :: tags)

section

variable {value : List UInt8} {offset stop : Nat} {tag other : EntityTag} {rest : List UInt8}

theorem entityTagEnd_eq_some : entityTagEnd value offset = some stop ↔
    ∃ tag : EntityTag, value.drop offset = tag.bytes ++ value.drop stop ∧
      stop = offset + tag.bytes.length := by
  unfold entityTagEnd
  rw [quotedEnd_eq_some]
  constructor
  · rintro ⟨inner, hinner, hdrop, hstop⟩
    split at hdrop
    · rename_i hweak
      rw [if_pos hweak] at hstop
      refine ⟨⟨true, inner, hinner⟩, ?_, ?_⟩
      · rw [← take_append_drop 2 (value.drop offset), hweak, drop_drop, hdrop]
        simp [EntityTag.bytes]
      · simp [EntityTag.bytes]
        omega
    · rename_i hstrong
      rw [if_neg hstrong] at hstop
      refine ⟨⟨false, inner, hinner⟩, by simpa [EntityTag.bytes] using hdrop, ?_⟩
      simp [EntityTag.bytes]
      omega
  · rintro ⟨⟨weak, inner, hinner⟩, hdrop, hstop⟩
    refine ⟨inner, hinner, ?_⟩
    cases weak with
    | true =>
      have hr : value.drop (offset + 2) = 0x22 :: (inner ++ 0x22 :: value.drop stop) := by
        rw [← drop_drop, hdrop]
        simp [EntityTag.bytes]
      have hweak : (value.drop offset).take 2 = [0x57, 0x2f] := by
        rw [hdrop]
        simp [EntityTag.bytes]
      rw [if_pos hweak]
      refine ⟨hr, ?_⟩
      simp [EntityTag.bytes] at hstop
      omega
    | false =>
      have hr : value.drop offset = 0x22 :: (inner ++ 0x22 :: value.drop stop) := by
        simpa [EntityTag.bytes] using hdrop
      have hstrong : (value.drop offset).take 2 ≠ [0x57, 0x2f] := by
        rw [hr]
        simp
      rw [if_neg hstrong]
      refine ⟨hr, ?_⟩
      simp [EntityTag.bytes] at hstop
      omega

theorem EntityTag.length_bytes_pos (tag : EntityTag) : 0 < tag.bytes.length :=
  length_pos_iff.mpr (append_ne_nil_of_right_ne_nil _ (cons_ne_nil _ _))

theorem entityTagEnd_bounds (h : entityTagEnd value offset = some stop) :
    offset < stop ∧ stop ≤ value.length := by
  obtain ⟨tag, hdrop, rfl⟩ := entityTagEnd_eq_some.mp h
  have hlen := congrArg List.length hdrop
  have hpos := tag.length_bytes_pos
  rw [length_append, length_drop, length_drop] at hlen
  omega

end

def matchesFrom (value : List UInt8) (current : Option (List UInt8)) (offset : Nat)
    (matched : Bool) : Option Bool :=
  let candidateStart := skipOptionalWhitespace value offset
  match _hend : entityTagEnd value candidateStart with
  | none => some false
  | some stop =>
    match slice value candidateStart stop with
    | none => none
    | some candidate =>
      let matched := matched ||
        current.any fun current => weakEtagValue candidate == weakEtagValue current
      let next := skipOptionalWhitespace value stop
      if next = value.length then some matched
      else if hcomma : value[next]? = some 0x2c then matchesFrom value current (next + 1) matched
      else some false
termination_by value.length - offset
decreasing_by
  have hlt := (List.getElem?_eq_some_iff.mp hcomma).1
  have hstart := @le_skipOptionalWhitespace value offset
  have hstop := (entityTagEnd_bounds _hend).1
  have hskip := @le_skipOptionalWhitespace value stop
  omega

/-- The outer `none` is a panic. -/
def ifNoneMatchFieldMatches (value : List UInt8) (etag : Option (List UInt8)) : Option Bool :=
  match toStr value with
  | none => some false
  | some value =>
    let current := etag.bind toStr
    let offset := skipOptionalWhitespace value 0
    if value[offset]? = some 0x2a then
      some (skipOptionalWhitespace value (offset + 1) == value.length)
    else matchesFrom value current offset false

def Names (etag : Option (List UInt8)) (tag : EntityTag) : Prop :=
  ∃ other : EntityTag, etag = some other.bytes ∧ tag.WeaklyEquals other

def IsStar (value : List UInt8) : Prop :=
  ∃ lead trail, Blank lead ∧ Blank trail ∧ value = lead ++ 0x2a :: trail

def FieldMatches (value : List UInt8) (etag : Option (List UInt8)) : Prop :=
  IsStar value ∨ ∃ tags, EntityTagList value tags ∧ ∃ tag ∈ tags, Names etag tag

section

variable {value : List UInt8} {offset stop : Nat} {tag other : EntityTag} {rest : List UInt8}

theorem dropWhile_bytes :
    (tag.bytes ++ rest).dropWhile isOptionalWhitespace = tag.bytes ++ rest := by
  obtain ⟨weak, inner, hinner⟩ := tag
  cases weak with
  | true | false => rfl

variable {lead current text candidate : List UInt8}

theorem dropWhile_blank (h : Blank lead) :
    (lead ++ rest).dropWhile isOptionalWhitespace = rest.dropWhile isOptionalWhitespace :=
  dropWhile_append_of_pos h

variable {tags : List EntityTag}

theorem entityTagList_iff : EntityTagList value tags ↔
    ∃ (tag : EntityTag) (rest : List UInt8),
      value.dropWhile isOptionalWhitespace = tag.bytes ++ rest ∧
        (rest.dropWhile isOptionalWhitespace = [] ∧ tags = [tag] ∨
          ∃ next others, rest.dropWhile isOptionalWhitespace = 0x2c :: next ∧
            EntityTagList next others ∧ tags = tag :: others) := by
  have hblank : ∀ bytes : List UInt8, Blank (bytes.takeWhile isOptionalWhitespace) :=
    fun bytes byte hm => mem_takeWhile_imp hm
  constructor
  · intro h
    cases h with
    | @last lead trail tag before after =>
      refine ⟨tag, trail, by rw [dropWhile_blank before, dropWhile_bytes], .inl ⟨?_, rfl⟩⟩
      exact dropWhile_eq_nil_iff.mpr after
    | @cons lead trail next others tag before after list =>
      refine ⟨tag, _, by rw [dropWhile_blank before, dropWhile_bytes], .inr ?_⟩
      refine ⟨next, others, ?_, list, rfl⟩
      rw [dropWhile_blank after]
      rfl
  · rintro ⟨tag, rest, hvalue, hr⟩
    rw [← takeWhile_append_dropWhile (p := isOptionalWhitespace) (l := value), hvalue]
    rcases hr with ⟨hnil, rfl⟩ | ⟨next, others, hn, list, rfl⟩
    · exact .last tag (hblank value) (dropWhile_eq_nil_iff.mp hnil)
    · rw [← takeWhile_append_dropWhile (p := isOptionalWhitespace) (l := rest), hn]
      exact .cons tag (hblank value) (hblank rest) list

theorem entityTagList_dropWhile :
    EntityTagList (value.dropWhile isOptionalWhitespace) tags ↔ EntityTagList value tags := by
  rw [entityTagList_iff, entityTagList_iff, dropWhile_idempotent]

theorem slice_bytes (h : value.drop offset = tag.bytes ++ rest) :
    slice value offset (offset + tag.bytes.length) = some tag.bytes := by
  have hlen := congrArg List.length h
  rw [length_drop, length_append] at hlen
  have hpos := tag.length_bytes_pos
  unfold slice
  rw [if_pos ⟨Nat.le_add_right _ _, by omega⟩, h, Nat.add_sub_cancel_left, take_left]

theorem entityTagList_drop : EntityTagList (value.drop offset) tags ↔
    ∃ (tag : EntityTag) (stop : Nat),
      entityTagEnd value (skipOptionalWhitespace value offset) = some stop ∧
      slice value (skipOptionalWhitespace value offset) stop = some tag.bytes ∧
        (skipOptionalWhitespace value stop = value.length ∧ tags = [tag] ∨
          value[skipOptionalWhitespace value stop]? = some 0x2c ∧ ∃ others,
            EntityTagList (value.drop (skipOptionalWhitespace value stop + 1)) others ∧
              tags = tag :: others) := by
  rw [entityTagList_iff, ← drop_skipOptionalWhitespace]
  constructor
  · rintro ⟨tag, rest, hr, hrest⟩
    have hdrop : value.drop (skipOptionalWhitespace value offset + tag.bytes.length) = rest := by
      rw [← drop_drop, hr, drop_left]
    subst hdrop
    have hend := entityTagEnd_eq_some.mpr ⟨tag, hr, rfl⟩
    refine ⟨tag, _, hend, slice_bytes hr, ?_⟩
    rw [← drop_skipOptionalWhitespace] at hrest
    rcases hrest with ⟨hnil, rfl⟩ | ⟨next, others, hn, list, rfl⟩
    · have hle := skipOptionalWhitespace_le (entityTagEnd_bounds hend).2
      exact .inl ⟨le_antisymm hle (drop_eq_nil_iff.mp hnil), rfl⟩
    · obtain ⟨hcomma, rfl⟩ := getElem?_of_drop hn
      exact .inr ⟨hcomma, others, list, rfl⟩
  · rintro ⟨tag, stop, hend, hslice, hrest⟩
    obtain ⟨read, hr, hstop⟩ := entityTagEnd_eq_some.mp hend
    have hbytes : read.bytes = tag.bytes :=
      Option.some.inj ((slice_bytes hr).symm.trans (hstop ▸ hslice))
    rw [hbytes] at hr hstop
    refine ⟨tag, _, hr, ?_⟩
    rw [← drop_skipOptionalWhitespace]
    rcases hrest with ⟨hn, rfl⟩ | ⟨hcomma, others, list, rfl⟩
    · exact .inl ⟨drop_eq_nil_of_le hn.ge, rfl⟩
    · exact .inr ⟨_, others, drop_of_getElem? hcomma, list, rfl⟩

theorem weakEtagValue_bytes : weakEtagValue tag.bytes = 0x22 :: (tag.inner ++ [0x22]) := by
  obtain ⟨weak, inner, hinner⟩ := tag
  cases weak with
  | true | false => rfl

theorem weakEtagValue_eq_iff : weakEtagValue tag.bytes = weakEtagValue current ↔
      ∃ other : EntityTag, current = other.bytes ∧ tag.WeaklyEquals other := by
  rw [weakEtagValue_bytes]
  constructor
  · intro h
    unfold weakEtagValue at h
    split at h
    · rename_i value
      exact ⟨⟨true, tag.inner, tag.inner_valid⟩, by rw [← h]; rfl, rfl⟩
    · exact ⟨⟨false, tag.inner, tag.inner_valid⟩, by rw [← h]; rfl, rfl⟩
  · rintro ⟨other, rfl, heq⟩
    rw [weakEtagValue_bytes, heq]

theorem toStr_eq_some : toStr value = some text ↔
    value = text ∧ ∀ byte ∈ value, (byte == 0x09 || (0x20 ≤ byte && byte < 0x7f)) = true := by
  unfold toStr
  split
  · rename_i hall
    exact ⟨fun h => ⟨Option.some.inj h, all_eq_true.mp hall⟩, fun h => congrArg some h.1⟩
  · rename_i hall
    exact ⟨nofun, fun h => absurd (all_eq_true.mpr h.2) hall⟩

theorem visible_of_isEtagByte {byte : UInt8} (h : isEtagByte byte = true) :
    (byte == 0x09 || (0x20 ≤ byte && byte < 0x7f)) = true := by
  simp only [isEtagByte, Bool.or_eq_true, Bool.and_eq_true, beq_iff_eq, decide_eq_true_eq,
    UInt8.le_iff_toNat_le, UInt8.lt_iff_toNat_lt, ← UInt8.toNat_inj] at h ⊢
  simp only [UInt8.reduceToNat] at h ⊢
  omega

theorem visible_bytes : ∀ byte ∈ tag.bytes,
    (byte == 0x09 || (0x20 ≤ byte && byte < 0x7f)) = true := by
  intro byte hm
  simp only [EntityTag.bytes, mem_append, mem_cons, not_mem_nil, or_false] at hm
  rcases hm with hweak | rfl | hinner | rfl
  · split at hweak
    · simp only [mem_cons, not_mem_nil, or_false] at hweak
      rcases hweak with rfl | rfl <;> rfl
    · cases hweak
  · rfl
  · exact visible_of_isEtagByte (tag.inner_valid byte hinner)
  · rfl

theorem visible_blank {bytes : List UInt8} (h : Blank bytes) : ∀ byte ∈ bytes,
    (byte == 0x09 || (0x20 ≤ byte && byte < 0x7f)) = true := by
  intro byte hm
  have hblank := h byte hm
  simp only [isOptionalWhitespace, Bool.or_eq_true, beq_iff_eq] at hblank
  rcases hblank with rfl | rfl <;> rfl

theorem EntityTagList.visible (h : EntityTagList value tags) :
    ∀ byte ∈ value, (byte == 0x09 || (0x20 ≤ byte && byte < 0x7f)) = true := by
  induction h with
  | last tag before after =>
    intro byte hm
    rw [mem_append, mem_append] at hm
    rcases hm with hm | hm | hm
    · exact visible_blank before byte hm
    · exact visible_bytes byte hm
    · exact visible_blank after byte hm
  | cons tag before after _ ih =>
    intro byte hm
    rw [mem_append, mem_append, mem_append, mem_cons] at hm
    rcases hm with hm | hm | hm | rfl | hm
    · exact visible_blank before byte hm
    · exact visible_bytes byte hm
    · exact visible_blank after byte hm
    · rfl
    · exact ih byte hm

variable {etag : Option (List UInt8)}

theorem any_weakEtagValue :
    ((etag.bind toStr).any fun current => weakEtagValue tag.bytes == weakEtagValue current) = true ↔
      Names etag tag := by
  unfold Names
  cases etag with
  | none => simp
  | some bytes =>
    rw [Option.bind_some, Option.any_eq_true]
    constructor
    · rintro ⟨current, hr, heq⟩
      obtain ⟨rfl, -⟩ := toStr_eq_some.mp hr
      obtain ⟨other, rfl, hweak⟩ := weakEtagValue_eq_iff.mp (beq_iff_eq.mp heq)
      exact ⟨other, rfl, hweak⟩
    · rintro ⟨other, hbytes, hweak⟩
      obtain rfl := Option.some.inj hbytes
      exact ⟨other.bytes, toStr_eq_some.mpr ⟨rfl, visible_bytes⟩,
        beq_iff_eq.mpr (weakEtagValue_eq_iff.mpr ⟨other, rfl, hweak⟩)⟩

theorem or_any_weakEtagValue {matched : Bool} (h : some candidate = some tag.bytes) :
    (matched || (etag.bind toStr).any fun current =>
      weakEtagValue candidate == weakEtagValue current) = true ↔
        matched = true ∨ Names etag tag := by
  rw [Bool.or_eq_true, Option.some.inj h, any_weakEtagValue]

theorem matchesFrom_spec (etag : Option (List UInt8)) (offset : Nat) (matched : Bool) :
    ∃ result, matchesFrom value (etag.bind toStr) offset matched = some result ∧
      (result = true ↔ ∃ tags, EntityTagList (value.drop offset) tags ∧
        (matched = true ∨ ∃ tag ∈ tags, Names etag tag)) := by
  fun_induction matchesFrom value (etag.bind toStr) offset matched with
  | case1 offset matched start hend =>
    refine ⟨false, rfl, fun h => (Bool.false_ne_true h).elim, ?_⟩
    rintro ⟨tags, list, -⟩
    obtain ⟨tag, stop, hr, -⟩ := entityTagList_drop.mp list
    cases hend.symm.trans hr
  | case2 offset matched start stop hend hslice =>
    obtain ⟨tag, hr, rfl⟩ := entityTagEnd_eq_some.mp hend
    cases hslice.symm.trans (slice_bytes hr)
  | case3 offset matched start stop hend candidate hslice matched' next hn =>
    obtain ⟨read, hr, rfl⟩ := entityTagEnd_eq_some.mp hend
    refine ⟨matched', rfl, ?_, ?_⟩
    · intro h
      have hbytes := slice_bytes hr
      refine ⟨[read], entityTagList_drop.mpr ⟨read, _, hend, hbytes, .inl ⟨hn, rfl⟩⟩, ?_⟩
      rw [or_any_weakEtagValue (hslice.symm.trans hbytes)] at h
      exact h.imp_right fun hnames => ⟨read, mem_singleton_self read, hnames⟩
    · rintro ⟨tags, list, h⟩
      obtain ⟨tag, stop, hstop, hbytes, hrest⟩ := entityTagList_drop.mp list
      obtain rfl := Option.some.inj (hend.symm.trans hstop)
      rcases hrest with ⟨-, rfl⟩ | ⟨hcomma, -⟩
      · refine (or_any_weakEtagValue (hslice.symm.trans hbytes)).mpr (h.imp_right ?_)
        rintro ⟨other, hm, hnames⟩
        exact mem_singleton.mp hm ▸ hnames
      · cases hcomma.symm.trans (List.getElem?_eq_none hn.ge)
  | case4 offset matched start stop hend candidate hslice matched' next hn hcomma ih =>
    obtain ⟨read, hr, rfl⟩ := entityTagEnd_eq_some.mp hend
    obtain ⟨result, hres, hiff⟩ := ih
    refine ⟨result, hres, hiff.trans ⟨?_, ?_⟩⟩
    · rintro ⟨others, list, h⟩
      have hbytes := slice_bytes hr
      refine ⟨read :: others,
        entityTagList_drop.mpr ⟨read, _, hend, hbytes, .inr ⟨hcomma, others, list, rfl⟩⟩, ?_⟩
      rw [or_any_weakEtagValue (hslice.symm.trans hbytes), or_assoc] at h
      exact h.imp_right (exists_mem_cons_iff _ _ _).mpr
    · rintro ⟨tags, list, h⟩
      obtain ⟨tag, stop, hstop, hbytes, hrest⟩ := entityTagList_drop.mp list
      obtain rfl := Option.some.inj (hend.symm.trans hstop)
      rcases hrest with ⟨hl, -⟩ | ⟨-, others, hos, rfl⟩
      · exact absurd hl hn
      · refine ⟨others, hos, ?_⟩
        rw [or_any_weakEtagValue (hslice.symm.trans hbytes), or_assoc]
        exact h.imp_right (exists_mem_cons_iff _ _ _).mp
  | case5 offset matched start stop hend candidate hslice next hn hcomma =>
    refine ⟨false, rfl, fun h => (Bool.false_ne_true h).elim, ?_⟩
    rintro ⟨tags, list, -⟩
    obtain ⟨tag, stop, hstop, -, hrest⟩ := entityTagList_drop.mp list
    obtain rfl := Option.some.inj (hend.symm.trans hstop)
    rcases hrest with ⟨hl, -⟩ | ⟨hf, -⟩
    · exact absurd hl hn
    · exact absurd hf hcomma

theorem isStar_iff : IsStar value ↔ ∃ trail,
    value.dropWhile isOptionalWhitespace = 0x2a :: trail ∧
      trail.dropWhile isOptionalWhitespace = [] := by
  constructor
  · rintro ⟨lead, trail, before, after, rfl⟩
    exact ⟨trail, dropWhile_blank before, dropWhile_eq_nil_iff.mpr after⟩
  · rintro ⟨trail, hvalue, htrail⟩
    refine ⟨value.takeWhile isOptionalWhitespace, trail,
      fun byte hm => mem_takeWhile_imp hm, dropWhile_eq_nil_iff.mp htrail, ?_⟩
    rw [← hvalue, takeWhile_append_dropWhile]

theorem FieldMatches.visible (h : FieldMatches value etag) :
    toStr value = some value := by
  refine toStr_eq_some.mpr ⟨rfl, ?_⟩
  rcases h with ⟨lead, trail, before, after, rfl⟩ | ⟨tags, list, -⟩
  · intro byte hm
    rw [mem_append, mem_cons] at hm
    rcases hm with hm | rfl | hm
    · exact visible_blank before byte hm
    · rfl
    · exact visible_blank after byte hm
  · exact list.visible

/-- `If-None-Match` is decided, without a panic, as its grammar and the weak comparison say. -/
theorem if_none_match_iff (value : List UInt8) (etag : Option (List UInt8)) :
    ∃ result, ifNoneMatchFieldMatches value etag = some result ∧
      (result = true ↔ FieldMatches value etag) := by
  unfold ifNoneMatchFieldMatches
  split
  · rename_i hread
    refine ⟨false, rfl, fun h => (Bool.false_ne_true h).elim, fun h => ?_⟩
    cases hread.symm.trans h.visible
  · rename_i text hread
    obtain ⟨rfl, -⟩ := toStr_eq_some.mp hread
    have hdrop := @drop_skipOptionalWhitespace value 0
    rw [drop_zero] at hdrop
    dsimp only
    split
    · rename_i hstar
      rw [drop_of_getElem? hstar] at hdrop
      refine ⟨_, rfl, ?_⟩
      rw [beq_iff_eq]
      constructor
      · intro hend
        refine .inl (isStar_iff.mpr ⟨_, hdrop.symm, ?_⟩)
        rw [← drop_skipOptionalWhitespace, hend, drop_length]
      · rintro (hstars | ⟨tags, list, -⟩)
        · obtain ⟨trail, hvalue, htrail⟩ := isStar_iff.mp hstars
          obtain ⟨-, rfl⟩ := List.cons.inj (hdrop.trans hvalue)
          rw [← drop_skipOptionalWhitespace, drop_eq_nil_iff] at htrail
          exact le_antisymm
            (skipOptionalWhitespace_le (List.getElem?_eq_some_iff.mp hstar).1) htrail
        · obtain ⟨tag, rest, hvalue, -⟩ := entityTagList_iff.mp list
          obtain ⟨weak, inner, hinner⟩ := tag
          cases weak with
          | true | false => cases hdrop.trans hvalue
    · rename_i hstar
      obtain ⟨result, hresult, hiff⟩ := matchesFrom_spec etag (skipOptionalWhitespace value 0) false
      refine ⟨result, hresult, hiff.trans ?_⟩
      rw [hdrop]
      constructor
      · rintro ⟨tags, list, hnames⟩
        exact .inr ⟨tags, entityTagList_dropWhile.mp list, hnames.resolve_left Bool.false_ne_true⟩
      · rintro (hstars | ⟨tags, list, hnames⟩)
        · obtain ⟨trail, hvalue, -⟩ := isStar_iff.mp hstars
          exact absurd (getElem?_of_drop (hdrop.trans hvalue)).1 hstar
        · exact ⟨tags, entityTagList_dropWhile.mpr list, .inr hnames⟩

end

end NetPlayer.Media
