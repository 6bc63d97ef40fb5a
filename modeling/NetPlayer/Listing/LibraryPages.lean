import NetPlayer.Outputs.Checks
import Mathlib.Data.List.ReduceOption

/-!
# Pages of the library

One page token counts through the completed HLS items and then through the local ones. The local
library counts its own pages from zero; a page that begins among the HLS items and has room left
asks it for a negative offset, and gets nothing.
-/

namespace NetPlayer.Listing

open List Option Nat

open Hls (trim)

def i32Max : Int := 2 ^ 31 - 1
def i64Max : Int := 2 ^ 63 - 1

structure LibraryItemPage (Item : Type) where
  items : List Item
  nextPageOffset : Option Int
  deriving DecidableEq

def LibraryItemPage.empty {Item : Type} : LibraryItemPage Item := ⟨[], none⟩

def checkedAdd (first second : Int) : Option Int :=
  if first + second ≤ i64Max then some (first + second) else none

/-- The loop over the candidates; one that has become no item is passed over. -/
def collectPage {Item : Type} (pageOffset : Int) (pageSize : Nat) :
    List (Option Item) → Int → List Item → LibraryItemPage Item
  | [], _, items => ⟨items, none⟩
  | none :: rest, skipped, items => collectPage pageOffset pageSize rest skipped items
  | some item :: rest, skipped, items =>
    if skipped < pageOffset then collectPage pageOffset pageSize rest (skipped + 1) items
    else if items.length < pageSize then
      collectPage pageOffset pageSize rest skipped (items ++ [item])
    else ⟨items, checkedAdd pageOffset pageSize⟩

/-- What a request finds: the completed HLS items that match, and what each candidate of the
local scan becomes, in their orders. A vector of items is short of the largest `i64` by far. -/
structure Library (Item : Type) where
  hlsItems : List Item
  rootAvailable : Bool
  candidates : List (Option Item)
  hlsBound : 2 * (hlsItems.length : Int) ≤ i64Max

structure ListLibraryItemsResponse (Item : Type) where
  items : List Item
  nextPageToken : String

/-- `str::parse::<i64>`. -/
def parseI64 (text : List Char) : Option Int :=
  let magnitude (digits : List Char) : Option Int :=
    if digits ≠ [] ∧ digits.all Char.isDigit then some (Nat.ofDigitChars 10 digits 0 : Nat) else none
  match text with
  | '-' :: digits => (magnitude digits).filter (· ≤ i64Max + 1) |>.map (- ·)
  | '+' :: digits => (magnitude digits).filter (· ≤ i64Max)
  | digits => (magnitude digits).filter (· ≤ i64Max)

def decodePageToken (pageToken : String) : Int :=
  ((parseI64 (trim pageToken).toList).filter (0 < ·)).getD 0

def effectivePageSize (requested : Int) : Nat :=
  if requested ≤ 0 then 50 else (min requested 200).toNat

namespace Library

variable {Item : Type}

def listItemsPage (library : Library Item) (pageOffset : Int) (pageSize : Nat) :
    LibraryItemPage Item :=
  if pageOffset < 0 ∨ pageSize = 0 ∨ i32Max < pageOffset ∨ library.rootAvailable = false then .empty
  else collectPage pageOffset pageSize library.candidates 0 []

def listLibraryItems (library : Library Item) (pageToken : String) (requested : Int) :
    ListLibraryItemsResponse Item :=
  let pageSize := effectivePageSize requested
  let pageOffset := decodePageToken pageToken
  let hlsCount : Int := library.hlsItems.length
  let items := if pageOffset < hlsCount then
    (library.hlsItems.drop pageOffset.toNat).take pageSize else []
  let remaining := pageSize - items.length
  let localOffset := pageOffset - hlsCount
  let localPage :=
    if 0 < remaining then some (library.listItemsPage localOffset remaining) else none
  let probed := decide (¬ 0 < remaining) && decide (pageOffset < hlsCount) &&
    (checkedAdd pageOffset pageSize).any (fun offset => decide (hlsCount ≤ offset)) &&
      !(library.listItemsPage 0 1).items.isEmpty
  let items := items ++ (localPage.map (·.items)).getD []
  let nextPageToken :=
    if pageOffset + items.length < hlsCount then
      ((checkedAdd pageOffset pageSize).map toString).getD ""
    else (((localPage.bind (·.nextPageOffset)).map fun offset => toString (offset + hlsCount)).or
      (if probed then some (toString hlsCount) else none)).getD ""
  ⟨items, nextPageToken⟩

def localItems (library : Library Item) : List Item :=
  if library.rootAvailable then library.candidates.reduceOption else []

def allItems (library : Library Item) : List Item := library.hlsItems ++ library.localItems

def response (library : Library Item) (sizes : Nat → Int) : Nat → ListLibraryItemsResponse Item
  | 0 => library.listLibraryItems "" (sizes 0)
  | n + 1 => library.listLibraryItems (library.response sizes n).nextPageToken (sizes (n + 1))

def PagesComplete (library : Library Item) (sizes : Nat → Int) : Prop :=
  ∃ last, (∀ j < last, (library.response sizes j).nextPageToken ≠ "") ∧
    (library.response sizes last).nextPageToken = "" ∧
      (List.range (last + 1)).flatMap (fun j => (library.response sizes j).items) =
        library.allItems

/-- How many items the first `n` pages have room for. -/
def filled (sizes : Nat → Int) : Nat → Nat
  | 0 => 0
  | n + 1 => filled sizes n + effectivePageSize (sizes n)

theorem collectPage_spec {pageOffset : Int} {pageSize : Nat} (candidates : List (Option Item))
    (skipped : Int) (items : List Item) (hskipped : skipped ≤ pageOffset)
    (hitems : skipped < pageOffset → items = []) (hsize : items.length ≤ pageSize) :
    collectPage pageOffset pageSize candidates skipped items =
      let rest := candidates.reduceOption.drop (pageOffset - skipped).toNat
      ⟨items ++ rest.take (pageSize - items.length),
        if pageSize - items.length < rest.length then checkedAdd pageOffset pageSize else none⟩ := by
  induction candidates generalizing skipped items with
  | nil => simp [collectPage, reduceOption_nil]
  | cons candidate rest ih =>
    cases candidate with
    | none => exact ih skipped items hskipped hitems hsize
    | some item =>
      unfold collectPage
      rw [reduceOption_cons_of_some]
      by_cases hskip : skipped < pageOffset
      · rw [if_pos hskip, ih (skipped + 1) items (by omega) (fun _ => hitems hskip) hsize]
        have hnat : (pageOffset - skipped).toNat = (pageOffset - (skipped + 1)).toNat + 1 := by
          omega
        rw [hnat, drop_succ_cons]
      · have hzero : (pageOffset - skipped).toNat = 0 := by omega
        rw [if_neg hskip, hzero, drop_zero]
        by_cases hroom : items.length < pageSize
        · rw [if_pos hroom, ih skipped (items ++ [item]) hskipped (fun h => absurd h hskip)
            (by rw [length_append, length_singleton]; omega), hzero]
          have hleft : pageSize - items.length = pageSize - (items ++ [item]).length + 1 := by
            simp only [length_append, length_singleton]
            omega
          simp [hleft]
        · have hfull : pageSize - items.length = 0 := by omega
          simp [hroom, hfull]

variable {library : Library Item} {sizes : Nat → Int} {n offset size : Nat}

theorem listItemsPage_eq (hsize : 0 < size) (hoff : (offset : Int) ≤ i32Max) (hbd : size ≤ 200) :
    library.listItemsPage offset size = ⟨(library.localItems.drop offset).take size,
      if offset + size < library.localItems.length then some (offset + size : Int) else none⟩ := by
  unfold listItemsPage localItems
  have hcheck : checkedAdd offset size = some (offset + size : Int) := by
    unfold checkedAdd i64Max
    unfold i32Max at hoff
    rw [if_pos (by omega)]
  cases hroot : library.rootAvailable with
  | false => simp [LibraryItemPage.empty]
  | true =>
    rw [if_neg (by simp; omega), collectPage_spec _ _ _ (by omega) (fun _ => rfl) (by simp), hcheck]
    simp only [nil_append, Int.sub_zero, Int.toNat_natCast, length_nil, Nat.sub_zero,
      length_drop, if_true, LibraryItemPage.mk.injEq, true_and]
    split <;> split <;> first | rfl | omega

theorem listItemsPage_beyond (h : i32Max < (offset : Int)) :
    library.listItemsPage offset size = .empty := by
  unfold listItemsPage
  rw [if_pos (by omega)]

theorem listItemsPage_negative {pageOffset : Int} (h : pageOffset < 0) :
    library.listItemsPage pageOffset size = .empty := by
  unfold listItemsPage
  rw [if_pos (.inl h)]

theorem decodePageToken_empty : decodePageToken "" = 0 := by decide

theorem decodePageToken_toString (hpos : 0 < n) (hbd : (n : Int) ≤ i64Max) :
    decodePageToken (toString (n : Int)) = n := by
  have hdigits : (toString (n : Int)).toList = Nat.toDigits 10 n := by
    show (toString n).toList = _
    rw [toString_eq_ofList_toDigits, String.toList_ofList]
  have hall : (Nat.toDigits 10 n).all Char.isDigit := by
    rw [List.all_eq_true]
    exact fun c hc => isDigit_of_mem_toDigits (by omega) (by omega) hc
  have hne : Nat.toDigits 10 n ≠ [] := by
    intro hnil
    have hzero := @Nat.ofDigitChars_toDigits 10 n (by omega) (by omega)
    rw [hnil] at hzero
    simp at hzero
    omega
  have htrim : trim (toString (n : Int)) = toString (n : Int) := by
    apply Outputs.trim_of_isIdChar
    rw [hdigits, List.all_eq_true]
    intro c hc
    have := List.all_eq_true.mp hall c hc
    simp [Outputs.isIdChar, Char.isAlphanum, this]
  have hparse : parseI64 (Nat.toDigits 10 n) = some (n : Int) := by
    have hvalue := @Nat.ofDigitChars_toDigits 10 n (by omega) (by omega)
    unfold parseI64
    split
    · rename_i digits heq
      rw [heq] at hall
      simp at hall
    · rename_i digits heq
      rw [heq] at hall
      simp at hall
    · simpa [hne, hvalue, hbd] using List.all_eq_true.mp hall
  unfold decodePageToken
  rw [htrim, hdigits, hparse]
  simp [Option.filter, hpos]

theorem effectivePageSize_pos (requested : Int) : 0 < effectivePageSize requested := by
  unfold effectivePageSize
  split <;> omega

theorem effectivePageSize_le (requested : Int) : effectivePageSize requested ≤ 200 := by
  unfold effectivePageSize
  split <;> omega

variable {pageToken : String} {requested : Int}

section

variable (htoken : decodePageToken pageToken = (offset : Int))
include htoken

theorem page_hls
    (hbegin : offset < library.hlsItems.length)
    (hend : offset + effectivePageSize requested ≤ library.hlsItems.length) :
    library.listLibraryItems pageToken requested =
      ⟨(library.hlsItems.drop offset).take (effectivePageSize requested),
        if offset + effectivePageSize requested < library.allItems.length then
          toString ((offset + effectivePageSize requested : Nat) : Int) else ""⟩ := by
  have hpos := effectivePageSize_pos requested
  have hbd := library.hlsBound
  generalize hsize : effectivePageSize requested = size at *
  have hlen : ((library.hlsItems.drop offset).take size).length = size := by
    rw [length_take, length_drop]
    omega
  have hcheck : checkedAdd offset size = some ((offset + size : Nat) : Int) := by
    unfold checkedAdd
    rw [if_pos (by omega)]
    rfl
  have hprobe : (library.listItemsPage 0 1).items = library.localItems.take 1 := by
    have hpage := @listItemsPage_eq Item library 0 1 (by omega) (by decide) (by omega)
    rw [drop_zero] at hpage
    exact congrArg (·.items) hpage
  have hfst : (offset : Int) < library.hlsItems.length := by omega
  unfold listLibraryItems
  simp only [htoken, hsize, hfst, if_true, Int.toNat_natCast, hlen, Nat.sub_self,
    lt_irrefl, if_false, map_none, getD_none, append_nil, hcheck, hprobe,
    not_false_eq_true, decide_true, Bool.true_and, any_some, bind_none,
    none_or, map_some, getD_some]
  unfold allItems
  rw [length_append]
  by_cases hmore : offset + size < library.hlsItems.length
  · have hfurther : (offset : Int) + size < library.hlsItems.length := by omega
    rw [if_pos hfurther, if_pos (Nat.lt_add_right _ hmore)]
  have hexact : library.hlsItems.length = offset + size := by omega
  rw [hexact, if_neg (by omega : ¬ (offset : Int) + size < ((offset + size : Nat) : Int))]
  cases library.localItems with
  | nil | cons item rest => simp

theorem page_straddling
    (hbegin : offset < library.hlsItems.length)
    (hend : library.hlsItems.length < offset + effectivePageSize requested) :
    library.listLibraryItems pageToken requested = ⟨library.hlsItems.drop offset, ""⟩ := by
  generalize hsize : effectivePageSize requested = size at *
  have hall : (library.hlsItems.drop offset).take size = library.hlsItems.drop offset := by
    apply take_of_length_le
    rw [length_drop]
    omega
  have hroom : 0 < size - (library.hlsItems.length - offset) := by omega
  have hfst : (offset : Int) < library.hlsItems.length := by omega
  unfold listLibraryItems
  simp only [htoken, hsize, hfst, if_true, Int.toNat_natCast, hall, length_drop, hroom,
    listItemsPage_negative (Int.sub_neg_of_lt hfst),
    LibraryItemPage.empty, map_some, getD_some, append_nil, not_true_eq_false,
    decide_false, Bool.false_and, bind_some, map_none, none_or, if_false,
    Bool.false_eq_true, getD_none]
  rw [if_neg (by omega)]

theorem page_local
    (hbegin : library.hlsItems.length ≤ offset) :
    library.listLibraryItems pageToken requested =
      if i32Max < ((offset - library.hlsItems.length : Nat) : Int) then ⟨[], ""⟩
      else ⟨(library.allItems.drop offset).take (effectivePageSize requested),
        if offset + effectivePageSize requested < library.allItems.length then
          toString ((offset + effectivePageSize requested : Nat) : Int) else ""⟩ := by
  have hpos := effectivePageSize_pos requested
  have hle := effectivePageSize_le requested
  generalize hsize : effectivePageSize requested = size at *
  have hnot : ¬ (offset : Int) < library.hlsItems.length := by omega
  have hsub : (offset : Int) - library.hlsItems.length =
      ((offset - library.hlsItems.length : Nat) : Int) := by omega
  unfold listLibraryItems
  simp only [htoken, hsize, hnot, if_false, length_nil, Nat.sub_zero, hpos, if_true, hsub,
    not_true_eq_false, decide_false, Bool.false_and, Bool.false_eq_true, nil_append,
    map_some, getD_some, bind_some]
  rw [if_neg (by omega)]
  split
  · rename_i hbeyond
    rw [listItemsPage_beyond hbeyond]
    rfl
  · rename_i hin
    rw [listItemsPage_eq hpos (not_lt.mp hin) hle]
    have hdrop : library.allItems.drop offset =
        library.localItems.drop (offset - library.hlsItems.length) := by
      unfold allItems
      rw [drop_append, drop_of_length_le hbegin, nil_append]
    rw [hdrop]
    unfold allItems
    rw [length_append]
    by_cases hmore : offset + size < library.hlsItems.length + library.localItems.length
    · rw [if_pos (by omega), if_pos hmore]
      simp only [map_some, some_or, getD_some]
      congr 2
      omega
    · rw [if_neg (by omega), if_neg hmore]
      rfl

end

def Serves (library : Library Item) (sizes : Nat → Int) (j : Nat) : Prop :=
  (filled sizes j < library.hlsItems.length →
    filled sizes (j + 1) ≤ library.hlsItems.length ∨ library.localItems = []) ∧
  (filled sizes j : Int) ≤ library.hlsItems.length + i32Max

/-- The token that request `n` sends. -/
def requestToken (library : Library Item) (sizes : Nat → Int) : Nat → String
  | 0 => ""
  | n + 1 => (library.response sizes n).nextPageToken

theorem response_eq (n : Nat) : library.response sizes n =
    library.listLibraryItems (library.requestToken sizes n) (sizes n) := by
  cases n <;> rfl

theorem length_allItems :
    library.allItems.length = library.hlsItems.length + library.localItems.length :=
  length_append

theorem page_served (htoken : decodePageToken pageToken = (filled sizes n : Int))
    (hserves : library.Serves sizes n) :
    library.listLibraryItems pageToken (sizes n) =
      ⟨(library.allItems.drop (filled sizes n)).take (effectivePageSize (sizes n)),
        if filled sizes (n + 1) < library.allItems.length then
          toString ((filled sizes (n + 1) : Nat) : Int) else ""⟩ := by
  obtain ⟨hwithin, hreach⟩ := hserves
  have hnext : filled sizes (n + 1) = filled sizes n + effectivePageSize (sizes n) := rfl
  rw [hnext] at hwithin ⊢
  by_cases hbegin : filled sizes n < library.hlsItems.length
  · by_cases hend : filled sizes n + effectivePageSize (sizes n) ≤ library.hlsItems.length
    · rw [page_hls htoken hbegin hend]
      unfold allItems
      rw [drop_append_of_le_length hbegin.le, take_append_of_le_length]
      rw [length_drop]
      omega
    · have hn : library.localItems = [] := (hwithin hbegin).resolve_left hend
      have hlen := @length_allItems Item library
      rw [hn, length_nil, Nat.add_zero] at hlen
      rw [page_straddling htoken hbegin (not_le.mp hend), if_neg (by omega), take_of_length_le]
      · rw [allItems, hn, append_nil]
      · rw [length_drop]
        omega
  · rw [page_local htoken (not_lt.mp hbegin), if_neg (by omega)]

theorem filled_mono {first second : Nat} (h : first ≤ second) :
    filled sizes first ≤ filled sizes second := by
  induction h with
  | refl => exact le_rfl
  | step _ ih => exact le_add_right_of_le ih

theorem le_filled (n : Nat) : n ≤ filled sizes n := by
  induction n with
  | zero => exact Nat.zero_le _
  | succ n ih =>
    have hpos := effectivePageSize_pos (sizes n)
    show n + 1 ≤ filled sizes n + _
    omega

theorem reached (h : ∀ j < n, library.Serves sizes j ∧
      filled sizes (j + 1) < library.allItems.length) :
    decodePageToken (library.requestToken sizes n) = (filled sizes n : Int) ∧
      (∀ j < n, (library.response sizes j).nextPageToken ≠ "") ∧
      (List.range n).flatMap (fun j => (library.response sizes j).items) =
        library.allItems.take (filled sizes n) := by
  induction n with
  | zero => exact ⟨decodePageToken_empty, fun j hj => absurd hj (Nat.not_lt_zero j), rfl⟩
  | succ n ih =>
    obtain ⟨htoken, htokens, hitems⟩ := ih fun j hj => h j (Nat.lt_succ_of_lt hj)
    obtain ⟨hserves, hmore⟩ := h n (Nat.lt_succ_self n)
    have hpage := (response_eq n).trans (page_served htoken hserves)
    rw [if_pos hmore] at hpage
    have hdecode : decodePageToken (library.response sizes n).nextPageToken =
        (filled sizes (n + 1) : Int) := by
      rw [hpage]
      apply decodePageToken_toString
      · exact lt_of_lt_of_le (Nat.succ_pos n) (le_filled (n + 1))
      · have hreach := hserves.2
        have hbd := library.hlsBound
        have hle := effectivePageSize_le (sizes n)
        show ((filled sizes n + effectivePageSize (sizes n) : Nat) : Int) ≤ i64Max
        unfold i32Max at hreach
        unfold i64Max at hbd ⊢
        omega
    refine ⟨hdecode, ?_, ?_⟩
    · intro j hj
      rcases Nat.lt_succ_iff_lt_or_eq.mp hj with hj | rfl
      · exact htokens j hj
      intro he
      rw [he, decodePageToken_empty] at hdecode
      have hpos := @le_filled sizes (j + 1)
      omega
    · rw [range_succ, flatMap_append, hitems, flatMap_singleton, hpage]
      exact (take_add).symm

end Library

open Library

/-- Following the page tokens lists the HLS items and then the local ones, each once and in
order, and ends: exactly if no page that begins before the last item reaches from the HLS items
into local ones, or begins where the local library does not count. -/
theorem library_pages_complete_iff {Item : Type} (library : Library Item) (sizes : Nat → Int) :
    library.PagesComplete sizes ↔
      ∀ j, filled sizes j < library.allItems.length → library.Serves sizes j := by
  have hlength := @length_allItems Item library
  constructor
  · rintro ⟨last, hgoing, hend, hall⟩
    by_contra hbad
    simp only [not_forall] at hbad
    -- The first page that is not served in full is the last one.
    classical
    obtain ⟨hinside, hunserved⟩ := Nat.find_spec hbad
    have hbefore : ∀ j < Nat.find hbad, library.Serves sizes j ∧
        filled sizes (j + 1) < library.allItems.length := by
      intro j hj
      have hnext := @filled_mono sizes (j + 1) _ hj
      have hthis := @filled_mono sizes _ _ (le_of_lt hj)
      refine ⟨?_, by omega⟩
      have hserved := Nat.find_min hbad hj
      simp only [not_exists, not_not] at hserved
      exact hserved (by omega)
    generalize Nat.find hbad = n at *
    obtain ⟨htoken, htokens, hitems⟩ := reached hbefore
    have hstop : (library.response sizes n).nextPageToken = "" ∧
        filled sizes n + (library.response sizes n).items.length < library.allItems.length := by
      rw [response_eq]
      by_cases hbegin : filled sizes n < library.hlsItems.length
      · by_cases hwithin : filled sizes (n + 1) ≤ library.hlsItems.length ∨ library.localItems = []
        · exact absurd ⟨fun _ => hwithin, by unfold i32Max; omega⟩ hunserved
        obtain ⟨hover, hlocal⟩ := not_or.mp hwithin
        have hpositive := length_pos_of_ne_nil hlocal
        rw [page_straddling htoken hbegin (not_le.mp hover)]
        refine ⟨rfl, ?_⟩
        rw [length_drop]
        omega
      · have hbeyond : i32Max < ((filled sizes n - library.hlsItems.length : Nat) : Int) := by
          by_contra hnear
          exact hunserved ⟨fun h => absurd h hbegin, by omega⟩
        rw [page_local htoken (not_lt.mp hbegin), if_pos hbeyond]
        exact ⟨rfl, hinside⟩
    have hlast : last = n := by
      rcases Nat.lt_trichotomy last n with hless | heq | hmore
      · exact absurd hend (htokens last hless)
      · exact heq
      · exact absurd hstop.1 (hgoing n hmore)
    subst hlast
    rw [range_succ, flatMap_append, hitems, flatMap_singleton] at hall
    have hsum := congrArg List.length hall
    rw [length_append, length_take] at hsum
    omega
  · intro hserves
    have hexists : ∃ n, library.allItems.length ≤ filled sizes (n + 1) :=
      ⟨library.allItems.length, (Nat.le_succ _).trans (le_filled _)⟩
    have hbefore : ∀ j < Nat.find hexists, filled sizes (j + 1) < library.allItems.length :=
      fun j hj => not_le.mp (Nat.find_min hexists hj)
    have hfull := Nat.find_spec hexists
    generalize Nat.find hexists = n at *
    have hserved : ∀ j ≤ n, library.Serves sizes j := by
      intro j hj
      by_cases hinside : filled sizes j < library.allItems.length
      · exact hserves j hinside
      cases j with
      | zero =>
        have hzero : filled sizes 0 = 0 := rfl
        exact ⟨fun h => by omega, by unfold i32Max; omega⟩
      | succ j => exact absurd (hbefore j (Nat.lt_of_succ_le hj)) hinside
    obtain ⟨htoken, htokens, hitems⟩ := @reached Item library sizes n fun j hj =>
      ⟨hserved j hj.le, hbefore j hj⟩
    have hpage := (response_eq n).trans (page_served htoken (hserved n le_rfl))
    rw [if_neg (not_lt.mpr hfull)] at hpage
    refine ⟨n, htokens, by rw [hpage], ?_⟩
    rw [range_succ, flatMap_append, hitems, flatMap_singleton, hpage]
    exact (take_add).symm.trans (take_of_length_le hfull)

/-- One HLS item and one local item: a page of the default size lists the HLS item only. -/
theorem local_items_lost :
    ¬ (⟨[1], true, [some 2], by decide⟩ : Library Nat).PagesComplete fun _ => 0 := by
  rw [library_pages_complete_iff]
  intro h
  have hserves := (h 0 (by decide)).1 (by decide)
  revert hserves
  decide

end NetPlayer.Listing
