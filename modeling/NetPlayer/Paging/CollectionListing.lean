import NetPlayer.Paging.ResolutionRuns
import NetPlayer.Resolver.Routes

/-!
# Listing a collection

The items of a collection are asked for with one more than the limit. Where there are fewer, a
binary search looks for the longest prefix that is there. The following feed and the dynamics of a
space are read page by page instead.
-/

namespace NetPlayer.Paging

open List
open BilibiliResolutionStore (ok_of_bind)
open Hls (trim)
open Resolver (BbdownError BilibiliDownloadError)
open Segments (checkedAdd checkedMul)

/-- The inputs that are read by cursors. -/
inductive DynamicInput
  | followingFeed
  | spaceDynamic (mid : Nat)

def DynamicInput.sourceKind : DynamicInput → String
  | .followingFeed => "following"
  | .spaceDynamic _ => "space_dynamic"

def DynamicInput.defaultTitle : DynamicInput → String
  | .followingFeed => "Following"
  | .spaceDynamic mid => "Space dynamic " ++ toString mid

/-- An input that is a collection, with what `collection_source_token` prints for it. -/
structure CollectionInput where
  sourceToken : String
  dynamic : Option DynamicInput

structure VideoCollectionItem where
  aid : Nat
  bvid : Option String
  cid : Nat
  index : UInt32
  title : String
  owner : Option String
  coverUrl : Option String
  durationSeconds : Option UInt32

/-- A collection with its selected items, and the name that `collection_kind_name` gives its kind. -/
structure ResolvedVideoCollection where
  kindName : String
  title : String
  selectedItems : List VideoCollectionItem

def normalizedString (value : Option String) : Option String := (value.map trim).filter (· ≠ "")

section

variable (input : CollectionInput) (sourceKind : String) (includeCandidateCoverUri : Bool)
  (item : VideoCollectionItem)

def collectionItemSelectionId : String :=
  "item:" ++ toString item.index ++ ":source:" ++ input.sourceToken ++ ":cid:" ++
    toString item.cid ++ (normalizedString item.bvid).elim "" (":bvid:" ++ ·) ++ ":aid:" ++
    toString item.aid

def collectionItemSubtitle : String :=
  (sourceKind.map fun c => if c = '_' then ' ' else c) ++ " #" ++ toString item.index ++
    (normalizedString item.owner).elim "" (" · " ++ ·)

def collectionCandidate : BilibiliResolvedCandidate where
  selectionId := collectionItemSelectionId input item
  title := item.title
  subtitle := collectionItemSubtitle sourceKind item
  sourceKind := sourceKind
  contentId := item.bvid.getD ("av" ++ toString item.aid)
  identity := ⟨.collectionItem, some item.aid, normalizedString item.bvid, some item.cid, none⟩
  index := item.index
  durationSeconds := item.durationSeconds
  coverUri := if includeCandidateCoverUri then item.coverUrl.getD "" else ""

def resolutionMaterializationOverflow : BilibiliDownloadError :=
  .resourceExhausted "Bilibili resolution snapshot byte accounting overflowed."

/-- The bytes charged so far, and `charge` more. -/
def chargeAllocation (bytes charge : Nat) : Except BilibiliDownloadError Nat :=
  match checkedAdd bytes charge with
  | none => .error resolutionMaterializationOverflow
  | some total =>
    if maxBilibiliResolutionSnapshotBytes < total then
      .error (.resourceExhausted "Bilibili resolution snapshot exceeds the server byte limit.")
    else .ok total

def chargeString (bytes : Nat) (string : String × Nat) : Except BilibiliDownloadError Nat :=
  if maxBilibiliResolutionStringBytes < string.2 then
    .error (.resourceExhausted (string.1 ++ " exceeds the resolution-session limit."))
  else chargeAllocation bytes string.2

def orOverflow (bytes : Option Nat) : Except BilibiliDownloadError Nat :=
  bytes.elim (.error resolutionMaterializationOverflow) .ok

/-- The turn of the loop over the items, with the longest decimals for the numbers. -/
def chargeItem (candidateCount bytes : Nat) : Except BilibiliDownloadError Nat := do
  let bvid := normalizedString item.bvid
  let bvidBytes := bvid.elim 0 String.utf8ByteSize
  let selectionBytes ← orOverflow (checkedSum 0 ["item:".utf8ByteSize, 10,
    ":source:".utf8ByteSize, input.sourceToken.utf8ByteSize, ":cid:".utf8ByteSize, 20,
    if bvid.isSome then ":bvid:".utf8ByteSize else 0, bvidBytes, ":aid:".utf8ByteSize, 20])
  let ownerBytes := (normalizedString item.owner).elim 0 (4 + ·.utf8ByteSize)
  let subtitleBytes ← orOverflow
    (checkedSum 0 [sourceKind.utf8ByteSize, " #".utf8ByteSize, 10, ownerBytes])
  let contentIdBytes := item.bvid.elim ("av".utf8ByteSize + 20) String.utf8ByteSize
  let coverUriBytes :=
    if includeCandidateCoverUri then item.coverUrl.elim 0 String.utf8ByteSize else 0
  ([("Bilibili candidate selection id", selectionBytes),
    ("Bilibili candidate title", item.title.utf8ByteSize),
    ("Bilibili candidate subtitle", subtitleBytes),
    ("Bilibili candidate source kind", sourceKind.utf8ByteSize),
    ("Bilibili candidate content id", contentIdBytes),
    ("Bilibili candidate bvid", bvidBytes),
    ("Bilibili candidate cover URI", coverUriBytes)] ++
    if candidateCount = 1 then [("Bilibili default candidate selection id", selectionBytes)]
    else []).foldlM chargeString bytes

end

/-- What `mem::size_of` gives. -/
structure MaterializedSizes where
  inputResolution : Nat
  candidate : Nat

section

variable (sizes : MaterializedSizes) (source : String) (input : CollectionInput)
  (resolved : ResolvedVideoCollection) (candidateLimit : Nat) (includeCandidateCoverUri : Bool)

def ensureResolutionMaterializationBudget : Except BilibiliDownloadError Nat := do
  let bytes ← chargeAllocation 0 sizes.inputResolution
  let bytes ← chargeString bytes ("Bilibili resolution source", source.utf8ByteSize)
  let sourceKind := resolved.kindName
  let candidateCount := min resolved.selectedItems.length candidateLimit
  let bytes ← chargeString bytes ("Bilibili resolution title", resolved.title.utf8ByteSize)
  let bytes ← chargeString bytes ("Bilibili resolution source kind", sourceKind.utf8ByteSize)
  let buffer ← orOverflow (checkedMul sizes.candidate candidateCount)
  let bytes ← chargeAllocation bytes buffer
  (resolved.selectedItems.take candidateLimit).foldlM
    (fun bytes item => chargeItem input sourceKind includeCandidateCoverUri item candidateCount bytes)
    bytes

def withCandidates (title sourceKind : String) (candidates : List BilibiliResolvedCandidate)
    (candidatesTruncated : Bool) : BilibiliInputResolution where
  source := source
  title := title
  sourceKind := sourceKind
  candidates := candidates
  defaultSelectionId := match candidates with
    | [candidate] => candidate.selectionId
    | _ => ""
  candidatesTruncated := candidatesTruncated

def fromResolvedContent : Except BilibiliDownloadError BilibiliInputResolution := do
  let _ ← ensureResolutionMaterializationBudget sizes source input resolved candidateLimit
    includeCandidateCoverUri
  let sourceKind := resolved.kindName
  return withCandidates source resolved.title sourceKind
    ((resolved.selectedItems.take candidateLimit).map
      (collectionCandidate input sourceKind includeCandidateCoverUri))
    (candidateLimit < resolved.selectedItems.length)

end

def decimalDigits (value : Nat) : Nat := (toString value).utf8ByteSize

def admitDynamicMetadataCandidate (sizes : MaterializedSizes) (input : CollectionInput)
    (sourceKind : String) (includeCandidateCoverUri : Bool) (item : VideoCollectionItem)
    (bytes : Nat) : Except BilibiliDownloadError Nat := do
  let bvid := normalizedString item.bvid
  let selectionIdBytes ← orOverflow (checkedSum 0 ["item:".utf8ByteSize,
    decimalDigits item.index.toNat, ":source:".utf8ByteSize, input.sourceToken.utf8ByteSize,
    ":cid:".utf8ByteSize, decimalDigits item.cid,
    if bvid.isSome then ":bvid:".utf8ByteSize else 0, bvid.elim 0 String.utf8ByteSize,
    ":aid:".utf8ByteSize, decimalDigits item.aid])
  let ownerBytes := (normalizedString item.owner).elim 0 (4 + ·.utf8ByteSize)
  let subtitleBytes ← orOverflow (checkedSum 0 [sourceKind.utf8ByteSize, " #".utf8ByteSize,
    decimalDigits item.index.toNat, ownerBytes])
  let contentIdBytes := item.bvid.elim (2 + decimalDigits item.aid) String.utf8ByteSize
  let coverUriBytes :=
    if includeCandidateCoverUri then item.coverUrl.elim 0 String.utf8ByteSize else 0
  let bytes ← chargeAllocation bytes sizes.candidate
  ([("Bilibili candidate selection ID", selectionIdBytes),
    ("Bilibili candidate title", item.title.utf8ByteSize),
    ("Bilibili candidate subtitle", subtitleBytes),
    ("Bilibili candidate source kind", sourceKind.utf8ByteSize),
    ("Bilibili candidate content ID", contentIdBytes),
    ("Bilibili candidate cover URI", coverUriBytes)] ++
    bvid.elim [] fun bvid => [("Bilibili candidate bvid", bvid.utf8ByteSize)]).foldlM
      chargeString bytes

structure MetadataPage where
  title : String
  items : List VideoCollectionItem
  nextCursor : Option String
  stopsAtEnd : Bool
  requestsUsed : Nat
  sourceItemsExamined : Nat

structure DynamicMetadataCallLimits where
  maxItems : Nat
  maxSourceItems : Nat
  maxRequests : Nat

structure DynamicMetadataBudget where
  callsUsed : Nat
  requestsUsed : Nat
  sourceItemsExamined : Nat

namespace DynamicMetadataBudget

variable (budget : DynamicMetadataBudget)

def nextLimits (candidatesSeen probeLimit : Nat) : Option DynamicMetadataCallLimits :=
  let maxItems := min (probeLimit - candidatesSeen) 64
  let maxSourceItems := min (512 - budget.sourceItemsExamined) 64
  let maxRequests := min (128 - budget.requestsUsed) 32
  if 8 ≤ budget.callsUsed ∨ maxItems = 0 ∨ maxSourceItems = 0 ∨ maxRequests = 0 then none
  else some ⟨maxItems, maxSourceItems, maxRequests⟩

def record (page : MetadataPage) (limits : DynamicMetadataCallLimits) :
    Except BilibiliDownloadError DynamicMetadataBudget := do
  if limits.maxRequests < page.requestsUsed ∨ limits.maxSourceItems < page.sourceItemsExamined ∨
      limits.maxItems < page.items.length then
    throw (.failed "BBDown metadata page exceeded its admitted per-call budget.")
  let callsUsed ← orOverflow (checkedAdd budget.callsUsed 1)
  let requestsUsed ← orOverflow (checkedAdd budget.requestsUsed page.requestsUsed)
  let sourceItemsExamined ←
    orOverflow (checkedAdd budget.sourceItemsExamined page.sourceItemsExamined)
  if 8 < callsUsed ∨ 128 < requestsUsed ∨ 512 < sourceItemsExamined then
    throw (.failed "BBDown metadata page exceeded its admitted operation budget.")
  return ⟨callsUsed, requestsUsed, sourceItemsExamined⟩

end DynamicMetadataBudget

/-- The variables of the loop over the pages. -/
structure DynamicWindow where
  budget : DynamicMetadataBudget
  bytes : Nat
  seenItems : List (Nat × Nat)
  candidates : List BilibiliResolvedCandidate
  title : Option String
  truncated : Bool

def DynamicWindow.addItems (sizes : MaterializedSizes) (input : CollectionInput)
    (sourceKind : String) (candidateLimit : Nat) (includeCandidateCoverUri : Bool) :
    List VideoCollectionItem → DynamicWindow → Except BilibiliDownloadError DynamicWindow
  | [], w => .ok w
  | item :: rest, w =>
    if (item.aid, item.cid) ∈ w.seenItems then
      addItems sizes input sourceKind candidateLimit includeCandidateCoverUri rest w
    else if w.candidates.length = candidateLimit then
      .ok { w with seenItems := (item.aid, item.cid) :: w.seenItems, truncated := true }
    else do
      let bytes ← admitDynamicMetadataCandidate sizes input sourceKind includeCandidateCoverUri
        item w.bytes
      let w := { w with
        bytes := bytes
        seenItems := (item.aid, item.cid) :: w.seenItems
        candidates :=
          w.candidates ++ [collectionCandidate input sourceKind includeCandidateCoverUri item] }
      if w.candidates.length = candidateLimit + 1 then return w
      else addItems sizes input sourceKind candidateLimit includeCandidateCoverUri rest w

def shouldRetryBoundedResolve : BbdownError → Bool
  | .missingField field =>
    field ∈ ["selected page", "selected episode", "selected collection item"]
  | _ => false

structure BoundedPrefixSearch where
  nextLow : Nat
  nextHigh : Nat
  bestSuccess : Option Nat

namespace BoundedPrefixSearch

variable (search : BoundedPrefixSearch) (limit : Nat)

def afterFailedLimit (failedLimit : Nat) : BoundedPrefixSearch := ⟨1, failedLimit - 1, none⟩

def nextLimit : Option Nat :=
  if search.nextHigh < search.nextLow then none
  else some (search.nextLow + (search.nextHigh - search.nextLow + 1) / 2)

def recordSuccess : BoundedPrefixSearch :=
  { search with bestSuccess := some limit, nextLow := min (limit + 1) (2 ^ 32 - 1) }

def recordMissing : BoundedPrefixSearch := { search with nextHigh := limit - 1 }

end BoundedPrefixSearch

/-- The core with the source of a request. `input` is what the source reads as, once the options
and the configuration are accepted too; `resolve` answers a selection of the first items, and an
outer error of it is a cancellation, of `fetchPage` a cancellation or the deadline. Both are
looked for before every call too, in `interrupted`. -/
structure Core where
  input : Except BilibiliDownloadError CollectionInput
  resolve : CollectionInput → Nat → Except BilibiliDownloadError
    (Except BbdownError ResolvedVideoCollection)
  interrupted : Nat → Option BilibiliDownloadError
  fetchPage : Option String → DynamicMetadataCallLimits → Except BilibiliDownloadError
    (Except BbdownError MetadataPage)
  display : BbdownError → String

namespace Core

variable (core : Core)

def failed (error : BbdownError) : BilibiliDownloadError :=
  .failed ("BBDown adapter failed: " ++ core.display error)

variable (input : CollectionInput)

/-- The loop of `retry_resolve_with_largest_bounded_prefix`, with the limits that are asked for.
It has no result when the fuel is out. -/
def retryResolve : Nat → BoundedPrefixSearch → BbdownError → Option ResolvedVideoCollection →
    List Nat → Option (List Nat × Except BilibiliDownloadError ResolvedVideoCollection)
  | 0, _, _, _, _ => none
  | fuel + 1, search, lastError, bestResolved, asked =>
    match search.nextLimit with
    | none => some (asked, bestResolved.elim (.error (core.failed lastError)) .ok)
    | some limit =>
      match core.resolve input limit with
      | .error error => some (asked ++ [limit], .error error)
      | .ok (.ok resolved) =>
        retryResolve fuel (search.recordSuccess limit) lastError (some resolved) (asked ++ [limit])
      | .ok (.error error) =>
        if shouldRetryBoundedResolve error then
          retryResolve fuel (search.recordMissing limit) error bestResolved (asked ++ [limit])
        else some (asked ++ [limit], .error (core.failed error))

def resolveWindow (fuel candidateLimit : Nat) :
    Option (List Nat × Except BilibiliDownloadError ResolvedVideoCollection) :=
  let probeLimit := candidateLimit + 1
  match core.resolve input probeLimit with
  | .error error => some ([probeLimit], .error error)
  | .ok (.ok resolved) => some ([probeLimit], .ok resolved)
  | .ok (.error error) =>
    if shouldRetryBoundedResolve error then
      core.retryResolve input fuel (.afterFailedLimit probeLimit) error none [probeLimit]
    else some ([probeLimit], .error (core.failed error))

/-- The loop of `resolve_dynamic_metadata_window`. The budget leaves it after eight calls. -/
def readPages (sizes : MaterializedSizes) (sourceKind : String) (candidateLimit : Nat)
    (includeCandidateCoverUri : Bool) :
    Nat → Option String → DynamicWindow → Except BilibiliDownloadError DynamicWindow
  | 0, _, w => .ok { w with truncated := true }
  | calls + 1, cursor, w =>
    match core.interrupted w.budget.callsUsed,
      w.budget.nextLimits w.candidates.length (candidateLimit + 1) with
    | some error, _ => .error error
    | none, none => .ok { w with truncated := true }
    | none, some limits => do
      let page ← (← core.fetchPage cursor limits).mapError core.failed
      let budget ← w.budget.record page limits
      let bytes ← if w.title.isNone then
          chargeString w.bytes ("Bilibili resolution title", page.title.utf8ByteSize)
        else pure w.bytes
      let w ← DynamicWindow.addItems sizes input sourceKind candidateLimit includeCandidateCoverUri
        page.items { w with budget, bytes, title := some (w.title.getD page.title) }
      let progress := page.requestsUsed ≠ 0 ∨ page.sourceItemsExamined ≠ 0 ∨ page.items ≠ []
      if candidateLimit + 1 ≤ w.candidates.length then return { w with truncated := true }
      else if page.nextCursor.isNone ∨ ¬ progress then
        return { w with
          truncated := w.truncated || page.nextCursor.isSome || !page.stopsAtEnd }
      else if w.truncated then return w
      else
        readPages sizes sourceKind candidateLimit includeCandidateCoverUri calls page.nextCursor w

def resolveDynamicMetadataWindow (sizes : MaterializedSizes) (source : String)
    (dynamic : DynamicInput) (candidateLimit : Nat) (includeCandidateCoverUri : Bool) :
    Except BilibiliDownloadError BilibiliInputResolution := do
  let sourceKind := dynamic.sourceKind
  let bytes ← chargeAllocation 0 sizes.inputResolution
  let bytes ← chargeString bytes ("Bilibili resolution source", source.utf8ByteSize)
  let bytes ← chargeString bytes ("Bilibili resolution source kind", sourceKind.utf8ByteSize)
  let w ← core.readPages input sizes sourceKind candidateLimit includeCandidateCoverUri 9 none
    ⟨⟨0, 0, 0⟩, bytes, [], [], none, false⟩
  let title := w.title.getD dynamic.defaultTitle
  let bytes ← if title = "" then chargeString w.bytes ("Bilibili resolution title", 0)
    else pure w.bytes
  let label := "Bilibili default candidate selection ID"
  let _ ← match w.candidates with
    | [candidate] => chargeString bytes (label, candidate.selectionId.utf8ByteSize)
    | _ => pure bytes
  return withCandidates source title sourceKind w.candidates w.truncated

def resolvePlaybackInput (sizes : MaterializedSizes) (source : String) (candidateLimit : Nat)
    (includeCandidateCoverUri : Bool) (fuel : Nat) :
    Option (List Nat × Except BilibiliDownloadError BilibiliInputResolution) :=
  if candidateLimit = 0 ∨ maxBilibiliResolutionCandidates < candidateLimit then
    some ([], .error (.failed ("Bilibili resolve candidate limit must be between 1 and " ++
      toString maxBilibiliResolutionCandidates ++ "; received " ++ toString candidateLimit ++ ".")))
  else
    match core.input with
    | .error error => some ([], .error error)
    | .ok input =>
      match input.dynamic with
      | some dynamic => some ([], core.resolveDynamicMetadataWindow input sizes (trim source)
          dynamic candidateLimit includeCandidateCoverUri)
      | none => (core.resolveWindow input fuel candidateLimit).map fun (asked, resolved) =>
          (asked, resolved.bind fun resolved => fromResolvedContent sizes (trim source) input
            resolved candidateLimit includeCandidateCoverUri)

end Core

/-- The core has a collection of the items: it answers a selection of the first of them, and of
more than there are with the error of a missing item. -/
structure Lists (core : Core) (input : CollectionInput) (kindName title : String)
    (items : List VideoCollectionItem) (missing : BbdownError) : Prop where
  reads : core.input = .ok input
  listed : input.dynamic = none
  retried : shouldRetryBoundedResolve missing = true
  answers : ∀ k, 1 ≤ k → core.resolve input k = .ok (if k ≤ items.length then
    .ok ⟨kindName, title, items.take k⟩ else .error missing)

section

variable {core : Core} {input : CollectionInput} {kindName title : String}
  {items : List VideoCollectionItem} {missing : BbdownError}

def found (kindName title : String) (items : List VideoCollectionItem) (count : Nat) :
    Option ResolvedVideoCollection :=
  if count = 0 then none else some ⟨kindName, title, items.take count⟩

/-- A search between the longest prefix found and the shortest one missed asks for a new limit
every time and ends with all items. -/
theorem Lists.retryResolve (lists : Lists core input kindName title items missing) :
    ∀ size low high best asked, high + 1 - low ≤ size → 1 ≤ low → low ≤ high + 1 →
      high < 2 ^ 32 - 1 → low ≤ items.length + 1 → items.length ≤ high → asked.Nodup →
      (∀ k ∈ asked, k < low ∨ high < k) →
      ∃ asked' : List Nat, asked'.Nodup ∧ ∀ extra, core.retryResolve input (extra + size + 1)
        ⟨low, high, best⟩ missing (found kindName title items (low - 1)) asked =
          some (asked', (found kindName title items items.length).elim
            (.error (core.failed missing)) .ok) := by
  intro size
  induction size with
  | zero =>
    intro low high best asked hsize _ hle _ hf hmissed hnodup _
    refine ⟨asked, hnodup, fun extra => ?_⟩
    have hl : low - 1 = items.length := by omega
    have hdone : high < low := by omega
    simp only [Core.retryResolve, BoundedPrefixSearch.nextLimit, if_pos hdone, hl]
  | succ size ih =>
    intro low high best asked hsize hlow hle hhigh hf hmissed hnodup hasked
    by_cases hdone : high < low
    · refine ⟨asked, hnodup, fun extra => ?_⟩
      have hl : low - 1 = items.length := by omega
      simp only [Core.retryResolve, BoundedPrefixSearch.nextLimit, if_pos hdone, hl]
    obtain ⟨limit, hlimit⟩ : ∃ limit, low + (high - low + 1) / 2 = limit := ⟨_, rfl⟩
    have hbounds : ∀ k ∈ asked ++ [limit], k < low ∨ k = limit ∨ high < k := by
      intro k hk
      rcases mem_append.mp hk with hk | hk
      · exact (hasked k hk).imp_right .inr
      · exact .inr (.inl (mem_singleton.mp hk))
    have hn : (asked ++ [limit]).Nodup := by
      refine nodup_append.mpr ⟨hnodup, nodup_singleton _, ?_⟩
      rintro k hk other ho rfl
      have := hasked k hk
      have := mem_singleton.mp ho
      omega
    by_cases hthere : limit ≤ items.length
    · obtain ⟨asked', hnodup', hrun⟩ := ih (limit + 1) high (some limit) (asked ++ [limit])
        (by omega) (by omega) (by omega) hhigh (by omega) hmissed hn fun k hk => by
          have := hbounds k hk
          omega
      refine ⟨asked', hnodup', fun extra => ?_⟩
      rw [← hrun extra, Core.retryResolve]
      simp only [BoundedPrefixSearch.nextLimit, if_neg hdone, hlimit,
        lists.answers limit (by omega), if_pos hthere, BoundedPrefixSearch.recordSuccess,
        Nat.min_eq_left (show limit + 1 ≤ 2 ^ 32 - 1 by omega), found, Nat.add_sub_cancel,
        if_neg (show limit ≠ 0 by omega), Nat.add_assoc]
    · obtain ⟨asked', hnodup', hrun⟩ := ih low (limit - 1) best (asked ++ [limit])
        (by omega) hlow (by omega) (by omega) hf (by omega) hn fun k hk => by
          have := hbounds k hk
          omega
      refine ⟨asked', hnodup', fun extra => ?_⟩
      rw [← hrun extra, Core.retryResolve]
      simp only [BoundedPrefixSearch.nextLimit, if_neg hdone, hlimit,
        lists.answers limit (by omega), if_neg hthere, lists.retried, if_true,
        BoundedPrefixSearch.recordMissing, Nat.add_assoc]

theorem fromResolvedContent_take {sizes : MaterializedSizes} {source : String} {limit : Nat}
    {cover : Bool} (h : limit < items.length) :
    fromResolvedContent sizes source input ⟨kindName, title, items.take (limit + 1)⟩ limit cover =
      fromResolvedContent sizes source input ⟨kindName, title, items⟩ limit cover := by
  have htake : (items.take (limit + 1)).take limit = items.take limit := by
    rw [take_take, Nat.min_eq_left (Nat.le_succ _)]
  have hlen : (items.take (limit + 1)).length = limit + 1 := length_take_of_le h
  have hc : min (limit + 1) limit = min items.length limit := by omega
  have htruncated : decide (limit < limit + 1) = decide (limit < items.length) := by
    rw [decide_eq_true (Nat.lt_succ_self limit), decide_eq_true h]
  unfold fromResolvedContent ensureResolutionMaterializationBudget
  simp only [htake, hlen, hc, htruncated]

/-- Every limit that is admitted lists the first items, and is flagged exactly if there are more;
but a resolution that is too large is refused. -/
theorem collection_listing_complete (lists : Lists core input kindName title items missing)
    (sizes : MaterializedSizes) (source : String) {limit : Nat} (hpositive : limit ≠ 0)
    (hlimit : limit ≤ maxBilibiliResolutionCandidates) (cover : Bool) :
    ∃ asked : List Nat, asked.Nodup ∧ ∀ fuel, limit < fuel →
      core.resolvePlaybackInput sizes source limit cover fuel = some (asked,
        if items = [] then .error (core.failed missing)
        else (ensureResolutionMaterializationBudget sizes (trim source) input
          ⟨kindName, title, items⟩ limit cover).map fun _ =>
            withCandidates (trim source) title kindName
              ((items.take limit).map (collectionCandidate input kindName cover))
              (limit < items.length)) := by
  have hadmitted : ¬ (limit = 0 ∨ maxBilibiliResolutionCandidates < limit) := by omega
  simp only [Core.resolvePlaybackInput, if_neg hadmitted, lists.reads, lists.listed,
    Core.resolveWindow, lists.answers (limit + 1) (Nat.succ_pos limit)]
  by_cases hmore : limit + 1 ≤ items.length
  · have hne : items ≠ [] := length_pos_iff.mp (Nat.zero_lt_of_lt hmore)
    refine ⟨[limit + 1], nodup_singleton _, fun fuel _ => ?_⟩
    rw [if_pos hmore, if_neg hne]
    exact congrArg (fun result => some ([limit + 1], result)) (fromResolvedContent_take hmore)
  · unfold maxBilibiliResolutionCandidates at hlimit
    obtain ⟨asked, hnodup, hrun⟩ := lists.retryResolve limit 1 limit none [limit + 1] (by omega)
      le_rfl (by omega) (by omega) (by omega) (by omega) (nodup_singleton _)
      fun k hk => .inr (by
        rw [mem_singleton.mp hk]
        exact Nat.lt_succ_self limit)
    refine ⟨asked, hnodup, fun fuel hfuel => ?_⟩
    obtain ⟨extra, rfl⟩ := Nat.exists_eq_add_of_lt hfuel
    have hstart := hrun extra
    rw [Nat.add_comm extra, show found kindName title items (1 - 1) = none from rfl] at hstart
    simp only [if_neg hmore, lists.retried, if_true, BoundedPrefixSearch.afterFailedLimit,
      Nat.add_sub_cancel, hstart]
    by_cases hempty : items = []
    · rw [if_pos hempty, hempty]
      rfl
    · rw [if_neg hempty, found, if_neg (length_eq_zero_iff.not.mpr hempty),
        take_length]
      rfl

end

def history : CollectionInput := ⟨"history", none⟩

def historyCore (items : List VideoCollectionItem) : Core where
  input := .ok history
  resolve _ k := .ok (if k ≤ items.length then .ok ⟨"history", "History", items.take k⟩
    else .error (.missingField "selected collection item"))
  interrupted _ := none
  fetchPage _ _ := .ok (.error (.missingField "feed"))
  display _ := "missing field"

theorem historyCore_lists (items : List VideoCollectionItem) : Lists (historyCore items) history
    "history" "History" items (.missingField "selected collection item") :=
  ⟨rfl, rfl, by decide, fun _ _ => rfl⟩

def listedItem (aid : Nat) : VideoCollectionItem :=
  ⟨aid, none, aid, 1, "Title", none, none, none⟩

/-- The watch history of three items is listed up to `limit`, and flagged where it is cut. -/
def ListsThree (limit : Nat) : Prop :=
  ∃ asked : List Nat, asked.Nodup ∧ ∀ fuel, limit < fuel →
    (historyCore [listedItem 1, listedItem 2, listedItem 3]).resolvePlaybackInput ⟨136, 200⟩
      "history" limit false fuel = some (asked, .ok (withCandidates "history" "History" "history"
        (([listedItem 1, listedItem 2, listedItem 3].take limit).map
          (collectionCandidate history "history" false)) (limit < 3)))

/-- Three items, with a limit below and one above their number. -/
theorem collection_listing_complete_three : ListsThree 2 ∧ ListsThree 5 := by
  have hlists : ∀ limit ∈ [2, 5], ListsThree limit := by
    intro limit hlimit
    have hbudget : ∀ limit ∈ [2, 5], (ensureResolutionMaterializationBudget ⟨136, 200⟩
        (trim "history") history ⟨"history", "History", [listedItem 1, listedItem 2, listedItem 3]⟩
        limit false).toBool = true := by
      decide +kernel
    have hadmitted : limit ≠ 0 ∧ limit ≤ maxBilibiliResolutionCandidates := by
      revert limit
      decide
    obtain ⟨asked, hnodup, hlisted⟩ := collection_listing_complete
      (historyCore_lists [listedItem 1, listedItem 2, listedItem 3]) ⟨136, 200⟩ "history" hadmitted.1
      hadmitted.2 false
    refine ⟨asked, hnodup, fun fuel hfuel => ?_⟩
    rw [hlisted fuel hfuel, if_neg (cons_ne_nil _ _)]
    cases hcharged : ensureResolutionMaterializationBudget ⟨136, 200⟩ (trim "history") history
        ⟨"history", "History", [listedItem 1, listedItem 2, listedItem 3]⟩ limit false with
    | error error =>
      have htrue := hbudget limit hlimit
      rw [hcharged] at htrue
      cases htrue
    | ok bytes =>
      rw [show trim "history" = "history" by decide +kernel]
      rfl
  exact ⟨hlists 2 (by simp), hlists 5 (by simp)⟩

theorem chargeItem_title {sourceKind : String} {cover : Bool} {item : VideoCollectionItem}
    {count bytes total : Nat} (h : chargeItem history sourceKind cover item count bytes = .ok total) :
    item.title.utf8ByteSize ≤ maxBilibiliResolutionStringBytes := by
  by_contra hlong
  obtain ⟨selectionBytes, -, h⟩ := ok_of_bind h
  obtain ⟨subtitleBytes, -, h⟩ := ok_of_bind h
  obtain ⟨charged, -, h⟩ := ok_of_bind h
  obtain ⟨charged', htitle, -⟩ := ok_of_bind h
  cases (if_pos (Nat.lt_of_not_le hlong)).symm.trans htitle

theorem historyCore_title {item : VideoCollectionItem} {fuel : Nat} {asked : List Nat}
    {resolution : BilibiliInputResolution} (h : (historyCore [item, item]).resolvePlaybackInput
      ⟨136, 200⟩ "history" 1 false fuel = some (asked, .ok resolution)) :
    item.title.utf8ByteSize ≤ maxBilibiliResolutionStringBytes := by
  have hmade : fromResolvedContent ⟨136, 200⟩ (trim "history") history
      ⟨"history", "History", [item, item]⟩ 1 false = .ok resolution :=
    (Prod.mk.inj (Option.some.inj h)).2
  obtain ⟨bytes, hbudget, -⟩ := ok_of_bind hmade
  iterate 6 obtain ⟨_, -, hbudget⟩ := ok_of_bind hbudget
  obtain ⟨charged, hi, -⟩ := ok_of_bind hbudget
  exact chargeItem_title hi

def titled : VideoCollectionItem :=
  ⟨1, none, 1, 1, String.ofList (List.replicate 65537 'a'), none, none, none⟩

theorem long_title_refused : ∀ fuel asked resolution,
    (historyCore [titled, titled]).resolvePlaybackInput ⟨136, 200⟩ "history" 1 false fuel ≠
      some (asked, .ok resolution) := by
  intro fuel asked resolution h
  have htitle := historyCore_title h
  rw [titled, Sha256.utf8ByteSize_ofList fun c hc => by rw [eq_of_mem_replicate hc]; rfl,
    length_replicate] at htitle
  exact absurd htitle (by decide)

/-- A feed whose one page names an item twice. -/
def feedCore : Core :=
  { historyCore [listedItem 1, listedItem 1] with
    input := .ok ⟨"following", some .followingFeed⟩
    fetchPage := fun _ _ =>
      .ok (.ok ⟨"Following", [listedItem 1, listedItem 1], none, true, 1, 2⟩) }

/-- Of a history with a long title none is listed, though one item more than the limit is there; of
a feed with two items and the limit five, one is listed and no more are said to be there. -/
theorem listing_refused_or_short :
    (Lists (historyCore [titled, titled]) history "history" "History" [titled, titled]
        (.missingField "selected collection item") ∧
      ∀ fuel asked resolution, (historyCore [titled, titled]).resolvePlaybackInput ⟨136, 200⟩
        "history" 1 false fuel ≠ some (asked, .ok resolution)) ∧
    (∀ k, 1 ≤ k → feedCore.resolve ⟨"following", some .followingFeed⟩ k = .ok (if k ≤ 2 then
        .ok ⟨"history", "History", [listedItem 1, listedItem 1].take k⟩
      else .error (.missingField "selected collection item"))) ∧
    ∀ fuel, ∃ resolution, feedCore.resolvePlaybackInput ⟨136, 200⟩ "following" 5 false fuel =
        some ([], .ok resolution) ∧
      resolution.candidates.length = 1 ∧ resolution.candidatesTruncated = false := by
  refine ⟨⟨historyCore_lists _, long_title_refused⟩, fun _ _ => rfl, fun fuel => ?_⟩
  refine ⟨withCandidates "following" "Following" "following"
    [collectionCandidate ⟨"following", some .followingFeed⟩ "following" false (listedItem 1)] false,
    ?_, rfl, rfl⟩
  rfl

end NetPlayer.Paging
