import Mathlib.Data.Finset.Basic
import Mathlib.Logic.Function.Basic

/-!
# The cache library of the client

The client shows the pages it has loaded of one listing: the items of one server that match one
search. Refreshing, loading more and deleting are fenced by sequences and by two loading flags
that the preparation of a playback shares. The texts, the cache roots and the status of the HLS
cache are left out.
-/

namespace NetPlayer.Client

structure CacheLibraryItem where
  id : String
  primaryVariantID : Option String
deriving DecidableEq

structure LibraryPage where
  items : List CacheLibraryItem
  nextPageToken : String
deriving DecidableEq

structure LibraryServer (Endpoint : Type) where
  page : Endpoint → Finset String → Option String → String → LibraryPage
  live : ∀ endpoint deleted search token, ∀ item ∈ (page endpoint deleted search token).items,
    item.id ∉ deleted

/-- The first `count` pages of a listing, with the token of the page that follows. -/
def LibraryServer.pages {Endpoint : Type} (server : LibraryServer Endpoint) (endpoint : Endpoint)
    (deleted : Finset String) (search : Option String) : Nat → LibraryPage
  | 0 => ⟨[], ""⟩
  | count + 1 =>
    let shown := server.pages endpoint deleted search count
    let next := server.page endpoint deleted search shown.nextPageToken
    ⟨shown.items ++ next.items, next.nextPageToken⟩

/-- What the library takes from the platform: parsed addresses, and search texts without the
white space around them. -/
structure LibraryPlatform (Endpoint : Type) where
  normalized : String → Option Endpoint
  displayAddress : Endpoint → String
  trimmed : String → String

structure LibraryModel (Endpoint : Type) where
  serverAddressText : String
  searchText : String
  isLoading : Bool
  isLoadingMore : Bool
  activeSearchText : String
  items : List CacheLibraryItem
  deletingItemIDs : Finset String
  canDeleteLibraryItems : Bool
  loadedEndpoint : Option Endpoint
  nextPageToken : String
  requestedLibraryPageTokens : Finset String
  refreshSequence : Nat
  loadMoreSequence : Nat
  deleteOperationSequence : Nat
  deletingItemOperationIDs : String → Option Nat
  playbackSequence : Nat
  pendingPlaybackItemID : Option String
  activePlaybackItemID : Option String

def searchTextForRequest (text : String) : Option String := if text = "" then none else some text

namespace LibraryModel

variable {Endpoint : Type} [DecidableEq Endpoint] (env : LibraryPlatform Endpoint)

def initial (serverAddressText : String) : LibraryModel Endpoint where
  serverAddressText := serverAddressText
  searchText := ""
  isLoading := false
  isLoadingMore := false
  activeSearchText := ""
  items := []
  deletingItemIDs := ∅
  canDeleteLibraryItems := false
  loadedEndpoint := none
  nextPageToken := ""
  requestedLibraryPageTokens := ∅
  refreshSequence := 0
  loadMoreSequence := 0
  deleteOperationSequence := 0
  deletingItemOperationIDs := fun _ => none
  playbackSequence := 0
  pendingPlaybackItemID := none
  activePlaybackItemID := none

variable (m : LibraryModel Endpoint)

def normalizedSearchText : String := env.trimmed m.searchText

def hasPendingSearch : Bool :=
  m.normalizedSearchText env != m.activeSearchText

def hasMoreItems : Bool :=
  m.nextPageToken != "" && !m.hasPendingSearch env

def canLoadMore : Bool :=
  m.loadedEndpoint.isSome && m.hasMoreItems env && !m.isLoading && !m.isLoadingMore &&
    decide (m.deletingItemIDs = ∅)

def canDelete (item : CacheLibraryItem) : Bool :=
  m.loadedEndpoint.isSome && m.canDeleteLibraryItems &&
    m.items.any (fun other => other.id == item.id) && decide (m.deletingItemIDs = ∅) &&
    !m.isLoading && !m.isLoadingMore

def isCurrentRefresh (requestSequence : Nat) (endpoint : Endpoint) : Bool :=
  requestSequence == m.refreshSequence &&
    env.normalized m.serverAddressText == some endpoint

def isCurrentRefreshFor (requestSequence : Nat) (endpoint : Endpoint) (searchText : String) :
    Bool :=
  m.isCurrentRefresh env requestSequence endpoint && m.normalizedSearchText env == searchText

def isRepeatedLibraryPageToken (pageToken requestedPageToken : String) : Bool :=
  pageToken != "" &&
    (pageToken == requestedPageToken || decide (pageToken ∈ m.requestedLibraryPageTokens))

def clearLoadedLibrary : LibraryModel Endpoint :=
  { m with
    loadedEndpoint := none
    loadMoreSequence := m.loadMoreSequence + 1
    pendingPlaybackItemID := none
    activePlaybackItemID := none
    items := []
    deletingItemIDs := ∅
    deletingItemOperationIDs := fun _ => none
    canDeleteLibraryItems := false
    nextPageToken := ""
    requestedLibraryPageTokens := ∅
    activeSearchText := ""
    isLoadingMore := false
    isLoading := false }

/-- The observer of `serverAddressText`. -/
def clearLoadedLibraryIfNeeded (previousValue : String) : LibraryModel Endpoint :=
  let previousEndpoint := env.normalized previousValue
  let currentEndpoint := env.normalized m.serverAddressText
  if m.serverAddressText = previousValue then m
  else if currentEndpoint ≠ previousEndpoint ∨
      (m.loadedEndpoint ≠ none ∧ currentEndpoint ≠ m.loadedEndpoint) ∨
      currentEndpoint = none then
    { m with refreshSequence := m.refreshSequence + 1 }.clearLoadedLibrary
  else m

def setServerAddressText (text : String) : LibraryModel Endpoint :=
  { m with serverAddressText := text }.clearLoadedLibraryIfNeeded env m.serverAddressText

def markSearchPendingIfNeeded (previousValue : String) : LibraryModel Endpoint :=
  if m.normalizedSearchText env ≠ env.trimmed previousValue ∧
      (m.loadedEndpoint ≠ none ∨ m.isLoading = true) ∧ m.deletingItemIDs = ∅ then
    { m with
      playbackSequence := m.playbackSequence + 1
      refreshSequence := m.refreshSequence + 1
      loadMoreSequence := m.loadMoreSequence + 1
      pendingPlaybackItemID := none
      activePlaybackItemID := none
      deletingItemIDs := ∅
      deletingItemOperationIDs := fun _ => none
      isLoading := false
      isLoadingMore := false }
  else m

def setSearchText (text : String) : LibraryModel Endpoint :=
  { m with searchText := text }.markSearchPendingIfNeeded env m.searchText

def finishDeletingItem (itemID : String) (operationID : Nat) :
    LibraryModel Endpoint :=
  if m.deletingItemOperationIDs itemID = some operationID then
    { m with
      deletingItemOperationIDs := Function.update m.deletingItemOperationIDs itemID none
      deletingItemIDs := m.deletingItemIDs.erase itemID }
  else m

def clearPlaybackIfNeeded (itemID : String) : LibraryModel Endpoint :=
  if m.pendingPlaybackItemID = some itemID ∨ m.activePlaybackItemID = some itemID then
    { m with
      playbackSequence := m.playbackSequence + 1
      pendingPlaybackItemID := none
      activePlaybackItemID := none }
  else m

def removeItem (itemID : String) : LibraryModel Endpoint :=
  { m with items := m.items.filter fun item => item.id != itemID }

end LibraryModel

inductive Listing
  | requested
  | answered (deleted : Finset String)

inductive RefreshLibraryPhase
  | serverInfo
  | cacheRoots (supportsLibraryItemDelete : Bool)
  | page (supportsLibraryItemDelete : Bool) (listing : Listing)

structure RefreshLibrary (Endpoint : Type) where
  endpoint : Endpoint
  requestedSearchText : String
  phase : RefreshLibraryPhase

structure LoadMore (Endpoint : Type) where
  requestSequence : Nat
  endpoint : Endpoint
  requestedSearchText : String
  requestedPageToken : String
  listing : Listing

/-- `deleting` is a request that the server has not processed; `processed` one that it has. -/
inductive DeletePhase
  | deleting
  | processed
  | cacheRoots
  | page (searchText : String) (listing : Listing)

structure DeleteItem (Endpoint : Type) where
  itemID : String
  requestSequence : Nat
  endpoint : Endpoint
  phase : DeletePhase

structure PreparePlayback (Endpoint : Type) where
  requestSequence : Nat
  endpoint : Endpoint

/-- The view model, its operations in flight by their sequences, and the items that each server
has deleted. -/
structure LibrarySystem (Endpoint : Type) where
  model : LibraryModel Endpoint
  refreshes : Nat → Option (RefreshLibrary Endpoint)
  loadMores : Nat → Option (LoadMore Endpoint)
  deletes : Nat → Option (DeleteItem Endpoint)
  playbacks : Nat → Option (PreparePlayback Endpoint)
  deleted : Endpoint → Finset String

namespace LibrarySystem

variable {Endpoint : Type} [DecidableEq Endpoint] (env : LibraryPlatform Endpoint)
  (server : LibraryServer Endpoint)

def initial (serverAddressText : String) : LibrarySystem Endpoint where
  model := .initial serverAddressText
  refreshes := fun _ => none
  loadMores := fun _ => none
  deletes := fun _ => none
  playbacks := fun _ => none
  deleted := fun _ => ∅

variable (s : LibrarySystem Endpoint)

def setModel (m : LibraryModel Endpoint) : LibrarySystem Endpoint :=
  { s with model := m }

variable (sequence : Nat)

def setRefresh (refresh : Option (RefreshLibrary Endpoint)) : LibrarySystem Endpoint :=
  { s with refreshes := Function.update s.refreshes sequence refresh }

def setLoadMore (loadMore : Option (LoadMore Endpoint)) : LibrarySystem Endpoint :=
  { s with loadMores := Function.update s.loadMores sequence loadMore }

variable (operationID : Nat)

def setDelete (delete : Option (DeleteItem Endpoint)) :
    LibrarySystem Endpoint :=
  { s with deletes := Function.update s.deletes operationID delete }

def setPlayback (playback : Option (PreparePlayback Endpoint)) : LibrarySystem Endpoint :=
  { s with playbacks := Function.update s.playbacks sequence playback }

/-- `refresh` up to its first request. -/
def refresh : LibrarySystem Endpoint :=
  if s.model.deletingItemIDs ≠ ∅ then s
  else
    let m := { s.model with
      refreshSequence := s.model.refreshSequence + 1
      loadMoreSequence := s.model.loadMoreSequence + 1
      playbackSequence := s.model.playbackSequence + 1
      pendingPlaybackItemID := none
      activePlaybackItemID := none
      deletingItemIDs := ∅
      deletingItemOperationIDs := fun _ => none
      isLoadingMore := false }
    match env.normalized m.serverAddressText with
    | none => s.setModel m.clearLoadedLibrary
    | some endpoint =>
      (s.setModel { m with isLoading := true }).setRefresh m.refreshSequence
        (some ⟨endpoint, m.normalizedSearchText env, .serverInfo⟩)

/-- The first page replaces what was shown; then the address is written back. -/
def finishRefresh (refresh : RefreshLibrary Endpoint) (supportsLibraryItemDelete : Bool)
    (deleted : Finset String) : LibrarySystem Endpoint :=
  let s := s.setRefresh sequence none
  if s.model.isCurrentRefreshFor env sequence refresh.endpoint refresh.requestedSearchText then
    let libraryPage := server.page refresh.endpoint deleted
      (searchTextForRequest refresh.requestedSearchText) ""
    let m := { s.model with
      loadedEndpoint := some refresh.endpoint
      canDeleteLibraryItems := supportsLibraryItemDelete
      items := libraryPage.items
      nextPageToken := libraryPage.nextPageToken
      requestedLibraryPageTokens := {""}
      activeSearchText := refresh.requestedSearchText }
    s.setModel { m.setServerAddressText env (env.displayAddress refresh.endpoint) with
      isLoading := false }
  else s

def failRefresh (refresh : RefreshLibrary Endpoint) : LibrarySystem Endpoint :=
  let s := s.setRefresh sequence none
  if s.model.isCurrentRefreshFor env sequence refresh.endpoint refresh.requestedSearchText then
    s.setModel { s.model with
      loadedEndpoint := none
      items := []
      deletingItemIDs := ∅
      canDeleteLibraryItems := false
      nextPageToken := ""
      requestedLibraryPageTokens := ∅
      activeSearchText := ""
      isLoading := false }
  else s

/-- `loadMore` up to its request. -/
def loadMore : LibrarySystem Endpoint :=
  if s.model.canLoadMore env then
    match s.model.loadedEndpoint with
    | none => s
    | some endpoint =>
      if env.normalized s.model.serverAddressText = some endpoint then
        (s.setModel { s.model with
          loadMoreSequence := s.model.loadMoreSequence + 1
          isLoading := true
          isLoadingMore := true }).setLoadMore (s.model.loadMoreSequence + 1)
          (some ⟨s.model.refreshSequence, endpoint, s.model.activeSearchText,
            s.model.nextPageToken, .requested⟩)
      else s.setModel s.model.clearLoadedLibrary
  else s

def endLoadMore (loadMore : LoadMore Endpoint) : LibrarySystem Endpoint :=
  let s := s.setLoadMore sequence none
  if sequence = s.model.loadMoreSequence then
    s.setModel { s.model with
      isLoadingMore := false
      isLoading :=
        if s.model.isCurrentRefreshFor env loadMore.requestSequence loadMore.endpoint
            loadMore.requestedSearchText then false
        else s.model.isLoading }
  else s

def finishLoadMore (loadMore : LoadMore Endpoint) (deleted : Finset String) :
    LibrarySystem Endpoint :=
  if sequence = s.model.loadMoreSequence ∧
      s.model.isCurrentRefreshFor env loadMore.requestSequence loadMore.endpoint
        loadMore.requestedSearchText = true then
    let libraryPage := server.page loadMore.endpoint deleted
      (searchTextForRequest loadMore.requestedSearchText) loadMore.requestedPageToken
    if s.model.isRepeatedLibraryPageToken libraryPage.nextPageToken
        loadMore.requestedPageToken then
      (s.setModel { s.model with nextPageToken := "" }).endLoadMore env sequence loadMore
    else
      (s.setModel { s.model with
        items := s.model.items ++ libraryPage.items
        requestedLibraryPageTokens :=
          insert loadMore.requestedPageToken s.model.requestedLibraryPageTokens
        nextPageToken := libraryPage.nextPageToken }).endLoadMore env sequence loadMore
  else s.endLoadMore env sequence loadMore

variable (item : CacheLibraryItem)

/-- `deleteItem` up to its request. -/
def deleteItem : LibrarySystem Endpoint :=
  if s.model.canDelete item then
    match s.model.loadedEndpoint with
    | none => s
    | some endpoint =>
      if env.normalized s.model.serverAddressText = some endpoint then
        let operationID := s.model.deleteOperationSequence + 1
        (s.setModel { s.model with
          loadMoreSequence := s.model.loadMoreSequence + 1
          deleteOperationSequence := operationID
          deletingItemOperationIDs :=
            Function.update s.model.deletingItemOperationIDs item.id (some operationID)
          deletingItemIDs := insert item.id s.model.deletingItemIDs }).setDelete operationID
          (some ⟨item.id, s.model.refreshSequence, endpoint, .deleting⟩)
      else s.setModel s.model.clearLoadedLibrary
  else s

def endDelete (delete : DeleteItem Endpoint) :
    LibrarySystem Endpoint :=
  (s.setModel (s.model.finishDeletingItem delete.itemID operationID)).setDelete operationID none

def processDelete (delete : DeleteItem Endpoint) : LibrarySystem Endpoint :=
  { s with
    deleted := Function.update s.deleted delete.endpoint
      (insert delete.itemID (s.deleted delete.endpoint)) }.setDelete operationID
    (some { delete with phase := .processed })

def confirmDelete (delete : DeleteItem Endpoint) : LibrarySystem Endpoint :=
  if s.model.isCurrentRefresh env delete.requestSequence delete.endpoint then
    (s.setModel (s.model.clearPlaybackIfNeeded delete.itemID)).setDelete operationID
      (some { delete with phase := .cacheRoots })
  else s.endDelete operationID delete

def continueDelete (delete : DeleteItem Endpoint) :
    LibrarySystem Endpoint :=
  if s.model.isCurrentRefresh env delete.requestSequence delete.endpoint then
    if s.model.nextPageToken = "" then
      (s.setModel (s.model.removeItem delete.itemID)).endDelete operationID delete
    else
      s.setDelete operationID (some { delete with
        phase := .page s.model.activeSearchText .requested })
  else s.endDelete operationID delete

def finishDelete (delete : DeleteItem Endpoint) (searchText : String) (deleted : Finset String)
    : LibrarySystem Endpoint :=
  if s.model.isCurrentRefresh env delete.requestSequence delete.endpoint then
    let libraryPage := server.page delete.endpoint deleted (searchTextForRequest searchText) ""
    (s.setModel { s.model with
      items := libraryPage.items
      nextPageToken := libraryPage.nextPageToken
      requestedLibraryPageTokens := {""} }).endDelete operationID delete
  else s.endDelete operationID delete

def failDeletePage (delete : DeleteItem Endpoint) :
    LibrarySystem Endpoint :=
  if s.model.isCurrentRefresh env delete.requestSequence delete.endpoint then
    (s.setModel { s.model.removeItem delete.itemID with
      nextPageToken := ""
      requestedLibraryPageTokens := ∅ }).endDelete operationID delete
  else s.endDelete operationID delete

/-- `playbackURL` up to its request. -/
def playbackURL : LibrarySystem Endpoint :=
  if item.id ∈ s.model.deletingItemIDs then s
  else
    let m := { s.model with
      playbackSequence := s.model.playbackSequence + 1
      pendingPlaybackItemID := none
      activePlaybackItemID := none }
    match env.normalized m.serverAddressText with
    | none => s.setModel { m with isLoading := false }
    | some endpoint =>
      if m.loadedEndpoint ≠ some endpoint then s.setModel m.clearLoadedLibrary
      else if item.primaryVariantID = none then s.setModel { m with isLoading := false }
      else
        (s.setModel { m with
          pendingPlaybackItemID := some item.id
          isLoading := true }).setPlayback m.playbackSequence
          (some ⟨m.refreshSequence, endpoint⟩)

/-- The source arrives or the request fails: the ways differ in the texts and in the result. -/
def finishPlayback (playback : PreparePlayback Endpoint) : LibrarySystem Endpoint :=
  let s := s.setPlayback sequence none
  if s.model.isCurrentRefresh env playback.requestSequence playback.endpoint &&
      sequence == s.model.playbackSequence then
    s.setModel { s.model with pendingPlaybackItemID := none, isLoading := false }
  else s

def finishPreparedPlayback (didStartPlayback : Bool) : LibrarySystem Endpoint :=
  if s.model.items.any fun other => other.id == item.id then
    s.setModel { s.model with
      isLoading := false
      activePlaybackItemID := if didStartPlayback then some item.id else none }
  else s

def clearPlaybackStatus : LibrarySystem Endpoint :=
  if s.model.pendingPlaybackItemID = none ∧ s.model.activePlaybackItemID = none then s
  else
    s.setModel { s.model with
      playbackSequence := s.model.playbackSequence + 1
      pendingPlaybackItemID := none
      activePlaybackItemID := none
      isLoading := s.model.isLoadingMore }

end LibrarySystem

inductive LibraryEvent
  | setServerAddressText (text : String)
  | setSearchText (text : String)
  | refresh
  | loadMore
  | deleteItem (item : CacheLibraryItem)
  | playbackURL (item : CacheLibraryItem)
  | finishPreparedPlayback (item : CacheLibraryItem) (didStartPlayback : Bool)
  | clearPlaybackStatus
  | serverInfoAnswered (sequence : Nat) (supportsLibraryItemDelete : Bool)
  | cacheRootsAnswered (sequence : Nat)
  | refreshListed (sequence : Nat)
  | refreshAnswered (sequence : Nat)
  | refreshFailed (sequence : Nat)
  | loadMoreListed (sequence : Nat)
  | loadMoreAnswered (sequence : Nat)
  | loadMoreFailed (sequence : Nat)
  | deleteProcessed (operationID : Nat)
  | deleteAnswered (operationID : Nat)
  | deleteFailed (operationID : Nat)
  | deleteRootsAnswered (operationID : Nat)
  | deleteListed (operationID : Nat)
  | deletePageAnswered (operationID : Nat)
  | deletePageFailed (operationID : Nat)
  | playbackAnswered (sequence : Nat)

/-- A step of the user, of a server or of an answer. A request to delete that fails has not been
processed: the listings change only by deletions that are confirmed. -/
inductive LibraryStep {Endpoint : Type} [DecidableEq Endpoint] (env : LibraryPlatform Endpoint)
    (server : LibraryServer Endpoint) :
    LibrarySystem Endpoint → LibraryEvent → LibrarySystem Endpoint → Prop
  | setServerAddressText (s : LibrarySystem Endpoint) (text : String) :
      LibraryStep env server s (.setServerAddressText text)
        (s.setModel (s.model.setServerAddressText env text))
  | setSearchText (s : LibrarySystem Endpoint) (text : String) :
      LibraryStep env server s (.setSearchText text)
        (s.setModel (s.model.setSearchText env text))
  | refresh (s : LibrarySystem Endpoint) : LibraryStep env server s .refresh (s.refresh env)
  | loadMore (s : LibrarySystem Endpoint) : LibraryStep env server s .loadMore (s.loadMore env)
  | deleteItem (s : LibrarySystem Endpoint) (item : CacheLibraryItem) :
      LibraryStep env server s (.deleteItem item) (s.deleteItem env item)
  | playbackURL (s : LibrarySystem Endpoint) (item : CacheLibraryItem) :
      LibraryStep env server s (.playbackURL item) (s.playbackURL env item)
  | finishPreparedPlayback (s : LibrarySystem Endpoint) (item : CacheLibraryItem)
      (didStartPlayback : Bool) :
      LibraryStep env server s (.finishPreparedPlayback item didStartPlayback)
        (s.finishPreparedPlayback item didStartPlayback)
  | clearPlaybackStatus (s : LibrarySystem Endpoint) :
      LibraryStep env server s .clearPlaybackStatus s.clearPlaybackStatus
  | serverInfoAnswered {s : LibrarySystem Endpoint} {sequence : Nat}
      {refresh : RefreshLibrary Endpoint} (supportsLibraryItemDelete : Bool)
      (inFlight : s.refreshes sequence = some refresh) (phase : refresh.phase = .serverInfo) :
      LibraryStep env server s (.serverInfoAnswered sequence supportsLibraryItemDelete)
        (s.setRefresh sequence
          (some { refresh with phase := .cacheRoots supportsLibraryItemDelete }))
  | cacheRootsAnswered {s : LibrarySystem Endpoint} {sequence : Nat}
      {refresh : RefreshLibrary Endpoint} {supportsLibraryItemDelete : Bool}
      (inFlight : s.refreshes sequence = some refresh)
      (phase : refresh.phase = .cacheRoots supportsLibraryItemDelete) :
      LibraryStep env server s (.cacheRootsAnswered sequence)
        (s.setRefresh sequence
          (some { refresh with phase := .page supportsLibraryItemDelete .requested }))
  | refreshListed {s : LibrarySystem Endpoint} {sequence : Nat}
      {refresh : RefreshLibrary Endpoint} {supportsLibraryItemDelete : Bool}
      (inFlight : s.refreshes sequence = some refresh)
      (phase : refresh.phase = .page supportsLibraryItemDelete .requested) :
      LibraryStep env server s (.refreshListed sequence)
        (s.setRefresh sequence (some { refresh with
          phase := .page supportsLibraryItemDelete (.answered (s.deleted refresh.endpoint)) }))
  | refreshAnswered {s : LibrarySystem Endpoint} {sequence : Nat}
      {refresh : RefreshLibrary Endpoint} {supportsLibraryItemDelete : Bool}
      {deleted : Finset String} (inFlight : s.refreshes sequence = some refresh)
      (phase : refresh.phase = .page supportsLibraryItemDelete (.answered deleted)) :
      LibraryStep env server s (.refreshAnswered sequence)
        (s.finishRefresh env server sequence refresh supportsLibraryItemDelete deleted)
  | refreshFailed {s : LibrarySystem Endpoint} {sequence : Nat}
      {refresh : RefreshLibrary Endpoint} (inFlight : s.refreshes sequence = some refresh) :
      LibraryStep env server s (.refreshFailed sequence) (s.failRefresh env sequence refresh)
  | loadMoreListed {s : LibrarySystem Endpoint} {sequence : Nat} {loadMore : LoadMore Endpoint}
      (inFlight : s.loadMores sequence = some loadMore) (listing : loadMore.listing = .requested) :
      LibraryStep env server s (.loadMoreListed sequence)
        (s.setLoadMore sequence (some { loadMore with
          listing := .answered (s.deleted loadMore.endpoint) }))
  | loadMoreAnswered {s : LibrarySystem Endpoint} {sequence : Nat} {loadMore : LoadMore Endpoint}
      {deleted : Finset String} (inFlight : s.loadMores sequence = some loadMore)
      (listing : loadMore.listing = .answered deleted) :
      LibraryStep env server s (.loadMoreAnswered sequence)
        (s.finishLoadMore env server sequence loadMore deleted)
  | loadMoreFailed {s : LibrarySystem Endpoint} {sequence : Nat} {loadMore : LoadMore Endpoint}
      (inFlight : s.loadMores sequence = some loadMore) :
      LibraryStep env server s (.loadMoreFailed sequence) (s.endLoadMore env sequence loadMore)
  | deleteProcessed {s : LibrarySystem Endpoint} {operationID : Nat}
      {delete : DeleteItem Endpoint} (inFlight : s.deletes operationID = some delete)
      (phase : delete.phase = .deleting) :
      LibraryStep env server s (.deleteProcessed operationID) (s.processDelete operationID delete)
  | deleteAnswered {s : LibrarySystem Endpoint} {operationID : Nat}
      {delete : DeleteItem Endpoint} (inFlight : s.deletes operationID = some delete)
      (phase : delete.phase = .processed) :
      LibraryStep env server s (.deleteAnswered operationID)
        (s.confirmDelete env operationID delete)
  | deleteFailed {s : LibrarySystem Endpoint} {operationID : Nat}
      {delete : DeleteItem Endpoint} (inFlight : s.deletes operationID = some delete)
      (phase : delete.phase = .deleting) :
      LibraryStep env server s (.deleteFailed operationID) (s.endDelete operationID delete)
  | deleteRootsAnswered {s : LibrarySystem Endpoint} {operationID : Nat}
      {delete : DeleteItem Endpoint} (inFlight : s.deletes operationID = some delete)
      (phase : delete.phase = .cacheRoots) :
      LibraryStep env server s (.deleteRootsAnswered operationID)
        (s.continueDelete env operationID delete)
  | deleteListed {s : LibrarySystem Endpoint} {operationID : Nat} {delete : DeleteItem Endpoint}
      {searchText : String} (inFlight : s.deletes operationID = some delete)
      (phase : delete.phase = .page searchText .requested) :
      LibraryStep env server s (.deleteListed operationID)
        (s.setDelete operationID (some { delete with
          phase := .page searchText (.answered (s.deleted delete.endpoint)) }))
  | deletePageAnswered {s : LibrarySystem Endpoint} {operationID : Nat}
      {delete : DeleteItem Endpoint} {searchText : String} {deleted : Finset String}
      (inFlight : s.deletes operationID = some delete)
      (phase : delete.phase = .page searchText (.answered deleted)) :
      LibraryStep env server s (.deletePageAnswered operationID)
        (s.finishDelete env server operationID delete searchText deleted)
  | deletePageFailed {s : LibrarySystem Endpoint} {operationID : Nat}
      {delete : DeleteItem Endpoint} {searchText : String} {listing : Listing}
      (inFlight : s.deletes operationID = some delete)
      (phase : delete.phase = .page searchText listing) :
      LibraryStep env server s (.deletePageFailed operationID)
        (s.failDeletePage env operationID delete)
  | playbackAnswered {s : LibrarySystem Endpoint} {sequence : Nat}
      {playback : PreparePlayback Endpoint} (inFlight : s.playbacks sequence = some playback) :
      LibraryStep env server s (.playbackAnswered sequence)
        (s.finishPlayback env sequence playback)

end NetPlayer.Client
