import NetPlayer.Client.CacheLibrary
import NetPlayer.Library.Transition

/-!
# Runs of the cache library

The shown items are the first pages of the loaded listing, as long as loading more and deleting
do not begin while a refresh is in flight, and a refresh not while a request to delete is.
-/

namespace NetPlayer.Client

open Transition LibraryModel Finset Function Nat

variable {Endpoint : Type}

structure Shown (server : LibraryServer Endpoint) (m : LibraryModel Endpoint)
    (endpoint : Endpoint) (deleted : Finset String) (pending : String → Prop)
    (count : Nat) (listed removed : Finset String) : Prop where
  positive : 0 < count
  items : m.items = (server.pages endpoint listed (searchTextForRequest m.activeSearchText)
    count).items.filter fun item => decide (item.id ∉ removed)
  token : m.nextPageToken =
    (server.pages endpoint listed (searchTextForRequest m.activeSearchText) count).nextPageToken
  fresh : m.nextPageToken ≠ "" → removed = ∅
  listed_subset : listed ⊆ deleted
  removed_subset : removed ⊆ deleted
  complete : ∀ id ∈ deleted, id ∈ listed ∨ id ∈ removed ∨ pending id

def ShowsPages (server : LibraryServer Endpoint) (m : LibraryModel Endpoint)
    (endpoint : Endpoint) (deleted : Finset String) (pending : String → Prop) : Prop :=
  ∃ count listed removed, Shown server m endpoint deleted pending count listed removed

section Shows

variable {server : LibraryServer Endpoint} {m n : LibraryModel Endpoint}
  {endpoint : Endpoint} {deleted listed removed : Finset String} {pending other : String → Prop}
  {count : Nat} {itemID : String} (h : ShowsPages server m endpoint deleted pending)

include h in
theorem ShowsPages.mono (hpend : ∀ id ∈ deleted, pending id → other id) :
    ShowsPages server m endpoint deleted other := by
  obtain ⟨count, listed, removed, hshown⟩ := h
  refine ⟨count, listed, removed, { hshown with complete := ?_ }⟩
  intro id hid
  rcases hshown.complete id hid with hlisted | hrem | hwait
  · exact .inl hlisted
  · exact .inr (.inl hrem)
  · exact .inr (.inr (hpend id hid hwait))

theorem showsPages_first {search : String}
    (hitems : m.items = (server.page endpoint deleted (searchTextForRequest search) "").items)
    (htoken : m.nextPageToken =
      (server.page endpoint deleted (searchTextForRequest search) "").nextPageToken)
    (hsearch : m.activeSearchText = search) :
    ShowsPages server m endpoint deleted pending := by
  refine ⟨1, deleted, ∅, Nat.one_pos, ?_, ?_, fun _ => rfl, subset_rfl, empty_subset _,
    fun id hid => .inl hid⟩
  · rw [hsearch, hitems]
    simp [LibraryServer.pages]
  · rw [hsearch, htoken]
    simp [LibraryServer.pages]

include h

theorem ShowsPages.append (hpend : ∀ id, ¬ pending id) (htoken : m.nextPageToken ≠ "")
    (hitems : n.items = m.items ++ (server.page endpoint deleted
      (searchTextForRequest m.activeSearchText) m.nextPageToken).items)
    (hn : n.nextPageToken = (server.page endpoint deleted
      (searchTextForRequest m.activeSearchText) m.nextPageToken).nextPageToken)
    (hsearch : n.activeSearchText = m.activeSearchText) :
    ShowsPages server n endpoint deleted other := by
  obtain ⟨count, listed, removed, hshown⟩ := h
  obtain rfl := hshown.fresh htoken
  have hlisted : listed = deleted := by
    apply subset_antisymm hshown.listed_subset
    intro id hid
    rcases hshown.complete id hid with hlisted | hrem | hwait
    · exact hlisted
    · exact absurd hrem (notMem_empty id)
    · exact absurd hwait (hpend id)
  subst hlisted
  have hcurr := hshown.token
  have hb := hshown.items
  simp only [notMem_empty, not_false_eq_true, decide_true, List.filter_true] at hb
  refine ⟨count + 1, listed, ∅, succ_pos _, ?_, ?_, fun _ => rfl, subset_rfl,
    empty_subset _, fun id hid => .inl hid⟩
  · simp only [notMem_empty, not_false_eq_true, decide_true, List.filter_true]
    rw [hitems, hb, hsearch, hcurr]
    rfl
  · rw [hn, hsearch, hcurr]
    rfl

theorem ShowsPages.take (hdeleted : itemID ∈ deleted) (htoken : m.nextPageToken = "")
    (hother : ∀ id, pending id → id ≠ itemID → other id) :
    ShowsPages server (m.removeItem itemID) endpoint deleted other := by
  obtain ⟨count, listed, removed, hshown⟩ := h
  refine ⟨count, listed, insert itemID removed, hshown.positive, ?_, hshown.token,
    fun hne => absurd htoken hne, hshown.listed_subset, ?_, ?_⟩
  · show m.items.filter _ = _
    rw [hshown.items, List.filter_filter]
    apply List.filter_congr
    intro item _
    by_cases hsame : item.id = itemID
    · simp [hsame]
    · simp [hsame, mem_insert]
  · exact insert_subset hdeleted hshown.removed_subset
  · intro id hid
    by_cases hsame : id = itemID
    · exact .inr (.inl (mem_insert.mpr (.inl hsame)))
    rcases hshown.complete id hid with hlisted | hrem | hwait
    · exact .inl hlisted
    · exact .inr (.inl (mem_insert_of_mem hrem))
    · exact .inr (.inr (hother id hwait hsame))

theorem ShowsPages.delete (hitem : other itemID) (hother : ∀ id, pending id → other id) :
    ShowsPages server m endpoint (insert itemID deleted) other := by
  obtain ⟨count, listed, removed, hshown⟩ := h
  refine ⟨count, listed, removed, hshown.positive, hshown.items, hshown.token, hshown.fresh,
    hshown.listed_subset.trans (subset_insert _ _),
    hshown.removed_subset.trans (subset_insert _ _), ?_⟩
  intro id hid
  rcases mem_insert.mp hid with rfl | hid
  · exact .inr (.inr hitem)
  rcases hshown.complete id hid with hlisted | hrem | hwait
  · exact .inl hlisted
  · exact .inr (.inl hrem)
  · exact .inr (.inr (hother id hwait))

omit h

theorem mem_pages {search : Option String} {item : CacheLibraryItem}
    (h : item ∈ (server.pages endpoint listed search count).items) : item.id ∉ listed := by
  induction count with
  | zero => cases h
  | succ count ih =>
    rcases List.mem_append.mp h with hshown | hn
    · exact ih hshown
    · exact server.live _ _ _ _ item hn

include h in
theorem ShowsPages.pending_of_mem {item : CacheLibraryItem} (hitem : item ∈ m.items)
    (hdeleted : item.id ∈ deleted) :
    pending item.id := by
  obtain ⟨count, listed, removed, hshown⟩ := h
  rw [hshown.items, List.mem_filter, decide_eq_true_iff] at hitem
  rcases hshown.complete item.id hdeleted with hlisted | hrem | hwait
  · exact absurd hlisted (mem_pages hitem.1)
  · exact absurd hrem hitem.2
  · exact hwait

end Shows

namespace LibrarySystem

variable {env : LibraryPlatform Endpoint} {server : LibraryServer Endpoint}
  {s : LibrarySystem Endpoint} {m : LibraryModel Endpoint} {key : Nat}

def Deleting (s : LibrarySystem Endpoint) (operationID : Nat) (delete : DeleteItem Endpoint) :
    Prop :=
  s.deletes operationID = some delete ∧ delete.requestSequence = s.model.refreshSequence

def LoadingMore (s : LibrarySystem Endpoint) (loadMore : LoadMore Endpoint) : Prop :=
  s.loadMores s.model.loadMoreSequence = some loadMore ∧
    loadMore.requestSequence = s.model.refreshSequence

def Pending (s : LibrarySystem Endpoint) (id : String) : Prop :=
  ∃ operationID delete, s.Deleting operationID delete ∧ delete.phase ≠ .deleting ∧
    delete.itemID = id

def Listing.Current (listing : Listing) (deleted : Finset String) : Prop :=
  ∀ answered, listing = .answered answered → answered = deleted

structure RefreshSound (s : LibrarySystem Endpoint) (refresh : RefreshLibrary Endpoint) : Prop where
  deletes : ∀ operationID delete, s.deletes operationID = some delete →
    delete.requestSequence ≠ s.model.refreshSequence ∧
      (delete.phase = .deleting → delete.endpoint ≠ refresh.endpoint)
  loadMores : ∀ loadMore, ¬ s.LoadingMore loadMore
  listing : ∀ supports listing, refresh.phase = .page supports listing →
    Listing.Current listing (s.deleted refresh.endpoint)

structure DeleteSound (s : LibrarySystem Endpoint) (operationID : Nat)
    (delete : DeleteItem Endpoint) : Prop where
  loaded : s.model.loadedEndpoint = some delete.endpoint
  held : delete.itemID ∈ s.model.deletingItemIDs
  owner : s.model.deletingItemOperationIDs delete.itemID = some operationID
  alone : ∀ other delete', s.Deleting other delete' → other = operationID
  loadMores : ∀ loadMore, ¬ s.LoadingMore loadMore
  deleted : delete.phase ≠ .deleting → delete.itemID ∈ s.deleted delete.endpoint
  listing : ∀ searchText listing, delete.phase = .page searchText listing →
    searchText = s.model.activeSearchText ∧
      Listing.Current listing (s.deleted delete.endpoint)

structure LoadMoreSound (s : LibrarySystem Endpoint) (loadMore : LoadMore Endpoint) : Prop where
  loaded : s.model.loadedEndpoint = some loadMore.endpoint
  token : loadMore.requestedPageToken = s.model.nextPageToken
  follows : s.model.nextPageToken ≠ ""
  search : loadMore.requestedSearchText = s.model.activeSearchText
  listing : Listing.Current loadMore.listing (s.deleted loadMore.endpoint)

structure Sound (env : LibraryPlatform Endpoint) (server : LibraryServer Endpoint)
    (s : LibrarySystem Endpoint) : Prop where
  knownRefresh : ∀ sequence refresh, s.refreshes sequence = some refresh →
    sequence ≤ s.model.refreshSequence
  knownLoadMore : ∀ sequence loadMore, s.loadMores sequence = some loadMore →
    sequence ≤ s.model.loadMoreSequence ∧ loadMore.requestSequence ≤ s.model.refreshSequence
  knownDelete : ∀ operationID delete, s.deletes operationID = some delete →
    operationID ≤ s.model.deleteOperationSequence ∧
      delete.requestSequence ≤ s.model.refreshSequence
  address : ∀ endpoint, s.model.loadedEndpoint = some endpoint →
    env.normalized s.model.serverAddressText = some endpoint
  refreshing : ∀ refresh, s.refreshes s.model.refreshSequence = some refresh →
    RefreshSound s refresh
  deleting : ∀ operationID delete, s.Deleting operationID delete →
    DeleteSound s operationID delete
  loadingMore : ∀ loadMore, s.LoadingMore loadMore → LoadMoreSound s loadMore
  unprocessed : ∀ operationID delete, s.deletes operationID = some delete →
    delete.phase = .deleting → s.model.loadedEndpoint = some delete.endpoint →
      delete.requestSequence = s.model.refreshSequence
  unloaded : s.model.loadedEndpoint = none → s.model.items = [] ∧ s.model.nextPageToken = ""
  shows : ∀ endpoint, s.model.loadedEndpoint = some endpoint →
    ShowsPages server s.model endpoint (s.deleted endpoint) s.Pending

theorem initial_sound (serverAddressText : String) :
    Sound env server (initial serverAddressText) where
  knownRefresh _ _ h := by cases h
  knownLoadMore _ _ h := by cases h
  knownDelete _ _ h := by cases h
  address _ h := by cases h
  refreshing _ h := by cases h
  deleting _ _ h := by cases h.1
  loadingMore _ h := by cases h.1
  unprocessed _ _ h := by cases h
  unloaded _ := ⟨rfl, rfl⟩
  shows _ h := by cases h

/-- All that the invariant reads of a model, but what is shown. -/
structure SameOperations (m n : LibraryModel Endpoint) : Prop where
  address : n.serverAddressText = m.serverAddressText
  loaded : n.loadedEndpoint = m.loadedEndpoint
  search : n.activeSearchText = m.activeSearchText
  held : n.deletingItemIDs = m.deletingItemIDs
  owners : n.deletingItemOperationIDs = m.deletingItemOperationIDs
  refresh : n.refreshSequence = m.refreshSequence
  loadMore : n.loadMoreSequence = m.loadMoreSequence
  delete : n.deleteOperationSequence = m.deleteOperationSequence

structure SameLibrary (m n : LibraryModel Endpoint) : Prop where
  operations : SameOperations m n
  items : n.items = m.items
  token : n.nextPageToken = m.nextPageToken

variable (h : Sound env server s)

include h

theorem Sound.readdress (hsame : SameLibrary { s.model with serverAddressText := text } m)
    (haddressed : ∀ endpoint, s.model.loadedEndpoint = some endpoint →
      env.normalized text = some endpoint) : Sound env server (s.setModel m) := by
  obtain ⟨model, refreshes, loadMores, deletes, playbacks, deleted⟩ := s
  obtain ⟨⟩ := model
  obtain ⟨⟩ := m
  obtain ⟨⟨haddress, hload, hsearch, hh, howners, hrefr, hmore, hdelete⟩, hitems,
    htoken⟩ := hsame
  subst haddress hload hitems htoken hsearch hh howners hrefr hmore hdelete
  refine ⟨h.knownRefresh, h.knownLoadMore, h.knownDelete, haddressed, ?_, ?_, ?_, h.unprocessed,
    h.unloaded, ?_⟩
  · intro refresh hrefr
    have hsound := h.refreshing refresh hrefr
    exact { hsound with }
  · intro operationID delete hdeleting
    have hsound := h.deleting operationID delete hdeleting
    exact { hsound with }
  · intro loadMore hlding
    have hsound := h.loadingMore loadMore hlding
    exact { hsound with }
  · intro endpoint hload
    obtain ⟨count, listed, removed, hshown⟩ := h.shows endpoint hload
    exact ⟨count, listed, removed, { hshown with }⟩

theorem Sound.frame (hsame : SameLibrary s.model m) : Sound env server (s.setModel m) :=
  h.readdress hsame h.address

theorem Sound.not_deleting_of_unloaded (hnone : s.model.loadedEndpoint = none) (operationID : Nat)
    (delete : DeleteItem Endpoint) :
    ¬ s.Deleting operationID delete := by
  intro hdeleting
  have hload := (h.deleting operationID delete hdeleting).loaded
  rw [hnone] at hload
  cases hload

theorem Sound.not_deleting_of_empty (hempty : s.model.deletingItemIDs = ∅) (operationID : Nat)
    (delete : DeleteItem Endpoint) :
    ¬ s.Deleting operationID delete := by
  intro hdeleting
  have hh := (h.deleting operationID delete hdeleting).held
  rw [hempty] at hh
  exact absurd hh (notMem_empty _)

theorem Sound.unload (hrefr : s.model.refreshSequence ≤ m.refreshSequence)
    (hmore : s.model.loadMoreSequence ≤ m.loadMoreSequence)
    (hdelete : m.deleteOperationSequence = s.model.deleteOperationSequence)
    (hload : m.loadedEndpoint = none) (hitems : m.items = []) (htoken : m.nextPageToken = "")
    (hrefreshing : ∀ refresh, s.refreshes m.refreshSequence = some refresh →
      m.refreshSequence = s.model.refreshSequence)
    (hdeletes : ∀ operationID delete, s.deletes operationID = some delete →
      delete.requestSequence ≠ m.refreshSequence)
    (hmores : ∀ loadMore, ¬ (s.setModel m).LoadingMore loadMore) :
    Sound env server (s.setModel m) where
  knownRefresh sequence refresh hk := (h.knownRefresh sequence refresh hk).trans hrefr
  knownLoadMore sequence loadMore hk :=
    ⟨(h.knownLoadMore sequence loadMore hk).1.trans hmore,
      (h.knownLoadMore sequence loadMore hk).2.trans hrefr⟩
  knownDelete operationID delete hk := by
    have hle := h.knownDelete operationID delete hk
    show operationID ≤ m.deleteOperationSequence ∧ delete.requestSequence ≤ m.refreshSequence
    omega
  address endpoint heq := by
    rw [show (s.setModel m).model = m from rfl, hload] at heq
    cases heq
  refreshing refresh hcurr := by
    have hseq := hrefreshing refresh hcurr
    have hsound := h.refreshing refresh (hseq ▸ hcurr)
    refine ⟨?_, hmores, hsound.listing⟩
    intro operationID delete hfound
    exact ⟨hdeletes operationID delete hfound, (hsound.deletes operationID delete hfound).2⟩
  deleting operationID delete hdeleting := absurd hdeleting.2 (hdeletes operationID delete hdeleting.1)
  loadingMore loadMore hlding := absurd hlding (hmores loadMore)
  unprocessed operationID delete _ _ heq := by
    rw [show (s.setModel m).model = m from rfl, hload] at heq
    cases heq
  unloaded _ := ⟨hitems, htoken⟩
  shows endpoint heq := by
    rw [show (s.setModel m).model = m from rfl, hload] at heq
    cases heq

variable {bumped sequence operationID requestSequence : Nat}

theorem Sound.not_current_of_bump (hrefr : bumped = s.model.refreshSequence + 1) :
    (∀ refresh, s.refreshes bumped = some refresh → bumped = s.model.refreshSequence) ∧
    (∀ operationID delete, s.deletes operationID = some delete →
      delete.requestSequence ≠ bumped) ∧
    ∀ {sequence} loadMore, ¬ (s.loadMores sequence = some loadMore ∧
      loadMore.requestSequence = bumped) := by
  refine ⟨?_, ?_, ?_⟩
  · intro refresh hcurr
    have hle := h.knownRefresh _ refresh hcurr
    omega
  · intro operationID delete hfound
    have hle := (h.knownDelete operationID delete hfound).2
    omega
  · rintro sequence loadMore ⟨hfound, hequal⟩
    have hle := (h.knownLoadMore sequence loadMore hfound).2
    omega

theorem Sound.bump (hempty : s.model.deletingItemIDs = ∅)
    (hrefr : m.refreshSequence = s.model.refreshSequence + 1)
    (hmore : s.model.loadMoreSequence ≤ m.loadMoreSequence)
    (hdelete : m.deleteOperationSequence = s.model.deleteOperationSequence)
    (haddress : m.serverAddressText = s.model.serverAddressText)
    (hload : m.loadedEndpoint = s.model.loadedEndpoint) (hitems : m.items = s.model.items)
    (htoken : m.nextPageToken = s.model.nextPageToken)
    (hsearch : m.activeSearchText = s.model.activeSearchText) :
    Sound env server (s.setModel m) := by
  obtain ⟨hrefreshing, hdeletes, hmores⟩ := h.not_current_of_bump hrefr
  constructor
  · intro sequence refresh hk
    have hle := h.knownRefresh sequence refresh hk
    show sequence ≤ m.refreshSequence
    omega
  · intro sequence loadMore hk
    have hle := h.knownLoadMore sequence loadMore hk
    show sequence ≤ m.loadMoreSequence ∧ loadMore.requestSequence ≤ m.refreshSequence
    omega
  · intro operationID delete hk
    have hle := h.knownDelete operationID delete hk
    show operationID ≤ m.deleteOperationSequence ∧ delete.requestSequence ≤ m.refreshSequence
    omega
  · intro endpoint heq
    show env.normalized m.serverAddressText = some endpoint
    rw [haddress]
    exact h.address endpoint (hload.symm.trans heq)
  · intro refresh hcurr
    have hequal := hrefreshing refresh hcurr
    omega
  · intro operationID delete hdeleting
    exact absurd hdeleting.2 (hdeletes operationID delete hdeleting.1)
  · intro loadMore hlding
    exact absurd hlding (hmores loadMore)
  · intro operationID delete hfound hphase heq
    have hcurr := h.unprocessed operationID delete hfound hphase (hload.symm.trans heq)
    exact absurd ⟨hfound, hcurr⟩ (h.not_deleting_of_empty hempty operationID delete)
  · intro heq
    obtain ⟨hnil, hnone⟩ := h.unloaded (hload.symm.trans heq)
    exact ⟨hitems.trans hnil, htoken.trans hnone⟩
  · intro endpoint heq
    obtain ⟨count, listed, removed, hshown⟩ := h.shows endpoint (hload.symm.trans heq)
    refine ⟨count, listed, removed, hshown.positive, ?_, ?_, ?_, hshown.listed_subset,
      hshown.removed_subset, ?_⟩
    · show m.items = _
      rw [hitems, show (s.setModel m).model = m from rfl, hsearch]
      exact hshown.items
    · show m.nextPageToken = _
      rw [htoken, show (s.setModel m).model = m from rfl, hsearch]
      exact hshown.token
    · intro hne
      exact hshown.fresh fun hequal => hne (htoken.trans hequal)
    · intro id hid
      rcases hshown.complete id hid with hlisted | hrem | ⟨operationID, delete, hdeleting, -⟩
      · exact .inl hlisted
      · exact .inr (.inl hrem)
      · exact absurd hdeleting (h.not_deleting_of_empty hempty operationID delete)

omit h

variable {value : Option (RefreshLibrary Endpoint)}

theorem setRefresh_refreshes : (s.setRefresh key value).refreshes sequence =
      if sequence = key then value else s.refreshes sequence := by
  exact update_apply _ _ _ _

theorem setLoadMore_loadMores {value : Option (LoadMore Endpoint)} :
    (s.setLoadMore key value).loadMores sequence =
      if sequence = key then value else s.loadMores sequence := by
  exact update_apply _ _ _ _

theorem setDelete_deletes {value : Option (DeleteItem Endpoint)} :
    (s.setDelete key value).deletes operationID =
      if operationID = key then value else s.deletes operationID := by
  exact update_apply _ _ _ _

include h

/-- A refresh that is new or moves on; `none` is one that returns. -/
theorem Sound.setRefresh (hk : key ≤ s.model.refreshSequence)
    (hsound : ∀ refresh, value = some refresh → key = s.model.refreshSequence →
      RefreshSound s refresh) : Sound env server (s.setRefresh key value) := by
  refine ⟨?_, h.knownLoadMore, h.knownDelete, h.address, ?_, ?_, ?_, h.unprocessed, h.unloaded,
    h.shows⟩
  · intro sequence refresh hfound
    rw [setRefresh_refreshes] at hfound
    split at hfound
    · rename_i hequal
      exact hequal.trans_le hk
    · exact h.knownRefresh sequence refresh hfound
  · intro refresh hfound
    rw [setRefresh_refreshes] at hfound
    split at hfound
    · rename_i hequal
      have hnow := hsound refresh hfound hequal.symm
      exact { hnow with }
    · have hb := h.refreshing refresh hfound
      exact { hb with }
  · intro operationID delete hdeleting
    have hb := h.deleting operationID delete hdeleting
    exact { hb with }
  · intro loadMore hlding
    have hb := h.loadingMore loadMore hlding
    exact { hb with }

theorem Sound.moveRefresh {refresh : RefreshLibrary Endpoint} {phase : RefreshLibraryPhase}
    (hfound : s.refreshes key = some refresh)
    (hlisting : ∀ supports listing, phase = .page supports listing →
      Listing.Current listing (s.deleted refresh.endpoint)) :
    Sound env server (s.setRefresh key (some { refresh with phase := phase })) := by
  apply h.setRefresh (h.knownRefresh key refresh hfound)
  intro moved hmoved hcurr
  cases hmoved
  have hb := h.refreshing refresh (hcurr ▸ hfound)
  exact ⟨hb.deletes, hb.loadMores, hlisting⟩

theorem Sound.dropRefresh {refresh : RefreshLibrary Endpoint}
    (hfound : s.refreshes key = some refresh) : Sound env server (s.setRefresh key none) :=
  h.setRefresh (h.knownRefresh key refresh hfound) fun _ hnone => by cases hnone

theorem Sound.setLoadMore {value : Option (LoadMore Endpoint)} {loadMore : LoadMore Endpoint}
    (hfound : s.loadMores key = some loadMore)
    (hsame : ∀ moved, value = some moved → moved.requestSequence = loadMore.requestSequence)
    (hsound : ∀ moved, value = some moved → LoadMoreSound s loadMore → LoadMoreSound s moved) :
    Sound env server (s.setLoadMore key value) := by
  have hlding : ∀ {moved}, (s.setLoadMore key value).LoadingMore moved →
      ∃ before, s.LoadingMore before ∧ (LoadMoreSound s before → LoadMoreSound s moved) := by
    rintro moved ⟨hmoved, hseq⟩
    rw [setLoadMore_loadMores] at hmoved
    split at hmoved
    · rename_i hequal
      refine ⟨loadMore, ⟨?_, (hsame moved hmoved).symm.trans hseq⟩, hsound moved hmoved⟩
      exact (congrArg s.loadMores hequal).trans hfound
    · exact ⟨moved, ⟨hmoved, hseq⟩, fun hb => hb⟩
  refine ⟨h.knownRefresh, ?_, h.knownDelete, h.address, ?_, ?_, ?_, h.unprocessed, h.unloaded,
    h.shows⟩
  · intro sequence moved hmoved
    rw [setLoadMore_loadMores] at hmoved
    split at hmoved
    · rename_i hequal
      obtain ⟨hk, hseq⟩ := h.knownLoadMore key loadMore hfound
      exact ⟨hequal.trans_le hk, (hsame moved hmoved).trans_le hseq⟩
    · exact h.knownLoadMore sequence moved hmoved
  · intro refresh hrefr
    have hb := h.refreshing refresh hrefr
    refine ⟨hb.deletes, ?_, hb.listing⟩
    intro moved hmoved
    obtain ⟨before, hnow, -⟩ := hlding hmoved
    exact hb.loadMores before hnow
  · intro operationID delete hdeleting
    have hb := h.deleting operationID delete hdeleting
    refine ⟨hb.loaded, hb.held, hb.owner, hb.alone, ?_, hb.deleted,
      hb.listing⟩
    intro moved hmoved
    obtain ⟨before, hnow, -⟩ := hlding hmoved
    exact hb.loadMores before hnow
  · intro moved hmoved
    obtain ⟨before, hnow, hmoves⟩ := hlding hmoved
    have ha := hmoves (h.loadingMore before hnow)
    exact { ha with }

theorem Sound.dropLoadMore {loadMore : LoadMore Endpoint} (hfound : s.loadMores key = some loadMore)
    : Sound env server (s.setLoadMore key none) :=
  h.setLoadMore hfound (fun _ hnone => by cases hnone) fun _ hnone => by cases hnone

omit h

variable {delete : DeleteItem Endpoint}

include h

theorem Sound.moveDelete {phase : DeletePhase}
    (hfound : s.deletes key = some delete) (ha : delete.phase ≠ .deleting)
    (hphase : phase ≠ .deleting)
    (hlisting : s.Deleting key delete → ∀ searchText listing, phase = .page searchText listing →
      searchText = s.model.activeSearchText ∧
        Listing.Current listing (s.deleted delete.endpoint)) :
    Sound env server (s.setDelete key (some { delete with phase := phase })) := by
  have hdeleting : ∀ {operationID moved},
      (s.setDelete key (some { delete with phase := phase })).Deleting operationID moved →
      (operationID = key ∧ moved = { delete with phase := phase } ∧ s.Deleting key delete) ∨
        (operationID ≠ key ∧ s.Deleting operationID moved) := by
    rintro operationID moved ⟨hmoved, hseq⟩
    rw [setDelete_deletes] at hmoved
    split at hmoved
    · rename_i hequal
      cases hmoved
      exact .inl ⟨hequal, rfl, hfound, hseq⟩
    · rename_i hne
      exact .inr ⟨hne, hmoved, hseq⟩
  have halone : ∀ {operationID}, (∀ other delete', s.Deleting other delete' →
      other = operationID) → ∀ other delete',
        (s.setDelete key (some { delete with phase := phase })).Deleting other delete' →
          other = operationID := by
    intro operationID hb other delete' hother
    rcases hdeleting hother with ⟨rfl, -, hnow⟩ | ⟨-, hnow⟩
    · exact hb other delete hnow
    · exact hb other delete' hnow
  refine ⟨h.knownRefresh, h.knownLoadMore, ?_, h.address, ?_, ?_, ?_, ?_, h.unloaded, ?_⟩
  · intro operationID moved hmoved
    rw [setDelete_deletes] at hmoved
    split at hmoved
    · rename_i hequal
      cases hmoved
      rw [hequal]
      exact h.knownDelete key delete hfound
    · exact h.knownDelete operationID moved hmoved
  · intro refresh hrefr
    have hb := h.refreshing refresh hrefr
    refine ⟨?_, hb.loadMores, hb.listing⟩
    intro operationID moved hmoved
    rw [setDelete_deletes] at hmoved
    split at hmoved
    · cases hmoved
      exact ⟨(hb.deletes key delete hfound).1, fun hequal => absurd hequal hphase⟩
    · exact hb.deletes operationID moved hmoved
  · intro operationID moved hmoved
    rcases hdeleting hmoved with ⟨rfl, rfl, hnow⟩ | ⟨-, hnow⟩
    · have hb := h.deleting operationID delete hnow
      exact ⟨hb.loaded, hb.held, hb.owner, halone hb.alone,
        hb.loadMores, fun _ => hb.deleted ha, hlisting hnow⟩
    · have hb := h.deleting operationID moved hnow
      exact ⟨hb.loaded, hb.held, hb.owner, halone hb.alone,
        hb.loadMores, hb.deleted, hb.listing⟩
  · intro loadMore hlding
    have hb := h.loadingMore loadMore hlding
    exact { hb with }
  · intro operationID moved hmoved hunproc
    rw [setDelete_deletes] at hmoved
    split at hmoved
    · cases hmoved
      exact absurd hunproc hphase
    · exact h.unprocessed operationID moved hmoved hunproc
  · intro endpoint hload
    refine (h.shows endpoint hload).mono ?_
    rintro id - ⟨operationID, waiting, hwait, hprocessed, hid⟩
    by_cases hequal : operationID = key
    · have hsame : waiting = delete := by
        have hthere := hwait.1
        rw [hequal, hfound] at hthere
        cases hthere
        rfl
      subst hsame
      refine ⟨key, { waiting with phase := phase }, ⟨?_, hwait.2⟩, hphase, hid⟩
      rw [setDelete_deletes, if_pos rfl]
    · refine ⟨operationID, waiting, ⟨?_, hwait.2⟩, hprocessed, hid⟩
      rw [setDelete_deletes, if_neg hequal]
      exact hwait.1

theorem Sound.showing (hmores : ∀ loadMore, ¬ s.LoadingMore loadMore)
    (hsame : SameOperations s.model m)
    (hunloaded : m.loadedEndpoint = none → m.items = [] ∧ m.nextPageToken = "")
    (hshows : ∀ endpoint, s.model.loadedEndpoint = some endpoint →
      ShowsPages server m endpoint (s.deleted endpoint) s.Pending) :
    Sound env server (s.setModel m) := by
  obtain ⟨model, refreshes, loadMores, deletes, playbacks, deleted⟩ := s
  obtain ⟨⟩ := model
  obtain ⟨⟩ := m
  obtain ⟨haddress, hload, hsearch, hh, howners, hrefr, hmore, hdelete⟩ := hsame
  subst haddress hload hsearch hh howners hrefr hmore hdelete
  refine ⟨h.knownRefresh, h.knownLoadMore, h.knownDelete, h.address, ?_, ?_, ?_, h.unprocessed,
    hunloaded, hshows⟩
  · intro refresh hrefr
    have hsound := h.refreshing refresh hrefr
    exact { hsound with }
  · intro operationID delete hdeleting
    have hsound := h.deleting operationID delete hdeleting
    exact { hsound with }
  · intro loadMore hlding
    exact absurd hlding (hmores loadMore)

theorem Sound.load {endpoint : Endpoint} (hmores : ∀ loadMore, ¬ s.LoadingMore loadMore)
    (hidle : s.refreshes s.model.refreshSequence = none)
    (hdeletes : ∀ operationID delete, s.deletes operationID = some delete →
      delete.requestSequence ≠ s.model.refreshSequence ∧
        (delete.phase = .deleting → delete.endpoint ≠ endpoint))
    (hnormalized : env.normalized m.serverAddressText = some endpoint)
    (hload : m.loadedEndpoint = some endpoint)
    (hrefr : m.refreshSequence = s.model.refreshSequence)
    (hmore : m.loadMoreSequence = s.model.loadMoreSequence)
    (hdelete : m.deleteOperationSequence = s.model.deleteOperationSequence)
    (hshows : ∀ pending, ShowsPages server m endpoint (s.deleted endpoint) pending) :
    Sound env server (s.setModel m) := by
  have hsame : ∀ {other}, m.loadedEndpoint = some other → other = endpoint := by
    intro other hother
    rw [hload] at hother
    cases hother
    rfl
  constructor
  · intro sequence refresh hk
    exact (h.knownRefresh sequence refresh hk).trans_eq hrefr.symm
  · intro sequence loadMore hk
    have hle := h.knownLoadMore sequence loadMore hk
    show sequence ≤ m.loadMoreSequence ∧ loadMore.requestSequence ≤ m.refreshSequence
    omega
  · intro operationID delete hk
    have hle := h.knownDelete operationID delete hk
    show operationID ≤ m.deleteOperationSequence ∧ delete.requestSequence ≤ m.refreshSequence
    omega
  · intro other hother
    rw [hsame hother]
    exact hnormalized
  · intro refresh hcurr
    replace hcurr : s.refreshes m.refreshSequence = some refresh := hcurr
    rw [hrefr, hidle] at hcurr
    cases hcurr
  · intro operationID delete hdeleting
    exact absurd (hdeleting.2.trans hrefr) (hdeletes operationID delete hdeleting.1).1
  · intro loadMore hlding
    refine absurd ⟨?_, hlding.2.trans hrefr⟩ (hmores loadMore)
    rw [← hmore]
    exact hlding.1
  · intro operationID delete hfound hphase hother
    exact absurd (hsame hother) ((hdeletes operationID delete hfound).2 hphase)
  · intro hnone
    replace hnone : m.loadedEndpoint = none := hnone
    rw [hload] at hnone
    cases hnone
  · intro other hother
    rw [hsame hother]
    exact hshows _

omit h

theorem finishDeletingItem_spec (m : LibraryModel Endpoint) (itemID : String) (key : Nat) :
    ∃ held owners, m.finishDeletingItem itemID key =
        { m with deletingItemIDs := held, deletingItemOperationIDs := owners } ∧
      ∀ id owner, id ∈ m.deletingItemIDs → m.deletingItemOperationIDs id = some owner →
        owner ≠ key → id ∈ held ∧ owners id = some owner := by
  unfold finishDeletingItem
  split
  · rename_i ho
    refine ⟨_, _, rfl, ?_⟩
    intro id owner hh hother hne
    have hdifferent : id ≠ itemID := by
      rintro rfl
      rw [ho] at hother
      cases hother
      exact hne rfl
    rw [update_apply, if_neg hdifferent]
    exact ⟨mem_erase.mpr ⟨hdifferent, hh⟩, hother⟩
  · exact ⟨m.deletingItemIDs, m.deletingItemOperationIDs, rfl,
      fun id owner hh hother _ => ⟨hh, hother⟩⟩

include h

theorem Sound.endDelete (hfound : s.deletes key = some delete)
    (hshows : s.Deleting key delete → ∀ endpoint, s.model.loadedEndpoint = some endpoint →
      ShowsPages server s.model endpoint (s.deleted endpoint) fun _ => False) :
    Sound env server (s.endDelete key delete) := by
  obtain ⟨held, owners, hmodel, hk⟩ := finishDeletingItem_spec s.model delete.itemID key
  unfold LibrarySystem.endDelete
  rw [hmodel]
  have hleft : ∀ {operationID other},
      ((s.setModel { s.model with
          deletingItemIDs := held
          deletingItemOperationIDs := owners }).setDelete key none).deletes operationID =
        some other → operationID ≠ key ∧ s.deletes operationID = some other := by
    intro operationID other hother
    rw [setDelete_deletes] at hother
    split at hother
    · cases hother
    · rename_i hne
      exact ⟨hne, hother⟩
  refine ⟨h.knownRefresh, h.knownLoadMore, ?_, h.address, ?_, ?_, ?_, ?_, h.unloaded, ?_⟩
  · intro operationID other hother
    exact h.knownDelete operationID other (hleft hother).2
  · intro refresh hrefr
    have hb := h.refreshing refresh hrefr
    exact ⟨fun operationID other hother => hb.deletes operationID other (hleft hother).2,
      hb.loadMores, hb.listing⟩
  · intro operationID other hother
    obtain ⟨hne, hthere⟩ := hleft hother.1
    have hb := h.deleting operationID other ⟨hthere, hother.2⟩
    obtain ⟨hh, ho⟩ := hk other.itemID operationID hb.held hb.owner hne
    exact ⟨hb.loaded, hh, ho,
      fun another delete' hanother =>
        hb.alone another delete' ⟨(hleft hanother.1).2, hanother.2⟩,
      hb.loadMores, hb.deleted, hb.listing⟩
  · intro loadMore hlding
    have hb := h.loadingMore loadMore hlding
    exact { hb with }
  · intro operationID other hother
    exact h.unprocessed operationID other (hleft hother).2
  · intro endpoint hload
    have ha : ∀ {pending : String → Prop},
        ShowsPages server s.model endpoint (s.deleted endpoint) pending →
        ShowsPages server { s.model with
          deletingItemIDs := held
          deletingItemOperationIDs := owners } endpoint (s.deleted endpoint)
          pending := by
      rintro pending ⟨count, listed, removed, hshown⟩
      exact ⟨count, listed, removed, { hshown with }⟩
    apply ha
    by_cases hcurr : s.Deleting key delete
    · exact (hshows hcurr endpoint hload).mono fun _ _ hfalse => hfalse.elim
    refine (h.shows endpoint hload).mono ?_
    rintro id - ⟨operationID, waiting, hwait, hprocessed, hid⟩
    have hne : operationID ≠ key := by
      rintro rfl
      have hthere := hwait.1
      rw [hfound] at hthere
      cases hthere
      exact hcurr hwait
    refine ⟨operationID, waiting, ⟨?_, hwait.2⟩, hprocessed, hid⟩
    rw [setDelete_deletes, if_neg hne]
    exact hwait.1

theorem Sound.failDelete (hfound : s.deletes key = some delete) (hphase : delete.phase = .deleting)
    : Sound env server (s.endDelete key delete) := by
  apply h.endDelete hfound
  intro hcurr endpoint hload
  refine (h.shows endpoint hload).mono ?_
  rintro id - ⟨operationID, waiting, hwait, hprocessed, -⟩
  obtain rfl := (h.deleting key delete hcurr).alone operationID waiting hwait
  have hthere := hwait.1
  rw [hfound] at hthere
  cases hthere
  exact hprocessed hphase

variable {id searchText : String}

theorem Sound.eq_of_pending (hcurr : s.Deleting key delete)
    (hpend : s.Pending id) : id = delete.itemID := by
  obtain ⟨operationID, waiting, hwait, -, hid⟩ := hpend
  obtain rfl := (h.deleting key delete hcurr).alone operationID waiting hwait
  have hthere := hwait.1
  rw [hcurr.1] at hthere
  cases hthere
  exact hid.symm

omit h

variable [DecidableEq Endpoint]

theorem isCurrentRefresh_iff {endpoint : Endpoint} :
    m.isCurrentRefresh env requestSequence endpoint = true ↔
      requestSequence = m.refreshSequence ∧ env.normalized m.serverAddressText = some endpoint := by
  unfold isCurrentRefresh
  rw [Bool.and_eq_true, beq_iff_eq, beq_iff_eq]

theorem isCurrentRefreshFor_iff {endpoint : Endpoint} :
    m.isCurrentRefreshFor env requestSequence endpoint searchText = true ↔
      (requestSequence = m.refreshSequence ∧
        env.normalized m.serverAddressText = some endpoint) ∧
        m.normalizedSearchText env = searchText := by
  unfold isCurrentRefreshFor
  rw [Bool.and_eq_true, isCurrentRefresh_iff, beq_iff_eq]

include h

theorem Sound.not_deleting_of_stale
    (hstale : ¬ s.model.isCurrentRefresh env delete.requestSequence delete.endpoint = true) :
    ¬ s.Deleting key delete := by
  intro hcurr
  apply hstale
  rw [isCurrentRefresh_iff]
  exact ⟨hcurr.2, h.address _ (h.deleting key delete hcurr).loaded⟩

theorem Sound.endStaleDelete (hfound : s.deletes key = some delete)
    (hstale : ¬ s.model.isCurrentRefresh env delete.requestSequence delete.endpoint = true) :
    Sound env server (s.endDelete key delete) :=
  h.endDelete hfound fun hcurr => absurd hcurr (h.not_deleting_of_stale hstale)

theorem Sound.setServerAddressText (text : String) :
    Sound env server (s.setModel (s.model.setServerAddressText env text)) := by
  unfold LibraryModel.setServerAddressText clearLoadedLibraryIfNeeded
  dsimp only
  split
  · rename_i hsame
    exact h.frame ⟨⟨hsame, rfl, rfl, rfl, rfl, rfl, rfl, rfl⟩, rfl, rfl⟩
  split
  · obtain ⟨hrefreshing, hdeletes, hmores⟩ := h.not_current_of_bump rfl
    exact h.unload (le_succ _) (le_succ _) rfl rfl rfl rfl hrefreshing hdeletes hmores
  · rename_i hk
    -- The same endpoint by another text.
    refine h.readdress ⟨⟨rfl, rfl, rfl, rfl, rfl, rfl, rfl, rfl⟩, rfl, rfl⟩ ?_
    intro endpoint hload
    by_contra hne
    apply hk
    refine .inr (.inl ⟨?_, ?_⟩)
    · rw [hload]
      exact Option.some_ne_none _
    · rw [hload]
      exact hne

omit h

omit [DecidableEq Endpoint] in
theorem Sound.setSearchText (h : Sound env server s) (text : String) :
    Sound env server (s.setModel (s.model.setSearchText env text)) := by
  unfold LibraryModel.setSearchText markSearchPendingIfNeeded
  split
  · rename_i hmarked
    exact h.bump hmarked.2.2 rfl (le_succ _) rfl rfl rfl rfl rfl rfl
  · exact h.frame ⟨⟨rfl, rfl, rfl, rfl, rfl, rfl, rfl, rfl⟩, rfl, rfl⟩

omit [DecidableEq Endpoint] in
theorem Sound.refresh (h : Sound env server s)
    (hcareful : s.model.deletingItemIDs = ∅ → ∀ endpoint,
      env.normalized s.model.serverAddressText = some endpoint →
      ∀ operationID delete, s.deletes operationID = some delete →
        delete.phase = .deleting → delete.endpoint ≠ endpoint) :
    Sound env server (s.refresh env) := by
  unfold LibrarySystem.refresh
  split
  · exact h
  rename_i hempty
  replace hempty := not_not.mp hempty
  dsimp only
  obtain ⟨hrefreshing, hdeletes, hmores⟩ := h.not_current_of_bump rfl
  split
  · refine h.unload (le_succ _) ?_ rfl rfl rfl rfl hrefreshing hdeletes hmores
    show s.model.loadMoreSequence ≤ s.model.loadMoreSequence + 1 + 1
    omega
  · rename_i endpoint hendpoint
    refine Sound.setRefresh (s := s.setModel _) ?_ le_rfl ?_
    · exact h.bump hempty rfl (le_succ _) rfl rfl rfl rfl rfl rfl
    intro begun hbegun _
    cases hbegun
    refine ⟨?_, hmores, fun _ _ hpage => by cases hpage⟩
    intro operationID delete hfound
    exact ⟨hdeletes operationID delete hfound,
      hcareful hempty endpoint hendpoint operationID delete hfound⟩

variable {deleted : Finset String}

include h

theorem Sound.finishRefresh {refresh : RefreshLibrary Endpoint} {supports : Bool}
    (hfound : s.refreshes key = some refresh)
    (hphase : refresh.phase = .page supports (.answered deleted)) :
    Sound env server (s.finishRefresh env server key refresh supports deleted) := by
  unfold LibrarySystem.finishRefresh
  dsimp only
  split
  · rename_i hcurr
    obtain ⟨⟨hseq, hnormalized⟩, -⟩ := isCurrentRefreshFor_iff.mp hcurr
    have hsound := h.refreshing refresh (hseq ▸ hfound)
    obtain rfl := hsound.listing supports _ hphase deleted rfl
    have hload := (h.dropRefresh hfound).load
      (m := { s.model with
        loadedEndpoint := some refresh.endpoint
        canDeleteLibraryItems := supports
        items := (server.page refresh.endpoint (s.deleted refresh.endpoint)
          (searchTextForRequest refresh.requestedSearchText) "").items
        nextPageToken := (server.page refresh.endpoint (s.deleted refresh.endpoint)
          (searchTextForRequest refresh.requestedSearchText) "").nextPageToken
        requestedLibraryPageTokens := {""}
        activeSearchText := refresh.requestedSearchText })
      hsound.loadMores (by rw [setRefresh_refreshes]; exact if_pos hseq.symm)
      hsound.deletes hnormalized rfl rfl rfl rfl
      (fun _ => showsPages_first rfl rfl rfl)
    have haddressed := hload.setServerAddressText (env.displayAddress refresh.endpoint)
    exact haddressed.frame ⟨⟨rfl, rfl, rfl, rfl, rfl, rfl, rfl, rfl⟩, rfl, rfl⟩
  · exact h.dropRefresh hfound

theorem Sound.failRefresh {refresh : RefreshLibrary Endpoint}
    (hfound : s.refreshes key = some refresh) :
    Sound env server (s.failRefresh env key refresh) := by
  unfold LibrarySystem.failRefresh
  dsimp only
  split
  · rename_i hcurr
    obtain ⟨⟨hseq, -⟩, -⟩ := isCurrentRefreshFor_iff.mp hcurr
    have hsound := h.refreshing refresh (hseq ▸ hfound)
    exact (h.dropRefresh hfound).unload le_rfl le_rfl rfl rfl rfl rfl
      (fun _ _ => rfl) (fun operationID delete hthere => (hsound.deletes operationID delete
        hthere).1) hsound.loadMores
  · exact h.dropRefresh hfound

theorem Sound.endLoadMore {loadMore : LoadMore Endpoint} (hfound : s.loadMores key = some loadMore)
    : Sound env server (s.endLoadMore env key loadMore) := by
  unfold LibrarySystem.endLoadMore
  dsimp only
  split
  · exact (h.dropLoadMore hfound).frame ⟨⟨rfl, rfl, rfl, rfl, rfl, rfl, rfl, rfl⟩, rfl, rfl⟩
  · exact h.dropLoadMore hfound

theorem Sound.loadMore
    (hcareful : s.model.canLoadMore env = true → s.refreshes s.model.refreshSequence = none) :
    Sound env server (s.loadMore env) := by
  unfold LibrarySystem.loadMore
  split
  · rename_i hcan
    have hidle := hcareful hcan
    unfold canLoadMore hasMoreItems at hcan
    simp only [Bool.and_eq_true, decide_eq_true_eq, bne_iff_ne, ne_eq] at hcan
    obtain ⟨⟨⟨⟨-, hfoll, -⟩, -⟩, -⟩, hempty⟩ := hcan
    split
    · exact h
    rename_i endpoint hload
    have hnone := h.not_deleting_of_empty hempty
    rw [if_pos (h.address endpoint hload)]
    refine ⟨h.knownRefresh, ?_, h.knownDelete, h.address, ?_, ?_, ?_, h.unprocessed, h.unloaded, ?_⟩
    · intro sequence loadMore hthere
      rw [setLoadMore_loadMores] at hthere
      split at hthere
      · rename_i hequal
        cases hthere
        exact ⟨le_of_eq hequal, le_rfl⟩
      · obtain ⟨hle, hseq⟩ := h.knownLoadMore sequence loadMore hthere
        exact ⟨le_succ_of_le hle, hseq⟩
    · intro refresh hrefr
      replace hrefr : s.refreshes s.model.refreshSequence = some refresh := hrefr
      rw [hidle] at hrefr
      cases hrefr
    · intro operationID delete hdeleting
      exact absurd hdeleting (hnone operationID delete)
    · rintro loadMore ⟨hthere, -⟩
      rw [setLoadMore_loadMores] at hthere
      split at hthere
      · cases hthere
        exact ⟨hload, rfl, hfoll, rfl, fun _ hanswered => by cases hanswered⟩
      · rename_i hne
        exact absurd rfl hne
    · intro other hother
      obtain ⟨count, listed, removed, hshown⟩ := h.shows other hother
      exact ⟨count, listed, removed, { hshown with }⟩
  · exact h

/-- The page that answers names another page than those that were asked for. -/
def Follows (server : LibraryServer Endpoint) (s : LibrarySystem Endpoint) (sequence : Nat)
    (loadMore : LoadMore Endpoint) (deleted : Finset String) : Prop :=
  s.LoadingMore loadMore → sequence = s.model.loadMoreSequence →
    s.model.isRepeatedLibraryPageToken (server.page loadMore.endpoint deleted
      (searchTextForRequest loadMore.requestedSearchText) loadMore.requestedPageToken).nextPageToken
      loadMore.requestedPageToken = false

theorem Sound.finishLoadMore {loadMore : LoadMore Endpoint}
    (hfound : s.loadMores key = some loadMore) (hlisting : loadMore.listing = .answered deleted)
    (hfollows : s.Follows server key loadMore deleted) :
    Sound env server (s.finishLoadMore env server key loadMore deleted) := by
  unfold LibrarySystem.finishLoadMore
  split
  · rename_i hcurr
    obtain ⟨hk, hrefr⟩ := hcurr
    obtain ⟨⟨hseq, -⟩, -⟩ := isCurrentRefreshFor_iff.mp hrefr
    have hlding : s.LoadingMore loadMore := ⟨hk ▸ hfound, hseq⟩
    have hsound := h.loadingMore loadMore hlding
    obtain rfl := hsound.listing deleted hlisting
    have hnone : ∀ operationID delete, ¬ s.Deleting operationID delete := by
      intro operationID delete hdeleting
      exact (h.deleting operationID delete hdeleting).loadMores loadMore hlding
    have hpend : ∀ id, ¬ s.Pending id := by
      rintro id ⟨operationID, delete, hdeleting, -⟩
      exact hnone operationID delete hdeleting
    have hdropped := h.dropLoadMore hfound
    have hmores : ∀ other, ¬ (s.setLoadMore key none).LoadingMore other := by
      rintro other ⟨hother, -⟩
      rw [setLoadMore_loadMores, show (s.setLoadMore key none).model = s.model from rfl,
        if_pos hk.symm] at hother
      cases hother
    have hshows := h.shows loadMore.endpoint hsound.loaded
    have hsame : ∀ {other}, s.model.loadedEndpoint = some other → other = loadMore.endpoint := by
      intro other hother
      rw [hsound.loaded] at hother
      cases hother
      rfl
    have hunloaded : ∀ {P : Prop}, s.model.loadedEndpoint = none → P := by
      intro P hnothing
      rw [hsound.loaded] at hnothing
      cases hnothing
    unfold LibrarySystem.endLoadMore
    dsimp only
    split
    · rename_i hrepeated
      exact absurd hrepeated (by rw [hfollows hlding hk]; exact Bool.false_ne_true)
    · generalize hpage : server.page loadMore.endpoint (s.deleted loadMore.endpoint)
        (searchTextForRequest loadMore.requestedSearchText) loadMore.requestedPageToken = page
      rw [hsound.search, hsound.token] at hpage
      have happended : Sound env server ((s.setLoadMore key none).setModel { s.model with
          items := s.model.items ++ page.items
          requestedLibraryPageTokens :=
            insert loadMore.requestedPageToken s.model.requestedLibraryPageTokens
          nextPageToken := page.nextPageToken }) := by
        refine hdropped.showing (m := { s.model with
            items := s.model.items ++ page.items
            requestedLibraryPageTokens :=
              insert loadMore.requestedPageToken s.model.requestedLibraryPageTokens
            nextPageToken := page.nextPageToken }) hmores
          ⟨rfl, rfl, rfl, rfl, rfl, rfl, rfl, rfl⟩ (fun hnothing => hunloaded hnothing) ?_
        · intro other hother
          rw [hsame hother]
          refine hshows.append hpend hsound.follows ?_ ?_ rfl
          · rw [hpage]
          · rw [hpage]
      split
      · exact happended.frame ⟨⟨rfl, rfl, rfl, rfl, rfl, rfl, rfl, rfl⟩, rfl, rfl⟩
      · exact happended
  · exact h.endLoadMore hfound

omit h

variable {item : CacheLibraryItem}

include h

theorem Sound.deleteItem
    (hcareful : s.model.canDelete item = true → s.refreshes s.model.refreshSequence = none) :
    Sound env server (s.deleteItem env item) := by
  unfold LibrarySystem.deleteItem
  split
  · rename_i hcan
    have hidle := hcareful hcan
    unfold canDelete at hcan
    simp only [Bool.and_eq_true, decide_eq_true_eq] at hcan
    obtain ⟨⟨⟨-, hempty⟩, -⟩, -⟩ := hcan
    split
    · exact h
    rename_i endpoint hload
    have hnone := h.not_deleting_of_empty hempty
    rw [if_pos (h.address endpoint hload)]
    have hmores : ∀ loadMore, ¬ (s.loadMores (s.model.loadMoreSequence + 1) = some loadMore) := by
      intro loadMore hthere
      have hle := (h.knownLoadMore _ loadMore hthere).1
      omega
    have hn : ∀ {operationID delete}, s.deletes operationID = some delete →
        operationID ≠ s.model.deleteOperationSequence + 1 := by
      intro operationID delete hthere
      have hle := (h.knownDelete operationID delete hthere).1
      omega
    refine ⟨h.knownRefresh, ?_, ?_, h.address, ?_, ?_, ?_, ?_, h.unloaded, ?_⟩
    · intro sequence loadMore hthere
      obtain ⟨hle, hseq⟩ := h.knownLoadMore sequence loadMore hthere
      exact ⟨le_succ_of_le hle, hseq⟩
    · intro operationID delete hthere
      rw [setDelete_deletes] at hthere
      split at hthere
      · rename_i hequal
        cases hthere
        exact ⟨le_of_eq hequal, le_rfl⟩
      · obtain ⟨hle, hseq⟩ := h.knownDelete operationID delete hthere
        exact ⟨le_succ_of_le hle, hseq⟩
    · intro refresh hrefr
      replace hrefr : s.refreshes s.model.refreshSequence = some refresh := hrefr
      rw [hidle] at hrefr
      cases hrefr
    · rintro operationID delete ⟨hthere, hseq⟩
      rw [setDelete_deletes] at hthere
      split at hthere
      · rename_i hequal
        cases hthere
        refine ⟨hload, mem_insert_self _ _, ?_, ?_, ?_, fun hne => absurd rfl hne,
          fun _ _ hpage => by cases hpage⟩
        · rw [hequal]
          exact update_self _ _ _
        · rintro other delete' ⟨hother, hother'⟩
          rw [setDelete_deletes] at hother
          split at hother
          · rename_i hsame
            exact hsame.trans hequal.symm
          · exact absurd ⟨hother, hother'⟩ (hnone other delete')
        · rintro loadMore ⟨hlding, -⟩
          exact hmores loadMore hlding
      · exact absurd ⟨hthere, hseq⟩ (hnone operationID delete)
    · rintro loadMore ⟨hlding, -⟩
      exact absurd hlding (hmores loadMore)
    · intro operationID delete hthere hphase hother
      rw [setDelete_deletes] at hthere
      split at hthere
      · cases hthere
        rfl
      · exact h.unprocessed operationID delete hthere hphase hother
    · intro other hother
      have hshows : ShowsPages server s.model other (s.deleted other)
          fun _ => False := by
        refine (h.shows other hother).mono ?_
        rintro id - ⟨operationID, delete, hdeleting, -⟩
        exact hnone operationID delete hdeleting
      obtain ⟨count, listed, removed, hshown⟩ := hshows
      refine ⟨count, listed, removed, { hshown with complete := ?_ }⟩
      intro id hid
      rcases hshown.complete id hid with hlisted | hrem | hfalse
      · exact .inl hlisted
      · exact .inr (.inl hrem)
      · exact hfalse.elim
  · exact h

omit h in
theorem processDelete_deletes {moved : DeleteItem Endpoint}
    (hmoved : (s.processDelete key delete).deletes operationID = some moved) :
    (operationID = key ∧ moved = { delete with phase := .processed }) ∨
      (operationID ≠ key ∧ s.deletes operationID = some moved) := by
  rw [LibrarySystem.processDelete, setDelete_deletes] at hmoved
  split at hmoved
  · rename_i hequal
    cases hmoved
    exact .inl ⟨hequal, rfl⟩
  · rename_i hne
    exact .inr ⟨hne, hmoved⟩

omit h in
theorem processDelete_alone (hfound : s.deletes key = some delete)
    (hb : ∀ other delete', s.Deleting other delete' → other = operationID) :
    ∀ other delete', (s.processDelete key delete).Deleting other delete' →
      other = operationID := by
  intro other delete' hother
  rcases processDelete_deletes hother.1 with ⟨rfl, rfl⟩ | ⟨-, hnow⟩
  · exact hb other delete ⟨hfound, hother.2⟩
  · exact hb other delete' ⟨hnow, hother.2⟩

omit h in
theorem processDelete_pending (hfound : s.deletes key = some delete)
    (hphase : delete.phase = .deleting) {id : String} (hpend : s.Pending id) :
    (s.processDelete key delete).Pending id := by
  obtain ⟨operationID, waiting, hwait, hprocessed, hid⟩ := hpend
  refine ⟨operationID, waiting, ⟨?_, hwait.2⟩, hprocessed, hid⟩
  have hne : operationID ≠ key := by
    rintro rfl
    have hsame := hwait.1
    rw [hfound] at hsame
    cases hsame
    exact hprocessed hphase
  rw [LibrarySystem.processDelete, setDelete_deletes, if_neg hne]
  exact hwait.1

theorem Sound.processDelete (hfound : s.deletes key = some delete)
    (hphase : delete.phase = .deleting) : Sound env server (s.processDelete key delete) := by
  have hdeleted : ∀ {endpoint}, endpoint ≠ delete.endpoint →
      Function.update s.deleted delete.endpoint
        (insert delete.itemID (s.deleted delete.endpoint)) endpoint = s.deleted endpoint :=
    fun hne => update_of_ne hne _ _
  have hgrows : ∀ {endpoint id}, id ∈ s.deleted endpoint →
      id ∈ Function.update s.deleted delete.endpoint
        (insert delete.itemID (s.deleted delete.endpoint)) endpoint := by
    intro endpoint id hid
    rw [update_apply]
    split
    · rename_i hequal
      exact mem_insert_of_mem (hequal ▸ hid)
    · exact hid
  have hcurr : ∀ {endpoint}, s.model.loadedEndpoint = some endpoint →
      endpoint = delete.endpoint → s.Deleting key delete := by
    intro endpoint hload hequal
    exact ⟨hfound, h.unprocessed key delete hfound hphase (hequal ▸ hload)⟩
  refine ⟨h.knownRefresh, h.knownLoadMore, ?_, h.address, ?_, ?_, ?_, ?_, h.unloaded, ?_⟩
  · intro operationID moved hmoved
    rcases processDelete_deletes hmoved with ⟨rfl, rfl⟩ | ⟨-, hnow⟩
    · exact h.knownDelete operationID delete hfound
    · exact h.knownDelete operationID moved hnow
  · intro refresh hrefr
    have hb := h.refreshing refresh hrefr
    have hother := (hb.deletes key delete hfound).2 hphase
    refine ⟨?_, hb.loadMores, ?_⟩
    · intro operationID moved hmoved
      rcases processDelete_deletes hmoved with ⟨rfl, rfl⟩ | ⟨-, hnow⟩
      · exact ⟨(hb.deletes operationID delete hfound).1, fun hunproc => by
          cases hunproc⟩
      · exact hb.deletes operationID moved hnow
    · intro supports listing hpage answered hanswered
      refine (hb.listing supports listing hpage answered hanswered).trans ?_
      exact (hdeleted hother.symm).symm
  · rintro operationID moved ⟨hmoved, hseq⟩
    rcases processDelete_deletes hmoved with ⟨rfl, rfl⟩ | ⟨hne, hnow⟩
    · have hb := h.deleting operationID delete ⟨hfound, hseq⟩
      refine ⟨hb.loaded, hb.held, hb.owner, processDelete_alone hfound hb.alone,
        hb.loadMores, fun _ => ?_, fun _ _ hpage => by cases hpage⟩
      show delete.itemID ∈ Function.update s.deleted delete.endpoint _ delete.endpoint
      rw [update_self]
      exact mem_insert_self _ _
    · have hb := h.deleting operationID moved ⟨hnow, hseq⟩
      refine ⟨hb.loaded, hb.held, hb.owner, processDelete_alone hfound hb.alone,
        hb.loadMores, fun hprocessed => hgrows (hb.deleted hprocessed), ?_⟩
      intro searchText listing hpage
      obtain ⟨hsearch, hlisting⟩ := hb.listing searchText listing hpage
      refine ⟨hsearch, fun answered hanswered => (hlisting answered hanswered).trans ?_⟩
      -- Another operation of this endpoint would be the only one.
      have hother : moved.endpoint ≠ delete.endpoint := by
        intro hequal
        exact hne (hb.alone key delete (hcurr hb.loaded hequal)).symm
      exact (hdeleted hother).symm
  · intro loadMore hlding
    have hb := h.loadingMore loadMore hlding
    refine ⟨hb.loaded, hb.token, hb.follows, hb.search, ?_⟩
    intro answered hanswered
    refine (hb.listing answered hanswered).trans ?_
    have hother : loadMore.endpoint ≠ delete.endpoint := by
      intro hequal
      have hdeleting := hcurr hb.loaded hequal
      exact (h.deleting key delete hdeleting).loadMores loadMore hlding
    exact (hdeleted hother).symm
  · intro operationID moved hmoved hunproc
    rcases processDelete_deletes hmoved with ⟨rfl, rfl⟩ | ⟨-, hnow⟩
    · cases hunproc
    · exact h.unprocessed operationID moved hnow hunproc
  · intro endpoint hload
    have hb := h.shows endpoint hload
    by_cases hequal : endpoint = delete.endpoint
    · have hdeleting := hcurr hload hequal
      have hwaits : (s.processDelete key delete).Pending delete.itemID := by
        refine ⟨key, { delete with phase := .processed }, ⟨?_, hdeleting.2⟩,
          (fun hunproc => by cases hunproc), rfl⟩
        rw [LibrarySystem.processDelete, setDelete_deletes, if_pos rfl]
      subst hequal
      show ShowsPages server s.model delete.endpoint
        (Function.update s.deleted delete.endpoint _ delete.endpoint) _
      rw [update_self]
      exact hb.delete hwaits fun _ => processDelete_pending hfound hphase
    · show ShowsPages server s.model endpoint
        (Function.update s.deleted delete.endpoint _ endpoint) _
      rw [hdeleted hequal]
      exact hb.mono fun _ _ => processDelete_pending hfound hphase

theorem Sound.confirmDelete (hfound : s.deletes key = some delete)
    (hphase : delete.phase = .processed) : Sound env server (s.confirmDelete env key delete) := by
  unfold LibrarySystem.confirmDelete
  have hprocessed : delete.phase ≠ .deleting := by
    rw [hphase]
    exact fun hunproc => by cases hunproc
  split
  · have hframed : Sound env server (s.setModel (s.model.clearPlaybackIfNeeded delete.itemID)) := by
      unfold clearPlaybackIfNeeded
      split
      · exact h.frame ⟨⟨rfl, rfl, rfl, rfl, rfl, rfl, rfl, rfl⟩, rfl, rfl⟩
      · exact h
    exact hframed.moveDelete hfound hprocessed (fun hunproc => by cases hunproc)
      fun _ _ _ hpage => by cases hpage
  · rename_i hstale
    exact h.endStaleDelete hfound hstale

omit h

omit [DecidableEq Endpoint] in
theorem Sound.takeDeleted {pending : String → Prop} {endpoint} (h : Sound env server s)
    (hcurr : s.Deleting key delete) (hprocessed : delete.phase ≠ .deleting)
    (hload : s.model.loadedEndpoint = some endpoint) {shown : LibraryModel Endpoint}
    (hshows : ShowsPages server shown endpoint (s.deleted endpoint) s.Pending)
    (htoken : shown.nextPageToken = "") :
    ShowsPages server (shown.removeItem delete.itemID) endpoint (s.deleted endpoint)
      pending := by
  have hsound := h.deleting key delete hcurr
  have hequal : endpoint = delete.endpoint := by
    have hthere := hsound.loaded
    rw [hload] at hthere
    cases hthere
    rfl
  refine hshows.take (hequal ▸ hsound.deleted hprocessed) htoken ?_
  intro id hwait hne
  exact absurd (h.eq_of_pending hcurr hwait) hne

include h

omit [DecidableEq Endpoint] in
theorem Sound.endShowing (hcurr : s.Deleting key delete)
    (hsame : SameOperations s.model m)
    (hshows : ∀ {endpoint} {pending : String → Prop}, s.model.loadedEndpoint = some endpoint →
      ShowsPages server m endpoint (s.deleted endpoint) pending) :
    Sound env server ((s.setModel m).endDelete key delete) := by
  have hsound := h.deleting key delete hcurr
  have hshown : Sound env server (s.setModel m) := by
    refine h.showing hsound.loadMores hsame ?_ fun endpoint hload => hshows hload
    intro hnone
    rw [hsame.loaded, hsound.loaded] at hnone
    cases hnone
  exact hshown.endDelete hcurr.1 fun _ endpoint hload =>
    hshows (hsame.loaded.symm.trans hload)

theorem Sound.continueDelete (hfound : s.deletes key = some delete)
    (hphase : delete.phase = .cacheRoots) : Sound env server (s.continueDelete env key delete) := by
  unfold LibrarySystem.continueDelete
  have hprocessed : delete.phase ≠ .deleting := by
    rw [hphase]
    exact fun hunproc => by cases hunproc
  split
  · rename_i hrefr
    have hcurr : s.Deleting key delete := ⟨hfound, (isCurrentRefresh_iff.mp hrefr).1⟩
    split
    · rename_i htoken
      refine h.endShowing hcurr ⟨rfl, rfl, rfl, rfl, rfl, rfl, rfl, rfl⟩ ?_
      intro endpoint pending hload
      exact h.takeDeleted hcurr hprocessed hload (h.shows endpoint hload) htoken
    · refine h.moveDelete hfound hprocessed (fun hunproc => by cases hunproc) ?_
      rintro - searchText listing hpage
      cases hpage
      exact ⟨rfl, fun _ hanswered => by cases hanswered⟩
  · rename_i hstale
    exact h.endStaleDelete hfound hstale

theorem Sound.finishDelete (hfound : s.deletes key = some delete)
    (hphase : delete.phase = .page searchText (.answered deleted)) :
    Sound env server (s.finishDelete env server key delete searchText deleted) := by
  unfold LibrarySystem.finishDelete
  split
  · rename_i hrefr
    have hcurr : s.Deleting key delete := ⟨hfound, (isCurrentRefresh_iff.mp hrefr).1⟩
    have hsound := h.deleting key delete hcurr
    obtain ⟨rfl, hlisting⟩ := hsound.listing searchText _ hphase
    obtain rfl := hlisting deleted rfl
    generalize hpage : server.page delete.endpoint (s.deleted delete.endpoint)
      (searchTextForRequest s.model.activeSearchText) "" = page
    refine h.endShowing hcurr ⟨rfl, rfl, rfl, rfl, rfl, rfl, rfl, rfl⟩ ?_
    intro endpoint pending hload
    rw [hsound.loaded] at hload
    cases hload
    subst hpage
    exact showsPages_first rfl rfl rfl
  · rename_i hstale
    exact h.endStaleDelete hfound hstale

theorem Sound.failDeletePage (hfound : s.deletes key = some delete)
    (hstale : ¬ s.Deleting key delete) : Sound env server (s.failDeletePage env key delete) := by
  unfold LibrarySystem.failDeletePage
  split
  · rename_i hrefr
    exact absurd ⟨hfound, (isCurrentRefresh_iff.mp hrefr).1⟩ hstale
  · rename_i hstale
    exact h.endStaleDelete hfound hstale

omit h

omit [DecidableEq Endpoint] in
theorem Sound.setPlayback {value : Option (PreparePlayback Endpoint)} (h : Sound env server s) :
    Sound env server (s.setPlayback key value) := by
  refine ⟨h.knownRefresh, h.knownLoadMore, h.knownDelete, h.address, ?_, ?_, ?_, h.unprocessed,
    h.unloaded, h.shows⟩
  · intro refresh hrefr
    have hsound := h.refreshing refresh hrefr
    exact { hsound with }
  · intro operationID delete hdeleting
    have hsound := h.deleting operationID delete hdeleting
    exact { hsound with }
  · intro loadMore hlding
    have hsound := h.loadingMore loadMore hlding
    exact { hsound with }

include h in
theorem Sound.playbackURL : Sound env server (s.playbackURL env item) := by
  unfold LibrarySystem.playbackURL
  split
  · exact h
  dsimp only
  split
  · exact h.frame ⟨⟨rfl, rfl, rfl, rfl, rfl, rfl, rfl, rfl⟩, rfl, rfl⟩
  rename_i endpoint hendpoint
  split
  · rename_i hother
    -- Only a library that is not loaded is cleared under the same sequence.
    have hnone : s.model.loadedEndpoint = none := by
      cases hload : s.model.loadedEndpoint with
      | none => rfl
      | some loaded =>
        have haddress := h.address loaded hload
        rw [hendpoint] at haddress
        cases haddress
        exact absurd hload hother
    have hdeleting := h.not_deleting_of_unloaded hnone
    refine h.unload le_rfl (le_succ _) rfl rfl rfl rfl (fun _ _ => rfl) ?_ ?_
    · intro operationID delete hfound hseq
      exact hdeleting operationID delete ⟨hfound, hseq⟩
    · rintro loadMore ⟨hthere, -⟩
      have hle := (h.knownLoadMore _ loadMore hthere).1
      replace hle : s.model.loadMoreSequence + 1 ≤ s.model.loadMoreSequence := hle
      omega
  · split
    · exact h.frame ⟨⟨rfl, rfl, rfl, rfl, rfl, rfl, rfl, rfl⟩, rfl, rfl⟩
    · apply Sound.setPlayback
      exact h.frame ⟨⟨rfl, rfl, rfl, rfl, rfl, rfl, rfl, rfl⟩, rfl, rfl⟩

include h in
theorem Sound.finishPlayback {playback : PreparePlayback Endpoint} :
    Sound env server (s.finishPlayback env key playback) := by
  unfold LibrarySystem.finishPlayback
  dsimp only
  split
  · exact h.setPlayback.frame ⟨⟨rfl, rfl, rfl, rfl, rfl, rfl, rfl, rfl⟩, rfl, rfl⟩
  · exact h.setPlayback

omit [DecidableEq Endpoint] in
theorem Sound.finishPreparedPlayback {didStart : Bool} (h : Sound env server s) :
    Sound env server (s.finishPreparedPlayback item didStart) := by
  unfold LibrarySystem.finishPreparedPlayback
  split
  · exact h.frame ⟨⟨rfl, rfl, rfl, rfl, rfl, rfl, rfl, rfl⟩, rfl, rfl⟩
  · exact h

omit [DecidableEq Endpoint] in
theorem Sound.clearPlaybackStatus (h : Sound env server s) :
    Sound env server s.clearPlaybackStatus := by
  unfold LibrarySystem.clearPlaybackStatus
  split
  · exact h
  · exact h.frame ⟨⟨rfl, rfl, rfl, rfl, rfl, rfl, rfl, rfl⟩, rfl, rfl⟩

variable {t : LibrarySystem Endpoint} {event : LibraryEvent}

/-- Refreshes do not meet deletions or further pages, and paging is not given up. -/
def Careful (env : LibraryPlatform Endpoint) (server : LibraryServer Endpoint)
    (s : LibrarySystem Endpoint) : LibraryEvent → Prop
  | .refresh => s.model.deletingItemIDs = ∅ → ∀ endpoint,
      env.normalized s.model.serverAddressText = some endpoint →
      ∀ operationID delete, s.deletes operationID = some delete →
        delete.phase = .deleting → delete.endpoint ≠ endpoint
  | .loadMore => s.model.canLoadMore env = true → s.refreshes s.model.refreshSequence = none
  | .deleteItem item => s.model.canDelete item = true →
      s.refreshes s.model.refreshSequence = none
  | .loadMoreAnswered sequence => ∀ loadMore deleted, s.loadMores sequence = some loadMore →
      loadMore.listing = .answered deleted → s.Follows server sequence loadMore deleted
  | .deletePageFailed operationID => ∀ delete, ¬ s.Deleting operationID delete
  | _ => True

include h in
theorem Sound.step (hstep : LibraryStep env server s event t)
    (hcareful : s.Careful env server event) : Sound env server t := by
  cases hstep with
  | setServerAddressText text => exact h.setServerAddressText text
  | setSearchText text => exact h.setSearchText text
  | refresh => exact h.refresh hcareful
  | loadMore => exact h.loadMore hcareful
  | deleteItem => exact h.deleteItem hcareful
  | playbackURL => exact h.playbackURL
  | finishPreparedPlayback => exact h.finishPreparedPlayback
  | clearPlaybackStatus => exact h.clearPlaybackStatus
  | serverInfoAnswered supports hfound hphase =>
    exact h.moveRefresh hfound fun _ _ hpage => by cases hpage
  | cacheRootsAnswered hfound hphase =>
    refine h.moveRefresh hfound ?_
    intro supports listing hpage answered hanswered
    cases hpage
    cases hanswered
  | refreshListed hfound hphase =>
    refine h.moveRefresh hfound ?_
    intro supports listing hpage answered hanswered
    cases hpage
    cases hanswered
    rfl
  | refreshAnswered hfound hphase => exact h.finishRefresh hfound hphase
  | refreshFailed hfound => exact h.failRefresh hfound
  | loadMoreListed hfound hlisting =>
    refine h.setLoadMore hfound ?_ ?_
    · intro moved hmoved
      cases hmoved
      rfl
    · intro moved hmoved hsound
      cases hmoved
      refine ⟨hsound.loaded, hsound.token, hsound.follows, hsound.search, ?_⟩
      intro answered hanswered
      cases hanswered
      rfl
  | loadMoreAnswered hfound hlisting =>
    exact h.finishLoadMore hfound hlisting (hcareful _ _ hfound hlisting)
  | loadMoreFailed hfound => exact h.endLoadMore hfound
  | deleteProcessed hfound hphase => exact h.processDelete hfound hphase
  | deleteAnswered hfound hphase => exact h.confirmDelete hfound hphase
  | deleteFailed hfound hphase => exact h.failDelete hfound hphase
  | deleteRootsAnswered hfound hphase => exact h.continueDelete hfound hphase
  | @deleteListed operationID delete searchText hfound hphase =>
    have hprocessed : delete.phase ≠ .deleting := by
      rw [hphase]
      exact fun hunproc => by cases hunproc
    refine h.moveDelete hfound hprocessed (fun hunproc => by cases hunproc) ?_
    intro hcurr moved listing hpage
    cases hpage
    have hsound := h.deleting operationID delete hcurr
    refine ⟨(hsound.listing searchText _ hphase).1, fun answered hanswered => ?_⟩
    cases hanswered
    rfl
  | deletePageAnswered hfound hphase => exact h.finishDelete hfound hphase
  | deletePageFailed hfound => exact h.failDeletePage hfound (hcareful _)
  | playbackAnswered => exact h.finishPlayback

/-- The server has deleted the item, and its answer is still on the way. -/
def Unconfirmed (s : LibrarySystem Endpoint) (id : String) : Prop :=
  ∃ operationID delete, s.Deleting operationID delete ∧ delete.phase = .processed ∧
    delete.itemID = id

/-- No confirmed deletion waits for the cache roots or the first page. -/
def Settled (s : LibrarySystem Endpoint) : Prop :=
  ∀ operationID delete, s.Deleting operationID delete →
    delete.phase = .deleting ∨ delete.phase = .processed

omit [DecidableEq Endpoint] in
theorem Settled.unconfirmed {id : String} (hsettled : s.Settled) (h : s.Pending id) :
    s.Unconfirmed id := by
  obtain ⟨operationID, delete, hdeleting, hprocessed, hid⟩ := h
  exact ⟨operationID, delete, hdeleting,
    (hsettled operationID delete hdeleting).resolve_left hprocessed, hid⟩

structure ListCoherent (server : LibraryServer Endpoint) (s : LibrarySystem Endpoint) : Prop where
  unloaded : s.model.loadedEndpoint = none → s.model.items = [] ∧ s.model.nextPageToken = ""
  shows : ∀ endpoint, s.model.loadedEndpoint = some endpoint →
    ShowsPages server s.model endpoint (s.deleted endpoint) s.Pending
  confirmed : s.Settled → ∀ endpoint, s.model.loadedEndpoint = some endpoint →
    ShowsPages server s.model endpoint (s.deleted endpoint) s.Unconfirmed ∧
      ∀ item ∈ s.model.items, item.id ∈ s.deleted endpoint → s.Unconfirmed item.id
  gone : ∀ endpoint item, s.model.loadedEndpoint = some endpoint → item ∈ s.model.items →
    item.id ∈ s.deleted endpoint → item.id ∈ s.model.deletingItemIDs

omit [DecidableEq Endpoint] in
theorem Sound.listCoherent (h : Sound env server s) : s.ListCoherent server := by
  refine ⟨h.unloaded, h.shows, ?_, ?_⟩
  · intro hsettled endpoint hload
    have hshows := (h.shows endpoint hload).mono fun _ _ hwait => hsettled.unconfirmed hwait
    exact ⟨hshows, fun item hitem hdeleted => hshows.pending_of_mem hitem hdeleted⟩
  · intro endpoint item hload hitem hdeleted
    obtain ⟨operationID, delete, hdeleting, -, hid⟩ :=
      (h.shows endpoint hload).pending_of_mem hitem hdeleted
    rw [← hid]
    exact (h.deleting operationID delete hdeleting).held

theorem library_list_coherent {serverAddressText : String} {events : List LibraryEvent}
    (hrun : Run (Guarded (LibraryStep env server) (Careful env server)) (.initial serverAddressText)
      events s) : s.ListCoherent server := by
  have hsound : Sound env server s := by
    apply hrun.invariant (Sound env server)
    · intro a b event hstep ha
      exact ha.step hstep.1 hstep.2
    · exact initial_sound serverAddressText
  exact hsound.listCoherent

def film : CacheLibraryItem := ⟨"a", some "v"⟩

def filmPlatform : LibraryPlatform Unit where
  normalized address := if address = "mac" then some () else none
  displayAddress _ := "mac"
  trimmed text := text

def filmServer : LibraryServer Unit where
  page _ deleted _ _ := ⟨[film].filter fun item => decide (item.id ∉ deleted), ""⟩
  live := by
    intro _ deleted _ _ item hitem
    exact of_decide_eq_true (List.mem_filter.mp hitem).2

def filmLoaded : LibrarySystem Unit :=
  (((((initial "mac").refresh filmPlatform).setRefresh 1
    (some ⟨(), "", .cacheRoots true⟩)).setRefresh 1
    (some ⟨(), "", .page true .requested⟩)).setRefresh 1
    (some ⟨(), "", .page true (.answered ∅)⟩)).finishRefresh filmPlatform filmServer 1
    ⟨(), "", .page true (.answered ∅)⟩ true ∅

theorem run_filmLoaded : ∃ events,
    Run (Guarded (LibraryStep filmPlatform filmServer) (Careful filmPlatform filmServer))
      (.initial "mac") events filmLoaded := by
  have hrefreshing : Run
      (Guarded (LibraryStep filmPlatform filmServer) (Careful filmPlatform filmServer))
      (.initial "mac") [.refresh] _ :=
    Run.single ⟨.refresh _, fun _ _ _ _ _ hthere => by cases hthere⟩
  have hinfo := hrefreshing.snoc
    ⟨@LibraryStep.serverInfoAnswered _ _ _ _ _ 1 ⟨(), "", .serverInfo⟩ true rfl rfl, trivial⟩
  have hroots := hinfo.snoc
    ⟨@LibraryStep.cacheRootsAnswered _ _ _ _ _ 1 ⟨(), "", .cacheRoots true⟩ true rfl rfl,
      trivial⟩
  have hlisted := hroots.snoc
    ⟨@LibraryStep.refreshListed _ _ _ _ _ 1 ⟨(), "", .page true .requested⟩ true rfl rfl,
      trivial⟩
  exact ⟨_, hlisted.snoc
    ⟨@LibraryStep.refreshAnswered _ _ _ _ _ 1 ⟨(), "", .page true (.answered ∅)⟩ true ∅ rfl rfl,
      trivial⟩⟩

/-- The film is deleted, and not shown any more. -/
theorem library_list_coherent_deleted : ∃ (events : List LibraryEvent)
    (s : LibrarySystem Unit),
    Run (Guarded (LibraryStep filmPlatform filmServer) (Careful filmPlatform filmServer))
      (.initial "mac") events s ∧
      s.deleted () = {"a"} ∧ s.model.items = [] ∧ s.ListCoherent filmServer := by
  obtain ⟨events, hrun⟩ := run_filmLoaded
  have hdeleting := hrun.snoc ⟨.deleteItem filmLoaded film, fun _ => rfl⟩
  have hprocessed := hdeleting.snoc
    ⟨@LibraryStep.deleteProcessed _ _ _ _ _ 1 ⟨"a", 1, (), .deleting⟩ rfl rfl, trivial⟩
  have hanswered := hprocessed.snoc
    ⟨@LibraryStep.deleteAnswered _ _ _ _ _ 1 ⟨"a", 1, (), .processed⟩ rfl rfl, trivial⟩
  have hdeleted := hanswered.snoc
    ⟨@LibraryStep.deleteRootsAnswered _ _ _ _ _ 1 ⟨"a", 1, (), .cacheRoots⟩ rfl rfl, trivial⟩
  exact ⟨_, _, hdeleted, by decide, by decide, library_list_coherent hdeleted⟩

/-- The preparation of a playback ends while a refresh is in flight, so that the film can be
deleted; then the refresh shows it again. -/
theorem deleted_film_shown_again : ∃ (events : List LibraryEvent) (s : LibrarySystem Unit),
    Run (LibraryStep filmPlatform filmServer) (.initial "mac") events s ∧
      s.model.loadedEndpoint = some () ∧ s.deleted () = {"a"} ∧ s.model.items = [film] ∧
      s.model.deletingItemIDs = ∅ ∧ ¬ s.ListCoherent filmServer := by
  obtain ⟨events, hrun⟩ := run_filmLoaded
  have hrefreshing := hrun.of_guarded.snoc (.refresh filmLoaded)
  have hinfo := hrefreshing.snoc
    (@LibraryStep.serverInfoAnswered _ _ _ _ _ 2 ⟨(), "", .serverInfo⟩ true rfl rfl)
  have hroots := hinfo.snoc
    (@LibraryStep.cacheRootsAnswered _ _ _ _ _ 2 ⟨(), "", .cacheRoots true⟩ true rfl rfl)
  have hlisted := hroots.snoc
    (@LibraryStep.refreshListed _ _ _ _ _ 2 ⟨(), "", .page true .requested⟩ true rfl rfl)
  have hpreparing := hlisted.snoc (.playbackURL _ film)
  have hprepared := hpreparing.snoc (@LibraryStep.playbackAnswered _ _ _ _ _ 3 ⟨2, ()⟩ rfl)
  have hdeleting := hprepared.snoc (.deleteItem _ film)
  have hprocessed := hdeleting.snoc
    (@LibraryStep.deleteProcessed _ _ _ _ _ 1 ⟨"a", 2, (), .deleting⟩ rfl rfl)
  have hanswered := hprocessed.snoc
    (@LibraryStep.deleteAnswered _ _ _ _ _ 1 ⟨"a", 2, (), .processed⟩ rfl rfl)
  have hdeleted := hanswered.snoc
    (@LibraryStep.deleteRootsAnswered _ _ _ _ _ 1 ⟨"a", 2, (), .cacheRoots⟩ rfl rfl)
  have hshown := hdeleted.snoc
    (@LibraryStep.refreshAnswered _ _ _ _ _ 2 ⟨(), "", .page true (.answered ∅)⟩ true ∅ rfl rfl)
  refine ⟨_, _, hshown, by decide, by decide, by decide, by decide, ?_⟩
  intro hcoherent
  have hheld := hcoherent.gone () film (by decide) (by decide) (by decide)
  revert hheld
  decide

end LibrarySystem

end NetPlayer.Client
