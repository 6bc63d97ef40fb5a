import NetPlayer.Cdn.HistoryFile
import NetPlayer.Hls.PlaylistClosure
import NetPlayer.Resolver.Routes
import NetPlayer.Tasks.CleanupIntents

/-!
# The file of the remembered routes

Every recorded route is written out with the whole memory and read back at the next start. The
number of the records has a limit and the bytes of the file have another one.
-/

namespace NetPlayer.Resolver

open List Option RouteMemory Nat

open RangeCache (jsonNat jsonString utf8)
open Cdn (compactObject)

def maxMemoryFileBytes : Nat := 96 * 1024

structure HostUrl where
  domain : Option String
  port : Option Nat
  path : String
  hasQuery : Bool
  hasFragment : Bool

class HostUrlParser where
  parse : String → Option HostUrl

def formatHostId (host : String) : Option Nat → String
  | some port => host ++ ":" ++ toString port
  | none => host

/-- Not one of the characters `@`, `/`, the backslash, `?` and `#`, nor blank. -/
def isHostIdChar (c : Char) : Bool :=
  !(Hls.isWhitespace c || Tasks.isControl c || [0x40, 0x2f, 0x5c, 0x3f, 0x23].contains c.toNat)

def normalizeResolverHostId [HostUrlParser] (hostId : String) : Option String :=
  if hostId = "" ∨ hostId ≠ Hls.trim hostId ∨ ¬ hostId.toList.all isHostIdChar then none
  else do
    let url ← HostUrlParser.parse ("https://" ++ hostId ++ "/")
    let host ← url.domain
    let normalized := formatHostId host url.port
    if normalized ≠ hostId ∨ url.port = some 0 ∨ url.path ≠ "/" ∨ url.hasQuery ∨ url.hasFragment then
      none
    else some normalized

theorem normalizeResolverHostId_eq [HostUrlParser] {hostId host : String}
    (h : normalizeResolverHostId hostId = some host) : host = hostId := by
  unfold normalizeResolverHostId at h
  split at h
  · cases h
  simp only [bind_eq_bind, bind_eq_some_iff] at h
  obtain ⟨url, -, domain, -, h⟩ := h
  split at h
  · cases h
  · rename_i hacc
    cases h
    exact not_not.mp (not_or.mp hacc).1

def MemoryScope.text : MemoryScope → String
  | .content => "content"
  | .series => "series"

def Region.text : Region → String
  | .all => "all"
  | .cn => "cn"
  | .hk => "hk"
  | .tw => "tw"
  | .th => "th"

variable (entry : RouteMemoryEntry)

def entryJson : Bytes :=
  compactObject
    [("scope", jsonString entry.scope.text),
      ("key", jsonString entry.key),
      ("host_id", jsonString entry.hostId),
      ("area", jsonString entry.area.text),
      ("updated_at", jsonNat entry.updatedAt),
      ("expires_at", jsonNat entry.expiresAt)]

def memoryJson (memory : RouteMemory) : Bytes :=
  compactObject
    [("version", jsonNat 1),
      ("records", utf8 "[" ++ (utf8 ",").intercalate (memory.map entryJson) ++ utf8 "]")]

def entryBytes : Nat :=
  64 + (jsonString entry.scope.text).length + (jsonString entry.key).length +
    (jsonString entry.hostId).length + (jsonString entry.area.text).length +
    (jsonNat entry.updatedAt).length + (jsonNat entry.expiresAt).length

def fileBytes (memory : RouteMemory) : Nat :=
  26 + (memory.map entryBytes).sum + (memory.length - 1)

theorem length_intercalate (items : List Bytes) :
    ((utf8 ",").intercalate items).length = (items.map List.length).sum + (items.length - 1) := by
  have hcomma : (utf8 ",").length = 1 := by decide
  induction items with
  | nil => rfl
  | cons first rest ih =>
    cases rest with
    | nil => simp [List.intercalate]
    | cons second rest =>
      simp only [List.intercalate, intersperse_cons_cons, flatten_cons, length_append,
        hcomma, map_cons, sum_cons, length_cons] at ih ⊢
      omega

theorem length_compactObject (fields : List (String × Bytes)) :
    (compactObject fields).length = 2 + (fields.length - 1) +
      (fields.map fun field => (jsonString field.1).length + 1 + field.2.length).sum := by
  have hmarks : (utf8 "\x7b").length = 1 ∧ (utf8 "\x7d").length = 1 ∧ (utf8 ":").length = 1 := by
    decide
  obtain ⟨hopen, hclose, hcolon⟩ := hmarks
  simp only [compactObject, length_append, length_intercalate, List.map_map, length_map,
    Function.comp_def, hopen, hclose, hcolon]
  omega

theorem length_entryJson : (entryJson entry).length = entryBytes entry := by
  have hnames : (jsonString "scope").length = 7 ∧ (jsonString "key").length = 5 ∧
      (jsonString "host_id").length = 9 ∧ (jsonString "area").length = 6 ∧
      (jsonString "updated_at").length = 12 ∧ (jsonString "expires_at").length = 12 := by
    decide
  simp only [entryJson, length_compactObject, map_cons, map_nil, sum_cons,
    sum_nil, length_cons, length_nil, hnames, entryBytes]
  omega

theorem length_memoryJson (memory : RouteMemory) : (memoryJson memory).length = fileBytes memory := by
  have hnames : (jsonString "version").length = 9 ∧ (jsonString "records").length = 9 ∧
      (jsonNat 1).length = 1 ∧ (utf8 "[").length = 1 ∧ (utf8 "]").length = 1 := by
    decide
  have hlens : List.length ∘ entryJson = entryBytes := funext length_entryJson
  simp only [memoryJson, length_compactObject, map_cons, map_nil, sum_cons,
    sum_nil, length_cons, length_nil, length_append, length_intercalate,
    List.map_map, length_map, hlens, hnames, fileBytes]
  omega

/-- `serde_json::from_slice::<PersistedRouteMemory>`: the version and the records. -/
class MemoryJson where
  parse : Bytes → Option (Nat × RouteMemory)

section

variable [HostUrlParser]

def invalidMemoryEntry (entry : RouteMemoryEntry) : Bool :=
  !validMemoryKey entry.scope entry.key || (normalizeResolverHostId entry.hostId).isNone ||
    entry.area == .all || decide (entry.expiresAt ≤ entry.updatedAt)

def persistMemory (memory : RouteMemory) : Option Bytes :=
  if maxMemoryRecords < memory.length ∨ memory.any invalidMemoryEntry then none
  else if maxMemoryFileBytes < (memoryJson memory).length then none
  else some (memoryJson memory)

def readEntry (entry : RouteMemoryEntry) : Option RouteMemoryEntry := do
  let hostId ← normalizeResolverHostId entry.hostId
  if !validMemoryKey entry.scope entry.key || entry.area == .all ||
      decide (entry.expiresAt ≤ entry.updatedAt) then none
  else some { entry with hostId }

def readMemory [MemoryJson] (now : Nat) (bytes : Bytes) : Option RouteMemory :=
  if maxMemoryFileBytes < bytes.length then none
  else do
    let (version, persisted) ← MemoryJson.parse bytes
    if version ≠ 1 ∨ maxMemoryRecords < persisted.length then none
    else
      let records ← persisted.mapM readEntry
      some (unexpired records now)

inductive MemoryCall where
  | recordRegionRoute (contentKey : String) (seriesKeys : List String) (hostId : String)
      (area : Region)
  | lookup

def RouteMemory.apply (memory : RouteMemory) : Nat × MemoryCall → RouteMemory
  | (now, .recordRegionRoute contentKey seriesKeys hostId area) =>
    memory.recordRegionRoute normalizeResolverHostId contentKey seriesKeys hostId area now
  | (now, .lookup) => memory.unexpired now

def RouteMemory.run (calls : List (Nat × MemoryCall)) : RouteMemory :=
  calls.foldl RouteMemory.apply []

/-- What a run keeps of the entries and of their number. -/
structure RouteMemory.Admitted (memory : RouteMemory) : Prop where
  bounded : memory.length ≤ maxMemoryRecords
  entries : ∀ entry ∈ memory, normalizeResolverHostId entry.hostId = some entry.hostId ∧
    entry.area ≠ .all ∧ entry.Recorded entry.hostId entry.area entry.updatedAt

variable {memory : RouteMemory}

theorem RouteMemory.Admitted.apply (h : memory.Admitted) (call : Nat × MemoryCall) :
    (memory.apply call).Admitted := by
  obtain ⟨now, call⟩ := call
  cases call with
  | lookup =>
    exact ⟨(length_filter_le _ _).trans h.bounded,
      fun entry hm => h.entries entry (mem_filter.mp hm).1⟩
  | recordRegionRoute contentKey seriesKeys hostId area =>
    constructor
    · unfold RouteMemory.apply RouteMemory.recordRegionRoute
      dsimp only
      split
      · exact h.bounded
      split
      · exact h.bounded
      split
      · exact h.bounded
      · rw [length_drop]
        omega
    · intro entry hm
      rcases recordRegionRoute_mem hm with hold | ⟨host, hhost, harea, hn⟩
      · exact h.entries entry hold
      have hs := normalizeResolverHostId_eq hhost
      have he : entry.hostId = hostId := hn.hostId.trans hs
      refine ⟨by rw [he, hhost, hs], by rwa [hn.area], rfl, rfl, hn.key, rfl, ?_⟩
      rw [hn.updatedAt]
      exact hn.expiresAt

theorem RouteMemory.admitted_run (calls : List (Nat × MemoryCall)) : (run calls).Admitted := by
  suffices h : ∀ memory : RouteMemory, memory.Admitted →
      (calls.foldl RouteMemory.apply memory).Admitted from
    h [] ⟨Nat.zero_le _, fun entry hm => by cases hm⟩
  induction calls with
  | nil => exact fun _ h => h
  | cons call rest ih => exact fun memory h => ih _ (h.apply call)

omit [HostUrlParser] in
theorem RouteMemory.nodup_put
    (h : (memory.map fun entry => (entry.scope, entry.key)).Nodup) (entry : RouteMemoryEntry) :
    ((memory.put entry).map fun entry => (entry.scope, entry.key)).Nodup := by
  unfold RouteMemory.put
  rw [map_append, nodup_append]
  refine ⟨h.sublist (filter_sublist.map _), by simp, ?_⟩
  intro kept hkept last hlast
  obtain ⟨other, hother, rfl⟩ := mem_map.mp hkept
  simp only [mem_filter, Bool.or_eq_true, bne_iff_ne] at hother
  simp only [map_cons, map_nil, mem_singleton] at hlast
  rw [hlast, Ne, Prod.mk.injEq]
  tauto

/-- In every run, at whatever times, the memory has one record of each key of a scope, and no more
records than it may. -/
theorem RouteMemory.route_memory_stays_bounded (calls : List (Nat × MemoryCall)) :
    (run calls).length ≤ maxMemoryRecords ∧
      ((run calls).map fun entry => (entry.scope, entry.key)).Nodup := by
  refine ⟨(admitted_run calls).bounded, ?_⟩
  have hrun : ∀ memory : RouteMemory, (memory.map fun entry => (entry.scope, entry.key)).Nodup →
      ((calls.foldl RouteMemory.apply memory).map fun entry => (entry.scope, entry.key)).Nodup := by
    induction calls with
    | nil => exact fun _ h => h
    | cons call rest ih =>
      intro memory h
      apply ih
      obtain ⟨now, call⟩ := call
      cases call with
      | lookup => exact h.sublist (filter_sublist.map _)
      | recordRegionRoute contentKey seriesKeys hostId area =>
        unfold RouteMemory.apply RouteMemory.recordRegionRoute
        dsimp only
        split
        · exact h
        split
        · exact h
        split
        · exact h
        apply Nodup.sublist ((drop_sublist _ _).map _)
        rw [((mergeSort_perm _ _).map _).nodup_iff]
        generalize routeEntries contentKey seriesKeys _ area now = entries
        induction entries generalizing memory with
        | nil => exact h
        | cons entry others hothers => exact hothers _ (nodup_put h entry)
  exact hrun [] nodup_nil

theorem RouteMemory.Admitted.persist (h : memory.Admitted) :
    persistMemory memory = if fileBytes memory ≤ maxMemoryFileBytes ∧
      ∀ entry ∈ memory, entry.updatedAt < maxUnixSeconds then some (memoryJson memory) else none := by
  have hinvalid : ∀ entry ∈ memory, invalidMemoryEntry entry = true ↔
      ¬ entry.updatedAt < maxUnixSeconds := by
    intro entry hm
    obtain ⟨hhost, harea, hrecd⟩ := h.entries entry hm
    have hexpires := hrecd.expiresAt
    have httl : 0 < routeMemoryTtlSecs := by decide
    simp only [invalidMemoryEntry, hrecd.key, hhost, beq_iff_eq, harea, Bool.not_true,
      isNone_some, Bool.false_or, Bool.or_eq_true, decide_eq_true_eq, false_or]
    omega
  unfold persistMemory
  rw [length_memoryJson]
  by_cases hclock : ∀ entry ∈ memory, entry.updatedAt < maxUnixSeconds
  · have hv : ¬ (maxMemoryRecords < memory.length ∨ memory.any invalidMemoryEntry = true) := by
      rintro (hmany | hany)
      · exact absurd h.bounded (not_le.mpr hmany)
      · obtain ⟨entry, hm, hbad⟩ := List.any_eq_true.mp hany
        exact (hinvalid entry hm).mp hbad (hclock entry hm)
    rw [if_neg hv]
    by_cases hfit : fileBytes memory ≤ maxMemoryFileBytes
    · rw [if_neg (not_lt.mpr hfit), if_pos ⟨hfit, hclock⟩]
    · rw [if_pos (not_le.mp hfit), if_neg fun h => hfit h.1]
  · have hbad : maxMemoryRecords < memory.length ∨ memory.any invalidMemoryEntry = true := by
      simp only [not_forall] at hclock
      obtain ⟨entry, hm, hlate⟩ := hclock
      exact .inr (List.any_eq_true.mpr ⟨entry, hm, (hinvalid entry hm).mpr hlate⟩)
    rw [if_pos hbad, if_neg fun hh => hclock hh.2]

theorem RouteMemory.Admitted.readEntries (h : memory.Admitted)
    (hclock : ∀ entry ∈ memory, entry.updatedAt < maxUnixSeconds) :
    memory.mapM readEntry = some memory := by
  have hr : ∀ entry ∈ memory, readEntry entry = some entry := by
    intro entry hm
    obtain ⟨hhost, harea, hrecd⟩ := h.entries entry hm
    have hexpires := hrecd.expiresAt
    have httl : 0 < routeMemoryTtlSecs := by decide
    have hl : ¬ entry.expiresAt ≤ entry.updatedAt := by
      have := hclock entry hm
      omega
    simp [readEntry, hhost, hrecd.key, harea, hl]
  clear h hclock
  induction memory with
  | nil => rfl
  | cons first rest ih =>
    rw [mapM_cons, hr first mem_cons_self,
      ih fun entry hm => hr entry (mem_cons_of_mem _ hm)]
    rfl

/-- The memory of a run is written, accepted and read back without what has expired: exactly if
its records fit in the file and none was made at the last second of the clock. -/
theorem route_memory_reloads_iff [MemoryJson] {calls : List (Nat × MemoryCall)}
    (hjson : MemoryJson.parse (memoryJson (RouteMemory.run calls)) =
      some (1, RouteMemory.run calls)) (later : Nat) :
    (persistMemory (RouteMemory.run calls)).bind (readMemory later) =
        some ((RouteMemory.run calls).unexpired later) ↔
      fileBytes (RouteMemory.run calls) ≤ maxMemoryFileBytes ∧
        ∀ entry ∈ RouteMemory.run calls, entry.updatedAt < maxUnixSeconds := by
  have hadmitted := admitted_run calls
  generalize RouteMemory.run calls = memory at hadmitted hjson ⊢
  rw [hadmitted.persist]
  constructor
  · intro h
    by_contra hnot
    rw [if_neg hnot] at h
    cases h
  · intro hholds
    rw [if_pos hholds, bind_some]
    unfold readMemory
    rw [length_memoryJson, if_neg (not_lt.mpr hholds.1), hjson]
    simp only [bind_eq_bind, bind_some]
    rw [if_neg (by simpa using hadmitted.bounded), hadmitted.readEntries hholds.2]
    rfl

end

section Literal

@[reducible] def oneHost (hostId : String) : HostUrlParser where
  parse text :=
    if text = "https://" ++ hostId ++ "/" then some ⟨some hostId, none, "/", false, false⟩ else none

@[reducible] def savedMemory (memory : RouteMemory) : MemoryJson where
  parse bytes := if bytes = memoryJson memory then some (1, memory) else none

def farCalls (hostId : String) (n : Nat) : List (Nat × MemoryCall) :=
  (List.range n).map fun i => (i, .recordRegionRoute ("epid:" ++ toString i) [] hostId .hk)

theorem route_memory_reloads_iff_one :
    letI := oneHost "a.example"
    letI := savedMemory (RouteMemory.run (farCalls "a.example" 1))
    (persistMemory (RouteMemory.run (farCalls "a.example" 1))).bind (readMemory 5) =
      some ((RouteMemory.run (farCalls "a.example" 1)).unexpired 5) :=
  (@route_memory_reloads_iff (oneHost "a.example") (savedMemory _) (farCalls "a.example" 1)
    (if_pos rfl) 5).mpr ⟨by decide +kernel, by decide +kernel⟩

theorem normalize_oneHost {hostId : String} (htrim : Hls.trim hostId = hostId)
    (hchars : hostId.toList.all isHostIdChar = true) (hne : hostId ≠ "") :
    letI := oneHost hostId
    normalizeResolverHostId hostId = some hostId := by
  have hparse : (oneHost hostId).parse ("https://" ++ hostId ++ "/") =
      some ⟨some hostId, none, "/", false, false⟩ := if_pos rfl
  unfold normalizeResolverHostId
  rw [htrim, hparse, if_neg (by simp [hchars, hne])]
  simp [formatHostId]

theorem utf8ByteSize_toString {n : Nat} (h : n < 400) : (toString n).utf8ByteSize ≤ 3 := by
  rw [toString_eq_ofList_toDigits, Sha256.utf8ByteSize_ofList]
  · have hbd : n < 10 ^ 3 := by omega
    exact (length_toDigits_le_iff (by omega) (by omega)).mpr hbd
  · intro c hm
    have hdigit := isDigit_of_mem_toDigits (by omega) (by omega) hm
    have hnine : '9'.val ≤ 127 := by decide
    simp only [Char.isDigit, Bool.and_eq_true, decide_eq_true_eq] at hdigit
    exact Char.utf8Size_eq_one_iff.mpr (UInt32.le_trans hdigit.2 hnine)

theorem farKey_valid {n : Nat} (h : n < 400) :
    validMemoryKey .content ("epid:" ++ toString n) = true := by
  have hsize := utf8ByteSize_toString h
  have hpos : 0 < (toString n).length := by
    rw [toString_eq_ofList_toDigits, String.length_ofList]
    exact length_toDigits_pos
  have hdigits : ∀ c ∈ (toString n).toList, c.isDigit = true := fun c =>
    Hls.isDigit_of_mem_toString
  have hs : "epid:".utf8ByteSize = 5 ∧ "epid:".length = "epid:".toList.length := by
    decide
  simp only [validMemoryKey, digitsAfter, String.utf8ByteSize_append, String.length_append,
    String.toList_append, hs.1, Bool.and_eq_true, decide_eq_true_eq, prefix_append,
    true_and, List.all_eq_true]
  refine ⟨by omega, by omega, ?_⟩
  rw [hs.2, drop_left]
  exact hdigits

def farEntry (hostId : String) (i : Nat) : RouteMemoryEntry :=
  ⟨.content, "epid:" ++ toString i, hostId, .hk, i, min (i + routeMemoryTtlSecs) maxUnixSeconds⟩

theorem le_sum_farEntry {hostId : String} (hlong : 182 ≤ hostId.utf8ByteSize) (n : Nat) :
    n * 246 ≤ (((List.range n).map (farEntry hostId)).map entryBytes).sum := by
  induction n with
  | zero => exact Nat.le_refl 0
  | succ n ih =>
    have hlen : 182 ≤ (jsonString (farEntry hostId n).hostId).length :=
      hlong.trans RangeCache.length_le_jsonString
    have he : 246 ≤ entryBytes (farEntry hostId n) := by
      unfold entryBytes
      omega
    rw [range_succ, map_append, map_append, List.sum_append, map_singleton,
      map_singleton, sum_singleton, succ_mul]
    exact Nat.add_le_add ih he

section

variable [HostUrlParser] {hostId : String}

theorem run_farCalls (hnormal : normalizeResolverHostId hostId = some hostId) {n : Nat}
    (hn : n ≤ 400) : RouteMemory.run (farCalls hostId n) = (List.range n).map (farEntry hostId) := by
  induction n with
  | zero => rfl
  | succ n ih =>
    have hes : routeEntries ("epid:" ++ toString n) [] hostId .hk n = [farEntry hostId n] := by
      unfold routeEntries
      dsimp only
      rw [if_pos (farKey_valid hn)]
      rfl
    have hkept : RouteMemory.put ((List.range n).map (farEntry hostId)) (farEntry hostId n) =
        (List.range (n + 1)).map (farEntry hostId) := by
      rw [range_succ, map_append]
      refine congrArg (· ++ _) (filter_eq_self.mpr fun entry hm => ?_)
      obtain ⟨i, hi, rfl⟩ := List.mem_map.mp hm
      have hkey : (farEntry hostId i).key ≠ (farEntry hostId n).key := by
        intro h
        have hlists := congrArg String.toList h
        simp only [farEntry, String.toList_append, append_cancel_left_eq] at hlists
        exact absurd (Hls.toString_nat_inj (String.toList_inj.mp hlists)) (mem_range.mp hi).ne
      simp [hkey]
    have hsorted : ((List.range (n + 1)).map (farEntry hostId)).Pairwise fun first second =>
        decide (first.updatedAt ≤ second.updatedAt) = true := by
      rw [pairwise_map]
      exact pairwise_lt_range.imp fun h => decide_eq_true h.le
    have hcalls : RouteMemory.run (farCalls hostId (n + 1)) =
        (RouteMemory.run (farCalls hostId n)).apply
          (n, .recordRegionRoute ("epid:" ++ toString n) [] hostId .hk) := by
      simp [RouteMemory.run, farCalls, range_succ]
    rw [hcalls, ih (Nat.le_of_succ_le hn)]
    simp only [RouteMemory.apply, RouteMemory.recordRegionRoute, hnormal, hes,
      isEmpty_cons, foldl_cons, foldl_nil, hkept, mergeSort_of_pairwise hsorted]
    rw [if_neg (by decide), if_neg (by decide), length_map, length_range,
      Nat.sub_eq_zero_of_le (hn.trans (by decide)), drop_zero]

theorem long_host_not_saved (hnormal : normalizeResolverHostId hostId = some hostId)
    (hlong : 182 ≤ hostId.utf8ByteSize) :
    (RouteMemory.run (farCalls hostId 400)).length = 400 ∧
      persistMemory (RouteMemory.run (farCalls hostId 400)) = none := by
  have hsum := le_sum_farEntry hlong 400
  rw [(admitted_run (farCalls hostId 400)).persist, run_farCalls hnormal le_rfl]
  refine ⟨by rw [length_map, length_range], if_neg fun h => ?_⟩
  have hlimit := h.1
  unfold fileBytes maxMemoryFileBytes at hlimit
  generalize (List.sum _ : Nat) = total at hsum hlimit
  omega

end

theorem plainChars : ∀ c ∈ ['a', 'b', 'c', '.'], Hls.isWhitespace c = false ∧
    isHostIdChar c = true ∧ c.utf8Size = 1 := by
  intro c hc
  simp only [mem_cons, not_mem_nil, or_false] at hc
  rcases hc with rfl | rfl | rfl | rfl <;> exact ⟨rfl, rfl, rfl⟩

def farHost : String :=
  String.ofList (List.replicate 60 'a' ++ '.' :: List.replicate 60 'b' ++ '.' ::
    List.replicate 60 'c')

/-- 400 records with a host id of 182 bytes do not fit in the file. -/
theorem long_hosts_not_saved :
    letI := oneHost farHost
    (RouteMemory.run (farCalls farHost 400)).length = 400 ∧
      persistMemory (RouteMemory.run (farCalls farHost 400)) = none := by
  have hlist : farHost.toList = List.replicate 60 'a' ++ '.' :: List.replicate 60 'b' ++ '.' ::
      List.replicate 60 'c' := String.toList_ofList
  have hchars : ∀ c ∈ farHost.toList, c ∈ ['a', 'b', 'c', '.'] := by
    intro c h
    rw [hlist] at h
    clear hlist
    simp only [mem_append, mem_cons, mem_replicate] at h ⊢
    tauto
  have hsize : farHost.utf8ByteSize = 182 := by
    rw [← farHost.ofList_toList, Sha256.utf8ByteSize_ofList fun c h =>
      (plainChars c (hchars c h)).2.2, hlist]
    simp only [length_append, length_cons, length_replicate]
  refine @long_host_not_saved (oneHost farHost) farHost (normalize_oneHost ?_ ?_ ?_) hsize.ge
  · exact Hls.trim_of_notWhitespace fun c h => (plainChars c (hchars c h)).1
  · exact List.all_eq_true.mpr fun c h => (plainChars c (hchars c h)).2.1
  · intro hempty
    rw [hempty] at hsize
    cases hsize

end Literal

end NetPlayer.Resolver
