import Mathlib.Algebra.Ring.Nat
import Mathlib.Data.List.Infix
import Mathlib.Data.List.Sort

/-!
# Routes of a PGC plan

What the resolver routing of a restricted episode works with: the plans and errors
that the routes return, the identity a plan has to show, the metadata of the
resolved episode, and the memory of routes that worked.
-/

namespace NetPlayer.Resolver

open List

inductive Region where
  | all | cn | hk | tw | th
  deriving DecidableEq

inductive RestrictedArea where
  | cn | hk | tw | th
  deriving DecidableEq

inductive Input where
  | episode (epid : Nat)
  | season (seasonId : Nat)
  | media (mediaId : Nat)
  /-- Inputs that never name a PGC episode. -/
  | other (text : String)
  deriving DecidableEq

inductive StreamSource where
  | pgcWeb
  | pgcProxy
  | other (name : String)
  deriving DecidableEq

structure PlanEntry where
  aid : Nat
  cid : Nat
  epid : Option Nat
  source : StreamSource
  deriving DecidableEq

inductive PlannedPgcPlan where
  | download (entries : List PlanEntry)
  | playback (entries : List PlanEntry)
  deriving DecidableEq

inductive BbdownError where
  | api (message : String)
  | accessRestricted (message : String)
  | missingField (field : String)
  | other (message : String)
  deriving DecidableEq

inductive BilibiliDownloadError where
  | failed (message : String)
  | resourceExhausted (message : String)
  | cancelled (message : String)
  deriving DecidableEq

def regionRestrictionMarkers : List String :=
  ["area restricted", "area limit", "region restricted", "region limit",
    "not available in your region", "地区限制", "地區限制", "区域限制", "區域限制",
    "所在地区不可观看", "所在地區不可觀看", "所在地区无法观看", "所在地區無法觀看",
    "所在的地区不可观看", "所在的地區不可觀看", "所在的地区无法观看", "所在的地區無法觀看",
    "地区不可观看", "地區不可觀看", "地区无法观看", "地區無法觀看"]

def containsAny (hints : List String) (text : List Char) : Bool :=
  hints.any fun hint => decide (hint.toList <:+: text)

def isGenuineRegionRestriction : BbdownError → Bool
  | .api message | .accessRestricted message =>
    containsAny regionRestrictionMarkers (message.toList.map Char.toLower)
  | _ => false

structure PgcEpisodeIdentity where
  aid : Nat
  cid : Nat
  epid : Nat
  deriving DecidableEq

def PgcEpisodeIdentity.contentKey (identity : PgcEpisodeIdentity) : String :=
  "epid:" ++ toString identity.epid

def PgcEpisodeIdentity.matches (identity : PgcEpisodeIdentity) (aid cid : Nat)
    (epid : Option Nat) : Bool :=
  identity.aid == aid && identity.cid == cid && epid == some identity.epid

inductive PgcPlanRoute where
  | official
  | proxy
  deriving DecidableEq

def PgcPlanRoute.source : PgcPlanRoute → StreamSource
  | .official => .pgcWeb
  | .proxy => .pgcProxy

def PlannedPgcPlan.entries : PlannedPgcPlan → List PlanEntry
  | .download entries | .playback entries => entries

def PlannedPgcPlan.singleEntryIdentity (plan : PlannedPgcPlan) : Option PlanEntry :=
  match plan.entries with
  | [entry] => some entry
  | _ => none

def PlannedPgcPlan.hasSingleIdentity (plan : PlannedPgcPlan) (expected : PgcEpisodeIdentity)
    (route : PgcPlanRoute) : Bool :=
  match plan.singleEntryIdentity with
  | none => false
  | some entry =>
    expected.matches entry.aid entry.cid entry.epid && decide (entry.source = route.source)

def officialPgcIdentityMatchesEpisodeInput (expectedEpid : Nat) : Option PlanEntry → Bool
  | none => false
  | some entry =>
    entry.aid != 0 && entry.cid != 0 && entry.epid == some expectedEpid &&
      decide (entry.source = .pgcWeb)

def trustedOfficialEpisodeMatchesInput (input : Input) (plan : PlannedPgcPlan) : Bool :=
  match input with
  | .episode expectedEpid =>
    officialPgcIdentityMatchesEpisodeInput expectedEpid plan.singleEntryIdentity
  | _ => false

variable {plan : PlannedPgcPlan}

theorem singleEntryIdentity_eq_some {entry : PlanEntry} :
    plan.singleEntryIdentity = some entry ↔ plan.entries = [entry] := by
  unfold PlannedPgcPlan.singleEntryIdentity
  constructor
  · intro h
    split at h
    · rename_i only hes
      cases h
      exact hes
    · cases h
  · intro h
    rw [h]

theorem hasSingleIdentity_iff {expected : PgcEpisodeIdentity} {route : PgcPlanRoute} :
    plan.hasSingleIdentity expected route = true ↔
      plan.entries = [⟨expected.aid, expected.cid, some expected.epid, route.source⟩] := by
  rw [← singleEntryIdentity_eq_some]
  unfold PlannedPgcPlan.hasSingleIdentity
  cases plan.singleEntryIdentity with
  | none => simp
  | some entry =>
    obtain ⟨aid, cid, epid, source⟩ := entry
    simp only [PgcEpisodeIdentity.matches, Bool.and_eq_true, beq_iff_eq, decide_eq_true_eq,
      Option.some.injEq, PlanEntry.mk.injEq]
    constructor
    · rintro ⟨⟨⟨rfl, rfl⟩, rfl⟩, rfl⟩
      exact ⟨rfl, rfl, rfl, rfl⟩
    · rintro ⟨rfl, rfl, rfl, rfl⟩
      exact ⟨⟨⟨rfl, rfl⟩, rfl⟩, rfl⟩

theorem trustedOfficialEpisode_iff {input : Input} :
    trustedOfficialEpisodeMatchesInput input plan = true ↔
      ∃ epid aid cid, input = .episode epid ∧ aid ≠ 0 ∧ cid ≠ 0 ∧
        plan.entries = [⟨aid, cid, some epid, .pgcWeb⟩] := by
  unfold trustedOfficialEpisodeMatchesInput
  cases input with
  | episode epid =>
    simp only [← singleEntryIdentity_eq_some]
    cases plan.singleEntryIdentity with
    | none => simp [officialPgcIdentityMatchesEpisodeInput]
    | some entry =>
      obtain ⟨aid, cid, shown, source⟩ := entry
      simp only [officialPgcIdentityMatchesEpisodeInput, Bool.and_eq_true, bne_iff_ne,
        beq_iff_eq, decide_eq_true_eq]
      constructor
      · rintro ⟨⟨⟨haid, hcid⟩, rfl⟩, rfl⟩
        exact ⟨epid, aid, cid, rfl, haid, hcid, rfl⟩
      · rintro ⟨epid', aid', cid', heq, haid, hcid, he⟩
        cases heq
        cases he
        exact ⟨⟨⟨haid, hcid⟩, rfl⟩, rfl⟩
  | season _ | media _ | other _ => simp

structure SeasonInfo where
  areas : List String
  title : String
  seasonId : Option Nat
  mediaId : Option Nat
  deriving DecidableEq

structure EpisodeInfo where
  aid : Nat
  cid : Nat
  epid : Nat
  title : String
  longTitle : Option String
  deriving DecidableEq

structure SeasonContent where
  season : SeasonInfo
  selectedEpisodes : List EpisodeInfo
  deriving DecidableEq

inductive ResolvedContent where
  | season (content : SeasonContent)
  | other
  deriving DecidableEq

structure PgcRouteMetadata where
  identity : PgcEpisodeIdentity
  seriesKeys : List String
  areaHint : Option Region
  deriving DecidableEq

/-- Lower case as far as a hint can tell: only ASCII letters, the dotted capital I and the
Kelvin sign have a lower case with an ASCII letter in it, and the other letters of the
hints have no case. -/
def toLowercase (text : String) : List Char :=
  text.toList.flatMap fun c =>
    if c = '\u212a' then ['k']
    else if c = '\u0130' then ['i', '\u0307']
    else [c.toLower]

def inferRegion (text : String) : Option Region :=
  let text := toLowercase text
  if containsAny ["香港", "港澳", "hong kong", "hongkong"] text then
    some .hk
  else if containsAny ["台湾", "台灣", "taiwan", "taipei"] text then
    some .tw
  else if containsAny ["泰国", "泰國", "thailand"] text then
    some .th
  else if containsAny ["中国大陆", "中國大陸", "mainland china"] text then
    some .cn
  else
    none

def Input.isPgc : Input → Bool
  | .episode _ | .season _ | .media _ => true
  | .other _ => false

def pgcRouteMetadata (input : Input) (resolved : ResolvedContent) : Option PgcRouteMetadata :=
  if input.isPgc then
    match resolved with
    | .other => none
    | .season content =>
      match content.selectedEpisodes with
      | [episode] =>
        if episode.aid = 0 ∨ episode.cid = 0 ∨ episode.epid = 0 then
          none
        else
          some
            { identity := ⟨episode.aid, episode.cid, episode.epid⟩
              seriesKeys :=
                (content.season.seasonId.map fun id => "season:" ++ toString id).toList ++
                  (content.season.mediaId.map fun id => "media:" ++ toString id).toList
              areaHint :=
                (content.season.areas.findSome? inferRegion).or
                  ((inferRegion content.season.title).or
                    ((inferRegion episode.title).or
                      (episode.longTitle.bind inferRegion))) }
      | _ => none
  else
    none

def routeTargetArea (affinity titleHint : Option Region) : Region :=
  ((affinity.filter fun area => area != .all).or
    (titleHint.filter fun area => area != .all)).getD .cn

def coreAreaForRegion : Region → Except BilibiliDownloadError RestrictedArea
  | .cn => .ok .cn
  | .hk => .ok .hk
  | .tw => .ok .tw
  | .th => .ok .th
  | .all => .error (.failed "A concrete region is required for PGC Web proxy routing.")

structure ResolverCandidate where
  hostId : String
  origin : String
  name : String
  regions : List Region
  deriving DecidableEq

inductive MemoryScope where
  | content
  | series
  deriving DecidableEq

structure RouteMemoryEntry where
  scope : MemoryScope
  key : String
  hostId : String
  area : Region
  updatedAt : Nat
  expiresAt : Nat
  deriving DecidableEq

abbrev RouteMemory := List RouteMemoryEntry

def maxMemoryRecords : Nat := 512

def routeMemoryTtlSecs : Nat := 7 * 24 * 60 * 60

def maxUnixSeconds : Nat := 2 ^ 64 - 1

variable (memory : RouteMemory)

def RouteMemory.unexpired (now : Nat) : RouteMemory :=
  memory.filter fun entry => decide (now < entry.expiresAt)

/-- The entry that `lookup` finds among the entries that have not expired. -/
def RouteMemory.lookup (contentKey : String) (seriesKeys : List String) : Option RouteMemoryEntry :=
  (memory.find? fun entry => entry.scope == .content && entry.key == contentKey).or
    (seriesKeys.findSome? fun key =>
      memory.find? fun entry => entry.scope == .series && entry.key == key)

def digitsAfter (start key : String) : Bool :=
  decide (start.toList <+: key.toList) && decide (start.length < key.length) &&
    (key.toList.drop start.length).all Char.isDigit

def validMemoryKey (scope : MemoryScope) (key : String) : Bool :=
  decide (key.utf8ByteSize ≤ 64) &&
    match scope with
    | .content => digitsAfter "epid:" key
    | .series => digitsAfter "season:" key || digitsAfter "media:" key

def RouteMemory.put (entry : RouteMemoryEntry) : RouteMemory :=
  memory.filter (fun existing => existing.scope != entry.scope || existing.key != entry.key) ++
    [entry]

def routeEntries (contentKey : String) (seriesKeys : List String) (hostId : String)
    (area : Region) (now : Nat) : List RouteMemoryEntry :=
  let entry (scope : MemoryScope) (key : String) : RouteMemoryEntry :=
    { scope, key, hostId, area, updatedAt := now,
      expiresAt := min (now + routeMemoryTtlSecs) maxUnixSeconds }
  (if validMemoryKey .content contentKey then [entry .content contentKey] else []) ++
    (seriesKeys.filter (validMemoryKey .series)).map (entry .series)

/-- `normalize` is the host id as the settings accept it, nothing for an invalid one. -/
def RouteMemory.recordRegionRoute (normalize : String → Option String) (memory : RouteMemory)
    (contentKey : String) (seriesKeys : List String) (hostId : String) (area : Region)
    (now : Nat) : RouteMemory :=
  match normalize hostId with
  | none => memory
  | some hostId =>
    if area = .all then
      memory
    else
      let records := routeEntries contentKey seriesKeys hostId area now
      if records.isEmpty then
        memory
      else
        let memory := (records.foldl RouteMemory.put memory).mergeSort
          fun first second => decide (first.updatedAt ≤ second.updatedAt)
        memory.drop (memory.length - maxMemoryRecords)

variable {entry : RouteMemoryEntry}

structure RouteMemoryEntry.Recorded (entry : RouteMemoryEntry) (hostId : String) (area : Region)
    (now : Nat) : Prop where
  hostId : entry.hostId = hostId
  area : entry.area = area
  key : validMemoryKey entry.scope entry.key = true
  updatedAt : entry.updatedAt = now
  expiresAt : entry.expiresAt = min (now + routeMemoryTtlSecs) maxUnixSeconds

variable {contentKey hostId : String} {seriesKeys : List String}

theorem routeEntries_mem {area : Region} {now : Nat}
    (h : entry ∈ routeEntries contentKey seriesKeys hostId area now) :
    entry.Recorded hostId area now := by
  rcases mem_append.mp h with hcontent | hseries
  · split at hcontent
    · rename_i hv
      cases mem_singleton.mp hcontent
      exact ⟨rfl, rfl, hv, rfl, rfl⟩
    · cases hcontent
  · obtain ⟨key, hk, rfl⟩ := mem_map.mp hseries
    exact ⟨rfl, rfl, (mem_filter.mp hk).2, rfl, rfl⟩

theorem foldl_put_mem {records : List RouteMemoryEntry} {memory : RouteMemory}
    (h : entry ∈ records.foldl RouteMemory.put memory) : entry ∈ memory ∨ entry ∈ records := by
  induction records generalizing memory with
  | nil => exact .inl h
  | cons first rest ih =>
    rcases ih h with hput | hr
    · rcases mem_append.mp hput with hk | hfst
      · exact .inl (mem_filter.mp hk).1
      · exact .inr (mem_cons.mpr (.inl (mem_singleton.mp hfst)))
    · exact .inr (mem_cons_of_mem _ hr)

theorem recordRegionRoute_mem {normalize : String → Option String} {memory : RouteMemory}
    {area : Region} {now : Nat}
    (h : entry ∈ memory.recordRegionRoute normalize contentKey seriesKeys hostId area now) :
    entry ∈ memory ∨ ∃ host, normalize hostId = some host ∧ area ≠ .all ∧
      entry.Recorded host area now := by
  unfold RouteMemory.recordRegionRoute at h
  cases hnormal : normalize hostId with
  | none =>
    rw [hnormal] at h
    exact .inl h
  | some normal =>
    rw [hnormal] at h
    simp only at h
    split at h
    · exact .inl h
    rename_i harea
    split at h
    · exact .inl h
    have hsorted := mem_mergeSort.mp (mem_of_mem_drop h)
    rcases foldl_put_mem hsorted with hold | hn
    · exact .inl hold
    · exact .inr ⟨normal, rfl, harea, routeEntries_mem hn⟩

end NetPlayer.Resolver
