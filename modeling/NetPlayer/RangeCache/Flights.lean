import NetPlayer.RangeCache.Coordinator
import NetPlayer.RangeCache.StoreRuns

/-!
# Range flights of one resource

Any number of `ensure_range_span` calls on one resource: each takes the read side
of the maintenance lock, claims its chunk under the publication lock, snapshots
the manifest, validates origins and commits; maintenance takes the write side.
A step is one critical section, so a run is an interleaving of the calls. A call
that is dropped gives up its flight before its side of the lock.
-/

namespace NetPlayer.RangeCache

open Faulty Faulty.Program Transition Function Option Finmap

/-- What a call holds of the maintenance lock and of the coordinator. -/
inductive SpanPhase
  | idle
  | admitted
  | flying (flight : RangeFlight) (snapshot : Option LoadedRangeManifest)
  | maintaining

def SpanPhase.owned : SpanPhase → Option RangeChunkKey
  | .flying flight _ => if flight.owner then some flight.key else none
  | .idle => none
  | .admitted => none
  | .maintaining => none

def SpanPhase.snapshot : SpanPhase → Option LoadedRangeManifest
  | .flying _ snapshot => snapshot
  | .idle => none
  | .admitted => none
  | .maintaining => none

structure FlightSystem where
  state : RangeState
  nextChannel : ChannelId
  files : ResourceFiles
  tasks : Nat → SpanPhase

def FlightSystem.move (s : FlightSystem) (task : Nat) (phase : SpanPhase) : FlightSystem :=
  { s with tasks := Function.update s.tasks task phase }

def publishedSnapshot (expected : LoadedRangeManifest) :
    Outcome HlsRangeError LoadedRangeManifest → LoadedRangeManifest
  | .returned loaded => loaded
  | .raised _ => expected
  | .crashed => expected

inductive FlightAction
  | enter (task : Nat)
  | claim (task : Nat) (chunk : RangeChunkKey)
  | snapshot (task : Nat)
  | publishOrigin (task : Nat) (origin : String) (strongEtag : Option String)
  | commit (task : Nat) (input : RangeExtentCommitInput)
  | land (task : Nat)
  | leave (task : Nat)
  | beginMaintenance (task : Nat)
  | compact (task : Nat)
  | endMaintenance (task : Nat)
  | coordinate

section

variable [UrlParser]

/-- One critical section of one of the calls. `coordinate` is whatever else the coordinator does
meanwhile; it leaves the flights of this resource alone. -/
inductive FlightStep (resource : HlsMediaResource) (key : RangeResourceKey) :
    FlightSystem → FlightAction → FlightSystem → Prop
  | enter {s : FlightSystem} {task : Nat} (start : s.tasks task = .idle)
      (unlocked : ∀ other, s.tasks other ≠ .maintaining) :
      FlightStep resource key s (.enter task) (s.move task .admitted)
  | claim {s : FlightSystem} {task : Nat} {range : ByteRange} {total : Nat}
      {loaded : LoadedRangeManifest} {priority : HlsRangePriority} {state : RangeState}
      {flight : RangeFlight} (verdicts : List Verdict) (admitted : s.tasks task = .admitted)
      (reads : (loadExisting resource s.files verdicts).1 = .returned loaded)
      (sized : loaded.manifest.totalLength = some total)
      (bounds : range.start < range.stop ∧ range.stop ≤ total)
      (missing : rangeIsCovered loaded.manifest.extents range = false)
      (ok : claimChunk s.state ⟨key, total, range⟩ priority s.nextChannel = .ok (state, flight)) :
      FlightStep resource key s (.claim task ⟨key, total, range⟩)
        { s.move task (.flying flight none) with
          state := state
          nextChannel := s.nextChannel + 1 }
  | snapshot {s : FlightSystem} {task : Nat} {flight : RangeFlight}
      {old : Option LoadedRangeManifest} {loaded : LoadedRangeManifest} (verdicts : List Verdict)
      (flying : s.tasks task = .flying flight old) (owner : flight.owner = true)
      (reads : (loadRangeManifest resource s.files verdicts).1 = .returned (some loaded)) :
      FlightStep resource key s (.snapshot task) (s.move task (.flying flight (some loaded)))
  | publishOrigin {s : FlightSystem} {task : Nat} {flight : RangeFlight}
      {expected : LoadedRangeManifest} {origin : String} {strongEtag : Option String}
      (verdicts : List Verdict) (flying : s.tasks task = .flying flight (some expected))
      (owner : flight.owner = true) :
      FlightStep resource key s (.publishOrigin task origin strongEtag)
        { s.move task (.flying flight (some (publishedSnapshot expected
            (publishValidatedOrigin resource expected origin strongEtag s.files verdicts).1))) with
          files :=
            (publishValidatedOrigin resource expected origin strongEtag s.files verdicts).2.1 }
  | commit {s : FlightSystem} {task : Nat} {flight : RangeFlight} {expected : LoadedRangeManifest}
      {input : RangeExtentCommitInput} (verdicts : List Verdict)
      (flying : s.tasks task = .flying flight (some expected)) (owner : flight.owner = true)
      (rebases : input.expected = expected.manifest) :
      FlightStep resource key s (.commit task input)
        { s.move task (.flying flight none) with
          files := (commitRangeExtentWithFailure resource (activeFlightCount s.state key)
            flight.key.range input s.files verdicts).2.1 }
  | land {s : FlightSystem} {task : Nat} {flight : RangeFlight}
      {snapshot : Option LoadedRangeManifest} (flying : s.tasks task = .flying flight snapshot) :
      FlightStep resource key s (.land task)
        { s.move task .admitted with state := flight.drop s.state }
  | leave {s : FlightSystem} {task : Nat} (admitted : s.tasks task = .admitted) :
      FlightStep resource key s (.leave task) (s.move task .idle)
  | beginMaintenance {s : FlightSystem} {task : Nat} (free : ∀ other, s.tasks other = .idle) :
      FlightStep resource key s (.beginMaintenance task) (s.move task .maintaining)
  | compact {s : FlightSystem} {task : Nat} (control : CompactionControl)
      (verdicts : List Verdict) (maintaining : s.tasks task = .maintaining) :
      FlightStep resource key s (.compact task)
        { s with
          files := (compactAdmitted resource control (activeFlightCount s.state key) s.files
            verdicts).2.1 }
  | endMaintenance {s : FlightSystem} {task : Nat} (maintaining : s.tasks task = .maintaining) :
      FlightStep resource key s (.endMaintenance task) (s.move task .idle)
  | coordinate {s : FlightSystem} {state : RangeState} (nextChannel : ChannelId)
      (elsewhere : ∀ chunk, chunk.resource = key →
        state.flights.lookup chunk = s.state.flights.lookup chunk) :
      FlightStep resource key s .coordinate { s with state := state, nextChannel := nextChannel }

end

structure Registered (key : RangeResourceKey) (state : RangeState)
    (owners : Nat → Option RangeChunkKey) : Prop where
  registered : ∀ task chunk, owners task = some chunk →
    chunk.resource = key ∧ (state.flights.lookup chunk).isSome
  distinct : ∀ a b chunk, owners a = some chunk → owners b = some chunk → a = b

def FlightSystem.owners (s : FlightSystem) (task : Nat) : Option RangeChunkKey :=
  (s.tasks task).owned

def FlightSystem.snapshots (s : FlightSystem) (task : Nat) : Option LoadedRangeManifest :=
  (s.tasks task).snapshot

section

variable {s : FlightSystem} {task : Nat} {phase : SpanPhase} {key : RangeResourceKey}
  {state : RangeState} {owners : Nat → Option RangeChunkKey}

theorem tasks_move_self (s : FlightSystem) (task : Nat) (phase : SpanPhase) :
    (s.move task phase).tasks task = phase := update_self _ _ _

theorem tasks_move_of_ne (s : FlightSystem) {task other : Nat} (phase : SpanPhase)
    (h : other ≠ task) : (s.move task phase).tasks other = s.tasks other :=
  update_of_ne h _ _

theorem owners_move (s : FlightSystem) (task : Nat) (phase : SpanPhase) :
    (s.move task phase).owners = Function.update s.owners task phase.owned := by
  funext other
  by_cases h : other = task
  · subst h
    simp [FlightSystem.owners, FlightSystem.move]
  · simp [FlightSystem.owners, FlightSystem.move, update_of_ne h]

theorem snapshots_move (s : FlightSystem) (task : Nat) (phase : SpanPhase) :
    (s.move task phase).snapshots = Function.update s.snapshots task phase.snapshot := by
  funext other
  by_cases h : other = task
  · subst h
    simp [FlightSystem.snapshots, FlightSystem.move]
  · simp [FlightSystem.snapshots, FlightSystem.move, update_of_ne h]

theorem owners_move_same (h : phase.owned = (s.tasks task).owned) :
    (s.move task phase).owners = s.owners := by
  rw [owners_move, h]
  exact update_eq_self task s.owners

theorem Registered.mono (h : Registered key s.state owners)
    (hmore : ∀ chunk, chunk.resource = key → (s.state.flights.lookup chunk).isSome →
      (state.flights.lookup chunk).isSome) : Registered key state owners where
  registered := by
    intro task chunk howned
    obtain ⟨hk, hsome⟩ := h.registered task chunk howned
    exact ⟨hk, hmore chunk hk hsome⟩
  distinct := h.distinct

theorem Registered.release (h : Registered key state owners) (task : Nat) :
    Registered key state (Function.update owners task none) := by
  have hback : ∀ other chunk, Function.update owners task none other = some chunk →
      owners other = some chunk := by
    intro other chunk howned
    by_cases hother : other = task
    · subst hother
      simp at howned
    · rwa [update_of_ne hother] at howned
  exact ⟨fun other chunk howned => h.registered other chunk (hback other chunk howned),
    fun a b chunk ha hb => h.distinct a b chunk (hback a chunk ha) (hback b chunk hb)⟩

theorem Registered.claim (h : Registered key s.state owners) {chunk : RangeChunkKey}
    {priority : HlsRangePriority} {fresh : ChannelId} {flight : RangeFlight}
    (hk : chunk.resource = key)
    (ok : claimChunk s.state chunk priority fresh = .ok (state, flight)) (task : Nat) :
    Registered key state
      (Function.update owners task (if flight.owner then some flight.key else none)) := by
  have hl : ∀ flights : Finmap fun _ : RangeChunkKey => FlightState, ∀ entry other,
      (flights.lookup other).isSome → ((flights.insert chunk entry).lookup other).isSome := by
    intro flights entry other hsome
    by_cases hother : other = chunk
    · subst hother
      simp
    · rwa [lookup_insert_of_ne _ hother]
  rcases (claimChunk_ok ok).2 with ⟨current, _, rfl, rfl⟩ | ⟨hfree, rfl, rfl⟩
  · simp only [Bool.false_eq_true, if_false]
    exact (h.mono fun other _ hsome => hl _ _ other hsome).release task
  simp only [if_true]
  have hnobody : ∀ other, owners other ≠ some chunk := by
    intro other howned
    have hsome := (h.registered other chunk howned).2
    rw [hfree] at hsome
    cases hsome
  constructor
  · intro other found howned
    by_cases hother : other = task
    · subst hother
      simp only [update_self, some.injEq] at howned
      subst howned
      exact ⟨hk, by simp⟩
    · rw [update_of_ne hother] at howned
      obtain ⟨hf, hsome⟩ := h.registered other found howned
      exact ⟨hf, hl _ _ found hsome⟩
  · intro a b found ha hb
    by_cases hatask : a = task
    · by_cases hbtask : b = task
      · rw [hatask, hbtask]
      subst hatask
      simp only [update_self, some.injEq] at ha
      rw [update_of_ne hbtask, ← ha] at hb
      exact absurd hb (hnobody b)
    · rw [update_of_ne hatask] at ha
      by_cases hbtask : b = task
      · subst hbtask
        simp only [update_self, some.injEq] at hb
        rw [← hb] at ha
        exact absurd ha (hnobody a)
      · rw [update_of_ne hbtask] at hb
        exact h.distinct a b found ha hb

theorem Registered.drop (h : Registered key state owners) {flight : RangeFlight}
    (howned : owners task = if flight.owner then some flight.key else none) :
    Registered key (flight.drop state) (Function.update owners task none) := by
  have hr := h.release task
  unfold RangeFlight.drop finishFlight releaseForegroundInterest
  split
  · rename_i ho
    rw [if_pos ho] at howned
    split
    · exact hr
    split
    · refine ⟨fun other chunk hother => ?_, hr.distinct⟩
      have hne : other ≠ task := by
        rintro rfl
        simp at hother
      rw [update_of_ne hne] at hother
      obtain ⟨hk, hsome⟩ := h.registered other chunk hother
      have hchunk : chunk ≠ flight.key := by
        rintro rfl
        exact hne (h.distinct other task _ hother howned)
      refine ⟨hk, ?_⟩
      rwa [lookup_erase_ne hchunk]
    · exact hr
  · split
    · split
      · exact hr
      refine ⟨fun other chunk hother => ?_, hr.distinct⟩
      obtain ⟨hk, hsome⟩ := hr.registered other chunk hother
      refine ⟨hk, ?_⟩
      by_cases hchunk : chunk = flight.key
      · subst hchunk
        simp
      · rwa [lookup_insert_of_ne _ hchunk]
    · exact hr

theorem Registered.sole (h : Registered key state owners) (hc : activeFlightCount state key = 1)
    {a b : Nat} {chunk other : RangeChunkKey} (ha : owners a = some chunk)
    (hb : owners b = some other) : a = b := by
  have hmem : ∀ task found, owners task = some found →
      found ∈ state.flights.keys.filter fun flight => flight.resource = key := by
    intro task found howned
    obtain ⟨hk, hsome⟩ := h.registered task found howned
    rw [Finset.mem_filter, mem_keys]
    exact ⟨lookup_isSome.mp hsome, hk⟩
  have hle : (state.flights.keys.filter fun flight => flight.resource = key).card ≤ 1 :=
    le_of_eq hc
  have hsame : chunk = other := Finset.card_le_one.mp hle _ (hmem a chunk ha) _ (hmem b other hb)
  subst hsame
  exact h.distinct a b chunk ha hb

end

structure Follows (snapshot current : PersistedRangeManifest) : Prop where
  bound : OriginsBound snapshot
  succeeds : Succeeds snapshot current
  total : ∀ total, snapshot.totalLength = some total → current.totalLength = some total
  extents : KeepsExtents snapshot current

theorem Follows.refl {manifest : PersistedRangeManifest} (h : OriginsBound manifest) :
    Follows manifest manifest :=
  ⟨h, Succeeds.refl manifest, fun _ h => h, fun _ h => h⟩

theorem Follows.step {snapshot old new : PersistedRangeManifest} (h : Follows snapshot old)
    (hsucceeds : Succeeds old new) (htotal : new.totalLength = old.totalLength)
    (hexts : KeepsExtents old new) : Follows snapshot new where
  bound := h.bound
  succeeds := h.succeeds.trans hsucceeds
  total := by
    intro total hold
    rw [htotal]
    exact h.total total hold
  extents := fun extent hmem => hexts extent (h.extents extent hmem)

def SnapshotsFollow (files : ResourceFiles) (snapshots : Nat → Option LoadedRangeManifest) : Prop :=
  ∀ task loaded, snapshots task = some loaded → ∀ current, files.current = some current →
    Follows loaded.manifest current

def CurrentBound (files : ResourceFiles) : Prop :=
  ∀ current, files.current = some current → OriginsBound current

section

variable {files after : ResourceFiles} {snapshots : Nat → Option LoadedRangeManifest}
  {publishes : PersistedRangeManifest → PersistedRangeManifest → Prop}
  (h : SnapshotsFollow files snapshots)

include h in
theorem SnapshotsFollow.replaces (hrepls : Replaces publishes files after)
    (hpublishes : ∀ old new, publishes old new →
      Succeeds old new ∧ new.totalLength = old.totalLength ∧ KeepsExtents old new) :
    SnapshotsFollow after snapshots := by
  intro task loaded hloaded current hcurrent
  rcases hrepls with hsame | ⟨old, new, hold, hnew, hpubl⟩
  · exact h task loaded hloaded current (hsame.symm.trans hcurrent)
  · obtain rfl : new = current := some.inj (hnew.symm.trans hcurrent)
    obtain ⟨hsucceeds, htotal, hexts⟩ := hpublishes old new hpubl
    exact (h task loaded hloaded old hold).step hsucceeds htotal hexts

theorem CurrentBound.replaces (h : CurrentBound files) (hrepls : Replaces publishes files after)
    (hpublishes : ∀ old new, publishes old new → Succeeds old new) : CurrentBound after := by
  intro current hcurrent
  rcases hrepls with hsame | ⟨old, new, hold, hnew, hpubl⟩
  · exact h current (hsame.symm.trans hcurrent)
  · obtain rfl : new = current := some.inj (hnew.symm.trans hcurrent)
    exact (hpublishes old new hpubl).bound (h old hold)

include h in
theorem SnapshotsFollow.update (task : Nat) {snapshot : Option LoadedRangeManifest}
    (hsnapshot : ∀ loaded, snapshot = some loaded → ∀ current, files.current = some current →
      Follows loaded.manifest current) :
    SnapshotsFollow files (Function.update snapshots task snapshot) := by
  intro other loaded hloaded
  by_cases hother : other = task
  · subst hother
    rw [update_self] at hloaded
    exact hsnapshot loaded hloaded
  · rw [update_of_ne hother] at hloaded
    exact h other loaded hloaded

include h in
theorem SnapshotsFollow.release (task : Nat) :
    SnapshotsFollow files (Function.update snapshots task none) :=
  h.update task fun _ hnone => by cases hnone

theorem follows_loaded {loaded : LoadedRangeManifest} (hbd : CurrentBound files)
    (hloaded : files.loaded = some loaded) :
    ∀ current, files.current = some current → Follows loaded.manifest current := by
  intro current hcurrent
  obtain ⟨object, hob, rfl⟩ := map_eq_some_iff.mp hloaded
  have hsame : object.content = current := by
    simpa [ResourceFiles.current, hob] using hcurrent
  subst hsame
  exact Follows.refl (hbd object.content hcurrent)

end

def Exclusive (tasks : Nat → SpanPhase) : Prop :=
  ∀ a b, tasks a = .maintaining → b ≠ a → tasks b = .idle

theorem Exclusive.move {tasks : Nat → SpanPhase} (h : Exclusive tasks) {task : Nat}
    {phase : SpanPhase} (hbusy : tasks task ≠ .idle) (hp : phase ≠ .maintaining) :
    Exclusive (Function.update tasks task phase) := by
  intro a b ha hne
  by_cases hatask : a = task
  · subst hatask
    rw [update_self] at ha
    exact absurd ha hp
  · rw [update_of_ne hatask] at ha
    exact absurd (h a task ha (Ne.symm hatask)) hbusy

structure FlightInvariant [UrlParser] (resource : HlsMediaResource) (key : RangeResourceKey)
    (s : FlightSystem) : Prop where
  stored : Stored resource s.files
  bound : CurrentBound s.files
  registered : Registered key s.state s.owners
  exclusive : Exclusive s.tasks
  holders : ∀ task loaded, s.snapshots task = some loaded → (s.owners task).isSome
  follows : SnapshotsFollow s.files s.snapshots

section

variable [UrlParser] {resource : HlsMediaResource} {key : RangeResourceKey} {s t : FlightSystem}

variable {files : ResourceFiles}

theorem StaysPut.after {Value : Type}
    {publishes : PersistedRangeManifest → PersistedRangeManifest → Prop}
    {result : Value → ResourceFiles → Prop} {program : FileM Value}
    (h : StaysPut resource publishes result program files) (verdicts : List Verdict) :
    Stored resource (program files verdicts).2.1 ∧
      Replaces publishes files (program files verdicts).2.1 ∧
      ∀ value, (program files verdicts).1 = .returned value →
        result value (program files verdicts).2.1 := by
  have hends := h verdicts
  revert hends
  cases (program files verdicts).1 with
  | returned value =>
    intro hends
    refine ⟨hends.1.stored, hends.1.replaces, fun found hf => ?_⟩
    cases hf
    exact hends.2
  | raised error => exact fun hends => ⟨hends.stored, hends.replaces, fun _ h => by cases h⟩
  | crashed => exact fun hends => ⟨hends.stored, hends.replaces, fun _ h => by cases h⟩

theorem commitRangeExtent_after (h : Stored resource files) (activeFlightCount : Nat)
    (range : ByteRange) (input : RangeExtentCommitInput) (verdicts : List Verdict) :
    Stored resource
        (commitRangeExtentWithFailure resource activeFlightCount range input files verdicts).2.1 ∧
      Replaces (PublishesCommit activeFlightCount) files
        (commitRangeExtentWithFailure resource activeFlightCount range input files verdicts).2.1 := by
  have hends := ends_commitRangeExtent h activeFlightCount range input verdicts
  revert hends
  cases (commitRangeExtentWithFailure resource activeFlightCount range input files verdicts).1 with
  | returned durableBytes => exact fun hends => ⟨hends.2.stored, hends.2.replaces⟩
  | raised failure =>
    rintro (⟨_, hends⟩ | ⟨_, hends⟩)
    · exact ⟨hends.stored, hends.replaces⟩
    · exact ⟨hends.stored, hends.replaces⟩
  | crashed =>
    rintro (hends | hends)
    · exact ⟨hends.stored, hends.replaces⟩
    · exact ⟨hends.stored, hends.replaces⟩

variable {task : Nat} {nextChannel : ChannelId} (h : FlightInvariant resource key s)

include h

theorem FlightInvariant.moves {phase : SpanPhase} {state : RangeState}
    (hstor : Stored resource files) (hbd : CurrentBound files)
    (hos : SnapshotsFollow files (Function.update s.snapshots task none))
    (hreg : Registered key state (s.move task phase).owners)
    (hexclusive : Exclusive (s.move task phase).tasks)
    (hsnapshot : ∀ loaded, phase.snapshot = some loaded → phase.owned.isSome ∧
      ∀ current, files.current = some current → Follows loaded.manifest current) :
    FlightInvariant resource key
      { s.move task phase with state := state, nextChannel := nextChannel, files := files } where
  stored := hstor
  bound := hbd
  registered := hreg
  exclusive := hexclusive
  holders := by
    intro other loaded hloaded
    show ((s.move task phase).owners other).isSome
    have hloaded : (s.move task phase).snapshots other = some loaded := hloaded
    rw [snapshots_move] at hloaded
    rw [owners_move]
    by_cases hother : other = task
    · subst hother
      rw [update_self] at hloaded ⊢
      exact (hsnapshot loaded hloaded).1
    · rw [update_of_ne hother] at hloaded ⊢
      exact h.holders other loaded hloaded
  follows := by
    have hm := hos.update task fun loaded hloaded => (hsnapshot loaded hloaded).2
    rwa [update_idem, ← snapshots_move] at hm

theorem FlightInvariant.stays {phase : SpanPhase} {state : RangeState}
    (hreg : Registered key state (s.move task phase).owners)
    (hexclusive : Exclusive (s.move task phase).tasks) (hsnapshot : phase.snapshot = none) :
    FlightInvariant resource key
      { s.move task phase with state := state, nextChannel := nextChannel } :=
  h.moves h.stored h.bound (h.follows.release task) hreg hexclusive (by simp [hsnapshot])

theorem FlightInvariant.others_follow {chunk : RangeChunkKey} (ho : s.owners task = some chunk)
    (hrepls : Replaces (PublishesCommit (activeFlightCount s.state key)) s.files files) :
    SnapshotsFollow files (Function.update s.snapshots task none) := by
  by_cases hc : activeFlightCount s.state key = 1
  · -- the task's flight is the only one, so no other task holds a snapshot
    intro other loaded hloaded
    have hother : other ≠ task := by
      rintro rfl
      simp at hloaded
    rw [update_of_ne hother] at hloaded
    obtain ⟨found, hf⟩ := isSome_iff_exists.mp (h.holders other loaded hloaded)
    exact absurd (h.registered.sole hc hf ho) hother
  · apply SnapshotsFollow.release
    exact h.follows.replaces hrepls fun old new hpubl =>
      ⟨hpubl.succeeds, hpubl.total, hpubl.extents hc⟩

omit h

theorem FlightInvariant.step {action : FlightAction} (hst : FlightStep resource key s action t)
    (h : FlightInvariant resource key s) : FlightInvariant resource key t := by
  cases hst with
  | @enter task start unlocked =>
    refine h.stays ?_ ?_ rfl
    · rw [owners_move_same (by rw [start]; rfl)]
      exact h.registered
    · intro a b ha
      by_cases hatask : a = task
      · subst hatask
        rw [tasks_move_self] at ha
        cases ha
      · rw [tasks_move_of_ne s _ hatask] at ha
        exact absurd ha (unlocked a)
  | @claim task range total loaded priority state flight verdicts admitted reads sized bounds
      missing ok =>
      refine h.stays ?_ (h.exclusive.move (by rw [admitted]; simp) (by simp)) rfl
      rw [owners_move]
      exact h.registered.claim rfl ok task
  | @snapshot task flight old loaded verdicts flying owner reads =>
    refine h.moves h.stored h.bound (h.follows.release task) ?_
      (h.exclusive.move (by rw [flying]; simp) (by simp)) ?_
    · rw [owners_move_same (by rw [flying]; rfl)]
      exact h.registered
    · intro found hf
      have hends := reads_loadRangeManifest resource s.files verdicts
      rw [reads] at hends
      cases hf
      exact ⟨by simp [SpanPhase.owned, owner], follows_loaded h.bound hends.2.1.symm⟩
  | @publishOrigin task flight expected origin strongEtag verdicts flying owner =>
    obtain ⟨hstor, hrepls, hres⟩ :=
      (publishValidatedOrigin_staysPut h.stored expected origin strongEtag).after verdicts
    have hbd := h.bound.replaces hrepls fun _ _ hpubl => hpubl.succeeds
    have hfoll := h.follows.replaces hrepls fun old new hpubl =>
      ⟨hpubl.succeeds, hpubl.total, fun extent hmem => hpubl.extents ▸ hmem⟩
    refine h.moves hstor hbd (hfoll.release task) ?_
      (h.exclusive.move (by rw [flying]; simp) (by simp)) ?_
    · rw [owners_move_same (by rw [flying]; rfl)]
      exact h.registered
    · intro found hf
      refine ⟨by simp [SpanPhase.owned, owner], ?_⟩
      have hold : s.snapshots task = some expected := by
        simp [FlightSystem.snapshots, flying, SpanPhase.snapshot]
      revert hres hf
      cases (publishValidatedOrigin resource expected origin strongEtag s.files verdicts).1 with
      | returned loaded =>
        intro hres hf
        cases hf
        exact follows_loaded hbd (hres loaded rfl)
      | raised error | crashed =>
        intro _ hf
        cases hf
        exact hfoll task expected hold
  | @commit task flight expected input verdicts flying owner rebases =>
    obtain ⟨hstor, hrepls⟩ := commitRangeExtent_after h.stored
      (activeFlightCount s.state key) flight.key.range input verdicts
    have hbd := h.bound.replaces hrepls fun _ _ hpubl => hpubl.succeeds
    have ho : s.owners task = some flight.key := by
      simp [FlightSystem.owners, flying, SpanPhase.owned, owner]
    refine h.moves hstor hbd (h.others_follow ho hrepls) ?_
      (h.exclusive.move (by rw [flying]; simp) (by simp)) (by simp [SpanPhase.snapshot])
    rw [owners_move_same (by rw [flying]; rfl)]
    exact h.registered
  | @land task flight snapshot flying =>
    refine h.stays ?_ (h.exclusive.move (by rw [flying]; simp) (by simp)) rfl
    rw [owners_move]
    refine h.registered.drop ?_
    simp [FlightSystem.owners, flying, SpanPhase.owned]
  | @leave task admitted | @endMaintenance _ admitted =>
    refine h.stays ?_ (h.exclusive.move (by rw [admitted]; simp) (by simp)) rfl
    rw [owners_move_same (by rw [admitted]; rfl)]
    exact h.registered
  | @beginMaintenance task free =>
    refine h.stays ?_ ?_ rfl
    · rw [owners_move_same (by rw [free]; rfl)]
      exact h.registered
    · intro a b ha hne
      by_cases hatask : a = task
      · subst hatask
        rw [tasks_move_of_ne s _ hne]
        exact free b
      · rw [tasks_move_of_ne s _ hatask, free a] at ha
        cases ha
  | @compact task control verdicts maintaining =>
    obtain ⟨hstor, hrepls, _⟩ :=
      (compactAdmitted_staysPut h.stored control (activeFlightCount s.state key)).after verdicts
    have hbd := h.bound.replaces hrepls fun _ _ hpubl => hpubl.succeeds
    refine ⟨hstor, hbd, h.registered, h.exclusive, h.holders, ?_⟩
    -- nobody else holds the lock, so nobody holds a snapshot
    intro other loaded hloaded
    have hloaded : (s.tasks other).snapshot = some loaded := hloaded
    by_cases hother : other = task
    · rw [hother, maintaining] at hloaded
      cases hloaded
    · rw [h.exclusive task other maintaining hother] at hloaded
      cases hloaded
  | @coordinate state nextChannel elsewhere =>
    refine ⟨h.stored, h.bound, ?_, h.exclusive, h.holders, h.follows⟩
    refine h.registered.mono fun chunk hchunk hsome => ?_
    rwa [elsewhere chunk hchunk]

/-- No call has begun. -/
def FlightSystem.start (state : RangeState) (nextChannel : ChannelId) (files : ResourceFiles) :
    FlightSystem where
  state := state
  nextChannel := nextChannel
  files := files
  tasks := fun _ => .idle

omit [UrlParser] in
theorem initialManifest_bound (identity : FileIdentity) :
    OriginsBound (initialManifest resource identity) := by
  intro binding hmem
  cases hmem

variable {old : PersistedRangeManifest}

variable {new expected current : PersistedRangeManifest}

omit [UrlParser] in
theorem StoreOperation.succeeds (operation : StoreOperation)
    (h : operation.publishes old new) : Succeeds old new := by
  cases operation with
  | commit activeFlightCount range input => exact PublishesCommit.succeeds h
  | publishTotal expected total => exact PublishesTotal.succeeds h
  | publishOrigin expected origin strongEtag => exact PublishesOrigin.succeeds h
  | compact control activeFlightCount forceDrain => exact PublishesMerge.succeeds h

theorem bound_of_run {now : ResourceFiles} {loaded : LoadedRangeManifest}
    {verdicts : List Verdict}
    {history : List (StoreOperation × Outcome RangeExtentCommitFailure Unit)}
    (ha : files.rangeManifest = none)
    (hcreated : (ensureRangeManifest resource files verdicts).1 = .returned loaded)
    (hrun : Run (StoreStep resource) (ensureRangeManifest resource files verdicts).2.1 history now) :
    Stored resource now ∧ CurrentBound now := by
  obtain ⟨hstor, identity, hinitial⟩ := created_stored ha hcreated
  apply hrun.invariant fun now => Stored resource now ∧ CurrentBound now
  · intro before after label hst h
    obtain ⟨operation, outcome⟩ := label
    obtain ⟨haft, _, _, hrepls⟩ := hst.advances h.1
    exact ⟨haft, h.2.replaces hrepls fun _ _ => operation.succeeds⟩
  · refine ⟨hstor, fun current hcurrent => ?_⟩
    rw [hinitial] at hcurrent
    cases hcurrent
    exact initialManifest_bound identity

theorem FlightInvariant.start (hstor : Stored resource files) (hbd : CurrentBound files)
    (state : RangeState) (nextChannel : ChannelId) :
    FlightInvariant resource key (FlightSystem.start state nextChannel files) where
  stored := hstor
  bound := hbd
  registered := by
    constructor
    · intro task chunk h
      cases h
    · intro a b chunk h
      cases h
  exclusive := by
    intro a b h
    cases h
  holders := by
    intro task loaded h
    cases h
  follows := by
    intro task loaded h
    cases h

theorem FlightInvariant.run {labels : List FlightAction}
    (hrun : Run (FlightStep resource key) s labels t) (h : FlightInvariant resource key s) :
    FlightInvariant resource key t :=
  hrun.invariant (FlightInvariant resource key) (fun hst h => h.step hst) h

def FlightAction.PublishesOrigin : FlightAction → Prop
  | .publishOrigin _ _ _ => True
  | .enter _ => False
  | .claim _ _ => False
  | .snapshot _ => False
  | .commit _ _ => False
  | .land _ => False
  | .leave _ => False
  | .beginMaintenance _ => False
  | .compact _ => False
  | .endMaintenance _ => False
  | .coordinate => False

def BindingsKept (old : PersistedRangeManifest) (files : ResourceFiles) : Prop :=
  ∀ current, files.current = some current → KeepsBindings old current

omit [UrlParser] in
theorem BindingsKept.replaces {after : ResourceFiles}
    {publishes : PersistedRangeManifest → PersistedRangeManifest → Prop}
    (h : BindingsKept old files) (hrepls : Replaces publishes files after)
    (hpublishes : ∀ old new, publishes old new → KeepsBindings old new) :
    BindingsKept old after := by
  intro current hcurrent
  rcases hrepls with hsame | ⟨before, new, hbefore, hnew, hpubl⟩
  · exact h current (hsame.symm.trans hcurrent)
  · obtain rfl : new = current := some.inj (hnew.symm.trans hcurrent)
    intro origin binding hbinding
    exact hpublishes before new hpubl origin binding (h before hbefore origin binding hbinding)

theorem FlightStep.keeps_bindings {action : FlightAction}
    (hst : FlightStep resource key s action t) (h : FlightInvariant resource key s)
    (hother : ¬ action.PublishesOrigin) (hk : BindingsKept old s.files) :
    BindingsKept old t.files := by
  cases hst with
  | enter | claim | snapshot | land | leave | beginMaintenance | endMaintenance | coordinate =>
    exact hk
  | publishOrigin => exact (hother trivial).elim
  | commit verdicts =>
    exact hk.replaces (commitRangeExtent_after h.stored _ _ _ verdicts).2
      fun _ _ hpubl => hpubl.bindings
  | compact control verdicts =>
    exact hk.replaces ((compactAdmitted_staysPut h.stored control _).after verdicts).2.1
      fun _ _ hpubl => hpubl.bindings

variable {origin : String}

omit [UrlParser] in
theorem demandRebase_ok
    (h : rangeManifestRebaseCompatibleForExtentPublication expected current origin = true) :
    demandRebase expected current origin = pure () := by
  unfold demandRebase
  rw [if_pos h]

theorem commit_same {input : RangeExtentCommitInput} (hcurrent : files.current = some current)
    (horigin : mediaUrlOrigin input.finalUrl = some origin)
    (hexpd : rangeManifestRebaseCompatibleForExtentPublication input.expected current origin =
      true)
    (hsame : rangeManifestRebaseCompatibleForExtentPublication current current origin = true)
    (activeFlightCount : Nat) (range : ByteRange) (verdicts : List Verdict) :
    commitRangeExtentWithFailure resource activeFlightCount range input files verdicts =
      commitRangeExtentWithFailure resource activeFlightCount range
        { input with expected := current } files verdicts := by
  have hadmits : admitCommit resource range input files verdicts =
      admitCommit resource range { input with expected := current } files verdicts := by
    refine Inspects.bind_congr (inspects_demand (commitNotSync_rejected (notSync_invalid _)))
      (fun _ _ verdicts => ?_) verdicts
    refine Inspects.bind_congr (inspects_orRaise (commitNotSync_rejected (notSync_invalid _)))
      (fun found hf verdicts => ?_) verdicts
    refine Inspects.bind_congr ((reads_loadExisting resource files).mapError
      fun _ => commitNotSync_rejected) (fun loaded hloaded verdicts => ?_) verdicts
    obtain rfl : found = origin := some.inj (hf.symm.trans horigin)
    obtain rfl : loaded.manifest = current := by
      obtain ⟨object, hob, hvalue⟩ := map_eq_some_iff.mp hloaded.1
      rw [ResourceFiles.current, hob] at hcurrent
      rw [← hvalue]
      exact some.inj hcurrent
    rw [demandRebase_ok hexpd, demandRebase_ok hsame]
  show Program.bind _ _ files verdicts = Program.bind _ _ files verdicts
  unfold Program.bind
  rw [hadmits]
  rfl

def CommitsAsFresh (resource : HlsMediaResource) (activeFlightCount : Nat) (range : ByteRange)
    (files : ResourceFiles) (snapshot : PersistedRangeManifest) (origin : String) : Prop :=
  ∃ current, files.current = some current ∧
    rangeManifestRebaseCompatibleForExtentPublication snapshot current origin = true ∧
    ∀ input verdicts, input.expected = snapshot → mediaUrlOrigin input.finalUrl = some origin →
      commitRangeExtentWithFailure resource activeFlightCount range input files verdicts =
        commitRangeExtentWithFailure resource activeFlightCount range
          { input with expected := current } files verdicts

include h in
theorem FlightInvariant.commits {flight : RangeFlight} {snapshot : LoadedRangeManifest}
    (hflying : s.tasks task = .flying flight (some snapshot)) {binding : PersistedRangeOrigin}
    (hbinding : snapshot.manifest.bindingOf origin = some binding) :
    ∃ current binding', s.files.current = some current ∧
      current.bindingOf origin = some binding' ∧
      (binding'.strongEtag = binding.strongEtag → CommitsAsFresh resource
        (activeFlightCount s.state key) flight.key.range s.files snapshot.manifest origin) := by
  obtain ⟨current, data, hholds, _⟩ := h.stored
  have hcurrent : s.files.current = some current := hholds.manifestFile
  have hsnapshot : s.snapshots task = some snapshot := by
    simp [FlightSystem.snapshots, hflying, SpanPhase.snapshot]
  have hfoll := h.follows task snapshot hsnapshot current hcurrent
  have hsome : (snapshot.manifest.bindingOf origin).isSome := by rw [hbinding]; rfl
  obtain ⟨binding', hbinding'⟩ :=
    isSome_iff_exists.mp (hfoll.succeeds.origins origin hsome)
  refine ⟨current, binding', hcurrent, hbinding', fun hetag => ⟨current, hcurrent, ?_, ?_⟩⟩
  · exact hfoll.succeeds.extentPublication hfoll.bound hfoll.total hfoll.extents
      hbinding hbinding' hetag
  · rintro input verdicts hexpd horigin
    refine commit_same hcurrent horigin ?_ ?_ _ _ verdicts
    · rw [hexpd]
      exact hfoll.succeeds.extentPublication hfoll.bound hfoll.total hfoll.extents
        hbinding hbinding' hetag
    · exact (Succeeds.refl current).extentPublication (h.bound current hcurrent) (fun _ h => h)
        (fun _ h => h) hbinding' hbinding' rfl

/-- However the flights, their origin publications and the compactions interleave, a commit from
an origin bound in its snapshot passes the rebase test unless the validator of that origin was
published anew; and the commits and compactions of others since the snapshot change nothing. -/
theorem extent_publication_not_refused {files now : ResourceFiles} {loaded : LoadedRangeManifest}
    {verdicts : List Verdict}
    {history : List (StoreOperation × Outcome RangeExtentCommitFailure Unit)}
    {state : RangeState} {nextChannel : ChannelId} {labels : List FlightAction}
    (habsent : files.rangeManifest = none)
    (hcreated : (ensureRangeManifest resource files verdicts).1 = .returned loaded)
    (hstore : Run (StoreStep resource) (ensureRangeManifest resource files verdicts).2.1 history now)
    (hrun : Run (FlightStep resource key) (FlightSystem.start state nextChannel now) labels s) :
    (∀ task flight snapshot, s.tasks task = .flying flight (some snapshot) →
      ∀ origin binding, snapshot.manifest.bindingOf origin = some binding →
        ∃ current binding', s.files.current = some current ∧
          current.bindingOf origin = some binding' ∧
          (binding'.strongEtag = binding.strongEtag → CommitsAsFresh resource
            (activeFlightCount s.state key) flight.key.range s.files snapshot.manifest origin)) ∧
      ∀ later t, Run (FlightStep resource key) s later t →
        (∀ action ∈ later, ¬ action.PublishesOrigin) →
        ∀ task flight snapshot, s.files.loaded = some snapshot →
          t.tasks task = .flying flight (some snapshot) →
          ∀ origin, (snapshot.manifest.bindingOf origin).isSome → CommitsAsFresh resource
            (activeFlightCount t.state key) flight.key.range t.files snapshot.manifest origin := by
  obtain ⟨hstored, hbound⟩ := bound_of_run habsent hcreated hstore
  have hinvariant : FlightInvariant resource key s :=
    (FlightInvariant.start hstored hbound state nextChannel).run hrun
  constructor
  · intro task flight snapshot hflying origin binding hbinding
    exact hinvariant.commits hflying hbinding
  · intro later t hlater hothers task flight snapshot hsnapshot hflying origin horigin
    obtain ⟨binding, hbinding⟩ := isSome_iff_exists.mp horigin
    have hstart : BindingsKept snapshot.manifest s.files := by
      intro current hcurrent
      obtain ⟨object, hobject, rfl⟩ := map_eq_some_iff.mp hsnapshot
      rw [ResourceFiles.current, hobject] at hcurrent
      obtain rfl := some.inj hcurrent
      exact fun _ _ h => h
    have hend : FlightInvariant resource key t ∧ BindingsKept snapshot.manifest t.files := by
      apply hlater.invariant_until _ _ hothers
      · intro a b label hstep hother h
        exact ⟨h.1.step hstep, hstep.keeps_bindings h.1 hother h.2⟩
      · exact ⟨hinvariant, hstart⟩
    obtain ⟨current, binding', hcurrent, hbinding', hcommits⟩ := hend.1.commits hflying hbinding
    apply hcommits
    have hsame := hend.2 current hcurrent origin binding hbinding
    rw [hsame] at hbinding'
    exact congrArg PersistedRangeOrigin.strongEtag (some.inj hbinding').symm

end

def sampleChunk : RangeChunkKey where
  resource := ⟨"session", "video", sampleVideo.representation⟩
  totalLength := 6
  range := ⟨3, 6⟩

def sampleFlight : RangeFlight := ⟨sampleChunk, 0, true, false⟩

def claimedState : RangeState :=
  { RangeState.default with flights := Finmap.insert sampleChunk ⟨0, 1⟩ RangeState.default.flights }

/-- A call that is admitted, has claimed the rest of the sample, and has its snapshot. -/
def admittedSystem : FlightSystem :=
  (FlightSystem.start RangeState.default 0 committedFiles).move 0 .admitted

def claimedSystem : FlightSystem :=
  { admittedSystem.move 0 (.flying sampleFlight none) with state := claimedState, nextChannel := 1 }

def flyingSystem : FlightSystem :=
  claimedSystem.move 0 (.flying sampleFlight (some committedManifest))

theorem loadExisting_completes [UrlParser] {resource : HlsMediaResource} {files : ResourceFiles}
    {loaded : LoadedRangeManifest}
    (h : Completes (loadRangeManifest resource) files (some loaded) files) :
    Completes (loadExisting resource) files loaded files :=
  h.bind (completes_pure loaded files)

theorem committedManifest_completes :
    Completes (@loadRangeManifest sampleUrls sampleVideo) committedFiles (some committedManifest)
      committedFiles := by
  unfold Completes
  decide +kernel

theorem flyingSystem_run :
    Run (@FlightStep sampleUrls sampleVideo sampleChunk.resource)
      (FlightSystem.start RangeState.default 0 committedFiles)
      [.enter 0, .claim 0 sampleChunk, .snapshot 0] flyingSystem := by
  have hl : @loadRangeManifest sampleUrls sampleVideo committedFiles [] =
      (.returned (some committedManifest), committedFiles, []) := committedManifest_completes
  have hexisting : @loadExisting sampleUrls sampleVideo committedFiles [] =
      (.returned committedManifest, committedFiles, []) :=
    @loadExisting_completes sampleUrls _ _ _ committedManifest_completes
  have hclaim : claimChunk RangeState.default sampleChunk .foreground 0 =
      .ok (claimedState, sampleFlight) := by
    simp [claimChunk, RangeState.closed, RangeState.default, claimedState, sampleFlight]
  have hadmits : @FlightStep sampleUrls sampleVideo sampleChunk.resource
      (FlightSystem.start RangeState.default 0 committedFiles) (.enter 0) admittedSystem :=
    @FlightStep.enter sampleUrls _ _ _ 0 rfl (by simp [FlightSystem.start])
  have hcl : @FlightStep sampleUrls sampleVideo sampleChunk.resource admittedSystem
      (.claim 0 sampleChunk) claimedSystem :=
    @FlightStep.claim sampleUrls _ _ admittedSystem 0 ⟨3, 6⟩ 6 committedManifest .foreground
      claimedState sampleFlight [] rfl (congrArg Prod.fst hexisting) rfl (by decide) (by decide)
      hclaim
  have hsnapshot : @FlightStep sampleUrls sampleVideo sampleChunk.resource claimedSystem
      (.snapshot 0) flyingSystem :=
    @FlightStep.snapshot sampleUrls _ _ claimedSystem 0 sampleFlight none committedManifest []
      rfl rfl (congrArg Prod.fst hl)
  exact Run.cons hadmits (Run.cons hcl (Run.single hsnapshot))

theorem extent_publication_not_refused_startup :
    @CommitsAsFresh sampleUrls sampleVideo (activeFlightCount flyingSystem.state sampleChunk.resource)
      ⟨3, 6⟩ committedFiles committedManifest.manifest "https://cdn.test:443" := by
  have hcreated : @ensureRangeManifest sampleUrls sampleVideo noFiles [] =
      (.returned createdManifest, createdFiles, []) := createdManifest_completes
  have hloaded : committedFiles.loaded = some committedManifest := by
    decide +kernel
  have hcommits := (@extent_publication_not_refused sampleUrls sampleVideo sampleChunk.resource
    flyingSystem noFiles committedFiles createdManifest [] [(startupOperation, .returned ())]
    RangeState.default 0 [.enter 0, .claim 0 sampleChunk, .snapshot 0] rfl (by rw [hcreated])
    (by rw [hcreated]; exact Run.single startup_step) flyingSystem_run).2 [] flyingSystem
    (Run.nil _)
  exact hcommits (by simp) 0 sampleFlight committedManifest hloaded rfl _ rfl

/-- However the calls interleave, a chunk in flight has one owner, maintenance has the resource to
itself, and the manifest still holds what the snapshot of a call says. -/
theorem single_flight [UrlParser] {resource : HlsMediaResource} {key : RangeResourceKey}
    {s : FlightSystem} {files now : ResourceFiles} {loaded : LoadedRangeManifest}
    {verdicts : List Verdict}
    {history : List (StoreOperation × Outcome RangeExtentCommitFailure Unit)}
    {state : RangeState} {nextChannel : ChannelId} {labels : List FlightAction}
    (habsent : files.rangeManifest = none)
    (hcreated : (ensureRangeManifest resource files verdicts).1 = .returned loaded)
    (hstore : Run (StoreStep resource) (ensureRangeManifest resource files verdicts).2.1 history now)
    (hrun : Run (FlightStep resource key) (FlightSystem.start state nextChannel now) labels s) :
    (∀ a b chunk, s.owners a = some chunk → s.owners b = some chunk → a = b) ∧
    (∀ task chunk, s.owners task = some chunk → (s.state.flights.lookup chunk).isSome) ∧
    (∀ a b, s.tasks a = .maintaining → b ≠ a → s.tasks b = .idle) ∧
    ∀ task snapshot, s.snapshots task = some snapshot → ∀ current, s.files.current = some current →
      Follows snapshot.manifest current := by
  obtain ⟨hstored, hbound⟩ := bound_of_run habsent hcreated hstore
  have h : FlightInvariant resource key s :=
    (FlightInvariant.start hstored hbound state nextChannel).run hrun
  exact ⟨h.registered.distinct, fun task chunk howned => (h.registered.registered task chunk howned).2,
    h.exclusive, h.follows⟩

theorem single_flight_startup : flyingSystem.owners 0 = some sampleChunk ∧
    (flyingSystem.state.flights.lookup sampleChunk).isSome := by
  have hcreated : @ensureRangeManifest sampleUrls sampleVideo noFiles [] =
      (.returned createdManifest, createdFiles, []) := createdManifest_completes
  exact ⟨rfl, (@single_flight sampleUrls sampleVideo sampleChunk.resource flyingSystem noFiles
    committedFiles createdManifest [] [(startupOperation, .returned ())] RangeState.default 0
    [.enter 0, .claim 0 sampleChunk, .snapshot 0] rfl (by rw [hcreated])
    (by rw [hcreated]; exact Run.single startup_step) flyingSystem_run).2.1 0 sampleChunk rfl⟩

end NetPlayer.RangeCache
