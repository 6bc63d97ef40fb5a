import NetPlayer.Cdn.Quarantine
import NetPlayer.Library.Transition

/-!
# The writer of the history

One task writes the history while it changes. A recorder changes the state and then
makes sure a writer runs; the writer stops when the state has not moved since its
snapshot; a shutdown closes admission, waits for the writer and writes once more. The
steps are the critical sections, in any order.
-/

namespace NetPlayer.Cdn

open List

open Hls (BilibiliMediaRequest)

structure HistorySnapshot where
  state : HistoryState
  log : List TimedStep

/-- Where `run_writer` is. -/
inductive WriterPhase
  | starting
  | sleeping
  | persisting (snapshot : HistorySnapshot)
  | deciding (snapshotSequence : Nat)
  | stopping

/-- Where a call of `shutdown_and_wait` is. -/
inductive ShutdownPhase
  | queued
  | locked
  | waiting
  | idle
  | persisting (snapshot : HistorySnapshot)

structure ShutdownCall where
  called : List TimedStep
  phase : ShutdownPhase

/-- `Shared`, its file and the tasks on it. `log` and `lastFailed` are kept for the
statements only. -/
structure WriterSystem where
  history : HistoryState
  log : List TimedStep
  file : Option HistorySnapshot
  lastFailed : Bool
  persistedSequence : Nat
  admissionClosed : Bool
  running : Bool
  writerIdle : Bool
  shutdownLocked : Bool
  /-- Recorders between the state and `schedule_write`. -/
  recording : Nat
  writers : List WriterPhase
  shutdowns : List ShutdownCall
  /-- Writes whose caller was dropped. -/
  detached : List HistorySnapshot

namespace WriterSystem

/-- The sequence of the file's contents, 0 where there is none. -/
def fileSequence (s : WriterSystem) : Nat :=
  match s.file with
  | some snapshot => snapshot.state.sequence
  | none => 0

def snapshot (s : WriterSystem) : HistorySnapshot := ⟨s.history, s.log⟩

def loaded (start : HistoryState) (file : Option HistorySnapshot) : WriterSystem where
  history := start
  log := []
  file := file
  lastFailed := false
  persistedSequence := 0
  admissionClosed := false
  running := false
  writerIdle := true
  shutdownLocked := false
  recording := 0
  writers := []
  shutdowns := []
  detached := []

/-- `persist_snapshot`, with the verdict on `persist_state`, and whether it returned `Ok`. -/
def persistSnapshot (snapshot : HistorySnapshot) (written : Bool) (s : WriterSystem) :
    WriterSystem × Bool :=
  if snapshot.state.sequence < s.persistedSequence then (s, true)
  else if written then
    ({ s with
        file := some snapshot
        persistedSequence := snapshot.state.sequence
        lastFailed := false }, true)
  else ({ s with lastFailed := true }, false)

def scheduleWrite (s : WriterSystem) : WriterSystem :=
  if s.admissionClosed || s.running then s
  else { s with running := true, writerIdle := false, writers := .starting :: s.writers }

end WriterSystem

/-- The step records an outcome, and `record_at` gets as far as `schedule_write`. -/
def HistoryStep.records [OriginParser] : HistoryStep → Prop
  | .record _ url _ => (canonicalOrigin url).isSome
  | .recordOrigin url _ => (canonicalOrigin url).isSome
  | .rank _ => False

inductive WriterLabel
  | record (timed : TimedStep)
  | rank (request : BilibiliMediaRequest) (now : Nat)
  | schedule
  | writer
  | call
  | shutdown
  | drop
  | detached
  | completed (called : List TimedStep) (succeeded : Bool)

open WriterSystem in
inductive WriterStep [OriginParser] : WriterSystem → WriterLabel → WriterSystem → Prop
  | record (s : WriterSystem) (timed : TimedStep) (h : timed.step.records) :
      WriterStep s (.record timed)
        { s with
          history := timed.step.apply timed.now s.history
          log := s.log ++ [timed]
          recording := s.recording + 1 }
  | rank (s : WriterSystem) (request : BilibiliMediaRequest) (now : Nat) :
      WriterStep s (.rank request now)
        { s with
          history := (HistoryStep.rank request).apply now s.history
          log := s.log ++ [⟨now, .rank request⟩] }
  | schedule (s : WriterSystem) (h : 0 < s.recording) :
      WriterStep s .schedule (scheduleWrite { s with recording := s.recording - 1 })
  | loopHead (s : WriterSystem) (front back : List WriterPhase)
      (h : s.writers = front ++ .starting :: back) :
      WriterStep s .writer
        { s with
          writers := front ++ (if s.admissionClosed then .stopping else .sleeping) :: back }
  | takeSnapshot (s : WriterSystem) (front back : List WriterPhase)
      (h : s.writers = front ++ .sleeping :: back) :
      WriterStep s .writer { s with writers := front ++ .persisting s.snapshot :: back }
  | persist (s : WriterSystem) (front back : List WriterPhase) (snapshot : HistorySnapshot)
      (written : Bool) (h : s.writers = front ++ .persisting snapshot :: back) :
      WriterStep s .writer
        { (persistSnapshot snapshot written s).1 with
          writers := front ++
            (if (persistSnapshot snapshot written s).2 then .deciding snapshot.state.sequence
              else .stopping) :: back }
  | again (s : WriterSystem) (front back : List WriterPhase) (snapshotSequence : Nat)
      (h : s.writers = front ++ .deciding snapshotSequence :: back)
      (hmoved : snapshotSequence < s.history.sequence) (hopen : s.admissionClosed = false) :
      WriterStep s .writer { s with writers := front ++ .starting :: back }
  | done (s : WriterSystem) (front back : List WriterPhase) (snapshotSequence : Nat)
      (h : s.writers = front ++ .deciding snapshotSequence :: back)
      (hdone : s.history.sequence ≤ snapshotSequence ∨ s.admissionClosed = true) :
      WriterStep s .writer
        { s with writers := front ++ back, running := false, writerIdle := true }
  | stop (s : WriterSystem) (front back : List WriterPhase)
      (h : s.writers = front ++ .stopping :: back) :
      WriterStep s .writer
        { s with writers := front ++ back, running := false, writerIdle := true }
  | call (s : WriterSystem) :
      WriterStep s .call { s with shutdowns := ⟨s.log, .queued⟩ :: s.shutdowns }
  | lock (s : WriterSystem) (front back : List ShutdownCall) (called : List TimedStep)
      (h : s.shutdowns = front ++ ⟨called, .queued⟩ :: back) (hfree : s.shutdownLocked = false) :
      WriterStep s .shutdown
        { s with shutdowns := front ++ ⟨called, .locked⟩ :: back, shutdownLocked := true }
  | close (s : WriterSystem) (front back : List ShutdownCall) (called : List TimedStep)
      (h : s.shutdowns = front ++ ⟨called, .locked⟩ :: back) :
      WriterStep s .shutdown
        { s with
          shutdowns := front ++ ⟨called, .waiting⟩ :: back
          admissionClosed := true
          writerIdle := if s.running then s.writerIdle else true }
  | seeIdle (s : WriterSystem) (front back : List ShutdownCall) (called : List TimedStep)
      (h : s.shutdowns = front ++ ⟨called, .waiting⟩ :: back) (hidle : s.writerIdle = true) :
      WriterStep s .shutdown { s with shutdowns := front ++ ⟨called, .idle⟩ :: back }
  | lastSnapshot (s : WriterSystem) (front back : List ShutdownCall) (called : List TimedStep)
      (h : s.shutdowns = front ++ ⟨called, .idle⟩ :: back) :
      WriterStep s .shutdown
        { s with shutdowns := front ++ ⟨called, .persisting s.snapshot⟩ :: back }
  | complete (s : WriterSystem) (front back : List ShutdownCall) (called : List TimedStep)
      (snapshot : HistorySnapshot) (written : Bool)
      (h : s.shutdowns = front ++ ⟨called, .persisting snapshot⟩ :: back) :
      WriterStep s (.completed called (persistSnapshot snapshot written s).2)
        { (persistSnapshot snapshot written s).1 with
          shutdowns := front ++ back, shutdownLocked := false }
  | drop (s : WriterSystem) (front back : List ShutdownCall) (call : ShutdownCall)
      (h : s.shutdowns = front ++ call :: back) :
      WriterStep s .drop
        { s with
          shutdowns := front ++ back
          shutdownLocked :=
            match call.phase with
            | .queued => s.shutdownLocked
            | _ => false
          detached :=
            match call.phase with
            | .persisting snapshot => snapshot :: s.detached
            | _ => s.detached }
  | detached (s : WriterSystem) (front back : List HistorySnapshot) (snapshot : HistorySnapshot)
      (written : Bool) (h : s.detached = front ++ snapshot :: back) :
      WriterStep s .detached
        { (persistSnapshot snapshot written s).1 with detached := front ++ back }

section Protocol

variable [OriginParser]

variable {now : Nat} {state : HistoryState} {observation : CdnObservation}

omit [OriginParser] in
theorem recordOrigin_sequence {origin : String} {digest : Option String} :
    (recordOrigin origin observation digest now state).sequence =
      saturatingAdd state.sequence 1 := by
  cases digest with
  | none => exact opened_sequence
  | some digest =>
    show (recordRepresentation digest origin observation now
      (opened origin observation now state)).sequence = _
    rw [recordRepresentation_eq, ← opened_sequence]
    split
    · rfl
    · rfl

theorem recordAt_sequence {url : String} {digest : Option String} (h : state.sequence ≤ u64Max) :
    state.sequence ≤ (recordAt url observation digest now state).sequence ∧
      (recordAt url observation digest now state).sequence ≤ u64Max := by
  cases horigin : canonicalOrigin url with
  | none =>
    rw [recordAt_of_none horigin]
    exact ⟨le_rfl, h⟩
  | some origin =>
    rw [recordAt_of_origin horigin, recordOrigin_sequence]
    unfold saturatingAdd
    omega

theorem apply_sequence (step : HistoryStep) (h : state.sequence ≤ u64Max) :
    state.sequence ≤ (step.apply now state).sequence ∧
      (step.apply now state).sequence ≤ u64Max := by
  cases step with
  | record request url observation | recordOrigin url observation => exact recordAt_sequence h
  | rank request => exact ⟨le_rfl, h⟩

theorem runHistory_sequence (h : state.sequence ≤ u64Max) (steps : List TimedStep) :
    state.sequence ≤ (runHistory state steps).sequence ∧
      (runHistory state steps).sequence ≤ u64Max := by
  induction steps generalizing state with
  | nil => exact ⟨le_rfl, h⟩
  | cons timed rest ih =>
    have hst := @apply_sequence _ timed.now _ timed.step h
    have hrest := ih hst.2
    exact ⟨hst.1.trans hrest.1, hrest.2⟩

theorem runHistory_append {front back : List TimedStep} :
    runHistory state (front ++ back) = runHistory (runHistory state front) back :=
  foldl_append

theorem runHistory_sequence_mono (h : state.sequence ≤ u64Max) {log later : List TimedStep}
    (hearlier : log <+: later) :
    (runHistory state log).sequence ≤ (runHistory state later).sequence := by
  obtain ⟨rest, rfl⟩ := hearlier
  rw [runHistory_append]
  exact (runHistory_sequence (runHistory_sequence h log).2 rest).1

def Taken (start : HistoryState) (s : WriterSystem) (snapshot : HistorySnapshot) : Prop :=
  snapshot.state = runHistory start snapshot.log ∧ snapshot.log <+: s.log

/-- The file holds what `persistedSequence` says, or what was loaded. -/
structure FileSound (start : HistoryState) (s : WriterSystem) : Prop where
  persistedLe : s.persistedSequence ≤ s.fileSequence
  leHistory : s.fileSequence ≤ s.history.sequence
  source : s.fileSequence = start.sequence ∨ s.fileSequence = s.persistedSequence
  written : 0 < s.persistedSequence → ∃ snapshot, s.file = some snapshot ∧
    Taken start s snapshot ∧ snapshot.state.sequence = s.persistedSequence

def WriterPhase.Sound (start : HistoryState) (s : WriterSystem) : WriterPhase → Prop
  | .starting => True
  | .sleeping => True
  | .persisting snapshot => Taken start s snapshot
  | .deciding snapshotSequence => snapshotSequence ≤ s.fileSequence
  | .stopping => s.admissionClosed = true ∨ s.lastFailed = true

def ShutdownPhase.Sound (start : HistoryState) (s : WriterSystem) (called : List TimedStep) :
    ShutdownPhase → Prop
  | .queued => True
  | .locked => True
  | .waiting => s.admissionClosed = true
  | .idle => s.admissionClosed = true
  | .persisting snapshot =>
    s.admissionClosed = true ∧ Taken start s snapshot ∧ called <+: snapshot.log

structure WriterSystem.Sound (start : HistoryState) (s : WriterSystem) : Prop where
  replayed : s.history = runHistory start s.log
  file : FileSound start s
  flagged : s.running = false ↔ s.writers = []
  one : s.writers.length ≤ 1
  writers : ∀ phase ∈ s.writers, phase.Sound start s
  shutdowns : ∀ call ∈ s.shutdowns, call.called <+: s.log ∧ call.phase.Sound start s call.called
  detachedClosed : s.detached ≠ [] → s.admissionClosed = true
  detached : ∀ snapshot ∈ s.detached, Taken start s snapshot
  settled : s.writers = [] → s.admissionClosed = false → s.recording = 0 →
    s.fileSequence = s.history.sequence ∨ s.lastFailed = true

/-- What no step takes back. -/
structure Extends (s s' : WriterSystem) : Prop where
  log : s.log <+: s'.log
  file : s.fileSequence ≤ s'.fileSequence
  closed : s.admissionClosed = true → s'.admissionClosed = true

variable {start : HistoryState} {s s' : WriterSystem}

omit [OriginParser] in
theorem Extends.of_same (hlog : s'.log = s.log) (hfile : s'.file = s.file)
    (hclosed : s.admissionClosed = true → s'.admissionClosed = true) : Extends s s' := by
  refine ⟨hlog ▸ prefix_rfl, ?_, hclosed⟩
  unfold WriterSystem.fileSequence
  rw [hfile]

variable {snapshot : HistorySnapshot}

theorem Taken.mono (h : Taken start s snapshot) (hext : Extends s s') : Taken start s' snapshot :=
  ⟨h.1, h.2.trans hext.log⟩

variable {phase old new : WriterPhase}

theorem WriterPhase.Sound.mono (h : phase.Sound start s) (hext : Extends s s')
    (hfailed : s.lastFailed = true → s'.lastFailed = true ∨ s'.admissionClosed = true) :
    phase.Sound start s' := by
  cases phase with
  | starting | sleeping => trivial
  | persisting snapshot => exact Taken.mono h hext
  | deciding snapshotSequence => exact le_trans h hext.file
  | stopping =>
    cases h with
    | inl hclosed => exact .inl (hext.closed hclosed)
    | inr hlast => exact (hfailed hlast).symm

variable {called : List TimedStep}

theorem ShutdownPhase.Sound.mono {phase : ShutdownPhase} (h : phase.Sound start s called)
    (hext : Extends s s') : phase.Sound start s' called := by
  cases phase with
  | queued | locked => trivial
  | waiting | idle => exact hext.closed h
  | persisting snapshot => exact ⟨hext.closed h.1, h.2.1.mono hext, h.2.2⟩

variable (hstart : start.sequence ≤ u64Max)

include hstart in
theorem Taken.sequence_le
    (hreplayed : s.history = runHistory start s.log) (h : Taken start s snapshot) :
    start.sequence ≤ snapshot.state.sequence ∧ snapshot.state.sequence ≤ s.history.sequence := by
  rw [h.1, hreplayed]
  exact ⟨(runHistory_sequence hstart _).1, runHistory_sequence_mono hstart h.2⟩

theorem taken_snapshot (hreplayed : s.history = runHistory start s.log) :
    Taken start s s.snapshot :=
  ⟨hreplayed, prefix_rfl⟩

/-- What a call of `persist_snapshot` does to the file. -/
structure Persisted (start : HistoryState) (s s' : WriterSystem) (snapshot : HistorySnapshot)
    (succeeded : Bool) : Prop where
  file : FileSound start s'
  forward : s.fileSequence ≤ s'.fileSequence
  reached : succeeded = true → snapshot.state.sequence ≤ s'.fileSequence
  held : succeeded = true → ∃ written, s'.file = some written ∧
    written.state = runHistory start written.log ∧ snapshot.log <+: written.log
  failed : succeeded = false → s'.lastFailed = true

include hstart in
theorem persistSnapshot_persisted
    (hreplayed : s.history = runHistory start s.log) (hfile : FileSound start s)
    (htaken : Taken start s snapshot) (written : Bool) :
    Persisted start s (s.persistSnapshot snapshot written).1 snapshot
      (s.persistSnapshot snapshot written).2 := by
  have hseq := htaken.sequence_le hstart hreplayed
  unfold WriterSystem.persistSnapshot
  split
  · next hlower =>
      obtain ⟨newer, hnewer, hholds, hsame⟩ := hfile.written (by omega)
      have hle := hfile.persistedLe
      refine ⟨hfile, le_rfl, fun _ => by dsimp only; omega, fun _ => ?_, nofun⟩
      refine ⟨newer, hnewer, hholds.1, ?_⟩
      -- Of two snapshots of one run, the one of the higher sequence is the later one.
      rcases prefix_or_prefix_of_prefix htaken.2 hholds.2 with hbefore | hafter
      · exact hbefore
      · have hmono := runHistory_sequence_mono hstart hafter
        rw [← hholds.1, ← htaken.1] at hmono
        omega
  · next hnot =>
      cases written with
      | false =>
        exact ⟨{ hfile with },
          le_rfl, nofun, nofun, fun _ => rfl⟩
      | true =>
        have hforward : s.fileSequence ≤ snapshot.state.sequence := by
          rcases hfile.source with hsource | hsource
          · omega
          · omega
        exact ⟨⟨le_rfl, hseq.2, .inr rfl, fun _ => ⟨snapshot, rfl, htaken, rfl⟩⟩,
          hforward, fun _ => le_rfl,
          fun _ => ⟨snapshot, rfl, htaken.1, prefix_rfl⟩, nofun⟩

omit [OriginParser] in
/-- `persist_snapshot` touches the file only. -/
theorem persistSnapshot_frame (snapshot : HistorySnapshot) (written : Bool) :
    (s.persistSnapshot snapshot written).1.history = s.history ∧
    (s.persistSnapshot snapshot written).1.log = s.log ∧
    (s.persistSnapshot snapshot written).1.admissionClosed = s.admissionClosed ∧
    (s.persistSnapshot snapshot written).1.running = s.running ∧
    (s.persistSnapshot snapshot written).1.recording = s.recording ∧
    (s.persistSnapshot snapshot written).1.writers = s.writers ∧
    (s.persistSnapshot snapshot written).1.shutdowns = s.shutdowns ∧
    (s.persistSnapshot snapshot written).1.detached = s.detached := by
  unfold WriterSystem.persistSnapshot
  split
  · exact ⟨rfl, rfl, rfl, rfl, rfl, rfl, rfl, rfl⟩
  · cases written
    · exact ⟨rfl, rfl, rfl, rfl, rfl, rfl, rfl, rfl⟩
    · exact ⟨rfl, rfl, rfl, rfl, rfl, rfl, rfl, rfl⟩

theorem persistSnapshot_extends {written : Bool}
    (h : Persisted start s (s.persistSnapshot snapshot written).1 snapshot
      (s.persistSnapshot snapshot written).2) :
    Extends s (s.persistSnapshot snapshot written).1 := by
  obtain ⟨_, hlog, hclosed, _⟩ := @persistSnapshot_frame s snapshot written
  exact ⟨hlog ▸ prefix_rfl, h.forward, fun hwas => hclosed.trans hwas⟩

include hstart in
theorem WriterStep.extends {label : WriterLabel}
    (h : s.Sound start) (step : WriterStep s label s') : Extends s s' := by
  cases step with
  | record timed hrecords | rank request now => exact ⟨prefix_append _ _, le_rfl, fun hwas => hwas⟩
  | schedule hrecording =>
    unfold WriterSystem.scheduleWrite
    split
    · exact ⟨prefix_rfl, le_rfl, fun hwas => hwas⟩
    · exact ⟨prefix_rfl, le_rfl, fun hwas => hwas⟩
  | persist front back snapshot written hwriters =>
    have htaken : Taken start s snapshot :=
      h.writers (.persisting snapshot) (by rw [hwriters]; simp)
    have hext := persistSnapshot_extends
      (persistSnapshot_persisted hstart h.replayed h.file htaken written)
    exact ⟨hext.log, hext.file, hext.closed⟩
  | complete front back called snapshot written hshut =>
    have hcall := h.shutdowns ⟨called, .persisting snapshot⟩ (by rw [hshut]; simp)
    have hext := persistSnapshot_extends
      (persistSnapshot_persisted hstart h.replayed h.file hcall.2.2.1 written)
    exact ⟨hext.log, hext.file, hext.closed⟩
  | detached front back snapshot written hdetached =>
    have htaken := h.detached snapshot (by rw [hdetached]; simp)
    have hext := persistSnapshot_extends
      (persistSnapshot_persisted hstart h.replayed h.file htaken written)
    exact ⟨hext.log, hext.file, hext.closed⟩
  | close front back called hshut => exact ⟨prefix_rfl, le_rfl, fun _ => rfl⟩
  | loopHead | takeSnapshot | again | done | stop => exact Extends.of_same rfl rfl fun hwas => hwas
  | call | lock | seeIdle | lastSnapshot | drop => exact Extends.of_same rfl rfl fun hwas => hwas

theorem FileSound.of_same (h : FileSound start s) (hhistory : s'.history = s.history)
    (hlog : s'.log = s.log) (hfile : s'.file = s.file)
    (hpers : s'.persistedSequence = s.persistedSequence) : FileSound start s' := by
  have hseq : s'.fileSequence = s.fileSequence := by
    unfold WriterSystem.fileSequence
    rw [hfile]
  constructor
  · rw [hseq, hpers]
    exact h.persistedLe
  · rw [hseq, hhistory]
    exact h.leHistory
  · rw [hseq, hpers]
    exact h.source
  · rw [hpers, hfile]
    intro hpos
    obtain ⟨snapshot, hsome, htaken, hsame⟩ := h.written hpos
    exact ⟨snapshot, hsome, ⟨htaken.1, hlog ▸ htaken.2⟩, hsame⟩

theorem WriterSystem.Sound.with_writers (h : s.Sound start) {writers : List WriterPhase}
    {running idle : Bool} (hflagged : running = false ↔ writers = [])
    (hone : writers.length ≤ 1) (hphases : ∀ phase ∈ writers, phase.Sound start s)
    (hsettled : writers = [] → s.admissionClosed = false → s.recording = 0 →
      s.fileSequence = s.history.sequence ∨ s.lastFailed = true) :
    { s with writers := writers, running := running, writerIdle := idle }.Sound start where
  replayed := h.replayed
  file := h.file.of_same rfl rfl rfl rfl
  flagged := hflagged
  one := hone
  writers := fun phase hphase => (hphases phase hphase).mono
    (Extends.of_same rfl rfl fun hwas => hwas) fun hlast => .inl hlast
  shutdowns := fun call hcall => ⟨(h.shutdowns call hcall).1,
    (h.shutdowns call hcall).2.mono (Extends.of_same rfl rfl fun hwas => hwas)⟩
  detachedClosed := h.detachedClosed
  detached := h.detached
  settled := hsettled

theorem WriterSystem.Sound.with_shutdowns (h : s.Sound start) {shutdowns : List ShutdownCall}
    {closed idle locked : Bool} {detached : List HistorySnapshot}
    (hclosed : s.admissionClosed = true → closed = true)
    (hcalls : ∀ call ∈ shutdowns, call.called <+: s.log ∧
      call.phase.Sound start { s with admissionClosed := closed } call.called)
    (hdetached : detached ≠ [] → closed = true)
    (htaken : ∀ snapshot ∈ detached, Taken start s snapshot) :
    { s with
      shutdowns := shutdowns
      admissionClosed := closed
      writerIdle := idle
      shutdownLocked := locked
      detached := detached }.Sound start where
  replayed := h.replayed
  file := h.file.of_same rfl rfl rfl rfl
  flagged := h.flagged
  one := h.one
  writers := fun phase hphase => (h.writers phase hphase).mono
    (Extends.of_same rfl rfl hclosed) fun hlast => .inl hlast
  shutdowns := fun call hcall => ⟨(hcalls call hcall).1,
    (hcalls call hcall).2.mono (Extends.of_same rfl rfl fun hwas => hwas)⟩
  detachedClosed := hdetached
  detached := htaken
  settled := fun hnone hopen hrecd => by
    cases hwas : s.admissionClosed with
    | true => exact absurd ((hclosed hwas).symm.trans hopen) (by decide)
    | false => exact h.settled hnone hwas hrecd

include hstart in
theorem WriterSystem.Sound.persisted (h : s.Sound start)
    (htaken : Taken start s snapshot) (written : Bool)
    (hby : s.admissionClosed = true ∨ s.writers = [.persisting snapshot]) :
    (s.persistSnapshot snapshot written).1.Sound start := by
  have hpers := persistSnapshot_persisted hstart h.replayed h.file htaken written
  have hext := persistSnapshot_extends hpers
  obtain ⟨hhistory, hlog, hclosed, hrunning, hrecording, hwriters, hshut, hdetached⟩ :=
    @persistSnapshot_frame s snapshot written
  constructor
  · rw [hhistory, hlog]
    exact h.replayed
  · exact hpers.file
  · rw [hrunning, hwriters]
    exact h.flagged
  · rw [hwriters]
    exact h.one
  · rw [hwriters]
    intro phase hphase
    rcases hby with hwas | hwriter
    · exact (h.writers phase hphase).mono hext fun _ => .inr (hext.closed hwas)
    · rw [hwriter, mem_singleton] at hphase
      rw [hphase]
      exact htaken.mono hext
  · rw [hshut]
    intro call hcall
    have hsound := h.shutdowns call hcall
    exact ⟨hsound.1.trans hext.log, hsound.2.mono hext⟩
  · rw [hdetached, hclosed]
    exact h.detachedClosed
  · rw [hdetached]
    intro other hother
    exact (h.detached other hother).mono hext
  · rw [hwriters, hclosed]
    intro hnone hopen hrecd
    rcases hby with hwas | hwriter
    · rw [hwas] at hopen
      cases hopen
    · rw [hwriter] at hnone
      cases hnone

variable {front back : List WriterPhase}

omit [OriginParser] in
theorem only_writer (hone : s.writers.length ≤ 1)
    (h : s.writers = front ++ phase :: back) : front = [] ∧ back = [] := by
  rw [h, length_append, length_cons] at hone
  exact ⟨eq_nil_of_length_eq_zero (by omega), eq_nil_of_length_eq_zero (by omega)⟩

include hstart in
theorem WriterSystem.Sound.with_history (h : s.Sound start)
    (timed : TimedStep) {recording : Nat}
    (hsettled : recording = 0 → s.recording = 0 ∧
      (timed.step.apply timed.now s.history).sequence = s.history.sequence) :
    { s with
      history := timed.step.apply timed.now s.history
      log := s.log ++ [timed]
      recording := recording }.Sound start := by
  have hbdd : s.history.sequence ≤ u64Max := by
    rw [h.replayed]
    exact (runHistory_sequence hstart _).2
  have hmono := (@apply_sequence _ timed.now _ timed.step hbdd).1
  have hext : Extends s
      { s with
        history := timed.step.apply timed.now s.history
        log := s.log ++ [timed]
        recording := recording } :=
    ⟨prefix_append _ _, le_rfl, fun hwas => hwas⟩
  constructor
  · show timed.step.apply timed.now s.history = runHistory start (s.log ++ [timed])
    rw [runHistory_append, ← h.replayed]
    rfl
  · refine ⟨h.file.persistedLe, h.file.leHistory.trans hmono, h.file.source, fun hpos => ?_⟩
    obtain ⟨snapshot, hsome, htaken, hsame⟩ := h.file.written hpos
    exact ⟨snapshot, hsome, htaken.mono hext, hsame⟩
  · exact h.flagged
  · exact h.one
  · intro phase hphase
    exact (h.writers phase hphase).mono hext fun hlast => .inl hlast
  · intro call hcall
    have hsound := h.shutdowns call hcall
    exact ⟨hsound.1.trans hext.log, hsound.2.mono hext⟩
  · exact h.detachedClosed
  · intro snapshot hsnap
    exact (h.detached snapshot hsnap).mono hext
  · intro hnone hopen hrecd
    have hsame := hsettled hrecd
    rw [hsame.2]
    exact h.settled hnone hopen hsame.1

theorem WriterSystem.Sound.scheduled (h : s.Sound start) :
    (WriterSystem.scheduleWrite { s with recording := s.recording - 1 }).Sound start := by
  have hmono : ∀ {recording writers running idle}, Extends s
      { s with
        recording := recording
        writers := writers
        running := running
        writerIdle := idle } := Extends.of_same rfl rfl fun hwas => hwas
  unfold WriterSystem.scheduleWrite
  split
  · next hbusy =>
      exact {
        replayed := h.replayed
        file := h.file.of_same rfl rfl rfl rfl
        flagged := h.flagged
        one := h.one
        writers := fun phase hphase =>
          (h.writers phase hphase).mono hmono fun hlast => .inl hlast
        shutdowns := fun call hcall =>
          ⟨(h.shutdowns call hcall).1, (h.shutdowns call hcall).2.mono hmono⟩
        detachedClosed := h.detachedClosed
        detached := h.detached
        settled := fun hnone hopen _ => by
          have hidle := h.flagged.mpr hnone
          have hopen : s.admissionClosed = false := hopen
          have hfree : (s.admissionClosed || s.running) = false := by rw [hopen, hidle]; rfl
          exact absurd (hbusy.symm.trans hfree) (by decide) }
  · next hfree =>
      have hidle : s.running = false := by
        cases hrunning : s.running with
        | true => exact absurd (by simp [hrunning]) hfree
        | false => rfl
      have hnone := h.flagged.mp hidle
      exact {
        replayed := h.replayed
        file := h.file.of_same rfl rfl rfl rfl
        flagged := ⟨nofun, nofun⟩
        one := by
          rw [hnone]
          exact le_rfl
        writers := fun phase hphase => by
          have hstarting : phase = .starting := by
            have hin : phase ∈ WriterPhase.starting :: s.writers := hphase
            rw [hnone] at hin
            exact mem_singleton.mp hin
          rw [hstarting]
          trivial
        shutdowns := fun call hcall =>
          ⟨(h.shutdowns call hcall).1, (h.shutdowns call hcall).2.mono hmono⟩
        detachedClosed := h.detachedClosed
        detached := h.detached
        settled := nofun }

omit [OriginParser] in
theorem forall_moved {α : Type} {p : α → Prop} {front back : List α} {old new : α}
    (h : ∀ x ∈ front ++ old :: back, p x) (hnew : p new) : ∀ x ∈ front ++ new :: back, p x := by
  intro x hx
  rcases mem_append.mp hx with hfront | hback
  · exact h x (mem_append_left _ hfront)
  · rcases mem_cons.mp hback with rfl | hrest
    · exact hnew
    · exact h x (mem_append_right _ (mem_cons_of_mem _ hrest))

omit [OriginParser] in
theorem forall_left {α : Type} {p : α → Prop} {front back : List α} {old : α}
    (h : ∀ x ∈ front ++ old :: back, p x) : ∀ x ∈ front ++ back, p x := by
  intro x hx
  rcases mem_append.mp hx with hfront | hback
  · exact h x (mem_append_left _ hfront)
  · exact h x (mem_append_right _ (mem_cons_of_mem _ hback))

theorem WriterSystem.Sound.moved (h : s.Sound start)
    (hwriters : s.writers = front ++ old :: back) (hnew : new.Sound start s) :
    { s with writers := front ++ new :: back }.Sound start := by
  have hrunning : s.running = true := by
    cases hidle : s.running with
    | true => rfl
    | false =>
      have hnone := h.flagged.mp hidle
      rw [hwriters] at hnone
      exact absurd hnone (by simp)
  refine @WriterSystem.Sound.with_writers _ start s h _ s.running s.writerIdle ?_ ?_ ?_ ?_
  · rw [hrunning]
    exact ⟨nofun, fun hnone => absurd hnone (by simp)⟩
  · have hone := h.one
    rw [hwriters] at hone
    simpa using hone
  · exact forall_moved (hwriters ▸ h.writers) hnew
  · intro hnone
    exact absurd hnone (by simp)

theorem WriterSystem.Sound.ended (h : s.Sound start)
    (hwriters : s.writers = front ++ old :: back) (hsettled : s.admissionClosed = false →
      s.fileSequence = s.history.sequence ∨ s.lastFailed = true) :
    { s with writers := front ++ back, running := false, writerIdle := true }.Sound start := by
  obtain ⟨rfl, rfl⟩ := only_writer h.one hwriters
  apply h.with_writers
  · exact ⟨fun _ => rfl, fun _ => rfl⟩
  · exact Nat.zero_le 1
  · intro phase hphase
    cases hphase
  · intro _ hopen _
    exact hsettled hopen

include hstart in
theorem WriterSystem.Sound.step {label : WriterLabel}
    (h : s.Sound start) (step : WriterStep s label s') : s'.Sound start := by
  cases step with
  | record timed hrecords =>
    exact h.with_history hstart timed fun hnone => absurd hnone (Nat.succ_ne_zero _)
  | rank request now =>
    exact h.with_history hstart ⟨now, .rank request⟩ fun hnone => ⟨hnone, rfl⟩
  | schedule hrecording => exact h.scheduled
  | loopHead front back hwriters =>
    apply h.moved hwriters
    cases hclosed : s.admissionClosed with
    | true => exact .inl hclosed
    | false => trivial
  | takeSnapshot front back hwriters => exact h.moved hwriters (taken_snapshot h.replayed)
  | persist front back snapshot written hwriters =>
    obtain ⟨rfl, rfl⟩ := only_writer h.one hwriters
    have htaken : Taken start s snapshot :=
      h.writers (.persisting snapshot) (by rw [hwriters]; simp)
    have hpers := persistSnapshot_persisted hstart h.replayed h.file htaken written
    have hsound := h.persisted hstart htaken written (.inr hwriters)
    have hframe := @persistSnapshot_frame s snapshot written
    apply hsound.moved (hframe.2.2.2.2.2.1.trans hwriters)
    cases hsucceeded : (s.persistSnapshot snapshot written).2 with
    | true => exact hpers.reached hsucceeded
    | false => exact .inr (hpers.failed hsucceeded)
  | again front back snapshotSequence hwriters hmoved hopen => exact h.moved hwriters trivial
  | done front back snapshotSequence hwriters hdone =>
    apply h.ended hwriters
    intro hopen
    have hreached : snapshotSequence ≤ s.fileSequence :=
      h.writers (.deciding snapshotSequence) (by rw [hwriters]; simp)
    have hle := h.file.leHistory
    rcases hdone with hsame | hclosed
    · exact .inl (by omega)
    · exact absurd (hclosed.symm.trans hopen) (by decide)
  | stop front back hwriters =>
    apply h.ended hwriters
    intro hopen
    have hwhy : s.admissionClosed = true ∨ s.lastFailed = true :=
      h.writers .stopping (by rw [hwriters]; simp)
    rcases hwhy with hclosed | hlast
    · exact absurd (hclosed.symm.trans hopen) (by decide)
    · exact .inr hlast
  | call =>
    apply h.with_shutdowns (fun hwas => hwas) _ h.detachedClosed h.detached
    intro call hcall
    rcases mem_cons.mp hcall with rfl | hold
    · exact ⟨prefix_rfl, trivial⟩
    · exact h.shutdowns call hold
  | lock front back called hshut hfree =>
    have hcalls := hshut ▸ h.shutdowns
    have hcall := hcalls ⟨called, .queued⟩ (by simp)
    exact h.with_shutdowns (fun hwas => hwas) (forall_moved hcalls ⟨hcall.1, trivial⟩)
      h.detachedClosed h.detached
  | close front back called hshut =>
    have hcalls := hshut ▸ h.shutdowns
    have hcall := hcalls ⟨called, .locked⟩ (by simp)
    refine h.with_shutdowns (fun _ => rfl) (@forall_moved _ _ _ _ ⟨called, .locked⟩ _ ?_
      ⟨hcall.1, rfl⟩) (fun _ => rfl) h.detached
    intro call hin
    exact ⟨(hcalls call hin).1, (hcalls call hin).2.mono (Extends.of_same rfl rfl fun _ => rfl)⟩
  | seeIdle front back called hshut hidle =>
    have hcalls := hshut ▸ h.shutdowns
    have hcall := hcalls ⟨called, .waiting⟩ (by simp)
    exact h.with_shutdowns (fun hwas => hwas) (forall_moved hcalls ⟨hcall.1, hcall.2⟩)
      h.detachedClosed h.detached
  | lastSnapshot front back called hshut =>
    have hcalls := hshut ▸ h.shutdowns
    have hcall := hcalls ⟨called, .idle⟩ (by simp)
    exact h.with_shutdowns (fun hwas => hwas)
      (forall_moved hcalls ⟨hcall.1, hcall.2, taken_snapshot h.replayed, hcall.1⟩)
      h.detachedClosed h.detached
  | complete front back called snapshot written hshut =>
    have hcall := h.shutdowns ⟨called, .persisting snapshot⟩ (by rw [hshut]; simp)
    have hsound := h.persisted hstart hcall.2.2.1 written (.inl hcall.2.1)
    have hframe := @persistSnapshot_frame s snapshot written
    apply hsound.with_shutdowns (fun hwas => hwas) _ hsound.detachedClosed hsound.detached
    exact forall_left ((hframe.2.2.2.2.2.2.1.trans hshut) ▸ hsound.shutdowns)
  | drop front back call hshut =>
    have hcalls := hshut ▸ h.shutdowns
    have hcall := (hcalls call (by simp)).2
    refine h.with_shutdowns (fun hwas => hwas) (forall_left hcalls) ?_ ?_
    · cases hphase : call.phase with
      | persisting snapshot =>
        rw [hphase] at hcall
        exact fun _ => hcall.1
      | queued | locked | waiting | idle => exact h.detachedClosed
    · cases hphase : call.phase with
      | persisting snapshot =>
        rw [hphase] at hcall
        intro other hother
        rcases mem_cons.mp hother with rfl | hold
        · exact hcall.2.1
        · exact h.detached other hold
      | queued | locked | waiting | idle => exact h.detached
  | detached front back snapshot written hdetached =>
    have htaken := h.detached snapshot (by rw [hdetached]; simp)
    have hclosed := h.detachedClosed (by rw [hdetached]; simp)
    have hsound := h.persisted hstart htaken written (.inl hclosed)
    have hframe := @persistSnapshot_frame s snapshot written
    apply hsound.with_shutdowns (fun hwas => hwas) hsound.shutdowns
    · exact fun _ => hframe.2.2.1.trans hclosed
    · exact forall_left ((hframe.2.2.2.2.2.2.2.trans hdetached) ▸ hsound.detached)

theorem WriterSystem.Sound.loaded {file : Option HistorySnapshot}
    (hfile : (WriterSystem.loaded start file).fileSequence = start.sequence) :
    (WriterSystem.loaded start file).Sound start where
  replayed := rfl
  file := ⟨Nat.zero_le _, le_of_eq hfile, .inl hfile, nofun⟩
  flagged := ⟨fun _ => rfl, fun _ => rfl⟩
  one := Nat.zero_le 1
  writers := forall_mem_nil _
  shutdowns := forall_mem_nil _
  detachedClosed := fun hsome => absurd rfl hsome
  detached := forall_mem_nil _
  settled := fun _ _ _ => .inl hfile

include hstart in
theorem completed_persists (h : s.Sound start)
    (step : WriterStep s (.completed called true) s') :
    ∃ written, s'.file = some written ∧ written.state = runHistory start written.log ∧
      called <+: written.log := by
  generalize hlabel : WriterLabel.completed called true = label at step
  cases step with
  | complete front back own snapshot written hshut =>
    injection hlabel with hcalled hsucceeded
    subst hcalled
    have hcall := h.shutdowns ⟨called, .persisting snapshot⟩ (by rw [hshut]; simp)
    have hpers := persistSnapshot_persisted hstart h.replayed h.file hcall.2.2.1 written
    obtain ⟨held, hfile, hreplayed, hearlier⟩ := hpers.held hsucceeded.symm
    exact ⟨held, hfile, hreplayed, hcall.2.2.2.trans hearlier⟩
  | _ => cases hlabel

/-- In every run from a loaded history: at most one writer runs, the sequence of the file
never goes back, no outcome waits without a reason, and a completed shutdown has persisted what
was recorded before it. -/
theorem history_writer_protocol {start : HistoryState} {file : Option HistorySnapshot}
    (hstart : start.sequence ≤ u64Max)
    (hfile : (WriterSystem.loaded start file).fileSequence = start.sequence)
    {labels : List WriterLabel} {s : WriterSystem}
    (run : Transition.Run WriterStep (WriterSystem.loaded start file) labels s) :
    s.writers.length ≤ 1 ∧
      (s.writers = [] → s.fileSequence = s.history.sequence ∨ s.lastFailed = true ∨
        s.admissionClosed = true ∨ 0 < s.recording) ∧
      ∀ label s', WriterStep s label s' →
        s.fileSequence ≤ s'.fileSequence ∧
        (label = .schedule → s.writers = [] → s.admissionClosed = false →
          s'.writers = [.starting]) ∧
        ∀ called, label = .completed called true →
          ∃ written, s'.file = some written ∧ written.state = runHistory start written.log ∧
            called <+: written.log := by
  have hsound : s.Sound start := run.invariant (WriterSystem.Sound start)
    (fun step h => h.step hstart step) (WriterSystem.Sound.loaded hfile)
  refine ⟨hsound.one, fun hnone => ?_, fun label s' step => ⟨?_, ?_, ?_⟩⟩
  · cases hclosed : s.admissionClosed with
    | true => exact .inr (.inr (.inl rfl))
    | false =>
      by_cases hrecording : s.recording = 0
      · rcases hsound.settled hnone hclosed hrecording with hsame | hlast
        · exact .inl hsame
        · exact .inr (.inl hlast)
      · exact .inr (.inr (.inr (Nat.pos_of_ne_zero hrecording)))
  · exact (step.extends hstart hsound).file
  · rintro rfl hnone hopen
    cases step with
    | schedule hrecording =>
      have hidle := hsound.flagged.mpr hnone
      unfold WriterSystem.scheduleWrite
      rw [if_neg (by simp [hopen, hidle])]
      exact congrArg _ hnone
  · rintro called rfl
    exact completed_persists hstart hsound step

end Protocol

section Literal

local instance writerOrigins : OriginParser := literalOrigins

def firstOutcome : TimedStep := ⟨1000, .recordOrigin "https://a" (outcomeOnly .complete)⟩

def recordedFirst : WriterSystem :=
  { WriterSystem.loaded .default none with
    history := firstOutcome.step.apply 1000 .default
    log := [firstOutcome]
    recording := 1 }

theorem run_recordedFirst :
    Transition.Run WriterStep (WriterSystem.loaded .default none) [.record firstOutcome]
      recordedFirst :=
  Transition.Run.single (.record (WriterSystem.loaded .default none) firstOutcome rfl)

theorem history_writer_protocol_first :
    recordedFirst.writers.length ≤ 1 ∧
      (recordedFirst.fileSequence = recordedFirst.history.sequence ∨
        recordedFirst.lastFailed = true ∨ recordedFirst.admissionClosed = true ∨
        0 < recordedFirst.recording) := by
  have hprotocol := history_writer_protocol (by decide) rfl run_recordedFirst
  exact ⟨hprotocol.1, hprotocol.2.1 rfl⟩

/-- Between the record and `schedule_write` nothing writes the outcome. -/
theorem recorded_not_scheduled :
    ∃ labels s, Transition.Run WriterStep (WriterSystem.loaded .default none) labels s ∧
      s.writers = [] ∧ s.fileSequence ≠ s.history.sequence ∧ s.lastFailed = false ∧
      s.admissionClosed = false := by
  refine ⟨_, recordedFirst, run_recordedFirst, rfl, ?_, rfl, rfl⟩
  decide +kernel

end Literal

end NetPlayer.Cdn
