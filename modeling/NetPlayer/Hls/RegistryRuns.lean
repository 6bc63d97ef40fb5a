import NetPlayer.Hls.Registry

/-!
# Runs of the playback registry

The three maps of the registry over any interleaving of registrations, removals,
scrubs and media refreshes: one key set, generations that only grow, scrubs that
belong to the current registration, and replacements based on it.
-/

namespace NetPlayer.Hls

open Transition HlsPlaybackRegistryInner List Finmap Option

def registered (inner : HlsPlaybackRegistryInner) (session : HlsPlaybackSession)
    (scrub : Option (HlsPlaybackSession × Instant)) (generation : Nat) :
    HlsPlaybackRegistryInner where
  sessions := inner.sessions.insert session.id session
  generations := inner.generations.insert session.id generation
  pendingScrubs :=
    match scrub with
    | none => inner.pendingScrubs.erase session.id
    | some (replacement, deadline) =>
      inner.pendingScrubs.insert session.id ⟨generation, deadline, replacement⟩
  nextGeneration := generation

def scrubbed (inner : HlsPlaybackRegistryInner) (sessionId : String)
    (replacement : HlsPlaybackSession) : HlsPlaybackRegistryInner :=
  { inner with
    sessions := inner.sessions.insert sessionId replacement
    pendingScrubs := inner.pendingScrubs.erase sessionId }

variable {ε : Type}

/-- The calls that can put a pending scrub into effect. -/
def RegistryEvent.Scrubs (sessionId : String) : RegistryEvent ε → Prop
  | .scrubAndRead scrubbedId _ _ => scrubbedId = sessionId
  | .scrubGeneration scrubbedId _ => scrubbedId = sessionId
  | _ => False

/-- What a critical section can have done. -/
inductive RegistryEffect (inner : HlsPlaybackRegistryInner) :
    RegistryEvent ε → HlsPlaybackRegistryInner → Prop
  | registered {session scrub generation} (fresh : generation = inner.nextGeneration + 1)
      (bounded : generation ≤ u64Max) :
      RegistryEffect inner (.register session scrub generation)
        (registered inner session scrub generation)
  | removed {sessionId} :
      RegistryEffect inner (.remove sessionId) (removeWithGenerationUpdate inner sessionId).1
  | scrubbed {event sessionId scrub} (named : event.Scrubs sessionId)
      (pending : inner.pendingScrubs.lookup sessionId = some scrub)
      (current : inner.generations.lookup sessionId = some scrub.generation) :
      RegistryEffect inner event (scrubbed inner sessionId scrub.replacement)
  | replaced {expected replacement} (sameId : replacement.id = expected.session.id)
      (current : IsCurrent inner expected) :
      RegistryEffect inner (.replace expected replacement (.ok ()))
        { inner with sessions := inner.sessions.insert expected.session.id replacement }
  | unchanged {event} (issues : ∀ session scrub generation,
      event ≠ RegistryEvent.register session scrub generation)
      (removes : ∀ sessionId, event ≠ RegistryEvent.remove sessionId) :
      RegistryEffect inner event inner

variable {inner after : HlsPlaybackRegistryInner} {event : RegistryEvent ε}
  {events : List (RegistryEvent ε)} {sessionId : String}

theorem scrub_effect (hnamed : event.Scrubs sessionId) {expectedGeneration : Option Nat} :
    RegistryEffect inner event (applyPendingScrub inner sessionId expectedGeneration).1 := by
  rcases applyPendingScrub_cases inner sessionId expectedGeneration with
    hs | ⟨scrub, hp, hcurr, hres⟩
  · rw [hs]
    refine .unchanged ?_ ?_
    · rintro session scrub generation rfl
      exact hnamed
    · rintro removedId rfl
      exact hnamed
  · rw [hres]
    exact .scrubbed hnamed hp hcurr

theorem registry_step_effect (hst : RegistryStep inner event after) :
    RegistryEffect inner event after := by
  cases hst with
  | register issued =>
    simp only [insertWithGenerationUpdate, map_eq_some_iff, Prod.mk.injEq] at issued
    obtain ⟨generation, hissue, rfl, rfl⟩ := issued
    obtain ⟨hfr, hbdd⟩ := issueGeneration_spec hissue
    exact .registered hfr hbdd
  | registerWithScrub issued =>
    simp only [insertWithScrubDeadlineAndGenerationUpdate, map_eq_some_iff,
      Prod.mk.injEq] at issued
    obtain ⟨generation, hissue, rfl, rfl⟩ := issued
    obtain ⟨hfr, hbdd⟩ := issueGeneration_spec hissue
    exact .registered hfr hbdd
  | remove => exact .removed
  | read => exact .unchanged (by simp) (by simp)
  | @scrubAndRead sessionId now =>
    have hnamed : (RegistryEvent.scrubAndRead sessionId now
        (scrubAndRead inner sessionId now).2 : RegistryEvent ε).Scrubs sessionId := rfl
    rcases scrubExpiredSession_cases inner sessionId now with hs | hscrub
    · simp only [scrubAndRead, hs]
      exact .unchanged (by simp) (by simp)
    · simp only [scrubAndRead, hscrub] at hnamed ⊢
      exact scrub_effect hnamed
  | @scrubGeneration sessionId generation =>
    have hnamed : (RegistryEvent.scrubGeneration sessionId generation :
        RegistryEvent ε).Scrubs sessionId := rfl
    exact scrub_effect hnamed
  | @replace expected replacement persist =>
    rcases replaceMediaRequestsIfCurrent_cases inner expected replacement persist with
      ⟨hs, -⟩ | ⟨hid, hcurr, rfl, hres⟩
    · rw [hs]
      exact .unchanged (by simp) (by simp)
    · rw [hres]
      exact .replaced hid hcurr

structure RegistryValid (inner : HlsPlaybackRegistryInner) : Prop where
  sameKeys : ∀ sessionId, sessionId ∈ inner.sessions ↔ sessionId ∈ inner.generations
  issued : ∀ sessionId generation, inner.generations.lookup sessionId = some generation →
    generation ≤ inner.nextGeneration
  scrubs : ∀ sessionId scrub, inner.pendingScrubs.lookup sessionId = some scrub →
    inner.generations.lookup sessionId = some scrub.generation

theorem registryValid_default : RegistryValid .default := by
  constructor <;> simp [HlsPlaybackRegistryInner.default, notMem_empty]

theorem registryValid_step (hst : RegistryStep inner event after) (h : RegistryValid inner) :
    RegistryValid after := by
  cases registry_step_effect hst with
  | @registered session scrub generation hfr _ =>
    constructor
    · intro other
      simp only [Hls.registered, mem_insert, h.sameKeys other]
    · intro other issued hl
      simp only [Hls.registered, lookup_insert_ite] at hl ⊢
      split at hl
      · cases hl
        exact Nat.le_refl _
      · have hle := h.issued other issued hl
        omega
    · intro other pending hl
      by_cases ho : other = session.id
      · cases scrub with
        | none => simp [Hls.registered, lookup_erase_ite, ho] at hl
        | some pair =>
          simp only [Hls.registered, lookup_insert_ite, if_pos ho,
            Option.some.injEq] at hl ⊢
          rw [← hl]
      · have hold : inner.pendingScrubs.lookup other = some pending := by
          cases scrub with
          | none => simpa [Hls.registered, lookup_erase_ite, ho] using hl
          | some pair => simpa [Hls.registered, lookup_insert_ite, ho] using hl
        simp only [Hls.registered, lookup_insert_ite, if_neg ho]
        exact h.scrubs other pending hold
  | @removed removedId =>
    constructor
    · intro other
      simp only [removeWithGenerationUpdate, mem_erase, h.sameKeys other]
    · intro other generation hl
      simp only [removeWithGenerationUpdate, lookup_erase_ite] at hl ⊢
      split at hl
      · cases hl
      · exact h.issued other generation hl
    · intro other scrub hl
      simp only [removeWithGenerationUpdate, lookup_erase_ite] at hl ⊢
      split at hl
      · cases hl
      · rename_i ho
        rw [if_neg ho]
        exact h.scrubs other scrub hl
  | @scrubbed _ scrubbedId scrub _ hp hcurr =>
    constructor
    · intro other
      have hm : scrubbedId ∈ inner.generations := mem_of_lookup_eq_some hcurr
      simp only [Hls.scrubbed, mem_insert, h.sameKeys other]
      constructor
      · rintro (rfl | ho)
        · exact hm
        · exact ho
      · exact .inr
    · exact h.issued
    · intro other pending hl
      simp only [Hls.scrubbed, lookup_erase_ite] at hl ⊢
      split at hl
      · cases hl
      · exact h.scrubs other pending hl
  | @replaced expected replacement _ hcurr =>
    constructor
    · intro other
      have hm : expected.session.id ∈ inner.generations :=
        mem_of_lookup_eq_some hcurr.2.1
      simp only [mem_insert, h.sameKeys other]
      constructor
      · rintro (rfl | ho)
        · exact hm
        · exact ho
      · exact .inr
    · exact h.issued
    · exact h.scrubs
  | unchanged => exact h

def RegistryEvent.issued : RegistryEvent ε → Option (String × Nat)
  | .register session _ generation => some (session.id, generation)
  | _ => none

def issuedGenerations (events : List (RegistryEvent ε)) : List (String × Nat) :=
  events.filterMap RegistryEvent.issued

theorem issuedGenerations_snoc :
    issuedGenerations (events ++ [event]) = issuedGenerations events ++ event.issued.toList := by
  unfold issuedGenerations
  rw [filterMap_append]
  cases h : event.issued <;> simp [h]

def lastGeneration (sessionId : String) : List (RegistryEvent ε) → Option Nat :=
  List.foldl (fun last event =>
    match event with
    | .register session _ generation => if session.id = sessionId then some generation else last
    | .remove removedId => if removedId = sessionId then none else last
    | _ => last) none

structure GenerationsGrow (events : List (RegistryEvent ε)) (inner : HlsPlaybackRegistryInner) :
    Prop where
  grow : (issuedGenerations events).Pairwise (fun a b => a.2 < b.2)
  bounded : ∀ pair ∈ issuedGenerations events, pair.2 ≤ inner.nextGeneration
  last : ∀ sessionId, inner.generations.lookup sessionId = lastGeneration sessionId events

theorem lastGeneration_snoc :
    lastGeneration sessionId (events ++ [event]) =
      match event with
      | .register session _ generation =>
        if session.id = sessionId then some generation else lastGeneration sessionId events
      | .remove removedId =>
        if removedId = sessionId then none else lastGeneration sessionId events
      | _ => lastGeneration sessionId events := by
  simp only [lastGeneration, foldl_append, foldl_cons, foldl_nil]

theorem GenerationsGrow.keep (h : GenerationsGrow events inner)
    (hissued : event.issued = none) (hgens : after.generations = inner.generations)
    (hn : after.nextGeneration = inner.nextGeneration)
    (hremoves : ∀ removedId, event ≠ .remove removedId) :
    GenerationsGrow (events ++ [event]) after := by
  constructor
  · simpa [issuedGenerations_snoc, hissued] using h.grow
  · simpa [issuedGenerations_snoc, hissued, hn] using h.bounded
  · intro other
    rw [hgens, h.last, lastGeneration_snoc]
    cases event with
    | register => cases hissued
    | remove removedId => exact absurd rfl (hremoves removedId)
    | _ => rfl

theorem generationsGrow_step (hst : RegistryStep inner event after)
    (h : GenerationsGrow events inner) : GenerationsGrow (events ++ [event]) after := by
  cases registry_step_effect hst with
  | @registered session scrub generation hfr _ =>
    have hl : ∀ pair ∈ issuedGenerations events, pair.2 < generation := by
      intro pair hpair
      have hle := h.bounded pair hpair
      omega
    constructor
    · rw [issuedGenerations_snoc, pairwise_append]
      refine ⟨h.grow, pairwise_singleton _ _, ?_⟩
      intro old hold new hn
      rw [List.mem_singleton.mp hn]
      exact hl old hold
    · intro pair hpair
      rw [issuedGenerations_snoc] at hpair
      rcases mem_append.mp hpair with hold | hn
      · exact Nat.le_of_lt (hl pair hold)
      · rw [List.mem_singleton.mp hn]
        exact Nat.le_refl _
    · intro other
      rw [lastGeneration_snoc]
      simp only [Hls.registered, lookup_insert_ite, h.last other, eq_comm]
  | @removed removedId =>
    constructor
    · simpa [issuedGenerations_snoc, RegistryEvent.issued] using h.grow
    · simpa [issuedGenerations_snoc, RegistryEvent.issued, removeWithGenerationUpdate]
        using h.bounded
    · intro other
      rw [lastGeneration_snoc]
      simp only [removeWithGenerationUpdate, lookup_erase_ite, h.last other, eq_comm]
  | scrubbed hnamed =>
    cases event with
    | scrubAndRead | scrubGeneration => exact h.keep rfl rfl rfl (by simp)
    | _ => exact absurd hnamed id
  | replaced => exact h.keep rfl rfl rfl (by simp)
  | unchanged hissues hremoves =>
    refine h.keep ?_ rfl rfl hremoves
    cases event with
    | register session scrub generation => exact absurd rfl (hissues session scrub generation)
    | _ => rfl

inductive HandsIn (session : HlsPlaybackSession) (sessionId : String) : RegistryEvent ε → Prop
  | registered {scrub generation} (id : session.id = sessionId) :
      HandsIn session sessionId (.register session scrub generation)
  | registeredForLater {current deadline generation} (id : current.id = sessionId) :
      HandsIn session sessionId (.register current (some (session, deadline)) generation)
  | refreshed {expected persist} (id : expected.session.id = sessionId)
      (other : expected.session ≠ session) : HandsIn session sessionId (.replace expected session persist)

structure Gone (session : HlsPlaybackSession) (sessionId : String)
    (inner : HlsPlaybackRegistryInner) : Prop where
  registered : inner.sessions.lookup sessionId ≠ some session
  pending : ∀ scrub ∈ inner.pendingScrubs.lookup sessionId, scrub.replacement ≠ session

variable {session : HlsPlaybackSession}

theorem gone_step (hst : RegistryStep inner event after)
    (ho : ¬ HandsIn session sessionId event) (h : Gone session sessionId inner) :
    Gone session sessionId after := by
  cases registry_step_effect hst with
  | @registered current scrub generation _ _ =>
    constructor
    · simp only [Hls.registered, lookup_insert_ite]
      split
      · rename_i hid
        intro hs
        cases hs
        exact ho (.registered hid.symm)
      · exact h.registered
    · intro pending hp
      cases scrub with
      | none =>
        simp only [Hls.registered, lookup_erase_ite] at hp
        split at hp
        · cases hp
        · exact h.pending pending hp
      | some pair =>
        simp only [Hls.registered, lookup_insert_ite] at hp
        split at hp
        · rename_i hid
          cases hp
          intro hs
          cases hs
          exact ho (.registeredForLater hid.symm)
        · exact h.pending pending hp
  | removed =>
    constructor
    · simp only [removeWithGenerationUpdate, lookup_erase_ite]
      split
      · simp
      · exact h.registered
    · intro pending hp
      simp only [removeWithGenerationUpdate, lookup_erase_ite] at hp
      split at hp
      · cases hp
      · exact h.pending pending hp
  | @scrubbed _ scrubbedId scrub _ hp _ =>
    constructor
    · simp only [Hls.scrubbed, lookup_insert_ite]
      split
      · rename_i hid
        intro hs
        rw [← hid] at hp
        exact h.pending scrub hp (Option.some.inj hs)
      · exact h.registered
    · intro pending hl
      simp only [Hls.scrubbed, lookup_erase_ite] at hl
      split at hl
      · cases hl
      · exact h.pending pending hl
  | @replaced expected replacement _ hcurr =>
    refine ⟨?_, h.pending⟩
    simp only [lookup_insert_ite]
    split
    · rename_i hid
      intro hs
      cases hs
      -- a refresh based on the session itself needs it to be registered
      refine ho (.refreshed hid.symm ?_)
      intro hbase
      have hl := hcurr.1
      rw [← hid, hbase] at hl
      exact h.registered hl
    · exact h.registered
  | unchanged => exact h

variable {handle : HlsPlaybackSessionHandle}

theorem sessionHandle_session (h : sessionHandle inner sessionId = some handle) :
    inner.sessions.lookup sessionId = some handle.session := by
  simp only [sessionHandle, bind_eq_bind, bind_eq_some_iff] at h
  obtain ⟨session, hs, generation, -, hhandle⟩ := h
  cases hhandle
  exact hs

inductive Answers (sessionId : String) (handle : HlsPlaybackSessionHandle) :
    RegistryEvent ε → Prop
  | read {now} : Answers sessionId handle (.read sessionId now (some (some handle)))
  | scrubAndRead {now} : Answers sessionId handle (.scrubAndRead sessionId now (some handle))

theorem answers_session (hst : RegistryStep inner event after)
    (hanswers : Answers sessionId handle event) :
    after.sessions.lookup sessionId = some handle.session := by
  cases hanswers with
  | @read now =>
    generalize hanswer : some (some handle) = answer at hst
    cases hst
    unfold readWithGeneration at hanswer
    split at hanswer
    · cases hanswer
    · exact sessionHandle_session (Option.some.inj hanswer).symm
  | @scrubAndRead now =>
    generalize hanswer : some handle = answer at hst
    cases hst
    exact sessionHandle_session hanswer.symm

theorem gone_unanswered {start : HlsPlaybackRegistryInner}
    (hrun : Run RegistryStep start events inner) (hg : Gone session sessionId start)
    (hos : ∀ event ∈ events, ¬ HandsIn session sessionId event) :
    Gone session sessionId inner ∧
      ∀ handle, ∀ event ∈ events, Answers sessionId handle event → handle.session ≠ session := by
  induction hrun with
  | nil => exact ⟨hg, by simp⟩
  | snoc _ hlast ih =>
    obtain ⟨hb, hearl⟩ := ih (fun event h => hos event (mem_append_left _ h))
    have ha := gone_step hlast (hos _ (by simp)) hb
    refine ⟨ha, ?_⟩
    intro handle event hev hanswers
    rcases mem_append.mp hev with h | h
    · exact hearl handle event h hanswers
    rw [List.mem_singleton.mp h] at hanswers
    intro hs
    have hl := answers_session hlast hanswers
    rw [hs] at hl
    exact ha.registered hl

structure ScrubTakesEffect (inner : HlsPlaybackRegistryInner) (event : RegistryEvent ε)
    (after : HlsPlaybackRegistryInner) (sessionId : String) (session : HlsPlaybackSession)
    (scrub : HlsPlaybackPendingScrub) : Prop where
  step : RegistryStep inner event after
  named : event.Scrubs sessionId
  pending : inner.pendingScrubs.lookup sessionId = some scrub
  registered : inner.sessions.lookup sessionId = some session
  effective : after.pendingScrubs.lookup sessionId = none

theorem ScrubTakesEffect.gone {scrub : HlsPlaybackPendingScrub}
    (h : ScrubTakesEffect inner event after sessionId session scrub)
    (ho : scrub.replacement ≠ session) : Gone session sessionId after := by
  constructor
  · cases registry_step_effect h.step with
    | registered | removed | replaced => exact absurd h.named id
    | @scrubbed _ scrubbedId applied hnamed hp =>
      have hid : scrubbedId = sessionId := by
        have hs := h.named
        cases event with
        | scrubAndRead | scrubGeneration => exact hnamed.symm.trans hs
        | _ => exact absurd hnamed id
      rw [hid, h.pending] at hp
      obtain rfl := Option.some.inj hp
      simp only [Hls.scrubbed, lookup_insert_ite, hid, if_true]
      intro hsame
      exact ho (Option.some.inj hsame)
    | unchanged =>
      have heffective := h.effective
      rw [h.pending] at heffective
      cases heffective
  · rw [h.effective]
    simp

theorem registryValid_of_run (hrun : Run RegistryStep .default events inner) :
    RegistryValid inner :=
  hrun.invariant RegistryValid registryValid_step registryValid_default

theorem generationsGrow_of_run (hrun : Run RegistryStep .default events inner) :
    GenerationsGrow events inner := by
  refine hrun.invariant_history GenerationsGrow generationsGrow_step ?_
  constructor
  · exact List.Pairwise.nil
  · simp [issuedGenerations]
  · intro sessionId
    rfl

/-- The registry's law over every run. -/
theorem registry_generations (hrun : Run RegistryStep .default events inner) :
    inner.sessions.keys = inner.generations.keys ∧
    ((issuedGenerations events).Pairwise (fun a b => a.2 < b.2) ∧
      ∀ sessionId, inner.generations.lookup sessionId = lastGeneration sessionId events) ∧
    (∀ sessionId scrub, inner.pendingScrubs.lookup sessionId = some scrub →
      inner.generations.lookup sessionId = some scrub.generation) ∧
    (∀ expected replacement (persist : Except ε Unit),
      (replaceMediaRequestsIfCurrent inner expected replacement persist).1 ≠ inner ∨
        (replaceMediaRequestsIfCurrent inner expected replacement persist).2.toOption = some true →
      inner.generations.lookup expected.session.id = some expected.generation ∧
        inner.pendingScrubs.lookup expected.session.id = none) ∧
    (∀ expected replacement (error : ε),
      (replaceMediaRequestsIfCurrent inner expected replacement (.error error)).1 = inner) ∧
    (∀ {event after sessionId session scrub} {more : List (RegistryEvent ε)} {later},
      ScrubTakesEffect inner event after sessionId session scrub → scrub.replacement ≠ session →
      Run RegistryStep after more later →
      (∀ event ∈ more, ¬ HandsIn session sessionId event) →
      ∀ handle, ∀ answer ∈ event :: more, Answers sessionId handle answer →
        handle.session ≠ session) := by
  have hvalid := registryValid_of_run hrun
  have hgrow := generationsGrow_of_run hrun
  refine ⟨?_, ⟨hgrow.grow, hgrow.last⟩, hvalid.scrubs, ?_, ?_, ?_⟩
  · ext sessionId
    rw [Finmap.mem_keys, Finmap.mem_keys]
    exact hvalid.sameKeys sessionId
  · intro expected replacement persist hchanged
    rcases replaceMediaRequestsIfCurrent_cases inner expected replacement persist with
      ⟨hsame, hresult⟩ | ⟨-, hcurrent, -, -⟩
    · exact absurd hchanged (not_or.mpr ⟨not_not.mpr hsame, hresult⟩)
    · exact hcurrent.2
  · intro expected replacement error
    rcases replaceMediaRequestsIfCurrent_cases inner expected replacement (.error error) with
      ⟨hsame, -⟩ | ⟨-, -, hpersist, -⟩
    · exact hsame
    · cases hpersist
  · intro event after sessionId session scrub more later heffect hother hmore hothers handle answer
      hanswer hanswers
    have hgone := heffect.gone hother
    rcases mem_cons.mp hanswer with rfl | hlater
    · intro hsame
      have hlookup := answers_session heffect.step hanswers
      rw [hsame] at hlookup
      exact hgone.registered hlookup
    · exact (gone_unanswered hmore hgone hothers).2 handle answer hlater hanswers

def dueScrub : HlsPlaybackRegistryInner :=
  registered .default (sampleSession "session" "https://cdn/a")
    (some (sampleSession "session" "https://cdn/b", 0)) 1

theorem registry_generations_scrub_due :
    ¬ Answers "session" ⟨sampleSession "session" "https://cdn/a", 1⟩
      (.scrubAndRead "session" 0 (scrubAndRead dueScrub "session" 0).2 : RegistryEvent Unit) := by
  have hstep : RegistryStep .default
      (.register (sampleSession "session" "https://cdn/a")
        (some (sampleSession "session" "https://cdn/b", 0)) 1 : RegistryEvent Unit) dueScrub :=
    .registerWithScrub rfl
  have hpending : dueScrub.pendingScrubs.lookup "session" =
      some ⟨1, 0, sampleSession "session" "https://cdn/b"⟩ := lookup_insert _
  have hgeneration : dueScrub.generations.lookup "session" = some 1 := lookup_insert _
  have heffect : ScrubTakesEffect dueScrub
      (.scrubAndRead "session" 0 (scrubAndRead dueScrub "session" 0).2 : RegistryEvent Unit)
      (scrubAndRead dueScrub "session" 0).1 "session" (sampleSession "session" "https://cdn/a")
      ⟨1, 0, sampleSession "session" "https://cdn/b"⟩ := by
    refine ⟨.scrubAndRead, rfl, hpending, lookup_insert _, ?_⟩
    simp [scrubAndRead, scrubExpiredSession, applyPendingScrub, hpending, hgeneration,
      lookup_erase]
  intro hanswers
  exact (registry_generations (Run.single hstep)).2.2.2.2.2 heffect (by decide) (Run.nil _)
    (by simp) _ _ (mem_singleton_self _) hanswers rfl

end NetPlayer.Hls
